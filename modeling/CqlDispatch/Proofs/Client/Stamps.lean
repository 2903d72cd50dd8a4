import CqlDispatch.Proofs.Client.Sending
import CqlDispatch.Proofs.Client.Strides
import CqlDispatch.Proofs.Request.Stamps
import CqlDispatch.Proofs.Timestamp
/-!
# Timestamps of a client

The requests of a client draw the timestamps of its generator one by one, in the order in which they start, and each
keeps the one it has for all its attempts (`one_timestamp_each`).  The generator stands where the requests that drew
have left it (`Stamped`): nothing else draws, and no request twice.
-/
namespace CqlDispatch

theorem filter_set_map {α β : Type} {d : α → Bool} {f : α → β} {x y : α} (hd : d y = d x) (hf : f y = f x) :
    ∀ {l : List α} {k : Nat}, l[k]? = some x → ((l.set k y).filter d).map f = (l.filter d).map f
  | z :: l, 0, found => by
    obtain rfl := Option.some.inj found
    simp only [List.set_cons_zero, List.filter_cons, hd]
    split
    · rw [List.map_cons, List.map_cons, hf]
    · rfl
  | z :: l, k + 1, found => by
    have rest := filter_set_map hd hf (l := l) (k := k) found
    simp only [List.set_cons_succ, List.filter_cons]
    split
    · rw [List.map_cons, List.map_cons, rest]
    · exact rest

/-- A request carries its timestamp, which is the explicit one where there is one; with no host it sends nothing. -/
structure Request.Stamped (r : Request) : Prop where
  carries : r.Carries
  hostless : taken r.events = [] → r.isLive = false ∧ attempts r.events = []
  explicit : ∀ t, r.options.timestamp = some t → taken r.events ≠ [] → r.timestamp = some t

namespace Client

/-- The requests that took their timestamps from the generator, in the order in which they started. -/
def drawing (c : Client) : List Request := c.requests.filter (·.draws)

/-- The generator gave its timestamps to these requests and to nobody else. -/
structure Stamped (source : Timestamps) (c : Client) : Prop where
  each : ∀ r ∈ c.requests, r.Stamped
  drawn : c.drawing.map (·.timestamp) = (source.stamps c.drawing.length).map some
  left : c.shared.timestamps = some (source.after c.drawing.length)

variable {source : Timestamps} {c c' c₀ : Client} {act : Action}

/-- A move draws nothing. -/
theorem Stamped.moves (k : Stamped source c) {n : Nat} {q : Request} {m : Request.Move} {out : Shared × Request}
    (found : c.request? n = some q) (live : q.isLive = true) (moved : q.move? c.policies c.shared m = some out) :
    Stamped source (c.putBack n q.trace.length out) := by
  obtain ⟨same, timestamps⟩ := Request.move_same moved
  have stamped := k.each q (List.mem_of_getElem? found)
  have hosts : Request.taken q.events ≠ [] := fun none => by
    rw [(stamped.hostless none).1] at live
    cases live
  have hosts' : Request.taken out.2.events ≠ [] := fun none =>
    hosts (List.eq_nil_of_suffix_nil (none ▸ same.taken))
  have draws : out.2.draws = q.draws := by
    unfold Request.draws
    rw [same.options, List.isEmpty_eq_false_iff.2 hosts, List.isEmpty_eq_false_iff.2 hosts']
  have drawn : (c.putBack n q.trace.length out).drawing.map (·.timestamp) = c.drawing.map (·.timestamp) :=
    filter_set_map (f := fun r : Request => r.timestamp) draws same.timestamp found
  have length : (c.putBack n q.trace.length out).drawing.length = c.drawing.length := by
    rw [← List.length_map (fun r : Request => r.timestamp), drawn, List.length_map]
  refine ⟨fun r hr => ?_, drawn.trans (length ▸ k.drawn), timestamps.trans (length ▸ k.left)⟩
  rcases List.mem_or_eq_of_mem_set hr with hr | rfl
  · exact k.each r hr
  · refine ⟨(Request.move_strides moved).keeps (I := fun g => g.request.Carries) (fun k stride => stride.carries k)
      stamped.carries, fun none => absurd none hosts', fun t explicit _ => ?_⟩
    rw [same.timestamp]
    exact stamped.explicit t (same.options ▸ explicit) hosts

/-- A request that has just started and draws nothing. -/
theorem Stamped.joined (k : Stamped source c) {r : Request} (stamped : r.Stamped) (quiet : r.draws = false)
    (requests : c'.requests = c.requests ++ [r]) (timestamps : c'.shared.timestamps = c.shared.timestamps) :
    Stamped source c' := by
  have drawing : c'.drawing = c.drawing := by
    unfold Client.drawing
    rw [requests, List.filter_append, List.filter_singleton, quiet]
    exact List.append_nil _
  refine ⟨fun q hq => ?_, drawing ▸ k.drawn, timestamps.trans (drawing ▸ k.left)⟩
  rw [requests, List.mem_append, List.mem_singleton] at hq
  rcases hq with hq | rfl
  · exact k.each q hq
  · exact stamped

/-- A request that has just started and took the next timestamp. -/
theorem Stamped.drew (k : Stamped source c) {r : Request} (stamped : r.Stamped) (draws : r.draws = true)
    (requests : c'.requests = c.requests ++ [r])
    (next : (r.timestamp, c'.shared.timestamps) = Request.stamp none c.shared.timestamps) : Stamped source c' := by
  have drawing : c'.drawing = c.drawing ++ [r] := by
    unfold Client.drawing
    rw [requests, List.filter_append, List.filter_singleton, draws]
    rfl
  have length : c'.drawing.length = c.drawing.length + 1 := by rw [drawing, List.length_append, List.length_singleton]
  rw [k.left] at next
  obtain ⟨timestamp, timestamps⟩ := Prod.mk.inj next
  refine ⟨fun q hq => ?_, ?_, by rw [timestamps, length]; rfl⟩
  · rw [requests, List.mem_append, List.mem_singleton] at hq
    rcases hq with hq | rfl
    · exact k.each q hq
    · exact stamped
  · rw [length, drawing, List.map_append, k.drawn, Timestamps.stamps, List.map_append, List.map_singleton, timestamp]
    rfl

/-- **A request that starts draws at most once.** -/
theorem Stamped.submit (k : Stamped source c) (statement : Statement) (options : ExecutionOptions) :
    Stamped source (c.submit statement options) := by
  obtain ⟨kept, carries, drew⟩ := Request.start_stamped c.policies c.shared statement options
  have requests := requests_submit c statement options
  generalize hstart : Request.start c.policies c.shared statement options = out at kept carries drew requests
  have hshared : (c.submit statement options).shared = out.1 := congrArg Prod.fst hstart
  rcases drew with hostless | ⟨some', stamped⟩
  · have stamped : out.2.Stamped := ⟨carries, fun _ => ⟨hostless.ended, hostless.sent⟩, fun _ _ hosts =>
      absurd hostless.hosts hosts⟩
    refine k.joined stamped ?_ requests (hshared ▸ hostless.timestamps)
    unfold Request.draws
    rw [hostless.hosts, Bool.and_eq_false_iff]
    exact .inr rfl
  · have draws : out.2.draws = options.timestamp.isNone := by
      unfold Request.draws
      rw [List.isEmpty_eq_false_iff.2 some', kept, Bool.not_false, Bool.and_true]
    cases explicit : options.timestamp with
    | some t =>
      rw [explicit] at stamped draws
      obtain ⟨timestamp, timestamps⟩ := Prod.mk.inj stamped
      refine k.joined ⟨carries, fun none => absurd none some', fun t' ht' _ => ?_⟩ draws requests (hshared ▸ timestamps)
      rw [kept, explicit] at ht'
      exact timestamp.trans ht'
    | none =>
      rw [explicit] at stamped draws
      refine k.drew ⟨carries, fun none => absurd none some', fun t' ht' _ => ?_⟩ draws requests (hshared ▸ stamped)
      rw [kept, explicit] at ht'
      cases ht'

theorem Stamped.step (k : Stamped source c) (h : c.step? act = some c') : Stamped source c' := by
  cases step?_acts h with
  | submits statement options => exact k.submit statement options
  | moves found live moved => exact k.moves found live moved
  | elsewhere requests timestamps =>
    have drawing : c'.drawing = c.drawing := congrArg (List.filter Request.draws) requests
    exact ⟨requests ▸ k.each, drawing ▸ k.drawn, timestamps.trans (drawing ▸ k.left)⟩

/-- **One timestamp for each request.**  All its attempts carry the same, which is the explicit one where there is one.
The requests that were given none and have a host take those of the generator, one each in the order in which they
start, nothing else takes any, and each is less than all later ones as long as it is not the greatest number. -/
theorem one_timestamp_each {policies : Policies} {defaults : QueryDefaults} {limits : Limits} {contacts : List Address}
    {report : Except Failure (List Translated)} {actions : List Action} (generates : policies.timestamps = some source)
    (connected : connect policies defaults limits contacts report = .ok c₀) (ran : c₀.run? actions = some c) :
    (∀ r ∈ c.requests, ∀ a ∈ Request.attempts r.events, a.timestamp = r.timestamp ∧
      ∀ t, r.options.timestamp = some t → a.timestamp = some t) ∧
    c.drawing.map (·.timestamp) = (source.stamps c.drawing.length).map some ∧
    c.shared.timestamps = some (source.after c.drawing.length) ∧
    c.drawing.Pairwise fun q r => ∀ x y, q.timestamp = some x → r.timestamp = some y → x < Micros.greatest → x < y := by
  have requests : c₀.requests = [] := by rw [connect_eq connected]; rfl
  have drawing : c₀.drawing = [] := congrArg (List.filter Request.draws) requests
  have timestamps : c₀.shared.timestamps = some source := by rw [connect_eq connected]; exact generates
  have first : Stamped source c₀ := by
    refine ⟨fun r hr => ?_, by rw [drawing]; rfl, by rw [drawing]; exact timestamps⟩
    rw [requests] at hr
    cases hr
  have k : Stamped source c := run?_invariant (I := Stamped source) (fun i h => i.step h) first ran
  refine ⟨fun r hr a ha => ?_, k.drawn, k.left, ?_⟩
  · have stamped := k.each r hr
    have same := stamped.carries a ha
    refine ⟨same, fun t explicit => same.trans (stamped.explicit t explicit fun none => ?_)⟩
    rw [(stamped.hostless none).2] at ha
    cases ha
  · have increasing : (c.drawing.map (·.timestamp)).Pairwise fun s t => ∀ x y, s = some x → t = some y →
        x < Micros.greatest → x < y := by
      rw [k.drawn]
      refine List.pairwise_map.2 ((source.stamps_increasing _).imp fun {x y} less x' y' hx hy below => ?_)
      obtain rfl := Option.some.inj hx
      obtain rfl := Option.some.inj hy
      exact less below
    exact List.pairwise_map.1 increasing

/-- Reads are retried on the same host and hedged, and the clock goes back after its first reading. -/
def stamping : Policies :=
  { balancer := .roundRobin none 0, speculation := .constant (.ofMillis 5) 1
    retry := .custom fun _ _ _ => .retry none true, timestamps := some { clock := ⟨[50, 7, 3]⟩ } }

/-- The first read is sent four times by two executions, the second has a timestamp of its own, the third none. -/
def stampedReads : List Action :=
  let options := { ({} : QueryDefaults).options with idempotent := true }
  [.submit { query := "SELECT" } options, .elapse 5, .speculate 0, .answer 0 0 (.error (.connection "reset")),
    .answer 0 1 (.error (.connection "reset")), .submit { query := "SELECT" } { options with timestamp := some 9 },
    .submit { query := "SELECT" } options]

theorem reads_stamped_once : ∃ c₀ c, connect stamping {} {} [] (.ok twoPeers) = .ok c₀ ∧ c₀.run? stampedReads = some c ∧
    (c.requests.map fun r => (Request.attempts r.events).map (·.timestamp)) =
      [[some 50, some 50, some 50, some 50], [some 9], [some 51]] ∧
    c.drawing.map (·.timestamp) = [some 50, some 51] ∧
    c.drawing.Pairwise fun q r => ∀ x y, q.timestamp = some x → r.timestamp = some y → x < Micros.greatest → x < y := by
  have run : ∃ c₀ ∈ (connect stamping {} {} [] (.ok twoPeers)).toOption, ∃ c ∈ c₀.run? stampedReads,
      (c.requests.map fun r => (Request.attempts r.events).map (·.timestamp)) =
        [[some 50, some 50, some 50, some 50], [some 9], [some 51]] ∧
      c.drawing.map (·.timestamp) = [some 50, some 51] := by
    decide +kernel
  obtain ⟨c₀, connected, c, ran, sent, drawn⟩ := run
  exact ⟨c₀, c, connect_of_mem connected, ran, sent, drawn,
    (one_timestamp_each (show stamping.timestamps = some _ from rfl) (connect_of_mem connected) ran).2.2.2⟩

end Client

end CqlDispatch
