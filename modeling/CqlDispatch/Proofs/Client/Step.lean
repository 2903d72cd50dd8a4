import CqlDispatch.Proofs.Cluster.Change
import CqlDispatch.Proofs.Reconnector.Series
import CqlDispatch.Proofs.Request.Run
/-!
# Steps of a client

What a step of a client is to its cluster and its reconnector (`step?_effect`).  Requests ask the
cluster for a plan and change nothing else of it; the connection layer, topology reports and added
hosts change the cluster by its operations; the reconnector changes by turns of its listener and by
steps of single series (`SeriesStep`).
-/
namespace CqlDispatch

/-! ## Requests -/

namespace Request

/-- Every change that a request makes to what requests share keeps this: an execution gives up what it waits with,
asks for a slot at a host that is up, or looks again, and a timestamp is drawn. -/
structure Kept (I : Shared → Prop) : Prop where
  dropped : ∀ {s} (p : Phase), I s → I (s.dropPhase p)
  asked : ∀ {s h}, I s → s.isUp h = true → I { s with admission := (s.admission.acquire (s.host h).address).2.2 }
  looked : ∀ {s} (a : Address) (t : Ticket), I s → I { s with admission := (s.admission.resume a t).2 }
  stamped : ∀ {s} (source : Option Timestamps), I s → I { s with timestamps := source }

namespace Kept

variable {I : Shared → Prop} (kept : Kept I) {s : Shared} (holds : I s)
include kept

theorem dropAll : ∀ (l : List Execution) {s : Shared}, I s → I (l.foldl (fun s e => s.dropPhase e.phase) s)
  | [], _, holds => holds
  | e :: l, _, holds => dropAll l (kept.dropped e.phase holds)

include holds

theorem finish (r : Request) (o : Outcome) : I (r.finish s o).1 := kept.dropAll r.latestFirst holds

theorem lose (r : Request) (o : Overflow) : I (r.lose s o).1 := kept.dropAll r.latestFirst holds

theorem exhaust (r : Request) : I (r.exhaust s).1 := by
  unfold Request.exhaust
  split
  · exact kept.finish holds r _
  · exact holds

theorem proceed (r : Request) (index : Nat) (c : Consistency) (current : Option HostId) :
    I (r.proceed s index c current).1 := by
  refine SearchKeeps.proceed (L := fun _ s _ => I s) (Q := fun out => I out.1) ?_ holds
  have asked : ∀ {s : Shared} {h t answer admission}, I s → s.isUp h = true →
      s.admission.acquire (s.host h).address = (t, answer, admission) → I { s with admission := admission } := by
    intro s h t answer admission holds up he
    have asked := kept.asked holds up
    rwa [he] at asked
  exact {
    pulled := fun holds _ => holds
    dry := fun holds _ => kept.exhaust holds _
    down := fun holds _ => holds
    refused := asked
    queued := asked
    granted := asked
    overflow := fun holds up he => kept.lose (asked holds up he) _ _ }

theorem afterFailure (p : Policies) (r : Request) (e : Execution) (h : HostId) (a : Address) (f : Failure) :
    I (r.afterFailure p s e h a f).1 := by
  unfold Request.afterFailure
  split
  · dsimp only
    split
    · exact kept.proceed holds _ _ _ _
    · exact kept.finish holds _ _
    · exact kept.finish holds _ _
  · split
    · exact kept.proceed holds _ _ _ _
    · exact kept.finish holds _ _

theorem answer (p : Policies) (r : Request) (index : Nat) (ans : Answer) : I (r.answer p s index ans).1 := by
  unfold Request.answer
  split
  · split
    · dsimp only
      split
      · exact kept.finish (kept.dropped _ holds) _ _
      · exact kept.afterFailure (kept.dropped _ holds) p _ _ _ _ _
    · exact holds
  · exact holds

theorem resume (r : Request) (index : Nat) : I (r.resume s index).1 := by
  unfold Request.resume
  split
  · split
    · rename_i a t _
      dsimp only
      split
      · exact kept.looked a t holds
      · exact kept.looked a t holds
      · exact kept.proceed (kept.looked a t holds) _ _ _ _
    · exact holds
  · exact holds

theorem speculate (p : Policies) (r : Request) : I (r.speculate p s).1 :=
  speculate_rule (Q := fun out => I out.1) (fun _ => holds) (fun _ _ => kept.proceed holds _ _ _ _)
    fun _ _ => kept.lose holds _ _

theorem startOn (p : Policies) (statement : Statement) (options : ExecutionOptions) (plan : Plan) :
    I (Request.startOn p s statement options plan).1 := by
  refine start_rule (Q := fun out => I out.1) (fun _ => kept.finish holds _ _) ?begun ?lost
  case begun =>
    rintro _ h rest next - rfl -
    exact kept.proceed (kept.stamped _ holds) _ _ _ _
  case lost =>
    rintro _ h rest o - rfl -
    exact kept.lose (kept.stamped _ holds) _ _

omit holds in
/-- A start keeps it, if it holds once the plan was asked for. -/
theorem start (p : Policies) (statement : Statement) (options : ExecutionOptions)
    (planned : I { s with cluster := (s.cluster.plan options.keyspace options).2 }) :
    I (Request.start p s statement options).1 := by
  rcases start_cases p s statement options with ⟨-, he⟩ | ⟨o, -, he⟩
  · exact he ▸ kept.startOn planned p statement options _
  · exact he ▸ kept.lose planned _ o

/-- **A move keeps it.** -/
theorem move {p : Policies} {r : Request} {m : Move} {out : Shared × Request} (hm : r.move? p s m = some out) :
    I out.1 := by
  refine (move_rule (Q := fun out => I out.1) hm ?_ ?_ ?_ ?_ ?_).2
  · exact fun _ _ _ => kept.answer holds p r _ _
  · exact fun _ _ _ => kept.resume holds r _
  · exact fun _ _ => kept.speculate holds p r
  · exact fun _ => kept.finish holds r _
  · exact fun _ => kept.finish holds r _

end Kept

/-- What is read of the things that requests share, but for the admission and the timestamps. -/
structure Apart {α : Type} (g : Shared → α) : Prop where
  admission : ∀ s admission, g { s with admission := admission } = g s
  timestamps : ∀ s timestamps, g { s with timestamps := timestamps } = g s

theorem apart_cluster : Apart Shared.cluster := ⟨fun _ _ => rfl, fun _ _ => rfl⟩

theorem apart_now : Apart Shared.now := ⟨fun _ _ => rfl, fun _ _ => rfl⟩

namespace Apart

variable {α : Type} {g : Shared → α} (apart : Apart g)
include apart

theorem dropPhase (s : Shared) (p : Phase) : g (s.dropPhase p) = g s := by
  cases p <;> exact apart.admission _ _

theorem kept (s : Shared) : Kept fun s' => g s' = g s where
  dropped p h := (apart.dropPhase _ p).trans h
  asked h _ := (apart.admission _ _).trans h
  looked _ _ h := (apart.admission _ _).trans h
  stamped _ h := (apart.timestamps _ _).trans h

theorem finish (s : Shared) (r : Request) (o : Outcome) : g (r.finish s o).1 = g s := (apart.kept s).finish rfl r o

theorem answer (p : Policies) (s : Shared) (r : Request) (index : Nat) (ans : Answer) :
    g (r.answer p s index ans).1 = g s := (apart.kept s).answer rfl p r index ans

theorem resume (s : Shared) (r : Request) (index : Nat) : g (r.resume s index).1 = g s := (apart.kept s).resume rfl r index

theorem speculate (p : Policies) (s : Shared) (r : Request) : g (r.speculate p s).1 = g s :=
  (apart.kept s).speculate rfl p r

end Apart

theorem cluster_start (p : Policies) (s : Shared) (statement : Statement) (options : ExecutionOptions) :
    (start p s statement options).1.cluster = (s.cluster.plan options.keyspace options).2 :=
  (apart_cluster.kept { s with cluster := (s.cluster.plan options.keyspace options).2 }).start p statement options rfl

theorem now_start (p : Policies) (s : Shared) (statement : Statement) (options : ExecutionOptions) :
    (start p s statement options).1.now = s.now := (apart_now.kept s).start p statement options rfl

end Request

/-! ## Series -/

namespace Client

/-- A step of the series `s` of this number, and what it makes of the series, of the addresses whose
schedule ran out, and of the cluster. -/
inductive SeriesStep (c : Client) (n : Nat) (s : Series) :
    Action → Series → List Address → Cluster → Prop
  | begins {delay rest} (created : s.phase = .created) (next : s.schedule.next = some (delay, rest)) :
    SeriesStep c n s (.beginSeries n)
      { s with schedule := rest, phase := .waiting (c.now + delay.sleepTicks) }
      c.reconnector.exhausted (c.shared.cluster.startReconnecting s.address).2
  | beginsDry (created : s.phase = .created) (dry : s.schedule.next = none) :
    SeriesStep c n s (.beginSeries n) { s with phase := .over }
      (s.address :: c.reconnector.exhausted.filter (· != s.address))
      ((c.shared.cluster.startReconnecting s.address).2.markDown s.address "reconnection schedule exhausted").2
  | wakes {wake} (waiting : s.phase = .waiting wake) (due : wake ≤ c.now)
      (known : (c.registry.host s.host).state ≠ .removed) :
    SeriesStep c n s (.wakeSeries n) { s with phase := .probing, probes := s.probes + 1 }
      c.reconnector.exhausted c.shared.cluster
  | wakesRemoved {wake} (waiting : s.phase = .waiting wake) (due : wake ≤ c.now)
      (gone : (c.registry.host s.host).state = .removed) :
    SeriesStep c n s (.wakeSeries n) { s with phase := .over } c.reconnector.exhausted c.shared.cluster
  | succeeds {u} (probing : s.phase = .probing) :
    SeriesStep c n s (.probed n (.ok u)) { s with phase := .over } c.reconnector.exhausted
      (c.shared.cluster.markUp s.address).2
  | fails {f delay rest} (probing : s.phase = .probing) (next : s.schedule.next = some (delay, rest)) :
    SeriesStep c n s (.probed n (.error f))
      { s with schedule := rest, phase := .waiting (c.now + delay.sleepTicks) }
      c.reconnector.exhausted c.shared.cluster
  | failsDry {f} (probing : s.phase = .probing) (dry : s.schedule.next = none) :
    SeriesStep c n s (.probed n (.error f)) { s with phase := .over }
      (s.address :: c.reconnector.exhausted.filter (· != s.address))
      (c.shared.cluster.markDown s.address "reconnection schedule exhausted").2
  | quits (begun : s.phase ≠ .created) (running : s.phase ≠ .over)
      (cancelled : c.reconnector.isCancelled s = true) :
    SeriesStep c n s (.quitSeries n) { s with phase := .over } c.reconnector.exhausted c.shared.cluster

/-- A series keeps its host and its address, only one that is not over takes a step, and none of its
steps cancels it. -/
theorem SeriesStep.keeps {c : Client} {n : Nat} {s s' : Series} {act : Action} {exhausted : List Address}
    {cluster : Cluster} (step : SeriesStep c n s act s' exhausted cluster) :
    s.phase ≠ .over ∧ s'.host = s.host ∧ s'.address = s.address ∧ s'.cancelled = s.cancelled := by
  have busy : ∀ {p : SeriesPhase}, s.phase = p → p ≠ .over → s.phase ≠ .over := fun he hp => he ▸ hp
  cases step with
  | begins created next => exact ⟨busy created SeriesPhase.noConfusion, rfl, rfl, rfl⟩
  | beginsDry created dry => exact ⟨busy created SeriesPhase.noConfusion, rfl, rfl, rfl⟩
  | wakes waiting due known => exact ⟨busy waiting SeriesPhase.noConfusion, rfl, rfl, rfl⟩
  | wakesRemoved waiting due gone => exact ⟨busy waiting SeriesPhase.noConfusion, rfl, rfl, rfl⟩
  | succeeds probing => exact ⟨busy probing SeriesPhase.noConfusion, rfl, rfl, rfl⟩
  | fails probing next => exact ⟨busy probing SeriesPhase.noConfusion, rfl, rfl, rfl⟩
  | failsDry probing dry => exact ⟨busy probing SeriesPhase.noConfusion, rfl, rfl, rfl⟩
  | quits begun running cancelled => exact ⟨running, rfl, rfl, rfl⟩

theorem SeriesStep.changes {c : Client} {n : Nat} {s s' : Series} {act : Action} {exhausted : List Address}
    {cluster : Cluster} (step : SeriesStep c n s act s' exhausted cluster) :
    Cluster.Changes c.shared.cluster cluster := by
  cases step with
  | begins created next => exact Cluster.startReconnecting_changes _ _
  | beginsDry created dry =>
    exact (Cluster.startReconnecting_changes _ _).trans (Cluster.markDown_changes _ _ _)
  | wakes waiting due known => exact .refl
  | wakesRemoved waiting due gone => exact .refl
  | succeeds probing => exact Cluster.markUp_changes _ _
  | fails probing next => exact .refl
  | failsDry probing dry => exact Cluster.markDown_changes _ _ _
  | quits begun running cancelled => exact .refl

/-! ## Steps -/

/-- What the reconnector does of its own. -/
def Action.isOfReconnector : Action → Bool
  | .hear | .beginSeries _ | .wakeSeries _ | .probed _ _ | .quitSeries _ | .shutdown => true
  | _ => false

/-- What an action makes of the reconnector and the cluster. -/
inductive Effect (c : Client) : Action → Reconnector → Cluster → Prop
  | elsewhere {act cluster} (apart : act.isOfReconnector = false)
      (changes : Cluster.Changes c.shared.cluster cluster) : Effect c act c.reconnector cluster
  | hears (news : c.reconnector.hasNews c.registry = true) :
    Effect c .hear (c.reconnector.hear c.policies.backoff c.registry) c.shared.cluster
  | series {act n s s' exhausted cluster} (found : c.reconnector.series? n = some s)
      (step : SeriesStep c n s act s' exhausted cluster) :
    Effect c act
      { c.reconnector with series := c.reconnector.series.set n s', exhausted := exhausted } cluster
  | stops : Effect c .shutdown c.reconnector.stop c.shared.cluster

theorem Effect.changes {c : Client} {act : Action} {w : Reconnector} {cluster : Cluster}
    (effect : Effect c act w cluster) : Cluster.Changes c.shared.cluster cluster := by
  cases effect with
  | elsewhere apart changes => exact changes
  | hears news => exact .refl
  | series found step => exact step.changes
  | stops => exact .refl

theorem cluster_report (c : Client) (e : ConnectionEvent) :
    (c.report e).shared.cluster = c.shared.cluster.applyEvent e := by
  cases e <;> rfl

theorem reconnector_report (c : Client) (e : ConnectionEvent) : (c.report e).reconnector = c.reconnector := by
  cases e <;> rfl

/-- One request took a step of its own, and was live. -/
theorem onRequest?_eq_some {c c' : Client} {n : Nat} {f : Shared → Request → Option (Shared × Request)}
    (h : c.onRequest? n f = some c') :
    ∃ r out, c.request? n = some r ∧ r.isLive = true ∧ f c.shared r = some out ∧
      c' = c.putBack n r.trace.length out := by
  simp only [onRequest?, Option.bind_eq_bind, Option.bind_eq_some_iff] at h
  obtain ⟨r, hr, h⟩ := h
  split at h
  · rename_i live
    obtain ⟨out, hout, h⟩ := Option.bind_eq_some_iff.1 h
    cases h
    exact ⟨r, out, hr, live, hout, rfl⟩
  · cases h

theorem onRequest?_effect {c c' : Client} {act : Action} {n : Nat}
    {f : Shared → Request → Option (Shared × Request)} (apart : act.isOfReconnector = false)
    (hf : ∀ r out, f c.shared r = some out → out.1.cluster = c.shared.cluster)
    (h : c.onRequest? n f = some c') : Effect c act c'.reconnector c'.shared.cluster := by
  obtain ⟨r, out, -, -, hout, rfl⟩ := onRequest?_eq_some h
  show Effect c act c.reconnector out.1.cluster
  rw [hf r out hout]
  exact .elsewhere apart .refl

theorem onRequest?_effect_if {c c' : Client} {act : Action} {n : Nat} {p : Shared → Request → Prop}
    [∀ s r, Decidable (p s r)] {f : Shared → Request → Shared × Request} (apart : act.isOfReconnector = false)
    (hf : ∀ s r, (f s r).1.cluster = s.cluster)
    (h : c.onRequest? n (fun s r => if p s r then some (f s r) else none) = some c') :
    Effect c act c'.reconnector c'.shared.cluster := by
  refine onRequest?_effect apart (fun r out hout => ?_) h
  simp only [Option.ite_none_right_eq_some, Option.some.injEq] at hout
  rw [← hout.2]
  exact hf c.shared r

theorem beginSeries_effect {c : Client} {n : Nat} {s : Series} (found : c.reconnector.series? n = some s)
    (created : s.phase = .created) :
    Effect c (.beginSeries n) (c.reconnector.beginSeries c.shared.cluster c.now n).1
      (c.reconnector.beginSeries c.shared.cluster c.now n).2 := by
  unfold Reconnector.beginSeries
  simp only [found, created, if_true]
  unfold Reconnector.nextDelay
  cases hnext : s.schedule.next with
  | some next =>
    obtain ⟨delay, rest⟩ := next
    have hs := SeriesStep.begins (c := c) (n := n) created hnext
    simpa only [Reconnector.change, Reconnector.modify_eq_set found] using Effect.series found hs
  | none =>
    have hs := SeriesStep.beginsDry (c := c) (n := n) created hnext
    simpa only [Reconnector.setPhase, Reconnector.change, Reconnector.modify_eq_set found] using Effect.series found hs

theorem probed_effect {c : Client} {n : Nat} {s : Series} {answer : Except Failure Unit}
    (found : c.reconnector.series? n = some s) (probing : s.phase = .probing) :
    Effect c (.probed n answer) (c.reconnector.probed c.shared.cluster c.now n answer).1
      (c.reconnector.probed c.shared.cluster c.now n answer).2 := by
  unfold Reconnector.probed
  simp only [found, probing, if_true]
  cases answer with
  | ok u =>
    have hs := SeriesStep.succeeds (c := c) (n := n) (u := u) probing
    simpa only [Reconnector.setPhase, Reconnector.change, Reconnector.modify_eq_set found] using Effect.series found hs
  | error f =>
    unfold Reconnector.nextDelay
    cases hnext : s.schedule.next with
    | some next =>
      obtain ⟨delay, rest⟩ := next
      have hs := SeriesStep.fails (c := c) (n := n) (f := f) probing hnext
      simpa only [Reconnector.change, Reconnector.modify_eq_set found] using Effect.series found hs
    | none =>
      have hs := SeriesStep.failsDry (c := c) (n := n) (f := f) probing hnext
      simpa only [Reconnector.setPhase, Reconnector.change, Reconnector.modify_eq_set found] using
        Effect.series found hs

theorem wakeSeries_effect {c : Client} {n wake : Nat} {s : Series}
    (found : c.reconnector.series? n = some s) (waiting : s.phase = .waiting wake) (due : wake ≤ c.now) :
    Effect c (.wakeSeries n) (c.reconnector.wakeSeries c.registry c.now n).2 c.shared.cluster := by
  unfold Reconnector.wakeSeries
  simp only [found, waiting, Nat.not_lt.2 due, if_false]
  by_cases hgone : (c.registry.host s.host).state = .removed
  · rw [if_pos hgone]
    have hs := SeriesStep.wakesRemoved (n := n) waiting due hgone
    simpa only [Reconnector.setPhase, Reconnector.change, Reconnector.modify_eq_set found] using Effect.series found hs
  · rw [if_neg hgone]
    have hs := SeriesStep.wakes (n := n) waiting due hgone
    simpa only [Reconnector.change, Reconnector.modify_eq_set found] using Effect.series found hs

theorem quitSeries_effect {c : Client} {n : Nat} {s : Series} (found : c.reconnector.series? n = some s)
    (begun : s.phase ≠ .created) (running : s.phase ≠ .over) (cancelled : c.reconnector.isCancelled s = true) :
    Effect c (.quitSeries n) (c.reconnector.quitSeries n) c.shared.cluster := by
  unfold Reconnector.quitSeries
  have hs := SeriesStep.quits (n := n) begun running cancelled
  simp only [found, cancelled, Bool.true_and, bne_iff_ne, ne_eq, begun, not_false_eq_true, if_true]
  simpa only [Reconnector.setPhase, Reconnector.change, Reconnector.modify_eq_set found] using Effect.series found hs

/-- **What an action makes of the reconnector and the cluster.** -/
theorem step?_effect {c c' : Client} {act : Action} (h : c.step? act = some c') :
    Effect c act c'.reconnector c'.shared.cluster := by
  cases act with
  | submit statement options =>
    cases h
    show Effect c _ c.reconnector (Request.start c.policies c.shared statement options).1.cluster
    rw [Request.cluster_start]
    exact .elsewhere rfl (.single .planned)
  | answer n e a =>
    rw [step?] at h
    exact onRequest?_effect_if rfl (fun s r => Request.apart_cluster.answer c.policies s r e a) h
  | resume n e =>
    rw [step?] at h
    exact onRequest?_effect_if rfl (fun s r => Request.apart_cluster.resume s r e) h
  | speculate n =>
    rw [step?] at h
    exact onRequest?_effect_if rfl (Request.apart_cluster.speculate c.policies) h
  | expire n =>
    rw [step?] at h
    exact onRequest?_effect_if rfl (fun s r => Request.apart_cluster.finish s r _) h
  | cancel n =>
    rw [step?] at h
    refine onRequest?_effect rfl (fun r out hout => ?_) h
    cases hout
    exact Request.apart_cluster.finish _ _ _
  | report e =>
    cases h
    rw [cluster_report, reconnector_report]
    exact .elsewhere rfl (Cluster.applyEvent_changes _ e)
  | refresh report =>
    cases h
    exact .elsewhere rfl (Cluster.applyTopology_changes _ _)
  | addHost a =>
    cases h
    exact .elsewhere rfl (Cluster.add_changes _ _ _)
  | setReplicationFactor keyspace factor =>
    cases h
    exact .elsewhere rfl (.registry .replicated)
  | hear =>
    simp only [step?, Option.ite_none_right_eq_some, Option.some.injEq] at h
    obtain ⟨hnews, rfl⟩ := h
    exact .hears hnews
  | beginSeries n =>
    obtain ⟨s, found, h⟩ := Option.bind_eq_some_iff.1 h
    simp only [Option.pure_def, Option.ite_none_right_eq_some, Option.some.injEq] at h
    obtain ⟨created, rfl⟩ := h
    exact beginSeries_effect found created
  | wakeSeries n =>
    obtain ⟨s, found, h⟩ := Option.bind_eq_some_iff.1 h
    split at h
    · rename_i wake waiting
      split at h
      · rename_i hgo
        have hw := wakeSeries_effect found waiting hgo
        revert h hw
        cases c.reconnector.wakeSeries c.registry c.now n with
        | mk probe w =>
          intro h hw
          cases probe <;> cases h <;> exact hw
      · cases h
    · cases h
  | probed n answer =>
    obtain ⟨s, found, h⟩ := Option.bind_eq_some_iff.1 h
    simp only [Option.pure_def, Option.ite_none_right_eq_some, Option.some.injEq] at h
    obtain ⟨probing, rfl⟩ := h
    exact probed_effect found probing
  | quitSeries n =>
    obtain ⟨s, found, h⟩ := Option.bind_eq_some_iff.1 h
    simp only [Option.pure_def, Option.ite_none_right_eq_some, Option.some.injEq] at h
    obtain ⟨⟨begun, running, cancelled⟩, rfl⟩ := h
    exact quitSeries_effect found begun running cancelled
  | shutdown =>
    cases h
    exact .stops
  | elapse millis =>
    cases h
    exact .elsewhere rfl .refl

/-- The series whose step an action is. -/
def Action.series? : Action → Option Nat
  | .beginSeries n | .wakeSeries n | .probed n _ | .quitSeries n => some n
  | _ => none

theorem step?_series {c c' : Client} {act : Action} {n : Nat} (turn : act.series? = some n)
    (h : c.step? act = some c') :
    ∃ s s' exhausted, c.reconnector.series? n = some s ∧ c'.reconnector.series? n = some s' ∧
      SeriesStep c n s act s' exhausted c'.shared.cluster := by
  have effect := step?_effect h
  generalize c'.reconnector = w at effect ⊢
  generalize c'.shared.cluster = cluster at effect ⊢
  cases effect with
  | elsewhere apart => cases act <;> first | (cases apart; done) | cases turn
  | hears | stops => cases turn
  | @series _ m s s' exhausted _ found step =>
    have hm : m = n := by
      cases step <;> exact Option.some.inj turn
    subst hm
    exact ⟨s, s', exhausted, found, List.getElem?_set_self (List.getElem?_eq_some_iff.1 found).1, step⟩

/-- **The end of a delay**: the host was removed meanwhile, or it is probed, and the probe is noted. -/
theorem step?_wakeSeries {c c' : Client} {n : Nat} (h : c.step? (.wakeSeries n) = some c') :
    ∃ s wake, c.reconnector.series? n = some s ∧ s.phase = .waiting wake ∧ wake ≤ c.now ∧
      ((c.registry.host s.host).state = .removed ∧ c' = { c with reconnector :=
          { c.reconnector with series := c.reconnector.series.set n { s with phase := .over } } } ∨
        (c.registry.host s.host).state ≠ .removed ∧ c' = { c with reconnector := { c.reconnector with
          series := c.reconnector.series.set n { s with phase := .probing, probes := s.probes + 1 } } }.note
            (.probe n s.address)) := by
  obtain ⟨s, found, h⟩ := Option.bind_eq_some_iff.1 h
  split at h
  case h_2 => cases h
  rename_i wake waiting
  split at h
  case isFalse => cases h
  rename_i due
  unfold Reconnector.wakeSeries at h
  simp only [found, waiting, Nat.not_lt.2 due, if_false] at h
  refine ⟨s, wake, found, waiting, due, ?_⟩
  by_cases gone : (c.registry.host s.host).state = .removed
  · simp only [gone, if_true, Reconnector.setPhase, Reconnector.change_eq_set found] at h
    cases h
    exact .inl ⟨gone, rfl⟩
  · simp only [gone, if_false, Reconnector.change_eq_set found] at h
    cases h
    exact .inr ⟨gone, rfl⟩

/-- **The reconnector touches nothing but itself and the cluster.** -/
theorem step?_ofReconnector {c c' : Client} {act : Action} (own : act.isOfReconnector = true)
    (still : ∀ n, act ≠ .wakeSeries n) (h : c.step? act = some c') :
    c' = c.withReconnector (c'.reconnector, c'.shared.cluster) := by
  cases act with
  | hear =>
    simp only [step?, Option.ite_none_right_eq_some, Option.some.injEq] at h
    obtain ⟨-, rfl⟩ := h
    rfl
  | beginSeries n | probed n answer | quitSeries n =>
    obtain ⟨s, found, h⟩ := Option.bind_eq_some_iff.1 h
    simp only [Option.pure_def, Option.ite_none_right_eq_some, Option.some.injEq] at h
    obtain ⟨-, rfl⟩ := h
    rfl
  | shutdown =>
    cases h
    rfl
  | wakeSeries n => exact absurd rfl (still n)
  | _ => cases own

/-- What a request does of its own. -/
def Action.isOfRequest : Action → Bool
  | .answer _ _ _ | .resume _ _ | .speculate _ | .expire _ | .cancel _ => true
  | _ => false

/-- **A request that takes a step is put back**, and nothing that requests share changes but the admission. -/
theorem step?_ofRequest {c c' : Client} {act : Action} (own : act.isOfRequest = true) (h : c.step? act = some c') :
    ∃ n r out, c.request? n = some r ∧ c' = c.putBack n r.trace.length out ∧
      ∀ {α : Type} {g : Shared → α}, Request.Apart g → g out.1 = g c.shared := by
  have guarded : ∀ {p : Shared → Request → Prop} [∀ s r, Decidable (p s r)] {f : Shared → Request → Shared × Request}
      {n : Nat}, (∀ {α : Type} {g : Shared → α}, Request.Apart g → ∀ s r, g (f s r).1 = g s) →
      c.onRequest? n (fun s r => if p s r then some (f s r) else none) = some c' →
      ∃ n r out, c.request? n = some r ∧ c' = c.putBack n r.trace.length out ∧
        ∀ {α : Type} {g : Shared → α}, Request.Apart g → g out.1 = g c.shared := by
    intro p _ f n hf h
    obtain ⟨r, out, hr, -, hout, hc⟩ := onRequest?_eq_some h
    simp only [Option.ite_none_right_eq_some, Option.some.injEq] at hout
    exact ⟨n, r, out, hr, hc, fun apart => hout.2 ▸ hf apart c.shared r⟩
  cases act with
  | answer n e a =>
    rw [step?] at h
    exact guarded (fun apart s r => apart.answer c.policies s r e a) h
  | resume n e =>
    rw [step?] at h
    exact guarded (fun apart s r => apart.resume s r e) h
  | speculate n =>
    rw [step?] at h
    exact guarded (fun apart => apart.speculate c.policies) h
  | expire n =>
    rw [step?] at h
    exact guarded (fun apart s r => apart.finish s r _) h
  | cancel n =>
    rw [step?] at h
    obtain ⟨r, out, hr, -, hout, hc⟩ := onRequest?_eq_some h
    cases hout
    exact ⟨n, r, _, hr, hc, fun apart => apart.finish _ _ _⟩
  | _ => cases own

/-- The move that an action makes, and the request that makes it. -/
def Action.move? : Action → Option (Nat × Request.Move)
  | .answer n e ans => some (n, .answer e ans)
  | .resume n e => some (n, .resume e)
  | .speculate n => some (n, .speculate)
  | .expire n => some (n, .expire)
  | .cancel n => some (n, .cancel)
  | _ => none

/-- An action that makes a move of a request is nothing else. -/
theorem step?_move {c c' : Client} {act : Action} {k : Nat} {m : Request.Move} (hact : act.move? = some (k, m))
    (h : c.step? act = some c') :
    ∃ q out, c.request? k = some q ∧ q.isLive = true ∧ q.move? c.policies c.shared m = some out ∧
      c' = c.putBack k q.trace.length out := by
  cases act <;> cases hact
  all_goals
    rw [step?] at h
    obtain ⟨q, out, hq, live, hout, rfl⟩ := onRequest?_eq_some h
    exact ⟨q, out, hq, live, (if_pos live).trans hout, rfl⟩

/-- **Requests act in steps of their own only**: in others they stay, and nothing is noted of them. -/
theorem step?_quiet {c c' : Client} {act : Action} (apart : act.isOfRequest = false)
    (old : ∀ statement options, act ≠ .submit statement options) (h : c.step? act = some c') :
    c'.requests = c.requests ∧
      ∃ new, c'.journal = new ++ c.journal ∧ ∀ x ∈ new, ∀ n e, x.event ≠ .request n e := by
  have silent : ∀ {d : Client}, d.requests = c.requests → d.journal = c.journal → d.requests = c.requests ∧
      ∃ new, d.journal = new ++ c.journal ∧ ∀ x ∈ new, ∀ n e, x.event ≠ .request n e := fun hr hj =>
    ⟨hr, [], hj, fun _ hx => absurd hx List.not_mem_nil⟩
  have noting : ∀ {d : Client} {x : Moment ClientEvent}, d.requests = c.requests → d.journal = x :: c.journal →
      (∀ n e, x.event ≠ .request n e) → d.requests = c.requests ∧
        ∃ new, d.journal = new ++ c.journal ∧ ∀ x ∈ new, ∀ n e, x.event ≠ .request n e := fun {_ x} hr hj hx =>
    ⟨hr, [x], hj, fun y hy => List.mem_singleton.1 hy ▸ hx⟩
  cases act with
  | submit statement options => exact absurd rfl (old statement options)
  | answer | resume | speculate | expire | cancel => cases apart
  | report e =>
    cases h
    cases e <;> exact noting rfl rfl fun _ _ => ClientEvent.noConfusion
  | refresh report =>
    cases h
    exact noting rfl rfl fun _ _ => ClientEvent.noConfusion
  | addHost | setReplicationFactor | elapse =>
    cases h
    exact silent rfl rfl
  | wakeSeries n =>
    obtain ⟨s, wake, -, -, -, ⟨-, rfl⟩ | ⟨-, rfl⟩⟩ := step?_wakeSeries h
    · exact silent rfl rfl
    · exact noting rfl rfl fun _ _ => ClientEvent.noConfusion
  | hear | beginSeries | probed | quitSeries | shutdown =>
    rw [step?_ofReconnector rfl (fun _ => Action.noConfusion) h]
    exact silent rfl rfl

/-- How much time passes in a step. -/
def Action.millis : Action → Nat
  | .elapse millis => millis
  | _ => 0

/-- **Policies stay, and time passes only when it elapses.** -/
theorem step?_keeps {c c' : Client} {act : Action} (h : c.step? act = some c') :
    c'.policies = c.policies ∧ c'.now = c.now + act.millis := by
  cases act with
  | answer | resume | speculate | expire | cancel =>
    obtain ⟨n, r, out, -, rfl, hout⟩ := step?_ofRequest rfl h
    exact ⟨rfl, hout Request.apart_now⟩
  | hear | beginSeries | probed | quitSeries | shutdown =>
    rw [step?_ofReconnector rfl (fun _ => Action.noConfusion) h]
    exact ⟨rfl, rfl⟩
  | wakeSeries n =>
    obtain ⟨s, wake, -, -, -, ⟨-, rfl⟩ | ⟨-, rfl⟩⟩ := step?_wakeSeries h
    · exact ⟨rfl, rfl⟩
    · exact ⟨rfl, rfl⟩
  | submit statement options =>
    cases h
    exact ⟨rfl, Request.now_start _ _ _ _⟩
  | report e =>
    cases h
    cases e <;> exact ⟨rfl, rfl⟩
  | refresh | addHost | setReplicationFactor | elapse =>
    cases h
    exact ⟨rfl, rfl⟩

/-! ## Runs -/

/-- The operations by which a client connects. -/
def connecting (contacts : List Address) (report : Except Failure (List Translated)) : List Cluster.Operation :=
  contacts.map (.add · none) ++ report.toOption.toList.map .refresh ++
    [.initBalancer, .classifyBy .balancer]

theorem connect_operations {policies : Policies} {defaults : QueryDefaults} {limits : Limits}
    {contacts : List Address} {report : Except Failure (List Translated)} {c : Client}
    (h : connect policies defaults limits contacts report = .ok c) :
    c.shared.cluster =
      Cluster.performAll { balancer := policies.balancer } (connecting contacts report) := by
  unfold connect at h
  dsimp only at h
  split at h
  · cases h
  · rename_i cluster hinit
    have hcluster : _ = cluster := congrArg Prod.snd hinit
    cases h
    unfold Cluster.performAll connecting
    simp only [List.foldl_append, List.foldl_map]
    refine congrArg (Cluster.classifyBy · .balancer) (hcluster.symm.trans ?_)
    cases report <;> rfl

/-- A client starts on a cluster that its operations built, with a listener that has yet to run. -/
theorem connect_changes {policies : Policies} {defaults : QueryDefaults} {limits : Limits}
    {contacts : List Address} {report : Except Failure (List Translated)} {c : Client}
    (h : connect policies defaults limits contacts report = .ok c) :
    Cluster.Changes { balancer := policies.balancer } c.shared.cluster ∧
      c.reconnector = { heard := c.registry.log.length } := by
  refine ⟨connect_operations h ▸ Cluster.performAll_changes _ _, ?_⟩
  unfold connect at h
  dsimp only at h
  split at h
  · cases h
  · cases h
    rfl

theorem connect_of_mem {policies : Policies} {defaults : QueryDefaults} {limits : Limits} {contacts : List Address}
    {report : Except Failure (List Translated)} {c : Client}
    (h : c ∈ (connect policies defaults limits contacts report).toOption) :
    connect policies defaults limits contacts report = .ok c := by
  cases hc : connect policies defaults limits contacts report with
  | error f =>
    rw [hc] at h
    cases h
  | ok c' =>
    rw [hc] at h
    cases h
    rfl

/-- A client that has just connected: no request was made, and no probe sent. -/
theorem connect_eq {policies : Policies} {defaults : QueryDefaults} {limits : Limits} {contacts : List Address}
    {report : Except Failure (List Translated)} {c : Client}
    (h : connect policies defaults limits contacts report = .ok c) :
    c = publishUp
      { policies, defaults
        shared := { cluster := c.shared.cluster, admission := { limits }, timestamps := policies.timestamps }
        reconnector := { heard := c.registry.log.length } } := by
  unfold connect at h
  dsimp only at h
  split at h
  · cases h
  · cases h
    rfl

/-- What was done on the way through actions, the newest first: each action with the client that it
was performed by. -/
def past (c : Client) : List Action → List (Client × Action)
  | [] => []
  | act :: rest =>
    match c.step? act with
    | some c' => c'.past rest ++ [(c, act)]
    | none => []

/-- **What every step keeps, a run keeps**, also where it is about the past. -/
theorem run?_keeps {I : List (Client × Action) → Client → Prop} {A : Action → Prop}
    (step : ∀ {past c act c'}, A act → I past c → c.step? act = some c' → I ((c, act) :: past) c') :
    ∀ {actions : List Action} {past : List (Client × Action)} {c c' : Client}, (∀ act ∈ actions, A act) →
      I past c → c.run? actions = some c' → I (c.past actions ++ past) c'
  | [], past, c, c', _, hI, h => by
    cases h
    exact hI
  | act :: rest, past, c, c', ha, hI, h => by
    obtain ⟨d, hd, hrest⟩ := Option.bind_eq_some_iff.1 h
    have hnext := run?_keeps step (fun x hx => ha x (List.mem_cons_of_mem _ hx))
      (step (ha act List.mem_cons_self) hI hd) hrest
    simp only [Client.past, hd]
    rwa [List.append_assoc]

/-- What every step keeps, a run keeps. -/
theorem run?_invariant {I : Client → Prop} (step : ∀ {c act c'}, I c → c.step? act = some c' → I c')
    {actions : List Action} {c c' : Client} (hI : I c) (h : c.run? actions = some c') : I c' :=
  @run?_keeps (fun _ => I) (fun _ => True) (fun _ hI h => step hI h) actions [] c c' (fun _ _ => trivial) hI h

end Client

end CqlDispatch
