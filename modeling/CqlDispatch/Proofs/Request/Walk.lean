import CqlDispatch.Proofs.Admission.Pool
import CqlDispatch.Proofs.Request.Run
/-!
# The walk of a request

A request that starts no further execution, and that every host has a slot for, walks its plan (`Walk.events`): it
takes the hosts one by one, passes over those that are not up, sends, and does with a failure what the retry policy
says.  `Follows` relates a request between two of its moves to what the walk still does with the rest of a script.
-/
namespace CqlDispatch

/-! ## The next host -/

namespace Plan

/-- At most `n` hosts are taken, until one is up. -/
def nextUpWithin (g : Registry) : Nat → Plan → Option HostId × Plan
  | 0, p => (none, p)
  | n + 1, p =>
    match p.pull g with
    | (none, p) => (none, p)
    | (some h, p) => if g.isUp h then (some h, p) else nextUpWithin g n p

/-- The next host of the plan that is up, and what is left of the plan. -/
def nextUp (g : Registry) (p : Plan) : Option HostId × Plan := p.nextUpWithin g p.size

/-- The host at hand if it is up, and else the next one of the plan that is. -/
def nextFrom (g : Registry) (current : Option HostId) (p : Plan) : Option HostId × Plan :=
  match current with
  | some h => if g.isUp h then (some h, p) else p.nextUp g
  | none => p.nextUp g

theorem nextFrom_of_up {g : Registry} {p : Plan} {h : HostId} (up : g.isUp h = true) :
    p.nextFrom g (some h) = (some h, p) := if_pos up

theorem nextFrom_of_down {g : Registry} {p : Plan} {h : HostId} (down : g.isUp h = false) :
    p.nextFrom g (some h) = p.nextFrom g none := if_neg (Bool.eq_false_iff.1 down)

/-- Whether a host at hand is up may be asked before. -/
theorem nextFrom_again (g : Registry) (h : HostId) (p : Plan) (sameHost : Bool) :
    p.nextFrom g (if sameHost then some h else none) =
      p.nextFrom g (if sameHost && g.isUp h then some h else none) := by
  cases sameHost with
  | false => rfl
  | true =>
    cases hup : g.isUp h with
    | true => rfl
    | false => exact nextFrom_of_down hup

theorem nextUpWithin_eq {g : Registry} : ∀ {n m : Nat} {p : Plan}, p.size ≤ n → p.size ≤ m →
    p.nextUpWithin g n = p.nextUpWithin g m
  | 0, 0, _, _, _ => rfl
  | 0, m + 1, p, hn, _ | m + 1, 0, p, _, hn => by
    unfold nextUpWithin pull
    rw [Nat.le_zero.1 hn]
    rfl
  | n + 1, m + 1, p, hn, hm => by
    -- A host that is pulled leaves a smaller plan, so its size is fuel enough.
    unfold nextUpWithin
    cases hp : p.pull g with
    | mk found q =>
      cases found with
      | none => rfl
      | some h =>
        have hlt := size_pull hp
        dsimp only
        rw [nextUpWithin_eq (n := n) (m := m) (by omega) (by omega)]

/-- Where a plan yields a host, the next one that is up is that one or comes after it. -/
theorem nextUp_of_pull {g : Registry} {p q : Plan} {h : HostId} (hp : p.pull g = (some h, q)) :
    p.nextUp g = q.nextFrom g (some h) := by
  have hlt := size_pull hp
  unfold nextUp
  rw [nextUpWithin_eq (Nat.le_refl _) (Nat.le_succ _), nextUpWithin, hp]
  unfold nextFrom nextUp
  dsimp only
  rw [nextUpWithin_eq (Nat.le_of_lt hlt) (Nat.le_refl _)]

theorem nextUp_of_dry {g : Registry} {p q : Plan} (hp : p.pull g = (none, q)) : p.nextUp g = (none, q) := by
  unfold nextUp
  rw [nextUpWithin_eq (Nat.le_refl _) (Nat.le_succ _), nextUpWithin, hp]

end Plan

/-! ## Walks -/

/-- What a walk does: its attempts, its decisions about failures, and its end. -/
inductive Walk.Event where
  | sends (attempt : Attempt)
  | decides (address : Address) (d : Decision)
  | ends (outcome : Outcome)

def Walk.Event.outcome? : Walk.Event → Option Outcome
  | ends o => some o
  | _ => none

def RequestEvent.walked? : RequestEvent → Option Walk.Event
  | sent attempt => some (.sends attempt)
  | decided _ address d => some (.decides address d)
  | ended outcome _ => some (.ends outcome)
  | _ => none

/-- What comes to a request while its attempt is under way. -/
inductive Signal where
  /-- The attempt is answered, and the hosts are in these states. -/
  | answered (g : Registry) (answer : Answer)
  | expired
  | cancelled

/-- A request that walks its plan. -/
structure Walk where
  statement : Statement
  options : ExecutionOptions
  timestamp : Option Int
  plan : Plan
  /-- The level of its next attempt. -/
  consistency : Consistency
  retries : UInt32 := 0
  tried : List Address := []
  errors : List (Address × String) := []

/-- How a walk goes on after a failed attempt. -/
inductive Course where
  /-- With the host at hand, or else the next one of the plan. -/
  | goesOn (current : Option HostId) (w : Walk)
  | ends (outcome : Outcome)

namespace Walk

def operation (w : Walk) : Operation := ⟨w.statement, w.options, w.retries⟩

def success (w : Walk) (result : ResultSet) (a : Address) : Outcome :=
  .success result { host := a, tried := w.tried, speculated := 0, retries := w.retries, achieved := w.consistency }

/-- The walk after an attempt was sent, with this rest of its plan. -/
def sentTo (w : Walk) (a : Address) (rest : Plan) : Walk := { w with plan := rest, tried := w.tried ++ [a] }

/-- What the retry policy says of a failed attempt, where it is asked. -/
def decision? (retry : RetryPolicy) (w : Walk) (f : Failure) : Option Decision :=
  f.setback?.map (retry.decide w.operation w.consistency)

/-- How the walk goes on after an attempt has failed at a host. -/
def course (w : Walk) (h : HostId) (a : Address) (f : Failure) : Option Decision → Course
  | some (.retry level sameHost) =>
    .goesOn (if sameHost then some h else none)
      { w with
        consistency := level.getD w.consistency
        retries := w.retries + 1
        errors := w.errors ++ [(a, f.message)] }
  | some .rethrow => .ends (.failure f)
  | some .ignore => .ends (w.success .empty a)
  | none =>
    match f with
    | .busy _ _ => .goesOn none { w with errors := w.errors ++ [(a, f.message)] }
    | _ => .ends (.failure f)

/-- **What a walk does**, from the choice of a host on, which is the host at hand if there is one. -/
def events (retry : RetryPolicy) (w : Walk) (g : Registry) (current : Option HostId) (script : List Signal) :
    List Event :=
  match w.plan.nextFrom g current with
  | (none, _) => [.ends (.failure (.noHostAvailable w.errors))]
  | (some h, rest) =>
    let a := (g.host h).address
    let w := w.sentTo a rest
    .sends ⟨h, a, 0, w.consistency, w.timestamp⟩ ::
      match script with
      | [] => []
      | .expired :: _ => [.ends (.failure (.requestTimedOut (w.options.timeout.getD .zero)))]
      | .cancelled :: _ => [.ends (.failure .cancelled)]
      | .answered _ (.ok result) :: _ => [.ends (w.success result a)]
      | .answered g (.error f) :: script =>
        (w.decision? retry f).toList.map (.decides a) ++
          match w.course h a f (w.decision? retry f) with
          | .ends o => [.ends o]
          | .goesOn current w => w.events retry g current script

/-- What a walk does once its attempt at a host is under way. -/
def follow (retry : RetryPolicy) (w : Walk) (h : HostId) (a : Address) : List Signal → List Event
  | [] => []
  | .expired :: _ => [.ends (.failure (.requestTimedOut (w.options.timeout.getD .zero)))]
  | .cancelled :: _ => [.ends (.failure .cancelled)]
  | .answered _ (.ok result) :: _ => [.ends (w.success result a)]
  | .answered g (.error f) :: script =>
    (w.decision? retry f).toList.map (.decides a) ++
      match w.course h a f (w.decision? retry f) with
      | .ends o => [.ends o]
      | .goesOn current w => w.events retry g current script

/-- Of the plan and the host at hand only the next host matters, and what is left of the plan then. -/
theorem events_congr {retry : RetryPolicy} {w : Walk} {g : Registry} {rest : Plan} {current current' : Option HostId}
    (hn : w.plan.nextFrom g current = rest.nextFrom g current') (script : List Signal) :
    w.events retry g current script = { w with plan := rest }.events retry g current' script := by
  unfold events
  rw [hn]
  rfl

theorem events_of_dry {retry : RetryPolicy} {w : Walk} {g : Registry} {current : Option HostId} {plan : Plan}
    (hn : w.plan.nextFrom g current = (none, plan)) (script : List Signal) :
    w.events retry g current script = [.ends (.failure (.noHostAvailable w.errors))] := by
  unfold events
  rw [hn]

theorem events_of_next {retry : RetryPolicy} {w : Walk} {g : Registry} {current : Option HostId} {h : HostId}
    {plan : Plan} (hn : w.plan.nextFrom g current = (some h, plan)) (script : List Signal) :
    w.events retry g current script = .sends ⟨h, (g.host h).address, 0, w.consistency, w.timestamp⟩ ::
      (w.sentTo (g.host h).address plan).follow retry h (g.host h).address script := by
  unfold events
  rw [hn]
  unfold follow
  rcases script with _ | ⟨⟨g, _ | _⟩ | _ | _, script⟩ <;> rfl

end Walk

/-- Every host has a slot for one more attempt, and can have as many slots as it is to have. -/
structure Admission.HasRoom (a : Admission) : Prop where
  slots : ∀ host, a.inFlight host < a.limits.maxInFlight
  fits : a.limits.maxInFlight ≤ mostSlots

theorem Admission.HasRoom.acquire {a : Admission} (room : a.HasRoom) (host : Address) :
    (a.acquire host).2.1 = .granted := by
  obtain ⟨_, _, asked, -, ⟨tooMany, -⟩ | ⟨-, ⟨-, rfl, -⟩ | ⟨full, -⟩ | ⟨full, -⟩⟩⟩ := Admission.acquire_cases a host
  · exact absurd room.fits (Nat.not_le_of_lt tooMany)
  · rw [asked]
  · exact absurd (room.slots host) full
  · exact absurd (room.slots host) full

namespace Request

/-- What the request has done, the oldest first. -/
def walked (r : Request) : List Walk.Event := r.trace.reverse.filterMap (·.event.walked?)

@[simp] theorem walked_record (r : Request) (s : Shared) (e : RequestEvent) :
    (r.record s e).walked = r.walked ++ e.walked?.toList := by
  unfold walked record
  rw [List.reverse_cons, List.filterMap_append]
  cases he : e.walked? <;> simp [he]

/-- The request as a walk, with this level for its next attempt. -/
def walk (r : Request) (c : Consistency) : Walk :=
  ⟨r.statement, r.options, r.timestamp, r.plan, c, r.retries, r.tried, r.errors⟩

/-- A live request that starts no further execution. -/
structure Single (r : Request) : Prop where
  live : r.isLive = true
  unhurried : r.nextSpeculative = none
  speculated : r.speculated = 0
  undecided : r.walked.findSome? Walk.Event.outcome? = none

/-- What a request does with the rest of a script: its attempt is under way, or it has ended. -/
inductive Follows (retry : RetryPolicy) (r : Request) : (List Signal → List Walk.Event) → Prop
  | sent {w h a t} (single : r.Single) (walk : r.walk w.consistency = w)
      (executions : r.executions = [⟨0, w.consistency, .inFlight h a t⟩]) : Follows retry r (w.follow retry h a)
  | ended {o} (decided : r.outcome = some o) (told : r.walked.findSome? Walk.Event.outcome? = some o) :
      Follows retry r (fun _ => [])

/-- A request that had done these things has done more, the first of what it was to do with a script, and the rest
is what it does from here on. -/
def Advances (retry : RetryPolicy) (done : List Walk.Event) (due : List Signal → List Walk.Event) (r : Request) :
    Prop :=
  ∃ new rest, r.walked = done ++ new ∧ r.Follows retry rest ∧ ∀ script, due script = new ++ rest script

section
variable {retry : RetryPolicy} {s : Shared} {r : Request} {w : Walk} {g : Registry}

theorem Advances.congr {done : List Walk.Event} {due due' : List Signal → List Walk.Event}
    (advances : Advances retry done due r) (same : ∀ script, due' script = due script) :
    Advances retry done due' r := by
  obtain ⟨new, rest, hwalked, follows, hdue⟩ := advances
  exact ⟨new, rest, hwalked, follows, fun script => (same script).trans (hdue script)⟩

theorem Advances.prepend {done : List Walk.Event} (ds : List Walk.Event) {due : List Signal → List Walk.Event}
    (advances : Advances retry (done ++ ds) due r) : Advances retry done (fun script => ds ++ due script) r := by
  obtain ⟨new, rest, hwalked, follows, hdue⟩ := advances
  refine ⟨ds ++ new, rest, by rw [hwalked, List.append_assoc], follows, fun script => ?_⟩
  rw [List.append_assoc, ← hdue]

theorem Single.goesOn (single : r.Single) {r' : Request} (new : List Walk.Event) (walked : r'.walked = r.walked ++ new)
    (undecided : new.findSome? Walk.Event.outcome? = none) (live : r'.isLive = r.isLive)
    (unhurried : r'.nextSpeculative = r.nextSpeculative) (speculated : r'.speculated = r.speculated) : r'.Single := by
  refine ⟨live.trans single.live, unhurried.trans single.unhurried, speculated.trans single.speculated, ?_⟩
  rw [walked, List.findSome?_append, single.undecided, undecided]
  rfl

theorem Single.finish (single : r.Single) (retry : RetryPolicy) (s : Shared) (o : Outcome) :
    Advances retry r.walked (fun _ => [.ends o]) (r.finish s o).2 := by
  have hwalked : (r.finish s o).2.walked = r.walked ++ [.ends o] := walked_record r _ _
  refine ⟨[.ends o], fun _ => [], hwalked, .ended rfl ?_, fun _ => rfl⟩
  rw [hwalked, List.findSome?_append, single.undecided]
  rfl

/-! ## The search of a walk -/

theorem exhaust_of_idle (idle : r.executions = []) :
    r.exhaust s = r.finish s (.failure (.noHostAvailable r.errors)) := if_pos (List.isEmpty_iff.2 idle)

theorem walked_send (s : Shared) (r : Request) (i : Nat) (c : Consistency) (h : HostId) (t : Ticket) :
    (r.send s i c h t).2.walked = r.walked ++ [.sends ⟨h, (s.host h).address, i, c, r.timestamp⟩] :=
  walked_record _ s _

/-- All through a search the next host is the one that the walk finds. -/
structure Searches (g : Registry) (w : Walk) (target : Option HostId × Plan) (done : List Walk.Event)
    (current : Option HostId) (s : Shared) (r : Request) : Prop where
  registry : s.cluster.registry = g
  room : s.admission.HasRoom
  single : r.Single
  idle : r.executions = []
  walked : r.walked = done
  walk : r.walk w.consistency = { w with plan := r.plan }
  target : r.plan.nextFrom g current = target

/-- **A search goes where the walk goes.** -/
theorem searches_search (retry : RetryPolicy) (w : Walk) (current : Option HostId) (done : List Walk.Event) :
    SearchKeeps 0 w.consistency (Searches g w (w.plan.nextFrom g current) done)
      (fun out => Advances retry done (w.events retry g current) out.2) where
  pulled {s r h plan} i hp := by
    rw [i.registry] at hp
    have hwalked : ({ r with plan := plan }.record s (.pulled 0 h)).walked = r.walked ++ [] := walked_record _ s _
    refine ⟨i.registry, i.room, i.single.goesOn [] hwalked rfl rfl rfl rfl, i.idle, ?_, ?_, ?_⟩
    · rw [hwalked, List.append_nil, i.walked]
    · exact congrArg (fun w : Walk => { w with plan := plan }) i.walk
    · exact (Plan.nextUp_of_pull hp).symm.trans i.target
  dry {s r plan} i hp := by
    rw [i.registry] at hp
    have hnext : w.plan.nextFrom g current = (none, plan) := i.target.symm.trans (Plan.nextUp_of_dry hp)
    have hwalked : ({ r with plan := plan }.record s .ranDry).walked = r.walked ++ [] := walked_record _ s _
    have herrors : r.errors = w.errors := congrArg Walk.errors i.walk
    have ends := (i.single.goesOn [] hwalked rfl rfl rfl rfl).finish retry s
      (.failure (.noHostAvailable r.errors))
    rw [hwalked, List.append_nil, i.walked] at ends
    have hends := exhaust_of_idle (s := s) (r := ({ r with plan := plan } : Request).record s .ranDry) i.idle
    rw [hends]
    exact ends.congr fun script => (Walk.events_of_dry hnext script).trans (by rw [herrors])
  down {s r h} i hup := by
    refine ⟨i.registry, i.room, i.single, i.idle, i.walked, i.walk, ?_⟩
    exact (Plan.nextFrom_of_down (i.registry ▸ hup)).symm.trans i.target
  refused {s r h t f admission} i hup ha := by
    have granted := i.room.acquire (s.host h).address
    rw [ha] at granted
    cases granted
  queued {s r h t admission} i hup ha := by
    have granted := i.room.acquire (s.host h).address
    rw [ha] at granted
    cases granted
  overflow {s r h t admission} i hup ha := by
    have granted := i.room.acquire (s.host h).address
    rw [ha] at granted
    cases granted
  granted {s r h t admission} i hup ha := by
    have hnext : w.plan.nextFrom g current = (some h, r.plan) :=
      i.target.symm.trans (Plan.nextFrom_of_up (i.registry ▸ hup))
    obtain rfl := i.registry
    have hwalked := walked_send { s with admission := admission } r 0 w.consistency h t
    have htimestamp : r.timestamp = w.timestamp := congrArg Walk.timestamp i.walk
    have hidle : r.executions = [] := i.idle
    have hwalk := congrArg (·.sentTo (s.host h).address r.plan) i.walk
    have follows : Follows retry (r.send { s with admission := admission } 0 w.consistency h t).2
        ((w.sentTo (s.host h).address r.plan).follow retry h (s.host h).address) :=
      .sent (i.single.goesOn _ hwalked rfl rfl rfl rfl) hwalk (by rw [send_executions, hidle]; rfl)
    refine ⟨_, _, hwalked.trans (congrArg (· ++ _) i.walked), follows, fun script => ?_⟩
    rw [Walk.events_of_next hnext, htimestamp]
    rfl

/-- **What a search does, the walk does.** -/
theorem Single.proceed (single : r.Single) (retry : RetryPolicy) (room : s.admission.HasRoom)
    (idle : r.executions = []) (c : Consistency) (current : Option HostId) :
    Advances retry r.walked ((r.walk c).events retry s.cluster.registry current) (r.proceed s 0 c current).2 :=
  (searches_search retry (r.walk c) current r.walked).proceed (L := Searches _ (r.walk c) _ r.walked)
    ⟨rfl, room, single, idle, rfl, rfl, rfl⟩

/-! ## The moves of a walk -/

variable {p : Policies} {e : Execution} {h : HostId} {a : Address} {f : Failure}

theorem Single.succeed (single : r.Single) (walk : r.walk w.consistency = w) (s : Shared) (result : ResultSet)
    (a : Address) :
    Advances retry r.walked (fun _ => [.ends (w.success result a)]) (r.succeed s result a w.consistency).2 := by
  have hreport : w.success result a = .success result
      { host := a, tried := r.tried, speculated := .ofNat r.speculated, retries := r.retries, achieved := w.consistency } := by
    rw [single.speculated, ← walk]
    rfl
  rw [hreport]
  exact single.finish _ s _

/-- **What a request does after a failed attempt, the walk does.** -/
theorem Single.afterFailure (single : r.Single) (room : s.admission.HasRoom) (idle : r.executions = [])
    (walk : r.walk w.consistency = w) (index : e.index = 0) (level : e.consistency = w.consistency) :
    Advances p.retry r.walked (fun script => (w.decision? p.retry f).toList.map (.decides a) ++
      match w.course h a f (w.decision? p.retry f) with
      | .ends o => [.ends o]
      | .goesOn current w => w.events p.retry s.cluster.registry current script) (r.afterFailure p s e h a f).2 := by
  have hoperation : w.operation = r.operation := by
    rw [← walk]
    rfl
  unfold Request.afterFailure Walk.decision?
  rw [index, level, hoperation]
  -- The retry policy is asked of setbacks only; a busy host is passed over, and any other failure is the outcome.
  cases hs : f.setback? with
  | some setback =>
    dsimp only [Option.map_some]
    generalize p.retry.decide r.operation w.consistency setback = d
    have hwalked : (r.record s (.decided 0 a d)).walked = r.walked ++ [.decides a d] := walked_record r s _
    have decided : (r.record s (.decided 0 a d)).Single := single.goesOn _ hwalked rfl rfl rfl rfl
    refine Advances.prepend [.decides a d] ?_
    rw [← hwalked]
    cases d with
    | rethrow => exact decided.finish _ s _
    | ignore => exact decided.succeed walk s _ a
    | retry level sameHost =>
      let failed : Request := { r.record s (.decided 0 a (.retry level sameHost)) with retries := r.retries + 1 }
      have again : (failed.recordError a f).Single := decided.goesOn [] (List.append_nil _).symm rfl rfl rfl rfl
      have hwalk : (failed.recordError a f).walk (level.getD w.consistency) = { w with
          consistency := level.getD w.consistency
          retries := w.retries + 1
          errors := w.errors ++ [(a, f.message)] } := by
        rw [← walk]
        rfl
      refine (again.proceed _ room idle (level.getD w.consistency) _).congr fun script => ?_
      rw [hwalk]
      exact Walk.events_congr (Plan.nextFrom_again _ h _ sameHost) script
  | none =>
    dsimp only [Option.map_none]
    cases f with
    | busy host limit =>
      have passed : (r.recordError a (.busy host limit)).Single :=
        single.goesOn [] (List.append_nil _).symm rfl rfl rfl rfl
      have hwalk : (r.recordError a (.busy host limit)).walk w.consistency =
          { w with errors := w.errors ++ [(a, Failure.message (.busy host limit))] } := by
        rw [← walk]
        rfl
      refine (passed.proceed _ room idle w.consistency none).congr fun script => ?_
      rw [hwalk]
      rfl
    | _ => exact single.finish _ s _

/-- A live request has the attempt of its one execution under way. -/
theorem Follows.underWay {due : List Signal → List Walk.Event} (follows : r.Follows retry due)
    (live : r.isLive = true) :
    ∃ w h a t, due = w.follow retry h a ∧ r.Single ∧ r.walk w.consistency = w ∧
      r.executions = [⟨0, w.consistency, .inFlight h a t⟩] := by
  cases follows with
  | sent single walk executions => exact ⟨_, _, _, _, rfl, single, walk, executions⟩
  | ended decided => exact absurd ((isLive_iff.1 live).1.symm.trans decided) nofun

/-- **What a request does with an answer, the walk does.** -/
theorem Follows.answer {due : List Signal → List Walk.Event} (follows : r.Follows p.retry due) (live : r.isLive = true)
    (room : ∀ e ∈ r.executions, (s.dropPhase e.phase).admission.HasRoom) (ans : Answer) :
    Advances p.retry r.walked (fun script => due (.answered s.cluster.registry ans :: script))
      (r.answer p s 0 ans).2 := by
  obtain ⟨w, h, a, t, rfl, single, walk, executions⟩ := follows.underWay live
  have found : r.execution? 0 = some ⟨0, w.consistency, .inFlight h a t⟩ := by
    unfold execution?
    rw [executions]
    rfl
  have room := room _ (executions ▸ List.mem_singleton_self _)
  have hidle : (r.without 0).executions = [] := by
    unfold without
    rw [executions]
    rfl
  have hregistry : (s.dropPhase (.inFlight h a t)).cluster.registry = s.cluster.registry := rfl
  unfold Request.answer
  rw [found]
  dsimp only
  generalize s.dropPhase (.inFlight h a t) = s' at room hregistry ⊢
  have hwalked : ((r.without 0).record s' (.answered 0 a ans)).walked = r.walked := by
    rw [walked_record]
    exact List.append_nil _
  have answered : ((r.without 0).record s' (.answered 0 a ans)).Single :=
    single.goesOn [] (hwalked.trans (List.append_nil _).symm) rfl rfl rfl rfl
  rw [← hwalked, ← hregistry]
  cases ans with
  | ok result => exact answered.succeed walk s' result a
  | error f => exact answered.afterFailure room hidle walk rfl rfl

/-- **What a request does when it is given up, the walk does.** -/
theorem Follows.giveUp {due : List Signal → List Walk.Event} (follows : r.Follows retry due) (live : r.isLive = true) :
    Advances retry r.walked (fun script => due (.expired :: script)) (r.expire s).2 ∧
      Advances retry r.walked (fun script => due (.cancelled :: script)) (r.cancel s).2 := by
  obtain ⟨w, h, a, t, rfl, single, walk, -⟩ := follows.underWay live
  refine ⟨?_, single.finish _ s _⟩
  have hoptions : r.options = w.options := congrArg Walk.options walk
  unfold expire
  rw [hoptions]
  exact single.finish _ s _

/-- What a move is to a walk, with the hosts as they are. -/
def Move.signal? (g : Registry) : Move → Option Signal
  | .answer _ ans => some (.answered g ans)
  | .expire => some .expired
  | .cancel => some .cancelled
  | .resume _ | .speculate => none

/-- **In every move a request does what the walk does**: an execution that waits for an answer cannot be resumed, and
no timer is set. -/
theorem Follows.move {due : List Signal → List Walk.Event} {m : Move} {out : Shared × Request}
    (follows : r.Follows p.retry due)
    (room : r.isLive = true → ∀ e ∈ r.executions, (s.dropPhase e.phase).admission.HasRoom)
    (hm : r.move? p s m = some out) :
    Advances p.retry r.walked (fun script => due ((m.signal? s.cluster.registry).toList ++ script)) out.2 := by
  unfold move? at hm
  split at hm
  case isFalse => cases hm
  rename_i live
  obtain ⟨w, h, a, t, -, single, -, executions⟩ := follows.underWay live
  cases m with
  | answer i answer =>
    simp only [Option.ite_none_right_eq_some, Option.some.injEq] at hm
    obtain ⟨hflight, rfl⟩ := hm
    -- Only the first execution is under way, so the answer is its own.
    have hi : i = 0 := by
      by_contra hi
      unfold Client.isInFlight execution? at hflight
      rw [executions, List.find?_cons_of_neg (by simpa using Ne.symm hi)] at hflight
      cases hflight
    subst hi
    exact follows.answer live (room live) answer
  | resume i =>
    have hwaits : Client.canResume s r i = false := by
      unfold Client.canResume execution?
      rw [executions]
      cases i <;> rfl
    dsimp only at hm
    rw [hwaits] at hm
    cases hm
  | speculate =>
    dsimp only at hm
    rw [single.unhurried] at hm
    cases hm
  | expire =>
    simp only [Option.ite_none_right_eq_some, Option.some.injEq] at hm
    obtain ⟨-, rfl⟩ := hm
    exact (follows.giveUp live).1
  | cancel =>
    cases hm
    exact (follows.giveUp live).2

/-- The walk that a request would take which is started now. -/
def walkOn (s : Shared) (statement : Statement) (options : ExecutionOptions) (plan : Plan) : Walk where
  statement
  options
  timestamp := options.timestamp.or (s.timestamps.map fun source => source.next.1)
  plan
  consistency := options.consistency

theorem stamp_fst (explicit : Option Int) (source : Option Timestamps) :
    (stamp explicit source).1 = explicit.or (source.map (·.next.1)) := by
  cases explicit with
  | some t => rfl
  | none => cases source <;> rfl

/-- **A request starts as the walk does.** -/
theorem startOn_advances {statement : Statement} {options : ExecutionOptions} {plan : Plan}
    (room : s.admission.HasRoom) (apart : options.idempotent = false ∨ p.speculation = .never) :
    Advances p.retry [] ((walkOn s statement options plan).events p.retry s.cluster.registry none)
      (startOn p s statement options plan).2 := by
  -- No timer is set, whichever of the two rules it out.
  have unhurried : ∀ s' h rest, firstCopyDue p s' (opened s statement options h rest) = .ok none := by
    intro s' h rest
    rcases apart with once | never
    · exact firstCopyDue_once once
    · unfold firstCopyDue speculationDue
      rw [never]
      exact ite_self _
  refine start_rule (Q := fun out => Advances p.retry []
    ((walkOn s statement options plan).events p.retry s.cluster.registry none) out.2) ?dry ?begun ?lost
  case dry =>
    intro rest hp
    have hnext : plan.nextFrom s.cluster.registry none = (none, rest) := Plan.nextUp_of_dry hp
    refine (Single.finish ⟨rfl, rfl, rfl, rfl⟩ p.retry s _).congr fun script => ?_
    exact Walk.events_of_dry (w := walkOn s statement options plan) hnext script
  case begun =>
    rintro _ h rest next hp rfl hdue
    cases (unhurried _ h rest).symm.trans hdue
    have single : ({ opened s statement options h rest with nextSpeculative := none } : Request).Single :=
      ⟨rfl, rfl, rfl, rfl⟩
    have walk : ({ opened s statement options h rest with nextSpeculative := none } : Request).walk options.consistency =
        { walkOn s statement options plan with plan := rest } := by
      unfold walk walkOn opened
      rw [stamp_fst]
      rfl
    have advances := single.proceed p.retry (s := { s with timestamps := (stamp options.timestamp s.timestamps).2 })
      room rfl options.consistency (some h)
    rw [walk] at advances
    exact advances.congr (Walk.events_congr (w := walkOn s statement options plan) (Plan.nextUp_of_pull hp))
  case lost =>
    rintro s' h rest o - - hdue
    cases (unhurried s' h rest).symm.trans hdue

end

end Request

end CqlDispatch
