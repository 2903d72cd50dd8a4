import Mathlib.Logic.Relation
import CqlDispatch.Proofs.Admission.Pool
import CqlDispatch.Proofs.Request.Run
/-!
# Strides

Between two waits a request makes strides, each of which records at most one event but for the end: a host is
taken from the plan, passed over or asked for a slot, an answer comes and something is made of it.
`Stride` lists them once, with all that each does to the request and to what requests share.  Every
move is a sequence of strides (`move_strides`), and so is every start on a plan that has a host
(`startOn_strides`): what each stride keeps, a run keeps.
-/
namespace CqlDispatch

/-- The start of a further execution. -/
def RequestEvent.isCopy : RequestEvent → Bool
  | speculated _ => true
  | _ => false

namespace Request

/-- What a request is busy with between two waits. -/
inductive Focus where
  | idle
  /-- An execution looks for a host for an attempt at this level, with the one that it has. -/
  | seeking (index : Nat) (level : Consistency) (host : Option HostId)
  /-- An execution that waited has its answer. -/
  | judging (e : Execution) (host : HostId) (address : Address) (answer : Answer)

/-- The execution that is not among those that wait. -/
def Focus.index? : Focus → Option Nat
  | idle => none
  | seeking i _ _ => some i
  | judging e _ _ _ => some e.index

structure Stage where
  shared : Shared
  request : Request
  focus : Focus := .idle

def Stage.rest (out : Shared × Request) : Stage := ⟨out.1, out.2, .idle⟩

variable {p : Policies}

/-- One stride.  Which failure ends a request, and when, is left open, and so is what one is lost to. -/
inductive Stride (p : Policies) : Stage → Stage → Prop
  | pulled {s r i c h plan} (offer : r.plan.pull s.cluster.registry = (some h, plan)) :
    Stride p ⟨s, r, .seeking i c none⟩
      ⟨s, { r with plan := plan }.record s (.pulled i h), .seeking i c (some h)⟩
  | ranDry {s r i c plan} (dry : r.plan.pull s.cluster.registry = (none, plan)) :
    Stride p ⟨s, r, .seeking i c none⟩ ⟨s, { r with plan := plan }.record s .ranDry, .idle⟩
  | passed {s r i c h} (down : s.isUp h = false) :
    Stride p ⟨s, r, .seeking i c (some h)⟩ ⟨s, r, .seeking i c none⟩
  | refused {s r i c h t f admission} (up : s.isUp h = true)
      (asked : s.admission.acquire (s.host h).address = (t, .turnedAway f, admission)) :
    Stride p ⟨s, r, .seeking i c (some h)⟩
      ⟨{ s with admission := admission },
        (r.record s (.refused i (s.host h).address f)).recordError (s.host h).address f, .seeking i c none⟩
  | queued {s r i c h t admission} (up : s.isUp h = true)
      (asked : s.admission.acquire (s.host h).address = (t, .queued, admission)) :
    Stride p ⟨s, r, .seeking i c (some h)⟩
      ⟨{ s with admission := admission },
        { r with executions := r.executions ++ [⟨i, c, .queued h (s.host h).address t⟩] }, .idle⟩
  | granted {s r i c h t admission} (up : s.isUp h = true)
      (asked : s.admission.acquire (s.host h).address = (t, .granted, admission)) :
    Stride p ⟨s, r, .seeking i c (some h)⟩ (.rest (send { s with admission := admission } r i c h t))
  | answered {s r i ans e h a t} (live : r.isLive = true) (waits : r.execution? i = some e)
      (sent : e.phase = .inFlight h a t) :
    Stride p ⟨s, r, .idle⟩ ⟨s.dropPhase e.phase, r.received s i a ans, .judging e h a ans⟩
  | succeeded {s r e h a result} :
    Stride p ⟨s, r, .judging e h a (.ok result)⟩ (.rest (r.succeed s result a e.consistency))
  | retried {s r e h a f setback level sameHost} (asked : f.setback? = some setback)
      (decided : p.retry.decide r.operation e.consistency setback = .retry level sameHost) :
    Stride p ⟨s, r, .judging e h a (.error f)⟩
      ⟨s, recordError { r.record s (.decided e.index a (.retry level sameHost)) with
          retries := r.retries + 1 } a f,
        .seeking e.index (level.getD e.consistency) (if sameHost && s.isUp h then some h else none)⟩
  | rethrown {s r e h a f setback} (asked : f.setback? = some setback)
      (decided : p.retry.decide r.operation e.consistency setback = .rethrow) :
    Stride p ⟨s, r, .judging e h a (.error f)⟩
      (.rest ((r.record s (.decided e.index a .rethrow)).finish s (.failure f)))
  | ignored {s r e h a f setback} (asked : f.setback? = some setback)
      (decided : p.retry.decide r.operation e.consistency setback = .ignore) :
    Stride p ⟨s, r, .judging e h a (.error f)⟩
      (.rest ((r.record s (.decided e.index a .ignore)).succeed s .empty a e.consistency))
  | busy {s r e h a host limit} :
    Stride p ⟨s, r, .judging e h a (.error (.busy host limit))⟩
      ⟨s, r.recordError a (.busy host limit), .seeking e.index e.consistency none⟩
  | failed {s r focus f} (live : r.isLive = true) :
    Stride p ⟨s, r, focus⟩ (.rest (r.finish s (.failure f)))
  | lost {s r focus admission o} (live : r.isLive = true) :
    Stride p ⟨s, r, focus⟩ (.rest (r.lose { s with admission := admission } o))
  | resumed {s r i e h a t admission} (live : r.isLive = true) (waits : r.execution? i = some e)
      (queued : e.phase = .queued h a t) (found : s.admission.resume a t = (.granted, admission)) :
    Stride p ⟨s, r, .idle⟩
      (.rest (send { s with admission := admission } (r.without i) i e.consistency h t))
  | closed {s r i e h a t f admission} (live : r.isLive = true) (waits : r.execution? i = some e)
      (queued : e.phase = .queued h a t) (found : s.admission.resume a t = (.closed f, admission)) :
    Stride p ⟨s, r, .idle⟩
      ⟨{ s with admission := admission }, ((r.without i).record s (.refused i a f)).recordError a f,
        .seeking i e.consistency none⟩
  | spent {s r plan} (live : r.isLive = true) (due : Client.isDue r.nextSpeculative s.now = true)
      (dry : r.plan.pull s.cluster.registry = (none, plan)) :
    Stride p ⟨s, r, .idle⟩
      ⟨s, { { r with plan := plan }.record s .ranDry with nextSpeculative := none }, .idle⟩
  | copied {s r h plan next} (live : r.isLive = true) (due : Client.isDue r.nextSpeculative s.now = true)
      (offer : r.plan.pull s.cluster.registry = (some h, plan))
      (timed : ∀ t ∈ next, speculationDue p s (r.copying s h plan) (r.speculated + 1) = .ok (some t)) :
    Stride p ⟨s, r, .idle⟩
      ⟨s, { r.copying s h plan with nextSpeculative := next },
        .seeking (r.speculated + 1) r.options.consistency (some h)⟩

def Strides (p : Policies) : Stage → Stage → Prop := Relation.ReflTransGen (Stride p)

/-- What each stride keeps, all strides keep. -/
theorem Strides.keeps {I : Stage → Prop} (stride : ∀ {g g'}, I g → Stride p g g' → I g') {g g' : Stage}
    (strides : Strides p g g') (hI : I g) : I g' := by
  induction strides with
  | refl => exact hI
  | tail _ last ih => exact stride ih last

/-! ## Moves -/

section Moves
variable {s : Shared} {r : Request} {g : Stage}

/-- A search makes strides. -/
theorem strides_search (g : Stage) (i : Nat) (c : Consistency) :
    SearchKeeps i c (fun current s r => r.isLive = true ∧ Strides p g ⟨s, r, .seeking i c current⟩)
      (fun out => Strides p g (.rest out)) where
  pulled h offer := ⟨h.1, h.2.tail (.pulled offer)⟩
  dry {s r plan} h dry := by
    have hdry : Strides p g ⟨s, { r with plan := plan }.record s .ranDry, .idle⟩ := h.2.tail (.ranDry dry)
    unfold exhaust
    split
    · exact hdry.tail (.failed h.1)
    · exact hdry
  down h down := ⟨h.1, h.2.tail (.passed down)⟩
  refused h up asked := ⟨h.1, h.2.tail (.refused up asked)⟩
  queued h up asked := h.2.tail (.queued up asked)
  granted h up asked := h.2.tail (.granted up asked)
  overflow h _ _ := h.2.tail (.lost h.1)

theorem Strides.proceeds {i : Nat} {c : Consistency} {current : Option HostId}
    (strides : Strides p g ⟨s, r, .seeking i c current⟩) (live : r.isLive = true) :
    Strides p g (.rest (r.proceed s i c current)) :=
  (strides_search g i c).proceed
    (L := fun current s r => r.isLive = true ∧ Strides p g ⟨s, r, .seeking i c current⟩) ⟨live, strides⟩

theorem Strides.followsFailure {e : Execution} {h : HostId} {a : Address} {f : Failure}
    (strides : Strides p g ⟨s, r, .judging e h a (.error f)⟩) (live : r.isLive = true) :
    Strides p g (.rest (r.afterFailure p s e h a f)) := by
  unfold afterFailure
  split
  · rename_i setback asked
    dsimp only
    cases decided : p.retry.decide r.operation e.consistency setback with
    | retry level sameHost => exact Strides.proceeds (strides.tail (.retried asked decided)) live
    | rethrow => exact strides.tail (.rethrown asked decided)
    | ignore => exact strides.tail (.ignored asked decided)
  · split
    · exact Strides.proceeds (strides.tail .busy) live
    · exact strides.tail (.failed live)

theorem answer_strides {i : Nat} {ans : Answer} {e : Execution} {h : HostId} {a : Address} {t : Ticket}
    (live : r.isLive = true) (waits : r.execution? i = some e) (sent : e.phase = .inFlight h a t) :
    Strides p ⟨s, r, .idle⟩ (.rest (r.answer p s i ans)) := by
  have judging : Strides p ⟨s, r, .idle⟩ ⟨s.dropPhase e.phase, r.received s i a ans, .judging e h a ans⟩ :=
    .single (.answered live waits sent)
  have now : (s.dropPhase e.phase).now = s.now := by rw [sent]; rfl
  have received : r.received s i a ans = (r.without i).record (s.dropPhase e.phase) (.answered i a ans) := by
    unfold Request.received record
    rw [now]
  rw [received] at judging
  unfold answer
  simp only [waits, sent] at judging ⊢
  cases ans with
  | ok result => exact judging.tail .succeeded
  | error f => exact judging.followsFailure live

theorem resume_strides {i : Nat} {e : Execution} {h : HostId} {a : Address} {t : Ticket}
    (live : r.isLive = true) (waits : r.execution? i = some e) (queued : e.phase = .queued h a t) :
    Strides p ⟨s, r, .idle⟩ (.rest (r.resume s i)) := by
  unfold resume
  simp only [waits, queued]
  cases hr : s.admission.resume a t with
  | mk found admission =>
    cases found with
    | granted => exact .single (.resumed live waits queued hr)
    | closed f => exact Strides.proceeds (.single (.closed live waits queued hr)) live
    | waiting =>
      have same := Admission.resume_of_waiting (congrArg Prod.fst hr)
      rw [hr] at same
      cases same
      exact .refl

theorem speculate_strides (live : r.isLive = true) (due : Client.isDue r.nextSpeculative s.now = true) :
    Strides p ⟨s, r, .idle⟩ (.rest (r.speculate p s)) := by
  refine speculate_rule (Q := fun out => Strides p ⟨s, r, .idle⟩ (.rest out)) ?dry ?started ?lost
  case dry => exact fun dry => .single (.spent live due dry)
  case started =>
    intro h plan next offer timed
    refine Strides.proceeds (.single (.copied live due offer fun t ht => ?_)) live
    rw [timed, ht]
  case lost =>
    -- No timer is set, and the request goes no further.
    intro h plan o offer _
    have copied : Strides p ⟨s, r, .idle⟩ ⟨s, { r.copying s h plan with nextSpeculative := none },
        .seeking (r.speculated + 1) r.options.consistency (some h)⟩ := .single (.copied live due offer nofun)
    exact copied.tail (.lost live)

/-- **A move is a sequence of strides.** -/
theorem move_strides {m : Move} {out : Shared × Request} (hm : r.move? p s m = some out) :
    Strides p ⟨s, r, .idle⟩ (.rest out) := by
  have live := isLive_of_move hm
  refine (move_rule (Q := fun out => Strides p ⟨s, r, .idle⟩ (.rest out)) hm ?answered ?resumed ?speculated
    ?expired ?cancelled).2
  case answered => exact fun _ waits sent => answer_strides live waits sent
  case resumed => exact fun _ waits queued => resume_strides live waits queued
  case speculated => exact fun _ due => speculate_strides live due
  case expired => exact fun _ => .single (.failed live)
  case cancelled => exact fun _ => .single (.failed live)

end Moves

/-- **What each stride keeps, a run keeps**, if it does not depend on what happens elsewhere. -/
theorem run?_strides {I : Stage → Prop} (stride : ∀ {g g'}, I g → Stride p g g' → I g')
    (elsewhere : ∀ {s s' : Shared} {r : Request}, I ⟨s, r, .idle⟩ → I ⟨s', r, .idle⟩) {moves : List (Shared × Move)}
    {s : Shared} {r r' : Request} (ran : r.run? p moves = some r') (hI : I ⟨s, r, .idle⟩) : I ⟨s, r', .idle⟩ := by
  refine run?_keeps (I := fun r => I ⟨s, r, .idle⟩) (A := fun _ => True) ?_ (fun _ _ => trivial) hI ran
  intro s' r m out _ hI hm
  have hout : I ⟨out.1, out.2, .idle⟩ := (move_strides hm).keeps stride (elsewhere hI)
  exact elsewhere hout

/-! ## The start -/

/-- A request begins to look for a slot at its first host. -/
def begun (s : Shared) (statement : Statement) (options : ExecutionOptions) (h : HostId) (rest : Plan)
    (next : Option Nat) : Stage :=
  ⟨{ s with timestamps := (stamp options.timestamp s.timestamps).2 },
    { opened s statement options h rest with nextSpeculative := next }, .seeking 0 options.consistency (some h)⟩

/-- **The start**: the plan has no host, or the first of it is taken and strides follow. -/
theorem startOn_strides (p : Policies) (s : Shared) (statement : Statement) (options : ExecutionOptions)
    (plan : Plan) :
    (∃ rest, plan.pull s.cluster.registry = (none, rest) ∧ startOn p s statement options plan =
        (stillborn s statement options rest).finish s (.failure (.noHostAvailable []))) ∨
      ∃ h rest next, plan.pull s.cluster.registry = (some h, rest) ∧
        (∀ t ∈ next, firstCopyDue p (begun s statement options h rest next).shared (opened s statement options h rest) =
          .ok (some t)) ∧
        Strides p (begun s statement options h rest next) (.rest (startOn p s statement options plan)) := by
  unfold startOn
  cases hp : plan.pull s.cluster.registry with
  | mk found rest =>
    cases found with
    | none => exact .inl ⟨rest, rfl, rfl⟩
    | some h =>
      dsimp only
      cases timed : firstCopyDue p _ (opened s statement options h rest) with
      | error o => exact .inr ⟨h, rest, none, rfl, nofun, .single (.lost rfl)⟩
      | ok next =>
        refine .inr ⟨h, rest, next, rfl, fun t ht => ?_, Strides.proceeds .refl rfl⟩
        rw [← ht]
        exact timed

/-- What a request has before its first stride and each stride keeps, it has when it was started. -/
theorem startOn_keeps {I : Stage → Prop} (stride : ∀ {g g'}, I g → Stride p g g' → I g') {s : Shared}
    {statement : Statement} {options : ExecutionOptions} {plan : Plan}
    (hostless : ∀ rest, plan.pull s.cluster.registry = (none, rest) → I ⟨s, stillborn s statement options rest, .idle⟩)
    (opens : ∀ h rest next, plan.pull s.cluster.registry = (some h, rest) →
      (∀ t ∈ next, firstCopyDue p (begun s statement options h rest next).shared (opened s statement options h rest) =
        .ok (some t)) → I (begun s statement options h rest next)) :
    I (.rest (startOn p s statement options plan)) := by
  rcases startOn_strides p s statement options plan with ⟨rest, dry, he⟩ | ⟨h, rest, next, offer, timed, strides⟩
  · rw [he]
    exact stride (hostless rest dry) (.failed rfl)
  · exact strides.keeps stride (opens h rest next offer timed)

/-! ## What every stride keeps -/

/-- Nothing but the admission changes of what requests share. -/
theorem Stride.shared {g g' : Stage} (stride : Stride p g g') :
    g'.shared = { g.shared with admission := g'.shared.admission } := by
  have dropped : ∀ (s : Shared) (phase : Phase), s.dropPhase phase =
      { s with admission := (s.dropPhase phase).admission } := fun s phase => by cases phase <;> rfl
  have dropAll : ∀ (l : List Execution) (s : Shared), l.foldl (fun s e => s.dropPhase e.phase) s =
      { s with admission := (l.foldl (fun s e => s.dropPhase e.phase) s).admission } := by
    intro l
    induction l with
    | nil => exact fun s => rfl
    | cons e l ih =>
      intro s
      rw [List.foldl_cons, ih, dropped s e.phase]
  cases stride with
  | answered live waits sent => exact dropped _ _
  | succeeded | rethrown | ignored | failed | lost => exact dropAll _ _
  | _ => rfl

/-- What was asked for stays. -/
theorem Stride.asked {g g' : Stage} (stride : Stride p g g') :
    g'.request.statement = g.request.statement ∧ g'.request.options = g.request.options := by
  cases stride <;> exact ⟨rfl, rfl⟩

/-- An execution that is at work waits nowhere, and only live requests have one. -/
structure Orderly (g : Stage) : Prop where
  known : ∀ e ∈ g.request.executions, e.index ≤ g.request.speculated
  apart : ∀ i ∈ g.focus.index?, i ≤ g.request.speculated ∧ (∀ e ∈ g.request.executions, e.index ≠ i) ∧
    g.request.isLive = true

theorem orderly_finish (s : Shared) (r : Request) (o : Outcome) : Orderly (.rest (r.finish s o)) := ⟨nofun, nofun⟩

/-- An execution comes to wait behind the others. -/
theorem Orderly.waits {g g' : Stage} {e : Execution} (o : Orderly g) (turn : g.focus.index? = some e.index)
    (executions : g'.request.executions = g.request.executions ++ [e])
    (speculated : g'.request.speculated = g.request.speculated) (idle : g'.focus = .idle) : Orderly g' := by
  refine ⟨fun e' he' => ?_, fun i hi => ?_⟩
  · rw [executions, List.mem_append, List.mem_singleton] at he'
    rw [speculated]
    rcases he' with he' | rfl
    · exact o.known e' he'
    · exact (o.apart _ turn).1
  · rw [idle] at hi
    cases hi

/-- An execution that waited goes on. -/
theorem Orderly.goesOn {g : Stage} {i : Nat} {e : Execution} (o : Orderly g) (live : g.request.isLive = true)
    (waits : g.request.execution? i = some e) (s : Shared) (focus : Focus) (turn : focus.index? = some i) :
    Orderly ⟨s, g.request.without i, focus⟩ := by
  obtain ⟨he, rfl⟩ := mem_of_execution? waits
  refine ⟨fun e' he' => o.known e' (List.mem_filter.1 he').1, fun i hi => ?_⟩
  obtain rfl : e.index = i := Option.some.inj (turn.symm.trans hi)
  exact ⟨o.known e he, fun e' he' => by simpa using (List.mem_filter.1 he').2, live⟩

theorem Orderly.stride {g g' : Stage} (o : Orderly g) (stride : Stride p g g') : Orderly g' := by
  cases stride with
  | pulled | passed | refused | retried | busy => exact ⟨o.known, o.apart⟩
  | ranDry | spent => exact ⟨o.known, nofun⟩
  | queued | granted => exact o.waits rfl rfl rfl rfl
  | @answered s r i ans e h a t live waits sent =>
    obtain ⟨-, rfl⟩ := mem_of_execution? waits
    have on := o.goesOn live waits s (.judging e h a ans) rfl
    exact ⟨on.known, on.apart⟩
  | succeeded | rethrown | ignored | failed => exact orderly_finish _ _ _
  | lost => exact ⟨nofun, nofun⟩
  | @resumed s r i e h a t admission live waits queued found =>
    have on := o.goesOn live waits s (.seeking i e.consistency none) rfl
    exact on.waits (e := ⟨i, e.consistency, .inFlight h _ t⟩) rfl rfl rfl rfl
  | @closed s r i e h a t f admission live waits queued found =>
    have on := o.goesOn live waits s (.seeking i e.consistency none) rfl
    exact ⟨on.known, on.apart⟩
  | @copied s r h plan next live due offer timed =>
    refine ⟨fun e he => Nat.le_succ_of_le (o.known e he), fun i hi => ?_⟩
    obtain rfl : r.speculated + 1 = i := Option.some.inj hi
    exact ⟨Nat.le_refl _, fun e he => Nat.ne_of_lt (Nat.lt_succ_of_le (o.known e he)), live⟩

theorem orderly_begun (s : Shared) (statement : Statement) (options : ExecutionOptions) (h : HostId) (rest : Plan)
    (next : Option Nat) : Orderly (begun s statement options h rest next) := by
  refine ⟨nofun, fun i hi => ?_⟩
  obtain rfl : 0 = i := Option.some.inj hi
  exact ⟨Nat.zero_le _, nofun, rfl⟩

end Request

end CqlDispatch
