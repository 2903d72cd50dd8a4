import CqlDispatch.Proofs.Plan.Pull
import CqlDispatch.Proofs.Request.Attempts
import CqlDispatch.Proofs.Request.Strides
import CqlDispatch.Proofs.Span
/-!
# Further executions

Under the policy of a constant delay the further executions of a request are numbered in the order in which they start,
no more than the limit start, and each starts when the delay has passed since the execution
before it started (`CopyAfter`).  The timer carries this from one start to the next: while it is set the limit is not
reached, and it fires no earlier than one delay after the latest start (`Hedges`).
-/
namespace CqlDispatch

namespace RequestEvent

/-- The plan had no host left. -/
def isDry : RequestEvent → Bool
  | ranDry => true
  | _ => false

def isEnd : RequestEvent → Bool
  | ended _ _ => true
  | _ => false

end RequestEvent

namespace Request

/-! ## Starts in a trace -/

/-- How many further executions were started. -/
def copies (trace : List (Moment RequestEvent)) : Nat := trace.countP (·.event.isCopy)

/-- When the latest execution was started, the first one with the request. -/
def lastStart (started : Nat) : List (Moment RequestEvent) → Nat
  | [] => started
  | ⟨t, .speculated _⟩ :: _ => t
  | _ :: earlier => lastStart started earlier

/-- An execution of this number starts at this moment: it is the next one, the delay has passed since the one
before it started, it has just been given its host, and the request and its plan go on. -/
structure CopyAfter (delay : Span) (started : Nat) (earlier : List (Moment RequestEvent)) (t k : Nat) : Prop where
  number : k = copies earlier + 1
  paced : delay.HasPassed (lastStart started earlier) t
  hosted : ∃ h rest, earlier = ⟨t, .pulled k h⟩ :: rest
  offered : earlier.any (·.event.isDry) = false
  goesOn : earlier.any (·.event.isEnd) = false

/-- Every further execution starts so. -/
def Spaced (delay : Span) (started : Nat) : List (Moment RequestEvent) → Prop
  | [] => True
  | ⟨t, .speculated k⟩ :: earlier => CopyAfter delay started earlier t k ∧ Spaced delay started earlier
  | _ :: earlier => Spaced delay started earlier

/-- Only executions that were started send. -/
def Known : List (Moment RequestEvent) → Prop
  | [] => True
  | ⟨_, .sent a⟩ :: earlier => a.execution ≤ copies earlier ∧ Known earlier
  | _ :: earlier => Known earlier

variable {delay : Span} {limit started : Nat}

theorem Spaced.tail {m : Moment RequestEvent} {earlier : List (Moment RequestEvent)}
    (h : Spaced delay started (m :: earlier)) : Spaced delay started earlier := by
  obtain ⟨t, e⟩ := m
  cases e with
  | speculated k => exact h.2
  | _ => exact h

theorem Spaced.suffix {earlier : List (Moment RequestEvent)} :
    ∀ {later : List (Moment RequestEvent)}, Spaced delay started (later ++ earlier) → Spaced delay started earlier
  | [], h => h
  | _ :: _, h => Spaced.suffix h.tail

theorem Known.suffix {earlier : List (Moment RequestEvent)} :
    ∀ {later : List (Moment RequestEvent)}, Known (later ++ earlier) → Known earlier
  | [], h => h
  | ⟨_, e⟩ :: later, h => by
    have hrest : Known (later ++ earlier) := by
      cases e with
      | sent a => exact h.2
      | _ => exact h
    exact hrest.suffix

/-- **One delay for each**: the latest start is so many delays after the request. -/
theorem Spaced.elapsed : ∀ {trace : List (Moment RequestEvent)}, Spaced delay started trace →
    (delay.times (copies trace)).HasPassed started (lastStart started trace)
  | [], _ => delay.hasPassed_none started
  | ⟨t, .speculated k⟩ :: earlier, ⟨copy, h⟩ => by
    rw [copies, List.countP_cons_of_pos rfl]
    exact h.elapsed.next copy.paced
  | ⟨_, .pulled _ _⟩ :: earlier, h | ⟨_, .ranDry⟩ :: earlier, h | ⟨_, .refused _ _ _⟩ :: earlier, h
  | ⟨_, .sent _⟩ :: earlier, h | ⟨_, .answered _ _ _⟩ :: earlier, h | ⟨_, .decided _ _ _⟩ :: earlier, h
  | ⟨_, .ended _ _⟩ :: earlier, h => by
    have h : Spaced delay started earlier := h
    exact h.elapsed

/-! ## The invariant -/

/-- A request starts its executions as it should, and knows when the next is due. -/
structure Hedges (delay : Span) (limit : Nat) (g : Stage) : Prop where
  counted : g.request.speculated = copies g.request.trace
  bounded : g.request.speculated ≤ limit
  timer : ∀ t ∈ g.request.nextSpeculative, g.request.speculated < limit ∧
    lastStart g.request.started g.request.trace + delay.ticks ≤ t
  spaced : Spaced delay g.request.started g.request.trace
  sent : Known g.request.trace
  dry : g.request.trace.any (·.event.isDry) = true → g.request.plan.Ended
  ended : g.request.trace.any (·.event.isEnd) = true → g.request.isLive = false

variable {p : Policies} {g g' : Stage} {s : Shared} {r : Request}

theorem Hedges.finish (k : Hedges delay limit g) (s : Shared) (o : Outcome) :
    Hedges delay limit (.rest (g.request.finish s o)) :=
  ⟨k.counted, k.bounded, nofun, k.spaced, k.sent, k.dry, fun _ => rfl⟩

theorem Hedges.lose (k : Hedges delay limit g) (s : Shared) (o : Overflow) :
    Hedges delay limit (.rest (g.request.lose s o)) :=
  ⟨k.counted, k.bounded, nofun, k.spaced, k.sent, k.dry, fun _ => isLive_lose s g.request o⟩

/-- An execution that was started sends. -/
theorem Hedges.sends (k : Hedges delay limit g) {i : Nat} (known : i ≤ g.request.speculated) (s : Shared)
    (c : Consistency) (h : HostId) (t : Ticket) : Hedges delay limit (.rest (g.request.send s i c h t)) :=
  ⟨k.counted, k.bounded, k.timer, k.spaced, ⟨k.counted ▸ known, k.sent⟩, k.dry, k.ended⟩

theorem Hedges.without (k : Hedges delay limit ⟨s, r, .idle⟩) (i : Nat) (s' : Shared) (focus : Focus) :
    Hedges delay limit ⟨s', r.without i, focus⟩ :=
  ⟨k.counted, k.bounded, k.timer, k.spaced, k.sent, k.dry, k.ended⟩

/-- The timer that is set at a start. -/
theorem speculationDue_constant (policy : p.speculation = .constant delay limit) {number t : Nat}
    (due : speculationDue p s r number = .ok (some t)) : number < limit ∧ t = s.now + delay.ticks := by
  unfold speculationDue at due
  rw [policy] at due
  by_cases below : number < limit
  · simp only [Speculation.delay?, if_pos below] at due
    split at due
    · cases due
    · cases due
      exact ⟨below, rfl⟩
  · simp only [Speculation.delay?, if_neg below] at due
    cases due

/-- **A further execution starts**: its timer was set at the start before, and has fired. -/
theorem Hedges.copied (policy : p.speculation = .constant delay limit) (k : Hedges delay limit ⟨s, r, .idle⟩)
    (live : r.isLive = true) (due : Client.isDue r.nextSpeculative s.now = true) {h : HostId} {plan : Plan}
    (offer : r.plan.pull s.cluster.registry = (some h, plan)) {next : Option Nat}
    (timed : ∀ t ∈ next, speculationDue p s (r.copying s h plan) (r.speculated + 1) = .ok (some t)) (focus : Focus) :
    Hedges delay limit ⟨s, { r.copying s h plan with nextSpeculative := next }, focus⟩ := by
  have dry : r.trace.any (·.event.isDry) = false := by
    by_contra hdry
    have ended := k.dry (by simpa using hdry) s.cluster.registry
    rw [offer] at ended
    cases ended
  have goesOn : r.trace.any (·.event.isEnd) = false := by
    by_contra hover
    have ended := k.ended (by simpa using hover)
    rw [live] at ended
    cases ended
  obtain ⟨t, ht, hnow⟩ : ∃ t, r.nextSpeculative = some t ∧ t ≤ s.now := by
    unfold Client.isDue at due
    split at due
    · rename_i t ht
      exact ⟨t, ht, of_decide_eq_true due⟩
    · cases due
  obtain ⟨below, set⟩ := k.timer t ht
  refine ⟨?_, below, fun t' ht' => ?_, ⟨⟨?_, ?_, ⟨h, r.trace, rfl⟩, dry, goesOn⟩, k.spaced⟩, k.sent, fun hdry => ?_,
    fun hover => ?_⟩
  · show r.speculated + 1 = copies (⟨s.now, .speculated (r.speculated + 1)⟩ :: ⟨s.now, .pulled (r.speculated + 1) h⟩ ::
      r.trace)
    rw [copies, List.countP_cons_of_pos rfl]
    exact congrArg (· + 1) k.counted
  · obtain ⟨more, rfl⟩ := speculationDue_constant policy (timed t' ht')
    exact ⟨more, Nat.le_refl _⟩
  · exact congrArg (· + 1) k.counted
  · exact Span.hasPassed_ticks (Nat.le_trans set hnow)
  · have hdry : r.trace.any (·.event.isDry) = true := hdry
    rw [dry] at hdry
    cases hdry
  · exact k.ended hover

/-- **Every stride keeps the pace.** -/
theorem Hedges.stride (policy : p.speculation = .constant delay limit) (o : Orderly g) (k : Hedges delay limit g)
    (stride : Stride p g g') : Hedges delay limit g' := by
  cases stride with
  | @pulled s r i c h plan offer =>
    refine ⟨k.counted, k.bounded, k.timer, k.spaced, k.sent, fun dry => ?_, k.ended⟩
    have ended := k.dry dry s.cluster.registry
    rw [offer] at ended
    cases ended
  | ranDry dry => exact ⟨k.counted, k.bounded, k.timer, k.spaced, k.sent, fun _ => Plan.ended_of_pull dry, k.ended⟩
  | spent live due dry => exact ⟨k.counted, k.bounded, nofun, k.spaced, k.sent, fun _ => Plan.ended_of_pull dry, k.ended⟩
  | granted up asked => exact k.sends (o.apart _ rfl).1 _ _ _ _
  | @resumed s r i e h a t admission live waits queued found =>
    have hi : i ≤ r.speculated := (mem_of_execution? waits).2 ▸ o.known e (mem_of_execution? waits).1
    exact (k.without i s .idle).sends hi _ _ _ _
  | succeeded | failed => exact k.finish _ _
  | @rethrown s r e h a f setback asked decided =>
    have decided : Hedges delay limit ⟨s, r.record s (.decided e.index a .rethrow), .idle⟩ :=
      ⟨k.counted, k.bounded, k.timer, k.spaced, k.sent, k.dry, k.ended⟩
    exact decided.finish _ _
  | @ignored s r e h a f setback asked decided =>
    have decided : Hedges delay limit ⟨s, r.record s (.decided e.index a .ignore), .idle⟩ :=
      ⟨k.counted, k.bounded, k.timer, k.spaced, k.sent, k.dry, k.ended⟩
    exact decided.finish _ _
  | lost live => exact k.lose _ _
  | copied live due offer timed => exact k.copied policy live due offer timed _
  | _ => exact ⟨k.counted, k.bounded, k.timer, k.spaced, k.sent, k.dry, k.ended⟩

/-! ## The start -/

theorem hedges_submitted (s : Shared) (statement : Statement) (options : ExecutionOptions) :
    Hedges delay limit ⟨s, submitted s statement options, .idle⟩ :=
  ⟨rfl, Nat.zero_le _, nofun, trivial, trivial, nofun, nofun⟩

theorem hedges_stillborn (s : Shared) (statement : Statement) (options : ExecutionOptions) {rest : Plan}
    (ended : rest.Ended) : Hedges delay limit ⟨s, stillborn s statement options rest, .idle⟩ :=
  ⟨rfl, Nat.zero_le _, nofun, trivial, trivial, fun _ => ended, nofun⟩

theorem hedges_begun (policy : p.speculation = .constant delay limit) (s : Shared) (statement : Statement)
    (options : ExecutionOptions) (h : HostId) (rest : Plan) {next : Option Nat}
    (timed : ∀ t ∈ next, firstCopyDue p (begun s statement options h rest next).shared (opened s statement options h rest) =
      .ok (some t)) : Hedges delay limit (begun s statement options h rest next) := by
  refine ⟨rfl, Nat.zero_le _, fun t ht => ?_, trivial, trivial, nofun, nofun⟩
  have due := timed t ht
  unfold firstCopyDue at due
  split at due
  · obtain ⟨below, rfl⟩ := speculationDue_constant policy due
    exact ⟨below, Nat.le_refl _⟩
  · cases due

end Request

end CqlDispatch
