import CqlDispatch.Proofs.Metrics.Meters
import CqlDispatch.Proofs.Request.Sending
/-!
# Calls of a request

A request makes one call as it ends, one for each decision of the retry policy, and one for each further execution
that it starts (`Reports`).  The decision of a move is the one that the policy takes on the failure that the move
brings (`decision?`), and a further execution starts as its timer fires and the plan has a host left
(`startsCopy`); the moves of a request add no other call (`Reports.move`).
-/
namespace CqlDispatch

namespace Outcome

/-- The outcome that latencies go to. -/
def name : Outcome → String
  | success _ _ => "success"
  | failure _ => "error"

/-- The kind of the error that the caller is given. -/
def kind? : Outcome → Option String
  | success _ _ => none
  | failure f => some f.kind

end Outcome

namespace Request

/-- The calls that a request made, the newest first. -/
def calls (r : Request) : List MetricCall := r.trace.filterMap (·.event.metric?)

/-- What the retry policy decides in a move, if it is asked. -/
def decision? (p : Policies) (r : Request) : Move → Option Decision
  | .answer i (.error f) => do
    let e ← r.execution? i
    let setback ← f.setback?
    pure (p.retry.decide r.operation e.consistency setback)
  | _ => none

theorem decision?_answer {p : Policies} {r : Request} {i : Nat} {e : Execution} (he : r.execution? i = some e)
    (f : Failure) : r.decision? p (.answer i (.error f)) = f.setback?.map (p.retry.decide r.operation e.consistency) := by
  show ((r.execution? i).bind fun e => f.setback?.bind fun setback => some _) = _
  rw [he]
  cases f.setback? <;> rfl

/-- A further execution is started in a move. -/
def startsCopy (g : Registry) (r : Request) : Move → Bool
  | .speculate => (r.plan.pull g).1.isSome
  | _ => false

/-- The calls of a request: one as it ended, these decisions, the newest first, and so many further executions. -/
structure Reports (labels : List String) (number : Nat) (r : Request) : Prop where
  outcomes : r.calls.filterMap (·.outcome?) = (r.outcome.map (·.name)).toList
  kinds : r.calls.filterMap (·.kind?) = (r.outcome.bind (·.kind?)).toList
  decisions : r.calls.filterMap (·.decision?) = labels
  copies : r.calls.countP (·.isSpeculative) = number
  speculated : r.speculated = number

namespace Reports

variable {labels : List String} {number : Nat} {s : Shared} {r q : Request} {i : Nat} {p : Policies}

theorem same (k : Reports labels number r) (calls : q.calls = r.calls) (outcome : q.outcome = r.outcome)
    (speculated : q.speculated = r.speculated) : Reports labels number q := by
  refine ⟨?_, ?_, ?_, ?_, speculated.trans k.speculated⟩
  · rw [calls, outcome]
    exact k.outcomes
  · rw [calls, outcome]
    exact k.kinds
  · rw [calls]
    exact k.decisions
  · rw [calls]
    exact k.copies

theorem record {e : RequestEvent} (k : Reports labels number r) (silent : e.metric? = none) :
    Reports labels number (r.record s e) :=
  k.same (List.filterMap_cons_none silent) rfl rfl

/-- The retry policy has decided. -/
theorem decided {a : Address} (k : Reports labels number r) (d : Decision) :
    Reports (d.label :: labels) number (r.record s (.decided i a d)) :=
  ⟨k.outcomes, k.kinds, congrArg (d.label :: ·) k.decisions, k.copies, k.speculated⟩

/-- A further execution was counted. -/
theorem begins (k : Reports labels number r) (calls : q.calls = .speculative :: r.calls)
    (outcome : q.outcome = r.outcome) (speculated : q.speculated = r.speculated + 1) :
    Reports labels (number + 1) q := by
  refine ⟨?_, ?_, ?_, ?_, ?_⟩
  · rw [calls, outcome]
    exact k.outcomes
  · rw [calls, outcome]
    exact k.kinds
  · rw [calls]
    exact k.decisions
  · rw [calls]
    exact (List.countP_cons_of_pos rfl).trans (congrArg (· + 1) k.copies)
  · rw [speculated, k.speculated]

theorem finish {o : Outcome} (k : Reports labels number r) (live : r.outcome = none) :
    Reports labels number (r.finish s o).2 := by
  have outcomes := k.outcomes
  have kinds := k.kinds
  rw [live] at outcomes kinds
  have hcalls : ∃ x : MetricCall, (r.finish s o).2.calls = x :: r.calls ∧ x.outcome? = some o.name ∧
      x.kind? = o.kind? ∧ x.decision? = none ∧ x.isSpeculative = false := by
    cases o with
    | success result report => exact ⟨_, rfl, rfl, rfl, rfl, rfl⟩
    | failure f => exact ⟨_, rfl, rfl, rfl, rfl, rfl⟩
  obtain ⟨x, hcalls, hname, hkind, hdecision, hcopy⟩ := hcalls
  refine ⟨?_, ?_, ?_, ?_, k.speculated⟩
  · rw [hcalls, List.filterMap_cons_some hname, outcomes]
    rfl
  · rw [hcalls]
    show List.filterMap _ (x :: r.calls) = o.kind?.toList
    cases ho : o.kind? with
    | none => rw [List.filterMap_cons_none (hkind.trans ho), kinds]; rfl
    | some kind => rw [List.filterMap_cons_some (hkind.trans ho), kinds]; rfl
  · rw [hcalls, List.filterMap_cons_none hdecision]
    exact k.decisions
  · rw [hcalls, List.countP_cons_of_neg (by simp [hcopy])]
    exact k.copies

theorem exhaust (k : Reports labels number r) (live : r.outcome = none) :
    Reports labels number (r.exhaust s).2 := by
  unfold Request.exhaust
  split
  · exact k.finish live
  · exact k

theorem proceed {c : Consistency} {current : Option HostId} (k : Reports labels number r) (live : r.outcome = none) :
    Reports labels number (r.proceed s i c current).2 := by
  refine SearchKeeps.proceed (L := fun _ _ r => Reports labels number r ∧ r.outcome = none)
    (Q := fun out => Reports labels number out.2) ?_ ⟨k, live⟩
  exact {
    pulled := fun h _ => ⟨.record (h.1.same rfl rfl rfl) rfl, h.2⟩
    dry := fun h _ => .exhaust (.record (h.1.same rfl rfl rfl) rfl) h.2
    down := fun h _ => h
    refused := fun h _ _ => ⟨(h.1.record rfl).same rfl rfl rfl, h.2⟩
    queued := fun h _ _ => h.1.same rfl rfl rfl
    granted := fun h _ _ => h.1.same rfl rfl rfl
    overflow := fun h _ _ => h.1.same rfl rfl rfl }

/-- **An answer is one decision at most**: the one that the retry policy takes on the failure. -/
theorem answer {ans : Answer} {e : Execution} {h : HostId} {a : Address} {t : Ticket} (k : Reports labels number r)
    (live : r.outcome = none) (he : r.execution? i = some e) (hp : e.phase = .inFlight h a t) :
    Reports (((r.decision? p (.answer i ans)).map (·.label)).toList ++ labels) number (r.answer p s i ans).2 := by
  have received : ∀ s', Reports labels number (r.received s' i a ans) := fun s' =>
    .record (k.same rfl rfl rfl) rfl
  refine answer_rule (Q := fun out => Reports _ number out.2) he hp ?_ ?_ ?_ ?_ ?_ ?_
  · rintro s' result rfl
    exact (received s').finish live
  · rintro s' f setback level sameHost current rfl hs hd -
    rw [decision?_answer he, hs, Option.map_some, ← hd]
    exact proceed (((received s').decided _).same rfl rfl rfl) live
  · rintro s' f setback rfl hs hd
    rw [decision?_answer he, hs, Option.map_some, ← hd]
    exact ((received s').decided _).finish live
  · rintro s' f setback rfl hs hd
    rw [decision?_answer he, hs, Option.map_some, ← hd]
    exact ((received s').decided _).finish live
  · rintro s' host limit rfl
    rw [decision?_answer he]
    exact proceed ((received s').same rfl rfl rfl) live
  · rintro s' f rfl hs -
    rw [decision?_answer he, hs]
    exact (received s').finish live

theorem resume (k : Reports labels number r) (live : r.outcome = none) : Reports labels number (r.resume s i).2 := by
  have without : Reports labels number (r.without i) := k.same rfl rfl rfl
  unfold Request.resume
  split
  · split
    · dsimp only
      split
      · exact k
      · exact without.same rfl rfl rfl
      · exact proceed (Reports.same (without.record rfl) rfl rfl rfl) live
    · exact k
  · exact k

/-- A timer that fires starts an execution, where the plan has a host for it. -/
theorem speculate (k : Reports labels number r) (live : r.outcome = none) :
    Reports labels (number + (r.startsCopy s.cluster.registry .speculate).toNat) (r.speculate p s).2 := by
  refine speculate_rule (Q := fun out => Reports labels _ out.2) (fun {plan} hp => ?_) (fun {h plan next} hp _ => ?_)
    fun {h plan o} hp _ => ?_
  · unfold startsCopy
    rw [hp]
    have dry : Reports labels number ({ r with plan := plan }.record s .ranDry) := .record (k.same rfl rfl rfl) rfl
    exact dry.same rfl rfl rfl
  · unfold startsCopy
    rw [hp]
    exact proceed (k.begins rfl rfl rfl) live
  · unfold startsCopy
    rw [hp]
    have begun : Reports labels (number + 1) (r.copying s h plan) := k.begins rfl rfl rfl
    exact begun.same rfl rfl rfl

/-- **What a move reports.** -/
theorem move {m : Move} {out : Shared × Request} (k : Reports labels number r) (hm : r.move? p s m = some out) :
    Reports (((r.decision? p m).map (·.label)).toList ++ labels)
      (number + (r.startsCopy s.cluster.registry m).toNat) out.2 := by
  have live : r.outcome = none := (isLive_iff.1 (isLive_of_move hm)).1
  refine (move_rule (Q := fun out => Reports _ _ out.2) hm ?_ ?_ ?_ ?_ ?_).2
  · rintro j ans e h a t rfl he hp
    exact k.answer live he hp
  · rintro j e h a t rfl - -
    exact k.resume live
  · rintro rfl -
    exact k.speculate live
  · rintro rfl
    exact k.finish live
  · rintro rfl
    exact k.finish live

end Reports

theorem Reports.blank {r : Request} (calls : r.calls = []) (outcome : r.outcome = none)
    (speculated : r.speculated = 0) : Reports [] 0 r := by
  refine ⟨?_, ?_, ?_, ?_, speculated⟩
  · rw [calls, outcome]
    rfl
  · rw [calls, outcome]
    rfl
  · rw [calls]
    rfl
  · rw [calls]
    rfl

/-- A request begins with none of this. -/
theorem reports_start (p : Policies) (s : Shared) (statement : Statement) (options : ExecutionOptions) :
    Reports [] 0 (start p s statement options).2 := by
  rcases start_cases p s statement options with ⟨-, hstart⟩ | ⟨o, -, hstart⟩
  · rw [hstart]
    refine start_rule (Q := fun out => Reports [] 0 out.2) (fun _ => ?_) (fun _ _ _ => ?_) fun _ _ _ => ?_
    · exact (Reports.blank rfl rfl rfl).finish rfl
    · exact (Reports.blank rfl rfl rfl).proceed rfl
    · exact Reports.blank rfl rfl rfl
  · rw [hstart]
    exact Reports.blank rfl rfl rfl

/-- A move leaves what was noted before. -/
theorem trace_move {p : Policies} {s : Shared} {r : Request} {m : Move} {out : Shared × Request}
    (hm : r.move? p s m = some out) : ∃ fresh, out.2.trace = fresh ++ r.trace := by
  refine (move_rule (Q := fun out => ∃ fresh, out.2.trace = fresh ++ r.trace) hm ?_ ?_ ?_ ?_ ?_).2
  · intro i ans _ _ _ _ _ _ _
    exact (checks_answer p s r i ans).trace.imp fun _ h => h.1
  · intro i _ _ _ _ _ _ _
    exact (resume_checks s r i).trace.imp fun _ h => h.1
  · exact fun _ _ => (checks_speculate p s r).trace.imp fun _ h => h.1
  · exact fun _ => ⟨[_], rfl⟩
  · exact fun _ => ⟨[_], rfl⟩

end Request

end CqlDispatch
