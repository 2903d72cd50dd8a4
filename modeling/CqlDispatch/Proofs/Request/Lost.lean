import CqlDispatch.Proofs.Admission.Pool
import CqlDispatch.Proofs.Client.Step
/-!
# Requests that are lost

A request on a plan is lost to the clock or to the slots of a host: where the next copy is due after the last instant
(`speculationDue_eq_error_iff`), or where a host is to have more slots than there can be.  Where neither is so at its
start and at its moves (`Fits`), it is not lost.
-/
namespace CqlDispatch

namespace Admission

/-- A slot is asked for in vain where there are to be too many. -/
theorem acquire_of_fits {a : Admission} {host : Address} {t : Ticket} {answer : Admittance} {a' : Admission}
    (fits : a.limits.maxInFlight ≤ mostSlots) (asked : a.acquire host = (t, answer, a')) :
    a'.limits = a.limits ∧ answer ≠ .overflow := by
  obtain ⟨_, _, same, -, ⟨tooMany, -⟩ | ⟨-, ⟨-, rfl, changed⟩ | ⟨-, -, rfl, changed⟩ | ⟨-, -, rfl, changed⟩⟩⟩ :=
    acquire_cases a host
  · exact absurd fits (Nat.not_le_of_lt tooMany)
  all_goals
    cases same.symm.trans asked
    exact ⟨changed.limits, nofun⟩

theorem limits_changePool (a : Admission) (host : Address) (f : Pool → Pool) :
    (a.changePool host f).limits = a.limits := by
  unfold changePool
  split <;> rfl

theorem limits_resume (a : Admission) (host : Address) (t : Ticket) : (a.resume host t).2.limits = a.limits := by
  unfold resume
  dsimp only
  split
  · rfl
  · split <;> rfl

end Admission

theorem Shared.limits_dropPhase (s : Shared) (phase : Phase) :
    (s.dropPhase phase).admission.limits = s.admission.limits := by
  cases phase with
  | queued h a t => exact Admission.limits_changePool ..
  | inFlight h a t => exact Admission.limits_changePool ..

namespace Request

variable {p : Policies} {s : Shared} {r : Request}

/-- **A timer cannot be set just in case the clock does not go so far.** -/
theorem speculationDue_eq_error_iff {number : Nat} {o : Overflow} : speculationDue p s r number = .error o ↔
    o = .clock ∧ ∃ delay, p.speculation.delay? r.options.keyspace r.statement.query number = some delay ∧
      s.horizon < s.now * 1000000 + delay.nanos := by
  unfold speculationDue
  cases p.speculation.delay? r.options.keyspace r.statement.query number with
  | none => exact iff_of_false nofun fun ⟨_, _, due, _⟩ => nomatch due
  | some delay =>
    by_cases late : s.horizon < s.now * 1000000 + delay.nanos
    · simp only [if_pos late]
      exact ⟨fun h => by cases h; exact ⟨rfl, delay, rfl, late⟩, fun h => h.1 ▸ rfl⟩
    · simp only [if_neg late]
      exact iff_of_false nofun fun ⟨_, _, same, tooLate⟩ => late (Option.some.inj same ▸ tooLate)

/-- The slots of a host can be as many as they are to be, and the clock goes as far as the delays between the
executions of a statement. -/
structure Fits (p : Policies) (statement : Statement) (options : ExecutionOptions) (s : Shared) : Prop where
  slots : s.admission.limits.maxInFlight ≤ mostSlots
  delays : ∀ number delay, p.speculation.delay? options.keyspace statement.query number = some delay →
    s.now * 1000000 + delay.nanos ≤ s.horizon

theorem Fits.due (fits : Fits p r.statement r.options s) (number : Nat) (o : Overflow) :
    speculationDue p s r number ≠ .error o := fun late => by
  obtain ⟨-, delay, due, late⟩ := speculationDue_eq_error_iff.1 late
  exact Nat.not_lt_of_le (fits.delays number delay due) late

/-- A search keeps a request that fits. -/
theorem lost_proceed {i : Nat} {c : Consistency} {current : Option HostId}
    (slots : s.admission.limits.maxInFlight ≤ mostSlots) (kept : r.lost = none) :
    (r.proceed s i c current).2.lost = none := by
  refine SearchKeeps.proceed (L := fun _ s r => s.admission.limits.maxInFlight ≤ mostSlots ∧ r.lost = none)
    (Q := fun out => out.2.lost = none) ?_ ⟨slots, kept⟩
  exact {
    pulled := fun h _ => h
    dry := fun {s r plan} h _ => by
      unfold exhaust
      split
      · exact h.2
      · exact h.2
    down := fun h _ => h
    refused := fun h _ asked => ⟨(Admission.acquire_of_fits h.1 asked).1.symm ▸ h.1, h.2⟩
    queued := fun h _ _ => h.2
    granted := fun h _ _ => h.2
    overflow := fun h _ asked => absurd rfl (Admission.acquire_of_fits h.1 asked).2 }

theorem lost_afterFailure {e : Execution} {h : HostId} {a : Address} {f : Failure}
    (slots : s.admission.limits.maxInFlight ≤ mostSlots) (kept : r.lost = none) :
    (r.afterFailure p s e h a f).2.lost = none := by
  unfold afterFailure
  split
  · dsimp only
    split
    · exact lost_proceed slots kept
    · exact kept
    · exact kept
  · split
    · exact lost_proceed slots kept
    · exact kept

theorem lost_answer {i : Nat} {ans : Answer} (slots : s.admission.limits.maxInFlight ≤ mostSlots)
    (kept : r.lost = none) : (r.answer p s i ans).2.lost = none := by
  unfold answer
  split
  · split
    · dsimp only
      split
      · exact kept
      · exact lost_afterFailure (s.limits_dropPhase _ ▸ slots) kept
    · exact kept
  · exact kept

theorem lost_resume {i : Nat} (slots : s.admission.limits.maxInFlight ≤ mostSlots) (kept : r.lost = none) :
    (r.resume s i).2.lost = none := by
  unfold resume
  split
  · split
    · dsimp only
      split
      · exact kept
      · exact kept
      · refine lost_proceed ?_ kept
        dsimp only
        rwa [Admission.limits_resume]
    · exact kept
  · exact kept

/-- **Where it fits, no move loses a request.** -/
theorem lost_move {m : Move} {out : Shared × Request} (fits : Fits p r.statement r.options s)
    (hm : r.move? p s m = some out) : out.2.lost = none := by
  have kept : r.lost = none := (isLive_iff.1 (isLive_of_move hm)).2
  refine (move_rule (Q := fun out => out.2.lost = none) hm ?answered ?resumed ?speculated ?expired ?cancelled).2
  case answered => exact fun _ _ _ => lost_answer fits.slots kept
  case resumed => exact fun _ _ _ => lost_resume fits.slots kept
  case speculated =>
    refine fun _ _ => speculate_rule (Q := fun out => out.2.lost = none) (fun _ => kept)
      (fun _ _ => lost_proceed fits.slots kept) fun {h plan o} _ late => ?_
    exact absurd late (Fits.due (r := r.copying s h plan) fits _ o)
  case expired => exact fun _ => kept
  case cancelled => exact fun _ => kept

/-- **Where it fits, no request is lost at its start on a plan.** -/
theorem lost_startOn {statement : Statement} {options : ExecutionOptions} (fits : Fits p statement options s)
    (plan : Plan) : (startOn p s statement options plan).2.lost = none := by
  refine start_rule (Q := fun out => out.2.lost = none) (fun _ => rfl) ?begun ?lost
  case begun =>
    rintro _ h rest next - rfl -
    exact lost_proceed fits.slots rfl
  case lost =>
    rintro _ h rest o - rfl late
    unfold firstCopyDue at late
    split at late
    · have fits : Fits p (opened s statement options h rest).statement (opened s statement options h rest).options
        { s with timestamps := (stamp options.timestamp s.timestamps).2 } := ⟨fits.slots, fits.delays⟩
      exact absurd late (fits.due 0 o)
    · cases late

end Request

end CqlDispatch
