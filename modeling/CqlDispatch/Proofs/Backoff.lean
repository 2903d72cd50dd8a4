import Mathlib.Algebra.Order.Ring.Nat
import Mathlib.Data.List.Range
import CqlDispatch.Backoff
/-!
# Delays by their number

A schedule gives its delays one after the other (`Schedule.delay?`).  A doubling schedule works the next delay out from
the last one, and a double that is too long for a span becomes the longest delay; so a delay is told by its number
(`exponential_delays`): the base doubled as often, or the longest delay where that is shorter.

The schedules that one backoff hands out are walked side by side, in any order (`Schedule.sideBySide`), and each gives
its delays as if it were alone (`sideBySide_alone`).
-/
namespace CqlDispatch

namespace Schedule

/-- What is left of a schedule after a number of delays, if it has as many. -/
def after? (s : Schedule) : Nat → Option Schedule
  | 0 => some s
  | k + 1 => (s.after? k).bind fun rest => rest.next.map (·.2)

/-- The delay of a number, counted from zero. -/
def delay? (s : Schedule) (k : Nat) : Option Span := (s.after? k).bind fun rest => rest.next.map (·.1)

theorem next_after? {s rest rest' : Schedule} {k : Nat} {delay : Span} (h : s.after? k = some rest)
    (next : rest.next = some (delay, rest')) : s.delay? k = some delay ∧ s.after? (k + 1) = some rest' := by
  simp only [delay?, after?, h, Option.bind_some, next, Option.map_some, and_self]

theorem after?_succ (s : Schedule) : ∀ k, s.after? (k + 1) = s.next.bind fun out => out.2.after? k
  | 0 => by
    show s.next.map (·.2) = _
    cases s.next <;> rfl
  | k + 1 => by
    rw [after?, after?_succ s k, Option.bind_assoc]
    rfl

theorem delay?_zero (s : Schedule) : s.delay? 0 = s.next.map (·.1) := rfl

theorem delay?_succ (s : Schedule) (k : Nat) : s.delay? (k + 1) = s.next.bind fun out => out.2.delay? k := by
  rw [delay?, after?_succ, Option.bind_assoc]
  rfl

theorem delay?_dry {s : Schedule} (dry : s.next = none) : ∀ k, s.delay? k = none
  | 0 => by rw [delay?_zero, dry]; rfl
  | k + 1 => by rw [delay?_succ, dry]; rfl

/-! ## Side by side -/

/-- What is left of a schedule after its next delay.  One that has run out stays as it is. -/
def rest (s : Schedule) : Schedule := (s.next.map (·.2)).getD s

theorem delay?_rest (s : Schedule) (k : Nat) : s.rest.delay? k = s.delay? (k + 1) := by
  rw [delay?_succ, rest]
  cases h : s.next with
  | none => exact delay?_dry h k
  | some out => rfl

/-- The delays of schedules walked side by side, each with the number of the schedule it was taken off. -/
def sideBySide (s : Nat → Schedule) : List Nat → List (Nat × Option Span)
  | [] => []
  | i :: order => (i, (s i).delay? 0) :: sideBySide (Function.update s i (s i).rest) order

/-- **No schedule notices the others.** -/
theorem sideBySide_alone (i : Nat) : ∀ (order : List Nat) (s : Nat → Schedule),
    ((sideBySide s order).filter (·.1 == i)).map (·.2) = (List.range (order.count i)).map (s i).delay?
  | [], _ => rfl
  | j :: order, s => by
    have others := sideBySide_alone i order (Function.update s j (s j).rest)
    rw [sideBySide]
    by_cases hj : j = i
    · subst hj
      have hnext : (s j).rest.delay? = (s j).delay? ∘ (· + 1) := funext (s j).delay?_rest
      rw [Function.update_self, hnext] at others
      rw [List.filter_cons_of_pos (by exact beq_self_eq_true j), List.map_cons, others, List.count_cons_self,
        List.range_succ_eq_map, List.map_cons, List.map_map]
    · rw [Function.update_of_ne (Ne.symm hj)] at others
      rw [List.filter_cons_of_neg (by simpa using hj), others, List.count_cons_of_ne hj]

/-! ## Doubling -/

theorem nanos_shorter (a b : Span) : (a.shorter b).nanos = min a.nanos b.nanos := by
  unfold Span.shorter
  split
  · next h => exact (Nat.min_eq_left h).symm
  · next h => exact (Nat.min_eq_right (Nat.le_of_not_le h)).symm

/-- The double of a delay, or the longest one where that is shorter, also where the double is too long for a span. -/
theorem nanos_doubled (delay : Span) {longest : Span} (limit : longest ≤ Span.longest) :
    ((delay.doubled?.map (·.shorter longest)).getD longest).nanos = min (2 * delay.nanos) longest.nanos := by
  unfold Span.doubled?
  split
  · exact nanos_shorter _ _
  · next h => exact (Nat.min_eq_right (Nat.le_trans limit (Nat.le_of_not_le h))).symm

/-- A delay so many times doubled, or the longest one where that is shorter. -/
def doubledTo (longest base : Span) (n : Nat) : Span := ⟨min (base.nanos * 2 ^ n) longest.nanos⟩

theorem shorter_doubledTo (longest base : Span) (n : Nat) :
    (doubledTo longest base n).shorter longest = doubledTo longest base n := by
  have hle : doubledTo longest base n ≤ longest := Nat.min_le_right _ _
  exact if_pos hle

theorem next_doubling (base : Span) {longest : Span} (limit : longest ≤ Span.longest) (n : Nat) :
    (doubling (doubledTo longest base n) longest false).next =
      some (doubledTo longest base n, doubling (doubledTo longest base (n + 1)) longest false) := by
  have hdouble : ((doubledTo longest base n).doubled?.map (·.shorter longest)).getD longest =
      doubledTo longest base (n + 1) := by
    refine congrArg Span.mk ((nanos_doubled _ limit).trans ?_)
    have hpow : base.nanos * 2 ^ (n + 1) = 2 * (base.nanos * 2 ^ n) := by
      rw [Nat.pow_succ, ← Nat.mul_assoc, Nat.mul_comm]
    rw [hpow]
    unfold doubledTo
    dsimp only
    omega
  rw [next, shorter_doubledTo, hdouble]

theorem after?_doubling {base longest : Span} (limit : longest ≤ Span.longest) (hle : base ≤ longest) :
    ∀ n, (doubling base longest false).after? n = some (doubling (doubledTo longest base n) longest false)
  | 0 => by
    have hbase : doubledTo longest base 0 = base := by
      refine congrArg Span.mk ?_
      rw [Nat.pow_zero, Nat.mul_one]
      exact Nat.min_eq_left hle
    rw [hbase]
    rfl
  | n + 1 => (next_after? (after?_doubling limit hle n) (next_doubling base limit n)).2

theorem delay?_doubling {base longest : Span} (limit : longest ≤ Span.longest) (hle : base ≤ longest) (n : Nat) :
    (doubling base longest false).delay? n = some (doubledTo longest base n) :=
  (next_after? (after?_doubling limit hle n) (next_doubling base limit n)).1

theorem doubledTo_mono (longest base : Span) (n : Nat) : doubledTo longest base n ≤ doubledTo longest base (n + 1) := by
  have hpow : base.nanos * 2 ^ n ≤ base.nanos * 2 ^ (n + 1) :=
    Nat.mul_le_mul_left _ (Nat.pow_le_pow_right Nat.two_pos (Nat.le_succ n))
  exact Nat.le_min.2 ⟨Nat.le_trans (Nat.min_le_left _ _) hpow, Nat.min_le_right _ _⟩

end Schedule

theorem Backoff.exponential?_eq_ok {base longest : Span} {zeroFirst : Bool} {b : Backoff}
    (h : exponential? base longest zeroFirst = .ok b) : base ≤ longest ∧ b = .exponential base longest zeroFirst := by
  unfold exponential? at h
  split at h
  · cases h
  · split at h
    · cases h
    · next hle => exact ⟨Nat.not_lt.1 hle, (Except.ok.inj h).symm⟩

/-- **A delay is the base, as often doubled as delays were before it, or the longest where that is shorter.**  There is
a zero delay ahead of them where the backoff starts without one.  The schedule never runs out, no delay is shorter than
the one before, and schedules of one backoff may be walked side by side in any order. -/
theorem Backoff.exponential_delays {base longest : Span} {zeroFirst : Bool} {b : Backoff}
    (accepted : exponential? base longest zeroFirst = .ok b) (limit : longest ≤ Span.longest) :
    (∀ i, zeroFirst = true → (b.schedule i).delay? 0 = some .zero) ∧
    (∀ i n, (b.schedule i).delay? (zeroFirst.toNat + n) = some ⟨min (base.nanos * 2 ^ n) longest.nanos⟩) ∧
    (∀ i n, ∃ d d', (b.schedule i).delay? n = some d ∧ (b.schedule i).delay? (n + 1) = some d' ∧ d ≤ d') ∧
    ∀ (order : List Nat) (i : Nat), ((Schedule.sideBySide b.schedule order).filter (·.1 == i)).map (·.2) =
      (List.range (order.count i)).map (b.schedule i).delay? := by
  obtain ⟨hle, rfl⟩ := exponential?_eq_ok accepted
  have delays := Schedule.delay?_doubling limit hle
  cases zeroFirst with
  | false =>
    refine ⟨fun _ h => (by cases h), fun _ n => ?_, fun _ n => ?_, fun order i => Schedule.sideBySide_alone i order _⟩
    · rw [Bool.toNat_false, Nat.zero_add]
      exact delays n
    · exact ⟨_, _, delays n, delays (n + 1), Schedule.doubledTo_mono longest base n⟩
  | true =>
    have hnext : ∀ i n, ((exponential base longest true).schedule i).delay? (n + 1) =
        some (Schedule.doubledTo longest base n) := fun _ n => (Schedule.delay?_succ _ n).trans (delays n)
    refine ⟨fun _ _ => rfl, fun i n => ?_, fun i n => ?_, fun order i => Schedule.sideBySide_alone i order _⟩
    · rw [Bool.toNat_true, Nat.add_comm]
      exact hnext i n
    · cases n with
      | zero => exact ⟨_, _, rfl, hnext i 0, Nat.zero_le _⟩
      | succ n => exact ⟨_, _, hnext i n, hnext i (n + 1), Schedule.doubledTo_mono longest base n⟩

/-- The double of the last delay before the longest is too long for a span. -/
theorem Backoff.doubled_past_longest :
    ∃ b, exponential? (.ofSeconds 1) .longest true = .ok b ∧ (b.schedule 0).delay? 0 = some .zero ∧
      (b.schedule 0).delay? 64 = some ⟨9223372036854775808000000000⟩ ∧ (b.schedule 0).delay? 65 = some .longest ∧
      Schedule.sideBySide b.schedule [3, 3, 1, 3] =
        [(3, some .zero), (3, some (.ofSeconds 1)), (1, some .zero), (3, some (.ofSeconds 2))] := by
  have accepted : exponential? (.ofSeconds 1) .longest true = .ok (.exponential (.ofSeconds 1) .longest true) := rfl
  obtain ⟨zero, delays, -, -⟩ := exponential_delays accepted (Nat.le_refl _)
  exact ⟨_, accepted, zero 0 rfl, (delays 0 63).trans (by simp [Span.ofSeconds, Span.longest]),
    (delays 0 64).trans (by simp [Span.ofSeconds, Span.longest]), rfl⟩

end CqlDispatch
