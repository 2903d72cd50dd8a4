import Mathlib.Data.Finset.Lattice.Fold
import Mathlib.Data.Int.Order.Basic
import Mathlib.Order.Interval.Finset.Nat
import CqlDispatch.Proofs.Timestamp
/-!
# Timestamps by the readings of the clock

Every call of a generator reads the clock once.  It gives the reading, or the last timestamp plus one where that is more,
but never more than the greatest number (`stamp_succ`).  So a timestamp is told by the readings alone: each of them
pushes the later timestamps up, by one more for every call since (`pushed`), and so does the mark of no timestamp
from before the first call.  The timestamps are the least that are not behind the clock and increase
(`least_past_clock`).
-/
namespace CqlDispatch

/-- The numbers that a clock shows. -/
def Micros.Fits (n : Int) : Prop := least ≤ n ∧ n ≤ greatest

instance (n : Int) : Decidable (Micros.Fits n) := inferInstanceAs (Decidable (_ ∧ _))

namespace TimestampGenerator

/-- The generator after its first `n` calls.  Calls are counted from zero, and call `i` reads the clock at `c i`. -/
def after (g : TimestampGenerator) (c : Nat → Int) : Nat → TimestampGenerator
  | 0 => g
  | n + 1 => ((g.after c n).next (c n)).2.2

/-- The timestamp that a call gives. -/
def stamp (g : TimestampGenerator) (c : Nat → Int) (n : Nat) : Int := ((g.after c n).next (c n)).1

/-! ## What the readings push up -/

/-- How far the readings push the timestamp of a call: each as far as it shows, and one more for every call since. -/
def pushed (c : Nat → Int) (n : Nat) : Int :=
  (Finset.range (n + 1)).sup' Finset.nonempty_range_add_one fun i => c i + ((n - i : Nat) : Int)

theorem le_pushed (c : Nat → Int) {i n : Nat} (h : i ≤ n) : c i + ((n - i : Nat) : Int) ≤ pushed c n :=
  Finset.le_sup' (fun i => c i + ((n - i : Nat) : Int)) (Finset.mem_range_succ_iff.2 h)

theorem pushed_le {c : Nat → Int} {n : Nat} {x : Int} (h : ∀ i ≤ n, c i + ((n - i : Nat) : Int) ≤ x) :
    pushed c n ≤ x :=
  Finset.sup'_le _ _ fun i hi => h i (Finset.mem_range_succ_iff.1 hi)

theorem pushed_zero (c : Nat → Int) : pushed c 0 = c 0 := by
  have hle := le_pushed c (Nat.le_refl 0)
  have hge : pushed c 0 ≤ c 0 := pushed_le fun i hi => by
    obtain rfl := Nat.le_zero.1 hi
    omega
  omega

theorem pushed_succ (c : Nat → Int) (n : Nat) : pushed c (n + 1) = max (c (n + 1)) (pushed c n + 1) := by
  have hlast := le_pushed c (Nat.le_refl (n + 1))
  have hbefore : pushed c n ≤ pushed c (n + 1) - 1 := pushed_le fun i hi => by
    have := le_pushed c (Nat.le_add_right_of_le (k := 1) hi)
    omega
  have hle : pushed c (n + 1) ≤ max (c (n + 1)) (pushed c n + 1) := pushed_le fun i hi => by
    rcases Nat.lt_or_eq_of_le hi with hi | rfl
    · have := le_pushed c (Nat.le_of_lt_succ hi)
      omega
    · omega
  omega

/-! ## Call by call -/

variable {g : TimestampGenerator} {c : Nat → Int}

theorem stamp_eq_candidate (g : TimestampGenerator) (c : Nat → Int) (n : Nat) :
    g.stamp c n = (g.after c n).candidate (c n) := by
  rw [stamp, next_eq]

/-- The generator keeps the timestamp that it gave last. -/
theorem last_after_succ (g : TimestampGenerator) (c : Nat → Int) (n : Nat) :
    (g.after c (n + 1)).last = g.stamp c n := by
  rw [stamp_eq_candidate, after, next_eq]

/-- A timestamp is the reading of the clock, or one past the last where that is more. -/
theorem candidate_eq {now : Int} (last : Micros.least ≤ g.last) (fits : Micros.Fits now) :
    g.candidate now = max now (min (g.last + 1) Micros.greatest) := by
  unfold candidate Micros.clamp
  obtain ⟨hleast, hgreatest⟩ := fits
  split <;> omega

theorem stamp_zero (start : g.last = Micros.least) (fits : Micros.Fits (c 0)) :
    g.stamp c 0 = max (c 0) (min (Micros.least + 1) Micros.greatest) := by
  have hlast : (g.after c 0).last = Micros.least := start
  rw [stamp_eq_candidate, candidate_eq (Int.le_of_eq hlast.symm) fits, hlast]

theorem least_le_stamp (start : g.last = Micros.least) (fits : ∀ i, Micros.Fits (c i)) :
    ∀ n, Micros.least ≤ g.stamp c n
  | 0 => by
    rw [stamp_zero start (fits 0)]
    exact le_max_of_le_left (fits 0).1
  | n + 1 => by
    have before := least_le_stamp start fits n
    rw [stamp_eq_candidate, candidate_eq (last_after_succ g c n ▸ before) (fits _)]
    exact le_max_of_le_left (fits _).1

theorem stamp_succ (start : g.last = Micros.least) (fits : ∀ i, Micros.Fits (c i)) (n : Nat) :
    g.stamp c (n + 1) = max (c (n + 1)) (min (g.stamp c n + 1) Micros.greatest) := by
  have before := least_le_stamp start fits n
  rw [stamp_eq_candidate, candidate_eq (last_after_succ g c n ▸ before) (fits _), last_after_succ]

theorem stamp_eq (start : g.last = Micros.least) (fits : ∀ i, Micros.Fits (c i)) :
    ∀ n : Nat, g.stamp c n = min Micros.greatest (max (Micros.least + (n + 1)) (pushed c n))
  | 0 => by
    have hle := (fits 0).2
    rw [stamp_zero start (fits 0), pushed_zero]
    omega
  | n + 1 => by
    have hle := (fits (n + 1)).2
    rw [stamp_succ start fits, stamp_eq start fits n, pushed_succ]
    omega

/-- Timestamps that increase and are not behind the clock are nowhere less. -/
theorem stamp_le (start : g.last = Micros.least) (fits : ∀ i, Micros.Fits (c i)) {t : Nat → Int}
    (marked : Micros.least < t 0) (clock : ∀ i, c i ≤ t i)
    (increasing : ∀ i, min (t i + 1) Micros.greatest ≤ t (i + 1)) : ∀ n, g.stamp c n ≤ t n
  | 0 => by
    have hclock := clock 0
    rw [stamp_zero start (fits 0)]
    omega
  | n + 1 => by
    have before := stamp_le start fits marked clock increasing n
    have hclock := clock (n + 1)
    have hnext := increasing n
    rw [stamp_succ start fits]
    omega

/-- **The timestamps are the least that are not behind the clock and increase.**  The generator is new, with any
threshold and interval for its warnings, and the clock shows whatever it likes from call to call. -/
theorem least_past_clock (threshold interval : Span) {c : Nat → Int} (fits : ∀ i, Micros.Fits (c i)) (n : Nat) :
    let g := ofSpans threshold interval
    -- A timestamp is as high as the readings so far push it, or the mark of no timestamp.
    g.stamp c n = min Micros.greatest (max (Micros.least + (n + 1)) (pushed c n)) ∧
    c n ≤ g.stamp c n ∧
    -- They increase until one is the greatest number, and from then on all are.
    (g.stamp c n < g.stamp c (n + 1) ∨ g.stamp c n = Micros.greatest ∧ g.stamp c (n + 1) = Micros.greatest) ∧
    -- No others that start past that mark, are not behind the clock and increase are ahead by less.
    ∀ t : Nat → Int, Micros.least < t 0 → (∀ i, c i ≤ t i) → (∀ i, min (t i + 1) Micros.greatest ≤ t (i + 1)) →
      g.stamp c n ≤ t n := by
  intro g
  have start : g.last = Micros.least := rfl
  have hthis := stamp_eq start fits n
  have hnext := stamp_succ start fits n
  have hpush := le_pushed c (Nat.le_refl n)
  have hread := (fits n).2
  have hread' := (fits (n + 1)).2
  refine ⟨hthis, ?_, ?_, fun t marked clock increasing => stamp_le start fits marked clock increasing n⟩
  · rw [hthis]
    omega
  · omega

/-- A clock that stalls, goes back, and shows the least and the greatest number. -/
def unsteadyClock : Nat → Int
  | 0 | 1 => 5
  | 2 => 3
  | 3 => Micros.least
  | 4 => Micros.greatest
  | _ => 0

theorem unsteady_clock_passed :
    let g := ofSpans (.ofSeconds 1) (.ofSeconds 1)
    (List.range 6).map (g.stamp unsteadyClock) = [5, 6, 7, 8, Micros.greatest, Micros.greatest] ∧
      g.stamp unsteadyClock 3 = min Micros.greatest (max (Micros.least + (3 + 1)) (pushed unsteadyClock 3)) ∧
      unsteadyClock 3 ≤ g.stamp unsteadyClock 3 ∧ g.stamp unsteadyClock 3 < g.stamp unsteadyClock 4 := by
  have fits : ∀ i, Micros.Fits (unsteadyClock i) := fun i => by
    unfold unsteadyClock
    split <;> decide
  obtain ⟨closed, clock, -, -⟩ := least_past_clock (.ofSeconds 1) (.ofSeconds 1) fits 3
  exact ⟨by decide, closed, clock, by decide⟩

end TimestampGenerator

end CqlDispatch
