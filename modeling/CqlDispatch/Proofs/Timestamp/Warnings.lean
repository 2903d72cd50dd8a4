import CqlDispatch.Proofs.Timestamp.Readings
/-!
# Warnings of drift

A call warns where its timestamp is ahead of the clock by more than the threshold, unless it comes too soon after an
earlier warning.  The generator keeps one reading, that of its last warning, and the clock may go back.  But a call
warns only where the clock has gone on since then, so what is kept is the latest reading of all warnings (`Kept`),
and a call that is late enough after this one is late enough after each of them (`warns_iff`).
-/
namespace CqlDispatch

namespace Micros

theorem lt_clamp_iff {b x : Int} (low : least ≤ b) (high : b < greatest) : b < clamp x ↔ b < x := by
  unfold clamp
  omega

theorem le_clamp_iff {b x : Int} (low : least < b) (high : b ≤ greatest) : b ≤ clamp x ↔ b ≤ x := by
  unfold clamp
  omega

end Micros

namespace TimestampGenerator

/-- Whether a call warns. -/
def warns (g : TimestampGenerator) (c : Nat → Int) (n : Nat) : Bool := ((g.after c n).next (c n)).2.1.isSome

/-- The reading that is kept is the latest at which a call before `n` warned, or the mark of no warning. -/
structure Kept (g : TimestampGenerator) (c : Nat → Int) (n : Nat) : Prop where
  latest : ∀ m < n, g.warns c m = true → c m ≤ (g.after c n).lastWarning
  source : (g.after c n).lastWarning = Micros.least ∨ ∃ m < n, g.warns c m = true ∧ c m = (g.after c n).lastWarning

theorem settings_after (g : TimestampGenerator) (c : Nat → Int) :
    ∀ n, (g.after c n).threshold = g.threshold ∧ (g.after c n).interval = g.interval
  | 0 => ⟨rfl, rfl⟩
  | n + 1 => by
    rw [after, next_eq]
    exact settings_after g c n

theorem warns_eq_drift (g : TimestampGenerator) (c : Nat → Int) (n : Nat) :
    g.warns c n = ((g.after c n).drift? (c n) (g.stamp c n)).isSome := by
  rw [warns, next_eq, stamp_eq_candidate]

theorem lastWarning_after_succ (g : TimestampGenerator) (c : Nat → Int) (n : Nat) :
    (g.after c (n + 1)).lastWarning = if g.warns c n then c n else (g.after c n).lastWarning := by
  rw [warns_eq_drift, stamp_eq_candidate, after, next_eq]

/-- A call warns by the reading that is kept. -/
theorem warns_iff_kept (g : TimestampGenerator) (c : Nat → Int) (n : Nat) :
    g.warns c n = true ↔ g.threshold < Micros.clamp (g.stamp c n - c n) ∧
      ((g.after c n).lastWarning = Micros.least ∨
        g.interval ≤ Micros.clamp (c n - (g.after c n).lastWarning)) := by
  obtain ⟨hthreshold, hinterval⟩ := settings_after g c n
  rw [warns_eq_drift, ← hthreshold, ← hinterval]
  unfold drift?
  dsimp only
  split
  · next hle => exact iff_of_false Bool.false_ne_true fun h => absurd h.1 (Int.not_lt.2 hle)
  · next hlt =>
    split
    · next due => exact iff_of_true rfl ⟨Int.not_le.1 hlt, due⟩
    · next early => exact iff_of_false Bool.false_ne_true fun h => early h.2

variable {g : TimestampGenerator} {c : Nat → Int}

/-- Late enough after the reading that is kept is late enough after every warning. -/
theorem Kept.due_iff {n : Nat} (kept : g.Kept c n) (reads : ∀ i, Micros.least < c i) (low : Micros.least < g.interval)
    (high : g.interval ≤ Micros.greatest) :
    ((g.after c n).lastWarning = Micros.least ∨ g.interval ≤ Micros.clamp (c n - (g.after c n).lastWarning)) ↔
      ∀ m < n, g.warns c m = true → g.interval ≤ c n - c m := by
  rw [Micros.le_clamp_iff low high]
  constructor
  · intro due m hm hw
    have hlatest := kept.latest m hm hw
    have hreads := reads m
    omega
  · intro due
    rcases kept.source with hnone | ⟨m, hm, hw, hc⟩
    · exact .inl hnone
    · exact .inr (hc ▸ due m hm hw)

theorem kept_after (start : g.lastWarning = Micros.least) (reads : ∀ i, Micros.least < c i) (low : 0 ≤ g.interval)
    (high : g.interval ≤ Micros.greatest) : ∀ n, g.Kept c n
  | 0 => ⟨fun m hm => absurd hm (Nat.not_lt_zero m), .inl start⟩
  | n + 1 => by
    have before := kept_after start reads low high n
    have hnext := lastWarning_after_succ g c n
    cases hw : g.warns c n with
    | false =>
      rw [hw, if_neg Bool.false_ne_true] at hnext
      refine ⟨fun m hm hwarned => ?_, ?_⟩
      · rcases Nat.lt_or_eq_of_le (Nat.le_of_lt_succ hm) with hm | rfl
        · exact hnext ▸ before.latest m hm hwarned
        · rw [hw] at hwarned
          cases hwarned
      · rw [hnext]
        exact before.source.imp id fun ⟨m, hm, hwarned⟩ => ⟨m, Nat.lt_succ_of_lt hm, hwarned⟩
    | true =>
      rw [hw, if_pos rfl] at hnext
      have due := (before.due_iff reads (by unfold Micros.least; omega) high).1 ((warns_iff_kept g c n).1 hw).2
      refine ⟨fun m hm hwarned => ?_, .inr ⟨n, Nat.lt_succ_self n, hw, hnext.symm⟩⟩
      rw [hnext]
      rcases Nat.lt_or_eq_of_le (Nat.le_of_lt_succ hm) with hm | rfl
      · have := due m hm hwarned
        omega
      · exact Int.le_refl _

/-- **A call warns if its timestamp is too far ahead and no warning is too recent.**  The generator is new, and its clock
shows whatever it likes from call to call, but never the mark of no warning.  So any two warnings are the interval
apart on the clock. -/
theorem warns_iff (threshold interval : Span) (hthreshold : threshold.micros < Micros.greatest)
    (hinterval : interval.micros < Micros.greatest) {c : Nat → Int} (reads : ∀ i, Micros.least < c i) (n : Nat) :
    let g := ofSpans threshold interval
    (g.warns c n = true ↔ threshold.micros < g.stamp c n - c n ∧
      ¬ ∃ m < n, g.warns c m = true ∧ c n - c m < interval.micros) ∧
    ∀ m < n, g.warns c m = true → g.warns c n = true → interval.micros ≤ c n - c m := by
  intro g
  have ht : g.threshold = threshold.micros := Int.min_eq_right (Int.le_of_lt hthreshold)
  have hi : g.interval = interval.micros := Int.min_eq_right (Int.le_of_lt hinterval)
  have hlow : Micros.least < g.interval := by
    unfold Micros.least
    omega
  have hhigh : g.interval ≤ Micros.greatest := by omega
  have kept : g.Kept c n := kept_after rfl reads (by omega) hhigh n
  have hwarns : g.warns c n = true ↔ threshold.micros < g.stamp c n - c n ∧
      ∀ m < n, g.warns c m = true → (interval.micros : Int) ≤ c n - c m := by
    rw [warns_iff_kept, kept.due_iff reads hlow hhigh, ht, hi, Micros.lt_clamp_iff _ hthreshold]
    unfold Micros.least
    omega
  refine ⟨hwarns.trans (and_congr_right fun _ => ?_), fun m hm hw hw' => (hwarns.1 hw').2 m hm hw⟩
  push Not
  rfl

/-- A clock that goes back behind its first reading, and further back after a warning. -/
def clockGoneBack : Nat → Int
  | 0 => 100
  | 1 => 5
  | 2 => 14
  | 3 => -50
  | _ => 15

theorem warned_again_after_interval :
    let g := ofSpans ⟨2000⟩ ⟨10000⟩
    (List.range 5).map (g.warns clockGoneBack) = [false, true, false, false, true] ∧
      2 < g.stamp clockGoneBack 4 - clockGoneBack 4 ∧
      (¬ ∃ m < 4, g.warns clockGoneBack m = true ∧ clockGoneBack 4 - clockGoneBack m < 10) ∧
      10 ≤ clockGoneBack 4 - clockGoneBack 1 := by
  intro g
  have reads : ∀ i, Micros.least < clockGoneBack i := fun i => by
    unfold clockGoneBack
    split <;> decide
  obtain ⟨hwarns, hapart⟩ := warns_iff ⟨2000⟩ ⟨10000⟩ (by decide) (by decide) reads 4
  obtain ⟨hahead, hnone⟩ := hwarns.1 (by decide)
  exact ⟨by decide, hahead, hnone, hapart 1 (by decide) (by decide) (by decide)⟩

end TimestampGenerator

end CqlDispatch
