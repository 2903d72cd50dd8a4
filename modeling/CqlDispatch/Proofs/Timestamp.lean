import CqlDispatch.Timestamp
/-!
# Drawing timestamps

Whatever its clock reads, a generator goes past the last timestamp, as long as that is not the greatest number there
is (`stamps_increasing`).
-/
namespace CqlDispatch

/-- **One call**: the timestamp and the warning are worked out from what is kept, and kept in its place. -/
theorem TimestampGenerator.next_eq (g : TimestampGenerator) (now : Int) :
    g.next now = (g.candidate now, g.drift? now (g.candidate now),
      { g with
        last := g.candidate now
        lastWarning := if (g.drift? now (g.candidate now)).isSome then now else g.lastWarning }) := by
  unfold next
  dsimp only
  cases g.drift? now (g.candidate now) <;> rfl

namespace Timestamps

/-- The generator after so many timestamps were drawn. -/
def after (t : Timestamps) : Nat → Timestamps
  | 0 => t
  | n + 1 => (t.after n).next.2.2

/-- The first timestamps that are drawn, in their order. -/
def stamps (t : Timestamps) : Nat → List Int
  | 0 => []
  | n + 1 => t.stamps n ++ [(t.after n).next.1]

theorem next_eq_candidate (t : Timestamps) : t.next.1 = t.generator.candidate t.clock.read.1 :=
  congrArg (·.1) (t.generator.next_eq t.clock.read.1)

/-- The generator keeps the timestamp that it gave out last. -/
theorem last_next (t : Timestamps) : t.next.2.2.generator.last = t.next.1 := by
  show (t.generator.next t.clock.read.1).2.2.last = (t.generator.next t.clock.read.1).1
  rw [TimestampGenerator.next_eq]

/-- A timestamp is past the one before, or the greatest. -/
theorem past_last (t : Timestamps) : min (t.generator.last + 1) Micros.greatest ≤ t.next.1 := by
  rw [next_eq_candidate]
  unfold TimestampGenerator.candidate Micros.clamp
  split <;> omega

/-- None of the timestamps is past the last, but for those past the greatest number. -/
theorem le_last {t : Timestamps} {x : Int} : ∀ {n : Nat}, x ∈ t.stamps n →
    min x Micros.greatest ≤ (t.after n).generator.last
  | n + 1, hx => by
    rw [after, last_next]
    rcases List.mem_append.1 hx with hx | hx
    · have before := le_last hx
      have past := (t.after n).past_last
      omega
    · rw [List.mem_singleton.1 hx]
      exact Int.min_le_left ..

/-- **Each timestamp is less than all later ones**, as long as it is not the greatest number. -/
theorem stamps_increasing (t : Timestamps) : ∀ n, (t.stamps n).Pairwise fun x y => x < Micros.greatest → x < y
  | 0 => .nil
  | n + 1 => by
    refine List.pairwise_append.2 ⟨t.stamps_increasing n, List.pairwise_singleton .., fun x hx y hy below => ?_⟩
    obtain rfl := List.mem_singleton.1 hy
    have before := le_last hx
    have past := (t.after n).past_last
    omega

end Timestamps

end CqlDispatch
