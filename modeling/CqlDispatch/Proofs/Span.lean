import CqlDispatch.Time.Span
/-!
# When a span has passed

Moments are counted in milliseconds and spans in nanoseconds, so a span has passed at the first moment that is not
before its end.
-/
namespace CqlDispatch
namespace Span

/-- Between two moments, in milliseconds, a span has passed. -/
def HasPassed (d : Span) (u t : Nat) : Prop := u * 1000000 + d.nanos ≤ t * 1000000

instance (d : Span) (u t : Nat) : Decidable (d.HasPassed u t) := inferInstanceAs (Decidable (_ ≤ _))

theorem hasPassed_ticks {d : Span} {u t : Nat} (h : u + d.ticks ≤ t) : d.HasPassed u t := by
  have hticks := d.le_ticks
  unfold HasPassed
  omega

theorem hasPassed_sleep {d : Span} {u t : Nat} (h : u + d.sleepTicks ≤ t) :
    (d.shorter longestSleep).HasPassed u t :=
  hasPassed_ticks h

/-- A span so many times over. -/
def times (d : Span) (n : Nat) : Span := ⟨n * d.nanos⟩

theorem hasPassed_none (d : Span) (u : Nat) : (d.times 0).HasPassed u u := by
  have hzero : (d.times 0).nanos = 0 := Nat.zero_mul _
  unfold HasPassed
  omega

theorem HasPassed.next {d : Span} {n u v t : Nat} (before : (d.times n).HasPassed u v) (last : d.HasPassed v t) :
    (d.times (n + 1)).HasPassed u t := by
  have hsplit : (d.times (n + 1)).nanos = (d.times n).nanos + d.nanos := Nat.succ_mul n d.nanos
  unfold HasPassed at before last ⊢
  rw [hsplit]
  calc u * 1000000 + ((d.times n).nanos + d.nanos)
      = u * 1000000 + (d.times n).nanos + d.nanos := (Nat.add_assoc ..).symm
    _ ≤ v * 1000000 + d.nanos := Nat.add_le_add_right before _
    _ ≤ t * 1000000 := last

end Span

end CqlDispatch
