import CqlDispatch.Text.Digits
/-!
# Spans of time

A span is a whole number of nanoseconds; the longest one is just below `2 ^ 64` seconds.  Its
description uses the largest unit that it reaches and the exact fraction.

Timers tick in milliseconds: `Span.ticks` is the first tick at which a span has passed.  A sleep
ends after thirty years at the latest.
-/
namespace CqlDispatch

structure Span where
  nanos : Nat
  deriving DecidableEq, Repr, Inhabited

namespace Span

def zero : Span := ⟨0⟩

/-- The longest span: one nanosecond short of `2 ^ 64` seconds. -/
def longest : Span := ⟨18446744073709551615999999999⟩

def ofMillis (n : Nat) : Span := ⟨n * 1000000⟩
def ofSeconds (n : Nat) : Span := ⟨n * 1000000000⟩

def isZero (s : Span) : Bool := s.nanos == 0
def millis (s : Span) : Nat := s.nanos / 1000000
def micros (s : Span) : Nat := s.nanos / 1000
def seconds (s : Span) : Nat := s.nanos / 1000000000

instance : LE Span := ⟨fun a b => a.nanos ≤ b.nanos⟩
instance (a b : Span) : Decidable (a ≤ b) := inferInstanceAs (Decidable (a.nanos ≤ b.nanos))

def shorter (a b : Span) : Span := if a ≤ b then a else b

/-- Twice the span, unless that is too long. -/
def doubled? (s : Span) : Option Span :=
  if 2 * s.nanos ≤ longest.nanos then some ⟨2 * s.nanos⟩ else none

/-- The first tick of a timer at which the span has passed, counted in milliseconds. -/
def ticks (s : Span) : Nat := (s.nanos + 999999) / 1000000

/-- No sleep lasts longer than thirty years. -/
def longestSleep : Span := ofSeconds (86400 * 365 * 30)

/-- Ticks until a sleep of this span is over. -/
def sleepTicks (s : Span) : Nat := (s.shorter longestSleep).ticks

/-- A fraction of `width` digits without its trailing zeros, after a point. -/
def fraction (width n : Nat) : String :=
  let kept := ((zeroPadded width n).toList.reverse.dropWhile (· == '0')).reverse
  if kept.isEmpty then "" else String.ofList ('.' :: kept)

/-- The description in the largest unit reached: `1.5s`, `20ms`, `999.999µs`, `0ns`. -/
def text (s : Span) : String :=
  if 1000000000 ≤ s.nanos then
    Nat.repr (s.nanos / 1000000000) ++ fraction 9 (s.nanos % 1000000000) ++ "s"
  else if 1000000 ≤ s.nanos then
    Nat.repr (s.nanos / 1000000) ++ fraction 6 (s.nanos % 1000000) ++ "ms"
  else if 1000 ≤ s.nanos then
    Nat.repr (s.nanos / 1000) ++ fraction 3 (s.nanos % 1000) ++ "µs"
  else Nat.repr s.nanos ++ "ns"

theorem le_ticks (s : Span) : s.nanos ≤ s.ticks * 1000000 := by
  simp only [ticks]
  omega

end Span

end CqlDispatch
