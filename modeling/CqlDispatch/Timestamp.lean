import CqlDispatch.NameMap
import CqlDispatch.Time.Span
/-!
# Write timestamps

Microseconds since the epoch that the client attaches to writes, so that later writes win.  They
strictly increase whatever the clock does: where the clock has not moved past the last timestamp,
the next one is the last plus one.

When timestamps run ahead of the clock by more than a threshold, a warning tells by how much, at
most one in an interval of the clock.  All numbers are signed 64-bit; sums and differences stop
at the ends of that range.
-/
namespace CqlDispatch

namespace Micros

def least : Int := -9223372036854775808
def greatest : Int := 9223372036854775807

/-- The nearest number in the range. -/
def clamp (n : Int) : Int := max least (min greatest n)

/-- Whole microseconds of a span, at most the greatest number. -/
def ofSpan (s : Span) : Int := min greatest s.micros

end Micros

/-- A generator with the last timestamp and the clock reading at the last warning; `Micros.least`
stands for none yet. -/
structure TimestampGenerator where
  last : Int := Micros.least
  lastWarning : Int := Micros.least
  threshold : Int := Micros.ofSpan (.ofSeconds 1)
  interval : Int := Micros.ofSpan (.ofSeconds 1)
  deriving DecidableEq, Repr

namespace TimestampGenerator

def ofSpans (threshold interval : Span) : TimestampGenerator :=
  { threshold := Micros.ofSpan threshold, interval := Micros.ofSpan interval }

def candidate (g : TimestampGenerator) (now : Int) : Int :=
  if g.last < now then now else Micros.clamp (g.last + 1)

/-- How far a timestamp is ahead of the clock, if that is worth a warning now. -/
def drift? (g : TimestampGenerator) (now timestamp : Int) : Option Int :=
  let drift := Micros.clamp (timestamp - now)
  if drift ≤ g.threshold then none
  else if g.lastWarning = Micros.least ∨ g.interval ≤ Micros.clamp (now - g.lastWarning) then
    some drift
  else none

/-- The next timestamp, the drift of a warning that goes with it, and the generator after it. -/
def next (g : TimestampGenerator) (now : Int) : Int × Option Int × TimestampGenerator :=
  let t := g.candidate now
  match g.drift? now t with
  | some drift => (t, some drift, { g with last := t, lastWarning := now })
  | none => (t, none, { g with last := t })

def options (g : TimestampGenerator) : NameMap String :=
  [("minLogInterval", intText (g.interval / 1000)), ("warningThreshold", intText (g.threshold / 1000))]

end TimestampGenerator

/-- A clock given by its readings, the last of which stays for ever; without any it reads zero. -/
structure Clock where
  readings : List Int := []
  deriving DecidableEq, Repr

def Clock.read (c : Clock) : Int × Clock :=
  match c.readings with
  | [] => (0, c)
  | [t] => (t, c)
  | t :: rest => (t, ⟨rest⟩)

/-- A generator together with the clock it reads. -/
structure Timestamps where
  generator : TimestampGenerator := {}
  clock : Clock := {}
  deriving DecidableEq, Repr

/-- Reads the clock and makes the next timestamp, with the drift of its warning if there is one. -/
def Timestamps.next (t : Timestamps) : Int × Option Int × Timestamps :=
  let (now, clock) := t.clock.read
  let (stamp, drift, generator) := t.generator.next now
  (stamp, drift, ⟨generator, clock⟩)

end CqlDispatch
