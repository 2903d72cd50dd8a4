import CqlDispatch.Failure
import CqlDispatch.NameMap
/-!
# Backoff

How long to wait between the probes of a host that is down.  A policy hands out schedules, and
every schedule is walked on its own: `Schedule.next` gives the next delay and the rest.
-/
namespace CqlDispatch

inductive Schedule where
  | constant (delay : Span)
  /-- `delay`, then twice as long each time up to `longest`, after a zero delay if there is one left. -/
  | doubling (delay longest : Span) (zeroFirst : Bool)
  /-- Delays by number, from `taken` on; the first missing one ends the schedule. -/
  | custom (delays : Nat → Option Span) (taken : Nat)

/-- The next delay and the rest of the schedule, or none when it has run out. -/
def Schedule.next : Schedule → Option (Span × Schedule)
  | constant delay => some (delay, constant delay)
  | doubling delay longest true => some (.zero, doubling delay longest false)
  | doubling delay longest false =>
    some (delay.shorter longest,
      doubling (((delay.shorter longest).doubled?.map (·.shorter longest)).getD longest) longest false)
  | custom delays taken => (delays taken).map (·, custom delays (taken + 1))

inductive Backoff where
  | constant (delay : Span)
  | exponential (base longest : Span) (startWithNoDelay : Bool)
  /-- Delays by the number of the schedule and their own. -/
  | custom (delays : Nat → Nat → Option Span)

namespace Backoff

def defaultBase : Span := .ofSeconds 1
def defaultLongest : Span := .ofSeconds 600

/-- From one second to ten minutes. -/
def standard : Backoff := .exponential defaultBase defaultLongest false

/-- An exponential backoff; the base must be positive and not above the longest delay. -/
def exponential? (base longest : Span) (startWithNoDelay : Bool) : Except Failure Backoff :=
  if base.isZero then .error (.construction "base_delay must be greater than zero")
  else if longest.nanos < base.nanos then
    .error (.construction "base_delay must not exceed max_delay")
  else .ok (.exponential base longest startWithNoDelay)

/-- The schedule of a number.  Only a custom policy tells schedules apart. -/
def schedule : Backoff → Nat → Schedule
  | constant delay, _ => .constant delay
  | exponential base longest zeroFirst, _ => .doubling base longest zeroFirst
  | custom delays, n => .custom (delays n) 0

def options : Backoff → NameMap String
  | constant delay => [("delay", Nat.repr delay.millis)]
  | exponential base longest zeroFirst =>
    [("baseDelay", Nat.repr base.millis), ("maxDelay", Nat.repr longest.millis),
      ("startWithNoDelay", if zeroFirst then "true" else "false")]
  | custom _ => []

end Backoff

/-- The first `n` delays of a schedule; none stands for an end that was reached before. -/
def Schedule.take : Nat → Schedule → List (Option Span)
  | 0, _ => []
  | n + 1, s =>
    match s.next with
    | some (delay, s) => some delay :: s.take n
    | none => none :: s.take n

end CqlDispatch
