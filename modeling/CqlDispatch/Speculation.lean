import CqlDispatch.Failure
import CqlDispatch.NameMap
/-!
# Speculation

When to send further copies of an idempotent request that is still running.  A policy gives each
request a sequence of delays: the k-th says how long after the start of the execution before it
the next one starts, and the first missing one ends the sequence.
-/
namespace CqlDispatch

inductive Speculation where
  | never
  | constant (delay : Span) (limit : Nat)
  | custom (delays : Option String → String → Nat → Option Span)

namespace Speculation

/-- A fixed delay and a positive number of copies. -/
def constant? (delay : Span) (limit : Nat) : Except Failure Speculation :=
  if limit = 0 then
    .error (.construction "max_speculative_executions must be greater than zero")
  else .ok (.constant delay limit)

/-- The delay of the copy with this number, counted from zero. -/
def delay? (s : Speculation) (keyspace : Option String) (query : String) (number : Nat) :
    Option Span :=
  match s with
  | never => none
  | constant delay limit => if number < limit then some delay else none
  | custom delays => delays keyspace query number

def options : Speculation → NameMap String
  | constant delay limit =>
    [("delay", Nat.repr delay.millis), ("maxSpeculativeExecutions", Nat.repr limit)]
  | _ => []

end Speculation

end CqlDispatch
