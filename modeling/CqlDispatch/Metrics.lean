import CqlDispatch.Time.Span
/-!
# What a client counts

The calls that a client makes on whoever counts for it: how requests ended and how long they took,
what the retry policy decided, copies that were started, and how many hosts are up.
-/
namespace CqlDispatch

inductive MetricCall where
  | success (latency : Span)
  | error (kind : String) (latency : Span)
  | retry (decision : String)
  | speculative
  | hostsUp (count : Nat)
  deriving DecidableEq, Repr

end CqlDispatch
