import CqlDispatch.Backoff
import CqlDispatch.Balancer
import CqlDispatch.Retry
import CqlDispatch.Speculation
import CqlDispatch.Timestamp
import CqlDispatch.Translator
/-!
# The policies of a client

What a client asks when it has a choice: where a request goes, what follows a failure, when down
hosts are probed, when copies are sent, which address to connect to, and which timestamp a write
carries.
-/
namespace CqlDispatch

structure Policies where
  balancer : Balancer
  retry : RetryPolicy := .standard
  backoff : Backoff := .standard
  speculation : Speculation := .never
  translator : Translator := .identity
  /-- Without it the server assigns timestamps. -/
  timestamps : Option Timestamps := some {}

/-- The policies of a client that names none, with its local datacenter if it has one. -/
def Policies.standard (localDc : Option String := none) : Policies :=
  { balancer := .standard localDc }

end CqlDispatch
