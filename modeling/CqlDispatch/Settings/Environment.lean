import CqlDispatch.Settings.Document
/-!
# Settings from the environment

Variables that stand for entries of a settings document.  Contact points are separated by commas,
and empty ones do not count.  A port that is no number is an error; times that are no numbers are
as good as not set.
-/
namespace CqlDispatch

namespace Environment

/-- The contact points of a list with commas. -/
def contactPoints (s : String) : List String :=
  ((s.splitOn ",").map trim).filter (!·.isEmpty)

def readPort (s : String) : Except Failure UInt16 :=
  match readUnsigned greatest16 s with
  | .ok n => .ok (.ofNat n)
  | .error fault => .error (.configuration ("invalid CQL_PORT: " ++ fault.message))

def millis? (s : String) : Option Nat := (readUnsigned greatest64 s).toOption

def document (var : String → Option String) : Except Failure SettingsDocument := do
  let port ← (var "CQL_PORT").mapM readPort
  pure {
    contactPoints := (var "CQL_CONTACT_POINTS").map contactPoints
    port := port
    localDatacenter := var "CQL_LOCAL_DATACENTER"
    connectionTimeoutMs := (var "CQL_CONNECTION_TIMEOUT_MS").bind millis?
    query := some {
      keyspace := var "CQL_KEYSPACE"
      consistency := var "CQL_CONSISTENCY"
      requestTimeoutMs := (var "CQL_REQUEST_TIMEOUT_MS").bind millis? }
    auth := some { username := var "CQL_USERNAME", password := var "CQL_PASSWORD" } }

def settings (var : String → Option String) : Except Failure Settings :=
  (document var).bind (·.settings)

end Environment

end CqlDispatch
