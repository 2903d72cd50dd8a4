import CqlDispatch.Description.Options
import CqlDispatch.Settings
/-!
# Settings in JSON

A draft of settings is described by the list of what is set on it, in order, each as a name and a
value.
-/
namespace CqlDispatch

namespace Json

open Reading

def asCredentials (j : Json) : Reading Credentials := do
  let (username, password) ← j.asPair asString asString
  pure ⟨username, password⟩

def setSetting (d : SettingsDraft) (call : String × Json) : Reading SettingsDraft := do
  let v := call.2
  match call.1 with
  | "contact_points" => pure { d with contactPoints := ← v.asList asIp }
  | "add_contact_point" => pure { d with contactPoints := d.contactPoints ++ [← v.asIp] }
  | "port" => pure { d with port := some (.ofNat (← v.asNat)) }
  | "local_datacenter" => pure { d with localDatacenter := some (← v.asString) }
  | "connection_timeout" => pure { d with connectionTimeout := some (← v.asSpan) }
  | "query" => pure { d with query := ← (← v.asList asCall).foldlM setQuery d.query }
  | "pooling" =>
    pure { d with
      maxInFlight := (← v.allow "max" asNat).or d.maxInFlight
      maxQueued := (← v.allow "queued" asNat).or d.maxQueued }
  | "auth" => pure { d with auth := some (.credentials (← v.asCredentials)) }
  | "no_auth" => pure { d with auth := some .nothing }
  | _ => malformed

def asSettingsDraft (j : Json) : Reading SettingsDraft := do
  (← j.asList asCall).foldlM setSetting {}

end Json

end CqlDispatch
