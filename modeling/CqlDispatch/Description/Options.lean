import CqlDispatch.Description.Reading
import CqlDispatch.Options
/-!
# Options in JSON

Drafts are described by the list of what is set on them, in order, each as a name and a value.
-/
namespace CqlDispatch

namespace Json

open Reading

def setQuery (d : QueryDraft) (call : String × Json) : Reading QueryDraft := do
  let v := call.2
  match call.1 with
  | "keyspace" => pure { d with keyspace := some (← v.asString) }
  | "consistency" => pure { d with consistency := some (← v.asConsistency) }
  | "serial_consistency" => pure { d with serial := some (← v.asConsistency) }
  | "idempotent" => pure { d with idempotent := some (← v.asBool) }
  | "page_size" => pure { d with pageSize := some (← v.asNat) }
  | "request_timeout" => pure { d with timeout := some (some (← v.asSpan)) }
  | "no_request_timeout" => pure { d with timeout := some none }
  | _ => malformed

def setOption (d : OptionsDraft) (call : String × Json) : Reading OptionsDraft := do
  let v := call.2
  match call.1 with
  | "keyspace" => pure { d with keyspace := some (← v.asString) }
  | "consistency" => pure { d with consistency := some (← v.asConsistency) }
  | "serial_consistency" => pure { d with serial := some (← v.asConsistency) }
  | "idempotent" => pure { d with idempotent := some (← v.asBool) }
  | "page_size" => pure { d with pageSize := some (← v.asNat) }
  | "request_timeout" => pure { d with timeout := some (← v.asSpan) }
  | "routing_key" => pure { d with routingKey := some (← v.asBytes) }
  | "timestamp" => pure { d with timestamp := some (← v.asInt) }
  | "custom_payload" => do
    let (name, bytes) ← v.asPair asString asBytes
    pure { d with payload := NameMap.insert name bytes d.payload }
  | _ => malformed

def asCall : Json → Reading (String × Json)
  | array [string name] => pure (name, null)
  | array [string name, v] => pure (name, v)
  | _ => malformed

def asQueryDraft (j : Json) : Reading QueryDraft := do (← j.asList asCall).foldlM setQuery {}
def asOptionsDraft (j : Json) : Reading OptionsDraft := do (← j.asList asCall).foldlM setOption {}

end Json

end CqlDispatch
