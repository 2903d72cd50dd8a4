import CqlDispatch.Description.Reading
/-!
# Failures in JSON

A failure is described by its kind and the parts of that kind.  It is shown as its kind and its
message, with what was seen on each host where no host was available.
-/
namespace CqlDispatch

namespace Json

open Reading

def asServerCode (j : Json) : Reading ServerCode := do ofOption (ServerCode.ofCode? (← j.asInt))

def asFailure (j : Json) : Reading Failure := do
  let reason := j.want "message" asString
  let level := j.want "consistency" asConsistency
  match ← j.want "kind" asString with
  | "read_timeout" =>
    pure (.readTimeout (← level) (← j.want "received" asNat) (← j.want "block_for" asNat)
      (← j.flag "data_present"))
  | "write_timeout" =>
    pure (.writeTimeout (← level) (← j.want "received" asNat) (← j.want "block_for" asNat)
      (← j.want "write_type" asWriteKind))
  | "unavailable" =>
    pure (.unavailable (← level) (← j.want "required" asNat) (← j.want "alive" asNat))
  | "connection" => .connection <$> reason
  | "authentication" => .authentication <$> reason
  | "unsupported_operation" => .unsupportedOperation <$> reason
  | "construction" => .construction <$> reason
  | "protocol" => .protocol <$> reason
  | "configuration" => .configuration <$> reason
  | "io" => .io <$> reason
  | "operation_timed_out" => pure (.operationTimedOut (← j.want "host" asAddress) (← reason))
  | "response" => pure (.response (← j.want "code" asServerCode) (← reason))
  | "request_timed_out" => .requestTimedOut <$> j.want "after" asSpan
  | "cancelled" => pure .cancelled
  | "busy" => pure (.busy (← j.want "host" asAddress) (← j.want "max_in_flight" asNat))
  | "no_host_available" =>
    .noHostAvailable <$> j.each "errors" (asPair asAddress asString)
  | _ => malformed

end Json

def Failure.json (f : Failure) : Json :=
  let seen := match f with
    | .noHostAvailable errors =>
      [("errors", Json.array (errors.map fun (a, m) => .array [.string a.text, .string m]))]
    | _ => []
  .object ([("error", .string f.kind), ("message", .string f.message)] ++ seen)

end CqlDispatch
