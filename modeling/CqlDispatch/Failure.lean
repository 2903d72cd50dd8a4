import CqlDispatch.Consistency
import CqlDispatch.Net.Ip
import CqlDispatch.Time.Span
/-!
# Failures

Everything that can go wrong with a request, as causes: what a server reports, what a connection
runs into, what the client itself decides, and what was wrong with an argument or a setting.
`Failure.message` is the only place where the wording is, and `Failure.kind` the short stable
label used by counters.

An `Overflow` is no failure that anybody is told of: a number was too big for the machine, and
whatever needed it stops there.
-/
namespace CqlDispatch

/-- What a number was too big for. -/
inductive Overflow where
  /-- The memory for a list of so many. -/
  | room
  /-- The slots of one host. -/
  | slots
  /-- The clock. -/
  | clock
  deriving DecidableEq, Repr

/-- Errors of a server that carry nothing but a code and a message. -/
inductive ServerCode where
  | serverError | protocolError | badCredentials | overloaded | isBootstrapping | truncateError
  | readFailure | functionFailure | writeFailure | syntaxFault | unauthorized | invalid | configError
  | alreadyExists | unprepared
  deriving DecidableEq, Repr

namespace ServerCode

def codes : List ServerCode :=
  [serverError, protocolError, badCredentials, overloaded, isBootstrapping, truncateError,
    readFailure, functionFailure, writeFailure, syntaxFault, unauthorized, invalid, configError,
    alreadyExists, unprepared]

def code : ServerCode → Nat
  | serverError => 0x0000 | protocolError => 0x000A | badCredentials => 0x0100
  | overloaded => 0x1001 | isBootstrapping => 0x1002 | truncateError => 0x1003
  | readFailure => 0x1300 | functionFailure => 0x1400 | writeFailure => 0x1500
  | syntaxFault => 0x2000 | unauthorized => 0x2100 | invalid => 0x2200 | configError => 0x2300
  | alreadyExists => 0x2400 | unprepared => 0x2500

def ofCode? (n : Int) : Option ServerCode := codes.find? fun c => (c.code : Int) == n

def name : ServerCode → String
  | serverError => "server_error" | protocolError => "protocol_error"
  | badCredentials => "bad_credentials" | overloaded => "overloaded"
  | isBootstrapping => "is_bootstrapping" | truncateError => "truncate_error"
  | readFailure => "read_failure" | functionFailure => "function_failure"
  | writeFailure => "write_failure" | syntaxFault => "syntax_error" | unauthorized => "unauthorized"
  | invalid => "invalid" | configError => "config_error" | alreadyExists => "already_exists"
  | unprepared => "unprepared"

/-- Whether another host may do better; only these errors are put to the retry policy. -/
def isRetryable : ServerCode → Bool
  | serverError | overloaded | isBootstrapping | truncateError => true
  | _ => false

def text (c : ServerCode) : String := c.name ++ " (0x" ++ Hex.padded 4 c.code ++ ")"

end ServerCode

inductive Failure where
  /-- The plan ran out; `errors` is what was seen on each host. -/
  | noHostAvailable (errors : List (Address × String))
  | readTimeout (consistency : Consistency) (received blockFor : Nat) (dataPresent : Bool)
  | writeTimeout (consistency : Consistency) (received blockFor : Nat) (kind : WriteKind)
  | unavailable (consistency : Consistency) (required alive : Nat)
  | connection (reason : String)
  | operationTimedOut (host : Address) (reason : String)
  | response (code : ServerCode) (reason : String)
  | requestTimedOut (limit : Span)
  | cancelled
  | busy (host : Address) (maxInFlight : Nat)
  | authentication (reason : String)
  | unsupportedOperation (reason : String)
  | construction (reason : String)
  | protocol (reason : String)
  | configuration (reason : String)
  | io (reason : String)
  deriving DecidableEq, Repr, Inhabited

namespace Failure

def kind : Failure → String
  | noHostAvailable _ => "no_host_available"
  | readTimeout .. => "read_timeout"
  | writeTimeout .. => "write_timeout"
  | unavailable .. => "unavailable"
  | connection _ => "connection"
  | operationTimedOut .. => "operation_timed_out"
  | response .. => "response"
  | requestTimedOut _ => "request_timed_out"
  | cancelled => "cancelled"
  | busy .. => "busy"
  | authentication _ => "authentication"
  | unsupportedOperation _ => "unsupported_operation"
  | construction _ => "construction"
  | protocol _ => "protocol"
  | configuration _ => "configuration"
  | io _ => "io"

/-- Why no host was available: no host in the plan, or how many were tried. -/
def noHostReason (errors : List (Address × String)) : String :=
  if errors.isEmpty then "query plan was empty"
  else "all " ++ Nat.repr errors.length ++ " tried hosts failed"

def boolText (b : Bool) : String := if b then "true" else "false"

def message : Failure → String
  | noHostAvailable errors => "no host available: " ++ noHostReason errors
  | readTimeout c received blockFor present =>
    "read timeout at consistency " ++ c.name ++ ": " ++ Nat.repr received ++ " of " ++
      Nat.repr blockFor ++ " replicas responded (data present: " ++ boolText present ++ ")"
  | writeTimeout c received blockFor kind =>
    "write timeout at consistency " ++ c.name ++ " for " ++ kind.name ++ " write: " ++
      Nat.repr received ++ " of " ++ Nat.repr blockFor ++ " replicas acknowledged"
  | unavailable c required alive =>
    "not enough replicas available at consistency " ++ c.name ++ ": " ++ Nat.repr alive ++
      " alive, " ++ Nat.repr required ++ " required"
  | connection reason => "connection error: " ++ reason
  | operationTimedOut host reason => "operation timed out on " ++ host.text ++ ": " ++ reason
  | response code reason => "server error " ++ code.text ++ ": " ++ reason
  | requestTimedOut limit => "request timed out after " ++ limit.text
  | cancelled => "request cancelled"
  | busy host maxInFlight =>
    "host " ++ host.text ++ " is busy: " ++ Nat.repr maxInFlight ++
      " requests in flight and the wait queue is full"
  | authentication reason => "authentication error: " ++ reason
  | unsupportedOperation reason => "unsupported operation: " ++ reason
  | construction reason => "invalid argument: " ++ reason
  | protocol reason => "protocol error: " ++ reason
  | configuration reason => "configuration error: " ++ reason
  | io reason => "I/O error: " ++ reason

def isConstruction : Failure → Bool
  | construction _ | unsupportedOperation _ | configuration _ => true
  | _ => false

end Failure

end CqlDispatch
