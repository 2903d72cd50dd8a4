import CqlDispatch.Options
/-!
# Retry policies

What to do after a failed attempt: try again on the same host or the next one, possibly at another
consistency level, give the failure to the caller, or report an empty success.  A policy is asked
about four kinds of failure and sees the operation, which knows how often it was retried.

* `standard` retries once on the same host where the next attempt is likely to succeed, and goes to
  the next host after connection failures, or once when replicas were missing;
* `fallthrough` never retries;
* `idempotenceAware` lets its child decide only where a second attempt cannot apply a statement
  twice: for idempotent statements, and where no replica was contacted;
* `custom` decides by rules of its own.
-/
namespace CqlDispatch

inductive Decision where
  /-- Try again; without a level the current one is kept. -/
  | retry (consistency : Option Consistency) (sameHost : Bool)
  /-- The failure goes to the caller. -/
  | rethrow
  /-- An empty success. -/
  | ignore
  deriving DecidableEq, Repr

namespace Decision

def isRetry : Decision → Bool
  | retry _ _ => true
  | _ => false

def label : Decision → String
  | retry _ true => "retry_same_host"
  | retry _ false => "retry_next_host"
  | rethrow => "rethrow"
  | ignore => "ignore"

def consistency? : Decision → Option Consistency
  | retry c _ => c
  | _ => none

end Decision

structure Operation where
  statement : Statement
  options : ExecutionOptions
  retryCount : UInt32

def Operation.isIdempotent (o : Operation) : Bool := o.options.idempotent

inductive Setback where
  | readTimeout (received blockFor : Nat) (dataPresent : Bool)
  | writeTimeout (received blockFor : Nat) (kind : WriteKind)
  | unavailable (required alive : Nat)
  /-- A connection failure, a timeout of one attempt, or a server error that another host may not
  have. -/
  | requestError (failure : Failure)
  deriving DecidableEq, Repr

/-- Whether the setback came before any replica was contacted, so that nothing can have been
applied. -/
def Setback.beforeReplicas : Setback → Bool
  | unavailable _ _ => true
  | _ => false

/-- The setback that a failure is to the retry policy; `none` where it is not asked. -/
def Failure.setback? (f : Failure) : Option Setback :=
  match f with
  | .readTimeout _ received blockFor present => some (.readTimeout received blockFor present)
  | .writeTimeout _ received blockFor kind => some (.writeTimeout received blockFor kind)
  | .unavailable _ required alive => some (.unavailable required alive)
  | .connection _ | .operationTimedOut _ _ | .io _ => some (.requestError f)
  | .response code _ => if code.isRetryable then some (.requestError f) else none
  | _ => none

inductive RetryPolicy where
  | standard
  | fallthrough
  | idempotenceAware (child : RetryPolicy)
  | custom (rules : Operation → Consistency → Setback → Decision)

namespace RetryPolicy

def standardRule (o : Operation) : Setback → Decision
  | .readTimeout received blockFor dataPresent =>
    if o.retryCount = 0 ∧ blockFor ≤ received ∧ (o.isIdempotent ∨ !dataPresent) then
      .retry none true
    else .rethrow
  | .writeTimeout received blockFor kind =>
    if o.retryCount = 0 ∧ (kind = .batchLog ∨ blockFor ≤ received ∧ o.isIdempotent) then
      .retry none true
    else .rethrow
  | .unavailable _ _ => if o.retryCount = 0 then .retry none false else .rethrow
  | .requestError _ => .retry none false

def decide (p : RetryPolicy) (o : Operation) (c : Consistency) (s : Setback) : Decision :=
  match p with
  | standard => standardRule o s
  | fallthrough => .rethrow
  | idempotenceAware child =>
    if o.isIdempotent || s.beforeReplicas then child.decide o c s else .rethrow
  | custom rules => rules o c s

def options : RetryPolicy → NameMap String
  | idempotenceAware child => NameMap.insert "idempotenceAware" "true" child.options
  | _ => []

def describe : RetryPolicy → String
  | standard => "DefaultRetryPolicy"
  | fallthrough => "FallthroughRetryPolicy"
  | idempotenceAware child => "IdempotenceAwareRetryPolicy \x7b child: " ++ child.describe ++ " \x7d"
  | custom _ => "CustomRetryPolicy"

end RetryPolicy

end CqlDispatch
