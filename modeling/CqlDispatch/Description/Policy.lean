import CqlDispatch.Description.Failure
import CqlDispatch.Policies
/-!
# Policies in JSON

Policies are described by name, or by name and settings; nothing at all describes the usual one.
Besides the policies of the library there are those that are laid out in the description: retry
decisions by kind of setback, a list of delays, the readings of a clock.
-/
namespace CqlDispatch

namespace Json

open Reading

def isMissing : Json → Bool
  | null => true
  | _ => false

/-! ## Retry -/

def asDecision : Json → Reading Decision
  | string "rethrow" => pure .rethrow
  | string "ignore" => pure .ignore
  | j => do pure (.retry (← j.allow "consistency" asConsistency) (← j.flag "same"))

/-- Decisions by kind of setback; what is not mentioned is not retried. -/
def asDecisions (j : Json) : Reading RetryPolicy := do
  let decision (name : String) : Reading Decision := do
    pure ((← j.allow name asDecision).getD .rethrow)
  let readTimeout ← decision "read_timeout"
  let writeTimeout ← decision "write_timeout"
  let unavailable ← decision "unavailable"
  let requestError ← decision "request_error"
  pure (.custom fun _ _ setback =>
    match setback with
    | .readTimeout .. => readTimeout
    | .writeTimeout .. => writeTimeout
    | .unavailable .. => unavailable
    | .requestError _ => requestError)

def asRetryPolicyWithin : Nat → Json → Reading RetryPolicy
  | 0, _ => malformed
  | fuel + 1, j =>
    match j with
    | null | string "default" => pure .standard
    | string "fallthrough" => pure .fallthrough
    | string "idempotence-aware" => pure (.idempotenceAware .standard)
    | object [("idempotence-aware", child)] =>
      .idempotenceAware <$> asRetryPolicyWithin fuel child
    | object [("scripted", decisions)] => decisions.asDecisions
    | _ => malformed

def asRetryPolicy (j : Json) : Reading RetryPolicy := asRetryPolicyWithin j.depth j

/-! ## Backoff and speculation -/

def asBackoff : Json → Reading Backoff
  | null | object [] => pure .standard
  | object [("constant", d)] => .constant <$> d.asSpan
  | object [("exponential", e)] => do
    ofBuilt (Backoff.exponential? (← e.want "base" asSpan) (← e.want "max" asSpan)
      (← e.flag "start_with_no_delay"))
  | object [("finite", l)] => do
    let delays ← l.asList asSpan
    pure (.custom fun _ n => delays[n]?)
  | _ => malformed

def asSpeculation (j : Json) : Reading Speculation := do
  if j.isMissing then pure .never
  else ofBuilt (Speculation.constant? (← j.want "delay" asSpan) (← j.want "max" asNat))

/-! ## Addresses and timestamps -/

def asTranslator (j : Json) : Reading Translator := do
  if j.isMissing then pure .identity
  else pure (Translator.tableOf (← j.each "mappings" (asPair asIp asAddress)) (← j.flag "strict"))

def asGenerator (j : Json) : Reading TimestampGenerator := do
  match ← j.allow "warning_threshold" asSpan with
  | none => pure {}
  | some threshold =>
    let interval ← j.allow "min_log_interval" asSpan
    pure (TimestampGenerator.ofSpans threshold (interval.getD (.ofSeconds 1)))

def asTimestamps (j : Json) : Reading Timestamps := do
  pure ⟨← j.asGenerator, ⟨← j.each "clock" asInt⟩⟩

/-! ## Load balancing -/

def asBalancerWithin : Nat → Json → Reading Balancer
  | 0, _ => malformed
  | fuel + 1, j =>
    match j with
    | null | string "round_robin" => pure (.roundRobin none 0)
    | string "default" => pure (.standard none)
    | string "unfiltered" => pure (.everyHost none)
    | object [("default_dc", dc)] => (.standard <| some ·) <$> dc.asString
    | object [("dc_aware", d)] => do
      let configured ← d.allow "local_dc" asString
      let remote ← d.allow "remote" asNat
      pure (.dcAware { configured := configured, perRemoteDc := remote.getD 0 })
    | object [("token_aware", child)] => .tokenAware none <$> asBalancerWithin fuel child
    | object [("allow_list", a)] => do
      pure (.allowList (← a.each "hosts" asAddress)
        (← asBalancerWithin fuel ((a.field? "child").getD null)))
    | _ => malformed

def asBalancer (j : Json) : Reading Balancer := asBalancerWithin j.depth j

/-! ## All together -/

def asPolicies (j : Json) : Reading Policies := do
  let part (name : String) : Json := (j.field? name).getD null
  pure {
    balancer := ← (part "load_balancing").asBalancer
    retry := ← (part "retry").asRetryPolicy
    backoff := ← (part "reconnection").asBackoff
    speculation := ← (part "speculative").asSpeculation
    translator := ← (part "translator").asTranslator
    timestamps := ← j.allow "timestamps" asTimestamps }

end Json

end CqlDispatch
