import CqlDispatch.Failure
import CqlDispatch.Json
import CqlDispatch.Text.Unsigned
/-!
# Reading descriptions

Everything that a client can be set up with can also be described in JSON: values, failures,
policies, hosts, settings.  A `Reading` is the outcome of reading one such description.  It fails
in three ways that are kept apart: the document does not have the form asked for, or it has that
form and what it describes is refused, or a number in it turns out to be too big.

What is null counts as missing, a missing list is empty and a missing flag is off.  Whole
numbers may stand as text where they may need more than 64 bits.  `Json.depth` bounds how deep a
description is nested, so readers of nested things recurse on it.
-/
namespace CqlDispatch

inductive Misfit where
  | malformed
  | refused (f : Failure)
  | tooBig (o : Overflow)
  deriving DecidableEq, Repr

abbrev Reading := Except Misfit

namespace Reading

def malformed {α : Type} : Reading α := .error .malformed

def ofOption {α : Type} : Option α → Reading α
  | some x => .ok x
  | none => malformed

/-- Takes over why something was refused. -/
def ofBuilt {α : Type} : Except Failure α → Reading α
  | .ok x => .ok x
  | .error f => .error (.refused f)

/-- Takes over what a number was too big for. -/
def ofFitting {α : Type} : Except Overflow α → Reading α
  | .ok x => .ok x
  | .error o => .error (.tooBig o)

/-- What was read, or why it was refused. -/
def built {α : Type} : Reading α → Reading (Except Failure α)
  | .ok x => .ok (.ok x)
  | .error (.refused f) => .ok (.error f)
  | .error misfit => .error misfit

end Reading

namespace Json

open Reading

mutual

def depth : Json → Nat
  | array items => itemsDepth items + 1
  | object members => membersDepth members + 1
  | _ => 1

def itemsDepth : List Json → Nat
  | [] => 0
  | j :: rest => max (depth j) (itemsDepth rest)

def membersDepth : List (String × Json) → Nat
  | [] => 0
  | (_, j) :: rest => max (depth j) (membersDepth rest)

end

def asString : Json → Reading String
  | string s => .ok s
  | _ => malformed

def asBool : Json → Reading Bool
  | bool b => .ok b
  | null => .ok false
  | _ => malformed

def asNat : Json → Reading Nat
  | number t => ofOption (natOfDigits? t.toList)
  | _ => malformed

def asInt : Json → Reading Int
  | number t | string t => ofOption (intOfDigits? t.toList)
  | _ => malformed

def asMembers : Json → Reading (List (String × Json))
  | object members => .ok members
  | _ => malformed

def asList {α : Type} (read : Json → Reading α) : Json → Reading (List α)
  | array items => items.mapM read
  | null => .ok []
  | _ => malformed

def asPair {α β : Type} (left : Json → Reading α) (right : Json → Reading β) :
    Json → Reading (α × β)
  | array [a, b] => do pure ((← left a), (← right b))
  | _ => malformed

def orNull {α : Type} (read : Json → Reading α) : Json → Reading (Option α)
  | null => .ok none
  | j => some <$> read j

def field? (j : Json) (name : String) : Option Json :=
  match j with
  | object members =>
    match members.lookup name with
    | some null => none
    | found => found
  | _ => none

/-- What has to stand under a name. -/
def want {α : Type} (j : Json) (name : String) (read : Json → Reading α) : Reading α :=
  (ofOption (j.field? name)).bind read

/-- What may be missing under a name, but may not be wrong. -/
def allow {α : Type} (j : Json) (name : String) (read : Json → Reading α) : Reading (Option α) :=
  match j.field? name with
  | some x => some <$> read x
  | none => .ok none

def each {α : Type} (j : Json) (name : String) (read : Json → Reading α) : Reading (List α) :=
  match j.field? name with
  | some x => x.asList read
  | none => .ok []

/-- A list of pairs under a name, written as pairs or as the members of an object. -/
def eachNamed {α : Type} (j : Json) (name : String) (read : Json → Reading α) :
    Reading (List (String × α)) := do
  let members ← j.allow name asMembers
  (members.getD []).mapM fun (key, x) => do pure (key, (← read x))

def flag (j : Json) (name : String) : Reading Bool := do pure ((← j.allow name asBool).getD false)

/-! ## Small things -/

def asBytes (j : Json) : Reading (List UInt8) := do ofOption (Hex.decode? (← j.asString))
def asIp (j : Json) : Reading Ip := do ofOption (Ip.parse? (← j.asString))
def asAddress (j : Json) : Reading Address := do ofOption (Address.parse? (← j.asString))
def asConsistency (j : Json) : Reading Consistency := do
  ofOption (Consistency.ofName? (← j.asString))
def asWriteKind (j : Json) : Reading WriteKind := do ofOption (WriteKind.ofName? (← j.asString))

/-- Whole milliseconds, or seconds and nanoseconds. -/
def asSpan : Json → Reading Span
  | array [secs, nanos] => do pure ⟨(← secs.asNat) * 1000000000 + (← nanos.asNat)⟩
  | j => Span.ofMillis <$> j.asNat

end Json

end CqlDispatch
