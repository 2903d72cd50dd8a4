import CqlDispatch.Failure
import CqlDispatch.Value.Json
/-!
# Tuples

A fixed, ordered, non-empty sequence of values.  The first element is a field of its own, so an
empty tuple does not exist; `Tuple.ofList` refuses an empty list.
-/
namespace CqlDispatch

structure Tuple where
  first : Value
  rest : List Value

namespace Tuple

def toList (t : Tuple) : List Value := t.first :: t.rest

/-- The tuple of these elements. -/
def ofList : List Value → Except Failure Tuple
  | [] => .error (.construction "a tuple must have at least one element")
  | v :: rest => .ok ⟨v, rest⟩

def length (t : Tuple) : Nat := t.toList.length

def get? (t : Tuple) (i : Nat) : Option Value := t.toList[i]?

def toValue (t : Tuple) : Value := .tuple t.first t.rest

def display (t : Tuple) : String := t.toValue.display
def json (t : Tuple) : Json := t.toValue.json

def same (t u : Tuple) : Bool := t.toValue.same u.toValue

def reversed (t : Tuple) : Tuple :=
  match t.rest.reverse with
  | [] => t
  | v :: rest => ⟨v, rest ++ [t.first]⟩

end Tuple

end CqlDispatch
