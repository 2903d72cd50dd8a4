import CqlDispatch.Text.Base64
import CqlDispatch.Value.Text
/-!
# Values as JSON

The canonical JSON form of a value.  Numbers of at most 32 bits and floating-point numbers are
JSON numbers; longer numbers, identifiers, dates and addresses are strings in their display form,
so that no reader loses digits; blobs are base 64.  A map becomes an object whose member names
are the display forms of the keys.

`Value.json` keeps entries in order and repeated names; `Value.tree` is the same document as a
tree with unique sorted names, in which a 32-bit number has been widened to 64 bits.
-/
namespace CqlDispatch.Value

mutual

/-- The JSON form, with `single` deciding how a 32-bit floating-point number is written. -/
def jsonWith (single : Binary32 → Json) : Value → Json
  | null => .null
  | ascii s | text s => .string s
  | boolean b => .bool b
  | tinyint n => .ofInt n.toInt
  | smallint n => .ofInt n.toInt
  | int n => .ofInt n.toInt
  | float x => single x
  | double x => .ofBinary64 x
  | blob bytes => .string (Base64.encode bytes)
  | list items | set items => .array (jsonItems single items)
  | map entries => .object (jsonEntries single entries)
  | tuple first rest => .array (jsonWith single first :: jsonItems single rest)
  | udt fields => .object (jsonFields single fields)
  | v => .string v.display

def jsonItems (single : Binary32 → Json) : List Value → List Json
  | [] => []
  | v :: rest => jsonWith single v :: jsonItems single rest

def jsonEntries (single : Binary32 → Json) : List (Value × Value) → List (String × Json)
  | [] => []
  | (k, v) :: rest => (k.display, jsonWith single v) :: jsonEntries single rest

def jsonFields (single : Binary32 → Json) : List (String × Option Value) → List (String × Json)
  | [] => []
  | (name, none) :: rest => (name, .null) :: jsonFields single rest
  | (name, some v) :: rest => (name, jsonWith single v) :: jsonFields single rest

end

def json (v : Value) : Json := v.jsonWith Json.ofBinary32

/-- The JSON form as a tree: sorted unique names, every floating-point number 64 bits wide. -/
def tree (v : Value) : Json := (v.jsonWith fun x => .ofBinary64 x.widen).sorted

end CqlDispatch.Value
