import CqlDispatch.NameMap
import CqlDispatch.Text.Digits
import CqlDispatch.Decimal.Shortest
/-!
# JSON

A JSON document as a tree whose objects keep their members in order, and its compact text.
Numbers are kept as the text they are written with, so nothing is lost on the way.

`Json.sorted` gives the form of a document in which an object has its members in the order of
their names' bytes, each name once with its last value.
-/
namespace CqlDispatch

inductive Json where
  | null
  | bool (b : Bool)
  | number (text : String)
  | string (s : String)
  | array (items : List Json)
  | object (members : List (String × Json))
  deriving Repr, Inhabited

namespace Json

/-- How a character stands inside a JSON string: quote, backslash and control characters are
escaped, all else is itself. -/
def escapedChar (c : Char) : List Char :=
  if c = '"' then ['\\', '"']
  else if c = '\\' then ['\\', '\\']
  else if c = '\x08' then ['\\', 'b']
  else if c = '\x0c' then ['\\', 'f']
  else if c = '\n' then ['\\', 'n']
  else if c = '\r' then ['\\', 'r']
  else if c = '\t' then ['\\', 't']
  else if c.toNat < 0x20 then '\\' :: 'u' :: (Hex.padded 4 c.toNat).toList
  else [c]

def stringText (s : String) : String :=
  String.ofList ('"' :: (s.toList.flatMap escapedChar ++ ['"']))

mutual

def text : Json → String
  | null => "null"
  | bool true => "true"
  | bool false => "false"
  | number t => t
  | string s => stringText s
  | array items => "[" ++ String.intercalate "," (itemTexts items) ++ "]"
  | object members => "\x7b" ++ String.intercalate "," (memberTexts members) ++ "\x7d"

def itemTexts : List Json → List String
  | [] => []
  | j :: rest => text j :: itemTexts rest

def memberTexts : List (String × Json) → List String
  | [] => []
  | (name, j) :: rest => (stringText name ++ ":" ++ text j) :: memberTexts rest

end

mutual

/-- The document with the members of every object sorted and made unique. -/
def sorted : Json → Json
  | array items => array (sortedItems items)
  | object members => object (NameMap.ofList (sortedValues members))
  | j => j

def sortedItems : List Json → List Json
  | [] => []
  | j :: rest => sorted j :: sortedItems rest

def sortedValues : List (String × Json) → List (String × Json)
  | [] => []
  | (name, j) :: rest => (name, sorted j) :: sortedValues rest

end

def ofNat (n : Nat) : Json := number (Nat.repr n)

def ofInt (n : Int) : Json := number (intText n)

/-! ## Floating-point numbers -/

/-- Which decimal exponents of the first digit are written without an exponent. -/
structure NumberStyle where
  leastPlain : Int
  greatestPlain : Int

def NumberStyle.double : NumberStyle := ⟨-5, 15⟩
def NumberStyle.single : NumberStyle := ⟨-6, 12⟩

/-- `d1.d2d3e+10`: the digits after the first behind a point, the sign of the exponent always there. -/
def scientific (d : Decimal) : String :=
  let mantissa := match d.digitChars with
    | [] => ""
    | [c] => String.ofList [c]
    | c :: rest => String.ofList (c :: '.' :: rest)
  let e := d.leading
  mantissa ++ "e" ++ (if e < 0 then "-" else "+") ++ Nat.repr e.natAbs

/-- Plain notation, with `.0` behind a whole number, inside the style's range. -/
def NumberStyle.magnitudeText (style : NumberStyle) (m : Magnitude) : String :=
  let d := m.shortest .even
  if style.leastPlain ≤ d.leading ∧ d.leading ≤ style.greatestPlain then
    if 0 ≤ d.place then d.positional ++ ".0" else d.positional
  else scientific d

/-- A floating-point number, or null when it is not finite. -/
def NumberStyle.json (style : NumberStyle) (negative : Bool) : FloatClass → Json
  | .zero => number (if negative then "-0.0" else "0.0")
  | .finite m => number ((if negative then "-" else "") ++ style.magnitudeText m)
  | _ => null

def ofBinary32 (x : Binary32) : Json := NumberStyle.single.json x.negative x.classify
def ofBinary64 (x : Binary64) : Json := NumberStyle.double.json x.negative x.classify

end Json

end CqlDispatch
