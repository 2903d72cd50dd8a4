import CqlDispatch.Json
import CqlDispatch.Value
/-!
# Values as text

The display form of a value.  Text is not quoted; lists have brackets, sets, maps and
user-defined types braces, tuples parentheses, with commas and no blanks between the parts.
Floating-point numbers have the fewest digits that read back and never an exponent.
-/
namespace CqlDispatch

/-- A floating-point number without exponent; a tie between two shortest forms goes up. -/
def FloatClass.text (negative : Bool) : FloatClass → String
  | .notNumber => "NaN"
  | .infinite => if negative then "-inf" else "inf"
  | .zero => if negative then "-0" else "0"
  | .finite m => (if negative then "-" else "") ++ (m.shortest .up).positional

def Binary32.text (x : Binary32) : String := x.classify.text x.negative
def Binary64.text (x : Binary64) : String := x.classify.text x.negative

/-- Exactly `scale` digits after the point and at least one before it. -/
def ScaledDecimal.text (d : ScaledDecimal) : String :=
  let magnitude := d.mantissa.natAbs
  let sign := if d.mantissa < 0 then "-" else ""
  if d.scale == 0 then sign ++ Nat.repr magnitude
  else
    sign ++ Nat.repr (magnitude / Nat.pow 10 d.scale) ++ "." ++
      zeroPadded d.scale (magnitude % Nat.pow 10 d.scale)

/-- Groups of 8, 4, 4, 4 and 12 digits. -/
def Uuid.text (u : Uuid) : String :=
  let digits := (Hex.padded 32 u.bits.toNat).toList
  let group (start length : Nat) := String.ofList ((digits.drop start).take length)
  String.intercalate "-" [group 0 8, group 8 4, group 12 4, group 16 4, group 20 12]

/-- The parts that are not zero, months first; `0ns` when all are. -/
def CalendarDuration.text (d : CalendarDuration) : String :=
  if d.months == 0 && d.days == 0 && d.nanoseconds == 0 then "0ns"
  else
    (if d.months == 0 then "" else intText d.months.toInt ++ "mo") ++
      (if d.days == 0 then "" else intText d.days.toInt ++ "d") ++
      (if d.nanoseconds == 0 then "" else intText d.nanoseconds.toInt ++ "ns")

namespace Value

/-- Parts between an opening and a closing mark, separated by commas. -/
def enclosed (opening closing : String) (parts : List String) : String :=
  opening ++ String.intercalate "," parts ++ closing

mutual

def display : Value → String
  | null => "null"
  | ascii s | text s => s
  | boolean b => if b then "true" else "false"
  | tinyint n => intText n.toInt
  | smallint n => intText n.toInt
  | int n => intText n.toInt
  | bigint n | counter n => intText n.toInt
  | float x => x.text
  | double x => x.text
  | decimal d => d.text
  | varint n => intText n
  | uuid u | timeuuid u => u.text
  | timestamp t => t.text
  | date d => d.text
  | time t => t.text
  | duration d => d.text
  | inet ip => ip.text
  | blob bytes => "0x" ++ Hex.encode bytes
  | list items => enclosed "[" "]" (displayItems items)
  | set items => enclosed "\x7b" "\x7d" (displayItems items)
  | map entries => enclosed "\x7b" "\x7d" (displayEntries entries)
  | tuple first rest => enclosed "(" ")" (display first :: displayItems rest)
  | udt fields => enclosed "\x7b" "\x7d" (displayFields fields)

def displayItems : List Value → List String
  | [] => []
  | v :: rest => display v :: displayItems rest

def displayEntries : List (Value × Value) → List String
  | [] => []
  | (k, v) :: rest => (display k ++ ":" ++ display v) :: displayEntries rest

def displayFields : List (String × Option Value) → List String
  | [] => []
  | (name, none) :: rest => (name ++ ":null") :: displayFields rest
  | (name, some v) :: rest => (name ++ ":" ++ display v) :: displayFields rest

end

end Value

end CqlDispatch
