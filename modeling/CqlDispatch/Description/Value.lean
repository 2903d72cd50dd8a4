import CqlDispatch.Column
import CqlDispatch.Description.Reading
import CqlDispatch.Tuple
/-!
# Values and columns in JSON

A value is described by the name of its type and its content, with numbers of more than 32 bits as
text and bytes in hexadecimal.  A tuple without elements has the right form, but is refused.

A column is described by its name alone, when its type is text, or by its name and its type.
-/
namespace CqlDispatch

namespace Json

open Reading

def asUuid (j : Json) : Reading Uuid := do
  let digits := (← j.asString).toList.filter (· != '-')
  pure ⟨BitVec.ofNat 128 (← ofOption (Hex.natOf? digits))⟩

/-- The bits of a floating-point number, in hexadecimal. -/
def asBits (j : Json) : Reading Nat := do ofOption (Hex.natOf? (← j.asString).toList)

def asInt32 (j : Json) : Reading Int32 := Int32.ofInt <$> j.asInt
def asInt64 (j : Json) : Reading Int64 := Int64.ofInt <$> j.asInt

def asDate : Json → Reading Date
  | array [y, m, d] => do pure ⟨← y.asInt, ← m.asNat, ← d.asNat⟩
  | _ => malformed

def asCalendarDuration : Json → Reading CalendarDuration
  | array [m, d, n] => do pure ⟨← m.asInt32, ← d.asInt32, ← n.asInt64⟩
  | _ => malformed

/-- A value nested at most as deep as the first argument says. -/
def asValueWithin : Nat → Json → Reading Value
  | 0, _ => malformed
  | fuel + 1, j => do
    let v := (j.field? "v").getD null
    match ← j.want "t" asString with
    | "null" | "none" => pure .null
    | "ascii" => .ascii <$> v.asString
    | "text" => .text <$> v.asString
    | "boolean" => .boolean <$> j.flag "v"
    | "tinyint" => (.tinyint <| Int8.ofInt ·) <$> v.asInt
    | "smallint" => (.smallint <| Int16.ofInt ·) <$> v.asInt
    | "int" | "some_int" => .int <$> v.asInt32
    | "bigint" => .bigint <$> v.asInt64
    | "counter" => .counter <$> v.asInt64
    | "float" => (.float ⟨UInt32.ofNat ·⟩) <$> v.asBits
    | "double" => (.double ⟨UInt64.ofNat ·⟩) <$> v.asBits
    | "decimal" => (fun (m, s) => .decimal ⟨m, s⟩) <$> v.asPair asInt asNat
    | "varint" => .varint <$> v.asInt
    | "uuid" => .uuid <$> v.asUuid
    | "timeuuid" => .timeuuid <$> v.asUuid
    | "timestamp" => (fun (s, n) => .timestamp ⟨s, n⟩) <$> v.asPair asInt asNat
    | "date" => .date <$> v.asDate
    | "time" => (fun (s, n) => .time ⟨s, n⟩) <$> v.asPair asNat asNat
    | "duration" => .duration <$> v.asCalendarDuration
    | "inet" => .inet <$> v.asIp
    | "blob" => .blob <$> v.asBytes
    | "list" => .list <$> j.each "v" (asValueWithin fuel)
    | "set" => .set <$> j.each "v" (asValueWithin fuel)
    | "map" => .map <$> j.each "v" (asPair (asValueWithin fuel) (asValueWithin fuel))
    | "tuple" => do
      let elements ← j.each "v" (asValueWithin fuel)
      Tuple.toValue <$> ofBuilt (Tuple.ofList elements)
    | "udt" => .udt <$> j.each "v" (asPair asString (orNull (asValueWithin fuel)))
    | _ => malformed

def asValue (j : Json) : Reading Value := asValueWithin j.depth j

/-- A type nested at most as deep as the first argument says. -/
def asColumnTypeWithin : Nat → Json → Reading ColumnType
  | 0, _ => malformed
  | fuel + 1, j =>
    match j with
    | string s => .simple <$> ofOption (SimpleType.ofName? s)
    | object [("list", t)] => .list <$> asColumnTypeWithin fuel t
    | object [("set", t)] => .set <$> asColumnTypeWithin fuel t
    | object [("map", array [k, v])] => do
      pure (.map (← asColumnTypeWithin fuel k) (← asColumnTypeWithin fuel v))
    | object [("tuple", ts)] => .tuple <$> ts.asList (asColumnTypeWithin fuel)
    | object [("custom", string c)] => pure (.custom c)
    | j => do
      let keyspace ← j.allow "keyspace" asString
      let fields ← j.each "fields" (asPair asString (asColumnTypeWithin fuel))
      pure (.udt (keyspace.getD "") (← j.want "udt" asString) fields)

def asColumnType (j : Json) : Reading ColumnType := asColumnTypeWithin j.depth j

def asColumn : Json → Reading Column
  | string s => pure { name := s }
  | j => (fun (name, type) => ⟨name, type⟩) <$> j.asPair asString asColumnType

end Json

end CqlDispatch
