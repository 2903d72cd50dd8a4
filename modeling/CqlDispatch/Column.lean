import CqlDispatch.Failure
import CqlDispatch.NameMap
/-!
# Columns

The declared types of columns, column descriptions, and the ordered columns of a result.

Every type that is not a server-side custom type can be represented; `ColumnType.ensureSupported`
finds the first custom class in a type, reading left to right.  Where names repeat in a result, a
name stands for its first column.
-/
namespace CqlDispatch

inductive SimpleType where
  | ascii | text | boolean | tinyint | smallint | int | bigint | counter | float | double | decimal
  | varint | uuid | timeuuid | timestamp | date | time | duration | inet | blob
  deriving DecidableEq, Repr

namespace SimpleType

def all : List SimpleType :=
  [ascii, text, boolean, tinyint, smallint, int, bigint, counter, float, double, decimal, varint,
    uuid, timeuuid, timestamp, date, time, duration, inet, blob]

def name : SimpleType → String
  | ascii => "ascii" | text => "text" | boolean => "boolean" | tinyint => "tinyint"
  | smallint => "smallint" | int => "int" | bigint => "bigint" | counter => "counter"
  | float => "float" | double => "double" | decimal => "decimal" | varint => "varint"
  | uuid => "uuid" | timeuuid => "timeuuid" | timestamp => "timestamp" | date => "date"
  | time => "time" | duration => "duration" | inet => "inet" | blob => "blob"

def ofName? (s : String) : Option SimpleType := all.find? (·.name == s)

end SimpleType

inductive ColumnType where
  | simple (t : SimpleType)
  | list (element : ColumnType)
  | set (element : ColumnType)
  | map (key value : ColumnType)
  | tuple (components : List ColumnType)
  | udt (keyspace name : String) (fields : List (String × ColumnType))
  | custom (className : String)
  deriving Repr, Inhabited

namespace ColumnType

mutual

def display : ColumnType → String
  | simple t => t.name
  | list t => "list<" ++ display t ++ ">"
  | set t => "set<" ++ display t ++ ">"
  | map k v => "map<" ++ display k ++ ", " ++ display v ++ ">"
  | tuple ts => "tuple<" ++ String.intercalate ", " (displays ts) ++ ">"
  | udt keyspace name _ => keyspace ++ "." ++ name
  | custom className => "'" ++ className ++ "'"

def displays : List ColumnType → List String
  | [] => []
  | t :: rest => display t :: displays rest

end

/-- The custom classes that stand for shapes. -/
def geometryClasses : List String :=
  ["org.apache.cassandra.db.marshal.PointType", "org.apache.cassandra.db.marshal.LineStringType",
    "org.apache.cassandra.db.marshal.PolygonType"]

/-- Why a custom class cannot be represented. -/
def unsupported (className : String) : Failure :=
  .unsupportedOperation
    ((if geometryClasses.contains className then "geometry types are not supported"
      else "custom types are not supported") ++ ": " ++ className)

mutual

/-- Refuses a type with a custom class anywhere inside it; the first one is named. -/
def ensureSupported : ColumnType → Except Failure Unit
  | simple _ => .ok ()
  | custom className => .error (unsupported className)
  | list t | set t => ensureSupported t
  | map k v =>
    match ensureSupported k with
    | .ok () => ensureSupported v
    | .error e => .error e
  | tuple ts => ensureAllSupported ts
  | udt _ _ fields => ensureFieldsSupported fields

def ensureAllSupported : List ColumnType → Except Failure Unit
  | [] => .ok ()
  | t :: rest =>
    match ensureSupported t with
    | .ok () => ensureAllSupported rest
    | .error e => .error e

def ensureFieldsSupported : List (String × ColumnType) → Except Failure Unit
  | [] => .ok ()
  | (_, t) :: rest =>
    match ensureSupported t with
    | .ok () => ensureFieldsSupported rest
    | .error e => .error e

end

end ColumnType

structure Column where
  name : String
  type : ColumnType := .simple .text
  deriving Repr

abbrev Columns := List Column

namespace Columns

/-- One more column in an index: its name may stand for an earlier one. -/
def indexed (index : NameMap Nat) (column : Column × Nat) : NameMap Nat :=
  if (index.find? column.1.name).isSome then index else index.insert column.1.name column.2

/-- The positions of columns by name, found in one pass. -/
def index (columns : Columns) : NameMap Nat := columns.zipIdx.foldl indexed []

def find? (columns : Columns) (name : String) : Option Nat := columns.index.find? name

def ofNames (names : List String) : Columns := names.map fun n => { name := n }

end Columns

end CqlDispatch
