import CqlDispatch.Column
import CqlDispatch.Value.Json
/-!
# Rows

A row has one cell for every column of its result.  A cell without a value is undefined: it is
left out of the JSON form and looks absent to a reader; an explicit null is a value.

Where names repeat, a name stands for its first column in look-ups and in the JSON form alike.
-/
namespace CqlDispatch

structure Row where
  columns : Columns
  cells : List (Option Value)
  complete : cells.length = columns.length

namespace Row

def empty (columns : Columns) : Row := ⟨columns, List.replicate columns.length none, by simp⟩

/-- The row with these values in its leading columns; the rest is undefined. -/
def ofCells (columns : Columns) (cells : List (Option Value)) : Except Failure Row :=
  if h : cells.length ≤ columns.length then
    .ok ⟨columns, cells ++ List.replicate (columns.length - cells.length) none, by simp; omega⟩
  else
    .error (.construction ("row has " ++ Nat.repr cells.length ++ " values but only " ++
      Nat.repr columns.length ++ " columns"))

def ofValues (columns : Columns) (values : List Value) : Except Failure Row :=
  ofCells columns (values.map some)

def length (r : Row) : Nat := r.cells.length

def keys (r : Row) : List String := r.columns.map (·.name)

def at? (r : Row) (i : Nat) : Option Value := (r.cells[i]?).join

def get? (r : Row) (name : String) : Option Value := (r.columns.find? name).bind r.at?

/-- The defined cells with their names, each name only at its first column. -/
def members (r : Row) : List (String × Value) :=
  ((r.keys.zip r.cells).zipIdx.filter fun (m, i) => r.columns.find? m.1 == some i).filterMap
    fun (m, _) => m.2.map (m.1, ·)

/-- The JSON object of the defined columns, in column order. -/
def json (r : Row) : Json := .object (r.members.map fun (name, v) => (name, v.json))

/-- The same object as a tree with sorted names. -/
def tree (r : Row) : Json :=
  (Json.object (r.members.map fun (name, v) => (name, v.tree))).sorted

end Row

/-- The rows that answer a statement, all of one shape, and where the next page starts. -/
structure ResultSet where
  columns : Columns := []
  rows : List Row := []
  paging : Option (List UInt8) := none

def ResultSet.empty : ResultSet := {}

end CqlDispatch
