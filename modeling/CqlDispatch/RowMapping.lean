import CqlDispatch.Row
import CqlDispatch.Text.Case
import CqlDispatch.Text.Quoted
/-!
# From rows to models

`Naming` converts between column names and property names.  A `Mapping` says how models of some
type are built; an `Adapter` is the part of it that depends only on the columns of a result,
worked out once and then applied to every row.

`Mapping.json` builds JSON objects: undefined columns are left out, nulls are kept, and of two
columns with one property the later one stays.
-/
namespace CqlDispatch

inductive Naming where
  | identity
  | camelCase
  deriving DecidableEq, Repr

namespace Naming

/-- Drops underscores and capitalises what follows them. -/
def joinWords : Bool → List Char → List Char
  | _, [] => []
  | raise, c :: rest =>
    if c = '_' then joinWords true rest
    else if raise then upperForm c ++ joinWords false rest
    else c :: joinWords false rest

/-- Puts an underscore before every capital and lowers it. -/
def splitWords (cs : List Char) : List Char :=
  cs.flatMap fun c => if isUpperCase c then '_' :: lowerForm c else [c]

def propertyOf (n : Naming) (column : String) : String :=
  match n with
  | identity => column
  | camelCase => String.ofList (joinWords false column.toList)

def columnOf (n : Naming) (property : String) : String :=
  match n with
  | identity => property
  | camelCase => String.ofList (splitWords property.toList)

def name : Naming → String
  | identity => "Identity"
  | camelCase => "UnderscoreToCamelCase"

end Naming

/-- Changes the value of a column on its way to the model; `none` means undefined. -/
abbrev Transform := Option Value → Option Value

structure Mapping (μ : Type) where
  fresh : μ
  propertyOf : String → String
  transformOf : String → Option Transform
  store : μ → String → Option Value → μ

/-- Properties and transforms of the columns of one result, in column order. -/
structure Adapter where
  columns : Columns
  properties : List (String × Option Transform)

namespace Adapter

/-- Asks the mapping about every column, once. -/
def ofColumns {μ : Type} (m : Mapping μ) (columns : Columns) : Adapter :=
  ⟨columns, columns.map fun c => (m.propertyOf c.name, m.transformOf c.name)⟩

/-- The value that reaches the model. -/
def transformed (transform : Option Transform) (v : Option Value) : Option Value :=
  match transform with
  | some f => f v
  | none => v

def adapt {μ : Type} (a : Adapter) (m : Mapping μ) (row : Row) : μ :=
  (row.cells.zip a.properties).foldl
    (fun model (v, property, transform) => m.store model property (transformed transform v)) m.fresh

def describe (a : Adapter) : String :=
  "RowAdapter \x7b properties: " ++ quotedList (a.properties.map (·.1)) ++ ", .. \x7d"

end Adapter

def ResultSet.mapRows {μ : Type} (r : ResultSet) (m : Mapping μ) : List μ :=
  r.rows.map (Adapter.ofColumns m r.columns |>.adapt m)

/-- A naming and the transforms of some columns, the latest of a column first. -/
structure JsonMapping where
  naming : Naming := .identity
  transforms : List (String × Transform) := []

namespace JsonMapping

def withTransform (j : JsonMapping) (column : String) (f : Transform) : JsonMapping :=
  { j with transforms := (column, f) :: j.transforms.filter (·.1 != column) }

/-- The mapping to members of a JSON object, sorted by name. -/
def toMapping (j : JsonMapping) : Mapping (NameMap Json) where
  fresh := []
  propertyOf := j.naming.propertyOf
  transformOf column := j.transforms.lookup column
  store model property v :=
    match v with
    | some v => NameMap.insert property v.tree model
    | none => model

def describe (j : JsonMapping) : String :=
  "JsonMappingInfo \x7b names: " ++ j.naming.name ++ ", transforms: " ++
    quotedList (j.transforms.map (·.1)) ++ " \x7d"

end JsonMapping

end CqlDispatch
