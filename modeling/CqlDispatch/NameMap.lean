/-!
# Maps by name

A map from names to things, as the list of its entries in the order of the names' bytes.  Every
name occurs once; `insert` puts a new value in place of an old one.
-/
namespace CqlDispatch

abbrev NameMap (α : Type) := List (String × α)

namespace NameMap

variable {α : Type}

def insert (name : String) (v : α) : NameMap α → NameMap α
  | [] => [(name, v)]
  | (other, w) :: rest =>
    if name = other then (name, v) :: rest
    else if name < other then (name, v) :: (other, w) :: rest
    else (other, w) :: insert name v rest

/-- The map with these entries; of equal names the last one stays. -/
def ofList (entries : List (String × α)) : NameMap α :=
  entries.foldl (fun acc e => insert e.1 e.2 acc) []

def find? (name : String) (m : NameMap α) : Option α := m.lookup name

end NameMap

end CqlDispatch
