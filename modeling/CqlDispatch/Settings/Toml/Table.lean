/-!
# Tables of TOML

The values of a document.  What may still be added to a table depends on how it came to be: a table
in braces is complete, one that has its own header is not opened again, and one that only the keys or
headers below it tell of is open to more of the same kind.  So a key stands once in its table
(`insert?`), and a header opens a table once (`openTable?`).
-/
namespace CqlDispatch

/-- How a table came to be. -/
inductive Toml.Origin where
  | braces
  | header
  /-- It was on the way to a header. -/
  | implied
  /-- It was on the way to a key. -/
  | dotted
  deriving DecidableEq, Repr, Inhabited

inductive Toml where
  | text (s : String)
  | integer (n : Int)
  /-- Any number that is not whole; no setting takes one. -/
  | real
  /-- A date, a time of day or both; no setting takes one. -/
  | moment
  | truth (b : Bool)
  | array (items : List Toml)
  | table (origin : Toml.Origin) (entries : List (String × Toml))
  /-- Tables that were opened one after another by headers of one name; the last of them is still
  open. -/
  | tables (earlier : List (List (String × Toml))) (last : List (String × Toml))
  deriving Repr, Inhabited

namespace Toml

abbrev Entries := List (String × Toml)

/-- Changes what stands under a name, which may be nothing as yet. -/
def Entries.change? (name : String) (f : Option Toml → Option Toml) : Entries → Option Entries
  | [] => (f none).map fun x => [(name, x)]
  | (n, x) :: rest =>
    if n = name then (f (some x)).map fun y => (n, y) :: rest
    else (Entries.change? name f rest).map ((n, x) :: ·)

/-- Changes the table at the end of a path.  Tables that are missing on the way come to be as `onWay`
says; of several tables with one name the last one counts.  A key does not lead into a table that has
its own header, and nothing leads into a table in braces. -/
def below? (onWay : Origin) (f : Origin → Entries → Option Entries) :
    List String → Origin → Entries → Option Entries
  | [], origin, entries => f origin entries
  | name :: path, _, entries =>
    entries.change? name fun
      | none => (below? onWay f path onWay []).map (table onWay)
      | some (table origin inner) =>
        if origin = .braces || (onWay = .dotted && origin = .header) then none
        else (below? onWay f path origin inner).map (table origin)
      | some (tables earlier last) => (below? onWay f path .header last).map (tables earlier)
      | some _ => none

/-- Puts a value under a free name.  A key of several parts adds only to the tables of such keys, and
a key of one part only to the others. -/
def put? (x : Toml) (name : String) (alone : Bool) (origin : Origin) (entries : Entries) :
    Option Entries :=
  if (origin == .dotted) == alone then none
  else entries.change? name fun
    | none => some x
    | some _ => none

/-- Puts a value under a key, given as the path to it and its name. -/
def insert? (path : List String) (name : String) (x : Toml) : Origin → Entries → Option Entries :=
  below? .dotted (put? x name path.isEmpty) path

/-- Opens the table of a header. -/
def openTable? (path : List String) (name : String) : Entries → Option Entries :=
  below? .implied (fun _ => (·.change? name fun
    | none => some (table .header [])
    | some (table .implied inner) => some (table .header inner)
    | some _ => none)) path .header

/-- Opens one more table of a name. -/
def addTable? (path : List String) (name : String) : Entries → Option Entries :=
  below? .implied (fun _ => (·.change? name fun
    | none => some (tables [] [])
    | some (tables earlier last) => some (tables (earlier ++ [last]) [])
    | some _ => none)) path .header

end Toml

end CqlDispatch
