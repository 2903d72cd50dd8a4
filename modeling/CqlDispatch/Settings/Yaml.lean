import CqlDispatch.Settings.Document
import CqlDispatch.Settings.Yaml.Node
/-!
# Settings in YAML

A scalar is whatever its reader takes it for: as a text it stands for itself, and as a number or a
truth value for what it says, if it is plain.  A plain scalar that says nothing, or says null, leaves
its entry open.  Tags are passed over but for those of the core types, which may make a null, a
number or a truth value of a scalar or deny that it is one.
-/
namespace CqlDispatch

namespace Yaml

/-! ## Words -/

def isNullWord (s : String) : Bool := ["null", "Null", "NULL", "~"].contains s

def truthWord? (s : String) : Option Bool :=
  if ["true", "True", "TRUE"].contains s then some true
  else if ["false", "False", "FALSE"].contains s then some false
  else none

/-- The number that a word stands for: decimal without leading zeros, or with the mark of another
base. -/
def countWord? (s : String) : Option Nat :=
  let cs := match s.toList with
    | '+' :: rest => rest
    | cs => cs
  match cs with
  | '0' :: 'x' :: digits => digitsOf? 16 digits
  | '0' :: 'o' :: digits => digitsOf? 8 digits
  | '0' :: 'b' :: digits => digitsOf? 2 digits
  | '0' :: _ :: _ => none
  | digits => natOfDigits? digits

def coreTag (name : String) : String := "tag:yaml.org,2002:" ++ name

namespace Tree

/-- The tree below a node. -/
def below (t : Tree) (node : Node) : Tree := { t with root := node }

/-- The node at the root, or the one that is referred to there. -/
def node (t : Tree) : Node :=
  match t.root with
  | .reference n => (t.named.lookup n).getD (blank none)
  | node => node

/-- Whether nothing is written at the root. -/
def isBlank (t : Tree) : Bool :=
  match t.node with
  | .scalar .plain _ "" => true
  | _ => false

def text? (t : Tree) : Option String :=
  match t.node with
  | .scalar _ _ text => some text
  | _ => none

/-- The text at the root if it may stand for a value of a core type: a plain one, or a literal block
with the tag of that type. -/
def word? (t : Tree) (type : String) : Option String :=
  match t.node with
  | .scalar .plain _ text => some text
  | .scalar .literal tag text => if tag = some (coreTag type) then some text else none
  | _ => none

instance : Document Tree where
  held? t :=
    match t.node with
    | .scalar .plain tag text =>
      if tag = some (coreTag "null") then if isNullWord text then some none else none
      else if tag.isNone && (text.isEmpty || isNullWord text) then some none
      else some (some t)
    | _ => some (some t)
  entries? _ t :=
    match t.node with
    | .mapping entries => entries.mapM fun (key, value) => do pure (← (t.below key).text?, t.below value)
    | _ => if t.isBlank then some [] else none
  items? t :=
    match t.node with
    | .sequence items => some (items.map t.below)
    | _ => if t.isBlank then some [] else none
  text? := text?
  count? t := (t.word? "int").bind countWord?
  truth? t := (t.word? "bool").bind truthWord?

end Tree

def parse? (s : String) : Option Tree := (tokens? s).bind Tree.ofTokens?

end Yaml

end CqlDispatch
