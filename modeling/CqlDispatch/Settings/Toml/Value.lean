import CqlDispatch.Settings.Toml.Scalar
/-!
# Keys and values of TOML

A key is a path of names, and a value may hold others: an array over any number of lines, or a table
in braces on one line.  Both paths and values are less than `tooDeep` deep.

The readers of values take fuel, of which every step spends one.  No text asks for more than twice
its length and a little.
-/
namespace CqlDispatch

namespace Toml

/-- A depth that no document reaches. -/
def tooDeep : Nat := 80

/-! ## Keys -/

def isNameChar (c : Char) : Bool := c.isAlphanum || c = '_' || c = '-'

def readName (cs : List Char) : Option (String × List Char) :=
  match cs with
  | '"' :: rest => readBasic [] rest
  | '\'' :: rest => readLiteral rest
  | cs =>
    let (name, rest) := cs.span isNameChar
    if name.isEmpty then none else some (String.ofList name, rest)

/-- Reads at most so many parts of a key, with points between them. -/
def readNames : Nat → List Char → Option (List String × List Char)
  | 0, _ => none
  | more + 1, cs => do
    let (name, rest) ← readName (skipSpaces cs)
    match skipSpaces rest with
    | '.' :: rest =>
      let (names, rest) ← readNames more rest
      pure (name :: names, rest)
    | rest => pure ([name], rest)

/-- A key, as the path to a table and the name in it. -/
def readKey (cs : List Char) : Option (List String × String × List Char) := do
  let (names, rest) ← readNames (tooDeep - 1) cs
  pure (names.dropLast, ← names.getLast?, rest)

/-! ## Values -/

/-- Passes blanks, line breaks, and comments that end with one. -/
def passGap (inComment : Bool) : List Char → List Char
  | [] => []
  | c :: rest =>
    if c = '\n' then passGap false rest
    else if inComment then if isPrintable c then passGap true rest else c :: rest
    else if isSpace c then passGap false rest
    else if c = '#' then passGap true rest
    else c :: rest

def readWord (cs : List Char) : Option (Toml × List Char) :=
  match cs with
  | 't' :: 'r' :: 'u' :: 'e' :: rest => some (truth true, rest)
  | 'f' :: 'a' :: 'l' :: 's' :: 'e' :: rest => some (truth false, rest)
  | _ => none

def readScalar (cs : List Char) : Option (Toml × List Char) :=
  ((readText cs).map fun (s, rest) => (text s, rest)).or
    ((readWord cs).or ((readMoment cs).or (readNumber cs)))

mutual

/-- Reads a value that stands within so many others. -/
def readValue (depth : Nat) : Nat → List Char → Option (Toml × List Char)
  | 0, _ => none
  | fuel + 1, cs =>
    match cs with
    | '[' :: rest => if depth + 1 < tooDeep then readItems (depth + 1) [] fuel rest else none
    | '\x7b' :: rest =>
      if depth + 1 < tooDeep then
        match skipSpaces rest with
        | '\x7d' :: rest => some (table .braces [], rest)
        | rest => readEntries (depth + 1) [] fuel rest
      else none
    | cs => readScalar cs

/-- Reads an array from its next item or its end on; `read` is what came before, the latest first. -/
def readItems (depth : Nat) (read : List Toml) : Nat → List Char → Option (Toml × List Char)
  | 0, _ => none
  | fuel + 1, cs =>
    match passGap false cs with
    | ']' :: rest => some (array read.reverse, rest)
    | cs => do
      let (x, rest) ← readValue depth fuel cs
      match passGap false rest with
      | ',' :: rest => readItems depth (x :: read) fuel rest
      | ']' :: rest => pure (array (x :: read).reverse, rest)
      | _ => failure

/-- Reads a table in braces from its next entry on. -/
def readEntries (depth : Nat) (read : Entries) : Nat → List Char → Option (Toml × List Char)
  | 0, _ => none
  | fuel + 1, cs => do
    let (path, name, rest) ← readKey cs
    let (x, rest) ← readValue depth fuel (skipSpaces (← skipChar '=' rest))
    let read ← insert? path name x .braces read
    match skipSpaces rest with
    | ',' :: rest => readEntries depth read fuel rest
    | '\x7d' :: rest => pure (table .braces read, rest)
    | _ => failure

end

end Toml

end CqlDispatch
