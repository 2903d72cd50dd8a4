import CqlDispatch.Settings.Document
import CqlDispatch.Settings.Toml.Value
/-!
# Settings in TOML

A document is a list of lines: entries, which go to the table that was opened last, and headers that
open tables.  An array may stand for a section, with the values in the order of the section's entries,
and a moment stands for a section of which no entry is known.
-/
namespace CqlDispatch

namespace Toml

/-- Passes to the next line, where this one holds nothing more than a comment. -/
def passLine? (cs : List Char) : Option (List Char) :=
  let rest := match skipSpaces cs with
    | '#' :: rest => rest.dropWhile isPrintable
    | rest => rest
  match rest with
  | [] => some []
  | c :: rest => if c = '\n' then some rest else none

structure Draft where
  entries : Entries := []
  current : List String := []

/-- Reads one line that is not empty. -/
def readLine (d : Draft) (cs : List Char) : Option (Draft × List Char) := do
  match cs with
  | '[' :: '[' :: rest =>
    let (path, name, rest) ← readKey rest
    let rest ← passLine? (← skipChar ']' (← skipChar ']' rest))
    pure (⟨← addTable? path name d.entries, path ++ [name]⟩, rest)
  | '[' :: rest =>
    let (path, name, rest) ← readKey rest
    let rest ← passLine? (← skipChar ']' rest)
    pure (⟨← openTable? path name d.entries, path ++ [name]⟩, rest)
  | cs =>
    let (path, name, rest) ← readKey cs
    let rest := skipSpaces (← skipChar '=' rest)
    let (x, rest) ← readValue 0 (2 * rest.length + 2) rest
    let rest ← passLine? rest
    pure ({ d with entries := ← below? .implied (insert? path name x) d.current .header d.entries },
      rest)

/-- Reads the lines of a document; each takes at least one off the fuel. -/
def readLines : Nat → Draft → List Char → Option Entries
  | 0, _, _ => none
  | fuel + 1, d, cs =>
    match skipSpaces cs with
    | [] => some d.entries
    | c :: rest =>
      if c = '\n' || c = '#' then (passLine? (c :: rest)).bind (readLines fuel d ·)
      else (readLine d (c :: rest)).bind fun (d, rest) => readLines fuel d rest

def parse? (s : String) : Option Toml :=
  let cs := match s.toList with
    | '\uFEFF' :: rest => rest
    | cs => cs
  let cs := normalBreaks cs
  (readLines (cs.length + 1) {} cs).map (table .header)

def items? : Toml → Option (List Toml)
  | array items => some items
  | tables earlier last => some ((earlier ++ [last]).map (table .header))
  | _ => none

instance : Document Toml where
  held? x := some (some x)
  entries? names x :=
    match x with
    | table _ entries => some entries
    | moment => some []
    | x => x.items?.map names.zip
  items? := items?
  text?
    | text s => some s
    | _ => none
  count?
    | integer n => if 0 ≤ n then some n.toNat else none
    | _ => none
  truth?
    | truth b => some b
    | _ => none

end Toml

end CqlDispatch
