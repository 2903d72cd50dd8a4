import CqlDispatch.Text.Digits
import CqlDispatch.Text.Spaces
/-!
# Scalars in YAML

The four ways to write a text: plain, between quotes of either kind, and as a block of lines.  A
text may run over several lines, and then what stands between two words is folded: one line break
becomes a space, and of several the first is dropped.

All of it works on characters whose line breaks have been made equal (`normalBreaks`), except the
two separators of Unicode, which break lines but are kept in texts.
-/
namespace CqlDispatch

namespace Yaml

/-! ## Characters -/

/-- Makes the line breaks equal that mean the same. -/
def normalBreaks : List Char → List Char
  | '\r' :: '\n' :: rest => '\n' :: normalBreaks rest
  | '\r' :: rest => '\n' :: normalBreaks rest
  | '\x85' :: rest => '\n' :: normalBreaks rest
  | c :: rest => c :: normalBreaks rest
  | [] => []

def isBreak (c : Char) : Bool := c = '\n' || c = '\u2028' || c = '\u2029'

/-- Whether a character may stand in a document at all. -/
def isAllowed (c : Char) : Bool :=
  let n := c.toNat
  n == 9 || n == 10 || n == 13 || (0x20 ≤ n && n ≤ 0x7E) || n == 0x85 ||
    (0xA0 ≤ n && n ≠ 0xFFFE && n ≠ 0xFFFF)

/-- Whether a word ends here: at a blank, a line break, or the end of the document. -/
def atGap : List Char → Bool
  | [] => true
  | c :: _ => isSpace c || isBreak c

/-- Three of a character, alone: at the start of a line the mark of a document's start or end. -/
def isTriple (mark : Char) : List Char → Bool
  | a :: b :: c :: rest => a = mark && b = mark && c = mark && atGap rest
  | _ => false

def isDocumentMark (cs : List Char) : Bool := isTriple '-' cs || isTriple '.' cs

/-! ## Between two words -/

/-- What was passed since the last word, the latest first. -/
inductive Gap where
  | blanks (passed : List Char)
  /-- Line breaks, of which the first may have been escaped. -/
  | breaks (first : Option Char) (more : List Char)
  deriving Repr

namespace Gap

def none : Gap := blanks []

def isEmpty : Gap → Bool
  | blanks [] => true
  | _ => false

def hasBreak : Gap → Bool
  | blanks _ => false
  | breaks .. => true

/-- A blank more; behind a line break it only indents. -/
def blank (c : Char) : Gap → Gap
  | blanks passed => blanks (c :: passed)
  | g => g

/-- A line break more; blanks in front of it are lost. -/
def lineBreak (c : Char) : Gap → Gap
  | blanks _ => breaks (some c) []
  | breaks first more => breaks first (c :: more)

/-- What a gap stands for within a text. -/
def text : Gap → List Char
  | blanks passed => passed.reverse
  | breaks (some '\n') [] => [' ']
  | breaks (some '\n') more => more.reverse
  | breaks first more => first.toList ++ more.reverse

/-- The text so far, the latest first, with a gap behind it. -/
def after (read : List Char) (g : Gap) : List Char := g.text.reverse ++ read

end Gap

structure Scanned where
  text : String
  rest : List Char
  /-- Whether the scan passed a line break behind the last word. -/
  newLine : Bool := false

def textOf (read : List Char) : String := String.ofList read.reverse

/-! ## Plain texts -/

/-- The characters with a meaning of their own inside brackets. -/
def isFlowMark (c : Char) : Bool :=
  c = ',' || c = '[' || c = ']' || c = '\x7b' || c = '\x7d'

/-- Whether a plain text ends here: at a colon with a gap behind it, or at a mark of the brackets. -/
def endsPlain (inFlow : Bool) : List Char → Bool
  | ':' :: rest => atGap rest
  | c :: _ => inFlow && isFlowMark c
  | [] => true

/-- Whether a colon stands where a plain text in brackets allows none. -/
def strayColon (inFlow : Bool) : List Char → Bool
  | ':' :: c :: _ => inFlow && (isFlowMark c || c = '?')
  | _ => false

/-- Reads a plain text on from a column.  Behind a gap it ends at a comment, at the mark of a
document, and outside brackets at a line that is not indented by `indent`. -/
def readPlain (inFlow : Bool) (indent column : Nat) (read : List Char) (gap : Gap) :
    List Char → Option Scanned
  | [] => some ⟨textOf read, [], gap.hasBreak⟩
  | c :: rest =>
    if isSpace c then
      if gap.hasBreak && column < indent && c = '\t' then none
      else readPlain inFlow indent (column + 1) read (gap.blank c) rest
    else if isBreak c then readPlain inFlow indent 0 read (gap.lineBreak c) rest
    else
      let outside := !gap.isEmpty &&
        (c = '#' || (!inFlow && column < indent) || (column == 0 && isDocumentMark (c :: rest)))
      if outside || endsPlain inFlow (c :: rest) then
        some ⟨textOf read, c :: rest, gap.hasBreak⟩
      else if strayColon inFlow (c :: rest) then none
      else readPlain inFlow indent (column + 1) (c :: gap.after read) .none rest

/-! ## Quoted texts -/

/-- Reads a text between single quotes, in which two of them stand for one. -/
def readSingle (atStart : Bool) (read : List Char) (gap : Gap) : List Char → Option Scanned
  | [] => none
  | c :: rest =>
    if atStart && isDocumentMark (c :: rest) then none
    else if isSpace c then readSingle false read (gap.blank c) rest
    else if isBreak c then readSingle true read (gap.lineBreak c) rest
    else
      match c, rest with
      | '\'', '\'' :: rest => readSingle false ('\'' :: gap.after read) .none rest
      | '\'', rest => some ⟨textOf (gap.after read), rest, false⟩
      | c, rest => readSingle false (c :: gap.after read) .none rest

def escaped? (c : Char) : Option Char :=
  [('0', '\x00'), ('a', '\x07'), ('b', '\x08'), ('t', '\t'), ('\t', '\t'), ('n', '\n'),
    ('v', '\x0b'), ('f', '\x0c'), ('r', '\r'), ('e', '\x1b'), (' ', ' '), ('"', '"'), ('/', '/'),
    ('\\', '\\'), ('N', '\x85'), ('_', '\xa0'), ('L', '\u2028'), ('P', '\u2029')].lookup c

/-- Reads a text between double quotes, in which a backslash escapes a character or a line break. -/
def readDouble (atStart : Bool) (read : List Char) (gap : Gap) : List Char → Option Scanned
  | [] => none
  | c :: rest =>
    if atStart && isDocumentMark (c :: rest) then none
    else if isSpace c then readDouble false read (gap.blank c) rest
    else if isBreak c then readDouble true read (gap.lineBreak c) rest
    else
      let read := gap.after read
      match c, rest with
      | '"', rest => some ⟨textOf read, rest, false⟩
      | '\\', 'x' :: a :: b :: rest =>
        match Hex.charOf? [a, b] with
        | some x => readDouble false (x :: read) .none rest
        | none => none
      | '\\', 'u' :: a :: b :: c :: d :: rest =>
        match Hex.charOf? [a, b, c, d] with
        | some x => readDouble false (x :: read) .none rest
        | none => none
      | '\\', 'U' :: a :: b :: c :: d :: e :: f :: g :: h :: rest =>
        match Hex.charOf? [a, b, c, d, e, f, g, h] with
        | some x => readDouble false (x :: read) .none rest
        | none => none
      | '\\', e :: rest =>
        if isBreak e then readDouble true read (.breaks none []) rest
        else
          match escaped? e with
          | some x => readDouble false (x :: read) .none rest
          | none => none
      | c, rest => readDouble false (c :: read) .none rest

/-! ## Blocks of lines -/

/-- What becomes of the line breaks at the end of a block. -/
inductive Chomp where
  | strip | clip | keep
  deriving DecidableEq, Repr

def chomp? : Char → Option Chomp
  | '-' => some .strip
  | '+' => some .keep
  | _ => none

def indentDigit? (c : Char) : Option Nat :=
  if c.isDigit && c ≠ '0' then some (c.toNat - '0'.toNat) else none

/-- What stands behind the mark of a block: how it ends and how far it is indented, in any order. -/
def readBlockHead : List Char → Option (Chomp × Option Nat × List Char)
  | [] => some (.clip, none, [])
  | c :: rest =>
    match chomp? c with
    | some chomp =>
      match rest with
      | d :: rest' =>
        if d.isDigit then (indentDigit? d).map fun n => (chomp, some n, rest')
        else some (chomp, none, rest)
      | [] => some (chomp, none, [])
    | none =>
      if c.isDigit then
        (indentDigit? c).map fun n =>
          match rest with
          | d :: rest' =>
            match chomp? d with
            | some chomp => (chomp, some n, rest')
            | none => (.clip, some n, rest)
          | [] => (.clip, some n, [])
      else some (.clip, none, c :: rest)

/-- Passes to the end of a line that holds nothing more than a comment. -/
def passLine? (cs : List Char) : Option (List Char) :=
  let cs := skipSpaces cs
  let cs := if nextIs (· = '#') cs then cs.dropWhile (!isBreak ·) else cs
  match cs with
  | [] => some []
  | c :: rest => if isBreak c then some rest else none

/-- Lines without content and the indentation behind them. -/
structure Margin where
  /-- The line breaks passed, in order. -/
  breaks : List Char
  /-- The column that was reached, and the greatest on any of the lines. -/
  column : Nat
  greatest : Nat
  rest : List Char

/-- Passes a margin, up to an indentation where one is known. -/
def readMargin (indent : Option Nat) (column greatest : Nat) (read : List Char) :
    List Char → Option Margin
  | [] => some ⟨read.reverse, column, max greatest column, []⟩
  | c :: rest =>
    let within := (indent.map fun n => decide (column < n)).getD true
    if c = ' ' && within then readMargin indent (column + 1) greatest read rest
    else if c = '\t' && within then none
    else if isBreak c then readMargin indent 0 (max greatest column) (c :: read) rest
    else some ⟨read.reverse, column, max greatest column, c :: rest⟩

/-- The content of a block so far. -/
structure Block where
  /-- The latest first. -/
  read : List Char := []
  /-- The end of the last line. -/
  lineBreak : Option Char := none
  /-- Whether the last line began with a blank. -/
  indented : Bool := false

namespace Block

/-- A line more, behind empty lines.  Folding joins two lines unless one of them is indented. -/
def line (folded : Bool) (b : Block) (empty : List Char) (line : List Char)
    (lineBreak : Option Char) : Block :=
  let indented := nextIs isSpace line
  let joint :=
    if folded && b.lineBreak = some '\n' && !b.indented && !indented then
      if empty.isEmpty then [' '] else empty
    else b.lineBreak.toList ++ empty
  { read := line.reverse ++ (joint.reverse ++ b.read), lineBreak, indented }

/-- The whole text, with what is left of the line breaks at its end. -/
def close (chomp : Chomp) (b : Block) (empty : List Char) : String :=
  let ending := match chomp with
    | .strip => []
    | .clip => b.lineBreak.toList
    | .keep => b.lineBreak.toList ++ empty
  textOf (ending.reverse ++ b.read)

end Block

/-- Reads the lines of a block from a margin on; every line takes one off the fuel. -/
def readLines (folded : Bool) (chomp : Chomp) (indent : Nat) :
    Nat → Block → Margin → Option Scanned
  | 0, _, _ => none
  | fuel + 1, b, m =>
    if m.column == indent && !m.rest.isEmpty then
      let content := m.rest.takeWhile (!isBreak ·)
      let behind := m.rest.drop content.length
      let b := b.line folded m.breaks content behind.head?
      (readMargin (some indent) 0 0 [] behind.tail).bind (readLines folded chomp indent fuel b ·)
    else some ⟨b.close chomp m.breaks, m.rest, true⟩

/-- Reads a block behind its mark.  Without a digit its first line with content tells how far it is
indented, but at least by `base`. -/
def readBlock (folded : Bool) (base : Nat) (cs : List Char) : Option Scanned := do
  let (chomp, extra, rest) ← readBlockHead cs
  let rest ← passLine? rest
  let known := extra.map fun n => base - 1 + n
  let m ← readMargin known 0 0 [] rest
  let indent := known.getD (max m.greatest (max base 1))
  readLines folded chomp indent (m.rest.length + 1) {} m

end Yaml

end CqlDispatch
