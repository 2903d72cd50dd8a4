import CqlDispatch.Settings.Yaml.Scalar
import CqlDispatch.Text.Unsigned
/-!
# Tokens of YAML

A document as a list of tokens: marks, names, texts, and the starts and ends of the blocks that
indentation makes.

Indentation is followed as a stack of columns: a token further to the right than the block it
stands in may open one, and a token further to the left closes blocks (`Scanner.unroll`).  Whether a
text is a key shows only at the colon behind it.  So the place in front of every token that may be a
key is remembered as a `KeySpot`, and the colon puts the mark of a key there, and the start of a
block where one begins with that key.
-/
namespace CqlDispatch

namespace Yaml

inductive ScalarStyle where
  | plain | quoted | literal | folded
  deriving DecidableEq, Repr, Inhabited

inductive Directive where
  | version (major minor : Nat)
  /-- A short handle for a beginning of tags. -/
  | tagHandle (handle full : String)
  deriving DecidableEq, Repr

inductive Token where
  | directive (d : Directive)
  | documentStart
  | documentEnd
  | blockSequenceStart
  | blockMappingStart
  | blockEnd
  | flowSequenceStart
  | flowSequenceEnd
  | flowMappingStart
  | flowMappingEnd
  | blockEntry
  | flowEntry
  | key
  | value
  | reference (name : String)
  | anchor (name : String)
  | tag (handle suffix : String)
  | scalar (style : ScalarStyle) (text : String)
  | streamEnd
  deriving DecidableEq, Repr, Inhabited

/-! ## Names, tags and directives -/

def isNameChar (c : Char) : Bool := c.isAlphanum || c = '_' || c = '-'

def spanName (cs : List Char) : List Char × List Char := cs.span isNameChar

/-- The name of an anchor, which ends at a gap or at one of some marks. -/
def readAnchorName (cs : List Char) : Option (String × List Char) :=
  let (name, rest) := spanName cs
  if name.isEmpty then none
  else if atGap rest || nextIs ("?:,]\x7d%@\x60".toList.contains ·) rest then
    some (String.ofList name, rest)
  else none

/-- Whether a character may stand in a tag; the marks of lists only in one spelled out in full. -/
def isTagChar (full : Bool) (c : Char) : Bool :=
  isNameChar c || ";/?:@&=+$.!~*'()".toList.contains c || (full && ",[]".toList.contains c)

/-- How many bytes a character has whose first byte this is. -/
def encodedWidth? (n : Nat) : Option Nat :=
  if n < 0x80 then some 1
  else if 0xC0 ≤ n && n < 0xE0 then some 2
  else if 0xE0 ≤ n && n < 0xF0 then some 3
  else if 0xF0 ≤ n && n < 0xF8 then some 4
  else none

/-- Reads the characters of a tag, which may be written as bytes in hexadecimal.  `more` such bytes
are still to come for the character begun as `code`. -/
def readTagChars (full : Bool) (read : List Char) (more code : Nat) :
    List Char → Option (List Char × List Char)
  | '%' :: a :: b :: rest =>
    match Hex.natOf? [a, b] with
    | none => none
    | some n =>
      if more = 0 then
        match encodedWidth? n with
        | none => none
        | some 1 => readTagChars full (Char.ofNat n :: read) 0 0 rest
        | some w => readTagChars full read (w - 1) (n % Nat.pow 2 (7 - w)) rest
      else if n / 64 = 2 then
        let code := code * 64 + n % 64
        if more = 1 then readTagChars full (Char.ofNat code :: read) 0 0 rest
        else readTagChars full read (more - 1) code rest
      else none
  | c :: rest =>
    if more ≠ 0 then none
    else if isTagChar full c then readTagChars full (c :: read) 0 0 rest
    else if c = '%' then none
    else some (read.reverse, c :: rest)
  | [] => if more = 0 then some (read.reverse, []) else none

/-- The handle at the beginning of a tag: a name between exclamation marks, or what of it is there. -/
def readHandle (cs : List Char) : Option (List Char × List Char) :=
  match cs with
  | '!' :: rest =>
    match spanName rest with
    | (name, '!' :: rest) => some ('!' :: name ++ ['!'], rest)
    | (name, rest) => some ('!' :: name, rest)
  | _ => none

/-- Whether a handle is closed by a second exclamation mark. -/
def isClosedHandle (handle : List Char) : Bool := 2 ≤ handle.length && handle.getLast? == some '!'

/-- A tag as its handle and its suffix: in angle brackets, with a handle of its own, or local.  A
lone exclamation mark is a tag without handle. -/
def readTagParts (cs : List Char) : Option (String × String × List Char) :=
  match cs with
  | '!' :: '<' :: rest =>
    match readTagChars true [] 0 0 rest with
    | some (c :: full, '>' :: rest) => some ("", String.ofList (c :: full), rest)
    | _ => none
  | cs => do
    let (handle, rest) ← readHandle cs
    if isClosedHandle handle then
      match ← readTagChars false [] 0 0 rest with
      | ([], _) => none
      | (suffix, rest) => some (String.ofList handle, String.ofList suffix, rest)
    else
      let (chars, rest) ← readTagChars false [] 0 0 rest
      match handle.tail ++ chars with
      | [] => some ("", "!", rest)
      | suffix => some ("!", String.ofList suffix, rest)

/-- A tag, which ends at a gap, or within brackets at a comma. -/
def readTag (inFlow : Bool) (cs : List Char) : Option (Token × List Char) := do
  let (handle, suffix, rest) ← readTagParts cs
  if atGap rest || (inFlow && nextIs (· = ',') rest) then some (.tag handle suffix, rest) else none

def readShortNumber (cs : List Char) : Option (Nat × List Char) :=
  let (digits, rest) := cs.span Char.isDigit
  if 9 < digits.length then none else (natOfDigits? digits).map (·, rest)

def readVersion (cs : List Char) : Option (Directive × List Char) := do
  let (major, rest) ← readShortNumber cs
  match rest with
  | '.' :: rest =>
    let (minor, rest) ← readShortNumber rest
    some (.version major minor, rest)
  | _ => none

def readTagHandle (cs : List Char) : Option (Directive × List Char) := do
  let (handle, rest) ← readHandle cs
  if (isClosedHandle handle || handle = ['!']) && nextIs isSpace rest then
    match ← readTagChars true [] 0 0 (skipSpaces rest) with
    | ([], _) => none
    | (full, rest) =>
      if atGap rest then some (.tagHandle (String.ofList handle) (String.ofList full), rest)
      else none
  else none

/-- A directive behind its percent sign, and the line it stands on. -/
def readDirective (cs : List Char) : Option (Token × List Char) := do
  let (name, rest) := spanName cs
  let (d, rest) ←
    if !atGap rest then none
    else if name = "YAML".toList then readVersion (skipSpaces rest)
    else if name = "TAG".toList then readTagHandle (skipSpaces rest)
    else none
  (passLine? rest).map (.directive d, ·)

/-! ## The scanner -/

structure Place where
  index : Nat := 0
  line : Nat := 0
  column : Nat := 0
  deriving DecidableEq, Repr

def Place.past (p : Place) (c : Char) : Place :=
  if isBreak c then ⟨p.index + 1, p.line + 1, 0⟩ else ⟨p.index + 1, p.line, p.column + 1⟩

/-- A place in front of a token that may turn out to be a key. -/
structure KeySpot where
  /-- Whether only a key can stand there. -/
  required : Bool
  /-- How many tokens come before it. -/
  position : Nat
  place : Place
  deriving DecidableEq, Repr

structure Scanner where
  rest : List Char
  place : Place := {}
  tokens : List Token := []
  /-- The columns of the open blocks, the innermost first. -/
  blocks : List Nat := []
  /-- The spot of the brackets or the block at hand, and those of what is around it. -/
  spot : Option KeySpot := none
  outer : List (Option KeySpot) := []
  /-- Whether a key may begin here. -/
  keyAllowed : Bool := true
  finished : Bool := false

namespace Scanner

def inFlow (s : Scanner) : Bool := !s.outer.isEmpty
def column (s : Scanner) : Nat := s.place.column

/-- The first column that is within the innermost block. -/
def base (s : Scanner) : Nat := (s.blocks.head?.map (· + 1)).getD 0

/-- Goes on to what follows. -/
def moveTo (s : Scanner) (rest : List Char) : Scanner :=
  { s with rest, place := (s.rest.take (s.rest.length - rest.length)).foldl Place.past s.place }

def skip (s : Scanner) (count : Nat) : Scanner := s.moveTo (s.rest.drop count)

def emit (s : Scanner) (t : Token) : Scanner := { s with tokens := s.tokens ++ [t] }

/-- Puts a token in front of all but the first so many. -/
def insertAt (s : Scanner) (position : Nat) (t : Token) : Scanner :=
  { s with tokens := s.tokens.take position ++ t :: s.tokens.drop position }

/-! ### Blocks -/

/-- Opens a block at a column that lies within the innermost one. -/
def roll (s : Scanner) (column position : Nat) (t : Token) : Scanner :=
  if !s.inFlow && s.base ≤ column then
    { s.insertAt position t with blocks := column :: s.blocks }
  else s

def rollHere (s : Scanner) (t : Token) : Scanner := s.roll s.column s.tokens.length t

/-- Closes the blocks whose columns are at least `floor`. -/
def unroll (s : Scanner) (floor : Nat) : Scanner :=
  if s.inFlow then s
  else
    let (closed, kept) := s.blocks.span (floor ≤ ·)
    { s with blocks := kept, tokens := s.tokens ++ closed.map fun _ => .blockEnd }

/-! ### Spots for keys -/

/-- Gives up the spot at hand, where no key has to be. -/
def dropSpot (s : Scanner) : Option Scanner :=
  if s.spot.any (·.required) then none else some { s with spot := none }

/-- Remembers the place in front of the next token. -/
def saveSpot (s : Scanner) : Option Scanner :=
  if s.keyAllowed then
    s.dropSpot.map fun s =>
      { s with
        spot := some {
          required := !s.inFlow && s.blocks.head? == some s.column
          position := s.tokens.length
          place := s.place } }
  else some s

/-- Whether it is too late for the colon behind a key: it has to stand on the same line and within
1024 characters. -/
def isStale (s : Scanner) (k : KeySpot) : Bool :=
  k.place.line < s.place.line || k.place.index + 1024 < s.place.index

/-- Gives up the spots for which it is too late, where no key has to be. -/
def dropStale (s : Scanner) : Option Scanner :=
  let fresh (k : Option KeySpot) : Option KeySpot := k.filter (!s.isStale ·)
  if (s.spot :: s.outer).any fun k => k.any fun k => k.required && s.isStale k then none
  else some { s with spot := fresh s.spot, outer := s.outer.map fresh }

/-! ### Tokens -/

/-- Passes blanks, comments and line breaks.  A tab may not stand where a key may begin.  A new line
is a place for a key. -/
def passGap (inFlow : Bool) (keyAllowed inComment : Bool) : List Char → Bool × List Char
  | [] => (keyAllowed, [])
  | c :: rest =>
    if isBreak c then passGap inFlow (keyAllowed || !inFlow) false rest
    else if inComment || c = ' ' || (c = '\t' && (inFlow || !keyAllowed)) then
      passGap inFlow keyAllowed inComment rest
    else if c = '#' then passGap inFlow keyAllowed true rest
    else (keyAllowed, c :: rest)

def passToToken (s : Scanner) : Scanner :=
  let (keyAllowed, rest) := passGap s.inFlow s.keyAllowed false s.rest
  { s.moveTo rest with keyAllowed }

/-- The end of the document's characters. -/
def finish (s : Scanner) : Option Scanner :=
  (s.unroll 0).dropSpot.map fun s => { s.emit .streamEnd with finished := true }

/-- A token outside of every block. -/
def outsideBlocks (s : Scanner) (t : Token) (rest : List Char) : Option Scanner :=
  (s.unroll 0).dropSpot.map fun s => { (s.moveTo rest).emit t with keyAllowed := false }

def openFlow (s : Scanner) (t : Token) : Option Scanner :=
  s.saveSpot.map fun s =>
    { (s.skip 1).emit t with spot := none, outer := s.spot :: s.outer, keyAllowed := true }

def closeFlow (s : Scanner) (t : Token) : Option Scanner :=
  s.dropSpot.map fun s =>
    let s := match s.outer with
      | spot :: outer => { s with spot, outer }
      | [] => s
    { (s.skip 1).emit t with keyAllowed := false }

def flowEntry (s : Scanner) : Option Scanner :=
  s.dropSpot.map fun s => { (s.skip 1).emit .flowEntry with keyAllowed := true }

def blockEntry (s : Scanner) : Option Scanner :=
  if !s.inFlow && !s.keyAllowed then none
  else
    (s.rollHere .blockSequenceStart).dropSpot.map fun s =>
      { (s.skip 1).emit .blockEntry with keyAllowed := true }

def keyMark (s : Scanner) : Option Scanner :=
  if !s.inFlow && !s.keyAllowed then none
  else
    (s.rollHere .blockMappingStart).dropSpot.map fun s =>
      { (s.skip 1).emit .key with keyAllowed := !s.inFlow }

/-- The colon in front of a value, which makes a key of what stands at the spot at hand. -/
def valueMark (s : Scanner) : Option Scanner :=
  match s.spot with
  | some k =>
    let s := (s.insertAt k.position .key).roll k.place.column k.position .blockMappingStart
    some { (s.skip 1).emit .value with spot := none, keyAllowed := false }
  | none =>
    if !s.inFlow && !s.keyAllowed then none
    else
      let s := s.rollHere .blockMappingStart
      some { (s.skip 1).emit .value with keyAllowed := !s.inFlow }

/-- A token that may be a key. -/
def content (s : Scanner) (read : Scanner → Option (Token × List Char)) : Option Scanner := do
  let s ← s.saveSpot
  let (t, rest) ← read s
  some { (s.moveTo rest).emit t with keyAllowed := false }

def plain (s : Scanner) : Option Scanner := do
  let s ← s.saveSpot
  let x ← readPlain s.inFlow s.base s.column [] .none s.rest
  some { (s.moveTo x.rest).emit (.scalar .plain x.text) with keyAllowed := x.newLine }

def block (s : Scanner) (style : ScalarStyle) : Option Scanner := do
  let s ← s.dropSpot
  let x ← readBlock (style = .folded) s.base s.rest.tail
  some { (s.moveTo x.rest).emit (.scalar style x.text) with keyAllowed := true }

def quotedBy (read : Bool → List Char → Gap → List Char → Option Scanned) (s : Scanner) :
    Option (Token × List Char) :=
  (read false [] .none s.rest.tail).map fun x => (.scalar .quoted x.text, x.rest)

/-- Whether a plain text may start like this. -/
def startsPlain (inFlow : Bool) : List Char → Bool
  | [] => false
  | c :: rest =>
    if c = '-' then !nextIs isSpace rest
    else if c = '?' || c = ':' then !inFlow && !atGap rest
    else !isSpace c && !isBreak c && !isFlowMark c && !"#&*!|>'\"%@\x60".toList.contains c

/-- Scans one token, with the blocks that end or begin before it. -/
def step (s : Scanner) : Option Scanner := do
  let s ← s.passToToken.dropStale
  let s := s.unroll (s.column + 1)
  let cs := s.rest
  match cs with
  | [] => s.finish
  | c :: rest =>
    if s.column = 0 && c = '%' then
      let (t, rest) ← readDirective rest
      s.outsideBlocks t rest
    else if s.column = 0 && isTriple '-' cs then s.outsideBlocks .documentStart (cs.drop 3)
    else if s.column = 0 && isTriple '.' cs then s.outsideBlocks .documentEnd (cs.drop 3)
    else if c = '[' then s.openFlow .flowSequenceStart
    else if c = '\x7b' then s.openFlow .flowMappingStart
    else if c = ']' then s.closeFlow .flowSequenceEnd
    else if c = '\x7d' then s.closeFlow .flowMappingEnd
    else if c = ',' then s.flowEntry
    else if c = '-' && atGap rest then s.blockEntry
    else if c = '?' && (s.inFlow || atGap rest) then s.keyMark
    else if c = ':' && (s.inFlow || atGap rest) then s.valueMark
    else if c = '*' then
      s.content fun s => (readAnchorName s.rest.tail).map fun (n, rest) => (.reference n, rest)
    else if c = '&' then
      s.content fun s => (readAnchorName s.rest.tail).map fun (n, rest) => (.anchor n, rest)
    else if c = '!' then s.content fun s => readTag s.inFlow s.rest
    else if c = '|' && !s.inFlow then s.block .literal
    else if c = '>' && !s.inFlow then s.block .folded
    else if c = '\'' then s.content (quotedBy readSingle)
    else if c = '"' then s.content (quotedBy readDouble)
    else if startsPlain s.inFlow cs then s.plain
    else none

/-- Scans all tokens; each but the last takes at least one character. -/
def run : Nat → Scanner → Option (List Token)
  | 0, _ => none
  | fuel + 1, s =>
    if s.finished then some s.tokens else s.step.bind (run fuel ·)

/-- A scanner at the start of a document; a mark of the byte order is passed. -/
def start (cs : List Char) : Scanner :=
  let s : Scanner := { rest := cs }
  if nextIs (· = '\uFEFF') cs then s.skip 1 else s

end Scanner

def tokens? (s : String) : Option (List Token) :=
  let cs := s.toList
  if cs.all isAllowed then
    let cs := normalBreaks cs
    Scanner.run (cs.length + 2) (.start cs)
  else none

end Yaml

end CqlDispatch
