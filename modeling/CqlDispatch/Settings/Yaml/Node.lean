import CqlDispatch.Settings.Yaml.Token
/-!
# Nodes of YAML

The tree that the tokens of a document spell.  A node may be given a name by an anchor and be
referred to by that name afterwards; names may be used anew, so references go by number.

The readers take fuel, of which every step spends one.  No list of tokens asks for more than four
times its length and a little.
-/
namespace CqlDispatch

namespace Yaml

inductive Node where
  | scalar (style : ScalarStyle) (tag : Option String) (text : String)
  | sequence (items : List Node)
  | mapping (entries : List (Node × Node))
  | reference (number : Nat)
  deriving Repr, Inhabited

/-- A document, with the nodes that were given names. -/
structure Tree where
  root : Node
  named : List (Nat × Node) := []

namespace Tree

/-- What is left to read, and what was learnt so far. -/
structure Progress where
  tokens : List Token
  /-- The beginnings of tags that handles stand for. -/
  handles : List (String × String) := []
  /-- The numbers that the names stand for now, each name once. -/
  numbers : List (String × Nat) := []
  named : List (Nat × Node) := []

abbrev Read := StateT Progress Option

def peek : Read Token := do pure ((← get).tokens.headD .streamEnd)

def skip : Read Unit := modify fun p => { p with tokens := p.tokens.tail }

/-- Takes a token that has to come next. -/
def expect (t : Token) : Read Unit := do if (← peek) = t then skip else failure

def blank (tag : Option String) : Node := .scalar .plain tag ""

/-! ## What comes before a node -/

/-- The handles that need no directive. -/
def usualHandles : List (String × String) := [("!", "!"), ("!!", "tag:yaml.org,2002:")]

/-- A tag in full. -/
def fullTag (handle suffix : String) : Read String := do
  if handle.isEmpty then pure suffix
  else
    match ((← get).handles ++ usualHandles).lookup handle with
    | some beginning => pure (beginning ++ suffix)
    | none => failure

/-- An anchor and a tag in any order, each at most once. -/
def properties : Read (Option String × Option String) := do
  match ← peek with
  | .anchor name =>
    skip
    match ← peek with
    | .tag handle suffix =>
      skip
      pure (some name, some (← fullTag handle suffix))
    | _ => pure (some name, none)
  | .tag handle suffix =>
    skip
    let tag ← fullTag handle suffix
    match ← peek with
    | .anchor name =>
      skip
      pure (some name, some tag)
    | _ => pure (none, some tag)
  | _ => pure (none, none)

/-- Gives a node the number of the names in use before it.  A name that is used anew counts once, so
its number may be given to a second node, which then takes the place of the first. -/
def number (name : String) : Read Nat := do
  let p ← get
  let n := p.numbers.length
  set { p with numbers := (name, n) :: p.numbers.filter (·.1 != name) }
  pure n

/-- What a name refers to, which has to have been given before. -/
def refer (name : String) : Read Node := do
  match (← get).numbers.lookup name with
  | some n => pure (.reference n)
  | none => failure

/-- A tag that says no more than that there is none. -/
def ownTag (tag : Option String) : Option String := tag.filter (· != "!")

/-! ## Nodes -/

/-- Whether an entry of a block has nothing behind its mark. -/
def endsEntry : Token → Bool
  | .key | .value | .blockEnd => true
  | _ => false

mutual

/-- Reads a node.  Blocks have no place in brackets, and only behind a key or a colon may the items
of a sequence stand without a block of their own. -/
def readNode (inBlock bare : Bool) : Nat → Read Node
  | 0 => failure
  | fuel + 1 => do
    match ← peek with
    | .reference name =>
      skip
      refer name
    | _ =>
      let (anchor, tag) ← properties
      let n ← anchor.mapM number
      let node ← readContent inBlock bare (anchor.isSome || tag.isSome) tag fuel
      match n with
      | some n => modify fun p => { p with named := (n, node) :: p.named }
      | none => pure ()
      pure node

/-- Reads a node behind its anchor and its tag. -/
def readContent (inBlock bare marked : Bool) (tag : Option String) : Nat → Read Node
  | 0 => failure
  | fuel + 1 => do
    match ← peek, inBlock with
    | .scalar style text, _ =>
      skip
      pure (.scalar style (ownTag tag) text)
    | .flowSequenceStart, _ =>
      skip
      .sequence <$> readFlowItems true fuel
    | .flowMappingStart, _ =>
      skip
      .mapping <$> readFlowEntries true fuel
    | .blockSequenceStart, true =>
      skip
      .sequence <$> readBlockItems fuel
    | .blockMappingStart, true =>
      skip
      .mapping <$> readBlockEntries fuel
    | .blockEntry, _ =>
      if bare then .sequence <$> readBareItems fuel
      else if marked then pure (blank tag)
      else failure
    | _, _ => if marked then pure (blank tag) else failure

def readBlockItems : Nat → Read (List Node)
  | 0 => failure
  | fuel + 1 => do
    match ← peek with
    | .blockEntry =>
      skip
      let item ← match ← peek with
        | .blockEntry | .blockEnd => pure (blank none)
        | _ => readNode true false fuel
      let others ← readBlockItems fuel
      pure (item :: others)
    | .blockEnd =>
      skip
      pure []
    | _ => failure

/-- Reads items that stand without a block of their own. -/
def readBareItems : Nat → Read (List Node)
  | 0 => failure
  | fuel + 1 => do
    match ← peek with
    | .blockEntry =>
      skip
      let item ← match ← peek with
        | .blockEntry => pure (blank none)
        | t => if endsEntry t then pure (blank none) else readNode true false fuel
      let others ← readBareItems fuel
      pure (item :: others)
    | _ => pure []

def readBlockEntries : Nat → Read (List (Node × Node))
  | 0 => failure
  | fuel + 1 => do
    match ← peek with
    | .key =>
      skip
      let key ← if endsEntry (← peek) then pure (blank none) else readNode true true fuel
      let value ← match ← peek with
        | .value =>
          skip
          if endsEntry (← peek) then pure (blank none) else readNode true true fuel
        | _ => pure (blank none)
      let others ← readBlockEntries fuel
      pure ((key, value) :: others)
    | .blockEnd =>
      skip
      pure []
    | _ => failure

/-- Reads the items in brackets; but for the first one they stand behind commas.  An item with a
key is a mapping of one entry. -/
def readFlowItems (first : Bool) : Nat → Read (List Node)
  | 0 => failure
  | fuel + 1 => do
    if (← peek) = .flowSequenceEnd then
      skip
      pure []
    else
      if !first then expect .flowEntry
      match ← peek with
      | .flowSequenceEnd =>
        skip
        pure []
      | .key =>
        skip
        let key ← match ← peek with
          | .value | .flowEntry | .flowSequenceEnd =>
            skip
            pure (blank none)
          | _ => readNode false false fuel
        let value ← readFlowValue .flowSequenceEnd fuel
        let others ← readFlowItems false fuel
        pure (.mapping [(key, value)] :: others)
      | _ =>
        let item ← readNode false false fuel
        let others ← readFlowItems false fuel
        pure (item :: others)

/-- Reads the entries in braces; but for the first one they stand behind commas. -/
def readFlowEntries (first : Bool) : Nat → Read (List (Node × Node))
  | 0 => failure
  | fuel + 1 => do
    if (← peek) = .flowMappingEnd then
      skip
      pure []
    else
      if !first then expect .flowEntry
      match ← peek with
      | .flowMappingEnd =>
        skip
        pure []
      | .key =>
        skip
        let key ← match ← peek with
          | .value | .flowEntry | .flowMappingEnd => pure (blank none)
          | _ => readNode false false fuel
        let value ← readFlowValue .flowMappingEnd fuel
        let others ← readFlowEntries false fuel
        pure ((key, value) :: others)
      | _ =>
        let key ← readNode false false fuel
        let others ← readFlowEntries false fuel
        pure ((key, blank none) :: others)

/-- Reads what stands behind a colon, if there is one, before a comma or the closing mark. -/
def readFlowValue (closing : Token) : Nat → Read Node
  | 0 => failure
  | fuel + 1 => do
    if (← peek) = .value then
      skip
      let t ← peek
      if t = .flowEntry || t = closing then pure (blank none) else readNode false false fuel
    else pure (blank none)

end

/-! ## Documents -/

/-- Reads the directives in front of a document: one version at most, and no handle twice. -/
def readDirectives (versioned : Bool) : Nat → Read Unit
  | 0 => failure
  | fuel + 1 => do
    match ← peek with
    | .directive (.version major minor) =>
      if versioned || major ≠ 1 || (minor ≠ 1 && minor ≠ 2) then failure
      else
        skip
        readDirectives true fuel
    | .directive (.tagHandle handle full) =>
      let p ← get
      if (p.handles.lookup handle).isSome then failure
      else
        set { p with handles := (handle, full) :: p.handles }
        skip
        readDirectives versioned fuel
    | _ => pure ()

def readEnds : Nat → Read Unit
  | 0 => pure ()
  | fuel + 1 => do
    if (← peek) = .documentEnd then
      skip
      readEnds fuel

/-- Whether a document begins with a mark of its own. -/
def isMarked : Token → Bool
  | .directive _ | .documentStart => true
  | _ => false

/-- Reads the only document; nothing at all stands for an empty one. -/
def readDocument (fuel : Nat) : Read Node := do
  let first ← peek
  let root ←
    if first = .streamEnd then pure (blank none)
    else if isMarked first then
      readDirectives false fuel
      expect .documentStart
      let t ← peek
      if isMarked t || t = .documentEnd || t = .streamEnd then pure (blank none)
      else readNode true false fuel
    else readNode true false fuel
  readEnds fuel
  expect .streamEnd
  pure root

def ofTokens? (tokens : List Token) : Option Tree :=
  (readDocument (4 * tokens.length + 8) { tokens }).map fun (root, p) => ⟨root, p.named⟩

end Tree

end Yaml

end CqlDispatch
