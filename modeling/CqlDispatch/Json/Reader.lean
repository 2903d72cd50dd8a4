import CqlDispatch.Json
/-!
# Reading JSON

`Json.parse?` reads one document from a text and nothing around it but blanks.  The text of a
number is kept as it stands; an escaped surrogate counts only together with its other half.

The readers take fuel, of which every step spends one.  No document asks for more than twice its
length, which is what `Json.parse?` gives.
-/
namespace CqlDispatch

namespace Json

def skipBlanks (cs : List Char) : List Char :=
  cs.dropWhile fun c => c = ' ' || c = '\n' || c = '\r' || c = '\t'

def plainEscape? (c : Char) : Option Char :=
  if c = '"' || c = '\\' || c = '/' then some c
  else if c = 'b' then some '\x08'
  else if c = 'f' then some '\x0c'
  else if c = 'n' then some '\n'
  else if c = 'r' then some '\r'
  else if c = 't' then some '\t'
  else none

def isHighSurrogate (n : Nat) : Bool := 0xD800 ≤ n && n < 0xDC00
def isLowSurrogate (n : Nat) : Bool := 0xDC00 ≤ n && n < 0xE000

def paired (high low : Nat) : Char :=
  Char.ofNat (0x10000 + (high - 0xD800) * 0x400 + (low - 0xDC00))

/-- Reads a string behind its opening quote; `read` is what came before, the latest first. -/
def readString (read : List Char) : List Char → Option (String × List Char)
  | [] => none
  | '"' :: rest => some (String.ofList read.reverse, rest)
  | '\\' :: 'u' :: a :: b :: c :: d :: rest =>
    match Hex.natOf? [a, b, c, d] with
    | none => none
    | some n =>
      if isHighSurrogate n then
        match rest with
        | '\\' :: 'u' :: e :: f :: g :: h :: rest =>
          match Hex.natOf? [e, f, g, h] with
          | some m => if isLowSurrogate m then readString (paired n m :: read) rest else none
          | none => none
        | _ => none
      else if isLowSurrogate n then none
      else readString (Char.ofNat n :: read) rest
  | '\\' :: c :: rest =>
    match plainEscape? c with
    | some plain => readString (plain :: read) rest
    | none => none
  | c :: rest => readString (c :: read) rest

def isNumberChar (c : Char) : Bool :=
  c.isDigit || c = '+' || c = '-' || c = '.' || c = 'e' || c = 'E'

mutual

def readValue : Nat → List Char → Option (Json × List Char)
  | 0, _ => none
  | fuel + 1, cs =>
    match skipBlanks cs with
    | '"' :: rest => (readString [] rest).map fun (s, rest) => (string s, rest)
    | '[' :: rest =>
      match skipBlanks rest with
      | ']' :: rest => some (array [], rest)
      | rest => readItems fuel [] rest
    | '\x7b' :: rest =>
      match skipBlanks rest with
      | '\x7d' :: rest => some (object [], rest)
      | rest => readMembers fuel [] rest
    | 't' :: 'r' :: 'u' :: 'e' :: rest => some (bool true, rest)
    | 'f' :: 'a' :: 'l' :: 's' :: 'e' :: rest => some (bool false, rest)
    | 'n' :: 'u' :: 'l' :: 'l' :: rest => some (null, rest)
    | cs =>
      let digits := cs.takeWhile isNumberChar
      if digits.isEmpty then none
      else some (number (String.ofList digits), cs.drop digits.length)

/-- Reads the items of an array from the next one on; `read` is what came before. -/
def readItems : Nat → List Json → List Char → Option (Json × List Char)
  | 0, _, _ => none
  | fuel + 1, read, cs =>
    match readValue fuel cs with
    | none => none
    | some (j, rest) =>
      match skipBlanks rest with
      | ',' :: rest => readItems fuel (j :: read) rest
      | ']' :: rest => some (array (j :: read).reverse, rest)
      | _ => none

/-- Reads the members of an object from the next name on; `read` is what came before. -/
def readMembers : Nat → List (String × Json) → List Char → Option (Json × List Char)
  | 0, _, _ => none
  | fuel + 1, read, cs =>
    match skipBlanks cs with
    | '"' :: rest =>
      match readString [] rest with
      | none => none
      | some (name, rest) =>
        match skipBlanks rest with
        | ':' :: rest =>
          match readValue fuel rest with
          | none => none
          | some (j, rest) =>
            match skipBlanks rest with
            | ',' :: rest => readMembers fuel ((name, j) :: read) rest
            | '\x7d' :: rest => some (object ((name, j) :: read).reverse, rest)
            | _ => none
        | _ => none
    | _ => none

end

def parse? (s : String) : Option Json :=
  let cs := s.toList
  match readValue (2 * cs.length + 1) cs with
  | some (j, rest) => if (skipBlanks rest).isEmpty then some j else none
  | none => none

end Json

end CqlDispatch
