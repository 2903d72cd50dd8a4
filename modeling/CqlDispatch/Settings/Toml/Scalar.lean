import CqlDispatch.Settings.Toml.Table
import CqlDispatch.Text.Spaces
import CqlDispatch.Text.Unsigned
/-!
# Texts, numbers and moments of TOML

The values without parts, each with what follows it.  A reader stops behind the longest value that
it can make out; what is left over spoils the document later on.

Line breaks have been made equal before (`normalBreaks`), so a carriage return that is left has no
place in a document.
-/
namespace CqlDispatch

namespace Toml

/-- Writes every line break in the short way. -/
def normalBreaks : List Char → List Char
  | '\r' :: '\n' :: rest => '\n' :: normalBreaks rest
  | c :: rest => c :: normalBreaks rest
  | [] => []

/-- Whether a character may stand in texts and comments as it is. -/
def isPrintable (c : Char) : Bool := c = '\t' || (' ' ≤ c && c ≠ '\x7f')

/-! ## Texts -/

def escaped? : Char → Option Char
  | 'b' => some '\x08'
  | 't' => some '\t'
  | 'n' => some '\n'
  | 'f' => some '\x0c'
  | 'r' => some '\r'
  | '"' => some '"'
  | '\\' => some '\\'
  | _ => none

/-- Reads a text of one line between double quotes on; `read` is what came before, the latest first. -/
def readBasic (read : List Char) : List Char → Option (String × List Char)
  | [] => none
  | c :: rest =>
    match c, rest with
    | '"', rest => some (String.ofList read.reverse, rest)
    | '\\', 'u' :: a :: b :: c :: d :: rest =>
      match Hex.charOf? [a, b, c, d] with
      | some x => readBasic (x :: read) rest
      | none => none
    | '\\', 'U' :: a :: b :: c :: d :: e :: f :: g :: h :: rest =>
      match Hex.charOf? [a, b, c, d, e, f, g, h] with
      | some x => readBasic (x :: read) rest
      | none => none
    | '\\', e :: rest =>
      match escaped? e with
      | some x => readBasic (x :: read) rest
      | none => none
    | c, rest => if isPrintable c then readBasic (c :: read) rest else none

/-- Reads a text of one line between single quotes, in which nothing is escaped. -/
def readLiteral (cs : List Char) : Option (String × List Char) :=
  match cs.span fun c => isPrintable c && c ≠ '\'' with
  | (chars, '\'' :: rest) => some (String.ofList chars, rest)
  | _ => none

/-- Ends a text of several lines behind its three quotes, the first of which may be up to two that
belong to the text. -/
def closeLong (quote : Char) (read rest : List Char) : String × List Char :=
  let more := (rest.take 2).takeWhile (· = quote)
  (String.ofList (read.reverse ++ more), rest.drop more.length)

/-- What is passed over behind a backslash at the end of a line. -/
inductive Passing where
  | nothing
  /-- Blanks, up to the end of the line. -/
  | line
  /-- Blanks and line breaks, up to the text that follows. -/
  | margin
  deriving DecidableEq, Repr

/-- Reads a text of several lines between double quotes. -/
def readLongBasic (passing : Passing) (read : List Char) : List Char → Option (String × List Char)
  | [] => none
  | c :: rest =>
    if passing = .line then
      if isSpace c then readLongBasic .line read rest
      else if c = '\n' then readLongBasic .margin read rest
      else none
    else if passing = .margin && (isSpace c || c = '\n') then readLongBasic .margin read rest
    else
      match c, rest with
      | '"', '"' :: '"' :: rest => some (closeLong '"' read rest)
      | '\\', 'u' :: a :: b :: c :: d :: rest =>
        match Hex.charOf? [a, b, c, d] with
        | some x => readLongBasic .nothing (x :: read) rest
        | none => none
      | '\\', 'U' :: a :: b :: c :: d :: e :: f :: g :: h :: rest =>
        match Hex.charOf? [a, b, c, d, e, f, g, h] with
        | some x => readLongBasic .nothing (x :: read) rest
        | none => none
      | '\\', e :: rest =>
        if isSpace e then readLongBasic .line read rest
        else if e = '\n' then readLongBasic .margin read rest
        else
          match escaped? e with
          | some x => readLongBasic .nothing (x :: read) rest
          | none => none
      | c, rest =>
        if isPrintable c || c = '\n' then readLongBasic .nothing (c :: read) rest else none

/-- Reads a text of several lines between single quotes. -/
def readLongLiteral (read : List Char) : List Char → Option (String × List Char)
  | '\'' :: '\'' :: '\'' :: rest => some (closeLong '\'' read rest)
  | c :: rest =>
    if isPrintable c || c = '\n' then readLongLiteral (c :: read) rest else none
  | [] => none

/-- A line break right behind the opening quotes does not count. -/
def dropBreak : List Char → List Char
  | '\n' :: rest => rest
  | cs => cs

def readText (cs : List Char) : Option (String × List Char) :=
  match cs with
  | '"' :: '"' :: '"' :: rest => readLongBasic .nothing [] (dropBreak rest)
  | '\'' :: '\'' :: '\'' :: rest => readLongLiteral [] (dropBreak rest)
  | '"' :: rest => readBasic [] rest
  | '\'' :: rest => readLiteral rest
  | _ => none

/-! ## Numbers -/

/-- Reads digits, between which single underscores may stand. -/
def readDigitGroups (isDigit : Char → Bool) (read : List Char) :
    List Char → Option (List Char × List Char)
  | [] => if read.isEmpty then none else some (read.reverse, [])
  | '_' :: c :: rest =>
    if isDigit c && !read.isEmpty then readDigitGroups isDigit (c :: read) rest else none
  | c :: rest =>
    if isDigit c then readDigitGroups isDigit (c :: read) rest
    else if read.isEmpty then none
    else some (read.reverse, c :: rest)

/-- The least number that is too great for 64 bits with a sign. -/
def bound : Nat := 9223372036854775808

def integer? (negative : Bool) (n : Nat) : Option Toml :=
  if negative then if n ≤ bound then some (integer (-(n : Int))) else none
  else if n < bound then some (integer n) else none

/-- A number behind the mark of its base. -/
def readMarked (base : Nat) (cs : List Char) : Option (Toml × List Char) := do
  let isDigit (c : Char) : Bool := (hexValue? c).any (· < base)
  let (digits, rest) ← readDigitGroups isDigit [] cs
  pure (← integer? false (← digitsOf? base digits), rest)

/-- The digits in front of the point, without leading zeros. -/
def readWhole : List Char → Option (List Char × List Char)
  | '0' :: rest => some (['0'], rest)
  | cs => readDigitGroups Char.isDigit [] cs

/-- The digits behind the point, if there is one. -/
def readFraction : List Char → Option (List Char × List Char)
  | '.' :: rest => readDigitGroups Char.isDigit [] rest
  | cs => some ([], cs)

/-- The power of ten that a number is multiplied with, if it says so. -/
def readExponent : List Char → Option (Option Int × List Char)
  | c :: rest =>
    if c = 'e' || c = 'E' then do
      let (negative, rest) := match rest with
        | '-' :: rest => (true, rest)
        | '+' :: rest => (false, rest)
        | rest => (false, rest)
      let (digits, rest) ← readDigitGroups Char.isDigit [] rest
      let n ← natOfDigits? digits
      pure (some (if negative then -(n : Int) else n), rest)
    else some (none, c :: rest)
  | [] => some (none, [])

/-- Whether `n` times a power of ten is too great for a binary number of 64 bits: at least halfway
from the greatest one to the power of two behind it.  Sizes far from that limit decide at once. -/
def isTooGreat (n : Nat) (exponent : Int) : Bool :=
  let size := (Nat.repr n).length + exponent
  let limit := Nat.pow 2 1024 - Nat.pow 2 970
  if n = 0 || size < 300 then false
  else if 320 < size then true
  else limit * Nat.pow 10 (-exponent).toNat ≤ n * Nat.pow 10 exponent.toNat

/-- A number behind its sign: a whole one, or one with a fraction or an exponent, which may be
infinite only by name or below zero. -/
def readSigned (negative : Bool) (cs : List Char) : Option (Toml × List Char) :=
  match cs with
  | 'i' :: 'n' :: 'f' :: rest | 'n' :: 'a' :: 'n' :: rest => some (real, rest)
  | cs => do
    let (whole, rest) ← readWhole cs
    let (fraction, rest) ← readFraction rest
    let (exponent, rest) ← readExponent rest
    let n ← natOfDigits? (whole ++ fraction)
    if fraction.isEmpty && exponent.isNone then pure (← integer? negative n, rest)
    else if !negative && isTooGreat n (exponent.getD 0 - fraction.length) then none
    else pure (real, rest)

def readNumber (cs : List Char) : Option (Toml × List Char) :=
  match cs with
  | '0' :: 'x' :: rest => readMarked 16 rest
  | '0' :: 'o' :: rest => readMarked 8 rest
  | '0' :: 'b' :: rest => readMarked 2 rest
  | '-' :: rest => readSigned true rest
  | '+' :: rest | rest => readSigned false rest

/-! ## Dates and times -/

/-- So many digits, for a number in a range. -/
def readField (width least greatest : Nat) (cs : List Char) : Option (Nat × List Char) := do
  let digits := cs.take width
  let n ← natOfDigits? digits
  if digits.length = width && least ≤ n && n ≤ greatest then pure (n, cs.drop width) else none

def skipChar (c : Char) : List Char → Option (List Char)
  | d :: rest => if c = d then some rest else none
  | [] => none

def daysIn (year month : Nat) : Nat :=
  if month = 2 then if year % 4 = 0 && (year % 100 ≠ 0 || year % 400 = 0) then 29 else 28
  else if [4, 6, 9, 11].contains month then 30
  else 31

def passDate (cs : List Char) : Option (List Char) := do
  let (year, cs) ← readField 4 0 9999 cs
  let (month, cs) ← readField 2 1 12 (← skipChar '-' cs)
  let (_, cs) ← readField 2 1 (daysIn year month) (← skipChar '-' cs)
  pure cs

def passMinutes (cs : List Char) : Option (List Char) := do
  let (_, cs) ← readField 2 0 23 cs
  let (_, cs) ← readField 2 0 59 (← skipChar ':' cs)
  pure cs

/-- Passes a time of day, which may be a leap second. -/
def passTime (cs : List Char) : Option (List Char) := do
  let cs ← passMinutes cs
  let (_, cs) ← readField 2 0 60 (← skipChar ':' cs)
  match cs with
  | '.' :: rest => if nextIs Char.isDigit rest then pure (rest.dropWhile Char.isDigit) else pure cs
  | _ => pure cs

/-- Passes the distance from world time. -/
def passOffset : List Char → Option (List Char)
  | c :: rest =>
    if c = 'Z' || c = 'z' then some rest
    else if c = '+' || c = '-' then passMinutes rest
    else none
  | [] => none

/-- A date, with a time of day behind it or not, or only a time. -/
def readMoment (cs : List Char) : Option (Toml × List Char) :=
  let rest? := match passDate cs with
    | some (c :: rest) =>
      if c = 'T' || c = 't' || c = ' ' then
        match passTime rest with
        | some rest => some ((passOffset rest).getD rest)
        | none => some (c :: rest)
      else some (c :: rest)
    | some [] => some []
    | none => passTime cs
  rest?.map (moment, ·)

end Toml

end CqlDispatch
