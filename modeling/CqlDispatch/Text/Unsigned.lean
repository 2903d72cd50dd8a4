import CqlDispatch.Text.Digits
/-!
# Unsigned numbers in text

A run of decimal digits, with a plus sign in front or not, for a number up to a greatest one.  The
first character that is in the way decides what is wrong: it is no digit, or with it the number is
too large.
-/
namespace CqlDispatch

def natOfDigits? (cs : List Char) : Option Nat :=
  if cs.isEmpty || !cs.all Char.isDigit then none
  else some (cs.foldl (fun n c => n * 10 + (c.toNat - '0'.toNat)) 0)

/-- A whole number with or without a sign. -/
def intOfDigits? : List Char → Option Int
  | '-' :: rest => (natOfDigits? rest).map fun n => -(n : Int)
  | '+' :: rest => (natOfDigits? rest).map Int.ofNat
  | cs => (natOfDigits? cs).map Int.ofNat

/-- The value of a run of digits of a base. -/
def digitsOf? (base : Nat) (cs : List Char) : Option Nat :=
  if cs.isEmpty then none
  else cs.foldlM (fun n c => (hexValue? c).bind fun d => if d < base then some (n * base + d) else none) 0

inductive UnsignedFault where
  | empty
  | noDigit
  | tooLarge
  deriving DecidableEq, Repr

def UnsignedFault.message : UnsignedFault → String
  | empty => "cannot parse integer from empty string"
  | noDigit => "invalid digit found in string"
  | tooLarge => "number too large to fit in target type"

/-- Reads digits behind those that make up `n`. -/
def readDigits (greatest : Nat) (n : Nat) : List Char → Except UnsignedFault Nat
  | [] => .ok n
  | c :: rest =>
    if !c.isDigit then .error .noDigit
    else
      let m := n * 10 + (c.toNat - '0'.toNat)
      if greatest < m then .error .tooLarge else readDigits greatest m rest

def readUnsigned (greatest : Nat) (s : String) : Except UnsignedFault Nat :=
  match s.toList with
  | [] => .error .empty
  | ['+'] => .error .noDigit
  | '+' :: digits => readDigits greatest 0 digits
  | digits => readDigits greatest 0 digits

/-! ## Greatest numbers -/

def greatest16 : Nat := 65535
def greatest32 : Nat := 4294967295
def greatest64 : Nat := 18446744073709551615

end CqlDispatch
