/-!
# Digits

Numbers and bytes as digits: signed decimals, decimals filled up with zeros, and bytes with two
lower-case hexadecimal digits each, which `Hex.decode?` reads back.
-/
namespace CqlDispatch

/-- A hexadecimal digit, lower case. -/
def hexDigit (n : Nat) : Char := (Nat.digitChar n)

/-- The value of a hexadecimal digit of either case. -/
def hexValue? (c : Char) : Option Nat :=
  let n := c.toNat
  if 48 ≤ n && n ≤ 57 then some (n - 48)
  else if 97 ≤ n && n ≤ 102 then some (n - 87)
  else if 65 ≤ n && n ≤ 70 then some (n - 55)
  else none

namespace Hex

def ofByte (b : UInt8) : List Char := [hexDigit (b.toNat / 16), hexDigit (b.toNat % 16)]

/-- Two digits a byte. -/
def encode (bytes : List UInt8) : String := String.ofList (bytes.flatMap ofByte)

def decodeChars : List Char → Option (List UInt8)
  | [] => some []
  | [_] => none
  | a :: b :: rest => do
    let hi ← hexValue? a
    let lo ← hexValue? b
    let tail ← decodeChars rest
    pure (UInt8.ofNat (hi * 16 + lo) :: tail)

/-- Reads what `encode` writes, in either case of the letters. -/
def decode? (s : String) : Option (List UInt8) := decodeChars s.toList

/-- The number that a run of hexadecimal digits stands for. -/
def natOf? (cs : List Char) : Option Nat :=
  if cs.isEmpty then none
  else cs.foldlM (fun acc c => (hexValue? c).map (acc * 16 + ·)) 0

def charOf? (cs : List Char) : Option Char :=
  (natOf? cs).bind fun n => if n.isValidChar then some (Char.ofNat n) else none

/-- `n` in hexadecimal with at least `width` digits. -/
def padded (width n : Nat) : String :=
  let digits := Nat.toDigits 16 n
  String.ofList (List.replicate (width - digits.length) '0' ++ digits)

end Hex

/-- `n` in decimal with at least `width` digits. -/
def zeroPadded (width n : Nat) : String :=
  let digits := Nat.toDigits 10 n
  String.ofList (List.replicate (width - digits.length) '0' ++ digits)

/-- A whole number in decimal, with a minus sign in front where it is negative. -/
def intText (n : Int) : String :=
  if n < 0 then "-" ++ Nat.repr n.natAbs else Nat.repr n.natAbs

end CqlDispatch
