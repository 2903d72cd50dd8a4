/-!
# Binary floating-point numbers

The two widths of column values, kept as their bits, and what the bits stand for: a magnitude
`significand · 2 ^ exponent`, an infinity, or no number.  Everything else in the library that
looks at such a value (its text, equality, widening) goes through `FloatClass`.
-/
namespace CqlDispatch

/-- A finite positive magnitude `significand · 2 ^ exponent`, and whether the next smaller number of
its format is only half as far away as the next larger one. -/
structure Magnitude where
  significand : Nat
  exponent : Int
  narrowBelow : Bool
  deriving DecidableEq, Repr

inductive FloatClass where
  | zero
  | finite (m : Magnitude)
  | infinite
  | notNumber
  deriving DecidableEq, Repr

/-- A binary interchange format: the stored bits of the significand and of the exponent. -/
structure FloatFormat where
  fractionBits : Nat
  exponentBits : Nat

namespace FloatFormat

def single : FloatFormat := ⟨23, 8⟩
def double : FloatFormat := ⟨52, 11⟩

/-- The exponent of the last significand bit in numbers whose exponent field is one. -/
def lowest (f : FloatFormat) : Int :=
  2 - Nat.pow 2 (f.exponentBits - 1) - f.fractionBits

def negative (f : FloatFormat) (bits : Nat) : Bool :=
  bits / Nat.pow 2 (f.fractionBits + f.exponentBits) % 2 == 1

def classify (f : FloatFormat) (bits : Nat) : FloatClass :=
  let fraction := bits % Nat.pow 2 f.fractionBits
  let field := bits / Nat.pow 2 f.fractionBits % Nat.pow 2 f.exponentBits
  if field == Nat.pow 2 f.exponentBits - 1 then
    if fraction == 0 then .infinite else .notNumber
  else if field == 0 then
    if fraction == 0 then .zero else .finite ⟨fraction, f.lowest, false⟩
  else
    .finite ⟨Nat.pow 2 f.fractionBits + fraction, f.lowest + (field - 1 : Nat),
      fraction == 0 && 1 < field⟩

end FloatFormat

structure Binary32 where
  bits : UInt32
  deriving DecidableEq, Repr

structure Binary64 where
  bits : UInt64
  deriving DecidableEq, Repr

namespace Binary32

def negative (x : Binary32) : Bool := FloatFormat.single.negative x.bits.toNat
def classify (x : Binary32) : FloatClass := FloatFormat.single.classify x.bits.toNat

/-- Equality of numbers: nothing equals a not-a-number, and the two zeros are equal. -/
def same (x y : Binary32) : Bool :=
  match x.classify, y.classify with
  | .notNumber, _ => false
  | .zero, .zero => true
  | _, _ => x.bits == y.bits

end Binary32

namespace Binary64

def negative (x : Binary64) : Bool := FloatFormat.double.negative x.bits.toNat
def classify (x : Binary64) : FloatClass := FloatFormat.double.classify x.bits.toNat

def same (x y : Binary64) : Bool :=
  match x.classify, y.classify with
  | .notNumber, _ => false
  | .zero, .zero => true
  | _, _ => x.bits == y.bits

end Binary64

/-- The power of two that brings `n` up to exactly `width` bits. -/
def bitsShort (width n : Nat) : Nat := width - (Nat.log2 n + 1)

/-- The same number in the wider format, which holds every number of the narrower one. -/
def Binary32.widen (x : Binary32) : Binary64 :=
  let sign := if x.negative then 0x8000000000000000 else 0
  let magnitude := match x.classify with
    | .zero => 0
    | .infinite => 0x7ff0000000000000
    | .notNumber => 0x7ff8000000000000
    | .finite m =>
      let shift := bitsShort 53 m.significand
      let field := (m.exponent - shift - FloatFormat.double.lowest + 1).toNat
      (m.significand * Nat.pow 2 shift - 0x10000000000000) + field * 0x10000000000000
  ⟨UInt64.ofNat (sign + magnitude)⟩

end CqlDispatch
