import CqlDispatch.Decimal.Binary
/-!
# Shortest decimals

The decimal with the fewest digits that reads back as a given binary number, and of those the
one nearest to it.

A number of the format owns the interval of reals that round to it: halfway to each neighbour,
ends included exactly when its significand is even.  On the grid of multiples of `10 ^ place` the
only candidates are the two neighbours of the number.  `shortest` walks the grids from coarse to
fine and stops at the first one with a neighbour inside the interval; when both are inside the
nearer wins, and `Tie` decides an exact tie.

`Decimal.positional` writes such a decimal without an exponent.
-/
namespace CqlDispatch

/-- Which of two equally near decimals is taken. -/
inductive Tie where
  | up
  | even
  deriving DecidableEq, Repr

structure Decimal where
  digits : Nat
  place : Int
  deriving DecidableEq, Repr

namespace Magnitude

/-- A magnitude and the ends of its interval in quarters of the last bit, over a common
denominator. -/
structure Quarters where
  low : Nat
  value : Nat
  high : Nat
  denominator : Nat
  closed : Bool

def quarters (m : Magnitude) : Quarters :=
  let up := Nat.pow 2 (m.exponent - 2).toNat
  { low := (4 * m.significand - (if m.narrowBelow then 1 else 2)) * up
    value := 4 * m.significand * up
    high := (4 * m.significand + 2) * up
    denominator := Nat.pow 2 (2 - m.exponent).toNat
    closed := m.significand % 2 == 0 }

end Magnitude

namespace Magnitude.Quarters

/-- Whether `d` units of a grid lie in the interval; `n` and `k` scale both sides to whole numbers. -/
def holds (q : Quarters) (n k d : Nat) : Bool :=
  let x := d * k
  if q.closed then q.low * n ≤ x && x ≤ q.high * n else q.low * n < x && x < q.high * n

/-- The best candidate on the grid of multiples of `10 ^ place`. -/
def onGrid (tie : Tie) (q : Quarters) (place : Int) : Option Nat :=
  let n := Nat.pow 10 (-place).toNat
  let k := Nat.pow 10 place.toNat * q.denominator
  let below := q.value * n / k
  let above := below + 1
  match q.holds n k below, q.holds n k above with
  | false, false => none
  | true, false => some below
  | false, true => some above
  | true, true =>
    let down := q.value * n - below * k
    let rise := above * k - q.value * n
    if down < rise then some below
    else if rise < down then some above
    else match tie with
      | .up => some above
      | .even => if below % 2 == 0 then some below else some above

def search (tie : Tie) (q : Quarters) : Nat → Int → Decimal
  | 0, place => ⟨q.value / q.denominator, place⟩
  | fuel + 1, place =>
    match q.onGrid tie place with
    | some d => ⟨d, place⟩
    | none => search tie q fuel (place - 1)

def topPlace (q : Quarters) : Int :=
  if q.denominator ≤ q.high then ((Nat.toDigits 10 (q.high / q.denominator)).length : Int)
  else 1 - ((Nat.toDigits 10 (q.denominator / q.high)).length : Int)

end Magnitude.Quarters

/-- The shortest decimal that reads back as `m`.  Seventeen digits tell any two numbers of
either format apart, so the walk over the grids is over long before twenty-four steps. -/
def Magnitude.shortest (tie : Tie) (m : Magnitude) : Decimal :=
  let q := m.quarters
  q.search tie 24 q.topPlace

namespace Decimal

def digitChars (d : Decimal) : List Char := Nat.toDigits 10 d.digits

def leading (d : Decimal) : Int := d.digitChars.length - 1 + d.place

/-- The decimal written out without an exponent; a whole number has no point. -/
def positional (d : Decimal) : String :=
  let cs := d.digitChars
  if 0 ≤ d.place then String.ofList (cs ++ List.replicate d.place.toNat '0')
  else
    let after := (-d.place).toNat
    let padded := List.replicate (after + 1 - cs.length) '0' ++ cs
    let whole := padded.length - after
    String.ofList (padded.take whole ++ '.' :: padded.drop whole)

end Decimal

end CqlDispatch
