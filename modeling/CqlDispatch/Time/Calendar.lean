import CqlDispatch.Text.Digits
/-!
# Dates, times of day and instants

The proleptic Gregorian calendar, times of day to the nanosecond, and instants as seconds since
the epoch.  A nanosecond count of a thousand million or more is a leap second: it is written as
second 60.

Years from 0 to 9999 are written with four digits, all others with a sign and at least four.
-/
namespace CqlDispatch

structure Date where
  year : Int
  month : Nat
  day : Nat
  deriving DecidableEq, Repr

/-- A time of day; `nanos` of `1000000000` and above belong to a leap second. -/
structure TimeOfDay where
  seconds : Nat
  nanos : Nat
  deriving DecidableEq, Repr

/-- Seconds since the epoch and nanoseconds after them. -/
structure Instant where
  seconds : Int
  nanos : Nat
  deriving DecidableEq, Repr

def yearText (y : Int) : String :=
  if 0 ≤ y ∧ y ≤ 9999 then zeroPadded 4 y.toNat
  else (if y < 0 then "-" else "+") ++ zeroPadded 4 y.natAbs

namespace Date

/-- The date of a day counted from the epoch.  Years start in March here, so that the leap day is
the last day of its year; 400 of them have 146097 days. -/
def ofDays (n : Int) : Date :=
  let shifted := n + 719468
  let era := Int.fdiv shifted 146097
  let ofEra := (Int.fmod shifted 146097).toNat
  let yearOfEra := (ofEra - ofEra / 1460 + ofEra / 36524 - ofEra / 146096) / 365
  let ofYear := ofEra - (365 * yearOfEra + yearOfEra / 4 - yearOfEra / 100)
  let monthFromMarch := (5 * ofYear + 2) / 153
  let day := ofYear - (153 * monthFromMarch + 2) / 5 + 1
  let month := if monthFromMarch < 10 then monthFromMarch + 3 else monthFromMarch - 9
  let year := era * 400 + yearOfEra + (if month ≤ 2 then 1 else 0)
  ⟨year, month, day⟩

def text (d : Date) : String :=
  yearText d.year ++ "-" ++ zeroPadded 2 d.month ++ "-" ++ zeroPadded 2 d.day

end Date

/-- `HH:MM:SS` of a second of the day, one more when it is a leap second. -/
def clockText (seconds nanos : Nat) : String :=
  zeroPadded 2 (seconds / 3600) ++ ":" ++ zeroPadded 2 (seconds / 60 % 60) ++ ":" ++
    zeroPadded 2 (seconds % 60 + nanos / 1000000000)

/-- The time of day with the fewest of 0, 3, 6 or 9 fraction digits that lose nothing. -/
def TimeOfDay.text (t : TimeOfDay) : String :=
  let n := t.nanos % 1000000000
  let fraction :=
    if n == 0 then ""
    else if n % 1000000 == 0 then "." ++ zeroPadded 3 (n / 1000000)
    else if n % 1000 == 0 then "." ++ zeroPadded 6 (n / 1000)
    else "." ++ zeroPadded 9 n
  clockText t.seconds t.nanos ++ fraction

/-- The instant in universal time, cut to milliseconds. -/
def Instant.text (i : Instant) : String :=
  let date := Date.ofDays (Int.fdiv i.seconds 86400)
  let ofDay := (Int.fmod i.seconds 86400).toNat
  date.text ++ "T" ++ clockText ofDay i.nanos ++ "." ++
    zeroPadded 3 (i.nanos % 1000000000 / 1000000) ++ "Z"

end CqlDispatch
