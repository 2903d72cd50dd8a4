import CqlDispatch.Decimal.Binary
import CqlDispatch.Net.Ip
import CqlDispatch.Time.Calendar
/-!
# Column values

The values that a column, a tuple or a bound parameter can hold.  A tuple has a first element by
construction, so it is never empty; the fields of a user-defined type may be unset.

`Value.same` is the equality of values: constructors must agree, numbers compare as numbers (a
not-a-number equals nothing, not even itself), everything else by content.
-/
namespace CqlDispatch

/-- Months, days and nanoseconds, which do not convert into each other. -/
structure CalendarDuration where
  months : Int32
  days : Int32
  nanoseconds : Int64
  deriving DecidableEq, Repr

/-- A decimal number: `mantissa / 10 ^ scale`. -/
structure ScaledDecimal where
  mantissa : Int
  scale : Nat
  deriving DecidableEq, Repr

def ScaledDecimal.same (a b : ScaledDecimal) : Bool :=
  a.mantissa * Nat.pow 10 b.scale == b.mantissa * Nat.pow 10 a.scale

structure Uuid where
  bits : BitVec 128
  deriving DecidableEq, Repr

inductive Value where
  | null
  | ascii (s : String)
  | text (s : String)
  | boolean (b : Bool)
  | tinyint (n : Int8)
  | smallint (n : Int16)
  | int (n : Int32)
  | bigint (n : Int64)
  | counter (n : Int64)
  | float (x : Binary32)
  | double (x : Binary64)
  | decimal (d : ScaledDecimal)
  | varint (n : Int)
  | uuid (u : Uuid)
  | timeuuid (u : Uuid)
  | timestamp (t : Instant)
  | date (d : Date)
  | time (t : TimeOfDay)
  | duration (d : CalendarDuration)
  | inet (ip : Ip)
  | blob (bytes : List UInt8)
  | list (items : List Value)
  | set (items : List Value)
  | map (entries : List (Value × Value))
  | tuple (first : Value) (rest : List Value)
  | udt (fields : List (String × Option Value))
  deriving Repr, Inhabited

namespace Value

def isNull : Value → Bool
  | null => true
  | _ => false

/-- The content of the two text types. -/
def asText? : Value → Option String
  | ascii s | text s => some s
  | _ => none

/-- The number of every integer type of at most 64 bits. -/
def asInt? : Value → Option Int
  | tinyint n => some n.toInt
  | smallint n => some n.toInt
  | int n => some n.toInt
  | bigint n | counter n => some n.toInt
  | _ => none

def asUuid? : Value → Option Uuid
  | uuid u | timeuuid u => some u
  | _ => none

/-- A value that may be missing, as a parameter: missing means null. -/
def ofOption : Option Value → Value
  | none => null
  | some v => v

mutual

def same : Value → Value → Bool
  | null, null => true
  | ascii a, ascii b => a == b
  | text a, text b => a == b
  | boolean a, boolean b => a == b
  | tinyint a, tinyint b => a == b
  | smallint a, smallint b => a == b
  | int a, int b => a == b
  | bigint a, bigint b => a == b
  | counter a, counter b => a == b
  | float a, float b => a.same b
  | double a, double b => a.same b
  | decimal a, decimal b => a.same b
  | varint a, varint b => a == b
  | uuid a, uuid b => a == b
  | timeuuid a, timeuuid b => a == b
  | timestamp a, timestamp b => a == b
  | date a, date b => a == b
  | time a, time b => a == b
  | duration a, duration b => a == b
  | inet a, inet b => a == b
  | blob a, blob b => a == b
  | list a, list b => sameItems a b
  | set a, set b => sameItems a b
  | map a, map b => sameEntries a b
  | tuple a as, tuple b bs => same a b && sameItems as bs
  | udt a, udt b => sameFields a b
  | _, _ => false

def sameItems : List Value → List Value → Bool
  | [], [] => true
  | a :: as, b :: bs => same a b && sameItems as bs
  | _, _ => false

def sameEntries : List (Value × Value) → List (Value × Value) → Bool
  | [], [] => true
  | (k, v) :: as, (l, w) :: bs => same k l && same v w && sameEntries as bs
  | _, _ => false

def sameFields : List (String × Option Value) → List (String × Option Value) → Bool
  | [], [] => true
  | (m, none) :: as, (n, none) :: bs => m == n && sameFields as bs
  | (m, some v) :: as, (n, some w) :: bs => m == n && same v w && sameFields as bs
  | _, _ => false

end

end Value

end CqlDispatch
