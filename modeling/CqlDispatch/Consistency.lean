import CqlDispatch.Text.Blank
/-!
# Consistency levels and kinds of write

How many replicas have to agree to a request, and what kind of write a server reports when one
times out.  A level has one name in capitals; settings may spell it in either case, with hyphens
for underscores and white space around it (`Consistency.parse`).
-/
namespace CqlDispatch

inductive Consistency where
  | any | one | two | three | quorum | all | localQuorum | eachQuorum | serial | localSerial | localOne
  deriving DecidableEq, Repr, Inhabited

namespace Consistency

def levels : List Consistency :=
  [any, one, two, three, quorum, all, localQuorum, eachQuorum, serial, localSerial, localOne]

def code : Consistency → Nat
  | any => 0 | one => 1 | two => 2 | three => 3 | quorum => 4 | all => 5 | localQuorum => 6
  | eachQuorum => 7 | serial => 8 | localSerial => 9 | localOne => 10

def name : Consistency → String
  | any => "ANY" | one => "ONE" | two => "TWO" | three => "THREE" | quorum => "QUORUM" | all => "ALL"
  | localQuorum => "LOCAL_QUORUM" | eachQuorum => "EACH_QUORUM" | serial => "SERIAL"
  | localSerial => "LOCAL_SERIAL" | localOne => "LOCAL_ONE"

/-- Levels that only conditional writes use. -/
def isSerial : Consistency → Bool
  | serial | localSerial => true
  | _ => false

/-- Levels that involve one datacenter only. -/
def isLocal : Consistency → Bool
  | localOne | localQuorum | localSerial => true
  | _ => false

def standard : Consistency := localOne

def ofName? (s : String) : Option Consistency := levels.find? (·.name == s)

/-- The name a spelling stands for: trimmed, in capitals, underscores for hyphens. -/
def normalName (s : String) : String :=
  String.ofList (((trimChars s.toList).map Char.toUpper).map fun c => if c = '-' then '_' else c)

def parse (s : String) : Except String Consistency :=
  match ofName? (normalName s) with
  | some c => .ok c
  | none => .error ("unknown consistency level '" ++ normalName s ++ "'")

end Consistency

inductive WriteKind where
  | simple | batch | unloggedBatch | counter | batchLog | cas | view | cdc
  deriving DecidableEq, Repr

namespace WriteKind

def kinds : List WriteKind := [simple, batch, unloggedBatch, counter, batchLog, cas, view, cdc]

def name : WriteKind → String
  | simple => "SIMPLE" | batch => "BATCH" | unloggedBatch => "UNLOGGED_BATCH" | counter => "COUNTER"
  | batchLog => "BATCH_LOG" | cas => "CAS" | view => "VIEW" | cdc => "CDC"

def ofName? (s : String) : Option WriteKind := kinds.find? (·.name == s)

end WriteKind

end CqlDispatch
