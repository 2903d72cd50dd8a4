import CqlDispatch.Failure
import CqlDispatch.NameMap
import CqlDispatch.Value
/-!
# Statements and the options of a request

A statement is a query with its bound values.  `ExecutionOptions` is everything else that one
request carries, fixed before it starts; `QueryDefaults` are the client's own values for what a
request leaves open.

Both are built from drafts in which every field is optional.  A page size of zero and a timeout
of zero are refused, and so is a serial level that is not one; a request takes its serial level
unchecked.
-/
namespace CqlDispatch

structure Statement where
  query : String
  values : List Value := []

structure ExecutionOptions where
  keyspace : Option String
  consistency : Consistency
  serial : Option Consistency
  idempotent : Bool
  payload : NameMap (List UInt8)
  pageSize : Nat
  timeout : Option Span
  routingKey : Option (List UInt8)
  timestamp : Option Int
  deriving DecidableEq, Repr

structure QueryDefaults where
  keyspace : Option String := none
  consistency : Consistency := .standard
  serial : Option Consistency := none
  idempotent : Bool := false
  pageSize : Nat := 5000
  timeout : Option Span := some (.ofSeconds 12)
  deriving DecidableEq, Repr

def QueryDefaults.options (d : QueryDefaults) : ExecutionOptions where
  keyspace := d.keyspace
  consistency := d.consistency
  serial := d.serial
  idempotent := d.idempotent
  payload := []
  pageSize := d.pageSize
  timeout := d.timeout
  routingKey := none
  timestamp := none

def pageSizeZero : Failure := .configuration "page_size must be greater than zero"
def timeoutZero : Failure := .configuration "request_timeout must be greater than zero"

/-- Refuses a page size of zero, then a timeout of zero. -/
def checkLimits (pageSize : Nat) (timeout : Option Span) : Except Failure Unit :=
  if pageSize = 0 then .error pageSizeZero
  else if timeout = some .zero then .error timeoutZero
  else .ok ()

structure QueryDraft where
  keyspace : Option String := none
  consistency : Option Consistency := none
  serial : Option Consistency := none
  idempotent : Option Bool := none
  pageSize : Option Nat := none
  /-- `some none` asks for no timeout. -/
  timeout : Option (Option Span) := none
  deriving DecidableEq, Repr

def QueryDraft.build (d : QueryDraft) : Except Failure QueryDefaults := do
  let standard : QueryDefaults := {}
  let pageSize := d.pageSize.getD standard.pageSize
  let timeout := d.timeout.getD standard.timeout
  checkLimits pageSize timeout
  match d.serial with
  | some level =>
    if !level.isSerial then
      throw (.configuration ("serial_consistency must be SERIAL or LOCAL_SERIAL, got " ++ level.name))
  | none => pure ()
  pure {
    keyspace := d.keyspace
    consistency := d.consistency.getD standard.consistency
    serial := d.serial
    idempotent := d.idempotent.getD standard.idempotent
    pageSize := pageSize
    timeout := timeout }

structure OptionsDraft where
  keyspace : Option String := none
  consistency : Option Consistency := none
  serial : Option Consistency := none
  idempotent : Option Bool := none
  payload : NameMap (List UInt8) := []
  pageSize : Option Nat := none
  timeout : Option Span := none
  routingKey : Option (List UInt8) := none
  timestamp : Option Int := none
  deriving DecidableEq, Repr

def OptionsDraft.build (d : OptionsDraft) (defaults : QueryDefaults := {}) :
    Except Failure ExecutionOptions := do
  let pageSize := d.pageSize.getD defaults.pageSize
  let timeout := d.timeout.or defaults.timeout
  checkLimits pageSize timeout
  pure {
    keyspace := d.keyspace.or defaults.keyspace
    consistency := d.consistency.getD defaults.consistency
    serial := d.serial.or defaults.serial
    idempotent := d.idempotent.getD defaults.idempotent
    payload := d.payload
    pageSize := pageSize
    timeout := timeout
    routingKey := d.routingKey
    timestamp := d.timestamp }

end CqlDispatch
