import CqlDispatch.Admission
import CqlDispatch.Credentials
import CqlDispatch.Policies
/-!
# The settings of a client

Everything that a client is set up with.  Settings are built from a draft in which every field may
be left open, and what is wrong with a draft is told in a fixed order: the port, the time for
connections, the local datacenter, the query defaults, the admission limits.

The sink of a client's metrics is not among the settings: no step of a client asks it anything, and
what it is told is the same whichever it is (`Client.metrics`).
-/
namespace CqlDispatch

structure Settings where
  contactPoints : List Ip
  port : UInt16
  localDatacenter : Option String
  connectionTimeout : Span
  query : QueryDefaults
  limits : Limits
  policies : Policies
  auth : Option AuthProvider

namespace Settings

def addresses (s : Settings) : List Address := s.contactPoints.map fun ip => ⟨ip, s.port⟩

def localhost : Ip := .v4 (BitVec.ofNat 32 0x7F000001)

def usualPort : UInt16 := 9042

def usualConnectionTimeout : Span := .ofSeconds 5

end Settings

structure SettingsDraft where
  contactPoints : List Ip := []
  port : Option UInt16 := none
  localDatacenter : Option String := none
  connectionTimeout : Option Span := none
  query : QueryDraft := {}
  maxInFlight : Option Nat := none
  maxQueued : Option Nat := none
  policies : Option Policies := none
  auth : Option AuthProvider := none

namespace SettingsDraft

/-- The admission limits, which must let at least one attempt through. -/
def limits (d : SettingsDraft) : Except Failure Limits :=
  let usual : Limits := {}
  let maxInFlight := d.maxInFlight.getD usual.maxInFlight
  if maxInFlight = 0 then
    .error (.configuration "max_requests_per_host must be greater than zero")
  else .ok ⟨maxInFlight, d.maxQueued.getD usual.maxQueued⟩

/-- Fills the open fields.  Without policies of its own a client gets the usual ones for its local
datacenter. -/
def build (d : SettingsDraft) : Except Failure Settings := do
  let port := d.port.getD Settings.usualPort
  let connectionTimeout := d.connectionTimeout.getD Settings.usualConnectionTimeout
  if port = 0 then throw (.configuration "port must not be zero")
  if connectionTimeout.isZero then
    throw (.configuration "connection_timeout must be greater than zero")
  if d.localDatacenter = some "" then
    throw (.configuration "local_datacenter must not be empty")
  let query ← d.query.build
  let limits ← d.limits
  pure {
    contactPoints := if d.contactPoints.isEmpty then [Settings.localhost] else d.contactPoints
    port := port
    localDatacenter := d.localDatacenter
    connectionTimeout := connectionTimeout
    query := query
    limits := limits
    policies := d.policies.getD (.standard d.localDatacenter)
    auth := d.auth }

end SettingsDraft

end CqlDispatch
