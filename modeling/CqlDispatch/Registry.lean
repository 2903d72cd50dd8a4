import CqlDispatch.TokenRing
/-!
# The registry of hosts

The registry owns every host.  A host keeps its identity (`HostId`) for ever, also after it was
removed, so whoever still holds it sees what becomes of it; an address that is removed and added
again is a new host.

What requests read is a `Topology`: the registered hosts in the order of their addresses and the
token ring, built anew under the next version by every change of membership or metadata.  State
and distance live in the host itself and change without a new version.

The functions here are the single changes; `Cluster` composes them into operations.
-/
namespace CqlDispatch

/-- The identity of a host: its number in the order in which the registry learned of hosts. -/
abbrev HostId := Nat

inductive HostEvent where
  | added (a : Address)
  | removed (a : Address)
  | up (a : Address)
  | down (a : Address) (reason : String)
  | reconnecting (a : Address)
  deriving DecidableEq, Repr

namespace HostEvent

def address : HostEvent → Address
  | added a | removed a | up a | down a _ | reconnecting a => a

def text : HostEvent → String
  | added a => "added " ++ a.text
  | removed a => "removed " ++ a.text
  | up a => "up " ++ a.text
  | down a reason => "down " ++ a.text ++ ": " ++ reason
  | reconnecting a => "reconnecting " ++ a.text

end HostEvent

structure Topology where
  version : Nat := 0
  /-- Increasing by address. -/
  members : List (Address × HostId) := []
  ring : TokenRing := []
  deriving DecidableEq, Repr

namespace Topology

def find? (t : Topology) (a : Address) : Option HostId := t.members.lookup a
def ids (t : Topology) : List HostId := t.members.map (·.2)
def addresses (t : Topology) : List Address := t.members.map (·.1)

end Topology

def insertMember (a : Address) (h : HostId) : List (Address × HostId) → List (Address × HostId)
  | [] => [(a, h)]
  | (b, k) :: rest =>
    if a = b then (a, h) :: rest
    else if a < b then (a, h) :: (b, k) :: rest
    else (b, k) :: insertMember a h rest

structure Registry where
  /-- Tells registries apart; a load balancer is bound to one of them. -/
  id : Nat := 0
  /-- Every host ever registered, by identity. -/
  hosts : List Host := []
  version : Nat := 0
  topology : Topology := {}
  replication : List (String × Nat) := []
  /-- The address that an advertised address last resolved to. -/
  resolved : List (Address × Address) := []
  /-- Every event, the newest first. -/
  log : List HostEvent := []

namespace Registry

def host (r : Registry) (h : HostId) : Host := (r.hosts[h]?).getD default

def find? (r : Registry) (a : Address) : Option HostId := r.topology.find? a

def isUp (r : Registry) (h : HostId) : Bool := (r.host h).isUp

def size (r : Registry) : Nat := r.topology.members.length

def members (r : Registry) : List Host := r.topology.ids.map r.host

def upCount (r : Registry) : Nat := r.members.countP (·.isUp)

def modify (r : Registry) (h : HostId) (f : Host → Host) : Registry :=
  { r with hosts := r.hosts.modify h f }

def emit (r : Registry) (e : HostEvent) : Registry := { r with log := e :: r.log }

/-- Builds the topology of the given members under the next version. -/
def rebuild (r : Registry) (members : List (Address × HostId)) : Registry :=
  { r with
    version := r.version + 1
    topology :=
      { version := r.version + 1
        members := members
        ring := TokenRing.ofHosts (members.map fun m => r.host m.2) } }

def enroll (r : Registry) (h : Host) : Registry :=
  let known := { r with hosts := r.hosts ++ [h] }
  known.rebuild (insertMember h.address r.hosts.length r.topology.members)

/-- Moves a host to a state, if it may go there from where it is. -/
def move? (r : Registry) (h : HostId) (target : HostState) : Option Registry :=
  if (r.host h).state ∈ target.sources then some (r.modify h ({ · with state := target })) else none

/-- Takes an address out: its host ends as removed, and what resolved to it is forgotten. -/
def strike (r : Registry) (a : Address) (h : HostId) : Registry :=
  let r := r.rebuild (r.topology.members.filter (·.1 != a))
  let r := (r.move? h .removed).getD r
  { r with resolved := r.resolved.filter (·.2 != a) }

def remember (r : Registry) (advertised a : Address) : Registry :=
  { r with resolved := (advertised, a) :: r.resolved.filter (·.1 != advertised) }

/-- The registered address that an advertised one last resolved to, or the advertised one
itself where none is remembered. -/
def lastResolved? (r : Registry) (advertised : Address) : Option Address :=
  let known := (r.resolved.lookup advertised).getD advertised
  if (r.find? known).isSome then some known else none

/-- Replicas of a keyspace; one where nothing was set. -/
def replicationFactor (r : Registry) (keyspace : Option String) : Nat :=
  (keyspace.bind fun name => r.replication.lookup name).getD 1

def setReplicationFactor (r : Registry) (keyspace : String) (factor : Nat) : Registry :=
  { r with replication := (keyspace, factor) :: r.replication.filter (·.1 != keyspace) }

/-- The registered hosts that own a token in a keyspace, nearest first. -/
def replicas (r : Registry) (keyspace : Option String) (t : Token) : List HostId :=
  (r.topology.ring.replicas t (r.replicationFactor keyspace)).filterMap r.find?

def replicas? (r : Registry) (keyspace : Option String) (t : Token) : Except Overflow (List HostId) :=
  (r.topology.ring.replicas? t (r.replicationFactor keyspace)).map (·.filterMap r.find?)

/-! ## Small facts -/

@[simp] theorem hosts_modify_length (r : Registry) (h : HostId) (f : Host → Host) :
    (r.modify h f).hosts.length = r.hosts.length := by simp [modify]

theorem host_modify_ne (r : Registry) {h k : HostId} (f : Host → Host) (ne : h ≠ k) :
    (r.modify h f).host k = r.host k := by
  simp [modify, host, ne]

end Registry

end CqlDispatch
