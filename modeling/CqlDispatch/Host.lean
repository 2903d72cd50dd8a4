import CqlDispatch.Failure
import CqlDispatch.Token
import CqlDispatch.Value
/-!
# Hosts

A host has an address for life.  What the cluster reports about it is set at most once: when the
host is first learned from a report, or later for a contact point, of which only the address was
known.  Its state is what this client sees of its connections, its distance how the load balancer
ranks it.

`HostState.sources` lists the state changes that a host can make; a removed host never changes again.
-/
namespace CqlDispatch

inductive HostState where
  | up | down | reconnecting | removed
  deriving DecidableEq, Repr

def HostState.name : HostState → String
  | up => "UP" | down => "DOWN" | reconnecting => "RECONNECTING" | removed => "REMOVED"

/-- How the load balancer ranks a host; an ignored one gets no requests and no probes. -/
inductive Distance where
  | near | remote | ignored
  deriving DecidableEq, Repr

namespace Distance

def name : Distance → String
  | near => "LOCAL" | remote => "REMOTE" | ignored => "IGNORED"

def ofName? (s : String) : Option Distance := [near, remote, ignored].find? (·.name == s)

end Distance

/-- What the cluster reports about a host besides its address. -/
structure Metadata where
  datacenter : Option String := none
  rack : Option String := none
  tokens : List Token := []
  hostId : Option Uuid := none
  deriving DecidableEq, Repr

/-- A host as the cluster advertises it, before its address is translated. -/
structure Peer where
  advertised : Address
  metadata : Metadata := {}
  deriving DecidableEq, Repr

structure Host where
  address : Address
  metadata : Option Metadata := none
  state : HostState := .up
  distance : Distance := .near
  deriving DecidableEq, Repr

/-- A host nobody knows counts as removed. -/
instance : Inhabited Host := ⟨{ address := default, state := .removed }⟩

namespace Host

def isUp (h : Host) : Bool := h.state == .up

def datacenter (h : Host) : Option String := h.metadata.bind (·.datacenter)
def rack (h : Host) : Option String := h.metadata.bind (·.rack)
def tokens (h : Host) : List Token := (h.metadata.map (·.tokens)).getD []
def hostId (h : Host) : Option Uuid := h.metadata.bind (·.hostId)

/-- A host learned from a report, under the address its advertised one translates to. -/
def ofPeer (address : Address) (p : Peer) : Host := { address, metadata := some p.metadata }

def line (h : Host) : String := h.address.text ++ " " ++ h.state.name ++ " " ++ h.distance.name

end Host

/-- The states from which a host can go to the given one. -/
def HostState.sources : HostState → List HostState
  | .up => [.down, .reconnecting]
  | .down => [.up, .reconnecting]
  | .reconnecting => [.down]
  | .removed => [.up, .down, .reconnecting]

theorem HostState.eq_or_mem_sources_down {s : HostState} (known : s ≠ .removed) :
    s = .down ∨ s ∈ HostState.down.sources := by
  cases s <;> first | exact absurd rfl known | decide

theorem HostState.eq_or_mem_sources_reconnecting {s : HostState} (known : s ≠ .removed) (broken : s ≠ .up) :
    s = .reconnecting ∨ s ∈ HostState.reconnecting.sources := by
  cases s <;> first | exact absurd rfl known | exact absurd rfl broken | decide

end CqlDispatch
