import CqlDispatch.Balancer
import CqlDispatch.Translator
/-!
# The cluster as the client knows it

The registry of hosts together with the load balancer that reads it and the classifier that sets
the hosts' distances.  The operations are what the connection layer reports (a host up, down or
gone), what a topology report says, and what reconnection does.

Two rules hold for all of them.  After every change of membership or metadata the classifier is
asked again about every registered host.  And an operation that changes something tells it in
one event, after the change; one that changes nothing tells nothing.
-/
namespace CqlDispatch

inductive Classifier where
  | rule (f : Registry → Host → Distance)
  | balancer

inductive ConnectionEvent where
  | hostUp (a : Address)
  | hostDown (a : Address) (reason : String)
  | hostRemoved (a : Address)
  deriving DecidableEq, Repr

structure TopologyUpdate where
  added : List Address := []
  removed : List Address := []
  /-- Advertised addresses that did not resolve. -/
  failed : List Address := []
  deriving DecidableEq, Repr

structure Cluster where
  registry : Registry := {}
  balancer : Balancer := .roundRobin none 0
  classifier : Option Classifier := none

namespace Cluster

/-! ## Distances -/

def rank (c : Cluster) (k : Classifier) (h : Host) : Distance × Balancer :=
  match k with
  | .rule f => (f c.registry h, c.balancer)
  | .balancer => c.balancer.distance c.registry h

def rankOne (k : Classifier) (c : Cluster) (h : HostId) : Cluster :=
  let (d, balancer) := c.rank k (c.registry.host h)
  { c with registry := c.registry.modify h ({ · with distance := d }), balancer := balancer }

def refreshDistances (c : Cluster) (k : Classifier) : Cluster :=
  c.registry.topology.ids.foldl (rankOne k) c

/-- Asks the classifier about every host, if there is one. -/
def reclassify (c : Cluster) : Cluster :=
  match c.classifier with
  | none => c
  | some k => c.refreshDistances k

def classifyBy (c : Cluster) (k : Classifier) : Cluster :=
  { c with classifier := some k }.reclassify

def emit (c : Cluster) (e : HostEvent) : Cluster := { c with registry := c.registry.emit e }

/-! ## Membership -/

/-- Registers a host, unless its address is registered already. -/
def add (c : Cluster) (h : Host) : HostId × Cluster :=
  match c.registry.find? h.address with
  | some known => (known, c)
  | none =>
    let c' := { c with registry := c.registry.enroll h }.reclassify
    (c.registry.hosts.length, c'.emit (.added h.address))

def remove (c : Cluster) (a : Address) : Option HostId × Cluster :=
  match c.registry.find? a with
  | none => (none, c)
  | some h => (some h, ({ c with registry := c.registry.strike a h }.reclassify).emit (.removed a))

/-! ## State -/

/-- Moves the host of an address to a state and tells it, if that is a legal change. -/
def transition (c : Cluster) (a : Address) (target : HostState) (e : HostEvent) : Bool × Cluster :=
  match c.registry.find? a with
  | none => (false, c)
  | some h =>
    match c.registry.move? h target with
    | none => (false, c)
    | some r => (true, { c with registry := r.emit e })

def markDown (c : Cluster) (a : Address) (reason : String) : Bool × Cluster :=
  c.transition a .down (.down a reason)

def startReconnecting (c : Cluster) (a : Address) : Bool × Cluster :=
  c.transition a .reconnecting (.reconnecting a)

def markUp (c : Cluster) (a : Address) : Bool × Cluster := c.transition a .up (.up a)

def applyEvent (c : Cluster) : ConnectionEvent → Cluster
  | .hostUp a => (c.markUp a).2
  | .hostDown a reason => (c.markDown a reason).2
  | .hostRemoved a => (c.remove a).2

/-! ## Topology reports -/

/-- Gives a contact point what the cluster reports about it; other hosts keep what they have. -/
def adopt (c : Cluster) (h : HostId) (m : Metadata) : Cluster :=
  match (c.registry.host h).metadata with
  | some _ => c
  | none =>
    let r := c.registry.modify h ({ · with metadata := some m })
    { c with registry := r.rebuild r.topology.members }.reclassify

/-- A report worked through so far: the addresses it stands for, and what it changed. -/
structure Reconciling where
  cluster : Cluster
  reported : List Address := []
  added : List Address := []
  failed : List Address := []

/-- Takes one peer in.  Where its address did not resolve, the host it was last known under
stays reported. -/
def takePeer (s : Reconciling) (p : Translated) : Reconciling :=
  match p.translation with
  | .ok a =>
    let c := { s.cluster with registry := s.cluster.registry.remember p.advertised a }
    let s := { s with reported := a :: s.reported }
    match c.registry.find? a with
    | none => { s with cluster := (c.add (.ofPeer a p.toPeer)).2, added := s.added ++ [a] }
    | some h => { s with cluster := c.adopt h p.metadata }
  | .error _ =>
    let s := { s with failed := s.failed ++ [p.advertised] }
    match s.cluster.registry.lastResolved? p.advertised with
    | some known => { s with reported := known :: s.reported }
    | none => s

/-- Removes hosts one after the other and lists those that were there. -/
def removeAll (c : Cluster) : List Address → List Address × Cluster
  | [] => ([], c)
  | a :: rest =>
    let (found, c) := c.remove a
    let (removed, c) := removeAll c rest
    (if found.isSome then a :: removed else removed, c)

/-- Brings the registry in line with a report: new hosts are added, contact points get their
metadata, hosts that are not reported are removed.  An empty report says nothing. -/
def applyTopology (c : Cluster) (report : List Translated) : TopologyUpdate × Cluster :=
  if report.isEmpty then ({}, c)
  else
    let s := report.foldl takePeer { cluster := c }
    let stale := s.cluster.registry.topology.addresses.filter (· ∉ s.reported)
    let (removed, c) := s.cluster.removeAll stale
    ({ added := s.added, removed := removed, failed := s.failed }, c)

/-! ## The load balancer -/

def initBalancer (c : Cluster) : Except Failure Unit × Cluster :=
  let (result, balancer) := c.balancer.init c.registry
  (result, { c with balancer := balancer })

def plan (c : Cluster) (keyspace : Option String) (options : ExecutionOptions) : Plan × Cluster :=
  let (p, balancer) := c.balancer.plan c.registry keyspace options
  (p, { c with balancer := balancer })

/-- The plan, where it can be made. -/
def plan? (c : Cluster) (keyspace : Option String) (options : ExecutionOptions) :
    Except Overflow Plan × Cluster :=
  let (p, balancer) := c.balancer.plan? c.registry keyspace options
  (p, { c with balancer := balancer })

def distance (c : Cluster) (h : Host) : Distance × Cluster :=
  let (d, balancer) := c.balancer.distance c.registry h
  (d, { c with balancer := balancer })

def setReplicationFactor (c : Cluster) (keyspace : String) (factor : Nat) : Cluster :=
  { c with registry := c.registry.setReplicationFactor keyspace factor }

end Cluster

end CqlDispatch
