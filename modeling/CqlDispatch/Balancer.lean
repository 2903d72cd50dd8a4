import CqlDispatch.Options
import CqlDispatch.Plan
/-!
# Load balancers

A load balancer ranks hosts by distance and orders them into a plan for every request.  Two kinds
know the hosts themselves, two decorate another balancer:

* `roundRobin` starts one host further with every plan;
* `dcAware` puts the hosts of the local datacenter first and, of every other datacenter, only a
  bounded number behind them;
* `tokenAware` moves the replicas of the request's partition to the front;
* `allowList` admits a fixed set of addresses and ignores all other hosts.

A balancer reads its hosts from the registry it is bound to, and stays bound to it for ever.  A
balancer that was bound elsewhere sees nothing of the registry at hand.  `everyHost` lists all
hosts as they are, up or not, and leaves distances alone.

A plan that would have to list more replicas than there can be room for is not made
(`Balancer.plan?`).
-/
namespace CqlDispatch

structure Partition where
  version : Nat
  near : List HostId
  remote : List HostId
  remoteAddresses : List Address
  deriving DecidableEq, Repr

structure DcAware where
  configured : Option String := none
  /-- Resolved when the balancer is first initialized; `some none` if no host had a datacenter. -/
  localDc : Option (Option String) := none
  perRemoteDc : Nat := 0
  binding : Option Nat := none
  turn : UInt64 := 0
  cache : Option Partition := none
  deriving DecidableEq, Repr

inductive Balancer where
  | roundRobin (binding : Option Nat) (turn : UInt64)
  | dcAware (state : DcAware)
  | tokenAware (binding : Option Nat) (child : Balancer)
  | allowList (allowed : List Address) (child : Balancer)
  | everyHost (binding : Option Nat)
  deriving DecidableEq, Repr, Inhabited

/-- Binds once; the same registry again is fine, any other is an error. -/
def bind (binding : Option Nat) (r : Registry) : Except Failure (Option Nat) :=
  match binding with
  | none => .ok (some r.id)
  | some id =>
    if id = r.id then .ok (some id)
    else .error (.configuration "load balancing policy is already bound to another host registry")

/-- The hosts that a binding shows: none before it exists, and an empty registry where it names
another one than the one at hand. -/
def boundTo (binding : Option Nat) (r : Registry) : Option Registry :=
  match binding with
  | none => none
  | some id => if id = r.id then some r else some { id := id }

/-- A list read from a starting point on and around. -/
def rotation {α : Type} (xs : List α) (start : Nat) : List α :=
  xs.drop (start % xs.length) ++ xs.take (start % xs.length)

namespace DcAware

/-- The datacenter that counts as local, once resolved. -/
def local? (d : DcAware) : Option String := d.localDc.join

/-- Whether a host is local; every host is where no datacenter was resolved. -/
def isLocal (d : DcAware) (h : Host) : Bool :=
  match d.local? with
  | some dc => h.datacenter == some dc
  | none => true

/-- The datacenter a host is listed under; no datacenter is the empty name. -/
def groupName (h : Host) : String := h.datacenter.getD ""

def groups (hosts : List Host) : List String :=
  (NameMap.ofList (hosts.map fun h => (groupName h, ()))).map (·.1)

def split (d : DcAware) (r : Registry) : Partition :=
  let ids := r.topology.ids
  let others := ids.filter fun h => !d.isLocal (r.host h)
  let remote := (groups (others.map r.host)).flatMap fun dc =>
    (others.filter fun h => groupName (r.host h) == dc).take d.perRemoteDc
  { version := r.topology.version
    near := ids.filter fun h => d.isLocal (r.host h)
    remote := remote
    remoteAddresses := remote.map fun h => (r.host h).address }

/-- The split kept from before if it is of the current version, else a new one, which is kept. -/
def partition (d : DcAware) (r : Registry) : Partition × DcAware :=
  match d.cache with
  | some p =>
    if p.version = r.topology.version then (p, d)
    else (d.split r, { d with cache := some (d.split r) })
  | none => (d.split r, { d with cache := some (d.split r) })

/-- Resolves the local datacenter: the configured one, or else that of the first host with one. -/
def resolve (d : DcAware) (r : Registry) : DcAware :=
  match d.localDc with
  | some _ => d
  | none => { d with localDc := some (d.configured.or (r.members.findSome? (·.datacenter))) }

def distance (d : DcAware) (r : Registry) (h : Host) : Distance × DcAware :=
  if d.isLocal h then (.near, d)
  else match boundTo d.binding r with
    | none => (.ignored, d)
    | some seen =>
      let (p, d) := d.partition seen
      (if h.address ∈ p.remoteAddresses then .remote else .ignored, d)

def plan (d : DcAware) (r : Registry) : Plan × DcAware :=
  match boundTo d.binding r with
  | none => (.empty, d)
  | some seen =>
    let (p, d) := d.partition seen
    let turn := d.turn.toNat
    (.walk (rotation p.near turn ++ rotation p.remote turn), { d with turn := d.turn + 1 })

end DcAware

namespace Balancer

/-- Token-aware over datacenter-aware, which is what clients use unless told otherwise. -/
def standard (localDc : Option String) : Balancer :=
  .tokenAware none (.dcAware { configured := localDc })

/-- Binds the balancer to a registry, outer layers first.  What was bound before a layer refused
stays bound. -/
def init (b : Balancer) (r : Registry) : Except Failure Unit × Balancer :=
  match b with
  | roundRobin binding turn =>
    match bind binding r with
    | .ok binding => (.ok (), roundRobin binding turn)
    | .error e => (.error e, b)
  | everyHost binding =>
    match bind binding r with
    | .ok binding => (.ok (), everyHost binding)
    | .error e => (.error e, b)
  | dcAware d =>
    let d := d.resolve r
    match bind d.binding r with
    | .ok binding => (.ok (), dcAware { d with binding := binding })
    | .error e => (.error e, dcAware d)
  | tokenAware binding child =>
    match bind binding r with
    | .ok binding =>
      let (result, child) := child.init r
      (result, tokenAware binding child)
    | .error e => (.error e, b)
  | allowList allowed child =>
    let (result, child) := child.init r
    (result, allowList allowed child)

/-- The rank of a host, and the balancer with what it has worked out on the way. -/
def distance (b : Balancer) (r : Registry) (h : Host) : Distance × Balancer :=
  match b with
  | roundRobin _ _ => (.near, b)
  | everyHost _ => (h.distance, b)
  | dcAware d =>
    let (result, d) := d.distance r h
    (result, dcAware d)
  | tokenAware binding child =>
    let (result, child) := child.distance r h
    (result, tokenAware binding child)
  | allowList allowed child =>
    if h.address ∈ allowed then
      let (result, child) := child.distance r h
      (result, allowList allowed child)
    else (.ignored, b)

def nearReplicas (b : Balancer) (r seen : Registry) : List HostId → List Address × Balancer
  | [] => ([], b)
  | h :: rest =>
    if seen.isUp h then
      let (d, b) := b.distance r (seen.host h)
      let (more, b) := nearReplicas b r seen rest
      (if d = .near then (seen.host h).address :: more else more, b)
    else nearReplicas b r seen rest

def plan (b : Balancer) (r : Registry) (keyspace : Option String) (options : ExecutionOptions) :
    Plan × Balancer :=
  match b with
  | roundRobin binding turn =>
    match boundTo binding r with
    | none => (.empty, b)
    | some seen =>
      let ids := seen.topology.ids
      if ids.isEmpty then (.empty, b)
      else (.walk (rotation ids turn.toNat), roundRobin binding (turn + 1))
  | everyHost binding =>
    match boundTo binding r with
    | none => (.empty, b)
    | some seen => (.listed seen.topology.ids, b)
  | dcAware d =>
    let (p, d) := d.plan r
    (p, dcAware d)
  | tokenAware binding child =>
    let (inner, child) := child.plan r keyspace options
    match options.routingKey, boundTo binding r with
    | some key, some seen =>
      let owners := seen.replicas (keyspace.or options.keyspace) (Token.ofRoutingKey key)
      let (pending, child) := child.nearReplicas r seen owners
      (if pending.isEmpty then inner else .replicasFirst pending [] inner, tokenAware binding child)
    | _, _ => (inner, tokenAware binding child)
  | allowList allowed child =>
    let (inner, child) := child.plan r keyspace options
    (.among allowed inner, allowList allowed child)

/-- What keeps a plan from being made, innermost layers first. -/
def overflow? (b : Balancer) (r : Registry) (keyspace : Option String) (options : ExecutionOptions) :
    Option Overflow :=
  match b with
  | tokenAware binding child =>
    match child.overflow? r keyspace options with
    | some o => some o
    | none =>
      match options.routingKey, boundTo binding r with
      | some key, some seen =>
        match seen.replicas? (keyspace.or options.keyspace) (Token.ofRoutingKey key) with
        | .error o => some o
        | .ok _ => none
      | _, _ => none
  | allowList _ child => child.overflow? r keyspace options
  | roundRobin _ _ | dcAware _ | everyHost _ => none

/-- The plan, where it can be made. -/
def plan? (b : Balancer) (r : Registry) (keyspace : Option String) (options : ExecutionOptions) :
    Except Overflow Plan × Balancer :=
  let (p, after) := b.plan r keyspace options
  match b.overflow? r keyspace options with
  | some o => (.error o, after)
  | none => (.ok p, after)

def options : Balancer → NameMap String
  | roundRobin _ _ | everyHost _ => []
  | dcAware d =>
    [("localDataCenter", d.local?.getD ""), ("usedHostsPerRemoteDc", Nat.repr d.perRemoteDc)]
  | tokenAware _ child => NameMap.insert "tokenAware" "true" child.options
  | allowList allowed child =>
    let names := (NameMap.ofList (allowed.map fun a => (a.text, ()))).map (·.1)
    NameMap.insert "allowList" (String.intercalate "," names) child.options

def localDc? : Balancer → Option String
  | dcAware d => d.local?
  | tokenAware _ child | allowList _ child => child.localDc?
  | roundRobin _ _ | everyHost _ => none

def admits? : Balancer → Address → Option Bool
  | allowList allowed _, a => some (a ∈ allowed)
  | tokenAware _ child, a => child.admits? a
  | _, _ => none

end Balancer

end CqlDispatch
