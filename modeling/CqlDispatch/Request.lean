import CqlDispatch.Admission
import CqlDispatch.Cluster
import CqlDispatch.Metrics
import CqlDispatch.Policies
import CqlDispatch.Row
/-!
# Requests

One request is driven to exactly one outcome.  It owns a plan and runs one or more executions over
it.  An execution takes the next host of the plan, passes over hosts that are not up, waits for a
slot, sends an attempt and then follows the retry policy: the same host again, the next host, or
the end.  For idempotent statements the speculation policy starts further executions on the same
plan.  The first execution that succeeds or fails for good decides the request, and all others
are dropped with their slots and places in queues; when the last execution finds the plan empty,
no host was available.  A request is lost, without an outcome, when a number it needs is too big:
the replicas that its plan asks for, the slots of a host, or the instant of its next copy.

The functions here are the pieces between two waits.  Each is given what requests share
(`Shared`) as it is at that moment, and runs until every execution waits again: for a slot or for
an answer.  What happens in between, the changes of hosts, the other requests and the clock, is up
to whoever calls them.  `Request.trace` tells what the request did, the newest first.
-/
namespace CqlDispatch

structure Moment (α : Type) where
  time : Nat
  event : α

structure Attempt where
  host : HostId
  address : Address
  execution : Nat
  consistency : Consistency
  timestamp : Option Int
  deriving DecidableEq, Repr

structure ExecutionReport where
  host : Address
  tried : List Address
  speculated : UInt32
  retries : UInt32
  achieved : Consistency
  deriving DecidableEq, Repr

inductive Outcome where
  | success (result : ResultSet) (report : ExecutionReport)
  | failure (f : Failure)

abbrev Answer := Except Failure ResultSet

inductive RequestEvent where
  | pulled (execution : Nat) (host : HostId)
  | ranDry
  | refused (execution : Nat) (address : Address) (f : Failure)
  | sent (attempt : Attempt)
  | answered (execution : Nat) (address : Address) (answer : Answer)
  | decided (execution : Nat) (address : Address) (d : Decision)
  | speculated (execution : Nat)
  | ended (outcome : Outcome) (latency : Span)

def RequestEvent.metric? : RequestEvent → Option MetricCall
  | decided _ _ d => some (.retry d.label)
  | speculated _ => some .speculative
  | ended (.success _ _) latency => some (.success latency)
  | ended (.failure f) latency => some (.error f.kind latency)
  | _ => none

/-- Where an execution waits. -/
inductive Phase where
  | queued (host : HostId) (address : Address) (ticket : Ticket)
  | inFlight (host : HostId) (address : Address) (ticket : Ticket)
  deriving DecidableEq, Repr

structure Execution where
  index : Nat
  /-- The level of its next attempt. -/
  consistency : Consistency
  phase : Phase
  deriving DecidableEq, Repr

structure Request where
  statement : Statement
  options : ExecutionOptions
  started : Nat
  deadline : Option Nat
  plan : Plan := .empty
  timestamp : Option Int := none
  /-- How often it was retried, as far as the counter goes. -/
  retries : UInt32 := 0
  /-- What was seen on each host, in order. -/
  errors : List (Address × String) := []
  tried : List Address := []
  executions : List Execution := []
  speculated : Nat := 0
  nextSpeculative : Option Nat := none
  outcome : Option Outcome := none
  /-- What the request was lost to. -/
  lost : Option Overflow := none
  trace : List (Moment RequestEvent) := []

/-- What the requests of a client share. -/
structure Shared where
  cluster : Cluster
  admission : Admission
  timestamps : Option Timestamps := none
  /-- Milliseconds since the client connected. -/
  now : Nat := 0
  /-- The last instant of the clock, in nanoseconds since then. -/
  horizon : Nat := 9223372036854775807999999999

namespace Shared

def host (s : Shared) (h : HostId) : Host := s.cluster.registry.host h
def isUp (s : Shared) (h : HostId) : Bool := s.cluster.registry.isUp h

/-- Gives up what an execution waits with: its place in a queue, or its slot. -/
def dropPhase (s : Shared) : Phase → Shared
  | .queued _ a t => { s with admission := s.admission.cancel a t }
  | .inFlight _ a t => { s with admission := s.admission.release a t }

end Shared

namespace Request

def record (r : Request) (s : Shared) (e : RequestEvent) : Request :=
  { r with trace := ⟨s.now, e⟩ :: r.trace }

def recordError (r : Request) (a : Address) (f : Failure) : Request :=
  { r with errors := r.errors ++ [(a, f.message)] }

def operation (r : Request) : Operation := ⟨r.statement, r.options, r.retries⟩

def isLive (r : Request) : Bool := r.outcome.isNone && r.lost.isNone

def execution? (r : Request) (index : Nat) : Option Execution :=
  r.executions.find? (·.index == index)

def without (r : Request) (index : Nat) : Request :=
  { r with executions := r.executions.filter (·.index != index) }

def latestFirst (r : Request) : List Execution := r.executions.mergeSort fun e f => f.index ≤ e.index

/-- Decides the request; every execution still running is dropped, the one started last first. -/
def finish (s : Shared) (r : Request) (o : Outcome) : Shared × Request :=
  let s := r.latestFirst.foldl (fun s e => s.dropPhase e.phase) s
  let r := r.record s (.ended o (.ofMillis (s.now - r.started)))
  (s, { r with executions := [], nextSpeculative := none, outcome := some o })

/-- Stops a request that a number was too big for, where it is. -/
def lose (s : Shared) (r : Request) (o : Overflow) : Shared × Request :=
  (r.latestFirst.foldl (fun s e => s.dropPhase e.phase) s,
    { r with executions := [], nextSpeculative := none, lost := some o })

def succeed (s : Shared) (r : Request) (result : ResultSet) (host : Address) (c : Consistency) :
    Shared × Request :=
  r.finish s (.success result
    { host := host, tried := r.tried, speculated := .ofNat r.speculated, retries := r.retries, achieved := c })

/-- An execution found the plan empty; the request ends with the last one. -/
def exhaust (s : Shared) (r : Request) : Shared × Request :=
  if r.executions.isEmpty then r.finish s (.failure (.noHostAvailable r.errors)) else (s, r)

/-- Hands an attempt to the connection layer. -/
def send (s : Shared) (r : Request) (index : Nat) (c : Consistency) (h : HostId) (t : Ticket) :
    Shared × Request :=
  let a := (s.host h).address
  let r := { r with
    tried := r.tried ++ [a]
    executions := r.executions ++ [Execution.mk index c (.inFlight h a t)] }
  (s, r.record s (.sent ⟨h, a, index, c, r.timestamp⟩))

/-- Takes hosts until one admits the execution or queues it, or none is left.  `current` is a host
that the execution already has; at most `fuel` hosts are looked at. -/
def seek (index : Nat) (c : Consistency) : Nat → Option HostId → Shared → Request → Shared × Request
  | 0, _, s, r => exhaust s r
  | fuel + 1, current, s, r =>
    let (host, r) := match current with
      | some h => (some h, r)
      | none =>
        let (found, plan) := r.plan.pull s.cluster.registry
        let r := { r with plan := plan }
        match found with
        | some h => (some h, r.record s (.pulled index h))
        | none => (none, r.record s .ranDry)
    match host with
    | none => exhaust s r
    | some h =>
      if !s.isUp h then seek index c fuel none s r
      else
        let a := (s.host h).address
        let (t, admittance, admission) := s.admission.acquire a
        let s := { s with admission := admission }
        match admittance with
        | .granted => send s r index c h t
        | .queued => (s, { r with executions := r.executions ++ [Execution.mk index c (.queued h a t)] })
        | .turnedAway f =>
          seek index c fuel none s ((r.record s (.refused index a f)).recordError a f)
        | .overflow => lose s r .slots

def proceed (s : Shared) (r : Request) (index : Nat) (c : Consistency) (current : Option HostId) :
    Shared × Request :=
  seek index c (r.plan.size + 2) current s r

/-- When a timer for the delay of this number fires, if the clock goes so far. -/
def speculationDue (p : Policies) (s : Shared) (r : Request) (number : Nat) : Except Overflow (Option Nat) :=
  match p.speculation.delay? r.options.keyspace r.statement.query number with
  | none => .ok none
  | some delay =>
    if s.horizon < s.now * 1000000 + delay.nanos then .error .clock else .ok (some (s.now + delay.ticks))

/-- When the first copy of a request starts. -/
def firstCopyDue (p : Policies) (s : Shared) (r : Request) : Except Overflow (Option Nat) :=
  if r.options.idempotent then speculationDue p s r 0 else .ok none

/-- The timestamp of a request: the explicit one, or else one is drawn where there is a generator. -/
def stamp (explicit : Option Int) (source : Option Timestamps) : Option Int × Option Timestamps :=
  match explicit, source with
  | some t, _ => (some t, source)
  | none, some source => (some source.next.1, some source.next.2.2)
  | none, none => (none, none)

def submitted (s : Shared) (statement : Statement) (options : ExecutionOptions) : Request :=
  { statement, options, started := s.now, deadline := options.timeout.map (s.now + ·.ticks) }

/-- A request whose plan has no host. -/
def stillborn (s : Shared) (statement : Statement) (options : ExecutionOptions) (rest : Plan) : Request :=
  { submitted s statement options with plan := rest }.record s .ranDry

/-- A request that has taken its first host. -/
def opened (s : Shared) (statement : Statement) (options : ExecutionOptions) (h : HostId) (rest : Plan) :
    Request :=
  { { submitted s statement options with plan := rest }.record s (.pulled 0 h) with
    timestamp := (stamp options.timestamp s.timestamps).1 }

/-- Starts a request on a plan.  An empty plan ends it at once, before a timestamp is drawn. -/
def startOn (p : Policies) (s : Shared) (statement : Statement) (options : ExecutionOptions)
    (plan : Plan) : Shared × Request :=
  match plan.pull s.cluster.registry with
  | (none, rest) => (stillborn s statement options rest).finish s (.failure (.noHostAvailable []))
  | (some h, rest) =>
    let r := opened s statement options h rest
    let s := { s with timestamps := (stamp options.timestamp s.timestamps).2 }
    match firstCopyDue p s r with
    | .error o => r.lose s o
    | .ok next => { r with nextSpeculative := next }.proceed s 0 options.consistency (some h)

/-- Starts a request on the plan that the load balancer makes for it. -/
def start (p : Policies) (s : Shared) (statement : Statement) (options : ExecutionOptions) :
    Shared × Request :=
  let (plan, cluster) := s.cluster.plan? options.keyspace options
  let s := { s with cluster := cluster }
  match plan with
  | .ok plan => startOn p s statement options plan
  | .error o => (submitted s statement options).lose s o

/-- Follows a failed attempt: the retry policy decides where it is asked, a host that is busy is
passed over, and any other failure ends the request. -/
def afterFailure (p : Policies) (s : Shared) (r : Request) (e : Execution) (h : HostId) (a : Address)
    (f : Failure) : Shared × Request :=
  match f.setback? with
  | some setback =>
    let d := p.retry.decide r.operation e.consistency setback
    let r := r.record s (.decided e.index a d)
    match d with
    | .retry level sameHost =>
      let r := { r with retries := r.retries + 1 }.recordError a f
      let current := if sameHost && s.isUp h then some h else none
      r.proceed s e.index (level.getD e.consistency) current
    | .rethrow => r.finish s (.failure f)
    | .ignore => r.succeed s .empty a e.consistency
  | none =>
    match f with
    | .busy _ _ => (r.recordError a f).proceed s e.index e.consistency none
    | _ => r.finish s (.failure f)

/-- The answer to the attempt of an execution has come; its slot goes back first. -/
def answer (p : Policies) (s : Shared) (r : Request) (index : Nat) (answer : Answer) :
    Shared × Request :=
  match r.execution? index with
  | some e =>
    match e.phase with
    | .inFlight h a _ =>
      let s := s.dropPhase e.phase
      let r := (r.without index).record s (.answered index a answer)
      match answer with
      | .ok result => r.succeed s result a e.consistency
      | .error f => r.afterFailure p s e h a f
    | .queued .. => (s, r)
  | none => (s, r)

/-- Lets a queued execution look again: it sends when it was handed a slot, and goes on to the next
host when its queue was closed. -/
def resume (s : Shared) (r : Request) (index : Nat) : Shared × Request :=
  match r.execution? index with
  | some e =>
    match e.phase with
    | .queued h a t =>
      let (found, admission) := s.admission.resume a t
      let s := { s with admission := admission }
      match found with
      | .waiting => (s, r)
      | .granted => (r.without index).send s index e.consistency h t
      | .closed f =>
        let r := ((r.without index).record s (.refused index a f)).recordError a f
        r.proceed s index e.consistency none
    | .inFlight .. => (s, r)
  | none => (s, r)

/-- The timer for a further execution has fired.  With no host left none starts any more. -/
def speculate (p : Policies) (s : Shared) (r : Request) : Shared × Request :=
  let (found, plan) := r.plan.pull s.cluster.registry
  let r := { r with plan := plan }
  match found with
  | none => (s, { r.record s .ranDry with nextSpeculative := none })
  | some h =>
    let number := r.speculated + 1
    let r := { (r.record s (.pulled number h)).record s (.speculated number) with speculated := number }
    match speculationDue p s r number with
    | .error o => r.lose s o
    | .ok next => { r with nextSpeculative := next }.proceed s number r.options.consistency (some h)

def expire (s : Shared) (r : Request) : Shared × Request :=
  r.finish s (.failure (.requestTimedOut (r.options.timeout.getD .zero)))

def cancel (s : Shared) (r : Request) : Shared × Request := r.finish s (.failure .cancelled)

end Request

end CqlDispatch
