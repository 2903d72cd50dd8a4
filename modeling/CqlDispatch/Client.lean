import CqlDispatch.Reconnector
import CqlDispatch.Request
/-!
# The client

A client is its cluster, the admission of its hosts, its requests and its reconnector.  All of
them are tasks that run between waits, and `Client.Action` lists every step that any of them can
take, together with what comes from outside: answers to attempts and probes, events of
connections, topology reports with what the translator answered for each peer, callers' requests,
and time.

`Client.step?` performs an action where it is possible, and says nothing about which comes first:
a run of a client is any list of possible actions.  Timers fire when their time has come or later, and
a series that is cancelled as its timer has fired or its probe is answered may still go on.
The journal tells what the client did, the newest first.
-/
namespace CqlDispatch

inductive ClientEvent where
  | request (number : Nat) (e : RequestEvent)
  | probe (series : Nat) (a : Address)
  /-- How many hosts are up was published. -/
  | hostsUp (count : Nat)

def ClientEvent.metric? : ClientEvent → Option MetricCall
  | request _ e => e.metric?
  | hostsUp n => some (.hostsUp n)
  | probe _ _ => none

structure Client where
  policies : Policies
  defaults : QueryDefaults
  shared : Shared
  reconnector : Reconnector := {}
  requests : List Request := []
  journal : List (Moment ClientEvent) := []

namespace Client

/-- A step that a client can take. -/
inductive Action where
  | submit (statement : Statement) (options : ExecutionOptions)
  | answer (request execution : Nat) (answer : Answer)
  /-- A queued execution goes on. -/
  | resume (request execution : Nat)
  | speculate (request : Nat)
  | expire (request : Nat)
  | cancel (request : Nat)
  | report (e : ConnectionEvent)
  | refresh (report : List Translated)
  | addHost (a : Address)
  | setReplicationFactor (keyspace : String) (factor : Nat)
  | hear
  | beginSeries (series : Nat)
  | wakeSeries (series : Nat)
  | probed (series : Nat) (answer : Except Failure Unit)
  | quitSeries (series : Nat)
  | shutdown
  | elapse (millis : Nat)

def now (c : Client) : Nat := c.shared.now
def registry (c : Client) : Registry := c.shared.cluster.registry
def request? (c : Client) (n : Nat) : Option Request := c.requests[n]?

def note (c : Client) (e : ClientEvent) : Client := { c with journal := ⟨c.now, e⟩ :: c.journal }

def withCluster (c : Client) (cluster : Cluster) : Client :=
  { c with shared := { c.shared with cluster := cluster } }

def withAdmission (c : Client) (admission : Admission) : Client :=
  { c with shared := { c.shared with admission := admission } }

def publishUp (c : Client) : Client := c.note (.hostsUp c.registry.upCount)

/-! ## Requests -/

/-- The part of a request's trace that is newer than the first `old` events. -/
def freshTrace (old : Nat) (r : Request) : List (Moment RequestEvent) :=
  r.trace.take (r.trace.length - old)

/-- Puts a request back after a step of its own, and what it did into the journal. -/
def putBack (c : Client) (n old : Nat) (out : Shared × Request) : Client :=
  { c with
    shared := out.1
    requests := c.requests.set n out.2
    journal := (freshTrace old out.2).map (fun m => ⟨m.time, .request n m.event⟩) ++ c.journal }

def onRequest? (c : Client) (n : Nat) (f : Shared → Request → Option (Shared × Request)) :
    Option Client := do
  let r ← c.request? n
  if r.isLive then
    let out ← f c.shared r
    pure (c.putBack n r.trace.length out)
  else none

def submit (c : Client) (statement : Statement) (options : ExecutionOptions) : Client :=
  let n := c.requests.length
  let out := Request.start c.policies c.shared statement options
  { c with requests := c.requests ++ [out.2] }.putBack n 0 out

/-! ## The cluster -/

/-- Takes a report of the connection layer in: the host changes, a host that is gone loses its
slots and queue, and the number of hosts up is published. -/
def report (c : Client) (e : ConnectionEvent) : Client :=
  let c := c.withCluster (c.shared.cluster.applyEvent e)
  let c := match e with
    | .hostRemoved a => c.withAdmission (c.shared.admission.remove a)
    | _ => c
  c.publishUp

/-- Takes a topology report in; removed hosts lose their slots and queues. -/
def refresh (c : Client) (report : List Translated) : TopologyUpdate × Client :=
  let (update, cluster) := c.shared.cluster.applyTopology report
  let c := c.withCluster cluster
  let c := c.withAdmission (update.removed.foldl Admission.remove c.shared.admission)
  (update, c.publishUp)

/-! ## Connecting -/

/-- A client over its contact points and the first topology report, as its translator answered it.
Where the report failed the contact points are used as they are; where the load balancer refuses,
there is no client. -/
def connect (policies : Policies) (defaults : QueryDefaults) (limits : Limits)
    (contacts : List Address) (report : Except Failure (List Translated)) : Except Failure Client :=
  let cluster : Cluster := { balancer := policies.balancer }
  let cluster := contacts.foldl (fun c a => (c.add { address := a }).2) cluster
  let cluster := match report with
    | .ok report => (cluster.applyTopology report).2
    | .error _ => cluster
  match cluster.initBalancer with
  | (.error f, _) => .error f
  | (.ok _, cluster) =>
    let cluster := cluster.classifyBy .balancer
    let c : Client :=
      { policies, defaults
        shared := { cluster, admission := { limits }, timestamps := policies.timestamps }
        reconnector := { heard := cluster.registry.log.length } }
    .ok c.publishUp

/-! ## Steps -/

/-- Whether a queued execution would find its wait over. -/
def canResume (s : Shared) (r : Request) (execution : Nat) : Bool :=
  match r.execution? execution with
  | some e =>
    match e.phase with
    | .queued _ a t => s.admission.canResume a t
    | .inFlight .. => false
  | none => false

def waitsWith (t : Ticket) (e : Execution) : Bool :=
  match e.phase with
  | .queued _ _ u => t == u
  | .inFlight .. => false

/-- The request and the execution that wait with a ticket. -/
def holder? (c : Client) (t : Ticket) : Option (Nat × Nat) :=
  c.requests.zipIdx.findSome? fun (r, n) =>
    (r.executions.find? (waitsWith t)).map fun e => (n, e.index)

/-- Executions whose wait is over, the first to end first. -/
def resumable (c : Client) : List (Nat × Nat) := c.shared.admission.ended.filterMap c.holder?

def isInFlight (r : Request) (execution : Nat) : Bool :=
  match r.execution? execution with
  | some e =>
    match e.phase with
    | .inFlight .. => true
    | .queued .. => false
  | none => false

/-- Whether a timer is set and its time has come. -/
def isDue (timer : Option Nat) (now : Nat) : Bool :=
  match timer with
  | some t => t ≤ now
  | none => false

def withReconnector (c : Client) (out : Reconnector × Cluster) : Client :=
  { c.withCluster out.2 with reconnector := out.1 }

/-- Performs an action, if it is possible now. -/
def step? (c : Client) : Action → Option Client
  | .submit statement options => some (c.submit statement options)
  | .answer n e a =>
    c.onRequest? n fun s r => if isInFlight r e then some (r.answer c.policies s e a) else none
  | .resume n e => c.onRequest? n fun s r => if canResume s r e then some (r.resume s e) else none
  | .speculate n =>
    c.onRequest? n fun s r =>
      if isDue r.nextSpeculative s.now then some (r.speculate c.policies s) else none
  | .expire n =>
    c.onRequest? n fun s r => if isDue r.deadline s.now then some (r.expire s) else none
  | .cancel n => c.onRequest? n fun s r => some (r.cancel s)
  | .report e => some (c.report e)
  | .refresh report => some (c.refresh report).2
  | .addHost a => some (c.withCluster (c.shared.cluster.add { address := a }).2)
  | .setReplicationFactor keyspace factor =>
    some (c.withCluster (c.shared.cluster.setReplicationFactor keyspace factor))
  | .hear =>
    if c.reconnector.hasNews c.registry then
      some { c with reconnector := c.reconnector.hear c.policies.backoff c.registry }
    else none
  | .beginSeries n => do
    let s ← c.reconnector.series? n
    if s.phase = .created then
      pure (c.withReconnector (c.reconnector.beginSeries c.shared.cluster c.now n))
    else none
  | .wakeSeries n => do
    let s ← c.reconnector.series? n
    match s.phase with
    | .waiting wake =>
      if wake ≤ c.now then
        let (probe, w) := c.reconnector.wakeSeries c.registry c.now n
        let c := { c with reconnector := w }
        match probe with
        | some a => pure (c.note (.probe n a))
        | none => pure c
      else none
    | _ => none
  | .probed n a => do
    let s ← c.reconnector.series? n
    if s.phase = .probing then
      pure (c.withReconnector (c.reconnector.probed c.shared.cluster c.now n a))
    else none
  | .quitSeries n => do
    let s ← c.reconnector.series? n
    if s.phase ≠ .created ∧ s.phase ≠ .over ∧ c.reconnector.isCancelled s then
      pure { c with reconnector := c.reconnector.quitSeries n }
    else none
  | .shutdown => some { c with reconnector := c.reconnector.stop }
  | .elapse millis => some { c with shared := { c.shared with now := c.now + millis } }

def run? (c : Client) : List Action → Option Client
  | [] => some c
  | a :: rest => (c.step? a).bind (run? · rest)

/-! ## What is left to do -/

/-- Steps of one request that are possible at the current instant. -/
def requestWork (c : Client) (n : Nat) (r : Request) : List Action :=
  if !r.isLive then []
  else
    ((r.executions.filter fun e => canResume c.shared r e.index).map (.resume n ·.index)) ++
      (if isDue r.deadline c.now then [.expire n] else []) ++
      (if isDue r.nextSpeculative c.now then [.speculate n] else [])

def seriesWork (c : Client) (n : Nat) (s : Series) : List Action :=
  match s.phase with
  | .created => [.beginSeries n]
  | .over => []
  | .waiting wake =>
    if c.reconnector.isCancelled s then [.quitSeries n]
    else if wake ≤ c.now then [.wakeSeries n]
    else []
  | .probing => if c.reconnector.isCancelled s then [.quitSeries n] else []

/-- What the client's own tasks do at the current instant.  A series that is cancelled stops. -/
def work (c : Client) : List Action :=
  (c.requests.zipIdx.flatMap fun (r, n) => c.requestWork n r) ++
    (if c.reconnector.isBusy c.registry then [.hear] else []) ++
    (c.reconnector.series.zipIdx.flatMap fun (s, n) => c.seriesWork n s)

def isIdle (c : Client) : Bool := c.work.isEmpty

def timers (c : Client) : List Nat :=
  ((c.requests.filter (·.isLive)).flatMap fun r => r.deadline.toList ++ r.nextSpeculative.toList) ++
    c.reconnector.series.filterMap fun s =>
      match s.phase with
      | .waiting wake => if c.reconnector.isCancelled s then none else some wake
      | _ => none

def metrics (c : Client) : List MetricCall := c.journal.reverse.filterMap (·.event.metric?)

end Client

end CqlDispatch
