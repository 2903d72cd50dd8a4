import CqlDispatch.Client
/-!
# Rehearsals

A client in virtual time against hosts that answer from a script.  Every attempt and every probe
takes the next line of its host's script: how long to wait, and then what to answer.  A script that
has run out answers at once with success.

Work takes no time.  `settle` performs everything that is possible at the current instant; only
when nothing is left does time move on, to the next instant at which something happens.  At one
instant a request that runs goes on until all of its executions wait, and of those that wait no
longer the first to be woken goes first.  A rehearsal is a list of `Scene`s: what a caller does with
the client, one after the other.
-/
namespace CqlDispatch

structure Line where
  delay : Nat := 0
  failure : Option Failure := none
  empty : Bool := false
  deriving DecidableEq, Repr

/-- The lines that the attempts or probes of hosts are still to take. -/
abbrev Script := List (Address × List Line)

namespace Script

def take (s : Script) (a : Address) : Line × Script :=
  match s.lookup a with
  | some (line :: rest) => (line, (a, rest) :: s.filter (·.1 != a))
  | _ => ({}, s)

def replace (s : Script) (lines : Script) : Script :=
  lines.foldl (fun s l => l :: s.filter (·.1 != l.1)) s

end Script

/-- The row with which a host answers: its own address. -/
def hostRow (a : Address) : ResultSet :=
  let columns := Columns.ofNames ["host"]
  { columns := columns
    rows := [⟨columns, [some (.text a.text)], by simp [columns, Columns.ofNames]⟩] }

def Line.answer (l : Line) (a : Address) : Answer :=
  match l.failure with
  | some f => .error f
  | none => .ok (if l.empty then .empty else hostRow a)

def Line.probeAnswer (l : Line) : Except Failure Unit :=
  match l.failure with
  | some f => .error f
  | none => .ok ()

/-- Milliseconds that a sleep of so many takes. -/
def sleepOf (millis : Nat) : Nat := (Span.ofMillis millis).sleepTicks

structure Pending where
  due : Nat
  action : Client.Action

/-- Where a name given to a request leads: its number, or why it was never started. -/
abbrev Started := Except Failure Nat

structure Rehearsal where
  client : Client
  attempts : Script := []
  probes : Script := []
  peers : Except Failure (List Peer) := .ok []
  pending : List Pending := []
  /-- Entries of the client's journal that were looked at for attempts and probes. -/
  seen : Nat := 0
  /-- Requests that were started under a name, and whether they can be given up. -/
  names : List (String × Started × Bool) := []
  running : Option Nat := none

namespace Rehearsal

/-- Looks up the script for what the client has sent. -/
def attend (s : Rehearsal) (m : Moment ClientEvent) : Rehearsal :=
  match m.event with
  | .request n (.sent attempt) =>
    let (line, attempts) := s.attempts.take attempt.address
    { s with
      attempts := attempts
      pending := s.pending ++
        [⟨m.time + sleepOf line.delay, .answer n attempt.execution (line.answer attempt.address)⟩] }
  | .probe n a =>
    let (line, probes) := s.probes.take a
    { s with
      probes := probes
      pending := s.pending ++ [⟨m.time + sleepOf line.delay, .probed n line.probeAnswer⟩] }
  | _ => s

def attendAll (s : Rehearsal) : Rehearsal :=
  let count := s.client.journal.length
  let fresh := (s.client.journal.take (count - s.seen)).reverse
  { fresh.foldl attend s with seen := count }

def requestOf : Client.Action → Option Nat
  | .answer n _ _ | .resume n _ | .speculate n | .expire n | .cancel n => some n
  | _ => none

/-- Performs an action if it is possible; an answer nobody waits for any more is lost. -/
def perform (s : Rehearsal) (a : Client.Action) : Rehearsal :=
  match s.client.step? a with
  | some c => { s with client := c, running := requestOf a }.attendAll
  | none => s

/-- The first pending action whose time has come, and the others. -/
def takeDue (now : Nat) : List Pending → Option (Client.Action × List Pending)
  | [] => none
  | p :: rest =>
    if p.due ≤ now then some (p.action, rest)
    else (takeDue now rest).map fun (a, others) => (a, p :: others)

/-- The execution that goes on first: one of the running request, or the first to be woken. -/
def nextResume (s : Rehearsal) : Option Client.Action :=
  let woken := s.client.resumable
  ((woken.find? fun w => s.running == some w.1).or woken.head?).map fun (n, e) => .resume n e

/-- What comes next at the current instant: what was pending, then executions that were woken, then
the rest of the client's own work. -/
def nextAction (s : Rehearsal) : Option (Client.Action × Rehearsal) :=
  match takeDue s.client.now s.pending with
  | some (a, pending) => some (a, { s with pending := pending })
  | none => (s.nextResume.or s.client.work.head?).map (·, s)

/-- Performs everything that is possible at the current instant, at most `fuel` actions. -/
def settleWithin : Nat → Rehearsal → Rehearsal
  | 0, s => s
  | fuel + 1, s =>
    match s.nextAction with
    | none => s
    | some (a, s) => settleWithin fuel (s.perform a)

/-- More actions than any instant of a rehearsal takes. -/
def patience : Nat := 1000000

def settle (s : Rehearsal) : Rehearsal := s.settleWithin patience

/-- The next instant at which something happens by itself. -/
def nextInstant (s : Rehearsal) : Option Nat :=
  (s.pending.map (·.due) ++ s.client.timers).min?

/-- Moves the clock to an instant and performs what happens there. -/
def moveTo (s : Rehearsal) (t : Nat) : Rehearsal :=
  (s.perform (.elapse (t - s.client.now))).settle

/-- Lets time pass until an instant, at most `fuel` of those where something happens. -/
def passUntil (t : Nat) : Nat → Rehearsal → Rehearsal
  | 0, s => s.moveTo t
  | fuel + 1, s =>
    match s.nextInstant with
    | some next => if next ≤ t then passUntil t fuel (s.moveTo next) else s.moveTo t
    | none => s.moveTo t

/-- Lets time pass until a request has its outcome. -/
def passWhileLive (n : Nat) : Nat → Rehearsal → Rehearsal
  | 0, s => s
  | fuel + 1, s =>
    match s.client.request? n with
    | some r =>
      if r.isLive then
        match s.nextInstant with
        | some next => passWhileLive n fuel (s.moveTo next)
        | none => s
      else s
    | none => s

/-! ## Scenes -/

structure Call where
  statement : Statement
  /-- Without a draft the client's defaults are used. -/
  options : Option OptionsDraft := none
  /-- Whether the caller can give the request up. -/
  cancellable : Bool := true
  cancelAt : Option Nat := none
  /-- Reports of the connection layer, by milliseconds after the start. -/
  during : List (Nat × ConnectionEvent) := []

inductive Scene where
  | execute (call : Call)
  | spawn (name : String) (call : Call)
  | join (name : String)
  | cancel (name : String)
  | sleep (millis : Nat)
  /-- Reports several events in a row, the whole list several times over. -/
  | reports (events : List ConnectionEvent) (times : Nat)
  | refresh
  | addHost (a : Address)
  | setReplicationFactor (keyspace : String) (factor : Nat)
  /-- Gives hosts new scripts, and the cluster a new topology. -/
  | replaceScripts (attempts probes : Script) (peers : Option (Except Failure (List Peer)))
  | shutdown

inductive Shown where
  | nothing
  | outcome (o : Outcome)
  | updated (u : TopologyUpdate)
  | flag (b : Bool)

def begin (s : Rehearsal) (call : Call) : Started × Rehearsal :=
  let built : Except Failure ExecutionOptions := match call.options with
    | none => .ok s.client.defaults.options
    | some draft => draft.build s.client.defaults
  let start := s.client.now
  let arranged := call.during.map fun (t, e) => Pending.mk (start + sleepOf t) (.report e)
  match built with
  | .error f => (.error f, { s with pending := s.pending ++ arranged })
  | .ok options =>
    let n := s.client.requests.length
    let giveUp := (call.cancelAt.filter fun _ => call.cancellable).toList.map fun t =>
      Pending.mk (start + sleepOf t) (.cancel n)
    (.ok n, { s with pending := s.pending ++ arranged ++ giveUp }.perform
      (.submit call.statement options))

def await (s : Rehearsal) (started : Started) : Shown × Rehearsal :=
  match started with
  | .error f => (.outcome (.failure f), s)
  | .ok n =>
    let s := passWhileLive n patience s
    match (s.client.request? n).bind (·.outcome) with
    | some o => (.outcome o, s)
    | none => (.nothing, s)

/-- Performs a scene up to the point where nothing is left to do at its last instant. -/
def play (s : Rehearsal) : Scene → Shown × Rehearsal
  | .execute call =>
    let (started, s) := s.begin call
    s.settle.await started
  | .spawn name call =>
    let (started, s) := s.begin call
    (.nothing, { s with names := (name, started, call.cancellable) :: s.names }.settle)
  | .join name =>
    match s.names.lookup name with
    | some (started, _) => s.await started
    | none => (.nothing, s)
  | .cancel name =>
    match s.names.lookup name with
    | some (.ok n, true) => (.nothing, (s.perform (.cancel n)).settle)
    | _ => (.nothing, s)
  | .sleep millis => (.nothing, passUntil (s.client.now + sleepOf millis) patience s)
  | .reports events times =>
    let all := (List.replicate times events).flatten
    (.nothing, (all.foldl (fun s e => s.perform (.report e)) s).settle)
  | .refresh =>
    match s.peers with
    | .error f => (.outcome (.failure f), s)
    | .ok peers =>
      let (update, client) := s.client.refresh (s.client.policies.translator.answers peers)
      (.updated update, { s with client := client }.attendAll.settle)
  | .addHost a => (.nothing, (s.perform (.addHost a)).settle)
  | .setReplicationFactor keyspace factor =>
    (.nothing, s.perform (.setReplicationFactor keyspace factor))
  | .replaceScripts attempts probes peers =>
    (.nothing, { s with
      attempts := s.attempts.replace attempts
      probes := s.probes.replace probes
      peers := peers.getD s.peers })
  | .shutdown => let s := (s.perform .shutdown).settle; (.flag s.client.reconnector.stopped, s)

def since (s : Rehearsal) (old : Nat) : List (Moment ClientEvent) :=
  (s.client.journal.take (s.client.journal.length - old)).reverse

end Rehearsal

end CqlDispatch
