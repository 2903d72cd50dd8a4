import CqlDispatch.Failure
/-!
# Admission

How many attempts may be under way on one host.  Every attempt takes a slot of its host before it
is sent.  When all are taken it waits in a bounded queue, and when that is full it is turned away.
A slot that is given back goes straight to the attempt that has waited longest.  Attempts notice
that their wait is over in the order in which the waits ended (`Admission.ended`).

`Admission` keeps a pool for every address that was asked for.  Attempts are known by tickets, each
used once, so what happens to an old ticket after its pool was removed touches no later pool of the
same address.  No pool has more than `mostSlots` slots: with a limit above that none is ever made.
-/
namespace CqlDispatch

/-- The mark of one attempt in the admission of a host. -/
abbrev Ticket := Nat

structure Limits where
  maxInFlight : Nat := 2048
  maxQueued : Nat := 256
  deriving DecidableEq, Repr

/-- The most slots that a pool can have. -/
def mostSlots : Nat := 2305843009213693951

structure Pool where
  /-- Holders of a slot, also those to whom it was handed while they waited. -/
  held : List Ticket := []
  /-- Holders who have not noticed yet that their wait is over. -/
  granted : List Ticket := []
  /-- In the order of arrival. -/
  waiting : List Ticket := []
  deriving DecidableEq, Repr

namespace Pool

def queued (p : Pool) : Nat := p.waiting.length + p.granted.length

/-- Hands free slots to those who wait, longest first. -/
def handOver (limits : Limits) (p : Pool) : Pool :=
  match p.waiting with
  | [] => p
  | t :: rest =>
    if p.held.length < limits.maxInFlight then
      { held := p.held ++ [t], granted := p.granted ++ [t], waiting := rest }
    else p

/-- Takes a holder out and hands its slot over. -/
def free (limits : Limits) (p : Pool) (t : Ticket) : Pool :=
  { p with held := p.held.filter (· != t), granted := p.granted.filter (· != t) }.handOver limits

end Pool

structure Admission where
  limits : Limits := {}
  pools : List (Address × Pool) := []
  nextTicket : Ticket := 0
  /-- Waits that are over but not yet noticed, the first to end first. -/
  ended : List Ticket := []
  deriving DecidableEq, Repr

/-- What an attempt is told when it asks for a slot. -/
inductive Admittance where
  | granted
  | queued
  | turnedAway (failure : Failure)
  /-- There cannot be a pool with so many slots. -/
  | overflow
  deriving DecidableEq, Repr

/-- What a waiting attempt finds when it looks again. -/
inductive WaitResult where
  | granted
  | waiting
  | closed (failure : Failure)
  deriving DecidableEq, Repr

namespace Admission

def pool? (a : Admission) (host : Address) : Option Pool := a.pools.lookup host

def pool (a : Admission) (host : Address) : Pool := (a.pool? host).getD {}

def inFlight (a : Admission) (host : Address) : Nat := (a.pool host).held.length
def queued (a : Admission) (host : Address) : Nat := (a.pool host).queued

def setPool (a : Admission) (host : Address) (p : Pool) : Admission :=
  { a with pools := (host, p) :: a.pools.filter (·.1 != host) }

/-- Changes the pool of a host where there is one; waits that end with it are remembered. -/
def changePool (a : Admission) (host : Address) (f : Pool → Pool) : Admission :=
  match a.pool? host with
  | some p =>
    let q := f p
    { a.setPool host q with ended := a.ended ++ q.granted.filter (· ∉ p.granted) }
  | none => a

def noticed (a : Admission) (t : Ticket) : Admission := { a with ended := a.ended.filter (· != t) }

def busy (a : Admission) (host : Address) : Failure := .busy host a.limits.maxInFlight

def closed (host : Address) : Failure :=
  .connection ("request slots for " ++ host.text ++ " closed")

/-- Asks for a slot under a new ticket; the pool of the host begins with the first question. -/
def acquire (a : Admission) (host : Address) : Ticket × Admittance × Admission :=
  let t := a.nextTicket
  let a := { a with nextTicket := t + 1 }
  let p := a.pool host
  if mostSlots < a.limits.maxInFlight then (t, .overflow, a)
  else if p.held.length < a.limits.maxInFlight then
    (t, .granted, a.setPool host { p with held := p.held ++ [t] })
  else if p.queued < a.limits.maxQueued then
    (t, .queued, a.setPool host { p with waiting := p.waiting ++ [t] })
  else (t, .turnedAway (a.busy host), a.setPool host p)

/-- Lets a waiting attempt look again.  Its wait is over when it was handed a slot, or when the
pool it waited in is gone. -/
def resume (a : Admission) (host : Address) (t : Ticket) : WaitResult × Admission :=
  let p := a.pool host
  if t ∈ p.granted then
    (.granted, (a.setPool host { p with granted := p.granted.filter (· != t) }).noticed t)
  else if t ∈ p.waiting then (.waiting, a)
  else (.closed (closed host), a.noticed t)

def canResume (a : Admission) (host : Address) (t : Ticket) : Bool := t ∉ (a.pool host).waiting

def release (a : Admission) (host : Address) (t : Ticket) : Admission :=
  a.changePool host fun p => if t ∈ p.held then p.free a.limits t else p

/-- Takes a waiting attempt out of the queue; a slot it was handed meanwhile goes on. -/
def cancel (a : Admission) (host : Address) (t : Ticket) : Admission :=
  (a.changePool host fun p =>
    if t ∈ p.granted then p.free a.limits t
    else { p with waiting := p.waiting.filter (· != t) }).noticed t

/-- Drops the pool of a host that is gone.  Whoever waited in it is let down, and slots still held
count for nobody. -/
def remove (a : Admission) (host : Address) : Admission :=
  { a with
    pools := a.pools.filter (·.1 != host)
    ended := a.ended ++ (a.pool host).waiting }

end Admission

end CqlDispatch
