import CqlDispatch.Backoff
import CqlDispatch.Cluster
/-!
# Reconnection

Hosts that are down are probed in the background.  The reconnector listens to the events of the
registry: a host that goes down and is not ignored gets a series, which walks a fresh schedule of
the backoff policy and probes the host after each delay until a probe succeeds or the schedule runs
out.  A host that comes up by other means or is removed has its series cancelled.  A host whose
schedule ran out gets no new series before it has been up or removed.

The listener's mailbox keeps the last `mailbox` events.  A listener that falls further behind skips
what is lost and looks at the registry itself instead (`resync`).

A series is a task of its own: it has a number, and each function below is one of its steps between
two waits.  It looks at whether it was cancelled only as it waits, beside what it waits for; where both
are ready it may do either.  So may the listener, where it was stopped and has events left.
-/
namespace CqlDispatch

/-- How many events are kept for a slow listener. -/
def mailbox : Nat := 256

inductive SeriesPhase where
  | created
  | waiting (wake : Nat)
  | probing
  | over
  deriving DecidableEq, Repr

structure Series where
  host : HostId
  address : Address
  schedule : Schedule
  phase : SeriesPhase := .created
  cancelled : Bool := false
  probes : Nat := 0

structure Reconnector where
  heard : Nat := 0
  /-- Whether the listener has run at all; it begins by looking at the registry. -/
  awake : Bool := false
  stopped : Bool := false
  /-- The latest series of an address that was not cancelled. -/
  current : List (Address × Nat) := []
  series : List Series := []
  exhausted : List Address := []

namespace Reconnector

def series? (w : Reconnector) (n : Nat) : Option Series := w.series[n]?

def change (w : Reconnector) (n : Nat) (f : Series → Series) : Reconnector :=
  { w with series := w.series.modify n f }

def setPhase (w : Reconnector) (n : Nat) (p : SeriesPhase) : Reconnector :=
  w.change n ({ · with phase := p })

def forget (w : Reconnector) (a : Address) : Reconnector :=
  { w with current := w.current.filter (·.1 != a) }

def cancelSeries (w : Reconnector) (a : Address) : Reconnector :=
  match w.current.lookup a with
  | some n => (w.change n ({ · with cancelled := true })).forget a
  | none => w

/-- Creates a series for a host, unless it is ignored or has one. -/
def spawn (w : Reconnector) (b : Backoff) (r : Registry) (h : HostId) : Reconnector :=
  let host := r.host h
  if host.distance = .ignored then w
  else if (w.current.lookup host.address).isSome then w
  else
    { w with
      current := (host.address, w.series.length) :: w.current
      series := w.series ++
        [{ host := h, address := host.address, schedule := b.schedule w.series.length }] }

/-- Creates a series for every registered host that is down. -/
def resync (w : Reconnector) (b : Backoff) (r : Registry) : Reconnector :=
  (r.topology.ids.filter fun h => (r.host h).state == .down).foldl (fun w h => w.spawn b r h) w

def handle (w : Reconnector) (b : Backoff) (r : Registry) : HostEvent → Reconnector
  | .down a _ =>
    if a ∈ w.exhausted then w.forget a
    else match r.find? a with
      | some h => w.spawn b r h
      | none => w
  | .up a | .removed a =>
    let w := w.cancelSeries a
    { w with exhausted := w.exhausted.filter (· != a) }
  | .added _ | .reconnecting _ => w

def hasNews (w : Reconnector) (r : Registry) : Bool := !w.awake || w.heard < r.log.length

/-- Whether the listener takes another turn for sure: it always looks at the registry at first, and at
events until it is stopped. -/
def isBusy (w : Reconnector) (r : Registry) : Bool := w.hasNews r && !(w.awake && w.stopped)

/-- One turn of the listener: its first look at the registry, the next event, or, when events were
lost, another look. -/
def hear (w : Reconnector) (b : Backoff) (r : Registry) : Reconnector :=
  if !w.awake then { w with awake := true }.resync b r
  else
    let unread := r.log.length - w.heard
    if mailbox < unread then { w with heard := r.log.length - mailbox }.resync b r
    else if unread = 0 then w
    else match r.log[unread - 1]? with
      | some e => { w with heard := w.heard + 1 }.handle b r e
      | none => w

/-- Whether a series can stop at its next wait. -/
def isCancelled (w : Reconnector) (s : Series) : Bool := s.cancelled || w.stopped

/-- Goes on to the next delay.  A schedule that has run out leaves the host down. -/
def nextDelay (w : Reconnector) (c : Cluster) (now n : Nat) (s : Series) : Reconnector × Cluster :=
  match s.schedule.next with
  | some (delay, rest) =>
    (w.change n ({ · with schedule := rest, phase := .waiting (now + delay.sleepTicks) }), c)
  | none =>
    let w := { w with exhausted := s.address :: w.exhausted.filter (· != s.address) }
    (w.setPhase n .over, (c.markDown s.address "reconnection schedule exhausted").2)

def beginSeries (w : Reconnector) (c : Cluster) (now n : Nat) : Reconnector × Cluster :=
  match w.series? n with
  | some s =>
    if s.phase = .created then w.nextDelay (c.startReconnecting s.address).2 now n s else (w, c)
  | none => (w, c)

def quitSeries (w : Reconnector) (n : Nat) : Reconnector :=
  match w.series? n with
  | some s => if w.isCancelled s && s.phase != .created then w.setPhase n .over else w
  | none => w

/-- The end of a delay: the host is probed, unless it was removed. -/
def wakeSeries (w : Reconnector) (r : Registry) (now n : Nat) : Option Address × Reconnector :=
  match w.series? n with
  | some s =>
    match s.phase with
    | .waiting wake =>
      if now < wake then (none, w)
      else if (r.host s.host).state = .removed then (none, w.setPhase n .over)
      else (some s.address, w.change n ({ · with phase := .probing, probes := s.probes + 1 }))
    | _ => (none, w)
  | none => (none, w)

/-- The answer to a probe: the host is up, or the next delay begins. -/
def probed (w : Reconnector) (c : Cluster) (now n : Nat) (answer : Except Failure Unit) :
    Reconnector × Cluster :=
  match w.series? n with
  | some s =>
    if s.phase = .probing then
      match answer with
      | .ok _ => (w.setPhase n .over, (c.markUp s.address).2)
      | .error _ => w.nextDelay c now n s
    else (w, c)
  | none => (w, c)

/-- Stops the listener and cancels every series. -/
def stop (w : Reconnector) : Reconnector := { w with stopped := true }

end Reconnector

end CqlDispatch
