import CqlDispatch.Registry
/-!
# Query plans

The hosts to try for one request, in order, handed out one at a time.  A plan is lazy: whether a
host is up is asked when the plan comes to it, so a plan that is half used up follows what happens
to the hosts meanwhile.

`Plan.step` does the least piece of work: it takes one host off one of the plan's lists and either
yields it or passes over it.  Every step makes the plan smaller (`size_step`), and `Plan.pull`
steps until a host is yielded or nothing is left.
-/
namespace CqlDispatch

inductive Plan where
  /-- These hosts, whatever their state. -/
  | listed (hosts : List HostId)
  /-- Those of these hosts that are up when their turn comes. -/
  | walk (hosts : List HostId)
  /-- The hosts of another plan whose address is allowed. -/
  | among (allowed : List Address) (inner : Plan)
  /-- The hosts of another plan, those with a pending address first.  Hosts met on the way to them
  are deferred until no address is pending or the other plan is at its end. -/
  | replicasFirst (pending : List Address) (deferred : List HostId) (inner : Plan)
  deriving DecidableEq, Repr, Inhabited

namespace Plan

def empty : Plan := .listed []

/-- What a step found at a host: the host if it is up. -/
def ifUp (r : Registry) (h : HostId) : Option HostId := if r.isUp h then some h else none

/-- Takes one host off the plan and yields it or passes over it; `none` at the end. -/
def step (r : Registry) : Plan → Option (Option HostId × Plan)
  | listed [] => none
  | listed (h :: rest) => some (some h, listed rest)
  | walk [] => none
  | walk (h :: rest) => some (ifUp r h, walk rest)
  | among allowed inner =>
    match step r inner with
    | none => none
    | some (found, inner) =>
      some (found.filter fun h => (r.host h).address ∈ allowed, among allowed inner)
  | replicasFirst [] (h :: deferred) inner => some (ifUp r h, replicasFirst [] deferred inner)
  | replicasFirst [] [] inner =>
    match step r inner with
    | none => none
    | some (found, inner) => some (found, replicasFirst [] [] inner)
  | replicasFirst (a :: pending) deferred inner =>
    match step r inner with
    | none => some (none, replicasFirst [] deferred inner)
    | some (none, inner) => some (none, replicasFirst (a :: pending) deferred inner)
    | some (some h, inner) =>
      let here := (r.host h).address
      if here ∈ a :: pending then
        some (some h, replicasFirst ((a :: pending).filter (· != here)) deferred inner)
      else some (none, replicasFirst (a :: pending) (deferred ++ [h]) inner)

/-- The number of steps that a plan can still take, at most. -/
def size : Plan → Nat
  | listed hosts => hosts.length
  | walk hosts => hosts.length
  | among _ inner => inner.size
  | replicasFirst pending deferred inner =>
    (if pending.isEmpty then 0 else 1) + deferred.length + 2 * inner.size

theorem size_step {r : Registry} {p q : Plan} {found : Option HostId}
    (h : p.step r = some (found, q)) : q.size < p.size := by
  induction p generalizing found q with
  | listed hosts =>
    cases hosts with
    | nil => simp [step] at h
    | cons x rest => simp only [step, Option.some.injEq, Prod.mk.injEq] at h; simp [← h.2, size]
  | walk hosts =>
    cases hosts with
    | nil => simp [step] at h
    | cons x rest => simp only [step, Option.some.injEq, Prod.mk.injEq] at h; simp [← h.2, size]
  | among allowed inner ih =>
    cases hs : step r inner with
    | none => simp [step, hs] at h
    | some out =>
      simp only [step, hs, Option.some.injEq, Prod.mk.injEq] at h
      have := ih hs
      simpa [← h.2, size] using this
  | replicasFirst pending deferred inner ih =>
    cases pending with
    | nil =>
      cases deferred with
      | nil =>
        cases hs : step r inner with
        | none => simp [step, hs] at h
        | some out =>
          simp only [step, hs, Option.some.injEq, Prod.mk.injEq] at h
          have := ih hs
          simp only [← h.2, size, List.isEmpty_nil, if_true, List.length_nil]
          omega
      | cons x rest =>
        simp only [step, Option.some.injEq, Prod.mk.injEq] at h
        simp only [← h.2, size, List.isEmpty_nil, if_true, List.length_cons]
        omega
    | cons a pending =>
      cases hs : step r inner with
      | none =>
        simp only [step, hs, Option.some.injEq, Prod.mk.injEq] at h
        simp [← h.2, size]
      | some out =>
        obtain ⟨met, rest⟩ := out
        have := ih hs
        cases met with
        | none =>
          simp only [step, hs, Option.some.injEq, Prod.mk.injEq] at h
          simp only [← h.2, size]
          omega
        | some x =>
          simp only [step, hs] at h
          split at h
          · simp only [Option.some.injEq, Prod.mk.injEq] at h
            simp only [← h.2, size, List.isEmpty_cons]
            split <;> simp <;> omega
          · simp only [Option.some.injEq, Prod.mk.injEq] at h
            simp only [← h.2, size, List.isEmpty_cons, List.length_append, List.length_cons,
              List.length_nil]
            omega

/-- At most `n` steps, until a host is yielded. -/
def pullWithin (r : Registry) : Nat → Plan → Option HostId × Plan
  | 0, p => (none, p)
  | n + 1, p =>
    match p.step r with
    | none => (none, p)
    | some (some h, p) => (some h, p)
    | some (none, p) => pullWithin r n p

/-- The next host of the plan and what is left of it. -/
def pull (r : Registry) (p : Plan) : Option HostId × Plan := pullWithin r p.size p

/-- Every host that the plan still yields while nothing else happens. -/
def drain (r : Registry) : Nat → Plan → List HostId
  | 0, _ => []
  | n + 1, p =>
    match p.pull r with
    | (none, _) => []
    | (some h, p) => h :: drain r n p

def toList (r : Registry) (p : Plan) : List HostId := drain r p.size p

end Plan

end CqlDispatch
