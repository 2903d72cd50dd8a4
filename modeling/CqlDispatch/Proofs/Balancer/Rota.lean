import CqlDispatch.Proofs.Balancer.Datacenters
/-!
# Whose turn it is

Two balancers have hosts take turns: the round robin all registered ones, the datacenter-aware balancer the local
ones and, apart from them, the remote ones.  Both keep one counter, begin a plan where it points to, and move it
on by one; what is left of the two when all else is forgotten is a `Rota`.
-/
namespace CqlDispatch

/-- What a balancer reads its next plan from: the hosts in front, those behind them, and the counter that says
where to begin in either list. -/
structure Rota where
  near : List HostId
  remote : List HostId
  turn : UInt64

namespace Rota

def order (s : Rota) : List HostId := s.near.rotate s.turn.toNat ++ s.remote.rotate s.turn.toNat

def next (s : Rota) : Rota := { s with turn := s.turn + 1 }

theorem iterate_next (s : Rota) : ∀ k : Nat, next^[k] s = { s with turn := s.turn + UInt64.ofNat k }
  | 0 => by simp
  | k + 1 => by
    rw [Function.iterate_succ_apply', iterate_next s k, next, UInt64.ofNat_add, ← UInt64.add_assoc]
    rfl

/-- Before the counter wraps, each plan begins one host further than the one before. -/
theorem order_iterate_next (s : Rota) {k : Nat} (fits : s.turn.toNat + k < UInt64.size) :
    (next^[k] s).order = s.near.rotate (s.turn.toNat + k) ++ s.remote.rotate (s.turn.toNat + k) := by
  have counter : (s.turn + UInt64.ofNat k).toNat = s.turn.toNat + k := by
    have small : k < UInt64.size := by omega
    rw [UInt64.toNat_add, UInt64.toNat_ofNat_of_lt' small, Nat.mod_eq_of_lt fits]
  rw [iterate_next, order, counter]

end Rota

namespace Balancer

/-- The rota of a balancer that has hosts take turns.  One without hosts has nobody take a turn. -/
def rota? (r : Registry) : Balancer → Option Rota
  | roundRobin _ turn => if r.topology.ids.isEmpty then none else some ⟨r.topology.ids, [], turn⟩
  | dcAware d => some ⟨(d.split r).near, (d.split r).remote, d.turn⟩
  | tokenAware _ _ | allowList _ _ | everyHost _ => none

theorem rota?_forget (r : Registry) (b : Balancer) : b.forget.rota? r = b.rota? r := by
  cases b <;> rfl

/-- A rota is read off the members and what is known about them. -/
theorem rota?_congr {r r' : Registry} (topology : r'.topology = r.topology)
    (hosts : ∀ h, (r'.host h).address = (r.host h).address ∧ (r'.host h).metadata = (r.host h).metadata)
    (b : Balancer) : b.rota? r' = b.rota? r := by
  cases b with
  | roundRobin binding turn => rw [rota?, rota?, topology]
  | dcAware d => rw [rota?, rota?, d.split_congr topology hosts]
  | tokenAware | allowList | everyHost => rfl

/-- **A plan reads the rota**, and the next one begins one host further. -/
theorem Bound.plan_rota {b : Balancer} {r : Registry} (hb : b.Bound r) {s : Rota} (hs : b.rota? r = some s)
    (keyspace : Option String) (options : ExecutionOptions) :
    (b.plan r keyspace options).1 = .walk s.order ∧ (b.plan r keyspace options).2.rota? r = some s.next := by
  cases b with
  | roundRobin binding turn =>
    by_cases hosts : r.topology.ids.isEmpty = true
    · rw [rota?, if_pos hosts] at hs
      cases hs
    · rw [rota?, if_neg hosts] at hs
      obtain rfl := Option.some.inj hs
      unfold Balancer.plan
      rw [show binding = some r.id from hb, boundTo_self]
      dsimp only
      rw [if_neg hosts, rotation_eq_rotate, Rota.order, List.rotate_nil, List.append_nil]
      exact ⟨rfl, if_neg hosts⟩
  | dcAware d =>
    obtain rfl := Option.some.inj hs
    obtain ⟨hplan, hnext⟩ := hb.plan_eq
    refine ⟨hplan, ?_⟩
    show (dcAware (d.plan r).2).rota? r = _
    rw [← rota?_forget, forget, hnext]
    rfl
  | tokenAware | allowList | everyHost => cases hs

end Balancer

end CqlDispatch
