import Mathlib.Data.List.Forall2
import Mathlib.Data.List.Iterate
import CqlDispatch.Proofs.Balancer.Rota
import CqlDispatch.Proofs.Cluster.Datacenters
import CqlDispatch.Proofs.Cluster.Ranking
import CqlDispatch.Proofs.LatinSquare
/-!
# Hosts taking turns

While operations go on that leave the topology as it is, plans are made among them.  Each is read off the rota of
the balancer and moves it on by one place (`Settled.perform_rota`), and nothing else moves it.  So plans in a row
list their hosts by rotations in a row, and as many of them as there are hosts have every host once at every
place (`plans_latinSquare`).
-/
namespace CqlDispatch
namespace Cluster

/-- The plan that an operation makes, with the cluster as it is then. -/
def planOf (c : Cluster) : Operation → Option (Plan × Cluster)
  | .plan keyspace options => some (c.plan keyspace options)
  | _ => none

/-- The plans that are made among operations, in order. -/
def plansMade (c : Cluster) : List Operation → List (Plan × Cluster)
  | [] => []
  | o :: ops => (c.planOf o).toList ++ plansMade (c.perform o) ops

/-- A plan lists these hosts, in this order. -/
structure Reads (made : Plan × Cluster) (row : List HostId) : Prop where
  /-- Read to its end at once, it yields those of them that are up. -/
  list (r : Registry) : made.1.toList r = row.filter r.isUp
  /-- Pulled while operations go on, it yields all of them and then none, if they are up at every pull. -/
  pulled (turns : List Turn) : (∀ x ∈ course made.2 made.1 turns, ∀ h ∈ row, x.1.isUp h = true) →
    ∀ (j : Nat) x, (course made.2 made.1 turns)[j]? = some x → x.2 = row[j]?

/-- The registered hosts at a distance. -/
def hostsAt (c : Cluster) (distance : Distance) : List HostId :=
  c.registry.topology.ids.filter fun h => (c.balancer.distance c.registry (c.registry.host h)).1 = distance

/-! ## Walks -/

theorem pull_walk_up {r : Registry} {y : HostId} (l : List HostId) (up : r.isUp y = true) :
    (Plan.walk (y :: l)).pull r = (some y, .walk l) := by
  have hs : (Plan.walk (y :: l)).step r = some (some y, .walk l) := by
    rw [Plan.step, Plan.ifUp, if_pos up]
  rw [Plan.pull, Plan.size, List.length_cons, Plan.pullWithin, hs]

theorem course_walk_up : ∀ (turns : List Turn) {c : Cluster} {l : List HostId},
    (∀ x ∈ course c (.walk l) turns, ∀ h ∈ l, x.1.isUp h = true) →
      ∀ (j : Nat) x, (course c (.walk l) turns)[j]? = some x → x.2 = l[j]?
  | [], _, _, _, j, x, hx => by cases hx
  | .operate o :: turns, c, l, up, j, x, hx => course_walk_up turns up j x hx
  | .pull :: turns, c, [], up, j, x, hx => by
    cases j with
    | zero =>
      obtain rfl := Option.some.inj hx
      rfl
    | succ j => exact course_walk_up turns (l := []) (fun _ _ h hh => absurd hh List.not_mem_nil) j x hx
  | .pull :: turns, c, y :: l, up, j, x, hx => by
    have first : c.registry.isUp y = true := up _ List.mem_cons_self y List.mem_cons_self
    rw [course, pull_walk_up l first] at up hx
    cases j with
    | zero =>
      obtain rfl := Option.some.inj hx
      rfl
    | succ j =>
      exact course_walk_up turns (fun z hz h hh => up z (List.mem_cons_of_mem _ hz) h (List.mem_cons_of_mem y hh)) j x hx

theorem reads_walk (c : Cluster) (l : List HostId) : Reads (.walk l, c) l :=
  ⟨fun r => (Plan.lists_walk r l).toList_eq, fun turns => course_walk_up turns⟩

/-! ## The run -/

theorem Changes.version_le {c c' : Cluster} (hc : Changes c c') (w : c.registry.WellFormed) :
    c.registry.topology.version ≤ c'.registry.topology.version :=
  (hc.topology_cases w).elim Nat.le_of_lt fun same => Nat.le_of_eq (congrArg _ same.1).symm

/-- **An operation that makes a plan reads the rota and moves it on by one place**, any other one leaves it. -/
theorem Settled.perform_rota {c : Cluster} (settled : c.Settled) {s : Rota}
    (hs : c.balancer.rota? c.registry = some s) {o : Operation}
    (same : (c.perform o).registry.topology.version = c.registry.topology.version) :
    (∀ made ∈ c.planOf o, made.1 = .walk s.order) ∧
      (c.perform o).balancer.rota? (c.perform o).registry = some (Rota.next^[(c.planOf o).toList.length] s) := by
  obtain ⟨topology, hosts⟩ :=
    ((perform_changes c o).topology_cases settled.wellFormed).resolve_left (by omega)
  rw [Balancer.rota?_congr topology hosts]
  cases hq : o.question? with
  | none =>
    have plain : c.planOf o = none := by
      cases o with
      | plan | distance => cases hq
      | add | report | startReconnecting | refresh | refreshDistances | classifyBy | setReplicationFactor
        | initBalancer => rfl
    rw [plain, ← Balancer.rota?_forget, forget_perform (fun _ => settled) hq, Balancer.rota?_forget]
    exact ⟨fun _ h => (by cases h), hs⟩
  | some q =>
    cases o with
    | plan keyspace options =>
      obtain ⟨hplan, hnext⟩ := settled.bound.plan_rota hs keyspace options
      exact ⟨fun made hmade => Option.some.inj hmade ▸ hplan, hnext⟩
    | distance h =>
      refine ⟨fun _ h => (by cases h), ?_⟩
      show (c.balancer.distance c.registry h).2.rota? c.registry = some s
      rw [← Balancer.rota?_forget, Balancer.forget_distance, Balancer.rota?_forget, hs]
    | add | report | startReconnecting | refresh | refreshDistances | classifyBy | setReplicationFactor
      | initBalancer => cases hq

/-- **Plans read one rota after the other.** -/
theorem Settled.plansMade_walk : ∀ (ops : List Operation) {c : Cluster} {s : Rota}, c.Settled →
    c.balancer.rota? c.registry = some s →
    (c.performAll ops).registry.topology.version = c.registry.topology.version →
      List.Forall₂ (fun made s' => made.1 = .walk s'.order) (c.plansMade ops)
        (List.iterate Rota.next s (c.plansMade ops).length)
  | [], _, _, _, _, _ => .nil
  | o :: ops, c, s, settled, hs, same => by
    have next := settled.perform o
    have first := (perform_changes c o).version_le settled.wellFormed
    have rest := (performAll_changes ops (c.perform o)).version_le next.wellFormed
    have same' : ((c.perform o).performAll ops).registry.topology.version = c.registry.topology.version := same
    obtain ⟨hplan, hnext⟩ := settled.perform_rota hs (o := o) (by omega)
    have ih := next.plansMade_walk ops hnext (by omega)
    rw [plansMade, List.length_append, List.iterate_add]
    refine List.rel_append ?_ ih
    cases hmade : c.planOf o with
    | none => exact .nil
    | some made => exact .cons (hplan made hmade) .nil

/-- Before the counter wraps, plans in a row read rotations in a row. -/
theorem Settled.plansMade_reads {ops : List Operation} {c : Cluster} {s : Rota} (settled : c.Settled)
    (hs : c.balancer.rota? c.registry = some s)
    (same : (c.performAll ops).registry.topology.version = c.registry.topology.version)
    (fits : s.turn.toNat + (c.plansMade ops).length ≤ UInt64.size) :
    List.Forall₂ (fun made k =>
        Reads made (s.near.rotate (s.turn.toNat + k) ++ s.remote.rotate (s.turn.toNat + k)))
      (c.plansMade ops) (List.range (c.plansMade ops).length) := by
  have walks := settled.plansMade_walk ops hs same
  rw [← List.range_map_iterate, List.forall₂_map_right_iff, List.forall₂_iff_zip] at walks
  refine List.forall₂_iff_zip.2 ⟨walks.1, fun {made k} hm => ?_⟩
  have hk : k < (c.plansMade ops).length := List.mem_range.1 (List.of_mem_zip hm).2
  obtain ⟨p, c'⟩ := made
  obtain rfl : p = .walk _ := walks.2 hm
  rw [s.order_iterate_next (by omega)]
  exact reads_walk c' _

/-- The two parts of the split are the hosts at the two distances. -/
theorem Settled.hostsAt_split {c : Cluster} (settled : c.Settled) {d : DcAware} (hb : c.balancer = .dcAware d) :
    c.hostsAt .near = (d.split c.registry).near ∧ (d.split c.registry).remote.Perm (c.hostsAt .remote) := by
  have bound := settled.bound
  rw [hb] at bound
  rw [hostsAt, hostsAt, hb]
  exact ⟨bound.near_eq.symm, bound.remote_perm settled.wellFormed⟩

/-- **Plans in a row share out their places evenly.**  The balancer was initialized, and whatever operations go on
leave the topology as it is; the plans are those made among them, before the counter of the balancer wraps.  As
many of them as there are hosts, made by the round robin, have every host once at every place.  The plans of a
datacenter-aware balancer have a local and a remote part, and so it is in either part alone: as many plans as
there are hosts in it have every one of these once at every place of that part. -/
theorem plans_latinSquare {b : Balancer} (fresh : b.Fresh) {c : Cluster} (reached : Reached b c) (ops : List Operation)
    (same : (c.performAll ops).registry.topology.version = c.registry.topology.version) :
    let made := c.plansMade ops
    (∀ binding turn, c.balancer = .roundRobin binding turn → turn.toNat + made.length ≤ UInt64.size →
      made.length = c.registry.topology.ids.length →
        ∃ rows, List.Forall₂ Reads made rows ∧ LatinSquare c.registry.topology.ids rows) ∧
    (∀ d, c.balancer = .dcAware d → d.turn.toNat + made.length ≤ UInt64.size →
      ∃ rows : List (List HostId × List HostId),
        List.Forall₂ (fun plan row => Reads plan (row.1 ++ row.2)) made rows ∧
        (∀ row ∈ rows, row.1.Perm (c.hostsAt .near) ∧ row.2.Perm (c.hostsAt .remote)) ∧
        (made.length = (c.hostsAt .near).length → LatinSquare (c.hostsAt .near) (rows.map (·.1))) ∧
        (made.length = (c.hostsAt .remote).length → LatinSquare (c.hostsAt .remote) (rows.map (·.2)))) := by
  intro made
  have settled := reached.settled fresh
  have distinct := settled.wellFormed.ids_nodup
  constructor
  · intro binding turn hb fits count
    by_cases hosts : c.registry.topology.ids.isEmpty = true
    · rw [List.isEmpty_iff.1 hosts] at count ⊢
      rw [List.eq_nil_of_length_eq_zero count]
      exact ⟨[], .nil, latinSquare_rotate .nil 0⟩
    · have hs : c.balancer.rota? c.registry = some ⟨c.registry.topology.ids, [], turn⟩ := by
        rw [hb, Balancer.rota?, if_neg hosts]
      have reads := settled.plansMade_reads hs same fits
      simp only [List.rotate_nil, List.append_nil] at reads
      refine ⟨_, List.forall₂_map_right_iff.2 reads, ?_⟩
      rw [show (c.plansMade ops).length = _ from count]
      exact latinSquare_rotate distinct turn.toNat
  · intro d hb fits
    obtain ⟨near, remote⟩ := settled.hostsAt_split hb
    have hs : c.balancer.rota? c.registry = some ⟨_, _, d.turn⟩ := congrArg (Balancer.rota? c.registry) hb
    have reads := settled.plansMade_reads hs same fits
    let row (k : Nat) : List HostId × List HostId :=
      ((d.split c.registry).near.rotate (d.turn.toNat + k), (d.split c.registry).remote.rotate (d.turn.toNat + k))
    refine ⟨(List.range made.length).map row, List.forall₂_map_right_iff.2 reads, ?_, ?_, ?_⟩
    · intro x hx
      obtain ⟨k, -, rfl⟩ := List.mem_map.1 hx
      rw [near]
      exact ⟨List.rotate_perm _ _, (List.rotate_perm _ _).trans remote⟩
    · intro count
      rw [near] at count ⊢
      rw [List.map_map, count]
      exact latinSquare_rotate (distinct.filter _) d.turn.toNat
    · intro count
      rw [← remote.length_eq] at count
      rw [List.map_map, count]
      exact (latinSquare_rotate (DcAware.remote_nodup settled.wellFormed) d.turn.toNat).of_perm remote

/-- The second of the datacenters is local, and one host of each other one is used. -/
def secondLocal : DcAware := { configured := some "b", perRemoteDc := 1 }

/-- Two plans, and between them a host that goes down and a question for its distance. -/
def twoPlans : List Operation :=
  [.plan none ({} : QueryDefaults).options, .report (.hostDown ⟨.v4 3, 0⟩ "reset"),
    .distance { address := ⟨.v4 3, 0⟩ }, .plan none ({} : QueryDefaults).options]

theorem four_hosts_take_turns :
    let around := performAll { balancer := .roundRobin none 0 } (fourHosts ++ [.initBalancer])
    let across := performAll { balancer := .dcAware secondLocal } (fourHosts ++ [.initBalancer])
    (∃ rows, List.Forall₂ Reads (around.plansMade (twoPlans ++ twoPlans)) rows ∧ LatinSquare [0, 1, 2, 3] rows) ∧
      ∃ rows : List (List HostId × List HostId),
        List.Forall₂ (fun plan row => Reads plan (row.1 ++ row.2)) (across.plansMade twoPlans) rows ∧
          LatinSquare [1, 2] (rows.map (·.1)) ∧ LatinSquare [0, 3] (rows.map (·.2)) := by
  have ready (b : Balancer) : Reached b (performAll { balancer := b } (fourHosts ++ [.initBalancer])) :=
    ⟨0, _, List.mem_append_right fourHosts (List.mem_singleton_self _), rfl⟩
  intro around across
  have everyone : around.registry.topology.ids = [0, 1, 2, 3] := by decide +kernel
  have near : across.hostsAt .near = [1, 2] := by decide +kernel
  have remote : across.hostsAt .remote = [0, 3] := by decide +kernel
  have resolved : across.balancer = .dcAware { secondLocal with localDc := some (some "b"), binding := some 0 } := by
    decide +kernel
  constructor
  · have fresh : (Balancer.roundRobin none 0).Fresh := rfl
    have turns := (plans_latinSquare fresh (ready _) (twoPlans ++ twoPlans) (by decide +kernel)).1
      (some 0) 0 (by decide +kernel) (by decide +kernel) (by decide +kernel)
    rwa [everyone] at turns
  · have fresh : (Balancer.dcAware secondLocal).Fresh := ⟨rfl, rfl, rfl⟩
    obtain ⟨rows, reads, -, hnear, hremote⟩ := (plans_latinSquare fresh (ready _) twoPlans (by decide +kernel)).2
      _ resolved (by decide +kernel)
    rw [near] at hnear
    rw [remote] at hremote
    exact ⟨rows, reads, hnear (by decide +kernel), hremote (by decide +kernel)⟩

end Cluster
end CqlDispatch
