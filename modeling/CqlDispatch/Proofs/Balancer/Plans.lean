import Mathlib.Data.List.Nodup
import CqlDispatch.Proofs.Balancer.Bound
import CqlDispatch.Proofs.NameMap
import CqlDispatch.Proofs.Plan.Offers
/-!
# What plans offer

A plan made by a bound balancer offers exactly the registered hosts that the balancer does not
ignore, each once, however its layers are stacked (`plan_offers`).  Each layer that ranks hosts
lists them by the same rule.
-/
namespace CqlDispatch

open Registry (WellFormed)

theorem rotation_perm {α : Type} (xs : List α) (start : Nat) : (rotation xs start).Perm xs := by
  unfold rotation
  exact List.perm_append_comm.trans (.of_eq (List.take_append_drop _ xs))

namespace DcAware

variable {d : DcAware} {r : Registry}

theorem mem_remote {h : HostId} (hm : h ∈ (d.split r).remote) :
    h ∈ r.topology.ids ∧ d.isLocal (r.host h) = false := by
  obtain ⟨dc, -, hm⟩ := List.mem_flatMap.1 hm
  have hother := (List.mem_filter.1 (List.mem_of_mem_take hm)).1
  obtain ⟨hid, hl⟩ := List.mem_filter.1 hother
  exact ⟨hid, by simpa using hl⟩

theorem mem_near {h : HostId} :
    h ∈ (d.split r).near ↔ h ∈ r.topology.ids ∧ d.isLocal (r.host h) = true :=
  List.mem_filter

theorem remote_nodup (w : r.WellFormed) : (d.split r).remote.Nodup := by
  refine List.nodup_flatMap.2 ⟨fun dc _ => ?_, (NameMap.names_nodup _).imp fun {dc dc'} hne x hx hx' => ?_⟩
  · exact ((w.ids_nodup.filter _).filter _).sublist (List.take_sublist _ _)
  · have hg := (List.mem_filter.1 (List.mem_of_mem_take hx)).2
    have hg' := (List.mem_filter.1 (List.mem_of_mem_take hx')).2
    rw [beq_iff_eq] at hg hg'
    exact hne (hg.symm.trans hg')

/-- The addresses kept beside the remote hosts find these hosts again. -/
theorem mem_remoteAddresses (w : r.WellFormed) {h : HostId} (hm : h ∈ r.topology.ids) :
    (r.host h).address ∈ (d.split r).remoteAddresses ↔ h ∈ (d.split r).remote := by
  constructor
  · intro ha
    obtain ⟨k, hk, hka⟩ := List.mem_map.1 ha
    rwa [← w.address_inj (mem_remote hk).1 hm hka]
  · exact List.mem_map_of_mem

theorem distance_ne_ignored_iff (w : r.WellFormed) (hb : d.binding = some r.id) (hc : d.Current r)
    {h : HostId} (hm : h ∈ r.topology.ids) :
    (d.distance r (r.host h)).1 ≠ .ignored ↔ h ∈ (d.split r).near ∨ h ∈ (d.split r).remote := by
  unfold distance
  rw [mem_near, hb, boundTo_self]
  by_cases hl : d.isLocal (r.host h) = true
  · simp [hl, hm]
  · rw [if_neg hl]
    simp only [(partition_cases hc).1, hl, and_false, false_or, Bool.false_eq_true]
    rw [← mem_remoteAddresses w hm]
    by_cases ha : (r.host h).address ∈ (d.split r).remoteAddresses <;> simp [ha]

theorem near_remote_perm (w : r.WellFormed) (hb : d.binding = some r.id) (hc : d.Current r) :
    ((d.split r).near ++ (d.split r).remote).Perm
      (r.topology.ids.filter fun h => decide ((d.distance r (r.host h)).1 ≠ .ignored)) := by
  have hnodup : ((d.split r).near ++ (d.split r).remote).Nodup := by
    refine List.nodup_append.2 ⟨w.ids_nodup.filter _, remote_nodup w, fun x hx y hy he => ?_⟩
    have hlocal := (mem_near.1 hx).2
    rw [he, (mem_remote hy).2] at hlocal
    cases hlocal
  refine (List.perm_ext_iff_of_nodup hnodup (w.ids_nodup.filter _)).2 fun h => ?_
  rw [List.mem_append, List.mem_filter, decide_eq_true_eq]
  constructor
  · intro hm
    have hid : h ∈ r.topology.ids := hm.elim (fun hn => (mem_near.1 hn).1) (fun hr => (mem_remote hr).1)
    exact ⟨hid, (distance_ne_ignored_iff w hb hc hid).2 hm⟩
  · rintro ⟨hid, hd⟩
    exact (distance_ne_ignored_iff w hb hc hid).1 hd

end DcAware

namespace Balancer

/-- The registered hosts that a balancer does not ignore. -/
def eligible (b : Balancer) (r : Registry) : List HostId :=
  r.topology.ids.filter fun h => decide ((b.distance r (r.host h)).1 ≠ .ignored)

theorem mem_eligible {b : Balancer} {r : Registry} {h : HostId} :
    h ∈ b.eligible r ↔ h ∈ r.topology.ids ∧ (b.distance r (r.host h)).1 ≠ .ignored := by
  rw [eligible, List.mem_filter, decide_eq_true_eq]

theorem careful_of_mem_ids {r : Registry} (w : r.WellFormed) {l : List HostId}
    (hl : ∀ h ∈ l, h ∈ r.topology.ids) : (Plan.walk l).Careful r.hosts.length :=
  fun h hh => w.lt_of_mem (hl h hh)

/-- **A plan offers what its balancer does not ignore**, each host once. -/
theorem plan_offers {r : Registry} (w : r.WellFormed) (keyspace : Option String)
    (options : ExecutionOptions) : ∀ {b : Balancer}, b.Bound r →
      (b.plan r keyspace options).1.Careful r.hosts.length ∧
        ((b.plan r keyspace options).1.offers r).Perm (b.eligible r)
  | roundRobin binding turn, h => by
    have hall : eligible (roundRobin binding turn) r = r.topology.ids := by
      unfold eligible
      exact List.filter_eq_self.2 fun _ _ => by simp [Balancer.distance]
    rw [hall]
    unfold Balancer.plan
    rw [show binding = some r.id from h, boundTo_self]
    simp only
    split
    · rename_i hempty
      rw [List.isEmpty_iff.1 hempty]
      exact ⟨rfl, .refl _⟩
    · have hperm := rotation_perm r.topology.ids turn.toNat
      exact ⟨careful_of_mem_ids w fun x hx => hperm.mem_iff.1 hx, hperm⟩
  | dcAware d, ⟨hb, hl, hc⟩ => by
    have hplan : (Balancer.plan (dcAware d) r keyspace options).1 =
        .walk (rotation (d.split r).near d.turn.toNat ++ rotation (d.split r).remote d.turn.toNat) := by
      have hturn : (d.partition r).2.turn = d.turn := by
        rcases (DcAware.partition_cases hc).2 with he | he <;> rw [he]
      unfold Balancer.plan DcAware.plan
      rw [hb, boundTo_self]
      simp only [(DcAware.partition_cases hc).1, hturn]
    have hperm : (rotation (d.split r).near d.turn.toNat ++ rotation (d.split r).remote d.turn.toNat).Perm
        (eligible (dcAware d) r) :=
      ((rotation_perm _ _).append (rotation_perm _ _)).trans (DcAware.near_remote_perm w hb hc)
    rw [hplan]
    exact ⟨careful_of_mem_ids w fun x hx => (mem_eligible.1 (hperm.mem_iff.1 hx)).1, hperm⟩
  | tokenAware binding child, ⟨hb, hc⟩ => by
    obtain ⟨hcare, hperm⟩ := plan_offers w keyspace options hc
    have hsame : eligible (tokenAware binding child) r = eligible child r := rfl
    rw [hsame]
    unfold Balancer.plan
    simp only
    split
    · split
      · exact ⟨hcare, hperm⟩
      · exact ⟨⟨fun _ hx => absurd hx List.not_mem_nil, hcare⟩, hperm⟩
    · exact ⟨hcare, hperm⟩
  | allowList allowed child, h => by
    obtain ⟨hcare, hperm⟩ := plan_offers w keyspace options (b := child) h
    refine ⟨hcare, (hperm.filter fun x => decide ((r.host x).address ∈ allowed)).trans (.of_eq ?_)⟩
    unfold eligible
    rw [List.filter_filter]
    refine List.filter_congr fun x _ => ?_
    rw [Balancer.distance]
    by_cases ha : (r.host x).address ∈ allowed <;> simp [ha]

end Balancer

end CqlDispatch
