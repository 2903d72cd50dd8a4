import Mathlib.Data.List.Rotate
import CqlDispatch.Proofs.Balancer.Anew
import CqlDispatch.Proofs.Balancer.Plans
/-!
# Hosts by datacenter

A datacenter-aware balancer has the hosts of the local datacenter in front.  Of every other datacenter it uses
the hosts with the lowest addresses, as many as it is set to, and ignores the rest (`Bound.distance_outside`).
Hosts without a datacenter are outside of every local one, and are listed together under the empty name.

The remote hosts of all datacenters make one list, by the name of the datacenter and then by address
(`remote_sorted`).  A plan walks the local list and then this one, each from the place that the one
counter points to (`Bound.plan_walk`).
-/
namespace CqlDispatch

theorem rotation_eq_rotate {α : Type} (xs : List α) (start : Nat) : rotation xs start = xs.rotate start :=
  List.rotate_eq_drop_append_take_mod.symm

/-- What stands in one part of a list without repetitions tells it from the other part. -/
theorem filter_mem_left {α : Type} [DecidableEq α] {a b : List α} (nodup : (a ++ b).Nodup) :
    (a ++ b).filter (· ∈ a) = a ∧ (a ++ b).filter (· ∉ a) = b := by
  have hb : ∀ x ∈ b, x ∉ a := fun x hx ha => (List.nodup_append.1 nodup).2.2 x ha x hx rfl
  rw [List.filter_append, List.filter_append]
  constructor
  · rw [List.filter_eq_self.2 fun x hx => decide_eq_true hx,
      List.filter_eq_nil_iff.2 fun x hx => by simpa using hb x hx, List.append_nil]
  · rw [List.filter_eq_nil_iff.2 fun x hx => by simpa using hx,
      List.filter_eq_self.2 fun x hx => decide_eq_true (hb x hx), List.nil_append]

theorem Registry.WellFormed.ids_sorted {r : Registry} (w : r.WellFormed) :
    r.topology.ids.Pairwise fun h k => (r.host h).address < (r.host k).address := by
  unfold Topology.ids
  rw [List.pairwise_map]
  refine w.sorted.imp_of_mem fun {m n} hm hn hlt => ?_
  rwa [w.placed m hm, w.placed n hn]

namespace DcAware

/-- The registered hosts that are not local and are listed under this datacenter, in the order of their addresses. -/
def outside (d : DcAware) (r : Registry) (dc : String) : List HostId :=
  r.topology.ids.filter fun h => groupName (r.host h) == dc && !d.isLocal (r.host h)

/-- Hosts in the order of their datacenters, and of their addresses within one. -/
def ListedBefore (r : Registry) (x y : HostId) : Prop :=
  groupName (r.host x) < groupName (r.host y) ∨
    groupName (r.host x) = groupName (r.host y) ∧ (r.host x).address < (r.host y).address

variable {d : DcAware} {r : Registry}

theorem isLocal_iff {x : Host} : d.isLocal x = true ↔ ∀ dc ∈ d.local?, x.datacenter = some dc := by
  unfold isLocal
  cases d.local? with
  | none => simp
  | some dc => simp

theorem mem_outside {dc : String} {h : HostId} :
    h ∈ d.outside r dc ↔ h ∈ r.topology.ids ∧ groupName (r.host h) = dc ∧ d.isLocal (r.host h) = false := by
  rw [outside, List.mem_filter, Bool.and_eq_true, beq_iff_eq, Bool.not_eq_true']

theorem outside_sorted (w : r.WellFormed) (dc : String) :
    (d.outside r dc).Pairwise fun h k => (r.host h).address < (r.host k).address :=
  w.ids_sorted.filter _

theorem mem_groups {dc : String} {hosts : List Host} : dc ∈ groups hosts ↔ ∃ x ∈ hosts, groupName x = dc := by
  unfold groups
  rw [NameMap.mem_names_ofList, List.map_map, List.mem_map]
  rfl

theorem groups_sorted (hosts : List Host) : (groups hosts).Pairwise (· < ·) :=
  List.pairwise_map.2 (NameMap.sorted_foldl_insert _ [] .nil)

theorem remote_eq (d : DcAware) (r : Registry) : (d.split r).remote =
    (groups ((r.topology.ids.filter fun h => !d.isLocal (r.host h)).map r.host)).flatMap fun dc =>
      (d.outside r dc).take d.perRemoteDc := by
  unfold split outside
  simp only [List.filter_filter]

/-- **The remote hosts of a datacenter are the first of its hosts.** -/
theorem mem_remote_iff {h : HostId} :
    h ∈ (d.split r).remote ↔ h ∈ (d.outside r (groupName (r.host h))).take d.perRemoteDc := by
  rw [remote_eq, List.mem_flatMap]
  constructor
  · rintro ⟨dc, -, hm⟩
    obtain ⟨-, rfl, -⟩ := mem_outside.1 (List.mem_of_mem_take hm)
    exact hm
  · intro hm
    obtain ⟨hid, -, hl⟩ := mem_outside.1 (List.mem_of_mem_take hm)
    have hother : h ∈ r.topology.ids.filter fun h => !d.isLocal (r.host h) :=
      List.mem_filter.2 ⟨hid, by rw [hl]; rfl⟩
    exact ⟨_, mem_groups.2 ⟨_, List.mem_map_of_mem hother, rfl⟩, hm⟩

/-- **The remote hosts stand in the order of datacenters and addresses.** -/
theorem remote_sorted (w : r.WellFormed) : (d.split r).remote.Pairwise (ListedBefore r) := by
  rw [remote_eq, List.pairwise_flatMap]
  constructor
  · intro dc _
    refine ((outside_sorted w dc).sublist (List.take_sublist _ _)).imp_of_mem fun {x y} hx hy hlt => ?_
    obtain ⟨-, hxdc, -⟩ := mem_outside.1 (List.mem_of_mem_take hx)
    obtain ⟨-, hydc, -⟩ := mem_outside.1 (List.mem_of_mem_take hy)
    exact .inr ⟨hxdc.trans hydc.symm, hlt⟩
  · refine (groups_sorted _).imp fun {dc dc'} hlt x hx y hy => ?_
    obtain ⟨-, rfl, -⟩ := mem_outside.1 (List.mem_of_mem_take hx)
    obtain ⟨-, rfl, -⟩ := mem_outside.1 (List.mem_of_mem_take hy)
    exact .inl hlt

end DcAware

namespace Balancer

open DcAware (outside mem_remote mem_remote_iff mem_near)

variable {d : DcAware} {r : Registry}

/-- **The local hosts are those of the local datacenter**, and all hosts where there is none. -/
theorem Bound.distance_near (hb : (dcAware d).Bound r) (x : Host) :
    (d.distance r x).1 = .near ↔ ∀ dc ∈ d.local?, x.datacenter = some dc := by
  rw [← DcAware.isLocal_iff]
  unfold DcAware.distance
  by_cases hx : d.isLocal x = true
  · rw [if_pos hx]
    exact iff_of_true rfl hx
  · rw [if_neg hx, hb.1, boundTo_self]
    refine iff_of_false ?_ hx
    dsimp only
    split <;> exact Distance.noConfusion

theorem Bound.distance_remote (hb : (dcAware d).Bound r) (w : r.WellFormed) {h : HostId} (hm : h ∈ r.topology.ids) :
    (d.distance r (r.host h)).1 = .remote ↔ h ∈ (d.split r).remote := by
  rw [← DcAware.mem_remoteAddresses w hm]
  unfold DcAware.distance
  by_cases hx : d.isLocal (r.host h) = true
  · rw [if_pos hx]
    refine iff_of_false Distance.noConfusion fun ha => ?_
    have hother := (mem_remote ((DcAware.mem_remoteAddresses w hm).1 ha)).2
    rw [hx] at hother
    cases hother
  · rw [if_neg hx, hb.1, boundTo_self]
    simp only [(DcAware.partition_cases hb.2.2).1]
    by_cases ha : (r.host h).address ∈ (d.split r).remoteAddresses
    · rw [if_pos ha]
      exact iff_of_true rfl ha
    · rw [if_neg ha]
      exact iff_of_false Distance.noConfusion ha

/-- **Of every other datacenter the hosts with the lowest addresses are remote**, the rest is ignored. -/
theorem Bound.distance_outside (hb : (dcAware d).Bound r) (w : r.WellFormed) (dc : String) :
    (d.outside r dc).filter (fun h => (d.distance r (r.host h)).1 = .remote) =
        (d.outside r dc).take d.perRemoteDc ∧
      (d.outside r dc).filter (fun h => (d.distance r (r.host h)).1 = .ignored) =
        (d.outside r dc).drop d.perRemoteDc := by
  have hremote : ∀ h ∈ d.outside r dc,
      ((d.distance r (r.host h)).1 = .remote ↔ h ∈ (d.outside r dc).take d.perRemoteDc) := by
    intro h hh
    obtain ⟨hid, rfl, -⟩ := DcAware.mem_outside.1 hh
    rw [hb.distance_remote w hid, mem_remote_iff]
  have hignored : ∀ h ∈ d.outside r dc,
      ((d.distance r (r.host h)).1 = .ignored ↔ h ∉ (d.outside r dc).take d.perRemoteDc) := by
    intro h hh
    obtain ⟨-, -, hl⟩ := DcAware.mem_outside.1 hh
    have hnear : (d.distance r (r.host h)).1 ≠ .near := by
      rw [ne_eq, hb.distance_near, ← DcAware.isLocal_iff, hl]
      exact Bool.false_ne_true
    rw [← hremote h hh]
    cases hd : (d.distance r (r.host h)).1 with
    | near => exact absurd hd hnear
    | remote => simp
    | ignored => simp
  have hnodup : ((d.outside r dc).take d.perRemoteDc ++ (d.outside r dc).drop d.perRemoteDc).Nodup := by
    rw [List.take_append_drop]
    exact w.ids_nodup.filter _
  have hparts := filter_mem_left hnodup
  rw [List.take_append_drop] at hparts
  rw [List.filter_congr fun h hh => decide_eq_decide.2 (hremote h hh),
    List.filter_congr fun h hh => decide_eq_decide.2 (hignored h hh)]
  exact hparts

theorem Bound.near_eq (hb : (dcAware d).Bound r) :
    (d.split r).near = r.topology.ids.filter fun h => (d.distance r (r.host h)).1 = .near := by
  refine List.filter_congr fun h _ => ?_
  rw [Bool.eq_iff_iff, decide_eq_true_eq, hb.distance_near, DcAware.isLocal_iff]

theorem Bound.remote_perm (hb : (dcAware d).Bound r) (w : r.WellFormed) :
    (d.split r).remote.Perm (r.topology.ids.filter fun h => (d.distance r (r.host h)).1 = .remote) := by
  refine (List.perm_ext_iff_of_nodup (DcAware.remote_nodup w) (w.ids_nodup.filter _)).2 fun h => ?_
  rw [List.mem_filter, decide_eq_true_eq]
  constructor
  · intro hm
    exact ⟨(mem_remote hm).1, (hb.distance_remote w (mem_remote hm).1).2 hm⟩
  · rintro ⟨hid, hd⟩
    exact (hb.distance_remote w hid).1 hd

/-- A plan is read off the split of the hosts, and moves nothing but the counter. -/
theorem Bound.plan_eq (hb : (dcAware d).Bound r) :
    (d.plan r).1 = .walk ((d.split r).near.rotate d.turn.toNat ++ (d.split r).remote.rotate d.turn.toNat) ∧
      (d.plan r).2.forget = { d.forget with turn := d.turn + 1 } := by
  obtain ⟨hplan, hnext⟩ := hb.plan_anew
  have hanew : d.forget.planAnew r = (.walk (rotation (d.split r).near d.turn.toNat ++
      rotation (d.split r).remote d.turn.toNat), { d.forget with turn := d.turn + 1 }) := by
    unfold DcAware.planAnew
    rw [show boundTo d.forget.binding r = some r from hb.1 ▸ boundTo_self r]
    rfl
  rw [hanew] at hplan hnext
  rw [hplan, rotation_eq_rotate, rotation_eq_rotate]
  exact ⟨rfl, hnext⟩

/-- **A plan walks the local hosts and then the remote ones**, both from where the counter points to. -/
theorem Bound.plan_walk (hb : (dcAware d).Bound r) (w : r.WellFormed) :
    ∃ remote : List HostId,
      remote.Perm (r.topology.ids.filter fun h => (d.distance r (r.host h)).1 = .remote) ∧
      remote.Pairwise (DcAware.ListedBefore r) ∧
      (d.plan r).1 = .walk
        ((r.topology.ids.filter fun h => (d.distance r (r.host h)).1 = .near).rotate d.turn.toNat ++
          remote.rotate d.turn.toNat) ∧
      (d.plan r).2.turn = d.turn + 1 := by
  obtain ⟨hplan, hnext⟩ := hb.plan_eq
  rw [← hb.near_eq]
  exact ⟨(d.split r).remote, hb.remote_perm w, DcAware.remote_sorted w, hplan, congrArg DcAware.turn hnext⟩

/-! ## What stays -/

/-- The datacenter-aware layer of a balancer, if it has one. -/
def dcAware? : Balancer → Option DcAware
  | dcAware d => some d
  | tokenAware _ child => child.dcAware?
  | allowList _ child => child.dcAware?
  | roundRobin _ _ => none
  | everyHost _ => none

end Balancer

/-- What a balancer was told, and the local datacenter that it resolved. -/
def DcAware.setting (d : DcAware) : DcAware :=
  { configured := d.configured, localDc := d.localDc, perRemoteDc := d.perRemoteDc }

/-- The local datacenter made out from a registry. -/
def DcAware.settled (d : DcAware) (r : Registry) : DcAware :=
  { d with localDc := some (d.configured.or (r.members.findSome? (·.datacenter))) }

namespace Balancer

variable {d : DcAware} {r : Registry}

def setting? (b : Balancer) : Option DcAware := b.dcAware?.map DcAware.setting

theorem Bound.of_dcAware? : ∀ {b : Balancer}, b.Bound r → b.dcAware? = some d → (dcAware d).Bound r
  | dcAware _, hb, hd => Option.some.inj hd ▸ hb
  | tokenAware _ _, hb, hd => Bound.of_dcAware? hb.2 hd
  | allowList _ child, hb, hd => Bound.of_dcAware? (b := child) hb hd
  | roundRobin _ _, _, hd => by cases hd
  | everyHost _, _, hd => by cases hd

theorem Fresh.of_dcAware? : ∀ {b : Balancer}, b.Fresh → b.dcAware? = some d → (dcAware d).Fresh
  | dcAware _, hb, hd => Option.some.inj hd ▸ hb
  | tokenAware _ _, hb, hd => Fresh.of_dcAware? hb.2 hd
  | allowList _ child, hb, hd => Fresh.of_dcAware? (b := child) hb hd
  | roundRobin _ _, _, hd => by cases hd
  | everyHost _, _, hd => by cases hd

theorem setting?_forget : ∀ b : Balancer, b.forget.setting? = b.setting?
  | dcAware _ | roundRobin _ _ | everyHost _ => rfl
  | tokenAware _ child => setting?_forget child
  | allowList _ child => setting?_forget child

theorem setting?_distance (b : Balancer) (r : Registry) (x : Host) : (b.distance r x).2.setting? = b.setting? := by
  rw [← setting?_forget, forget_distance, setting?_forget]

theorem setting?_nearReplicas (r seen : Registry) : ∀ (l : List HostId) (b : Balancer),
    (b.nearReplicas r seen l).2.setting? = b.setting?
  | [], _ => rfl
  | x :: l, b => by
    unfold nearReplicas
    split
    · exact (setting?_nearReplicas r seen l _).trans (b.setting?_distance r _)
    · exact setting?_nearReplicas r seen l b

/-- **A plan leaves the setting of its balancer.** -/
theorem setting?_plan (r : Registry) (keyspace : Option String) (options : ExecutionOptions) :
    ∀ b : Balancer, (b.plan r keyspace options).2.setting? = b.setting?
  | roundRobin binding turn => by
    unfold Balancer.plan
    split
    · rfl
    · dsimp only
      split <;> rfl
  | everyHost binding => by
    unfold Balancer.plan
    split <;> rfl
  | dcAware d => by
    unfold Balancer.plan DcAware.plan
    cases boundTo d.binding r with
    | none => rfl
    | some seen => exact congrArg (fun e => some e.setting) (d.forget_partition seen)
  | tokenAware binding child => by
    have hchild := setting?_plan r keyspace options child
    unfold Balancer.plan
    dsimp only
    split
    · exact (setting?_nearReplicas r _ _ _).trans hchild
    · exact hchild
  | allowList allowed child => setting?_plan r keyspace options child

/-- **Initialized for the first time, a balancer resolves the local datacenter**: the configured one, or else that
of the first host with one. -/
theorem Fresh.setting?_init (r : Registry) : ∀ {b : Balancer}, b.Fresh →
    (b.init r).2.setting? = b.setting?.map (·.settled r)
  | dcAware d, ⟨_, hl, _⟩ => by
    have hsetting : (d.resolve r).setting = d.setting.settled r := by
      unfold DcAware.resolve
      rw [hl]
      rfl
    unfold Balancer.init
    dsimp only
    split <;> exact congrArg some hsetting
  | tokenAware binding child, ⟨hb, hc⟩ => by
    rw [hb]
    exact Fresh.setting?_init r (b := child) hc
  | allowList allowed child, h => Fresh.setting?_init r (b := child) h
  | roundRobin binding turn, _ => by
    unfold Balancer.init
    split <;> rfl

end Balancer

end CqlDispatch
