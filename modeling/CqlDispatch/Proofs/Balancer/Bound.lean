import CqlDispatch.Balancer
import CqlDispatch.Proofs.Registry.Change
/-!
# Bound balancers

A balancer that was initialized on a registry stays bound to it.  What a datacenter-aware layer
keeps from an earlier plan is the split of an older version, or that of the current one
(`DcAware.Current`): a host changes its datacenter only under a new version.
-/
namespace CqlDispatch

@[simp] theorem boundTo_self (r : Registry) : boundTo (some r.id) r = some r := if_pos rfl

namespace DcAware

theorem resolve_of_known {d : DcAware} {r : Registry} (h : d.localDc.isSome = true) : d.resolve r = d := by
  unfold resolve
  cases hd : d.localDc with
  | none => rw [hd] at h; cases h
  | some dc => rfl

/-- What is kept is of the past, or right. -/
def Current (d : DcAware) (r : Registry) : Prop :=
  ∀ p ∈ d.cache, p.version ≤ r.topology.version ∧ (p.version = r.topology.version → p = d.split r)

/-- The split is new, or the one that is kept; so is what is kept afterwards. -/
theorem partition_cases {d : DcAware} {r : Registry} (h : d.Current r) :
    (d.partition r).1 = d.split r ∧
      ((d.partition r).2 = d ∨ (d.partition r).2 = { d with cache := some (d.split r) }) := by
  unfold partition
  cases hc : d.cache with
  | none => exact ⟨rfl, .inr rfl⟩
  | some p =>
    simp only
    split
    · rename_i hv
      exact ⟨(h p hc).2 hv, .inl rfl⟩
    · exact ⟨rfl, .inr rfl⟩

theorem current_split (d : DcAware) (r : Registry) : Current { d with cache := some (d.split r) } r := by
  intro p hp
  cases hp
  exact ⟨Nat.le_refl _, fun _ => rfl⟩

theorem split_congr (d : DcAware) {r r' : Registry} (ht : r'.topology = r.topology)
    (hh : ∀ h, (r'.host h).address = (r.host h).address ∧ (r'.host h).metadata = (r.host h).metadata) :
    d.split r' = d.split r := by
  have hdc : ∀ h, (r'.host h).datacenter = (r.host h).datacenter := fun h => by
    rw [Host.datacenter, (hh h).2]
    rfl
  have hlocal : ∀ h, d.isLocal (r'.host h) = d.isLocal (r.host h) := fun h => by
    unfold isLocal
    rw [hdc]
  have hgroup : ∀ h, groupName (r'.host h) = groupName (r.host h) := fun h => by
    unfold groupName
    rw [hdc]
  have hgroups : ∀ l : List HostId, groups (l.map r'.host) = groups (l.map r.host) := fun l => by
    unfold groups
    rw [List.map_map, List.map_map]
    simp only [Function.comp_def, hgroup]
  unfold split
  simp only [ht, hlocal, hgroups, hgroup, (hh _).1]

theorem Current.change {d : DcAware} {r r' : Registry} (h : d.Current r) (w : r.WellFormed)
    (hc : r.Change r') : d.Current r' := by
  intro p hp
  obtain ⟨hle, heq⟩ := h p hp
  rcases w.topology_cases hc with hlt | ⟨ht, hh⟩
  · exact ⟨Nat.le_of_lt (Nat.lt_of_le_of_lt hle hlt), fun hv => by omega⟩
  · rw [d.split_congr ht hh, ht]
    exact ⟨hle, heq⟩

end DcAware

namespace Balancer

/-- Every layer is bound to a registry, and knows the local datacenter. -/
def Bound (r : Registry) : Balancer → Prop
  | roundRobin binding _ => binding = some r.id
  | dcAware d => d.binding = some r.id ∧ d.localDc.isSome = true ∧ d.Current r
  | tokenAware binding child => binding = some r.id ∧ Bound r child
  | allowList _ child => Bound r child
  | everyHost _ => False

/-- No layer was initialized. -/
def Fresh : Balancer → Prop
  | roundRobin binding _ => binding = none
  | dcAware d => d.binding = none ∧ d.localDc = none ∧ d.cache = none
  | tokenAware binding child => binding = none ∧ Fresh child
  | allowList _ child => Fresh child
  | everyHost _ => False

variable {r : Registry}

theorem bind_self (r : Registry) : bind (some r.id) r = .ok (some r.id) := if_pos rfl

/-- **Initialized on a registry, a balancer is bound to it.** -/
theorem Fresh.init : ∀ {b : Balancer}, b.Fresh → (b.init r).2.Bound r
  | roundRobin binding turn, h => by
    rw [show binding = none from h]
    exact rfl
  | dcAware d, ⟨hb, hl, hc⟩ => by
    have hbind : bind (d.resolve r).binding r = .ok (some r.id) := by
      unfold DcAware.resolve
      rw [hl]
      simp only [hb]
      rfl
    unfold Balancer.init
    simp only [hbind]
    refine ⟨rfl, ?_, fun p hp => ?_⟩
    · show (d.resolve r).localDc.isSome = true
      unfold DcAware.resolve
      rw [hl]
      rfl
    · have hnone : (d.resolve r).cache = none := by
        unfold DcAware.resolve
        rw [hl]
        exact hc
      rw [show p ∈ (d.resolve r).cache from hp] at hnone
      cases hnone
  | tokenAware binding child, ⟨hb, hc⟩ => by
    rw [hb]
    exact ⟨rfl, Fresh.init hc⟩
  | allowList allowed child, h => Fresh.init (b := child) h

/-- A bound balancer is not bound once more. -/
theorem Bound.init_eq : ∀ {b : Balancer}, b.Bound r → (b.init r).2 = b
  | roundRobin binding turn, h => by
    rw [show binding = some r.id from h]
    unfold Balancer.init
    rw [bind_self]
  | dcAware d, ⟨hb, hl, hc⟩ => by
    unfold Balancer.init
    simp only [DcAware.resolve_of_known hl, hb, bind_self]
    rw [← hb]
  | tokenAware binding child, ⟨hb, hc⟩ => by
    rw [hb]
    unfold Balancer.init
    rw [bind_self]
    exact congrArg (tokenAware (some r.id)) (Bound.init_eq hc)
  | allowList allowed child, h => congrArg (allowList allowed) (Bound.init_eq (b := child) h)

theorem Bound.init {b : Balancer} (h : b.Bound r) : (b.init r).2.Bound r := h.init_eq.symm ▸ h

theorem bound_partition {d : DcAware} (h : (dcAware d).Bound r) : (dcAware (d.partition r).2).Bound r := by
  obtain ⟨hb, hl, hc⟩ := h
  rcases (DcAware.partition_cases hc).2 with he | he
  · rw [he]
    exact ⟨hb, hl, hc⟩
  · rw [he]
    exact ⟨hb, hl, d.current_split r⟩

theorem Bound.distance (x : Host) : ∀ {b : Balancer}, b.Bound r → (b.distance r x).2.Bound r
  | roundRobin binding turn, h => h
  | dcAware d, h => by
    unfold Balancer.distance DcAware.distance
    rw [h.1, boundTo_self]
    by_cases hx : d.isLocal x = true
    · rw [if_pos hx]
      exact h
    · rw [if_neg hx]
      exact bound_partition h
  | tokenAware binding child, ⟨hb, hc⟩ => ⟨hb, Bound.distance x hc⟩
  | allowList allowed child, h => by
    unfold Balancer.distance
    split
    · exact Bound.distance x (b := child) h
    · exact h

theorem Bound.nearReplicas {seen : Registry} : ∀ (l : List HostId) {b : Balancer}, b.Bound r →
    (b.nearReplicas r seen l).2.Bound r
  | [], b, h => h
  | x :: l, b, h => by
    unfold Balancer.nearReplicas
    split
    · exact Bound.nearReplicas l (h.distance (seen.host x))
    · exact Bound.nearReplicas l h

theorem Bound.plan (keyspace : Option String) (options : ExecutionOptions) : ∀ {b : Balancer},
    b.Bound r → (b.plan r keyspace options).2.Bound r
  | roundRobin binding turn, h => by
    unfold Balancer.plan
    rw [show binding = some r.id from h, boundTo_self]
    simp only
    split <;> exact rfl
  | dcAware d, h => by
    unfold Balancer.plan DcAware.plan
    rw [h.1, boundTo_self]
    exact bound_partition h
  | tokenAware binding child, ⟨hb, hc⟩ => by
    have hchild := Bound.plan keyspace options hc
    unfold Balancer.plan
    simp only
    split
    · exact ⟨hb, hchild.nearReplicas _⟩
    · exact ⟨hb, hchild⟩
  | allowList allowed child, h => Bound.plan keyspace options (b := child) h

theorem Bound.change {r' : Registry} (w : r.WellFormed) (hc : r.Change r') : ∀ {b : Balancer},
    b.Bound r → b.Bound r'
  | roundRobin binding turn, h => by
    rw [Bound, (Registry.Extends.of_change w hc).id]
    exact h
  | dcAware d, ⟨hb, hl, hd⟩ => by
    rw [Bound, (Registry.Extends.of_change w hc).id]
    exact ⟨hb, hl, hd.change w hc⟩
  | tokenAware binding child, ⟨hb, h⟩ => by
    rw [Bound, (Registry.Extends.of_change w hc).id]
    exact ⟨hb, h.change w hc⟩
  | allowList allowed child, h => Bound.change w hc (b := child) h

end Balancer

end CqlDispatch
