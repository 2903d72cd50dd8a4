import CqlDispatch.Proofs.Balancer.Anew
import CqlDispatch.Proofs.Balancer.Plans
import CqlDispatch.Proofs.Plan.Listing
/-!
# Plans with the replicas in front

A token-aware layer asks its child for a plan, and the registry for the owners of the request's
partition.  What it puts in front are the owners that are up and near to its child (`nearOwners`); it
looks for their addresses in the child's plan.  A bound child plans hosts that are up and registered, each
once, so an address is a host there, and the plan is the child's in two parts, where it can be made
(`Bound.plan?_tokenAware`).
-/
namespace CqlDispatch
namespace Balancer

/-- A balancer and those behind it, the outermost first. -/
def layers : Balancer → List Balancer
  | tokenAware binding child => tokenAware binding child :: child.layers
  | allowList allowed child => allowList allowed child :: child.layers
  | roundRobin binding turn => [roundRobin binding turn]
  | dcAware d => [dcAware d]
  | everyHost binding => [everyHost binding]

/-- The registered hosts that own a routing key's token in the request's keyspace, those of them that are up
and near to the balancer. -/
def nearOwners (b : Balancer) (r : Registry) (keyspace : Option String) (options : ExecutionOptions)
    (key : List UInt8) : List HostId :=
  (r.replicas (keyspace.or options.keyspace) (Token.ofRoutingKey key)).filter fun h =>
    r.isUp h && (b.distance r (r.host h)).1 == .near

variable {r : Registry}

/-- **Every layer of a bound balancer is bound.** -/
theorem Bound.layer {l : Balancer} : ∀ {b : Balancer}, b.Bound r → l ∈ b.layers → l.Bound r
  | roundRobin _ _, h, hl => List.mem_singleton.1 hl ▸ h
  | dcAware _, h, hl => List.mem_singleton.1 hl ▸ h
  | everyHost _, h, _ => h.elim
  | tokenAware binding child, h, hl => by
    rcases List.mem_cons.1 hl with rfl | hl
    · exact h
    · exact Bound.layer h.2 hl
  | allowList allowed child, h, hl => by
    rcases List.mem_cons.1 hl with rfl | hl
    · exact h
    · exact Bound.layer (b := child) h hl

theorem mem_ids_of_replicas {keyspace : Option String} {t : Token} {h : HostId} (hm : h ∈ r.replicas keyspace t) :
    h ∈ r.topology.ids := by
  obtain ⟨a, -, hf⟩ := List.mem_filterMap.1 hm
  exact Registry.mem_ids_of_find? hf

/-- The addresses that a token-aware layer looks for. -/
theorem Bound.mem_nearReplicas {a : Address} : ∀ {owners : List HostId} {b : Balancer}, b.Bound r →
    (a ∈ (b.nearReplicas r r owners).1 ↔
      ∃ h ∈ owners, r.isUp h = true ∧ b.distanceAnew r (r.host h) = .near ∧ (r.host h).address = a)
  | [], b, _ => by simp [Balancer.nearReplicas]
  | x :: owners, b, hb => by
    have hnext : a ∈ ((b.distance r (r.host x)).2.nearReplicas r r owners).1 ↔ _ :=
      Bound.mem_nearReplicas (hb.distance (r.host x))
    rw [b.distanceAnew_distance] at hnext
    unfold Balancer.nearReplicas
    by_cases hx : r.isUp x = true
    · rw [if_pos hx]
      simp only [hb.distance_anew (r.host x), List.exists_mem_cons_iff, hx, true_and, ← hnext]
      by_cases hnear : b.distanceAnew r (r.host x) = .near
      · simp only [hnear, if_true, List.mem_cons, true_and, eq_comm]
      · simp only [hnear, if_false, false_and, false_or]
    · rw [if_neg hx]
      simp only [List.exists_mem_cons_iff, hx, Bool.false_eq_true, false_and, false_or, Bound.mem_nearReplicas hb]

theorem Bound.mem_nearOwners {b : Balancer} (hb : b.Bound r) {keyspace : Option String} {options : ExecutionOptions}
    {key : List UInt8} {h : HostId} : h ∈ b.nearOwners r keyspace options key ↔
      h ∈ r.replicas (keyspace.or options.keyspace) (Token.ofRoutingKey key) ∧ r.isUp h = true ∧
        b.distanceAnew r (r.host h) = .near := by
  rw [nearOwners, List.mem_filter, hb.distance_anew, Bool.and_eq_true, beq_iff_eq]

/-- **A plan of a bound balancer lists hosts that are up and registered**, each once. -/
theorem Bound.toList_plan {b : Balancer} (hb : b.Bound r) (w : r.WellFormed) (keyspace : Option String)
    (options : ExecutionOptions) :
    (∀ h ∈ (b.plan r keyspace options).1.toList r, h ∈ r.topology.ids ∧ r.isUp h = true) ∧
      ((b.plan r keyspace options).1.toList r).Nodup := by
  obtain ⟨hcare, hoffers⟩ := plan_offers w keyspace options hb
  have hlist := (Plan.toList_perm (.refl r) hcare).trans (hoffers.filter r.isUp)
  constructor
  · intro h hh
    obtain ⟨helig, hup⟩ := List.mem_filter.1 (hlist.mem_iff.1 hh)
    exact ⟨(mem_eligible.1 helig).1, hup⟩
  · exact hlist.nodup_iff.2 ((w.ids_nodup.filter _).filter _)

theorem pairwise_address_ne (w : r.WellFormed) {l : List HostId} (registered : ∀ h ∈ l, h ∈ r.topology.ids)
    (nodup : l.Nodup) : l.Pairwise fun x y => (r.host x).address ≠ (r.host y).address :=
  nodup.imp_of_mem fun {x y} hx hy hne he => hne (w.address_inj (registered x hx) (registered y hy) he)

/-- **A plan with the replicas in front is the child's plan in two parts**, each in the child's order. -/
theorem Bound.plan_tokenAware {binding : Option Nat} {child : Balancer} (hb : (tokenAware binding child).Bound r)
    (w : r.WellFormed) (keyspace : Option String) (options : ExecutionOptions) {key : List UInt8}
    (hkey : options.routingKey = some key) :
    ((tokenAware binding child).plan r keyspace options).1.toList r =
      ((child.plan r keyspace options).1.toList r).filter (· ∈ child.nearOwners r keyspace options key) ++
        ((child.plan r keyspace options).1.toList r).filter (· ∉ child.nearOwners r keyspace options key) := by
  obtain ⟨hbinding, hchild⟩ := hb
  obtain ⟨hlisted, hnodup⟩ := hchild.toList_plan w keyspace options
  have hafter : (child.plan r keyspace options).2.Bound r := hchild.plan keyspace options
  generalize hpending : ((child.plan r keyspace options).2.nearReplicas r r
    (r.replicas (keyspace.or options.keyspace) (Token.ofRoutingKey key))).1 = pending
  have hplan : ((tokenAware binding child).plan r keyspace options).1 =
      if pending.isEmpty then (child.plan r keyspace options).1
      else .replicasFirst pending [] (child.plan r keyspace options).1 := by
    rw [Balancer.plan, hkey, hbinding, boundTo_self, ← hpending]
  have hmem : ∀ h ∈ (child.plan r keyspace options).1.toList r,
      ((r.host h).address ∈ pending ↔ h ∈ child.nearOwners r keyspace options key) := by
    intro h hh
    rw [← hpending, hafter.mem_nearReplicas, child.distanceAnew_plan, hchild.mem_nearOwners]
    constructor
    · rintro ⟨k, hk, hup, hnear, ha⟩
      obtain rfl := w.address_inj (mem_ids_of_replicas hk) (hlisted h hh).1 ha
      exact ⟨hk, hup, hnear⟩
    · rintro ⟨hk, hup, hnear⟩
      exact ⟨h, hk, hup, hnear, rfl⟩
  rw [hplan, ← List.filter_congr fun h hh => decide_eq_decide.2 (hmem h hh),
    ← List.filter_congr fun h hh => decide_eq_decide.2 (not_congr (hmem h hh))]
  split
  · rename_i hnone
    simp [List.isEmpty_iff.1 hnone]
  · have hdistinct := pairwise_address_ne w (fun h hh => (hlisted h hh).1) hnodup
    exact ((Plan.lists_toList r _).replicasFirst (fun h hh => (hlisted h hh).2) hdistinct pending []).toList_eq

/-! ## Where a plan can be made -/

theorem plan?_fst (b : Balancer) (keyspace : Option String) (options : ExecutionOptions) :
    (b.plan? r keyspace options).1 =
      match b.overflow? r keyspace options with
      | some o => .error o
      | none => .ok (b.plan r keyspace options).1 := by
  unfold Balancer.plan?
  cases b.overflow? r keyspace options <;> rfl

/-- **What becomes of the child's plan**, if there is one. -/
theorem Bound.plan?_tokenAware {binding : Option Nat} {child : Balancer} (hb : (tokenAware binding child).Bound r)
    (w : r.WellFormed) (keyspace : Option String) (options : ExecutionOptions) :
    let made := ((tokenAware binding child).plan? r keyspace options).1
    match (child.plan? r keyspace options).1 with
    | .error o => made = .error o
    | .ok childPlan =>
      match options.routingKey with
      | none => made = .ok childPlan
      | some key =>
        if TokenRing.mostRoom < r.replicationFactor (keyspace.or options.keyspace) then made = .error .room
        else ∃ plan, made = .ok plan ∧ plan.toList r =
          (childPlan.toList r).filter (· ∈ child.nearOwners r keyspace options key) ++
            (childPlan.toList r).filter (· ∉ child.nearOwners r keyspace options key) := by
  have hbinding : binding = some r.id := hb.1
  dsimp only
  rw [plan?_fst, plan?_fst, overflow?]
  cases child.overflow? r keyspace options with
  | some o => rfl
  | none =>
    cases hkey : options.routingKey with
    | none =>
      dsimp only
      rw [Balancer.plan, hkey]
    | some key =>
      have hparts := hb.plan_tokenAware w keyspace options hkey
      rw [hbinding, boundTo_self]
      unfold Registry.replicas? TokenRing.replicas?
      dsimp only
      split
      · rfl
      · exact ⟨_, rfl, hbinding ▸ hparts⟩

end Balancer

end CqlDispatch
