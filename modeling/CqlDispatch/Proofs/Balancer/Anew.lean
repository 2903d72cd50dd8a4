import CqlDispatch.Proofs.Balancer.Bound
/-!
# Answers worked out anew

What a datacenter-aware layer keeps from one question to the next is no part of its answers.  Here is its
second definition, which keeps nothing: it splits the hosts of the registry at hand for every question.  A
bound balancer answers as this one does (`Bound.distance_anew`, `Bound.plan_anew`), and a question
leaves it as it was, but for what it keeps (`forget`) and whose turn is next.
-/
namespace CqlDispatch

namespace DcAware

/-- The balancer with nothing kept. -/
def forget (d : DcAware) : DcAware := { d with cache := none }

/-- The distance of a host, the hosts split for this question. -/
def distanceAnew (d : DcAware) (r : Registry) (x : Host) : Distance :=
  if d.isLocal x then .near
  else match boundTo d.binding r with
    | none => .ignored
    | some seen => if x.address ∈ (d.split seen).remoteAddresses then .remote else .ignored

/-- A plan, the hosts split for this question. -/
def planAnew (d : DcAware) (r : Registry) : Plan × DcAware :=
  match boundTo d.binding r with
  | none => (.empty, d)
  | some seen =>
    let p := d.split seen
    (.walk (rotation p.near d.turn.toNat ++ rotation p.remote d.turn.toNat), { d with turn := d.turn + 1 })

theorem forget_partition (d : DcAware) (r : Registry) : (d.partition r).2.forget = d.forget := by
  unfold partition
  split
  · split <;> rfl
  · rfl

theorem forget_distance (d : DcAware) (r : Registry) (x : Host) : (d.distance r x).2.forget = d.forget := by
  unfold distance
  split
  · rfl
  · split
    · rfl
    · exact d.forget_partition _

/-- Hosts with the same metadata are local to the same balancers. -/
theorem isLocal_congr (d : DcAware) {x y : Host} (metadata : x.metadata = y.metadata) : d.isLocal x = d.isLocal y := by
  unfold isLocal Host.datacenter
  rw [metadata]

end DcAware

namespace Balancer

/-- The balancer with nothing kept in any layer. -/
def forget : Balancer → Balancer
  | dcAware d => dcAware d.forget
  | tokenAware binding child => tokenAware binding child.forget
  | allowList allowed child => allowList allowed child.forget
  | roundRobin binding turn => roundRobin binding turn
  | everyHost binding => everyHost binding

/-- The rank of a host, worked out without anything kept. -/
def distanceAnew (b : Balancer) (r : Registry) (x : Host) : Distance :=
  match b with
  | roundRobin _ _ => .near
  | everyHost _ => x.distance
  | dcAware d => d.distanceAnew r x
  | tokenAware _ child => child.distanceAnew r x
  | allowList allowed child => if x.address ∈ allowed then child.distanceAnew r x else .ignored

/-- **A question about a host changes nothing but what is kept.** -/
theorem forget_distance (r : Registry) (x : Host) : ∀ b : Balancer, (b.distance r x).2.forget = b.forget
  | roundRobin _ _ | everyHost _ => rfl
  | dcAware d => congrArg dcAware (d.forget_distance r x)
  | tokenAware binding child => congrArg (tokenAware binding) (forget_distance r x child)
  | allowList allowed child => by
    unfold Balancer.distance
    split
    · exact congrArg (allowList allowed) (forget_distance r x child)
    · rfl

theorem distanceAnew_allowList (allowed : List Address) {child child' : Balancer}
    (h : child'.distanceAnew = child.distanceAnew) :
    (allowList allowed child').distanceAnew = (allowList allowed child).distanceAnew := by
  funext r x
  unfold distanceAnew
  rw [h]

theorem distanceAnew_forget : ∀ b : Balancer, b.forget.distanceAnew = b.distanceAnew
  | roundRobin _ _ | everyHost _ | dcAware _ => rfl
  | tokenAware _ child => distanceAnew_forget child
  | allowList allowed child => distanceAnew_allowList allowed (distanceAnew_forget child)

theorem distanceAnew_distance (b : Balancer) (r : Registry) (x : Host) :
    (b.distance r x).2.distanceAnew = b.distanceAnew := by
  rw [← distanceAnew_forget, forget_distance, distanceAnew_forget]

theorem distanceAnew_nearReplicas (r seen : Registry) : ∀ (l : List HostId) (b : Balancer),
    (b.nearReplicas r seen l).2.distanceAnew = b.distanceAnew
  | [], _ => rfl
  | x :: l, b => by
    unfold nearReplicas
    split
    · exact (distanceAnew_nearReplicas r seen l _).trans (b.distanceAnew_distance r _)
    · exact distanceAnew_nearReplicas r seen l b

/-- **A plan changes no distance.** -/
theorem distanceAnew_plan (r : Registry) (keyspace : Option String) (options : ExecutionOptions) :
    ∀ b : Balancer, (b.plan r keyspace options).2.distanceAnew = b.distanceAnew
  | roundRobin binding turn => by
    unfold Balancer.plan
    split
    · rfl
    · dsimp only
      split <;> rfl
  | everyHost binding => by
    unfold Balancer.plan
    split <;> rfl
  | dcAware d => by
    unfold Balancer.plan DcAware.plan
    cases boundTo d.binding r with
    | none => rfl
    | some seen =>
      have hkept := distanceAnew_forget (dcAware (d.partition seen).2)
      show (dcAware (d.partition seen).2).distanceAnew = _
      rw [← hkept]
      exact (congrArg (fun e => (dcAware e).distanceAnew) (d.forget_partition seen)).trans
        (distanceAnew_forget (dcAware d))
  | tokenAware binding child => by
    have hchild := distanceAnew_plan r keyspace options child
    unfold Balancer.plan
    dsimp only
    split
    · exact (distanceAnew_nearReplicas r _ _ _).trans hchild
    · exact hchild
  | allowList allowed child =>
    distanceAnew_allowList allowed (distanceAnew_plan r keyspace options child)

variable {r : Registry}

/-- **A bound balancer ranks a host as it would with nothing kept.** -/
theorem Bound.distance_anew (x : Host) : ∀ {b : Balancer}, b.Bound r → (b.distance r x).1 = b.distanceAnew r x
  | roundRobin _ _, _ => rfl
  | dcAware d, ⟨hb, _, hc⟩ => by
    unfold Balancer.distance DcAware.distance distanceAnew DcAware.distanceAnew
    rw [hb, boundTo_self]
    by_cases hx : d.isLocal x = true
    · rw [if_pos hx, if_pos hx]
    · rw [if_neg hx, if_neg hx]
      simp only [(DcAware.partition_cases hc).1]
  | tokenAware _ child, ⟨_, hc⟩ => Bound.distance_anew x (b := child) hc
  | allowList allowed child, h => by
    unfold Balancer.distance distanceAnew
    split
    · exact Bound.distance_anew x (b := child) h
    · rfl

/-- **A bound datacenter-aware balancer plans as it would with nothing kept.** -/
theorem Bound.plan_anew {d : DcAware} (h : (dcAware d).Bound r) :
    (d.plan r).1 = (d.forget.planAnew r).1 ∧ (d.plan r).2.forget = (d.forget.planAnew r).2 := by
  obtain ⟨hb, -, hc⟩ := h
  have hbound : boundTo d.binding r = some r := by rw [hb, boundTo_self]
  have hkept := d.forget_partition r
  have hturn : (d.partition r).2.forget.turn = d.forget.turn := by rw [hkept]
  change (d.partition r).2.turn = d.turn at hturn
  have hplan : d.plan r = (.walk (rotation (d.partition r).1.near (d.partition r).2.turn.toNat ++
      rotation (d.partition r).1.remote (d.partition r).2.turn.toNat),
      { (d.partition r).2 with turn := (d.partition r).2.turn + 1 }) := by
    unfold DcAware.plan
    rw [hbound]
  have hanew : d.forget.planAnew r = (.walk (rotation (d.split r).near d.turn.toNat ++
      rotation (d.split r).remote d.turn.toNat), { d.forget with turn := d.turn + 1 }) := by
    unfold DcAware.planAnew
    rw [show boundTo d.forget.binding r = some r from hbound]
    rfl
  rw [hplan, hanew, (DcAware.partition_cases hc).1, hturn, ← hkept]
  exact ⟨rfl, rfl⟩

/-- Ranks are read off the members and what is known about them. -/
theorem Bound.distanceAnew_congr {r' : Registry} (id : r'.id = r.id) (topology : r'.topology = r.topology)
    (hosts : ∀ h, (r'.host h).address = (r.host h).address ∧ (r'.host h).metadata = (r.host h).metadata)
    {x y : Host} (address : x.address = y.address) (metadata : x.metadata = y.metadata) :
    ∀ {b : Balancer}, b.Bound r → b.distanceAnew r' x = b.distanceAnew r y
  | roundRobin _ _, _ => rfl
  | dcAware d, ⟨hb, _, _⟩ => by
    have hbound : boundTo d.binding r' = some r' := by
      rw [hb, ← id, boundTo_self]
    unfold distanceAnew DcAware.distanceAnew
    rw [hbound, hb, boundTo_self, d.isLocal_congr metadata, address]
    simp only [d.split_congr topology hosts]
  | tokenAware _ child, ⟨_, hc⟩ => Bound.distanceAnew_congr id topology hosts address metadata (b := child) hc
  | allowList allowed child, h => by
    unfold distanceAnew
    rw [address, Bound.distanceAnew_congr id topology hosts address metadata (b := child) h]

end Balancer

end CqlDispatch
