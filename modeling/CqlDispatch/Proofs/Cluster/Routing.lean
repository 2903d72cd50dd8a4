import CqlDispatch.Proofs.Balancer.Replicas
import CqlDispatch.Proofs.Cluster.Course
/-!
# Requests routed to their partition

A request with a routing key goes to the replicas of its partition first.  Wherever a token-aware layer stands
in a balancer that operations have set up, its plans are those of its child, the replicas moved to the
front (`replicas_lead_plan`): read to its end while the registry stays as it is, the plan yields first the
child's hosts among the replicas that are up and near to the child, then the child's other hosts, both in
the child's order.  Only where a keyspace is to have more replicas than there can be room for is no plan made.
-/
namespace CqlDispatch
namespace Cluster

open Balancer (tokenAware)

/-- **A token-aware plan is the child's plan, partitioned**: in front stand the hosts that own the routing key's
token in the request's keyspace, and are up and near to the child.  Each part keeps the child's order.  Without
a routing key the plan is the child's.  No plan is made where the child makes none, and none for a keyspace of which
there are to be more replicas than there can be room for. -/
theorem replicas_lead_plan {b : Balancer} (fresh : b.Fresh) {c : Cluster} (reached : Reached b c)
    {binding : Option Nat} {child : Balancer} (layer : tokenAware binding child ∈ c.balancer.layers)
    (keyspace : Option String) (options : ExecutionOptions) :
    let made := ((tokenAware binding child).plan? c.registry keyspace options).1
    match (child.plan? c.registry keyspace options).1 with
    | .error o => made = .error o
    | .ok childPlan =>
      match options.routingKey with
      | none => made = .ok childPlan
      | some key =>
        if TokenRing.mostRoom < c.registry.replicationFactor (keyspace.or options.keyspace) then made = .error .room
        else ∃ plan, made = .ok plan ∧ plan.toList c.registry =
          (childPlan.toList c.registry).filter (· ∈ child.nearOwners c.registry keyspace options key) ++
            (childPlan.toList c.registry).filter (· ∉ child.nearOwners c.registry keyspace options key) := by
  have settled := reached.settled fresh
  have bound := settled.bound.layer layer
  exact bound.plan?_tokenAware settled.wellFormed keyspace options

/-- Three hosts, of which the balancer allows two; the second one owns the only token. -/
def oneOwner : List Operation :=
  [.add ⟨.v4 1, 0⟩ none, .add ⟨.v4 2, 0⟩ (some { tokens := [⟨7⟩] }), .add ⟨.v4 3, 0⟩ none, .initBalancer]

/-- A request for one partition. -/
def keyed : ExecutionOptions := { ({} : QueryDefaults).options with routingKey := some [1] }

/-- What is behind the outermost layer, once the balancer is set up. -/
def behindTokenAware : Balancer :=
  .allowList [⟨.v4 1, 0⟩, ⟨.v4 2, 0⟩] (.dcAware { localDc := some none, binding := some 0 })

theorem owner_leads_layered_plan :
    ∃ c binding child plan, Reached layered c ∧ tokenAware binding child ∈ c.balancer.layers ∧
      (child.plan? c.registry none keyed).1.map (·.toList c.registry) = .ok [0, 1] ∧
      ((tokenAware binding child).plan? c.registry none keyed).1 = .ok plan ∧ plan.toList c.registry = [1, 0] := by
  have hfresh : layered.Fresh := ⟨rfl, rfl, rfl, rfl⟩
  have hreached : Reached layered (performAll { registry := {}, balancer := layered } oneOwner) :=
    ⟨0, oneOwner, by simp [oneOwner], rfl⟩
  have hlayer : tokenAware (some 0) behindTokenAware ∈
      (performAll { registry := {}, balancer := layered } oneOwner).balancer.layers := List.mem_cons_self
  obtain ⟨plan, made, hlist⟩ := replicas_lead_plan hfresh hreached hlayer none keyed
  exact ⟨_, _, _, plan, hreached, hlayer, by rfl, made, hlist.trans (by rfl)⟩

/-- The same hosts, and a keyspace that is to have a replica on more of them than can be listed. -/
def everywhere : List Operation := oneOwner ++ [.setReplicationFactor "ks" 18446744073709551615]

/-- **Where a keyspace is to have too many replicas, no plan is made of the child's.** -/
theorem no_plan_for_everywhere : ¬ ∀ {b : Balancer}, b.Fresh → ∀ {c : Cluster}, Reached b c →
    ∀ {binding : Option Nat} {child : Balancer}, tokenAware binding child ∈ c.balancer.layers →
      ∀ keyspace options childPlan, (child.plan? c.registry keyspace options).1 = .ok childPlan →
        ∃ plan, ((tokenAware binding child).plan? c.registry keyspace options).1 = .ok plan := by
  intro always
  have hfresh : layered.Fresh := ⟨rfl, rfl, rfl, rfl⟩
  have hreached : Reached layered (performAll { registry := {}, balancer := layered } everywhere) :=
    ⟨0, everywhere, by simp [everywhere, oneOwner], rfl⟩
  have hlayer : tokenAware (some 0) behindTokenAware ∈
      (performAll { registry := {}, balancer := layered } everywhere).balancer.layers := List.mem_cons_self
  obtain ⟨plan, made⟩ := always hfresh hreached hlayer (some "ks") keyed _ rfl
  cases made

end Cluster

end CqlDispatch
