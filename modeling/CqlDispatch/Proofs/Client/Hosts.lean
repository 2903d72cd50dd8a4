import CqlDispatch.Proofs.Client.Strides
import CqlDispatch.Proofs.Cluster.Ranking
import CqlDispatch.Proofs.Request.Hosts
/-!
# Hosts of the requests of a client

The requests of a client share its hosts and keep apart what they were given: on a balancer that was initialized each of
them keeps to the hosts of its own plan, in every run, and so to all that follows from that (`supplied_run`).
-/
namespace CqlDispatch
namespace Client

open Request (Stage Supplied Lasting)

/-- A client on an initialized balancer, whose requests keep to their hosts, and have this besides. -/
structure Supplying (policies : Policies) (I : Registry → Stage → Prop) (c : Client) : Prop where
  policies : c.policies = policies
  settled : c.shared.cluster.Settled
  each : ∀ r ∈ c.requests, ∃ made, Supplied made ⟨c.shared, r, .idle⟩ ∧ I made ⟨c.shared, r, .idle⟩

variable {policies : Policies} {I : Registry → Stage → Prop} {c c' c₀ : Client} {act : Action}

theorem Supplying.step (lasting : Lasting policies I) (k : Supplying policies I c) (h : c.step? act = some c') :
    Supplying policies I c' := by
  have kept : c.policies = policies := k.policies
  refine ⟨(step?_keeps h).1.trans kept, k.settled.changes (step?_effect h).changes, ?_⟩
  refine strides_step (I := fun g => ∃ made, Supplied made g ∧ I made g) ?stride ?later ?starts k.settled.wellFormed
    k.each h
  case stride =>
    rintro g g' ⟨made, supplied, holds⟩ stride
    exact ⟨made, supplied.stride stride, lasting.stride supplied holds (kept ▸ stride)⟩
  case later =>
    rintro s s' r grown ⟨made, supplied, holds⟩
    exact ⟨made, supplied.grown grown, lasting.elsewhere holds⟩
  case starts =>
    intro statement options
    rw [kept]
    exact ⟨_, lasting.start k.settled statement options⟩

/-- **What lasts in a request holds of every request in every run**, on any balancer that was not initialized before. -/
theorem supplied_run (lasting : Lasting policies I) {defaults : QueryDefaults} {limits : Limits}
    {contacts : List Address} {report : Except Failure (List Translated)} {actions : List Action}
    (fresh : policies.balancer.Fresh) (connected : connect policies defaults limits contacts report = .ok c₀)
    (ran : c₀.run? actions = some c) :
    ∀ r ∈ c.requests, ∃ made, Supplied made ⟨c.shared, r, .idle⟩ ∧ I made ⟨c.shared, r, .idle⟩ := by
  have settled : c₀.shared.cluster.Settled :=
    Cluster.Reached.settled fresh ⟨0, connecting contacts report,
      List.mem_append_right _ List.mem_cons_self, connect_operations connected⟩
  have requests : c₀.requests = [] := by rw [connect_eq connected]; rfl
  have first : Supplying policies I c₀ := by
    refine ⟨by rw [connect_eq connected]; rfl, settled, fun r hr => ?_⟩
    rw [requests] at hr
    cases hr
  have k : Supplying policies I c := run?_invariant (fun k h => k.step lasting h) first ran
  exact k.each

end Client

end CqlDispatch
