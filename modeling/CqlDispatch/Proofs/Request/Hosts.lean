import CqlDispatch.Proofs.Admission.Ledger
import CqlDispatch.Proofs.Cluster.Course
import CqlDispatch.Proofs.Request.Attempts
import CqlDispatch.Proofs.Request.Strides
/-!
# Who is given which host

The plan of a request is one for all its executions, and it gives each host out once.  An execution sends only to
hosts that it was given itself, so attempts at one address are all of one execution.  What the executions were given and
what the plan still offers are registered hosts, each once, all along (`Supplied`).
-/
namespace CqlDispatch

/-- **A pull gives out what was on offer**, and offers it no more. -/
theorem Plan.pull_gives {made now : Registry} (ext : made.Extends now) {plan rest : Plan} {found : Option HostId}
    (careful : plan.Careful made.hosts.length) (offer : plan.pull now = (found, rest)) (before : List HostId) :
    rest.Careful made.hosts.length ∧ ∃ passed,
      (before ++ plan.offers made).Perm (passed ++ ((found.toList ++ before) ++ rest.offers made)) := by
  obtain ⟨⟨careful', -, -, passed, -, perm⟩, -⟩ := Plan.offers_pull ext careful
  rw [offer] at careful' perm
  refine ⟨careful', passed, (perm.append_left before).trans ?_⟩
  refine (List.perm_append_comm_assoc ..).trans (List.Perm.append_left passed ?_)
  rw [List.append_assoc]
  exact List.perm_append_comm_assoc ..

namespace Request

/-- An execution was given this host, which has this address. -/
def Given (made : Registry) (events : List RequestEvent) (i : Nat) (h : HostId) (a : Address) : Prop :=
  .pulled i h ∈ events ∧ a = (made.host h).address

/-- The host that an execution at work has, it was given. -/
def AtWork (made : Registry) (events : List RequestEvent) : Focus → Prop
  | .idle => True
  | .seeking i _ host => ∀ h ∈ host, .pulled i h ∈ events
  | .judging e h a _ => Given made events e.index h a

/-- A request on a plan that was made on this registry: no host is given out twice, and every execution keeps to the
hosts that it was given. -/
structure Supplied (made : Registry) (g : Stage) : Prop where
  wellFormed : made.WellFormed
  later : made.Extends g.shared.cluster.registry
  careful : g.request.plan.Careful made.hosts.length
  distinct : (taken g.request.events ++ g.request.plan.offers made).Nodup
  members : ∀ h ∈ taken g.request.events ++ g.request.plan.offers made, h ∈ made.topology.ids
  waiting : ∀ e ∈ g.request.executions, Given made g.request.events e.index e.phase.host e.phase.address
  atWork : AtWork made g.request.events g.focus
  sent : ∀ a ∈ attempts g.request.events, Given made g.request.events a.execution a.host a.address

theorem mem_taken_of_pulled {i : Nat} {h : HostId} {events : List RequestEvent} (given : .pulled i h ∈ events) :
    h ∈ taken events := by
  induction events with
  | nil => cases given
  | cons e earlier ih =>
    rcases List.mem_cons.1 given with rfl | earlier
    · exact List.mem_cons_self
    · cases e with
      | pulled j k => exact List.mem_cons_of_mem _ (ih earlier)
      | _ => exact ih earlier

/-- A host that is given out once has one execution. -/
theorem pulled_inj {i j : Nat} {h : HostId} {events : List RequestEvent} (once : (taken events).Nodup)
    (hi : .pulled i h ∈ events) (hj : .pulled j h ∈ events) : i = j := by
  induction events with
  | nil => cases hi
  | cons e earlier ih =>
    cases e with
    | pulled k h' =>
      obtain ⟨fresh, once⟩ := List.nodup_cons.1 once
      rcases List.mem_cons.1 hi with hi' | hi' <;> rcases List.mem_cons.1 hj with hj' | hj'
      · cases hi'
        cases hj'
        rfl
      · cases hi'
        exact absurd (mem_taken_of_pulled hj') fresh
      · cases hj'
        exact absurd (mem_taken_of_pulled hi') fresh
      · exact ih once hi' hj'
    | _ => exact ih once ((List.mem_cons.1 hi).resolve_left nofun) ((List.mem_cons.1 hj).resolve_left nofun)

variable {made : Registry} {events : List RequestEvent} {p : Policies} {g g' : Stage} {s : Shared} {r : Request}

theorem Given.later {i : Nat} {h : HostId} {a : Address} (given : Given made events i h a) (e : RequestEvent) :
    Given made (e :: events) i h a := ⟨List.mem_cons_of_mem e given.1, given.2⟩

theorem Supplied.pull (k : Supplied made g) {found : Option HostId} {plan : Plan}
    (offer : g.request.plan.pull g.shared.cluster.registry = (found, plan)) :
    plan.Careful made.hosts.length ∧ ((found.toList ++ taken g.request.events) ++ plan.offers made).Nodup ∧
      ∀ h ∈ (found.toList ++ taken g.request.events) ++ plan.offers made, h ∈ made.topology.ids := by
  obtain ⟨careful, passed, perm⟩ := Plan.pull_gives k.later k.careful offer (taken g.request.events)
  refine ⟨careful, (List.nodup_append.1 (perm.nodup_iff.1 k.distinct)).2.1, fun h hh => ?_⟩
  exact k.members h (perm.mem_iff.2 (List.mem_append_right _ hh))

/-- The address of a host that was given out stays. -/
theorem Supplied.given (k : Supplied made g) {i : Nat} {h : HostId} (pulled : .pulled i h ∈ g.request.events) :
    Given made g.request.events i h (g.shared.host h).address :=
  ⟨pulled, k.later.address h (k.wellFormed.lt_of_mem (k.members h
    (List.mem_append_left _ (mem_taken_of_pulled pulled))))⟩

theorem Supplied.finish (k : Supplied made g) (s : Shared) (o : Outcome)
    (later : made.Extends (g.request.finish s o).1.cluster.registry) :
    Supplied made (.rest (g.request.finish s o)) :=
  ⟨k.wellFormed, later, k.careful, k.distinct, k.members, nofun, trivial,
    fun a ha => (k.sent a ha).later _⟩

theorem Supplied.lose (k : Supplied made g) (s : Shared) (o : Overflow)
    (later : made.Extends (g.request.lose s o).1.cluster.registry) : Supplied made (.rest (g.request.lose s o)) :=
  ⟨k.wellFormed, later, k.careful, k.distinct, k.members, nofun, trivial, k.sent⟩

/-- An execution sends to the host that it was given. -/
theorem Supplied.sends (k : Supplied made g) {i : Nat} {h : HostId} (pulled : .pulled i h ∈ g.request.events)
    (admission : Admission) (c : Consistency) (t : Ticket) :
    Supplied made (.rest (g.request.send { g.shared with admission := admission } i c h t)) := by
  have given := k.given pulled
  refine ⟨k.wellFormed, k.later, k.careful, k.distinct, k.members, fun e he => ?_, trivial, fun a ha => ?_⟩
  · rcases List.mem_append.1 he with he | he
    · exact (k.waiting e he).later _
    · obtain rfl := List.mem_singleton.1 he
      exact given.later _
  · rcases List.mem_cons.1 ha with rfl | ha
    · exact given.later _
    · exact (k.sent a ha).later _

theorem Supplied.without (k : Supplied made ⟨s, r, .idle⟩) (i : Nat) : Supplied made ⟨s, r.without i, .idle⟩ :=
  ⟨k.wellFormed, k.later, k.careful, k.distinct, k.members, fun e he => k.waiting e (List.mem_filter.1 he).1, trivial,
    k.sent⟩

/-- The retry policy has decided. -/
theorem Supplied.decided {e : Execution} {h : HostId} {a : Address} {ans : Answer}
    (k : Supplied made ⟨s, r, .judging e h a ans⟩) (d : Decision) :
    Supplied made ⟨s, r.record s (.decided e.index a d), .judging e h a ans⟩ :=
  ⟨k.wellFormed, k.later, k.careful, k.distinct, k.members, fun e he => (k.waiting e he).later _, k.atWork.later _,
    fun a ha => (k.sent a ha).later _⟩

/-- **Every stride keeps to what was given.** -/
theorem Supplied.stride (k : Supplied made g) (stride : Stride p g g') : Supplied made g' := by
  have later : made.Extends g'.shared.cluster.registry := by
    rw [stride.shared]
    exact k.later
  cases stride with
  | pulled offer =>
    obtain ⟨careful, distinct, members⟩ := k.pull offer
    exact ⟨k.wellFormed, later, careful, distinct, members, fun e he => (k.waiting e he).later _,
      fun h hh => Option.some.inj hh ▸ List.mem_cons_self, fun a ha => (k.sent a ha).later _⟩
  | ranDry dry | spent _ _ dry =>
    obtain ⟨careful, distinct, members⟩ := k.pull dry
    exact ⟨k.wellFormed, later, careful, distinct, members, fun e he => (k.waiting e he).later _, trivial,
      fun a ha => (k.sent a ha).later _⟩
  | copied live due offer timed =>
    obtain ⟨careful, distinct, members⟩ := k.pull offer
    exact ⟨k.wellFormed, later, careful, distinct, members, fun e he => ((k.waiting e he).later _).later _,
      fun h hh => Option.some.inj hh ▸ List.mem_cons_of_mem _ List.mem_cons_self,
      fun a ha => ((k.sent a ha).later _).later _⟩
  | passed down =>
    exact ⟨k.wellFormed, later, k.careful, k.distinct, k.members, k.waiting, nofun, k.sent⟩
  | busy => exact ⟨k.wellFormed, later, k.careful, k.distinct, k.members, k.waiting, nofun, k.sent⟩
  | refused up asked =>
    exact ⟨k.wellFormed, later, k.careful, k.distinct, k.members, fun e he => (k.waiting e he).later _, nofun,
      fun a ha => (k.sent a ha).later _⟩
  | @closed s r i e h a t f admission live waits queued found =>
    have on := k.without i
    exact ⟨k.wellFormed, later, k.careful, k.distinct, k.members, fun e he => (on.waiting e he).later _, nofun,
      fun a ha => (k.sent a ha).later _⟩
  | @queued s r i c h t admission up asked =>
    have given := k.given (k.atWork h rfl)
    refine ⟨k.wellFormed, later, k.careful, k.distinct, k.members, fun e he => ?_, trivial, k.sent⟩
    rcases List.mem_append.1 he with he | he
    · exact k.waiting e he
    · obtain rfl := List.mem_singleton.1 he
      exact given
  | @granted s r i c h t admission up asked => exact k.sends (k.atWork h rfl) admission c t
  | @answered s r i ans e h a t live waits sent =>
    obtain ⟨he, rfl⟩ := mem_of_execution? waits
    have given := k.waiting e he
    rw [sent] at given
    exact ⟨k.wellFormed, later, k.careful, k.distinct, k.members,
      fun e' he' => (k.waiting e' (List.mem_filter.1 he').1).later _, given.later _, fun a ha => (k.sent a ha).later _⟩
  | succeeded | failed => exact k.finish _ _ later
  | lost => exact k.lose _ _ later
  | rethrown asked decided => exact (k.decided .rethrow).finish _ _ later
  | ignored asked decided => exact (k.decided .ignore).finish _ _ later
  | @retried s r e h a f setback level sameHost asked decided =>
    have on := k.decided (.retry level sameHost)
    refine ⟨k.wellFormed, later, on.careful, on.distinct, on.members, on.waiting, fun h' hh' => ?_, on.sent⟩
    split at hh'
    · exact Option.some.inj hh' ▸ on.atWork.1
    · cases hh'
  | @resumed s r i e h a t admission live waits queued found =>
    obtain ⟨he, rfl⟩ := mem_of_execution? waits
    have given := k.waiting e he
    rw [queued] at given
    exact (k.without _).sends given.1 admission _ _

/-! ## What lasts -/

/-- What a request has from its start on, as long as it keeps to its hosts, whatever happens elsewhere.  It may depend
on the registry on which the plan was made. -/
structure Lasting (p : Policies) (I : Registry → Stage → Prop) : Prop where
  planless : ∀ made s statement options, I made ⟨s, submitted s statement options, .idle⟩
  hostless : ∀ made s statement options rest, rest.Ended → I made ⟨s, stillborn s statement options rest, .idle⟩
  opens : ∀ {made s statement options h rest next},
    (∀ t ∈ next, firstCopyDue p (begun s statement options h rest next).shared (opened s statement options h rest) =
      .ok (some t)) → I made (begun s statement options h rest next)
  stride : ∀ {made g g'}, Supplied made g → I made g → Stride p g g' → I made g'
  elsewhere : ∀ {made s s' r}, I made ⟨s, r, .idle⟩ → I made ⟨s', r, .idle⟩

variable {I : Registry → Stage → Prop}

/-- A plan that offers registered hosts, each once, supplies a request. -/
theorem Lasting.startOn (lasting : Lasting p I) (wellFormed : s.cluster.registry.WellFormed) (statement : Statement)
    (options : ExecutionOptions) {plan : Plan} (careful : plan.Careful s.cluster.registry.hosts.length)
    (distinct : (plan.offers s.cluster.registry).Nodup)
    (members : ∀ h ∈ plan.offers s.cluster.registry, h ∈ s.cluster.registry.topology.ids) :
    Supplied s.cluster.registry (.rest (startOn p s statement options plan)) ∧
      I s.cluster.registry (.rest (startOn p s statement options plan)) := by
  have fresh : Supplied s.cluster.registry
      ⟨s, { submitted s statement options with plan := plan }, .idle⟩ :=
    ⟨wellFormed, .refl _, careful, distinct, members, nofun, trivial, nofun⟩
  refine startOn_keeps (I := fun g => Supplied s.cluster.registry g ∧ I s.cluster.registry g)
    (fun k stride => ⟨k.1.stride stride, lasting.stride k.1 k.2 stride⟩) (fun rest dry => ⟨?_, ?_⟩)
    fun h rest next offer timed => ⟨?_, lasting.opens timed⟩
  · obtain ⟨careful, distinct, members⟩ := fresh.pull dry
    exact ⟨wellFormed, .refl _, careful, distinct, members, nofun, trivial, nofun⟩
  · exact lasting.hostless _ _ _ _ _ (Plan.ended_of_pull dry)
  · obtain ⟨careful, distinct, members⟩ := fresh.pull offer
    exact ⟨wellFormed, .refl _, careful, distinct, members, nofun,
      fun h hh => Option.some.inj hh ▸ List.mem_cons_self, nofun⟩

/-- **The plans of a balancer that was initialized** are such plans. -/
theorem Lasting.start (lasting : Lasting p I) (settled : s.cluster.Settled) (statement : Statement)
    (options : ExecutionOptions) : Supplied s.cluster.registry (.rest (start p s statement options)) ∧
      I s.cluster.registry (.rest (start p s statement options)) := by
  let planned : Shared := { s with cluster := (s.cluster.plan options.keyspace options).2 }
  rcases start_cases p s statement options with ⟨-, he⟩ | ⟨o, -, he⟩
  · obtain ⟨careful, perm⟩ := Balancer.plan_offers settled.wellFormed options.keyspace options settled.bound
    rw [he]
    refine lasting.startOn (s := planned) settled.wellFormed statement options careful ?_ fun h hh =>
      (Balancer.mem_eligible.1 (perm.mem_iff.1 hh)).1
    exact perm.nodup_iff.2 (settled.wellFormed.ids_nodup.filter _)
  · have supplied : Supplied s.cluster.registry ⟨planned, submitted planned statement options, .idle⟩ :=
      ⟨settled.wellFormed, .refl _, rfl, .nil, nofun, nofun, trivial, nofun⟩
    have lost : Stride p ⟨planned, submitted planned statement options, .idle⟩
      (.rest ((submitted planned statement options).lose planned o)) := .lost rfl
    rw [he]
    exact ⟨supplied.stride lost, lasting.stride supplied (lasting.planless ..) lost⟩

/-- Hosts that come later do not undo what was given. -/
theorem Supplied.grown (k : Supplied made ⟨s, r, .idle⟩) {s' : Shared}
    (grown : s.cluster.registry.Extends s'.cluster.registry) : Supplied made ⟨s', r, .idle⟩ :=
  ⟨k.wellFormed, k.later.trans grown, k.careful, k.distinct, k.members, k.waiting, trivial, k.sent⟩

end Request

end CqlDispatch
