import CqlDispatch.Proofs.Client.Step
import CqlDispatch.Proofs.Cluster.Ranking
import CqlDispatch.Proofs.Cluster.Snapshot
/-!
# Contact points of an unknown cluster

A client may connect to a cluster of which it learns nothing.  Its hosts are then its contact points, and of
these only the addresses are known (`connect_bare`).  The standard balancer ranks such a host by whether it
was told a local datacenter: if it was, a host without one is of no use to it (`distanceAnew_bare`).  So the
contact points that are up are planned exactly where no local datacenter was named (`contacts_planned`).
-/
namespace CqlDispatch

/-! ## Hosts of which nothing is known -/

/-- The standard balancer, bound to a registry of hosts of which nothing is known. -/
def Balancer.boundBare (localDc : Option String) (r : Registry) : Balancer :=
  .tokenAware (some r.id) (.dcAware { configured := localDc, localDc := some localDc, binding := some r.id })

namespace Cluster

theorem add_unclassified {c : Cluster} (x : Host) (k : c.classifier = none) :
    (c.add x).2.balancer = c.balancer ∧ (c.add x).2.classifier = none := by
  unfold add
  split
  · exact ⟨rfl, k⟩
  · unfold reclassify
    rw [k]
    exact ⟨rfl, rfl⟩

/-- A cluster that knows of its hosts no more than these addresses. -/
structure Bare (b : Balancer) (addresses : List Address) (c : Cluster) : Prop where
  wellFormed : c.registry.WellFormed
  balancer : c.balancer = b
  classifier : c.classifier = none
  plain : ∀ h ∈ c.registry.topology.ids, (c.registry.host h).metadata = none
  found : ∀ a ∈ addresses, (c.registry.find? a).isSome

theorem Bare.add {b : Balancer} {addresses : List Address} {c : Cluster} (bare : Bare b addresses c) (a : Address) :
    Bare b (addresses ++ [a]) (c.add { address := a }).2 := by
  obtain ⟨hbalancer, hclassifier⟩ := add_unclassified { address := a } bare.classifier
  refine ⟨(add_changes c a none).wellFormed bare.wellFormed, hbalancer.trans bare.balancer, hclassifier,
    fun h hm => ?_, fun d hd => ?_⟩
  · cases hf : c.registry.find? a with
    | some k =>
      rw [add_known (x := { address := a }) hf] at hm ⊢
      exact bare.plain h hm
    | none =>
      have rank := (add_new (x := { address := a }) hf).2
      rw [rank.topology] at hm
      rw [rank.metadata]
      rcases (Registry.mem_ids_enroll (r := c.registry) (x := { address := a }) hf).1 hm with rfl | hm
      · exact congrArg Host.metadata (Registry.host_enroll_new c.registry { address := a })
      · exact (congrArg Host.metadata (Registry.host_enroll_old (bare.wellFormed.lt_of_mem hm))).trans (bare.plain h hm)
  · rw [add_find?_isSome]
    rcases List.mem_append.1 hd with hd | hd
    · exact .inr (bare.found d hd)
    · exact .inl (List.mem_singleton.1 hd)

theorem Bare.addAll {b : Balancer} : ∀ (more : List Address) {addresses : List Address} {c : Cluster},
    Bare b addresses c → Bare b (addresses ++ more) (c.performAll (more.map (.add · none)))
  | [], addresses, _, bare => (List.append_nil addresses).symm ▸ bare
  | a :: more, addresses, _, bare => by
    rw [List.append_cons]
    exact Bare.addAll more (bare.add a)

/-- The first datacenter that is known is nobody's. -/
theorem Bare.init {localDc : Option String} {addresses : List Address} {c : Cluster}
    (bare : Bare (.standard localDc) addresses c) :
    c.balancer.init c.registry = (.ok (), .boundBare localDc c.registry) := by
  have hnone : c.registry.members.findSome? (·.datacenter) = none := by
    refine List.findSome?_eq_none_iff.2 fun x hx => ?_
    obtain ⟨h, hm, rfl⟩ := List.mem_map.1 hx
    unfold Host.datacenter
    rw [bare.plain h hm]
    rfl
  have hresolve : DcAware.resolve { configured := localDc } c.registry =
      { configured := localDc, localDc := some localDc } := by
    unfold DcAware.resolve
    rw [hnone, Option.or_none]
  rw [bare.balancer]
  show ((Balancer.init (.dcAware { configured := localDc }) c.registry).1,
    Balancer.tokenAware (some c.registry.id) (Balancer.init (.dcAware { configured := localDc }) c.registry).2) = _
  unfold Balancer.init
  rw [hresolve]
  rfl

end Cluster

/-- **A host of which nothing is known is local where no datacenter is, and else it is ignored.** -/
theorem Balancer.distanceAnew_bare (localDc : Option String) (bound r : Registry) {x : Host}
    (plain : x.metadata = none) :
    (boundBare localDc bound).distanceAnew r x = if localDc = none then .near else .ignored := by
  have hdc : x.datacenter = none := by
    unfold Host.datacenter
    rw [plain]
    rfl
  show DcAware.distanceAnew _ r x = _
  unfold DcAware.distanceAnew DcAware.isLocal DcAware.local?
  cases localDc with
  | none => rfl
  | some dc =>
    have hremote : ∀ (d : DcAware) (seen : Registry), d.perRemoteDc = 0 → (d.split seen).remoteAddresses = [] := by
      intro d seen hzero
      unfold DcAware.split
      simp [hzero]
    simp only [Option.join_some, hdc]
    cases boundTo (some bound.id) r with
    | none => rfl
    | some seen => simp [hremote]

/-- **A plan yields the hosts that are up and not ignored**, while nothing else happens. -/
theorem Cluster.Settled.mem_plan_iff {c : Cluster} (settled : c.Settled) (keyspace : Option String)
    (options : ExecutionOptions) (h : HostId) :
    h ∈ (c.plan keyspace options).1.toList c.registry ↔ h ∈ c.registry.topology.ids ∧
      c.registry.isUp h = true ∧ c.balancer.distanceAnew c.registry (c.registry.host h) ≠ .ignored := by
  obtain ⟨careful, offers⟩ := Balancer.plan_offers settled.wellFormed keyspace options settled.bound
  have hlisted := ((Plan.toList_perm (Registry.Extends.refl c.registry) careful).trans
    (offers.filter c.registry.isUp)).mem_iff (a := h)
  refine hlisted.trans ?_
  rw [List.mem_filter, Balancer.mem_eligible, settled.bound.distance_anew, and_assoc, and_comm (b := _ = true)]

namespace Client

open Cluster (Bare)

/-- A client that learns nothing of its cluster starts on its contact points. -/
theorem connect_bare {policies : Policies} {localDc : Option String} (standard : policies.balancer = .standard localDc)
    {report : Except Failure (List Translated)} (unknown : ∀ ps, report = .ok ps → ps = []) (defaults : QueryDefaults)
    (limits : Limits) (contacts : List Address) :
    ∃ c₀ c₁, connect policies defaults limits contacts report = .ok c₀ ∧ Bare (.standard localDc) contacts c₁ ∧
      c₀.shared.cluster =
        { c₁ with balancer := .boundBare localDc c₁.registry : Cluster }.classifyBy .balancer := by
  have start : Bare (.standard localDc) [] { balancer := policies.balancer } :=
    ⟨Registry.wellFormed_empty 0, standard, rfl, fun h hm => absurd hm List.not_mem_nil,
      fun a ha => absurd ha List.not_mem_nil⟩
  have bare := start.addAll contacts
  rw [List.nil_append] at bare
  generalize hc : Cluster.performAll { balancer := policies.balancer } (contacts.map (.add · none)) = c₁ at bare
  have hfold : contacts.foldl (fun c a => (c.add { address := a }).2) { balancer := policies.balancer } = c₁ := by
    rw [← hc, Cluster.performAll, List.foldl_map]
    rfl
  have hinit : c₁.initBalancer = (.ok (), { c₁ with balancer := .boundBare localDc c₁.registry }) := by
    unfold Cluster.initBalancer
    rw [bare.init]
  have connects : ∃ c₀, connect policies defaults limits contacts report = .ok c₀ := by
    cases report with
    | error f =>
      unfold connect
      simp only [hfold, hinit]
      exact ⟨_, rfl⟩
    | ok ps =>
      cases unknown ps rfl
      unfold connect
      simp only [hfold]
      rw [show (c₁.applyTopology []).2 = c₁ from rfl]
      simp only [hinit]
      exact ⟨_, rfl⟩
  obtain ⟨c₀, connected⟩ := connects
  refine ⟨c₀, c₁, connected, bare, (connect_operations connected).trans ?_⟩
  have hreport : Cluster.performAll c₁ (report.toOption.toList.map .refresh) = c₁ := by
    cases report with
    | error f => rfl
    | ok ps =>
      cases unknown ps rfl
      rfl
  unfold Cluster.performAll at hc hreport ⊢
  unfold connecting
  rw [List.foldl_append, List.foldl_append, hc, hreport]
  exact congrArg (fun out => out.2.classifyBy .balancer) hinit

theorem run?_changes {actions : List Action} {c c' : Client} (h : c.run? actions = some c') :
    Cluster.Changes c.shared.cluster c'.shared.cluster :=
  run?_invariant (I := fun d => Cluster.Changes c.shared.cluster d.shared.cluster)
    (fun hd hstep => hd.trans (step?_effect hstep).changes) .refl h

/-- **Contact points of an unknown cluster are planned where no local datacenter was named.**  The first
topology report failed or was empty; then the client connects.  Whatever happens as long as the topology stays
the same: each contact point is registered, and a plan yields it exactly if it is up and the standard balancer
was told no local datacenter. -/
theorem contacts_planned {policies : Policies} {localDc : Option String} (standard : policies.balancer = .standard localDc)
    {report : Except Failure (List Translated)} (unknown : ∀ ps, report = .ok ps → ps = []) (defaults : QueryDefaults)
    (limits : Limits) (contacts : List Address) :
    ∃ c₀, connect policies defaults limits contacts report = .ok c₀ ∧
      ∀ actions c, c₀.run? actions = some c → c.registry.topology.version = c₀.registry.topology.version →
        ∀ a ∈ contacts, ∃ h, c.registry.find? a = some h ∧ ∀ keyspace options,
          h ∈ (c.shared.cluster.plan keyspace options).1.toList c.registry ↔
            c.registry.isUp h = true ∧ localDc = none := by
  obtain ⟨c₀, c₁, connected, bare, hcluster⟩ := connect_bare standard unknown defaults limits contacts
  refine ⟨c₀, connected, fun actions c run version a ha => ?_⟩
  let bound : Cluster := { c₁ with balancer := .boundBare localDc c₁.registry }
  have settled : bound.Settled := ⟨bare.wellFormed, rfl, rfl, rfl, fun _ hp => by cases hp⟩
  have changes : Cluster.Changes bound c.shared.cluster := by
    refine Relation.ReflTransGen.trans ?_ (run?_changes run)
    rw [hcluster]
    exact Cluster.classifyBy_changes bound .balancer
  have hversion : c.registry.topology.version = bound.registry.topology.version := by
    rw [version]
    show c₀.shared.cluster.registry.topology.version = _
    rw [hcluster]
    exact congrArg Topology.version (Cluster.topology_reclassify { bound with classifier := some .balancer })
  obtain ⟨topology, hosts⟩ := (changes.topology_cases settled.wellFormed).resolve_left fun hlt =>
    absurd hlt (hversion ▸ Nat.lt_irrefl _)
  obtain ⟨h, found⟩ := Option.isSome_iff_exists.1 (bare.found a ha)
  have found' : c.registry.find? a = some h := by
    unfold Registry.find?
    rw [show c.registry.topology = _ from topology]
    exact found
  have plain : (c.shared.cluster.registry.host h).metadata = none :=
    (hosts h).2.trans (bare.plain h (Registry.mem_ids_of_find? found))
  refine ⟨h, found', fun keyspace options => ((settled.changes changes).mem_plan_iff keyspace options h).trans ?_⟩
  rw [changes.distanceAnew settled, Balancer.distanceAnew_bare localDc c₁.registry _ plain]
  have hm : h ∈ c.shared.cluster.registry.topology.ids := Registry.mem_ids_of_find? (r := c.registry) found'
  show _ ↔ c.shared.cluster.registry.isUp h = true ∧ localDc = none
  by_cases hdc : localDc = none <;> simp [hdc, hm]

def twoContacts : List Address := [⟨.v4 0x0a000001, 9042⟩, ⟨.v4 0x0a000002, 9042⟩]

def unreachable : Except Failure (List Translated) := .error (.connection "refused")

/-- The second contact point goes down, and only the first is planned. -/
theorem reachable_contact_planned :
    ∃ c₀ c, connect (.standard none) {} {} twoContacts unreachable = .ok c₀ ∧
      c₀.run? [.report (.hostDown ⟨.v4 0x0a000002, 9042⟩ "reset")] = some c ∧
      c.registry.isUp 0 = true ∧ c.registry.isUp 1 = false ∧ ∀ keyspace options,
        0 ∈ (c.shared.cluster.plan keyspace options).1.toList c.registry ∧
          1 ∉ (c.shared.cluster.plan keyspace options).1.toList c.registry := by
  obtain ⟨c₀, connected, planned⟩ := contacts_planned (show (Policies.standard none).balancer = .standard none from rfl)
    (fun ps (h : unreachable = .ok ps) => by cases h) {} {} twoContacts
  have run : ∃ c₀ ∈ (connect (.standard none) {} {} twoContacts unreachable).toOption,
      ∃ c ∈ c₀.run? [.report (.hostDown ⟨.v4 0x0a000002, 9042⟩ "reset")],
        c.registry.topology.version = c₀.registry.topology.version ∧
          c.registry.find? ⟨.v4 0x0a000001, 9042⟩ = some 0 ∧ c.registry.find? ⟨.v4 0x0a000002, 9042⟩ = some 1 ∧
          c.registry.isUp 0 = true ∧ c.registry.isUp 1 = false := by
    decide +kernel
  obtain ⟨d₀, hd₀, c, ran, version, first, second, up, down⟩ := run
  obtain rfl : d₀ = c₀ := Except.ok.inj ((connect_of_mem hd₀).symm.trans connected)
  obtain ⟨h, hh, hplan⟩ := planned _ c ran version _ List.mem_cons_self
  obtain ⟨k, hk, kplan⟩ := planned _ c ran version _ (List.mem_cons_of_mem _ List.mem_cons_self)
  cases Option.some.inj (first.symm.trans hh)
  cases Option.some.inj (second.symm.trans hk)
  refine ⟨d₀, c, connected, ran, up, down, fun keyspace options => ⟨(hplan keyspace options).2 ⟨up, rfl⟩, fun hm => ?_⟩⟩
  exact Bool.false_ne_true (down.symm.trans ((kplan keyspace options).1 hm).1)

/-- **A contact point that is up is in no plan where a local datacenter was named**: nothing is known about
where it is. -/
theorem contact_point_unplanned :
    ¬ ∀ {policies : Policies} {localDc : Option String} {defaults : QueryDefaults} {limits : Limits}
      {contacts : List Address} {report : Except Failure (List Translated)} {c₀ : Client},
      policies.balancer = .standard localDc → (∀ ps, report = .ok ps → ps = []) →
      connect policies defaults limits contacts report = .ok c₀ →
      ∀ a ∈ contacts, ∀ h, c₀.registry.find? a = some h → c₀.registry.isUp h = true →
        ∀ keyspace options, h ∈ (c₀.shared.cluster.plan keyspace options).1.toList c₀.registry := by
  intro always
  have run : ∃ c₀ ∈ (connect (.standard (some "dc1")) {} {} twoContacts unreachable).toOption,
      c₀.registry.find? ⟨.v4 0x0a000001, 9042⟩ = some 0 ∧ c₀.registry.isUp 0 = true ∧
        0 ∉ (c₀.shared.cluster.plan none ({} : QueryDefaults).options).1.toList c₀.registry := by
    decide +kernel
  obtain ⟨c₀, connected, found, up, unplanned⟩ := run
  exact unplanned (always rfl (fun _ h => by cases h) (connect_of_mem connected) _ List.mem_cons_self 0 found up
    none ({} : QueryDefaults).options)

end Client

end CqlDispatch
