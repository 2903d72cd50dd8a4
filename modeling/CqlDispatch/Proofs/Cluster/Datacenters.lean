import CqlDispatch.Proofs.Balancer.Datacenters
import CqlDispatch.Proofs.Cluster.Answers
import CqlDispatch.Proofs.Plan.Listing
/-!
# The local datacenter first

Operations set a datacenter-aware balancer up once, and from then on its local datacenter and its bound stay
as they are (`setting?_performAll`).  What it then makes of the hosts, wherever it stands in the balancer, is
said by two structures: `Ranks` for the distances, `LocalFirst` for the plans.  A plan is a walk, and a walk
yields no host before those ahead of it have been yielded or were down (`course_walk`), so the remote hosts
wait for all local ones that are up.
-/
namespace CqlDispatch

/-- The distances of a datacenter-aware balancer.  A host without a datacenter is local only where every host is,
and else counts as one of the datacenter with the empty name. -/
structure DcAware.Ranks (d : DcAware) (r : Registry) : Prop where
  /-- The local hosts are those of the local datacenter; where there is none, all hosts are. -/
  near (x : Host) : (d.distance r x).1 = .near ↔ ∀ dc ∈ d.local?, x.datacenter = some dc
  /-- The other hosts of a datacenter, by address. -/
  sorted (dc : String) : (d.outside r dc).Pairwise fun h k => (r.host h).address < (r.host k).address
  /-- The first of them are remote, as many as the bound says. -/
  remote (dc : String) : (d.outside r dc).filter (fun h => (d.distance r (r.host h)).1 = .remote) =
    (d.outside r dc).take d.perRemoteDc
  /-- All others are ignored. -/
  ignored (dc : String) : (d.outside r dc).filter (fun h => (d.distance r (r.host h)).1 = .ignored) =
    (d.outside r dc).drop d.perRemoteDc

namespace Cluster

/-- The hosts in the order in which a plan comes to them: the local ones by address and then the remote ones by
datacenter and address, each of the two lists read from where the counter points to, on and around. -/
structure PlanOrder (d : DcAware) (r : Registry) (remote order : List HostId) : Prop where
  hosts : remote.Perm (r.topology.ids.filter fun h => (d.distance r (r.host h)).1 = .remote)
  sorted : remote.Pairwise (DcAware.ListedBefore r)
  rotated : order = (r.topology.ids.filter fun h => (d.distance r (r.host h)).1 = .near).rotate d.turn.toNat ++
    remote.rotate d.turn.toNat

/-- The plans of a datacenter-aware balancer. -/
structure LocalFirst (d : DcAware) (r : Registry) : Prop where
  /-- While nothing happens to the hosts, those that are up are yielded in this order. -/
  order : ∃ remote order, PlanOrder d r remote order ∧ (d.plan r).1.toList r = order.filter r.isUp
  /-- The next plan starts one host further. -/
  turn : (d.plan r).2.turn = d.turn + 1
  /-- Whatever happens to the hosts, a local one is yielded before a remote one unless it was found down. -/
  before : ∀ c, c.registry = r → ∀ turns pre x post, course c (d.plan r).1 turns = pre ++ x :: post →
    ∀ y ∈ x.2, (d.distance r (r.host y)).1 = .remote →
      ∀ h ∈ r.topology.ids, (d.distance r (r.host h)).1 = .near →
        h ∈ yields pre ∨ ∃ z ∈ pre ++ [x], z.1.isUp h = false

/-! ## The order of a walk -/

/-- **A walk yields no host out of turn.** -/
theorem course_walk {y : HostId} : ∀ (turns : List Turn) {c : Cluster} {l : List HostId} {pre x post},
    course c (.walk l) turns = pre ++ x :: post → x.2 = some y →
      ∃ l₁ l₂, l = l₁ ++ y :: l₂ ∧ ∀ h ∈ l₁, h ∈ yields pre ∨ ∃ z ∈ pre ++ [x], z.1.isUp h = false
  | [], _, _, pre, x, post, hs, _ => by simp [course] at hs
  | .operate o :: turns, _, _, _, _, _, hs, hx => course_walk turns hs hx
  | .pull :: turns, c, l, pre, x, post, hs, hx => by
    obtain ⟨passed, rest, hl, hrest, hdown⟩ := Plan.pull_walk c.registry l
    rw [course, hrest] at hs
    cases pre with
    | nil =>
      obtain ⟨rfl, -⟩ := List.cons.inj hs
      rw [show ((Plan.walk l).pull c.registry).1 = some y from hx] at hl
      exact ⟨passed, rest, hl, fun h hh => .inr ⟨_, List.mem_singleton_self _, hdown h hh⟩⟩
    | cons z pre =>
      obtain ⟨rfl, htail⟩ := List.cons.inj hs
      obtain ⟨l₁, l₂, rfl, hbefore⟩ := course_walk turns htail hx
      refine ⟨passed ++ (((Plan.walk l).pull c.registry).1.toList ++ l₁), l₂, ?_, fun h hh => ?_⟩
      · simpa using hl
      rw [yields_cons, List.mem_append]
      rcases List.mem_append.1 hh with hh | hh
      · exact .inr ⟨_, List.mem_cons_self, hdown h hh⟩
      · rcases List.mem_append.1 hh with hh | hh
        · exact .inl (.inl hh)
        · rcases hbefore h hh with hy | ⟨z, hz, hzdown⟩
          · exact .inl (.inr hy)
          · exact .inr ⟨z, List.mem_cons_of_mem _ hz, hzdown⟩

/-- What stands in the first part of a list is ahead of what stands in the second part only. -/
theorem mem_ahead {α : Type} {near remote l₁ l₂ : List α} {y h : α} (split : near ++ remote = l₁ ++ y :: l₂)
    (hy : y ∉ near) (hh : h ∈ near) : h ∈ l₁ := by
  rcases List.append_eq_append_iff.1 split with ⟨between, hl₁, -⟩ | ⟨between, hnear, hcons⟩
  · rw [hl₁]
    exact List.mem_append_left _ hh
  · cases between with
    | nil => rwa [hnear, List.append_nil] at hh
    | cons z between =>
      obtain ⟨rfl, -⟩ := List.cons.inj hcons
      exact absurd (hnear ▸ List.mem_append_right _ List.mem_cons_self) hy

theorem Settled.localFirst {c : Cluster} (settled : c.Settled) {d : DcAware}
    (bound : (Balancer.dcAware d).Bound c.registry) : LocalFirst d c.registry := by
  obtain ⟨remote, hhosts, hsorted, hplan, hturn⟩ := bound.plan_walk settled.wellFormed
  refine ⟨⟨remote, _, ⟨hhosts, hsorted, rfl⟩, ?_⟩, hturn, ?_⟩
  · rw [hplan]
    exact (Plan.lists_walk c.registry _).toList_eq
  · intro c' _ turns pre x post hs y hy hremote h hid hnear
    rw [hplan] at hs
    obtain ⟨l₁, l₂, hsplit, hbefore⟩ := course_walk turns hs hy
    refine hbefore h (mem_ahead hsplit (fun hm => ?_) ?_)
    · have hlocal := (List.mem_filter.1 (List.mem_rotate.1 hm)).2
      rw [hremote] at hlocal
      cases hlocal
    · exact List.mem_rotate.2 (List.mem_filter.2 ⟨hid, decide_eq_true hnear⟩)

theorem Settled.ranks {c : Cluster} (settled : c.Settled) {d : DcAware}
    (bound : (Balancer.dcAware d).Bound c.registry) : d.Ranks c.registry :=
  ⟨bound.distance_near, DcAware.outside_sorted settled.wellFormed,
    fun dc => (bound.distance_outside settled.wellFormed dc).1,
    fun dc => (bound.distance_outside settled.wellFormed dc).2⟩

/-! ## The setting -/

theorem setting?_perform {c : Cluster} {o : Operation} (ready : o = .initBalancer → c.Settled) :
    (c.perform o).balancer.setting? = c.balancer.setting? := by
  cases hq : o.question? with
  | none => rw [← Balancer.setting?_forget, forget_perform ready hq, Balancer.setting?_forget]
  | some q =>
    cases o with
    | plan keyspace options => exact Balancer.setting?_plan _ _ _ _
    | distance h => exact Balancer.setting?_distance _ _ _
    | add | report | startReconnecting | refresh | refreshDistances | classifyBy | setReplicationFactor
      | initBalancer => cases hq

/-- **Operations leave the setting of the balancer**, once it was initialized and until then. -/
theorem setting?_performAll : ∀ (ops : List Operation) {c : Cluster}, (.initBalancer ∈ ops → c.Settled) →
    (c.performAll ops).balancer.setting? = c.balancer.setting?
  | [], _, _ => rfl
  | o :: ops, c, ready => by
    have hfirst : (c.perform o).balancer.setting? = c.balancer.setting? :=
      setting?_perform fun ho => ready (ho ▸ List.mem_cons_self)
    refine Eq.trans (setting?_performAll ops fun hm => ?_) hfirst
    exact (ready (List.mem_cons_of_mem o hm)).perform o

/-- A datacenter-aware balancer is fresh as long as it has resolved nothing. -/
theorem unsettled_of_unresolved {c : Cluster} (h : c.Unsettled ∨ c.Settled) {d : DcAware}
    (hd : c.balancer.dcAware? = some d) (unresolved : d.localDc = none) : c.Unsettled := by
  refine h.resolve_right fun settled => ?_
  have hresolved := (settled.bound.of_dcAware? hd).2.1
  rw [unresolved] at hresolved
  cases hresolved

theorem exists_of_setting? {b : Balancer} {s : DcAware} (h : b.setting? = some s) :
    ∃ d, b.dcAware? = some d ∧ d.setting = s :=
  Option.map_eq_some_iff.1 h

/-- **The local datacenter first.**  Operations have set up a balancer with a datacenter-aware layer.  Its bound is
the one that it was given, and its local datacenter the configured one, or else that of the first host that
had one when the balancer was initialized.  By these it ranks the hosts of the registry, and makes its plans. -/
theorem datacenters_ranked {b : Balancer} (fresh : b.Fresh) {d₀ : DcAware} (aware : b.dcAware? = some d₀) (id : Nat)
    (before after : List Operation) (first : .initBalancer ∉ before) :
    let start : Cluster := { registry := { id := id }, balancer := b }
    let c := start.performAll (before ++ .initBalancer :: after)
    ∃ d, c.balancer.dcAware? = some d ∧ d.perRemoteDc = d₀.perRemoteDc ∧
      d.local? = d₀.configured.or ((start.performAll before).registry.members.findSome? (·.datacenter)) ∧
      d.Ranks c.registry ∧ LocalFirst d c.registry := by
  intro start c
  have hsettled : c.Settled :=
    Reached.settled fresh ⟨id, _, List.mem_append_right before List.mem_cons_self, rfl⟩
  -- Until the first initialization the setting is the one that was given.
  have hgiven : (start.performAll before).balancer.setting? = some d₀.setting :=
    (setting?_performAll before fun hm => absurd hm first).trans (congrArg (Option.map DcAware.setting) aware)
  obtain ⟨d₁, hd₁, hset₁⟩ := exists_of_setting? hgiven
  have hunsettled : (start.performAll before).Unsettled := by
    have hrun := (performAll_changes before start).keeps (I := fun c => c.Unsettled ∨ c.Settled)
      (fun h hc => Unsettled.change h hc) (.inl ⟨Registry.wellFormed_empty id, fresh⟩)
    have hunresolved := (fresh.of_dcAware? aware).2.1
    exact unsettled_of_unresolved hrun hd₁ ((congrArg DcAware.localDc hset₁).trans hunresolved)
  -- From then on it is the one that was made out then.
  have hmade : ((start.performAll before).perform .initBalancer).balancer.setting? =
      some (d₀.setting.settled (start.performAll before).registry) :=
    (hunsettled.fresh.setting?_init _).trans (congrArg (Option.map _) hgiven)
  have hready : ((start.performAll before).perform .initBalancer).Settled :=
    ⟨hunsettled.wellFormed, hunsettled.fresh.init⟩
  have hsplit : c = ((start.performAll before).perform .initBalancer).performAll after :=
    performAll_append start before _
  obtain ⟨d, hd, hset⟩ := exists_of_setting? ((hsplit ▸ setting?_performAll after fun _ => hready).trans hmade)
  have hlimit := congrArg DcAware.perRemoteDc hset
  have hlocal := congrArg DcAware.local? hset
  have hbound := hsettled.bound.of_dcAware? hd
  exact ⟨d, hd, hlimit, hlocal, hsettled.ranks hbound, hsettled.localFirst hbound⟩

/-- One host in a datacenter, two in another, one in none. -/
def fourHosts : List Operation :=
  [.add ⟨.v4 1, 0⟩ (some { datacenter := some "a" }), .add ⟨.v4 2, 0⟩ (some { datacenter := some "b" }),
    .add ⟨.v4 3, 0⟩ (some { datacenter := some "b" }), .add ⟨.v4 4, 0⟩ none]

theorem one_host_of_each_other_datacenter :
    ∃ d r, d.local? = some "a" ∧ d.outside r "b" = [1, 2] ∧ d.outside r "" = [3] ∧
      (d.plan r).1.toList r = [0, 3, 1] ∧ d.Ranks r ∧ LocalFirst d r := by
  have hfresh : Balancer.Fresh (.dcAware { perRemoteDc := 1 }) := ⟨rfl, rfl, rfl⟩
  obtain ⟨d, hd, -, hlocal, hranks, hplans⟩ :=
    datacenters_ranked hfresh rfl 0 fourHosts [] (by simp [fourHosts])
  obtain rfl := Option.some.inj hd
  exact ⟨_, _, hlocal, by rfl, by rfl, by rfl, hranks, hplans⟩

end Cluster

end CqlDispatch
