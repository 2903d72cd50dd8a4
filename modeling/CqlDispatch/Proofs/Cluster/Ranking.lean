import CqlDispatch.Proofs.Cluster.Answers
import CqlDispatch.Proofs.Cluster.Replay
/-!
# Stored distances

The hosts store the distances that the classifier gave them.  Where the balancer is the classifier, every change
of members or metadata has it asked about every host again, after the change; whatever else happens leaves the
ranks alone (`Quiet`), for they are read off nothing that changes without a new version (`Changes.rank_eq`).  So
once the balancer has ranked the hosts, the stored distances stay the ones that it gives (`stored_distances`),
until somebody ranks the hosts by a rule of their own.
-/
namespace CqlDispatch
namespace Cluster

/-- Every registered host stores the distance that the balancer gives it. -/
def Ranked (c : Cluster) : Prop :=
  ∀ h ∈ c.registry.topology.ids,
    (c.registry.host h).distance = (c.balancer.distance c.registry (c.registry.host h)).1

theorem Settled.ranked_iff {c : Cluster} (settled : c.Settled) : c.Ranked ↔
    ∀ h ∈ c.registry.topology.ids,
      (c.registry.host h).distance = c.balancer.distanceAnew c.registry (c.registry.host h) := by
  unfold Ranked
  simp only [settled.bound.distance_anew]

theorem Settled.changes {c c' : Cluster} (settled : c.Settled) (hc : Changes c c') : c'.Settled :=
  hc.keeps (fun h hstep => h.change hstep) settled

/-! ## What ranks are read off -/

/-- What any number of changes leaves of the topology: it is the same, and what is known about its hosts, or it
has a new version. -/
theorem Changes.topology_cases {c c' : Cluster} (hc : Changes c c') (w : c.registry.WellFormed) :
    c.registry.topology.version < c'.registry.topology.version ∨
      c'.registry.topology = c.registry.topology ∧ ∀ h,
        (c'.registry.host h).address = (c.registry.host h).address ∧
          (c'.registry.host h).metadata = (c.registry.host h).metadata := by
  refine (hc.keeps_registry (I := fun r => c.registry.topology.version < r.topology.version ∨
    r.topology = c.registry.topology ∧ ∀ h, (r.host h).address = (c.registry.host h).address ∧
      (r.host h).metadata = (c.registry.host h).metadata) ?_ w (.inr ⟨rfl, fun _ => ⟨rfl, rfl⟩⟩)).2
  rintro r r' w hr hstep
  rcases w.topology_cases hstep with hlt | ⟨htop, hhosts⟩
  · rcases hr with hr | ⟨hr, -⟩
    · exact .inl (Nat.lt_trans hr hlt)
    · exact .inl (hr ▸ hlt)
  · rcases hr with hr | ⟨hr, hsame⟩
    · exact .inl (htop ▸ hr)
    · exact .inr ⟨htop.trans hr, fun h =>
        ⟨(hhosts h).1.trans (hsame h).1, (hhosts h).2.trans (hsame h).2⟩⟩

theorem Changes.distanceAnew {c c' : Cluster} (hc : Changes c c') (settled : c.Settled) :
    c'.balancer.distanceAnew = c.balancer.distanceAnew := by
  refine (hc.keeps (I := fun d => d.Settled ∧ d.balancer.distanceAnew = c.balancer.distanceAnew) ?_ ⟨settled, rfl⟩).2
  rintro d d' ⟨settled, same⟩ hstep
  refine ⟨settled.change hstep, Eq.trans ?_ same⟩
  cases hstep with
  | registry | classified => rfl
  | initialized => exact congrArg Balancer.distanceAnew settled.bound.init_eq
  | planned => exact Balancer.distanceAnew_plan _ _ _ _
  | measured => exact Balancer.distanceAnew_distance _ _ _

/-- **Ranks are the same as long as the version is.** -/
theorem Changes.rank_eq {c c' : Cluster} (hc : Changes c c') (settled : c.Settled)
    (version : c'.registry.topology.version = c.registry.topology.version) (h : HostId) :
    c'.balancer.distanceAnew c'.registry (c'.registry.host h) =
      c.balancer.distanceAnew c.registry (c.registry.host h) := by
  obtain ⟨topology, hosts⟩ := (hc.topology_cases settled.wellFormed).resolve_left (by omega)
  rw [hc.distanceAnew settled]
  exact settled.bound.distanceAnew_congr (hc.extends settled.wellFormed).id topology hosts (hosts h).1 (hosts h).2

/-! ## Asking the balancer about every host -/

theorem foldl_rankOne_host_ne {k : Classifier} {h : HostId} : ∀ (l : List HostId) (c : Cluster), h ∉ l →
    (l.foldl (rankOne k) c).registry.host h = c.registry.host h
  | [], _, _ => rfl
  | x :: l, c, hn => by
    rw [List.foldl_cons, foldl_rankOne_host_ne l _ fun hm => hn (List.mem_cons_of_mem x hm)]
    exact Registry.host_modify_ne c.registry _ fun he => hn (he ▸ List.mem_cons_self)

/-- The balancer is asked about one host after the other, and each stores what it says. -/
theorem foldl_rankOne_stored : ∀ (l : List HostId) {c : Cluster}, c.Settled →
    (∀ h ∈ l, h ∈ c.registry.topology.ids) → ∀ h ∈ l,
      ((l.foldl (rankOne .balancer) c).registry.host h).distance =
        c.balancer.distanceAnew c.registry (c.registry.host h)
  | [], _, _, _, _, hm => absurd hm List.not_mem_nil
  | x :: l, c, settled, known, h, hm => by
    have hx := known x List.mem_cons_self
    rw [List.foldl_cons]
    by_cases hl : h ∈ l
    · have first : Changes c (rankOne .balancer c x) := rankOne_changes hx
      rw [foldl_rankOne_stored l (settled.changes first) (fun y hy => known y (List.mem_cons_of_mem x hy)) h hl]
      exact first.rank_eq settled rfl h
    · obtain rfl : h = x := (List.mem_cons.1 hm).resolve_right hl
      rw [foldl_rankOne_host_ne l _ hl, ← settled.bound.distance_anew]
      exact congrArg Host.distance (Registry.host_modify_self _ (settled.wellFormed.lt_of_mem hx))

theorem refreshDistances_ranked {c : Cluster} (settled : c.Settled) : (c.refreshDistances .balancer).Ranked := by
  have changes := refreshDistances_changes .balancer c
  have topology := (refreshDistances_reranked .balancer c).topology
  rw [(settled.changes changes).ranked_iff]
  intro h hm
  rw [topology] at hm
  rw [changes.rank_eq settled (congrArg _ topology) h]
  exact foldl_rankOne_stored _ settled (fun _ hy => hy) h hm

/-- The balancer is the classifier of a cluster. -/
structure Ranking (c : Cluster) : Prop where
  settled : c.Settled
  classifier : c.classifier = some .balancer

theorem Ranking.reclassify {c : Cluster} (ranking : c.Ranking) : c.reclassify.Ranked := by
  unfold Cluster.reclassify
  rw [ranking.classifier]
  exact refreshDistances_ranked ranking.settled

/-! ## One operation -/

/-- No new version, and the stored ranks are as they were. -/
structure Quiet (c c' : Cluster) : Prop where
  version : c'.registry.topology.version = c.registry.topology.version
  stored : ∀ h, (c'.registry.host h).distance = (c.registry.host h).distance

theorem Quiet.refl (c : Cluster) : Quiet c c := ⟨rfl, fun _ => rfl⟩

theorem Quiet.trans {c c' c'' : Cluster} (q : Quiet c c') (q' : Quiet c' c'') : Quiet c c'' :=
  ⟨q'.version.trans q.version, fun h => (q'.stored h).trans (q.stored h)⟩

theorem Quiet.ranked {c c' : Cluster} (quiet : Quiet c c') (hc : Changes c c') (settled : c.Settled)
    (ranked : c.Ranked) : c'.Ranked := by
  have same := (hc.topology_cases settled.wellFormed).resolve_left (by rw [quiet.version]; exact Nat.lt_irrefl _)
  rw [settled.ranked_iff] at ranked
  rw [(settled.changes hc).ranked_iff]
  intro h hm
  rw [same.1] at hm
  rw [quiet.stored, hc.rank_eq settled quiet.version]
  exact ranked h hm

/-- What an operation does where the balancer is the classifier: it leaves the ranks alone, or has every host
ranked anew. -/
structure Keeps (c c' : Cluster) : Prop where
  changes : Changes c c'
  ranking : c'.Ranking
  ranks : Quiet c c' ∨ c'.Ranked

theorem Keeps.trans {c c' c'' : Cluster} (h : Keeps c c') (h' : Keeps c' c'') : Keeps c c'' := by
  refine ⟨h.changes.trans h'.changes, h'.ranking, ?_⟩
  rcases h'.ranks with quiet | ranked
  · exact h.ranks.imp (·.trans quiet) (quiet.ranked h'.changes h.ranking.settled)
  · exact .inr ranked

theorem Keeps.ranked {c c' : Cluster} (h : Keeps c c') (settled : c.Settled) (ranked : c.Ranked) : c'.Ranked :=
  h.ranks.elim (fun quiet => quiet.ranked h.changes settled ranked) id

namespace Ranking

variable {c : Cluster} (ranking : c.Ranking)
include ranking

theorem refl : Keeps c c := ⟨.refl, ranking, .inl (.refl c)⟩

theorem next {c' : Cluster} (changes : Changes c c') (same : SamePolicy c c') : c'.Ranking :=
  ⟨ranking.settled.changes changes, same.classifier.trans ranking.classifier⟩

theorem quiet {c' : Cluster} (changes : Changes c c') (same : SamePolicy c c') (quiet : Quiet c c') : Keeps c c' :=
  ⟨changes, ranking.next changes same, .inl quiet⟩

/-- After a change every host is ranked anew, and then the change is told. -/
theorem told {e : HostEvent} (changes : Changes c.reclassify (c.reclassify.emit e)) :
    (c.reclassify.emit e).Ranked :=
  Quiet.ranked (c := c.reclassify) ⟨rfl, fun _ => rfl⟩ changes (ranking.settled.changes (reclassify_changes c))
    ranking.reclassify

theorem transition (a : Address) {target : HostState} {e : HostEvent} (about : e.address = a)
    (tells : e.tells = some target) (stays : target ≠ .removed) : Keeps c (c.transition a target e).2 := by
  refine ranking.quiet (transition_changes c a about tells stays) (transition_samePolicy c a target e) ?_
  rcases transition_cases c a target e with he | ⟨h, -, -, he⟩ <;> rw [he]
  · exact .refl c
  · exact ⟨rfl, Registry.host_modify_keeps (f := fun x => { x with state := target }) fun _ => rfl⟩

theorem add (a : Address) (m : Option Metadata) : Keeps c (c.add { address := a, metadata := m }).2 := by
  have changes := add_changes c a m
  refine ⟨changes, ranking.next changes (add_samePolicy c _), ?_⟩
  unfold Cluster.add
  cases hf : c.registry.find? a with
  | some h => exact .inl (.refl c)
  | none =>
    have enrolled : Ranking { c with registry := c.registry.enroll { address := a, metadata := m } } :=
      ranking.next (.registry (.enrolled hf)) ⟨rfl, rfl⟩
    exact .inr (enrolled.told (.registry .joined))

theorem remove (a : Address) : Keeps c (c.remove a).2 := by
  have changes := remove_changes c a
  refine ⟨changes, ranking.next changes (remove_samePolicy c a), ?_⟩
  unfold Cluster.remove
  cases hf : c.registry.find? a with
  | none => exact .inl (.refl c)
  | some h =>
    have struck : Ranking { c with registry := c.registry.strike a h } :=
      ranking.next (.registry (.struck hf)) ⟨rfl, rfl⟩
    refine .inr (struck.told (.registry (.left ?_)))
    unfold Registry.find?
    rw [topology_reclassify]
    exact (Registry.find?_strike c.registry a h a).trans (if_pos rfl)

theorem adopt {h : HostId} (known : h ∈ c.registry.topology.ids) (m : Metadata) : Keeps c (c.adopt h m) := by
  have changes := adopt_changes c known m
  refine ⟨changes, ranking.next changes (adopt_samePolicy c h m), ?_⟩
  unfold Cluster.adopt
  cases hm : (c.registry.host h).metadata with
  | some m' => exact .inl (.refl c)
  | none =>
    have adopted : Ranking { c with registry := (c.registry.modify h
        (fun x => { x with metadata := some m })).rebuild c.registry.topology.members } :=
      ranking.next (.registry (.adopted known hm)) ⟨rfl, rfl⟩
    exact .inr adopted.reclassify

theorem remember (advertised a : Address) : Keeps c (c.remember advertised a) :=
  ranking.quiet (.registry .remembered) ⟨rfl, rfl⟩ ⟨rfl, fun _ => rfl⟩

omit ranking in
theorem takePeer {s : Reconciling} (ranking : s.cluster.Ranking) (p : Translated) :
    Keeps s.cluster (takePeer s p).cluster := by
  rcases takePeer_cases s p with ⟨f, -, hc, -⟩ | ⟨a, -, -, ⟨-, -, hc⟩ | ⟨h, hf, -, hc⟩⟩ <;> rw [hc]
  · exact ranking.refl
  · have remembered := ranking.remember p.advertised a
    exact remembered.trans (remembered.ranking.add _ _)
  · have remembered := ranking.remember p.advertised a
    exact remembered.trans (remembered.ranking.adopt (Registry.mem_ids_of_find? hf) _)

theorem takePeers (report : List Translated) :
    Keeps c (report.foldl Cluster.takePeer { cluster := c }).cluster := by
  refine List.foldlRecOn (motive := fun s : Reconciling => Keeps c s.cluster) report Cluster.takePeer ?_ ?_
  · exact ranking.refl
  · exact fun s kept p _ => kept.trans (kept.ranking.takePeer p)

omit ranking in
theorem removeAll : ∀ (stale : List Address) {c : Cluster}, c.Ranking → Keeps c (c.removeAll stale).2
  | [], _, ranking => ranking.refl
  | a :: stale, _, ranking => (ranking.remove a).trans (removeAll stale (ranking.remove a).ranking)

theorem applyTopology (report : List Translated) : Keeps c (c.applyTopology report).2 := by
  unfold Cluster.applyTopology
  split
  · exact ranking.refl
  · have taken := ranking.takePeers report
    exact taken.trans (removeAll _ taken.ranking)

end Ranking

/-- Whether an operation leaves it to the classifier to rank the hosts. -/
def Operation.leavesRanking : Operation → Bool
  | .refreshDistances (.rule _) | .classifyBy (.rule _) => false
  | _ => true

/-- The balancer becomes the classifier, and ranks every host. -/
theorem classifyBy_ranked {c : Cluster} (settled : c.Settled) :
    (c.classifyBy .balancer).Ranking ∧ (c.classifyBy .balancer).Ranked := by
  have classified : Ranking { c with classifier := some .balancer } := ⟨⟨settled.1, settled.2⟩, rfl⟩
  exact ⟨classified.next (reclassify_changes _) (reclassify_samePolicy _), classified.reclassify⟩

/-- **Whatever an operation does where the balancer is the classifier, it leaves the ranks alone or has every
host ranked anew**, unless it ranks the hosts by a rule of its own. -/
theorem Ranking.perform {c : Cluster} (ranking : c.Ranking) {o : Operation} (leaves : o.leavesRanking = true) :
    Keeps c (c.perform o) := by
  have changes := perform_changes c o
  have settled := ranking.settled.perform o
  cases o with
  | add a m => exact ranking.add a m
  | report e =>
    cases e with
    | hostUp a | hostDown a reason => exact ranking.transition a rfl rfl HostState.noConfusion
    | hostRemoved a => exact ranking.remove a
  | startReconnecting a => exact ranking.transition a rfl rfl HostState.noConfusion
  | refresh report => exact ranking.applyTopology report
  | refreshDistances k =>
    cases k with
    | rule f => cases leaves
    | balancer =>
      exact ⟨changes, ranking.next changes (refreshDistances_samePolicy .balancer c),
        .inr (refreshDistances_ranked ranking.settled)⟩
  | classifyBy k =>
    cases k with
    | rule f => cases leaves
    | balancer =>
      obtain ⟨next, ranked⟩ := classifyBy_ranked ranking.settled
      exact ⟨changes, next, .inr ranked⟩
  | setReplicationFactor | initBalancer | plan | distance =>
    exact ⟨changes, ⟨settled, ranking.classifier⟩, .inl ⟨rfl, fun _ => rfl⟩⟩

theorem Ranking.performAll : ∀ (ops : List Operation) {c : Cluster}, c.Ranking →
    (∀ o ∈ ops, o.leavesRanking = true) → Keeps c (c.performAll ops)
  | [], _, ranking, _ => ranking.refl
  | o :: ops, _, ranking, leaves => by
    have first := ranking.perform (leaves o List.mem_cons_self)
    exact first.trans (performAll ops first.ranking fun o' ho' => leaves o' (List.mem_cons_of_mem o ho'))

/-! ## Stored distances -/

/-- Whether an operation has the balancer asked about every host: it makes the balancer the classifier, or the
balancer is that, and the operation is to rank the hosts by it or changes members or metadata. -/
def AsksAll (c : Cluster) (o : Operation) : Prop :=
  o = .classifyBy .balancer ∨ c.classifier = some .balancer ∧
    (o = .refreshDistances .balancer ∨ (c.perform o).registry.topology.version ≠ c.registry.topology.version)

theorem AsksAll.ranked {c : Cluster} {o : Operation} (asks : c.AsksAll o) (settled : c.Settled) :
    (c.perform o).Ranking ∧ (c.perform o).Ranked := by
  rcases asks with rfl | ⟨classifier, asks⟩
  · exact classifyBy_ranked settled
  have ranking : c.Ranking := ⟨settled, classifier⟩
  rcases asks with rfl | changed
  · exact ⟨(ranking.perform rfl).ranking, refreshDistances_ranked settled⟩
  · have leaves : o.leavesRanking = true := by
      cases o with
      | refreshDistances k => exact absurd (congrArg _ (refreshDistances_reranked k c).topology) changed
      | classifyBy k =>
        exact absurd (congrArg _ (reclassify_reranked { c with classifier := some k }).topology) changed
      | add | report | startReconnecting | refresh | setReplicationFactor | initBalancer | plan | distance => rfl
    obtain ⟨-, next, quiet | ranked⟩ := ranking.perform leaves
    · exact absurd quiet.version changed
    · exact ⟨next, ranked⟩

/-- **The hosts store the distances that the balancer gives them.**  The balancer is any stack of layers that was
initialized, and an operation has asked it about every host, as a client does when it makes it the classifier.
Whatever operations follow that do not rank the hosts by a rule of their own: every registered host stores the
distance that the balancer gives it in the registry as it is now.  It is so within a topology report, too, after
every peer that was taken in and after every host that was taken out. -/
theorem stored_distances {b : Balancer} (fresh : b.Fresh) {c : Cluster} (reached : Reached b c) {o : Operation}
    (asks : c.AsksAll o) (later : List Operation) (leaves : ∀ o' ∈ later, o'.leavesRanking = true) :
    let d := (c.perform o).performAll later
    d.Ranked ∧ ∀ (report : List Translated) (stale : List Address),
      let s := report.foldl takePeer { cluster := d }
      s.cluster.Ranked ∧ (s.cluster.removeAll stale).2.Ranked := by
  obtain ⟨start, ranked⟩ := asks.ranked (reached.settled fresh)
  have run := Ranking.performAll later start leaves
  have now := run.ranked start.settled ranked
  refine ⟨now, fun report stale => ?_⟩
  have taken := run.ranking.takePeers report
  have between := taken.ranked run.ranking.settled now
  exact ⟨between, (Ranking.removeAll stale taken.ranking).ranked taken.ranking.settled between⟩

/-- A host takes the place of another one, and leaves again. -/
def placeTaken : List Operation :=
  [.add ⟨.v4 2, 0⟩ (some { datacenter := some "dc2" }), .report (.hostRemoved ⟨.v4 2, 0⟩)]

theorem place_taken_ranked :
    let c := performAll { balancer := .tokenAware none (.dcAware oneRemote) } twoDatacenters
    let ranked := c.perform (.classifyBy .balancer)
    (ranked.performAll (placeTaken.take 1)).registry.members.map (·.distance) = [.near, .remote, .ignored] ∧
      (ranked.performAll (placeTaken.take 1)).Ranked ∧
      (ranked.performAll placeTaken).registry.members.map (·.distance) = [.near, .remote] ∧
      (ranked.performAll placeTaken).Ranked := by
  intro c ranked
  have fresh : (Balancer.tokenAware none (.dcAware oneRemote)).Fresh := ⟨rfl, rfl, rfl, rfl⟩
  have reached : Reached (.tokenAware none (.dcAware oneRemote)) c := ⟨0, twoDatacenters, by simp [twoDatacenters], rfl⟩
  exact ⟨by decide +kernel, (stored_distances fresh reached (.inl rfl) (placeTaken.take 1) (by decide)).1,
    by decide +kernel, (stored_distances fresh reached (.inl rfl) placeTaken (by decide)).1⟩

/-- Hosts that somebody ranks by a rule of their own store what the rule says. -/
theorem own_rule_stored : ¬ ∀ (b : Balancer) (c : Cluster) (later : List Operation), b.Fresh → Reached b c →
    ((c.perform (.classifyBy .balancer)).performAll later).Ranked := by
  intro h
  have stored := h (.roundRobin none 0)
    (performAll { balancer := .roundRobin none 0 } [.add ⟨.v4 1, 0⟩ none, .initBalancer])
    [.refreshDistances (.rule fun _ _ => .ignored)] rfl ⟨0, _, by simp, rfl⟩ 0 (by decide +kernel)
  exact absurd stored (by decide +kernel)

end Cluster

end CqlDispatch
