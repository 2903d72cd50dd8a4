import CqlDispatch.Proofs.Cluster.Effect
import CqlDispatch.Proofs.Cluster.Replay
import CqlDispatch.Proofs.Registry.Snapshot
/-!
# The snapshot that requests read

After every operation the topology of the registry is in order: its members, its ring, what advertised
addresses resolve to, and its version, which an operation moves on by one for each host that it adds,
removes or gives its metadata (`snapshot_current`).

The operations on one host follow from the changes they are made of.  A topology report is worked
through against the registry as it was before (`Underway`): a host that came with the report is
reported and has its metadata, so none of those is removed, or given metadata, by the same report.
-/
namespace CqlDispatch
open Registry (Reranked Since)

theorem Registry.Reranked.resolves {r r' : Registry} (k : Reranked r r') (hr : r.Resolves) : r'.Resolves :=
  hr.of_same k.resolved k.find?

theorem Registry.Reranked.since {base r r' : Registry} (k : Reranked r r') (since : Since base r) :
    Since base r' :=
  since.of_same k.length k.version k.topology k.metadata

namespace Cluster

/-! ## Addresses -/

theorem add_find?_isSome (c : Cluster) (x : Host) (b : Address) :
    ((c.add x).2.registry.find? b).isSome ↔ b = x.address ∨ (c.registry.find? b).isSome := by
  cases hf : c.registry.find? x.address with
  | some h =>
    rw [add_known hf]
    exact ⟨.inr, fun hb => hb.elim (fun he => by rw [he, hf]; rfl) id⟩
  | none =>
    rw [(add_new hf).2.find?]
    show ((c.registry.enroll x).find? b).isSome ↔ _
    rw [Registry.find?_enroll]
    by_cases hb : b = x.address <;> simp [hb]

theorem add_resolved (c : Cluster) (x : Host) : (c.add x).2.registry.resolved = c.registry.resolved := by
  cases hf : c.registry.find? x.address with
  | some h => rw [add_known hf]
  | none => exact (add_new hf).2.resolved

theorem remove_find? (c : Cluster) (a b : Address) :
    (c.remove a).2.registry.find? b = if b = a then none else c.registry.find? b := by
  cases hf : c.registry.find? a with
  | none =>
    rw [remove_unknown hf]
    by_cases hb : b = a
    · rw [if_pos hb, hb, hf]
    · rw [if_neg hb]
  | some h => exact ((remove_known hf).2.find? b).trans (Registry.find?_strike c.registry a h b)

theorem adopt_find? (c : Cluster) (h : HostId) (m : Metadata) (b : Address) :
    (c.adopt h m).registry.find? b = c.registry.find? b := by
  cases hm : (c.registry.host h).metadata with
  | some m' => rw [adopt_described hm]
  | none => exact (adopt_bare m hm).find? b

theorem adopt_resolved (c : Cluster) (h : HostId) (m : Metadata) :
    (c.adopt h m).registry.resolved = c.registry.resolved := by
  cases hm : (c.registry.host h).metadata with
  | some m' => rw [adopt_described hm]
  | none => exact (adopt_bare m hm).resolved

/-- Adoption sets the metadata of a registered host, and leaves the rest. -/
theorem adopt_keeps (c : Cluster) (h : HostId) (m : Metadata) (k : HostId) :
    (c.adopt h m).registry.topology.ids = c.registry.topology.ids ∧
      ((c.adopt h m).registry.host k).address = (c.registry.host k).address ∧
      ((c.registry.host k).metadata ≠ none → ((c.adopt h m).registry.host k).metadata ≠ none) := by
  cases hm : (c.registry.host h).metadata with
  | some m' =>
    rw [adopt_described hm]
    exact ⟨rfl, rfl, id⟩
  | none =>
    have kept := adopt_bare m hm
    rw [kept.topology, kept.metadata, kept.reads (g := Host.address) fun _ _ => rfl]
    refine ⟨rfl, Registry.host_modify_keeps (f := fun x => { x with metadata := some m }) (fun _ => rfl) k, ?_⟩
    intro hk
    have hne : h ≠ k := fun he => hk (he ▸ hm)
    exact (congrArg Host.metadata (Registry.host_modify_ne c.registry _ hne)).trans_ne hk

/-! ## What addresses resolve to -/

/-- What is remembered may already be of the host that is added. -/
theorem add_resolves {c : Cluster} {x : Host}
    (hr : ∀ y ∈ c.registry.resolved, y.2 = x.address ∨ (c.registry.find? y.2).isSome) :
    (c.add x).2.registry.Resolves := by
  intro y hy
  rw [add_resolved] at hy
  exact (add_find?_isSome c x y.2).2 (hr y hy)

theorem remove_resolves {c : Cluster} (hr : c.registry.Resolves) (a : Address) :
    (c.remove a).2.registry.Resolves := by
  cases hf : c.registry.find? a with
  | none =>
    rw [remove_unknown hf]
    exact hr
  | some h =>
    intro y hy
    rw [(remove_known hf).2.resolved] at hy
    obtain ⟨hy, hne⟩ := Registry.mem_resolved_strike hy
    rw [remove_find?, if_neg hne]
    exact hr y hy

theorem transition_resolves {c : Cluster} (hr : c.registry.Resolves) (a : Address) (target : HostState)
    (e : HostEvent) : (c.transition a target e).2.registry.Resolves := by
  rcases transition_cases c a target e with he | ⟨h, -, -, he⟩
  · rw [he]
    exact hr
  · rw [he]
    exact hr

theorem takePeer_resolves {s : Reconciling} (hr : s.cluster.registry.Resolves) (p : Translated) :
    (takePeer s p).cluster.registry.Resolves := by
  rcases takePeer_cases s p with ⟨f, -, hc, -, -⟩ | ⟨a, -, -, ⟨-, -, hc⟩ | ⟨h, hf, -, hc⟩⟩
  · rw [hc]
    exact hr
  · rw [hc]
    exact add_resolves fun y hy => (Registry.mem_resolved_remember hy).imp_right (hr y)
  · rw [hc]
    have hremembered : (s.cluster.registry.remember p.advertised a).Resolves := by
      intro y hy
      rcases Registry.mem_resolved_remember hy with he | hy
      · rw [he]
        exact Option.isSome_of_eq_some (show s.cluster.registry.find? a = some h from hf)
      · exact hr y hy
    exact hremembered.of_same (adopt_resolved _ h _) (adopt_find? _ h _)

theorem foldl_takePeer_resolves (report : List Translated) {s : Reconciling}
    (hr : s.cluster.registry.Resolves) : (report.foldl takePeer s).cluster.registry.Resolves :=
  List.foldlRecOn (motive := fun s => s.cluster.registry.Resolves) report takePeer hr
    fun _ hs p _ => takePeer_resolves hs p

theorem removeAll_resolves : ∀ (stale : List Address) {c : Cluster}, c.registry.Resolves →
    (c.removeAll stale).2.registry.Resolves
  | [], _, hr => hr
  | a :: stale, _, hr => removeAll_resolves stale (remove_resolves hr a)

theorem perform_resolves {c : Cluster} (hr : c.registry.Resolves) (o : Operation) :
    (c.perform o).registry.Resolves := by
  cases o with
  | add a m => exact add_resolves fun y hy => .inr (hr y hy)
  | report e =>
    cases e with
    | hostUp a => exact transition_resolves hr a _ _
    | hostDown a reason => exact transition_resolves hr a _ _
    | hostRemoved a => exact remove_resolves hr a
  | startReconnecting a => exact transition_resolves hr a _ _
  | refresh report =>
    show (c.applyTopology report).2.registry.Resolves
    unfold applyTopology
    split
    · exact hr
    · exact removeAll_resolves _ (foldl_takePeer_resolves report (s := { cluster := c }) hr)
  | refreshDistances k => exact (refreshDistances_reranked k c).resolves hr
  | classifyBy k => exact (reclassify_reranked { c with classifier := some k }).resolves hr
  | setReplicationFactor keyspace factor => exact hr
  | initBalancer => exact hr
  | plan keyspace options => exact hr
  | distance h => exact hr

/-! ## Versions -/

section Since

variable {base : Registry} (wb : base.WellFormed)
include wb

theorem add_since {c : Cluster} (since : Since base c.registry) (x : Host) :
    Since base (c.add x).2.registry := by
  cases hf : c.registry.find? x.address with
  | some h =>
    rw [add_known hf]
    exact since
  | none =>
    have hemit : Since base ((c.registry.enroll x).emit (.added x.address)) :=
      (since.enroll wb hf).of_same rfl rfl rfl fun _ => rfl
    exact (add_new hf).2.since hemit

theorem remove_since {c : Cluster} (w : c.registry.WellFormed) (since : Since base c.registry) (a : Address)
    (before : ∀ h, c.registry.find? a = some h → h ∈ base.topology.ids) :
    Since base (c.remove a).2.registry := by
  cases hf : c.registry.find? a with
  | none =>
    rw [remove_unknown hf]
    exact since
  | some h =>
    have hemit : Since base ((c.registry.strike a h).emit (.removed a)) :=
      (since.strike wb w hf (before h hf)).of_same rfl rfl rfl fun _ => rfl
    exact (remove_known hf).2.since hemit

omit wb in
theorem transition_since {c : Cluster} (since : Since base c.registry) (a : Address) (target : HostState)
    (e : HostEvent) : Since base (c.transition a target e).2.registry := by
  rcases transition_cases c a target e with he | ⟨h, -, -, he⟩
  · rw [he]
    exact since
  · rw [he]
    refine since.of_same (Registry.hosts_modify_length c.registry h _) rfl rfl fun k => ?_
    exact Registry.host_modify_keeps (f := fun x => { x with state := target }) (fun _ => rfl) k

theorem adopt_since {c : Cluster} (since : Since base c.registry) {h : HostId}
    (before : (c.registry.host h).metadata = none → h ∈ base.topology.ids) (m : Metadata) :
    Since base (c.adopt h m).registry := by
  cases hm : (c.registry.host h).metadata with
  | some m' =>
    rw [adopt_described hm]
    exact since
  | none => exact (adopt_bare m hm).since (since.adopt wb hm (before hm) m)

/-- A report taken in, up to some peer, against the registry as it was before: a host that it brought is
reported and has its metadata. -/
structure TakenIn (base : Registry) (s : Reconciling) : Prop where
  wellFormed : s.cluster.registry.WellFormed
  since : Since base s.cluster.registry
  brought : ∀ h ∈ s.cluster.registry.topology.ids, h ∉ base.topology.ids →
    (s.cluster.registry.host h).metadata ≠ none ∧ (s.cluster.registry.host h).address ∈ s.reported

theorem TakenIn.takePeer {s : Reconciling} (taken : TakenIn base s) (p : Translated) :
    TakenIn base (takePeer s p) := by
  have w := (takePeer_changes s p).wellFormed taken.wellFormed
  have remembered : ∀ a, Since base (s.cluster.remember p.advertised a).registry := fun a =>
    taken.since.of_same rfl rfl rfl fun _ => rfl
  rcases takePeer_cases s p with ⟨f, -, hc, -, hreported⟩ | ⟨a, -, hreported, ⟨hf, -, hc⟩ | ⟨h, hf, -, hc⟩⟩
  · refine ⟨w, hc ▸ taken.since, fun h hm hnew => ?_⟩
    rw [hc] at hm ⊢
    obtain ⟨hmeta, haddress⟩ := taken.brought h hm hnew
    exact ⟨hmeta, hreported _ haddress⟩
  · refine ⟨w, hc ▸ add_since wb (remembered a) _, fun h hm hnew => ?_⟩
    let r := (s.cluster.remember p.advertised a).registry
    obtain ⟨-, k⟩ := add_new (c := s.cluster.remember p.advertised a) (x := .ofPeer a p.toPeer) hf
    rw [hc, k.topology] at hm
    rw [hc, hreported, k.metadata, k.reads (g := Host.address) fun _ _ => rfl]
    show ((r.enroll (.ofPeer a p.toPeer)).host h).metadata ≠ none ∧ ((r.enroll (.ofPeer a p.toPeer)).host h).address ∈ _
    rcases (Registry.mem_ids_enroll (r := r) (x := .ofPeer a p.toPeer) hf).1 hm with he | hm
    · rw [he, Registry.host_enroll_new]
      exact ⟨Option.some_ne_none _, List.mem_cons_self⟩
    · rw [Registry.host_enroll_old (r := r) (taken.wellFormed.lt_of_mem hm)]
      obtain ⟨hmeta, haddress⟩ := taken.brought h hm hnew
      exact ⟨hmeta, List.mem_cons_of_mem _ haddress⟩
  · have before : (s.cluster.registry.host h).metadata = none → h ∈ base.topology.ids := fun hbare => by
      by_contra hnew
      exact (taken.brought h (Registry.mem_ids_of_find? hf) hnew).1 hbare
    refine ⟨w, hc ▸ adopt_since wb (remembered a) before _, fun k hm hnew => ?_⟩
    obtain ⟨hids, haddress, hmeta⟩ := adopt_keeps (s.cluster.remember p.advertised a) h p.metadata k
    rw [hc, hids] at hm
    obtain ⟨hmeta', haddress'⟩ := taken.brought k hm hnew
    rw [hc, hreported, haddress]
    exact ⟨hmeta hmeta', List.mem_cons_of_mem _ haddress'⟩

theorem takenIn_foldl (report : List Translated) {s : Reconciling} (taken : TakenIn base s) :
    TakenIn base (report.foldl Cluster.takePeer s) :=
  List.foldlRecOn (motive := TakenIn base) report Cluster.takePeer taken fun _ hs p _ => hs.takePeer wb p

theorem removeAll_since : ∀ (stale : List Address) {c : Cluster}, c.registry.WellFormed →
    Since base c.registry → (∀ a ∈ stale, ∀ h, c.registry.find? a = some h → h ∈ base.topology.ids) →
      Since base (c.removeAll stale).2.registry
  | [], _, _, since, _ => since
  | a :: stale, c, w, since, before => by
    refine removeAll_since stale ((remove_changes c a).wellFormed w)
      (remove_since wb w since a (before a List.mem_cons_self)) fun b hb h hf => ?_
    have hf : (c.remove a).2.registry.find? b = some h := hf
    rw [remove_find?] at hf
    split at hf
    · cases hf
    · exact before b (List.mem_cons_of_mem _ hb) h hf

end Since

theorem applyTopology_since {c : Cluster} (w : c.registry.WellFormed) (report : List Translated) :
    Since c.registry (c.applyTopology report).2.registry := by
  unfold applyTopology
  split
  · exact .refl _
  · have taken : TakenIn c.registry (report.foldl takePeer { cluster := c }) :=
      takenIn_foldl w report ⟨w, .refl _, fun h hm hnew => absurd hm hnew⟩
    refine removeAll_since w _ taken.wellFormed taken.since fun a ha h hf => ?_
    -- A host that came with the report stands under an address that was reported.
    by_contra hnew
    have hreported := (taken.brought h (Registry.mem_ids_of_find? hf) hnew).2
    rw [taken.wellFormed.find?_address hf] at hreported
    have hstale := (List.mem_filter.1 ha).2
    simp [hreported] at hstale

theorem perform_since {c : Cluster} (w : c.registry.WellFormed) (o : Operation) :
    Since c.registry (c.perform o).registry := by
  have start : Since c.registry c.registry := .refl _
  cases o with
  | add a m => exact add_since w start _
  | report e =>
    cases e with
    | hostUp a => exact transition_since start a _ _
    | hostDown a reason => exact transition_since start a _ _
    | hostRemoved a => exact remove_since w w start a fun h hf => Registry.mem_ids_of_find? hf
  | startReconnecting a => exact transition_since start a _ _
  | refresh report => exact applyTopology_since w report
  | refreshDistances k => exact (refreshDistances_reranked k c).since start
  | classifyBy k => exact (reclassify_reranked { c with classifier := some k }).since start
  | setReplicationFactor keyspace factor => exact start.of_same rfl rfl rfl fun _ => rfl
  | initBalancer => exact start
  | plan keyspace options => exact start
  | distance h => exact start

/-! ## Every snapshot -/

theorem Built.charted {c : Cluster} (built : Built c) : c.registry.Charted := by
  induction built with
  | empty => exact Registry.charted_empty _
  | perform built o ih =>
    exact ((perform_changes _ o).keeps_registry (fun w h hc => h.change w hc) built.wellFormed ih).2

theorem Built.resolves {c : Cluster} (built : Built c) : c.registry.Resolves := by
  induction built with
  | empty => exact fun x hx => absurd hx List.not_mem_nil
  | perform built o ih => exact perform_resolves ih o

/-- What a snapshot of a registry promises to whoever reads it. -/
structure Snapshot (r : Registry) : Prop where
  sorted : r.members.Pairwise (·.address < ·.address)
  found : ∀ a h, r.find? a = some h ↔ h ∈ r.topology.ids ∧ (r.host h).address = a
  present : ∀ h ∈ r.members, h.state ≠ .removed
  ringSorted : r.topology.ring.Pairwise (·.1 < ·.1)
  owner : ∀ t a, r.topology.ring.owner? t = some a ↔
    (∃ h ∈ r.members, t ∈ h.tokens ∧ h.address = a) ∧
      ∀ h ∈ r.members, t ∈ h.tokens → h.address = a ∨ h.address < a
  resolved : ∀ x ∈ r.resolved, (r.find? x.2).isSome
  version : r.topology.version = r.version

/-- **Every snapshot is in order.**  Whatever the operations were, the hosts stand in the order of their
addresses and each is found under its own; none of them is removed; a token belongs to the greatest
address that owns it; what is remembered of advertised addresses is registered.  An operation moves the
version on by one for each host that it adds, that it removes, and that it gives its metadata. -/
theorem snapshot_current {c : Cluster} (built : Built c) :
    Snapshot c.registry ∧ ∀ o, (c.perform o).registry.topology.version =
      c.registry.topology.version + (c.registry.gained (c.perform o).registry).length +
        ((c.perform o).registry.gained c.registry).length +
        (c.registry.described (c.perform o).registry).length := by
  have w := built.wellFormed
  have hsorted : c.registry.members.Pairwise (·.address < ·.address) := by
    unfold Registry.members Topology.ids
    rw [List.map_map, List.pairwise_map]
    refine w.sorted.imp_of_mem fun {m n} hm hn hlt => ?_
    simp only [Function.comp_apply, w.placed m hm, w.placed n hn]
    exact hlt
  refine ⟨⟨hsorted, fun a h => ?_, fun x hx => ?_, ?_, fun t a => ?_, built.resolves, w.version⟩, fun o => ?_⟩
  · exact ⟨fun hf => ⟨Registry.mem_ids_of_find? hf, w.find?_address hf⟩, fun ⟨hm, ha⟩ => ha ▸ w.mem_ids_iff.1 hm⟩
  · obtain ⟨h, hm, rfl⟩ := List.mem_map.1 hx
    exact w.ne_removed hm
  · rw [built.charted]
    exact TokenRing.ofHosts_sorted _
  · rw [built.charted]
    exact TokenRing.owner?_ofHosts_iff _ hsorted
  · rw [(built.perform o).wellFormed.version, w.version]
    exact (perform_since w o).version

/-- A contact point, and a report that describes it together with a host of which nothing was known. -/
def describedContactPoint : List Operation :=
  [.add ⟨.v4 2, 0⟩ none,
    .refresh (Translator.identity.answers
      [⟨⟨.v4 2, 0⟩, { tokens := [⟨7⟩] }⟩, ⟨⟨.v4 1, 0⟩, { tokens := [⟨7⟩, ⟨9⟩] }⟩])]

theorem shared_token_snapshot :
    let c := performAll {} describedContactPoint
    Snapshot c.registry ∧ c.registry.topology.version = 3 ∧
      c.registry.topology.ring.owner? ⟨7⟩ = some ⟨.v4 2, 0⟩ ∧
      (c.perform (.report (.hostRemoved ⟨.v4 2, 0⟩))).registry.topology.version = 4 := by
  intro c
  have h := snapshot_current (Built.performAll .empty describedContactPoint : Built c)
  refine ⟨h.1, by decide, by decide, ?_⟩
  rw [h.2]
  decide

end Cluster

end CqlDispatch
