import CqlDispatch.Proofs.Cluster.Replay
/-!
# What operations report

A number of operations tells what their answers report, one after the other (`performAll_tells`).  Only an
operation that says so reports a host down or tried again.  And a registered host stays registered, until an
operation reports that its address was taken out (`perform_leaves`); an address alone does not show it, for
one topology report may take a host out and register another at its address.
-/
namespace CqlDispatch
namespace Cluster

/-- From one cluster to a later one a host left only as one of these events told it. -/
def Leaves (c c' : Cluster) (events : List HostEvent) : Prop :=
  ∀ h ∈ c.registry.topology.ids, h ∈ c'.registry.topology.ids ∨ .removed (c.registry.host h).address ∈ events

namespace Leaves

theorem of_topology {c c' : Cluster} (events : List HostEvent) (h : c'.registry.topology = c.registry.topology) :
    Leaves c c' events := by
  intro k hk
  rw [h]
  exact .inl hk

theorem trans {c c' c'' : Cluster} {es es' : List HostEvent} (wf : c.registry.WellFormed) (changes : Changes c c')
    (l : Leaves c c' es) (l' : Leaves c' c'' es') : Leaves c c'' (es ++ es') := by
  intro h hm
  rcases l h hm with hm' | hremoved
  · refine (l' h hm').imp_right fun hremoved => List.mem_append_right _ ?_
    rwa [(changes.extends wf).address h (wf.lt_of_mem hm)] at hremoved
  · exact .inr (List.mem_append_left _ hremoved)

end Leaves

theorem add_leaves (c : Cluster) (x : Host) (events : List HostEvent) : Leaves c (c.add x).2 events := by
  cases hf : c.registry.find? x.address with
  | some h =>
    rw [add_known hf]
    exact .of_topology events rfl
  | none =>
    intro h hm
    rw [(add_new hf).2.topology]
    exact .inl ((Registry.mem_ids_enroll hf).2 (.inr hm))

theorem remove_leaves {c : Cluster} (wf : c.registry.WellFormed) (a : Address) :
    Leaves c (c.remove a).2 (if (c.remove a).1.isSome then [.removed a] else []) := by
  cases hf : c.registry.find? a with
  | none =>
    rw [remove_unknown hf]
    exact .of_topology _ rfl
  | some h =>
    obtain ⟨hanswer, k⟩ := remove_known hf
    rw [hanswer]
    intro j hj
    rw [k.topology]
    by_cases hh : h = j
    · refine .inr (List.mem_singleton.2 ?_)
      rw [← hh, wf.find?_address hf]
    · exact .inl ((wf.mem_ids_strike hf).2 ⟨hj, hh⟩)

theorem adopt_leaves (c : Cluster) (h : HostId) (m : Metadata) (events : List HostEvent) :
    Leaves c (c.adopt h m) events := by
  cases hd : (c.registry.host h).metadata with
  | some m' =>
    rw [adopt_described hd]
    exact .of_topology events rfl
  | none =>
    intro k hk
    rw [(adopt_bare m hd).topology]
    exact .inl hk

/-! ## Topology reports -/

theorem takePeer_leaves (s : Reconciling) (p : Translated) (events : List HostEvent) :
    Leaves s.cluster (takePeer s p).cluster events := by
  rcases takePeer_cases s p with ⟨f, -, hc, -⟩ | ⟨a, -, -, ⟨-, -, hc⟩ | ⟨h, -, -, hc⟩⟩ <;> rw [hc]
  · exact .of_topology events rfl
  · exact add_leaves (s.cluster.remember p.advertised a) _ events
  · exact adopt_leaves (s.cluster.remember p.advertised a) h _ events

theorem foldl_takePeer_leaves : ∀ (report : List Translated) (s : Reconciling),
    s.cluster.registry.WellFormed → Leaves s.cluster (report.foldl takePeer s).cluster []
  | [], s, _ => .of_topology [] rfl
  | p :: report, s, wf => by
    have changes := takePeer_changes s p
    exact (takePeer_leaves s p []).trans wf changes (foldl_takePeer_leaves report _ (changes.wellFormed wf))

theorem removeAll_leaves : ∀ (stale : List Address) (c : Cluster), c.registry.WellFormed →
    Leaves c (c.removeAll stale).2 ((c.removeAll stale).1.map .removed)
  | [], _, _ => .of_topology [] rfl
  | a :: stale, c, wf => by
    have changes := remove_changes c a
    have h := (remove_leaves wf a).trans wf changes (removeAll_leaves stale _ (changes.wellFormed wf))
    unfold removeAll
    cases hr : (c.remove a).1 <;> simpa [hr] using h

theorem applyTopology_leaves {c : Cluster} (wf : c.registry.WellFormed) (report : List Translated) :
    Leaves c (c.applyTopology report).2 ((c.applyTopology report).1.removed.map .removed) := by
  unfold applyTopology
  split
  · exact .of_topology [] rfl
  · have changes := foldl_takePeer_changes report { cluster := c }
    exact (foldl_takePeer_leaves report { cluster := c } wf).trans wf changes
      (removeAll_leaves _ _ (changes.wellFormed wf))

/-! ## Operations -/

/-- **A host leaves as an operation reports that its address was taken out**, and not otherwise. -/
theorem perform_leaves {c : Cluster} (wf : c.registry.WellFormed) (o : Operation) :
    Leaves c (c.perform o) (c.reports o) := by
  cases o with
  | add a m => exact add_leaves c _ _
  | report e =>
    cases e with
    | hostUp a => exact .of_topology _ (topology_transition c a .up (.up a))
    | hostDown a reason => exact .of_topology _ (topology_transition c a .down (.down a reason))
    | hostRemoved a => exact remove_leaves wf a
  | startReconnecting a => exact .of_topology _ (topology_transition c a .reconnecting (.reconnecting a))
  | refresh report =>
    intro h hm
    exact (applyTopology_leaves wf report h hm).imp_right (List.mem_append_right _)
  | refreshDistances k => exact .of_topology _ (refreshDistances_reranked k c).topology
  | classifyBy k => exact .of_topology _ (reclassify_reranked { c with classifier := some k }).topology
  | setReplicationFactor | initBalancer | plan | distance => exact .of_topology _ rfl

/-- What the answers to a number of operations report, in order. -/
def reportsAll (c : Cluster) : List Operation → List HostEvent
  | [] => []
  | o :: ops => c.reports o ++ (c.perform o).reportsAll ops

theorem performAll_tells : ∀ (ops : List Operation) {c : Cluster}, c.registry.WellFormed →
    Tells c (c.performAll ops) (c.reportsAll ops)
  | [], c, _ => .refl c
  | o :: ops, _, wf => (perform_tells wf o).trans (performAll_tells ops ((perform_tells wf o).wellFormed wf))

theorem performAll_leaves : ∀ (ops : List Operation) {c : Cluster}, c.registry.WellFormed →
    Leaves c (c.performAll ops) (c.reportsAll ops)
  | [], _, _ => .of_topology [] rfl
  | o :: ops, _, wf =>
    (perform_leaves wf o).trans wf (perform_changes _ o) (performAll_leaves ops ((perform_changes _ o).wellFormed wf))

theorem mem_reportsAll {e : HostEvent} : ∀ {ops : List Operation} {c : Cluster}, e ∈ c.reportsAll ops →
    ∃ o ∈ ops, ∃ d : Cluster, e ∈ d.reports o
  | o :: ops, c, he => by
    rcases List.mem_append.1 he with he | he
    · exact ⟨o, List.mem_cons_self, c, he⟩
    · obtain ⟨o', ho', d, he⟩ := mem_reportsAll he
      exact ⟨o', List.mem_cons_of_mem _ ho', d, he⟩

/-- **Who reports a host down**: the operation that says so; and the same of a host that is tried again.  A host is
reported as removed by the operation that says so, or by a topology report. -/
theorem mem_reports {c : Cluster} {o : Operation} {e : HostEvent} (he : e ∈ c.reports o) :
    (∀ a reason, e = .down a reason → o = .report (.hostDown a reason)) ∧
      (∀ a, e = .reconnecting a → o = .startReconnecting a) ∧
        ∀ a, e = .removed a → o = .report (.hostRemoved a) ∨ ∃ report, o = .refresh report := by
  have single : ∀ {p : Prop} [Decidable p] {x : HostEvent}, e ∈ (if p then [x] else []) → e = x := fun he => by
    split at he
    · exact List.mem_singleton.1 he
    · cases he
  cases o with
  | add a m =>
    have he : e ∈ if (c.add { address := a, metadata := m }).1 ∈ c.registry.topology.ids then [] else [.added a] := he
    rw [← ite_not] at he
    cases single he
    exact ⟨nofun, nofun, nofun⟩
  | report r =>
    cases r with
    | hostUp a =>
      cases single he
      exact ⟨nofun, nofun, nofun⟩
    | hostRemoved a =>
      cases single he
      exact ⟨nofun, nofun, fun _ h => .inl (by cases h; rfl)⟩
    | hostDown a reason =>
      cases single he
      exact ⟨fun _ _ h => by cases h; rfl, nofun, nofun⟩
  | startReconnecting a =>
    cases single he
    exact ⟨nofun, fun _ h => by cases h; rfl, nofun⟩
  | refresh report =>
    rcases List.mem_append.1 he with he | he
    all_goals
      obtain ⟨a, -, rfl⟩ := List.mem_map.1 he
      exact ⟨nofun, nofun, fun _ _ => .inr ⟨report, rfl⟩⟩
  | refreshDistances | classifyBy | setReplicationFactor | initBalancer | plan | distance => cases he

end Cluster

end CqlDispatch
