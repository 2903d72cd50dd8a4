import Mathlib.Logic.Relation
import CqlDispatch.Cluster
import CqlDispatch.Proofs.Registry.Log
/-!
# Changes of a cluster

The operations of a cluster are made of changes of its registry and of questions to its load
balancer (`perform_changes`).  An invariant is proved for one change, and then holds of whatever
operations can reach.
-/
namespace CqlDispatch
namespace Cluster

inductive Change (c : Cluster) : Cluster → Prop
  | registry {r} (h : c.registry.Change r) : Change c { c with registry := r }
  | classified {k} : Change c { c with classifier := k }
  | initialized : Change c c.initBalancer.2
  | planned {keyspace options} : Change c (c.plan keyspace options).2
  | measured {h} : Change c (c.distance h).2

abbrev Changes : Cluster → Cluster → Prop := Relation.ReflTransGen Change

/-- What every change keeps, any number of them keeps. -/
theorem Changes.keeps {I : Cluster → Prop} (step : ∀ {c c'}, I c → Change c c' → I c') {c c' : Cluster}
    (hc : Changes c c') (h : I c) : I c' := by
  induction hc with
  | refl => exact h
  | tail _ hlast ih => exact step ih hlast

theorem Changes.registry {c : Cluster} {r : Registry} (h : c.registry.Change r) :
    Changes c { c with registry := r } :=
  .single (.registry h)

/-! ## Distances -/

theorem rankOne_changes {k : Classifier} {c : Cluster} {h : HostId} (hm : h ∈ c.registry.topology.ids) :
    Changes c (rankOne k c h) := by
  cases k with
  | rule f => exact .registry (.ranked hm)
  | balancer => exact .tail (.single .measured) (.registry (.ranked hm))

@[simp] theorem topology_rankOne (k : Classifier) (c : Cluster) (h : HostId) :
    (rankOne k c h).registry.topology = c.registry.topology := rfl

theorem topology_foldl_rankOne (k : Classifier) : ∀ (l : List HostId) (c : Cluster),
    (l.foldl (rankOne k) c).registry.topology = c.registry.topology
  | [], _ => rfl
  | h :: l, c => by rw [List.foldl_cons, topology_foldl_rankOne k l, topology_rankOne]

theorem foldl_rankOne_changes (k : Classifier) : ∀ (l : List HostId) (c : Cluster),
    (∀ h ∈ l, h ∈ c.registry.topology.ids) → Changes c (l.foldl (rankOne k) c)
  | [], _, _ => .refl
  | h :: l, c, hl => by
    have hfirst : Changes c (rankOne k c h) := rankOne_changes (hl h List.mem_cons_self)
    exact hfirst.trans (foldl_rankOne_changes k l _ fun h' hh' => hl h' (List.mem_cons_of_mem _ hh'))

theorem refreshDistances_changes (k : Classifier) (c : Cluster) : Changes c (c.refreshDistances k) :=
  foldl_rankOne_changes k _ c fun _ h => h

theorem reclassify_changes (c : Cluster) : Changes c c.reclassify := by
  unfold reclassify
  split
  · exact .refl
  · exact refreshDistances_changes _ c

theorem topology_reclassify (c : Cluster) : c.reclassify.registry.topology = c.registry.topology := by
  unfold reclassify
  split
  · rfl
  · exact topology_foldl_rankOne _ _ c

theorem classifyBy_changes (c : Cluster) (k : Classifier) : Changes c (c.classifyBy k) :=
  (Relation.ReflTransGen.single .classified).trans (reclassify_changes _)

/-! ## Membership and state -/

theorem add_changes (c : Cluster) (a : Address) (m : Option Metadata) :
    Changes c (c.add { address := a, metadata := m }).2 := by
  unfold add
  cases hf : c.registry.find? a with
  | some h => exact .refl
  | none =>
    exact ((Changes.registry (.enrolled hf)).trans (reclassify_changes _)).trans (Changes.registry .joined)

theorem remove_changes (c : Cluster) (a : Address) : Changes c (c.remove a).2 := by
  unfold remove
  cases hf : c.registry.find? a with
  | none => exact .refl
  | some h =>
    refine ((Changes.registry (.struck hf)).trans (reclassify_changes _)).trans (Changes.registry (.left ?_))
    unfold Registry.find?
    rw [topology_reclassify]
    refine Registry.find?_eq_none_iff (r := c.registry.strike a h) |>.2 fun hm => ?_
    obtain ⟨m, hm, hma⟩ := List.mem_map.1 hm
    have hkept : m ∈ c.registry.topology.members.filter (·.1 != a) := by
      unfold Registry.strike Registry.move? at hm
      dsimp only at hm
      split at hm <;> exact hm
    simp [hma] at hkept

theorem transition_changes (c : Cluster) (a : Address) {target : HostState} {e : HostEvent}
    (about : e.address = a) (tells : e.tells = some target) (stays : target ≠ .removed) :
    Changes c (c.transition a target e).2 := by
  unfold transition
  cases hf : c.registry.find? a with
  | none => exact .refl
  | some h =>
    simp only
    cases hm : c.registry.move? h target with
    | none => exact .refl
    | some r => exact .registry (.moved hf hm about tells stays)

theorem markDown_changes (c : Cluster) (a : Address) (reason : String) :
    Changes c (c.markDown a reason).2 :=
  transition_changes c a rfl rfl HostState.noConfusion

theorem startReconnecting_changes (c : Cluster) (a : Address) : Changes c (c.startReconnecting a).2 :=
  transition_changes c a rfl rfl HostState.noConfusion

theorem markUp_changes (c : Cluster) (a : Address) : Changes c (c.markUp a).2 :=
  transition_changes c a rfl rfl HostState.noConfusion

theorem topology_transition (c : Cluster) (a : Address) (target : HostState) (e : HostEvent) :
    (c.transition a target e).2.registry.topology = c.registry.topology := by
  unfold transition
  split
  · rfl
  · split
    · rfl
    · rename_i r hm
      obtain ⟨-, rfl⟩ := Registry.move?_eq_some hm
      rfl

/-- A host that is registered is up once it is marked as up. -/
theorem markUp_state {c : Cluster} (w : c.registry.WellFormed) {a : Address} {h : HostId}
    (hf : c.registry.find? a = some h) : ((c.markUp a).2.registry.host h).state = .up := by
  have hm := Registry.mem_ids_of_find? hf
  unfold markUp transition
  simp only [hf]
  cases hmove : c.registry.move? h .up with
  | none =>
    show (c.registry.host h).state = .up
    have hsource : (c.registry.host h).state ∉ HostState.up.sources := fun hs => by
      unfold Registry.move? at hmove
      rw [if_pos hs] at hmove
      cases hmove
    cases hs : (c.registry.host h).state with
    | up => rfl
    | down | reconnecting =>
      rw [hs] at hsource
      exact absurd (by decide) hsource
    | removed => exact absurd hs (w.ne_removed hm)
  | some r =>
    obtain ⟨-, rfl⟩ := Registry.move?_eq_some hmove
    show ((c.registry.modify h _).host h).state = .up
    rw [Registry.host_modify_self _ (w.lt_of_mem hm)]

theorem applyEvent_changes (c : Cluster) (e : ConnectionEvent) : Changes c (c.applyEvent e) := by
  cases e with
  | hostUp a => exact markUp_changes c a
  | hostDown a reason => exact markDown_changes c a reason
  | hostRemoved a => exact remove_changes c a

/-! ## Topology reports -/

theorem adopt_changes (c : Cluster) {h : HostId} (hm : h ∈ c.registry.topology.ids) (m : Metadata) :
    Changes c (c.adopt h m) := by
  unfold adopt
  split
  · exact .refl
  · rename_i hbare
    exact (Changes.registry (.adopted hm hbare)).trans (reclassify_changes _)

theorem takePeer_changes (s : Reconciling) (p : Translated) :
    Changes s.cluster (takePeer s p).cluster := by
  unfold takePeer
  split
  · rename_i a _
    have hremember : Changes s.cluster
        { s.cluster with registry := s.cluster.registry.remember p.advertised a } := .registry .remembered
    refine hremember.trans ?_
    cases hf : s.cluster.registry.find? a with
    | none =>
      have hf' : (s.cluster.registry.remember p.advertised a).find? a = none := hf
      simp only [hf']
      exact add_changes _ a _
    | some h =>
      have hf' : (s.cluster.registry.remember p.advertised a).find? a = some h := hf
      simp only [hf']
      exact adopt_changes { s.cluster with registry := s.cluster.registry.remember p.advertised a }
        (Registry.mem_ids_of_find? hf') _
  · simp only
    split <;> exact .refl

theorem foldl_takePeer_changes : ∀ (report : List Translated) (s : Reconciling),
    Changes s.cluster (report.foldl takePeer s).cluster
  | [], _ => .refl
  | p :: report, s => (takePeer_changes s p).trans (foldl_takePeer_changes report _)

theorem removeAll_changes : ∀ (stale : List Address) (c : Cluster), Changes c (c.removeAll stale).2
  | [], _ => .refl
  | a :: stale, c => (remove_changes c a).trans (removeAll_changes stale _)

theorem applyTopology_changes (c : Cluster) (report : List Translated) :
    Changes c (c.applyTopology report).2 := by
  unfold applyTopology
  split
  · exact .refl
  · exact (foldl_takePeer_changes report { cluster := c }).trans (removeAll_changes _ _)

/-! ## Operations -/

inductive Operation where
  | add (a : Address) (m : Option Metadata)
  | report (e : ConnectionEvent)
  | startReconnecting (a : Address)
  | refresh (report : List Translated)
  | refreshDistances (k : Classifier)
  | classifyBy (k : Classifier)
  | setReplicationFactor (keyspace : String) (factor : Nat)
  | initBalancer
  | plan (keyspace : Option String) (options : ExecutionOptions)
  | distance (h : Host)

def perform (c : Cluster) : Operation → Cluster
  | .add a m => (c.add { address := a, metadata := m }).2
  | .report e => c.applyEvent e
  | .startReconnecting a => (c.startReconnecting a).2
  | .refresh report => (c.applyTopology report).2
  | .refreshDistances k => c.refreshDistances k
  | .classifyBy k => c.classifyBy k
  | .setReplicationFactor keyspace factor => c.setReplicationFactor keyspace factor
  | .initBalancer => c.initBalancer.2
  | .plan keyspace options => (c.plan keyspace options).2
  | .distance h => (c.distance h).2

def performAll (c : Cluster) (ops : List Operation) : Cluster := ops.foldl perform c

theorem performAll_append (c : Cluster) (ops ops' : List Operation) :
    c.performAll (ops ++ ops') = (c.performAll ops).performAll ops' :=
  List.foldl_append

/-- **Every operation is a number of changes.** -/
theorem perform_changes (c : Cluster) (o : Operation) : Changes c (c.perform o) := by
  cases o with
  | add a m => exact add_changes c a m
  | report e => exact applyEvent_changes c e
  | startReconnecting a => exact startReconnecting_changes c a
  | refresh report => exact applyTopology_changes c report
  | refreshDistances k => exact refreshDistances_changes k c
  | classifyBy k => exact classifyBy_changes c k
  | setReplicationFactor keyspace factor => exact .registry .replicated
  | initBalancer => exact .single .initialized
  | plan keyspace options => exact .single .planned
  | distance h => exact .single .measured

theorem performAll_changes : ∀ (ops : List Operation) (c : Cluster), Changes c (c.performAll ops)
  | [], _ => .refl
  | o :: ops, c => (perform_changes c o).trans (performAll_changes ops _)

/-- What operations make of an empty registry, under any load balancer and any classifier. -/
inductive Built : Cluster → Prop
  | empty {id b k} : Built { registry := { id := id }, balancer := b, classifier := k }
  | perform {c} (built : Built c) (o : Operation) : Built (c.perform o)

theorem Built.performAll {c : Cluster} (built : Built c) : ∀ ops : List Operation, Built (c.performAll ops)
  | [] => built
  | o :: ops => Built.performAll (built.perform o) ops

/-! ## Registries -/

theorem Change.registry_cases {c c' : Cluster} (h : Change c c') :
    c'.registry = c.registry ∨ c.registry.Change c'.registry := by
  cases h with
  | registry h => exact .inr h
  | classified => exact .inl rfl
  | initialized => exact .inl rfl
  | planned => exact .inl rfl
  | measured => exact .inl rfl

/-- What every change of a well-formed registry keeps, any number of changes of a cluster keeps. -/
theorem Changes.keeps_registry {I : Registry → Prop}
    (step : ∀ {r r'}, r.WellFormed → I r → r.Change r' → I r') {c c' : Cluster} (hc : Changes c c')
    (w : c.registry.WellFormed) (h : I c.registry) :
    c'.registry.WellFormed ∧ I c'.registry := by
  refine hc.keeps (I := fun d => d.registry.WellFormed ∧ I d.registry) ?_ ⟨w, h⟩
  rintro d d' ⟨w, h⟩ hd
  rcases hd.registry_cases with he | hd
  · rw [he]
    exact ⟨w, h⟩
  · exact ⟨w.change hd, step w h hd⟩

theorem Changes.wellFormed {c c' : Cluster} (hc : Changes c c') (w : c.registry.WellFormed) :
    c'.registry.WellFormed :=
  (hc.keeps_registry (I := fun _ => True) (fun _ _ _ => trivial) w trivial).1

theorem Built.wellFormed {c : Cluster} (built : Built c) : c.registry.WellFormed := by
  induction built with
  | empty => exact Registry.wellFormed_empty _
  | perform _ o ih => exact (perform_changes _ o).wellFormed ih

theorem Changes.told {c c' : Cluster} (hc : Changes c c') (w : c.registry.WellFormed)
    (t : c.registry.Told) : c'.registry.Told :=
  (hc.keeps_registry (fun w t h => t.change w h) w t).2

theorem Changes.extends {c c' : Cluster} (hc : Changes c c') (w : c.registry.WellFormed) :
    c.registry.Extends c'.registry :=
  (hc.keeps_registry (fun w he h => he.trans (.of_change w h)) w (.refl _)).2

theorem Changes.continues {c c' : Cluster} (hc : Changes c c') (w : c.registry.WellFormed) :
    c.registry.Continues c'.registry :=
  (hc.keeps_registry (fun w hk h => hk.trans w (.of_change w h) (.of_change w h)) w (.refl _)).2

end Cluster

end CqlDispatch
