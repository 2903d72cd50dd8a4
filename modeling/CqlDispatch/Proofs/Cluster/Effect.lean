import CqlDispatch.Proofs.Cluster.Change
/-!
# What operations make of a registry

An operation of a cluster is a change of its registry and the event that tells it; between the two
the hosts are ranked anew.  Here the registry after each operation is given outright, but for the
distances of its hosts (`Reranked`), and with it what the operation answers.  Later proofs about
members, states, versions or events read off the change and unfold no operation.
-/
namespace CqlDispatch

namespace Registry

/-! ## All but the distances -/

/-- The same registry, but for the distances of its hosts. -/
structure Reranked (r r' : Registry) : Prop where
  same : r' = { r with hosts := r'.hosts }
  length : r'.hosts.length = r.hosts.length
  host : ∀ h, ∃ d, r'.host h = { r.host h with distance := d }

namespace Reranked

theorem refl (r : Registry) : Reranked r r := ⟨rfl, rfl, fun h => ⟨(r.host h).distance, rfl⟩⟩

theorem trans {r r' r'' : Registry} (k : Reranked r r') (k' : Reranked r' r'') : Reranked r r'' := by
  refine ⟨k'.same.trans ?_, k'.length.trans k.length, fun h => ?_⟩
  · rw [k.same]
  · obtain ⟨d, hd⟩ := k.host h
    obtain ⟨d', hd'⟩ := k'.host h
    exact ⟨d', by rw [hd', hd]⟩

theorem modify (r : Registry) (h : HostId) (d : Distance) :
    Reranked r (r.modify h ({ · with distance := d })) := by
  refine ⟨rfl, hosts_modify_length r h _, fun k => ?_⟩
  by_cases hk : h = k
  · subst hk
    by_cases hlt : h < r.hosts.length
    · exact ⟨d, host_modify_self _ hlt⟩
    · refine ⟨(r.host h).distance, ?_⟩
      have hnone : r.hosts[h]? = none := List.getElem?_eq_none (Nat.not_lt.1 hlt)
      unfold Registry.host Registry.modify
      rw [List.getElem?_modify_eq, hnone]
      rfl
  · exact ⟨(r.host k).distance, host_modify_ne r _ hk⟩

theorem emit {r r' : Registry} (k : Reranked r r') (e : HostEvent) : Reranked (r.emit e) (r'.emit e) :=
  ⟨by rw [k.same]; rfl, k.length, k.host⟩

variable {r r' : Registry} (k : Reranked r r')
include k

theorem log : r'.log = r.log := by rw [k.same]

theorem version : r'.version = r.version := by rw [k.same]

theorem topology : r'.topology = r.topology := by rw [k.same]

theorem resolved : r'.resolved = r.resolved := by rw [k.same]

theorem find? (a : Address) : r'.find? a = r.find? a := by
  unfold Registry.find?
  rw [k.topology]

/-- What does not read the distance of a host is as it was. -/
theorem reads {α : Type} {g : Host → α} (hg : ∀ x d, g { x with distance := d } = g x) (h : HostId) :
    g (r'.host h) = g (r.host h) := by
  obtain ⟨d, hd⟩ := k.host h
  rw [hd, hg]

theorem state (h : HostId) : (r'.host h).state = (r.host h).state := k.reads (fun _ _ => rfl) h

theorem metadata (h : HostId) : (r'.host h).metadata = (r.host h).metadata := k.reads (fun _ _ => rfl) h

theorem address (h : HostId) : (r'.host h).address = (r.host h).address := k.reads (g := Host.address) (fun _ _ => rfl) h

theorem isUp (h : HostId) : r'.isUp h = r.isUp h := k.reads (g := Host.isUp) (fun _ _ => rfl) h

end Reranked

end Registry

namespace Cluster

open Registry (Reranked)

theorem rankOne_reranked (k : Classifier) (c : Cluster) (h : HostId) :
    Reranked c.registry (rankOne k c h).registry :=
  .modify c.registry h _

theorem foldl_rankOne_reranked (k : Classifier) : ∀ (l : List HostId) (c : Cluster),
    Reranked c.registry (l.foldl (rankOne k) c).registry
  | [], _ => .refl _
  | h :: l, c => (rankOne_reranked k c h).trans (foldl_rankOne_reranked k l _)

theorem refreshDistances_reranked (k : Classifier) (c : Cluster) :
    Reranked c.registry (c.refreshDistances k).registry :=
  foldl_rankOne_reranked k _ c

theorem reclassify_reranked (c : Cluster) : Reranked c.registry c.reclassify.registry := by
  unfold reclassify
  split
  · exact .refl _
  · exact refreshDistances_reranked _ c

/-! ## Operations -/

/-- An address that is registered keeps its host. -/
theorem add_known {c : Cluster} {x : Host} {h : HostId} (known : c.registry.find? x.address = some h) :
    c.add x = (h, c) := by
  unfold add
  rw [known]

theorem add_new {c : Cluster} {x : Host} (free : c.registry.find? x.address = none) :
    (c.add x).1 = c.registry.hosts.length ∧
      Reranked ((c.registry.enroll x).emit (.added x.address)) (c.add x).2.registry := by
  unfold add
  rw [free]
  exact ⟨rfl, (reclassify_reranked { c with registry := c.registry.enroll x }).emit _⟩

theorem remove_unknown {c : Cluster} {a : Address} (free : c.registry.find? a = none) :
    c.remove a = (none, c) := by
  unfold remove
  rw [free]

theorem remove_known {c : Cluster} {a : Address} {h : HostId} (known : c.registry.find? a = some h) :
    (c.remove a).1 = some h ∧
      Reranked ((c.registry.strike a h).emit (.removed a)) (c.remove a).2.registry := by
  unfold remove
  rw [known]
  exact ⟨rfl, (reclassify_reranked { c with registry := c.registry.strike a h }).emit _⟩

/-- A move either is legal and told, or nothing happens. -/
theorem transition_cases (c : Cluster) (a : Address) (target : HostState) (e : HostEvent) :
    c.transition a target e = (false, c) ∨
      ∃ h, c.registry.find? a = some h ∧ (c.registry.host h).state ∈ target.sources ∧
        c.transition a target e = (true, { c with registry :=
          (c.registry.modify h ({ · with state := target })).emit e }) := by
  unfold transition
  cases hf : c.registry.find? a with
  | none => exact .inl rfl
  | some h =>
    simp only
    cases hm : c.registry.move? h target with
    | none => exact .inl rfl
    | some r =>
      obtain ⟨hs, rfl⟩ := Registry.move?_eq_some hm
      exact .inr ⟨h, rfl, hs, rfl⟩

/-- The states of hosts after a move of one of them. -/
theorem state_transition {c : Cluster} (wf : c.registry.WellFormed) (a : Address) (target : HostState)
    (e : HostEvent) (h : HostId) : ((c.transition a target e).2.registry.host h).state =
      if c.registry.find? a = some h ∧ (c.registry.host h).state ∈ target.sources then target
      else (c.registry.host h).state := by
  by_cases hmoves : c.registry.find? a = some h ∧ (c.registry.host h).state ∈ target.sources
  · obtain ⟨known, hsource⟩ := hmoves
    unfold transition Registry.move?
    simp only [known, hsource, if_true, and_self]
    exact congrArg Host.state (Registry.host_modify_self _ (wf.lt_of_mem (Registry.mem_ids_of_find? known)))
  · rw [if_neg hmoves]
    rcases transition_cases c a target e with he | ⟨k, known, hsource, he⟩ <;> rw [he]
    have hk : k ≠ h := fun hk => hmoves (hk ▸ ⟨known, hsource⟩)
    exact congrArg Host.state (Registry.host_modify_ne c.registry _ hk)

theorem adopt_described {c : Cluster} {h : HostId} {m m' : Metadata}
    (described : (c.registry.host h).metadata = some m') : c.adopt h m = c := by
  unfold adopt
  rw [described]

theorem adopt_bare {c : Cluster} {h : HostId} (m : Metadata) (bare : (c.registry.host h).metadata = none) :
    Reranked ((c.registry.modify h ({ · with metadata := some m })).rebuild c.registry.topology.members)
      (c.adopt h m).registry := by
  unfold adopt
  rw [bare]
  exact reclassify_reranked { c with registry :=
    (c.registry.modify h ({ · with metadata := some m })).rebuild c.registry.topology.members }

/-- Notes what an advertised address resolved to. -/
def remember (c : Cluster) (advertised a : Address) : Cluster :=
  { c with registry := c.registry.remember advertised a }

/-- What becomes of a report with one more peer: the host it was last known under stays reported, or
its new host is registered, or the host it has gets its metadata. -/
theorem takePeer_cases (s : Reconciling) (p : Translated) :
    (∃ f, p.translation = .error f ∧ (takePeer s p).cluster = s.cluster ∧
      (takePeer s p).added = s.added ∧ ∀ a ∈ s.reported, a ∈ (takePeer s p).reported) ∨
    (∃ a, p.translation = .ok a ∧ (takePeer s p).reported = a :: s.reported ∧
      ((s.cluster.registry.find? a = none ∧ (takePeer s p).added = s.added ++ [a] ∧
        (takePeer s p).cluster = ((s.cluster.remember p.advertised a).add (.ofPeer a p.toPeer)).2) ∨
      ∃ h, s.cluster.registry.find? a = some h ∧ (takePeer s p).added = s.added ∧
        (takePeer s p).cluster = (s.cluster.remember p.advertised a).adopt h p.metadata)) := by
  unfold takePeer
  cases ht : p.translation with
  | error f =>
    refine .inl ⟨f, rfl, ?_⟩
    simp only
    split
    · exact ⟨rfl, rfl, fun a ha => List.mem_cons_of_mem _ ha⟩
    · exact ⟨rfl, rfl, fun a ha => ha⟩
  | ok a =>
    refine .inr ⟨a, rfl, ?_⟩
    have hsame : (s.cluster.registry.remember p.advertised a).find? a = s.cluster.registry.find? a := rfl
    simp only [hsame]
    cases hf : s.cluster.registry.find? a with
    | none => exact ⟨rfl, .inl ⟨rfl, rfl, rfl⟩⟩
    | some h => exact ⟨rfl, .inr ⟨h, rfl, rfl, rfl⟩⟩

/-- Every host that a peer translated to is reported in the end. -/
theorem foldl_takePeer_reported {b : Address} : ∀ (report : List Translated) (s : Reconciling),
    (b ∈ s.reported ∨ ∃ p ∈ report, p.translation = .ok b) → b ∈ (report.foldl takePeer s).reported
  | [], _, h => h.resolve_right fun ⟨_, hq, _⟩ => List.not_mem_nil hq
  | p :: report, s, h => by
    refine foldl_takePeer_reported report _ ?_
    rcases takePeer_cases s p with ⟨f, hf, -, -, grows⟩ | ⟨a, ha, hreported, -⟩
    · rcases h with hb | ⟨q, hq, hb⟩
      · exact .inl (grows b hb)
      · rcases List.mem_cons.1 hq with rfl | hq
        · cases hf.symm.trans hb
        · exact .inr ⟨q, hq, hb⟩
    · rw [hreported]
      rcases h with hb | ⟨q, hq, hb⟩
      · exact .inl (List.mem_cons_of_mem a hb)
      · rcases List.mem_cons.1 hq with rfl | hq
        · cases ha.symm.trans hb
          exact .inl List.mem_cons_self
        · exact .inr ⟨q, hq, hb⟩

end Cluster

end CqlDispatch
