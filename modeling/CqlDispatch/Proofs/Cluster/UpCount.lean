import CqlDispatch.Proofs.Cluster.Replay
/-!
# How many hosts are up

The number of registered hosts that are up, after the operations that move a single host.  Each of them changes
it by what the host counted before and counts after.
-/
namespace CqlDispatch

namespace Registry

theorem upCount_eq (r : Registry) : r.upCount = r.topology.ids.countP r.isUp := by
  unfold upCount members
  rw [List.countP_map]
  rfl

theorem Reranked.upCount {r r' : Registry} (k : Reranked r r') : r'.upCount = r.upCount := by
  rw [upCount_eq, upCount_eq, k.topology, funext k.isUp]

/-- The host counts anew, and all others as before. -/
theorem WellFormed.upCount_move {r : Registry} (w : r.WellFormed) {h : HostId} (hm : h ∈ r.topology.ids)
    (target : HostState) : (r.modify h ({ · with state := target })).upCount +
      (if (r.host h).state = .up then 1 else 0) = r.upCount + (if target = .up then 1 else 0) := by
  let r' := r.modify h ({ · with state := target })
  have hperm := List.perm_cons_erase hm
  have hrest : (r.topology.ids.erase h).countP r'.isUp = (r.topology.ids.erase h).countP r.isUp :=
    List.countP_congr fun k hk => by
      have hne : h ≠ k := (w.ids_nodup.mem_erase_iff.1 hk).1.symm
      unfold isUp
      rw [host_modify_ne r _ hne]
  have hself : r'.isUp h = (target == .up) := by
    unfold isUp Host.isUp
    rw [host_modify_self _ (w.lt_of_mem hm)]
  have hself' : r.isUp h = ((r.host h).state == .up) := rfl
  show r'.upCount + _ = _
  rw [upCount_eq, upCount_eq, show r'.topology = r.topology from rfl, hperm.countP_eq, hperm.countP_eq,
    List.countP_cons, List.countP_cons, hrest, hself, hself']
  simp only [beq_iff_eq]
  omega

theorem WellFormed.upCount_enroll {r : Registry} (w : r.WellFormed) {x : Host} (free : r.find? x.address = none) :
    (r.enroll x).upCount = r.upCount + (if x.state = .up then 1 else 0) := by
  have hold : r.topology.ids.countP (r.enroll x).isUp = r.topology.ids.countP r.isUp :=
    List.countP_congr fun k hk => by
      unfold isUp
      rw [host_enroll_old (w.lt_of_mem hk)]
  have hnew : (r.enroll x).isUp r.hosts.length = (x.state == .up) := by
    unfold isUp Host.isUp
    rw [host_enroll_new]
  rw [upCount_eq, upCount_eq, (ids_enroll_perm free).countP_eq, List.countP_cons, hold, hnew]
  simp only [beq_iff_eq]

end Registry

namespace Cluster

/-- A host that moves counts as what it was no more, and counts as what it is. -/
theorem upCount_transition {c : Cluster} (w : c.registry.WellFormed) (a : Address) (target : HostState)
    (e : HostEvent) : (c.transition a target e).2.registry.upCount +
      (if c.registry.states a = some .up ∧ .up ∈ target.sources then 1 else 0) =
        c.registry.upCount + (if target = .up ∧ ∃ s ∈ c.registry.states a, s ∈ target.sources then 1 else 0) := by
  cases hf : c.registry.find? a with
  | none =>
    have hsame : (c.transition a target e).2 = c := by
      unfold transition
      rw [hf]
    simp [hsame, Registry.states_of_free hf]
  | some h =>
    have hstate := Registry.states_of_find? hf
    by_cases hs : (c.registry.host h).state ∈ target.sources
    · have hmoved : (c.transition a target e).2.registry =
          (c.registry.modify h ({ · with state := target })).emit e := by
        unfold transition Registry.move?
        simp only [hf, hs, if_true]
      have hcount := w.upCount_move (Registry.mem_ids_of_find? hf) target
      rw [hmoved, hstate]
      show (c.registry.modify h ({ · with state := target })).upCount + _ = _
      by_cases hup : (c.registry.host h).state = .up
      · simp only [hup] at hs hcount ⊢
        simpa [hs] using hcount
      · simpa [hup, hs] using hcount
    · have hsame : (c.transition a target e).2 = c := by
        unfold transition Registry.move?
        simp only [hf, hs, if_false]
      rw [hsame, hstate]
      rw [if_neg, if_neg]
      · rintro ⟨-, s, hs', hsource⟩
        exact hs (Option.some.inj hs' ▸ hsource)
      · rintro ⟨hup, hsource⟩
        exact hs (Option.some.inj hup ▸ hsource)

theorem upCount_markDown {c : Cluster} (w : c.registry.WellFormed) (a : Address) (reason : String) :
    (c.markDown a reason).2.registry.upCount + (if c.registry.states a = some .up then 1 else 0) =
      c.registry.upCount := by
  simpa [HostState.sources, markDown] using upCount_transition w a .down (.down a reason)

theorem upCount_startReconnecting {c : Cluster} (w : c.registry.WellFormed) (a : Address) :
    (c.startReconnecting a).2.registry.upCount = c.registry.upCount := by
  simpa [HostState.sources, startReconnecting] using upCount_transition w a .reconnecting (.reconnecting a)

/-- A host that is up is not tried again. -/
theorem up_startReconnecting_iff {c : Cluster} (w : c.registry.WellFormed) (a : Address) :
    (c.startReconnecting a).2.registry.states a = some .up ↔ c.registry.states a = some .up := by
  unfold startReconnecting
  rcases transition_cases c a .reconnecting (.reconnecting a) with he | ⟨h, known, hsource, he⟩ <;> rw [he]
  have hbefore := Registry.states_of_find? known
  have hdown : (c.registry.host h).state = .down := List.mem_singleton.1 hsource
  have hafter : (c.registry.modify h ({ · with state := .reconnecting })).states a = some .reconnecting := by
    rw [w.states_move known, Function.update_self]
  rw [show ((c.registry.modify h ({ · with state := .reconnecting })).emit (.reconnecting a)).states a = _ from hafter,
    hbefore, hdown]
  exact ⟨nofun, nofun⟩

theorem upCount_markUp {c : Cluster} (w : c.registry.WellFormed) (a : Address) :
    (c.markUp a).2.registry.upCount =
      c.registry.upCount + (if ∃ s ∈ c.registry.states a, s ∈ HostState.up.sources then 1 else 0) := by
  simpa [HostState.sources, markUp] using upCount_transition w a .up (.up a)

theorem upCount_add {c : Cluster} (w : c.registry.WellFormed) (a : Address) (m : Option Metadata) :
    (c.add { address := a, metadata := m }).2.registry.upCount =
      c.registry.upCount + (if c.registry.find? a = none then 1 else 0) := by
  cases hf : c.registry.find? a with
  | some h =>
    rw [add_known (x := { address := a, metadata := m }) hf]
    rfl
  | none =>
    rw [(add_new (x := { address := a, metadata := m }) hf).2.upCount]
    exact w.upCount_enroll (x := { address := a, metadata := m }) hf

end Cluster

end CqlDispatch
