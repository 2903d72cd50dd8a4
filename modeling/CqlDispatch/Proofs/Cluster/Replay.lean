import Mathlib.Logic.Function.Basic
import CqlDispatch.Proofs.Cluster.Effect
import CqlDispatch.Proofs.Lookup
/-!
# Replaying the log

Whoever listens to a registry knows its hosts from the events alone.  Replayed in order on an empty
map, each event is legal where it comes, and the map at the end holds the registered addresses with
the states of their hosts.  The events of an operation are those that its answer reports, so an
operation that reports no change tells nothing; and a host that was taken out stays removed
(`log_replays`).
-/
namespace CqlDispatch

/-! ## Replay -/

/-- Whether an event may come when this is the state of its address. -/
def HostEvent.mayFollow : HostEvent → Option HostState → Bool
  | .added _, none => true
  | .down _ _, some .up | .down _ _, some .reconnecting => true
  | .reconnecting _, some .down => true
  | .up _, some .down | .up _, some .reconnecting => true
  | .removed _, some _ => true
  | _, _ => false

/-- The state of its address after an event. -/
def HostEvent.result : HostEvent → Option HostState
  | .added _ | .up _ => some .up
  | .down _ _ => some .down
  | .reconnecting _ => some .reconnecting
  | .removed _ => none

/-- What an event makes of the states of addresses, where it is legal. -/
def HostEvent.apply? (e : HostEvent) (m : Address → Option HostState) : Option (Address → Option HostState) :=
  if e.mayFollow (m e.address) then some (Function.update m e.address e.result) else none

/-- The states that a log leads to, the newest event first, or nothing where an event of it is not
legal. -/
def replay? : List HostEvent → Option (Address → Option HostState)
  | [] => some fun _ => none
  | e :: earlier => (replay? earlier).bind e.apply?

theorem replay?_cons {e : HostEvent} {log : List HostEvent} {m m' : Address → Option HostState}
    (hlog : replay? log = some m) (legal : e.mayFollow (m e.address) = true)
    (hm : m' = Function.update m e.address e.result) : replay? (e :: log) = some m' := by
  unfold replay?
  rw [hlog, Option.bind_some, hm]
  exact if_pos legal

namespace Registry

/-- The registered addresses with the states of their hosts. -/
def states (r : Registry) (a : Address) : Option HostState := (r.find? a).map fun h => (r.host h).state

/-- The log replays to what is registered. -/
def Replays (r : Registry) : Prop := replay? r.log = some r.states

theorem replays_empty (id : Nat) : Replays { id := id } := rfl

theorem Replays.of_same {r r' : Registry} (hr : r.Replays) (hlog : r'.log = r.log) (hs : r'.states = r.states) :
    r'.Replays := by
  unfold Replays
  rw [hlog, hs]
  exact hr

theorem Reranked.states {r r' : Registry} (k : Reranked r r') : r'.states = r.states := by
  funext a
  unfold Registry.states
  rw [k.find?]
  cases r.find? a with
  | none => rfl
  | some h => exact congrArg some (k.state h)

/-! ## The changes, as the states show them -/

theorem lookup_insertMember (a b : Address) (h : HostId) : ∀ l : List (Address × HostId),
    (insertMember a h l).lookup b = if b = a then some h else l.lookup b
  | [] => lookup_cons_if a b h []
  | (d, k) :: l => by
    unfold insertMember
    by_cases hd : a = d
    · subst hd
      rw [if_pos rfl, lookup_cons_if, lookup_cons_if]
      by_cases hb : b = a
      · rw [if_pos hb, if_pos hb]
      · rw [if_neg hb, if_neg hb, if_neg hb]
    · rw [if_neg hd]
      split
      · rw [lookup_cons_if]
      · rw [lookup_cons_if, lookup_cons_if, lookup_insertMember a b h l]
        by_cases hb : b = d
        · rw [if_pos hb, if_pos hb, if_neg (fun hba => hd (hba.symm.trans hb))]
        · rw [if_neg hb, if_neg hb]

theorem find?_enroll (r : Registry) (x : Host) (b : Address) :
    (r.enroll x).find? b = if b = x.address then some r.hosts.length else r.find? b :=
  lookup_insertMember x.address b r.hosts.length r.topology.members

theorem find?_strike (r : Registry) (a : Address) (h : HostId) (b : Address) :
    (r.strike a h).find? b = if b = a then none else r.find? b := by
  have hmembers : (r.strike a h).topology.members = r.topology.members.filter (·.1 != a) := by
    unfold strike move?
    dsimp only
    split <;> rfl
  unfold find? Topology.find?
  rw [hmembers, lookup_filter_ne]

/-- A registered host and its state, by address. -/
theorem states_of_find? {r : Registry} {a : Address} {h : HostId} (known : r.find? a = some h) :
    r.states a = some (r.host h).state := by
  unfold states
  rw [known]
  rfl

theorem states_of_free {r : Registry} {a : Address} (free : r.find? a = none) : r.states a = none := by
  unfold states
  rw [free]
  rfl

theorem WellFormed.states_enroll {r : Registry} (w : r.WellFormed) (x : Host) :
    (r.enroll x).states = Function.update r.states x.address (some x.state) := by
  funext b
  unfold states
  rw [find?_enroll]
  by_cases hb : b = x.address
  · rw [hb, if_pos rfl, Function.update_self, Option.map_some, host_enroll_new]
  · rw [if_neg hb, Function.update_of_ne hb]
    cases hf : r.find? b with
    | none => rfl
    | some h => exact congrArg some (congrArg Host.state (host_enroll_old (w.lt_of_mem (mem_ids_of_find? hf))))

theorem WellFormed.states_strike {r : Registry} (w : r.WellFormed) {a : Address} {h : HostId}
    (known : r.find? a = some h) : (r.strike a h).states = Function.update r.states a none := by
  funext b
  unfold states
  rw [find?_strike]
  by_cases hb : b = a
  · rw [hb, if_pos rfl, Function.update_self]
    rfl
  · rw [if_neg hb, Function.update_of_ne hb]
    cases hf : r.find? b with
    | none => rfl
    | some k =>
      have hne : h ≠ k := fun he => hb (by rw [← w.find?_address hf, ← w.find?_address known, he])
      exact congrArg some (congrArg Host.state (w.host_strike known hne))

theorem WellFormed.states_move {r : Registry} (w : r.WellFormed) {a : Address} {h : HostId}
    (known : r.find? a = some h) (target : HostState) :
    (r.modify h ({ · with state := target })).states = Function.update r.states a (some target) := by
  funext b
  show (r.find? b).map _ = _
  by_cases hb : b = a
  · rw [hb, Function.update_self, known, Option.map_some, host_modify_self _ (w.lt_of_mem (mem_ids_of_find? known))]
  · rw [Function.update_of_ne hb]
    unfold states
    cases hf : r.find? b with
    | none => rfl
    | some k =>
      have hne : h ≠ k := fun he => hb (by rw [← w.find?_address hf, ← w.find?_address known, he])
      exact congrArg some (congrArg Host.state (host_modify_ne r _ hne))

/-! ## Hosts that were taken out -/

/-- Every host is registered or removed. -/
def Accounted (r : Registry) : Prop :=
  ∀ h < r.hosts.length, h ∈ r.topology.ids ∨ (r.host h).state = .removed

/-- A host that was registered once and is no more. -/
def Departed (r : Registry) (h : HostId) : Prop := h < r.hosts.length ∧ h ∉ r.topology.ids

theorem Accounted.change {r r' : Registry} (acc : r.Accounted) (w : r.WellFormed) (hc : r.Change r') :
    r'.Accounted := by
  have kept : ∀ (k : HostId) (f : Host → Host), (∀ x, (f x).state = x.state) → ∀ h < (r.modify k f).hosts.length,
      h ∈ r.topology.ids ∨ ((r.modify k f).host h).state = .removed := fun k f hf h hlt => by
    rw [hosts_modify_length] at hlt
    rw [host_modify_keeps hf h]
    exact acc h hlt
  cases hc with
  | @enrolled a m free =>
    intro h hlt
    rw [hosts_enroll_length] at hlt
    rw [mem_ids_enroll free]
    rcases Nat.lt_succ_iff_lt_or_eq.1 hlt with hlt | rfl
    · rw [host_enroll_old hlt]
      exact (acc h hlt).imp_left .inr
    · exact .inl (.inl rfl)
  | @struck a k known =>
    intro h hlt
    rw [w.mem_ids_strike known]
    have hs := strike_eq (a := a) (w.ne_removed (mem_ids_of_find? known))
    by_cases hk : k = h
    · subst hk
      rw [hs]
      exact .inr (congrArg Host.state (host_modify_self (r := r.rebuild _) _
        (w.lt_of_mem (mem_ids_of_find? known))))
    · have hlength : (r.strike a k).hosts.length = r.hosts.length := by
        rw [hs]
        exact hosts_modify_length (r.rebuild _) k _
      rw [w.host_strike known hk]
      exact (acc h (hlength ▸ hlt)).imp_left (⟨·, hk⟩)
  | @adopted k m known bare => exact kept k _ fun _ => rfl
  | @ranked k d known => exact kept k _ fun _ => rfl
  | @moved a k target q e known legal about tells stays =>
    obtain ⟨-, rfl⟩ := move?_eq_some legal
    intro h hlt
    by_cases hk : k = h
    · exact .inl (hk ▸ mem_ids_of_find? known)
    · have hsame := host_modify_ne r (fun x => { x with state := target }) hk
      have hlength := hosts_modify_length r k ({ · with state := target })
      exact (acc h (hlength ▸ hlt)).imp_right fun hr => hsame.symm ▸ hr
  | joined => exact acc
  | left gone => exact acc
  | remembered => exact acc
  | replicated => exact acc

/-- A host that was taken out is never registered again: its address gets a new one. -/
theorem Departed.change {r r' : Registry} {h : HostId} (gone : r.Departed h) (w : r.WellFormed)
    (hc : r.Change r') : r'.Departed h := by
  refine ⟨Nat.lt_of_lt_of_le gone.1 (Extends.of_change w hc).length, ?_⟩
  cases hc with
  | enrolled free =>
    rw [mem_ids_enroll free]
    exact not_or.2 ⟨Nat.ne_of_lt gone.1, gone.2⟩
  | struck known =>
    rw [w.mem_ids_strike known]
    exact fun hm => gone.2 hm.1
  | moved known legal about tells stays =>
    obtain ⟨-, rfl⟩ := move?_eq_some legal
    exact gone.2
  | adopted known bare => exact gone.2
  | ranked known => exact gone.2
  | joined => exact gone.2
  | left => exact gone.2
  | remembered => exact gone.2
  | replicated => exact gone.2

end Registry

namespace Cluster

open Registry (Reranked states_of_find? states_of_free)

/-! ## What operations tell -/

/-- The events that the answer to an operation reports, in order: a host that was not registered
before, a host that was taken out, a state that changed, or the hosts that a topology report brought
and those it did not name. -/
def reports (c : Cluster) : Operation → List HostEvent
  | .add a m => if (c.add { address := a, metadata := m }).1 ∈ c.registry.topology.ids then [] else [.added a]
  | .report (.hostUp a) => if (c.markUp a).1 then [.up a] else []
  | .report (.hostDown a reason) => if (c.markDown a reason).1 then [.down a reason] else []
  | .report (.hostRemoved a) => if (c.remove a).1.isSome then [.removed a] else []
  | .startReconnecting a => if (c.startReconnecting a).1 then [.reconnecting a] else []
  | .refresh report =>
    let update := (c.applyTopology report).1
    update.added.map .added ++ update.removed.map .removed
  | _ => []

/-- From one cluster to a later one these events were told, in order, and each was legal. -/
structure Tells (c c' : Cluster) (events : List HostEvent) : Prop where
  wellFormed : c.registry.WellFormed → c'.registry.WellFormed
  log : c'.registry.log = events.reverse ++ c.registry.log
  replays : c.registry.WellFormed → c.registry.Replays → c'.registry.Replays

namespace Tells

theorem refl (c : Cluster) : Tells c c [] := ⟨fun w => w, rfl, fun _ hr => hr⟩

theorem trans {c c' c'' : Cluster} {es es' : List HostEvent} (h : Tells c c' es) (h' : Tells c' c'' es') :
    Tells c c'' (es ++ es') := by
  refine ⟨fun w => h'.wellFormed (h.wellFormed w), ?_, fun w hr => h'.replays (h.wellFormed w) (h.replays w hr)⟩
  rw [h'.log, h.log, List.reverse_append, List.append_assoc]

/-- Nothing is told where neither the log nor a state changes. -/
theorem of_same {c c' : Cluster} (changes : Changes c c') (hlog : c'.registry.log = c.registry.log)
    (hs : c'.registry.states = c.registry.states) : Tells c c' [] :=
  ⟨changes.wellFormed, hlog, fun _ hr => hr.of_same hlog hs⟩

/-- One event is told where it is legal and says what became of the states. -/
theorem single {c c' : Cluster} {e : HostEvent} (changes : Changes c c')
    (hlog : c'.registry.log = e :: c.registry.log)
    (legal : c.registry.WellFormed → e.mayFollow (c.registry.states e.address) = true)
    (hs : c.registry.WellFormed → c'.registry.states = Function.update c.registry.states e.address e.result) :
    Tells c c' [e] := by
  refine ⟨changes.wellFormed, hlog, fun w hr => ?_⟩
  unfold Registry.Replays
  rw [hlog]
  exact replay?_cons hr (legal w) (hs w)

end Tells

theorem add_tells (c : Cluster) (a : Address) (m : Option Metadata) :
    Tells c (c.add { address := a, metadata := m }).2
      (if (c.registry.find? a).isSome then [] else [.added a]) := by
  cases hf : c.registry.find? a with
  | some h =>
    rw [add_known (x := { address := a, metadata := m }) hf]
    exact .refl c
  | none =>
    obtain ⟨-, k⟩ := add_new (x := { address := a, metadata := m }) hf
    refine .single (add_changes c a m) k.log (fun _ => ?_) fun w => ?_
    · rw [show c.registry.states (HostEvent.added a).address = none from states_of_free hf]
      rfl
    · exact k.states.trans (w.states_enroll _)

theorem remove_tells (c : Cluster) (a : Address) :
    Tells c (c.remove a).2 (if (c.remove a).1.isSome then [.removed a] else []) := by
  cases hf : c.registry.find? a with
  | none =>
    rw [remove_unknown hf]
    exact .refl c
  | some h =>
    obtain ⟨hanswer, k⟩ := remove_known hf
    rw [hanswer]
    refine .single (remove_changes c a) ?_ (fun _ => ?_) fun w => ?_
    · rw [k.log]
      exact congrArg (_ :: ·) (Registry.log_strike _ _ _)
    · rw [show c.registry.states (HostEvent.removed a).address = _ from states_of_find? hf]
      rfl
    · exact k.states.trans (w.states_strike hf)

/-- A legal move is told by an event that may come after any state it can start from. -/
theorem mayFollow_of_source {e : HostEvent} {target s : HostState} (tells : e.tells = some target)
    (stays : target ≠ .removed) (hs : s ∈ target.sources) :
    e.mayFollow (some s) = true ∧ e.result = some target := by
  cases e <;> cases tells <;> cases s <;> first | exact ⟨rfl, rfl⟩ | exact absurd hs (by decide) | exact absurd rfl stays

theorem transition_tells (c : Cluster) (a : Address) {target : HostState} {e : HostEvent}
    (about : e.address = a) (tells : e.tells = some target) (stays : target ≠ .removed) :
    Tells c (c.transition a target e).2 (if (c.transition a target e).1 then [e] else []) := by
  have changes := transition_changes c a about tells stays
  rcases transition_cases c a target e with he | ⟨h, known, legal, he⟩
  · rw [he]
    exact .refl c
  · obtain ⟨hfollow, hresult⟩ := mayFollow_of_source tells stays legal
    rw [he] at changes ⊢
    refine .single changes rfl (fun _ => ?_) fun w => ?_
    · rw [about, states_of_find? known]
      exact hfollow
    · rw [about, hresult]
      exact w.states_move known target

/-! ## Topology reports -/

theorem adopt_tells (c : Cluster) {h : HostId} (hm : h ∈ c.registry.topology.ids) (m : Metadata) :
    Tells c (c.adopt h m) [] := by
  cases hd : (c.registry.host h).metadata with
  | some m' =>
    rw [adopt_described hd]
    exact .refl c
  | none =>
    have k := adopt_bare m hd
    refine .of_same (adopt_changes c hm m) k.log (k.states.trans ?_)
    funext b
    show (c.registry.find? b).map _ = (c.registry.find? b).map _
    have hkeeps : ∀ x : Host, ({ x with metadata := some m } : Host).state = x.state := fun _ => rfl
    exact congrArg (Option.map · _) (funext fun j => Registry.host_modify_keeps hkeeps j)

theorem remember_tells (c : Cluster) (advertised a : Address) :
    Tells c (c.remember advertised a) [] :=
  .of_same (.registry .remembered) rfl rfl

/-- Taking a peer in tells of the host that is added, if one is. -/
theorem takePeer_tells (s : Reconciling) (p : Translated) :
    ∃ new, (takePeer s p).added = s.added ++ new ∧
      Tells s.cluster (takePeer s p).cluster (new.map .added) := by
  rcases takePeer_cases s p with ⟨f, -, hc, hadded, -⟩ | ⟨a, -, -, ⟨hf, hadded, hc⟩ | ⟨h, hf, hadded, hc⟩⟩
  · exact ⟨[], hadded.trans (List.append_nil _).symm, hc ▸ .refl _⟩
  · have hadd := add_tells (s.cluster.remember p.advertised a) a (some p.metadata)
    rw [show (s.cluster.remember p.advertised a).registry.find? a = none from hf] at hadd
    refine ⟨[a], hadded, ?_⟩
    rw [hc]
    exact (remember_tells _ _ a).trans hadd
  · have hmem : h ∈ (s.cluster.remember p.advertised a).registry.topology.ids :=
      Registry.mem_ids_of_find? (r := s.cluster.registry) hf
    refine ⟨[], hadded.trans (List.append_nil _).symm, ?_⟩
    rw [hc]
    exact (remember_tells _ _ a).trans (adopt_tells _ hmem _)

theorem foldl_takePeer_tells : ∀ (report : List Translated) (s : Reconciling),
    ∃ new, (report.foldl takePeer s).added = s.added ++ new ∧
      Tells s.cluster (report.foldl takePeer s).cluster (new.map .added)
  | [], s => ⟨[], (List.append_nil _).symm, .refl _⟩
  | p :: report, s => by
    obtain ⟨new, hadded, htells⟩ := takePeer_tells s p
    obtain ⟨more, hmore, htells'⟩ := foldl_takePeer_tells report (takePeer s p)
    refine ⟨new ++ more, ?_, ?_⟩
    · rw [List.foldl_cons, hmore, hadded, List.append_assoc]
    · rw [List.map_append]
      exact htells.trans htells'

theorem removeAll_tells : ∀ (stale : List Address) (c : Cluster),
    Tells c (c.removeAll stale).2 ((c.removeAll stale).1.map .removed)
  | [], c => .refl c
  | a :: stale, c => by
    have h := (remove_tells c a).trans (removeAll_tells stale (c.remove a).2)
    unfold removeAll
    cases hr : (c.remove a).1 <;> simpa [hr] using h

theorem applyTopology_tells (c : Cluster) (report : List Translated) :
    Tells c (c.applyTopology report).2 ((c.applyTopology report).1.added.map .added ++
      (c.applyTopology report).1.removed.map .removed) := by
  unfold applyTopology
  split
  · exact .refl c
  · obtain ⟨new, hadded, htells⟩ := foldl_takePeer_tells report { cluster := c }
    simp only [hadded, List.nil_append]
    exact htells.trans (removeAll_tells _ _)

/-! ## Operations -/

/-- The answer to an addition is a new host exactly when the address was free. -/
theorem add_fst_mem_iff {c : Cluster} (w : c.registry.WellFormed) (x : Host) :
    (c.add x).1 ∈ c.registry.topology.ids ↔ (c.registry.find? x.address).isSome := by
  cases hf : c.registry.find? x.address with
  | none =>
    rw [(add_new hf).1]
    exact ⟨fun hm => absurd (w.lt_of_mem hm) (Nat.lt_irrefl _), nofun⟩
  | some h =>
    rw [add_known hf]
    exact ⟨fun _ => rfl, fun _ => Registry.mem_ids_of_find? hf⟩

/-- **An operation tells what its answer reports.** -/
theorem perform_tells {c : Cluster} (w : c.registry.WellFormed) (o : Operation) :
    Tells c (c.perform o) (c.reports o) := by
  have silent : c.registry.Reranked (c.perform o).registry → c.reports o = [] →
      Tells c (c.perform o) (c.reports o) := fun k hnone => by
    rw [hnone]
    exact .of_same (perform_changes c o) k.log k.states
  cases o with
  | add a m =>
    have h := add_tells c a m
    unfold reports
    simp only [add_fst_mem_iff w]
    exact h
  | report e =>
    cases e with
    | hostUp a => exact transition_tells c a rfl rfl HostState.noConfusion
    | hostDown a reason => exact transition_tells c a rfl rfl HostState.noConfusion
    | hostRemoved a => exact remove_tells c a
  | startReconnecting a => exact transition_tells c a rfl rfl HostState.noConfusion
  | refresh report => exact applyTopology_tells c report
  | refreshDistances k => exact silent (refreshDistances_reranked k c) rfl
  | classifyBy k => exact silent (reclassify_reranked { c with classifier := some k }) rfl
  | setReplicationFactor keyspace factor => exact .of_same (.registry .replicated) rfl rfl
  | initBalancer => exact silent (.refl _) rfl
  | plan keyspace options => exact silent (.refl _) rfl
  | distance h => exact silent (.refl _) rfl

theorem Built.replays {c : Cluster} (built : Built c) : c.registry.Replays := by
  induction built with
  | empty => exact Registry.replays_empty _
  | perform built o ih => exact (perform_tells built.wellFormed o).replays built.wellFormed ih

theorem Built.accounted {c : Cluster} (built : Built c) : c.registry.Accounted := by
  induction built with
  | empty => exact fun h hlt => absurd hlt (Nat.not_lt_zero h)
  | perform built o ih =>
    exact ((perform_changes _ o).keeps_registry (fun w a hc => a.change w hc) built.wellFormed ih).2

/-- **The log tells all there is to know of the hosts, and no more.**  Whatever the operations were,
every event of the log is legal where it comes, and the log replays to the registered addresses with
the states of their hosts.  An operation tells exactly the changes that its answer reports.  A host
that was once registered and is no more is removed, and stays so whatever happens. -/
theorem log_replays {c : Cluster} (built : Built c) :
    replay? c.registry.log = some c.registry.states ∧
    (∀ o, (c.perform o).registry.log = (c.reports o).reverse ++ c.registry.log) ∧
    (∀ h < c.registry.hosts.length, h ∉ c.registry.topology.ids →
      ∀ ops, ((c.performAll ops).registry.host h).state = .removed) := by
  refine ⟨built.replays, fun o => (perform_tells built.wellFormed o).log, fun h hlt hout ops => ?_⟩
  have hgone := ((performAll_changes ops c).keeps_registry (I := fun r => r.Departed h)
    (fun w d hc => d.change w hc) built.wellFormed ⟨hlt, hout⟩).2
  exact ((built.performAll ops).accounted h hgone.1).resolve_left hgone.2

/-- A host that goes down, is tried again, is taken out and comes back. -/
def leavesAndRejoins : List Operation :=
  [.add ⟨.v4 1, 0⟩ none, .report (.hostDown ⟨.v4 1, 0⟩ "reset"), .startReconnecting ⟨.v4 1, 0⟩,
    .report (.hostRemoved ⟨.v4 1, 0⟩), .add ⟨.v4 1, 0⟩ none]

theorem rejoined_host_replays :
    let c := performAll {} leavesAndRejoins
    c.registry.log = [.added ⟨.v4 1, 0⟩, .removed ⟨.v4 1, 0⟩, .reconnecting ⟨.v4 1, 0⟩,
      .down ⟨.v4 1, 0⟩ "reset", .added ⟨.v4 1, 0⟩] ∧
    c.registry.find? ⟨.v4 1, 0⟩ = some 1 ∧
    replay? c.registry.log = some c.registry.states ∧
    ∀ ops, ((c.performAll ops).registry.host 0).state = .removed := by
  intro c
  have h := log_replays (Built.performAll .empty leavesAndRejoins : Built c)
  exact ⟨by rfl, by rfl, h.1, h.2.2 0 (by decide) (by decide)⟩

end Cluster

end CqlDispatch
