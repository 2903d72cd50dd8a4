import CqlDispatch.Proofs.Cluster.Reconcile
/-!
# What advertised addresses last translated to

Where an address does not translate, a report goes by what the registry remembers of it.  That is the address
it last translated to, unless that was taken out since (`remembered_performAll`): each operation leaves what it
translates itself, and of what was there before, whatever is still registered (`remembered_perform`).  With it,
what a report leaves of the registered hosts is told by the operations alone (`report_reconciles`).  A host that
was taken out and came back is not remembered for what translated to it before (`returned_host_dropped`).
-/
namespace CqlDispatch

/-- Where no key stands twice, leaving entries out by their value is leaving them out once they are found. -/
theorem lookup_filter_value {α β : Type} [DecidableEq α] (q : β → Bool) (a : α) : ∀ {l : List (α × β)},
    l.Pairwise (·.1 ≠ ·.1) → (l.filter fun x => q x.2).lookup a = (l.lookup a).filter q
  | [], _ => rfl
  | (b, v) :: l, distinct => by
    obtain ⟨hb, distinct⟩ := List.pairwise_cons.1 distinct
    have ih := lookup_filter_value q a distinct
    rw [List.filter_cons]
    by_cases ha : a = b
    · subst ha
      have hfree : l.lookup a = none := List.lookup_eq_none_iff.2 fun x hx => by simpa using hb x hx
      cases hv : q v <;> simp [ih, hfree, Option.filter_some, hv]
    · cases hv : q v <;> simp [lookup_cons_if, ha, ih]

namespace Registry

/-- Each advertised address is remembered once. -/
def Distinct (r : Registry) : Prop := r.resolved.Pairwise (·.1 ≠ ·.1)

theorem resolved_strike (r : Registry) (a : Address) (h : HostId) :
    (r.strike a h).resolved = r.resolved.filter (·.2 != a) := by
  unfold strike move?
  dsimp only
  split <;> rfl

theorem Distinct.change {r r' : Registry} (distinct : r.Distinct) (hc : r.Change r') : r'.Distinct := by
  unfold Distinct at *
  cases hc with
  | struck known =>
    rw [resolved_strike]
    exact distinct.filter _
  | remembered =>
    refine List.pairwise_cons.2 ⟨fun x hx => ?_, distinct.filter _⟩
    have hne := (List.mem_filter.1 hx).2
    simpa using Ne.symm (by simpa using hne)
  | moved known legal about tells stays =>
    obtain ⟨-, rfl⟩ := move?_eq_some legal
    exact distinct
  | enrolled | adopted | ranked | joined | left | replicated => exact distinct

theorem Resolves.lookup {r : Registry} (hr : r.Resolves) {b a : Address} (h : r.resolved.lookup b = some a) :
    (r.find? a).isSome := by
  obtain ⟨l, l', hl, -⟩ := List.lookup_eq_some_iff.1 h
  exact hr (b, a) (by rw [hl]; exact List.mem_append_right _ List.mem_cons_self)

/-- What is remembered is registered. -/
theorem Resolves.filter {r r' : Registry} (hr : r.Resolves)
    (grows : ∀ a, (r.find? a).isSome → (r'.find? a).isSome) (b : Address) :
    (r.resolved.lookup b).filter (fun a => (r'.find? a).isSome) = r.resolved.lookup b := by
  cases hb : r.resolved.lookup b with
  | none => rfl
  | some a => rw [Option.filter_some, if_pos (grows a (hr.lookup hb))]

end Registry

namespace Cluster

theorem Built.distinct {c : Cluster} (built : Built c) : c.registry.Distinct := by
  induction built with
  | empty => exact List.Pairwise.nil
  | perform built o ih =>
    exact ((perform_changes _ o).keeps_registry (fun _ hd hc => hd.change hc) built.wellFormed ih).2

/-! ## Removals -/

/-- What is remembered goes with the host. -/
theorem remembered_remove {c : Cluster} (hd : c.registry.Distinct) (hr : c.registry.Resolves) (a b : Address) :
    (c.remove a).2.registry.resolved.lookup b =
      (c.registry.resolved.lookup b).filter fun x => ((c.remove a).2.registry.find? x).isSome := by
  cases hf : c.registry.find? a with
  | none =>
    rw [remove_unknown hf]
    exact (hr.filter (fun _ h => h) b).symm
  | some h =>
    have known : (c.registry.resolved.lookup b).filter (fun x => (c.registry.find? x).isSome) =
        c.registry.resolved.lookup b := hr.filter (fun _ h => h) b
    rw [(remove_known hf).2.resolved]
    refine ((congrArg (List.lookup b) (Registry.resolved_strike c.registry a h)).trans
      (lookup_filter_value (· != a) b hd)).trans ?_
    rw [← known, Option.filter_filter, Option.filter_filter]
    refine congrArg (Option.filter · _) (funext fun x => ?_)
    rw [remove_find?]
    by_cases hx : x = a <;> simp [hx]

theorem remembered_removeAll : ∀ (stale : List Address) {c : Cluster}, c.registry.WellFormed →
    c.registry.Distinct → c.registry.Resolves → ∀ b, (c.removeAll stale).2.registry.resolved.lookup b =
      (c.registry.resolved.lookup b).filter fun x => ((c.removeAll stale).2.registry.find? x).isSome
  | [], _, _, _, hr, b => (hr.filter (fun _ h => h) b).symm
  | a :: stale, c, wf, hd, hr, b => by
    have changes := remove_changes c a
    have hd' := (changes.keeps_registry (fun _ hd hc => hd.change hc) wf hd).2
    refine (remembered_removeAll stale (changes.wellFormed wf) hd' (remove_resolves hr a) b).trans ?_
    rw [remembered_remove hd hr, Option.filter_filter]
    refine congrArg (Option.filter · _) (funext fun x => ?_)
    show _ = ((removeAll (c.remove a).2 stale).2.registry.find? x).isSome
    rw [removeAll_find?]
    by_cases hx : x ∈ stale <;> simp [hx]

/-! ## Operations -/

/-- What an advertised address translates to in an operation: a report that names it asks for it, and the
last answer stands. -/
def Operation.translated? : Operation → Address → Option Address
  | .refresh answered, b => lastAnswer answered b
  | _, _ => none

/-- What a report leaves is what was taken in, less hosts that no peer translated to. -/
theorem applyTopology_removes {report : List Translated} (nonempty : report ≠ []) (c : Cluster) :
    ∃ stale, (∀ p ∈ report, ∀ a, p.translation = .ok a → a ∉ stale) ∧
      (c.applyTopology report).2 = ((report.foldl takePeer { cluster := c }).cluster.removeAll stale).2 := by
  refine ⟨_, fun p hp a ha hm => ?_, congrArg Prod.snd (applyTopology_nonempty nonempty c)⟩
  exact (mem_stale.1 hm).2 (foldl_takePeer_reported report { cluster := c } (.inr ⟨p, hp, ha⟩))

theorem remembered_applyTopology {c : Cluster} (wf : c.registry.WellFormed) (hd : c.registry.Distinct)
    (hr : c.registry.Resolves) (report : List Translated) (b : Address) :
    (c.applyTopology report).2.registry.resolved.lookup b = (lastAnswer report b).or
      ((c.registry.resolved.lookup b).filter fun x => ((c.applyTopology report).2.registry.find? x).isSome) := by
  by_cases hempty : report = []
  · subst hempty
    exact (hr.filter (fun _ h => h) b).symm
  obtain ⟨stale, hstale, hresult⟩ := applyTopology_removes hempty c
  have changes := foldl_takePeer_changes report { cluster := c }
  obtain ⟨wf', hd'⟩ := changes.keeps_registry (fun _ hd hc => hd.change hc) wf hd
  have hr' := foldl_takePeer_resolves report (s := { cluster := c }) hr
  have taken : (report.foldl takePeer { cluster := c }).cluster.registry.resolved.lookup b =
      (lastAnswer report b).or (c.registry.resolved.lookup b) := by
    rw [foldl_takePeer_noted, lookup_foldl_noted]
  have hremembered := remembered_removeAll stale wf' hd' hr' b
  rw [← hresult, taken] at hremembered
  rw [hremembered]
  cases hnew : lastAnswer report b with
  | none => rw [Option.none_or, Option.none_or]
  | some a =>
    -- What was translated last is the host of one of the peers, and is not removed.
    have hfresh : ((c.applyTopology report).2.registry.find? a).isSome := by
      obtain ⟨p, hp, ha⟩ := lastAnswer_mem hnew
      rw [hresult, removeAll_find?, if_neg (hstale p hp a ha)]
      exact hr'.lookup (taken.trans (by rw [hnew, Option.some_or]))
    rw [Option.some_or, Option.some_or, Option.filter_some, if_pos hfresh]

/-- **An operation leaves what it translates, and of what was remembered, what is still registered.** -/
theorem remembered_perform {c : Cluster} (built : Built c) (o : Operation) (b : Address) :
    (c.perform o).registry.resolved.lookup b = (o.translated? b).or
      ((c.registry.resolved.lookup b).filter fun x => ((c.perform o).registry.find? x).isSome) := by
  have hr := built.resolves
  have same : ∀ {c' : Cluster}, c'.registry.resolved = c.registry.resolved →
      (∀ x, (c.registry.find? x).isSome → (c'.registry.find? x).isSome) →
      c'.registry.resolved.lookup b = (none : Option Address).or
        ((c.registry.resolved.lookup b).filter fun x => (c'.registry.find? x).isSome) := fun {c'} hsame grows => by
    rw [Option.none_or, hsame]
    exact (hr.filter grows b).symm
  have topology : ∀ {c' : Cluster}, c'.registry.topology = c.registry.topology →
      ∀ x, (c.registry.find? x).isSome → (c'.registry.find? x).isSome := fun {c'} ht x hx => by
    unfold Registry.find? at *
    rwa [ht]
  have transition : ∀ a target e, (c.transition a target e).2.registry.resolved = c.registry.resolved :=
    fun a target e => by
      rcases transition_cases c a target e with he | ⟨h, -, -, he⟩ <;> rw [he]
      rfl
  cases o with
  | add a m => exact same (add_resolved c _) fun x hx => (add_find?_isSome c _ x).2 (.inr hx)
  | report e =>
    cases e with
    | hostUp a => exact same (transition a .up (.up a)) (topology (topology_transition c a _ _))
    | hostDown a reason => exact same (transition a .down (.down a reason)) (topology (topology_transition c a _ _))
    | hostRemoved a => exact (remembered_remove built.distinct hr a b).trans (Option.none_or).symm
  | startReconnecting a =>
    exact same (transition a .reconnecting (.reconnecting a)) (topology (topology_transition c a _ _))
  | refresh report => exact remembered_applyTopology built.wellFormed built.distinct hr report b
  | refreshDistances k =>
    exact same (refreshDistances_reranked k c).resolved (topology (refreshDistances_reranked k c).topology)
  | classifyBy k =>
    have rank := reclassify_reranked { c with classifier := some k }
    exact same rank.resolved (topology rank.topology)
  | setReplicationFactor | initBalancer | plan | distance => exact same rfl fun _ h => h

/-- The registered address that an advertised one last translated to, by the operations on a cluster and
what it was before them: the last report that translates it decides, until that address is taken out. -/
def lastTranslation (b : Address) : Cluster → Option Address → List Operation → Option Address
  | _, last, [] => last
  | c, last, o :: ops => lastTranslation b (c.perform o)
      ((o.translated? b).or (last.filter fun a => ((c.perform o).registry.find? a).isSome)) ops

/-- **What is remembered of an advertised address is what it last translated to.** -/
theorem remembered_performAll (b : Address) : ∀ (ops : List Operation) {c : Cluster}, Built c →
    (c.performAll ops).registry.resolved.lookup b = lastTranslation b c (c.registry.resolved.lookup b) ops
  | [], _, _ => rfl
  | o :: ops, c, built => by
    refine (remembered_performAll b ops (built.perform o)).trans ?_
    rw [remembered_perform built o b]
    rfl

/-- **What a topology report leaves.**  Whatever the operations before it were, the registered addresses are
afterwards the translations of the report, and for each peer that did not translate, the registered address
that it last translated to, or else its own.  The answer lists the addresses that are new in the order of the
report, those that are gone in their own order, and those that did not translate.  A host that stays is the
same, in the state it had, with the metadata it had or else the first that the report has for it.  An empty
report changes nothing. -/
theorem report_reconciles (id : Nat) (b : Balancer) (k : Option Classifier) (ops : List Operation)
    (peers : List Peer) (t : Translator) :
    let empty : Cluster := { registry := { id := id }, balancer := b, classifier := k }
    let c := empty.performAll ops
    (peers = [] → c.applyTopology (t.answers peers) = ({}, c)) ∧
      (peers ≠ [] → Reconciled c.registry (fun a => lastTranslation a empty none ops) peers t
        (c.applyTopology (t.answers peers)).1 (c.applyTopology (t.answers peers)).2.registry) := by
  intro empty c
  have start : Built empty := .empty
  refine ⟨?_, fun nonempty => ?_⟩
  · rintro rfl
    rfl
  · have hlast : (fun a => lastTranslation a empty none ops) = fun a => c.registry.resolved.lookup a :=
      funext fun a => (remembered_performAll a ops start).symm
    rw [hlast]
    exact applyTopology_reconciled (start.performAll ops).wellFormed nonempty t

/-- A contact point, two hosts that a report translates to, one of which goes down. -/
def beforeReport : List Operation :=
  [.add ⟨.v4 1, 0⟩ none,
    .refresh ((Translator.table [(.v4 12, ⟨.v4 2, 0⟩), (.v4 13, ⟨.v4 3, 0⟩)] true).answers
      [⟨⟨.v4 1, 0⟩, {}⟩, ⟨⟨.v4 12, 0⟩, { tokens := [⟨2⟩] }⟩, ⟨⟨.v4 13, 0⟩, { tokens := [⟨3⟩] }⟩]),
    .report (.hostDown ⟨.v4 2, 0⟩ "reset")]

/-- A report with two peers at the contact point, two at a new address, and one that does not translate. -/
def collidingPeers : List Peer :=
  [⟨⟨.v4 14, 0⟩, { tokens := [⟨4⟩] }⟩, ⟨⟨.v4 12, 0⟩, { tokens := [⟨5⟩] }⟩, ⟨⟨.v4 11, 0⟩, { tokens := [⟨6⟩] }⟩,
    ⟨⟨.v4 15, 0⟩, { tokens := [⟨7⟩] }⟩, ⟨⟨.v4 16, 0⟩, { tokens := [⟨8⟩] }⟩]

def collidingTable : Translator :=
  .table [(.v4 11, ⟨.v4 1, 0⟩), (.v4 14, ⟨.v4 4, 0⟩), (.v4 15, ⟨.v4 4, 0⟩), (.v4 16, ⟨.v4 1, 0⟩)] true

theorem colliding_report_reconciles :
    Reconciled (performAll {} beforeReport).registry (fun a => lastTranslation a {} none beforeReport) collidingPeers
        collidingTable ((performAll {} beforeReport).applyTopology (collidingTable.answers collidingPeers)).1
        ((performAll {} beforeReport).applyTopology (collidingTable.answers collidingPeers)).2.registry ∧
      lastTranslation ⟨.v4 12, 0⟩ {} none beforeReport = some ⟨.v4 2, 0⟩ ∧
      ((performAll {} beforeReport).applyTopology (collidingTable.answers collidingPeers)).1 =
        { added := [⟨.v4 4, 0⟩], removed := [⟨.v4 3, 0⟩], failed := [⟨.v4 12, 0⟩] } ∧
      let after := ((performAll {} beforeReport).applyTopology (collidingTable.answers collidingPeers)).2.registry
      after.topology.addresses = [⟨.v4 1, 0⟩, ⟨.v4 2, 0⟩, ⟨.v4 4, 0⟩] ∧
        (after.host 0).metadata = some { tokens := [⟨6⟩] } ∧ (after.host 1).state = .down := by
  have h := report_reconciles 0 (.roundRobin none 0) none beforeReport collidingPeers collidingTable
  exact ⟨h.2 (List.cons_ne_nil _ _), by decide +kernel, by decide +kernel, by decide +kernel, by decide +kernel,
    by decide +kernel⟩

/-! ## A host that came back -/

/-- What an advertised address was translated to last, whatever was taken out since. -/
def translatedLast (ops : List Operation) (b : Address) : Option Address :=
  ops.reverse.findSome? (·.translated? b)

/-- A report that translates two peers, and the host of the first one removed and added again. -/
def beforeReturn : List Operation :=
  [.refresh ((Translator.table [(.v4 11, ⟨.v4 1, 0⟩), (.v4 12, ⟨.v4 2, 0⟩)] true).answers
      [⟨⟨.v4 11, 0⟩, {}⟩, ⟨⟨.v4 12, 0⟩, {}⟩]),
    .report (.hostRemoved ⟨.v4 1, 0⟩), .add ⟨.v4 1, 0⟩ none]

/-- The same peers again, the first of which does not translate any more. -/
def failingPeers : List Peer := [⟨⟨.v4 11, 0⟩, {}⟩, ⟨⟨.v4 12, 0⟩, {}⟩]

def failingTable : Translator := .table [(.v4 12, ⟨.v4 2, 0⟩)] true

/-- The registered address that a peer last translated to does not always stay: it was taken out since, and what
had translated to it was forgotten. -/
theorem returned_host_dropped :
    translatedLast beforeReturn ⟨.v4 11, 0⟩ = some ⟨.v4 1, 0⟩ ∧
      ⟨.v4 1, 0⟩ ∈ (performAll {} beforeReturn).registry.topology.addresses ∧
      ¬ Reconciled (performAll {} beforeReturn).registry (translatedLast beforeReturn) failingPeers failingTable
        ((performAll {} beforeReturn).applyTopology (failingTable.answers failingPeers)).1
        ((performAll {} beforeReturn).applyTopology (failingTable.answers failingPeers)).2.registry := by
  have last : translatedLast beforeReturn ⟨.v4 11, 0⟩ = some ⟨.v4 1, 0⟩ := by decide +kernel
  have registered : ⟨.v4 1, 0⟩ ∈ (performAll {} beforeReturn).registry.topology.addresses := by decide +kernel
  have fails : failingTable.translate ⟨.v4 11, 0⟩ = .error (.connection "no address mapping for 0.0.0.11:0") := by
    decide +kernel
  refine ⟨last, registered, fun h => ?_⟩
  have stays := (h.registered ⟨.v4 1, 0⟩).2 <| .inr
    ⟨⟨⟨.v4 11, 0⟩, {}⟩, List.mem_cons_self, ⟨_, fails⟩, congrArg (Option.getD · _) last, registered⟩
  have gone : ⟨.v4 1, 0⟩ ∉
      ((performAll {} beforeReturn).applyTopology (failingTable.answers failingPeers)).2.registry.topology.addresses := by
    decide +kernel
  exact gone stays

end Cluster

end CqlDispatch
