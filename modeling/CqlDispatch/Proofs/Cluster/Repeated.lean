import CqlDispatch.Proofs.Cluster.Remembered
/-!
# A report that comes again

Applied twice, a report does nothing the second time (`repeated_report_idle`).  After the first time the registry is
in line with it: every peer that translates stands for a registered host that was described (`inLine_taken`), so that
taking the peers in again only notes their translations (`InLine.foldl`); noting them leaves them in the order in
which they stand (`foldl_noted_again`).  And whatever is registered was reported, also where a peer did not translate,
for what is remembered of its address is the same both times (`registered_again`).
-/
namespace CqlDispatch
namespace Cluster

open Registry (mem_addresses)

/-! ## Noting translations -/

/-- Whether a report has a translation of an address. -/
def translates (report : List Translated) (b : Address) : Bool :=
  report.any fun p => p.advertised == b && p.translation.toOption.isSome

/-- What a report notes stands before what was there, less what it replaces. -/
theorem foldl_noted (report : List Translated) (l : List (Address × Address)) :
    report.foldl noted l = report.foldl noted [] ++ l.filter fun x => !translates report x.1 := by
  induction report using List.reverseRecOn with
  | nil => simp [translates]
  | append_singleton report p ih =>
    rw [List.foldl_append, List.foldl_append, ih]
    simp only [List.foldl_cons, List.foldl_nil]
    cases h : p.translation with
    | ok a =>
      rw [noted_ok h, noted_ok h, List.filter_append, List.filter_filter, List.cons_append]
      congr 2
      refine List.filter_congr fun x _ => ?_
      by_cases hx : x.1 = p.advertised
      · simp [translates, hx, h, Except.toOption]
      · have hne : (p.advertised == x.1) = false := by simpa using Ne.symm hx
        simp [translates, hx, hne]
    | error f =>
      rw [noted_error h, noted_error h]
      congr 1
      refine List.filter_congr fun x _ => ?_
      simp [translates, h, Except.toOption]

theorem mem_foldl_noted {report : List Translated} {x : Address × Address} (hx : x ∈ report.foldl noted []) :
    ∃ p ∈ report, p.advertised = x.1 ∧ p.translation = .ok x.2 := by
  induction report using List.reverseRecOn with
  | nil => cases hx
  | append_singleton report p ih =>
    have before : x ∈ report.foldl noted [] → ∃ q ∈ report ++ [p], q.advertised = x.1 ∧ q.translation = .ok x.2 :=
      fun hx => (ih hx).imp fun _ h => ⟨List.mem_append_left _ h.1, h.2⟩
    rw [List.foldl_append] at hx
    simp only [List.foldl_cons, List.foldl_nil] at hx
    cases h : p.translation with
    | ok a =>
      rw [noted_ok h] at hx
      rcases List.mem_cons.1 hx with rfl | hx
      · exact ⟨p, List.mem_append_right _ List.mem_cons_self, rfl, h⟩
      · exact before (List.mem_of_mem_filter hx)
    | error f =>
      rw [noted_error h] at hx
      exact before hx

/-- **Noted again, translations stay in their order**, also where others were left out in between. -/
theorem foldl_noted_again {report : List Translated} {q : Address → Bool}
    (kept : ∀ p ∈ report, ∀ a, p.translation = .ok a → q a = true) (l : List (Address × Address)) :
    report.foldl noted ((report.foldl noted l).filter fun x => q x.2) =
      (report.foldl noted l).filter fun x => q x.2 := by
  have hfirst : (report.foldl noted []).filter (fun x => q x.2) = report.foldl noted [] :=
    List.filter_eq_self.2 fun x hx => by
      obtain ⟨p, hp, -, ha⟩ := mem_foldl_noted hx
      exact kept p hp x.2 ha
  have hnone : (report.foldl noted []).filter (fun x => !translates report x.1) = [] :=
    List.filter_eq_nil_iff.2 fun x hx => by
      obtain ⟨p, hp, hb, ha⟩ := mem_foldl_noted hx
      have : translates report x.1 = true := List.any_eq_true.2 ⟨p, hp, by simp [hb, ha, Except.toOption]⟩
      simp [this]
  rw [foldl_noted report l, List.filter_append, hfirst, foldl_noted report (_ ++ _), List.filter_append, hnone,
    List.nil_append]
  exact congrArg _ (List.filter_eq_self.2 fun x hx => (List.mem_filter.1 (List.mem_of_mem_filter hx)).2)

theorem removeAll_resolved : ∀ (stale : List Address) (c : Cluster), ∃ q : Address → Bool,
    (∀ a, a ∉ stale → q a = true) ∧
      (c.removeAll stale).2.registry.resolved = c.registry.resolved.filter fun x => q x.2
  | [], c => ⟨fun _ => true, fun _ _ => rfl, by simp [removeAll]⟩
  | a :: stale, c => by
    obtain ⟨q, hq, hresolved⟩ := removeAll_resolved stale (c.remove a).2
    have hrest : (c.removeAll (a :: stale)).2 = ((c.remove a).2.removeAll stale).2 := rfl
    rw [hrest, hresolved]
    cases hf : c.registry.find? a with
    | none =>
      rw [remove_unknown hf]
      exact ⟨q, fun b hb => hq b fun hm => hb (List.mem_cons_of_mem a hm), rfl⟩
    | some h =>
      refine ⟨fun b => q b && b != a, fun b hb => ?_, ?_⟩
      · obtain ⟨hne, hb⟩ := not_or.1 (mt List.mem_cons.2 hb)
        simp [hq b hb, hne]
      · have hstruck : (c.remove a).2.registry.resolved = c.registry.resolved.filter (·.2 != a) :=
          (remove_known hf).2.resolved.trans (Registry.resolved_strike c.registry a h)
        rw [hstruck, List.filter_filter]

/-! ## Taking peers in again -/

/-- Every peer that translates stands for a registered host that was described. -/
def InLine (report : List Translated) (c : Cluster) : Prop :=
  ∀ p ∈ report, ∀ a, p.translation = .ok a →
    ∃ h, c.registry.find? a = some h ∧ (c.registry.host h).metadata ≠ none

/-- The cluster with other remembered translations. -/
def recalling (c : Cluster) (l : List (Address × Address)) : Cluster :=
  { c with registry := { c.registry with resolved := l } }

theorem InLine.takePeer {p : Translated} {s : Reconciling} (inLine : InLine [p] s.cluster) :
    (Cluster.takePeer s p).cluster = s.cluster.recalling (noted s.cluster.registry.resolved p) ∧
      (Cluster.takePeer s p).added = s.added := by
  rcases takePeer_cases s p with ⟨f, ht, hc, hadded, -⟩ | ⟨a, ht, -, hrest⟩
  · rw [hc, hadded, noted_error ht]
    exact ⟨rfl, rfl⟩
  · obtain ⟨h, hf, hm⟩ := inLine p List.mem_cons_self a ht
    rcases hrest with ⟨free, -, -⟩ | ⟨k, hk, hadded, hc⟩
    · rw [hf] at free
      cases free
    · obtain rfl : h = k := Option.some.inj (hf.symm.trans hk)
      obtain ⟨m, hm⟩ := Option.ne_none_iff_exists'.1 hm
      have hdescribed : ((s.cluster.remember p.advertised a).registry.host h).metadata = some m := hm
      rw [hc, hadded, noted_ok ht, adopt_described hdescribed]
      exact ⟨rfl, rfl⟩

/-- **Peers of a report that the registry is in line with bring nothing.** -/
theorem InLine.foldl : ∀ (report : List Translated) {s : Reconciling}, InLine report s.cluster →
    (report.foldl Cluster.takePeer s).cluster =
        s.cluster.recalling (report.foldl noted s.cluster.registry.resolved) ∧
      (report.foldl Cluster.takePeer s).added = s.added
  | [], s, _ => ⟨rfl, rfl⟩
  | p :: report, s, inLine => by
    have hp : InLine [p] s.cluster := fun q hq => by
      rw [List.mem_singleton.1 hq]
      exact inLine p List.mem_cons_self
    obtain ⟨hc, hadded⟩ := hp.takePeer
    have hrest : InLine report (Cluster.takePeer s p).cluster := fun q hq a ha => by
      rw [hc]
      exact inLine q (List.mem_cons_of_mem p hq) a ha
    obtain ⟨hcs, haddeds⟩ := InLine.foldl report hrest
    rw [List.foldl_cons, List.foldl_cons, hcs, haddeds, hadded, hc]
    exact ⟨rfl, rfl⟩

variable {t : Translator}

theorem describedAs_ne_none {peers : List Peer} {p : Peer} (hp : p ∈ peers) {a : Address}
    (h : t.translate p.advertised = .ok a) : describedAs t peers a ≠ none := by
  unfold describedAs
  rw [Ne, Option.map_eq_none_iff, List.find?_eq_none]
  intro hnone
  exact hnone p hp (by simp [toOption_ok h])

/-- Once its peers were taken in, the registry is in line with a report. -/
theorem inLine_taken {c : Cluster} (wf : c.registry.WellFormed) (peers : List Peer) :
    InLine (t.answers peers) ((t.answers peers).foldl takePeer { cluster := c }).cluster := by
  have taken : TakenUpTo t c.registry peers ((t.answers peers).foldl takePeer { cluster := c }) :=
    (TakenUpTo.start t wf).foldl peers
  have takenIn : TakenIn c.registry ((t.answers peers).foldl takePeer { cluster := c }) :=
    takenIn_foldl wf (t.answers peers) ⟨wf, .refl _, fun h hm hnew => absurd hm hnew⟩
  intro answered hanswered a ha
  obtain ⟨p, hp, rfl⟩ := List.mem_map.1 hanswered
  obtain ⟨h, hf⟩ := Option.isSome_iff_exists.1 ((taken.found a).2 (.inr (mem_translations.2 ⟨p, hp, ha⟩)))
  refine ⟨h, hf, ?_⟩
  by_cases hbefore : h ∈ c.registry.topology.ids
  · obtain ⟨found, -, hmeta⟩ := taken.stays _ h (wf.mem_ids_iff.1 hbefore)
    rw [← taken.wellFormed.find?_address found, taken.wellFormed.find?_address hf] at hmeta
    rw [hmeta]
    intro hnone
    exact describedAs_ne_none hp ha (Option.or_eq_none_iff.1 hnone).2
  · exact (takenIn.brought h (Registry.mem_ids_of_find? hf) hbefore).1

/-! ## The whole report -/

section Once

variable {c : Cluster} (wf : c.registry.WellFormed) {peers : List Peer} (nonempty : peers ≠ [])
include wf nonempty

theorem inLine_applyTopology : InLine (t.answers peers) (c.applyTopology (t.answers peers)).2 := by
  intro p hp a ha
  obtain ⟨stale, hstale, hresult⟩ := applyTopology_removes (answers_ne_nil nonempty t) c
  obtain ⟨h, hf, hm⟩ := inLine_taken wf peers p hp a ha
  have hkept := hstale p hp a ha
  have w := (foldl_takePeer_changes (t.answers peers) { cluster := c }).wellFormed wf
  refine ⟨h, ?_, ?_⟩
  · rw [hresult, removeAll_find?, if_neg hkept, hf]
  · rw [hresult, (removeAll_stays stale w hf hkept).2]
    exact hm

omit wf in
theorem noted_applyTopology : (t.answers peers).foldl noted (c.applyTopology (t.answers peers)).2.registry.resolved =
    (c.applyTopology (t.answers peers)).2.registry.resolved := by
  obtain ⟨stale, hstale, hresult⟩ := applyTopology_removes (answers_ne_nil nonempty t) c
  obtain ⟨q, hq, hresolved⟩ := removeAll_resolved stale ((t.answers peers).foldl takePeer { cluster := c }).cluster
  rw [hresult, hresolved, foldl_takePeer_noted]
  exact foldl_noted_again (fun p hp a ha => hq a (hstale p hp a ha)) _

/-- The addresses that a report leaves registered are those that it stands for when it comes again. -/
theorem registered_again (hd : c.registry.Distinct) (hr : c.registry.Resolves) {a : Address}
    (ha : ((c.applyTopology (t.answers peers)).2.registry.find? a).isSome) :
    a ∈ translations t peers ∨ ∃ p ∈ peers, (∃ f, t.translate p.advertised = .error f) ∧
      ((c.applyTopology (t.answers peers)).2.registry.resolved.lookup p.advertised).getD p.advertised = a := by
  rcases ((applyTopology_reconciled wf nonempty t).registered a).1 (mem_addresses.2 ha) with
    hok | ⟨p, hp, ⟨f, hf⟩, hlast, -⟩
  · exact .inl (mem_translations.2 hok)
  · refine .inr ⟨p, hp, ⟨f, hf⟩, ?_⟩
    rw [remembered_applyTopology wf hd hr, lastAnswer_error hf, Option.none_or]
    cases hb : c.registry.resolved.lookup p.advertised with
    | none => rwa [hb] at hlast
    | some x =>
      rw [hb, Option.getD_some] at hlast
      subst hlast
      rw [Option.filter_some, if_pos ha, Option.getD_some]

end Once

/-- **A report that comes again changes nothing.**  Whatever the operations before it were, a report is applied, and
then applied once more.  The second time no host is added or removed, the same advertised addresses do not
translate, and the cluster is the very same afterwards: the log, the version and the rest of the topology, all
hosts with their states, metadata and distances, what is remembered, and the load balancer. -/
theorem repeated_report_idle (id : Nat) (b : Balancer) (k : Option Classifier) (ops : List Operation)
    (peers : List Peer) (t : Translator) :
    let c := performAll { registry := { id := id }, balancer := b, classifier := k } ops
    let once := (c.applyTopology (t.answers peers)).2
    once.applyTopology (t.answers peers) = ({ failed := (c.applyTopology (t.answers peers)).1.failed }, once) := by
  intro c once
  by_cases hempty : peers = []
  · subst hempty
    rfl
  have built : Built c := Built.empty.performAll ops
  have wf := built.wellFormed
  have again : TakenUpTo t once.registry peers ((t.answers peers).foldl takePeer { cluster := once }) :=
    (TakenUpTo.start t ((applyTopology_changes c (t.answers peers)).wellFormed wf)).foldl peers
  have failed := again.failed.trans (applyTopology_reconciled wf hempty t).failed.symm
  -- Nothing is brought, and what is noted was noted already.
  obtain ⟨hcluster, hadded⟩ := InLine.foldl (t.answers peers) (s := { cluster := once }) (inLine_applyTopology wf hempty)
  have hsame : ((t.answers peers).foldl takePeer { cluster := once }).cluster = once :=
    hcluster.trans (congrArg once.recalling (noted_applyTopology hempty))
  -- Nothing is stale.
  have hnone : ((t.answers peers).foldl takePeer { cluster := once }).stale = [] := by
    refine List.eq_nil_iff_forall_not_mem.2 fun a ha => ?_
    obtain ⟨hfound, hunreported⟩ := mem_stale.1 ha
    rw [hsame] at hfound
    exact hunreported <| (again.reported a).2 <|
      (registered_again wf hempty built.distinct built.resolves hfound).imp_right
        fun ⟨p, hp, hfails, hlast⟩ => ⟨p, hp, hfails, hlast, hfound⟩
  refine (applyTopology_nonempty (answers_ne_nil hempty t) once).trans ?_
  simp only [hsame, hnone, hadded, failed]
  rfl

end Cluster

end CqlDispatch
