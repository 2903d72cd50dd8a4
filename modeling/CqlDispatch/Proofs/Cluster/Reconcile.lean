import CqlDispatch.Proofs.Cluster.Snapshot
/-!
# What a topology report leaves

A report is worked through peer by peer, and the registry that each peer meets holds what the peers before
it brought.  `TakenUpTo` says of the registry after any number of peers how it differs from the one that
the report found, in terms of the list of these peers alone; `TakenUpTo.takePeer` takes one more peer in.
What is remembered is the last answer for each address, whatever the answers are (`lookup_foldl_noted`).
After the last peer, the hosts that none stands for are removed (`removeAll_stale`), and what is left is
`Reconciled`.
-/
namespace CqlDispatch

theorem addresses_nodup {l : List Address} (sorted : l.Pairwise (· < ·)) : l.Nodup :=
  sorted.imp fun {a b} hlt he => by
    subst he
    exact Address.lt_irrefl a hlt

/-- There is one list of some addresses in their order. -/
theorem addresses_ext {l l' : List Address} (sorted : l.Pairwise (· < ·)) (sorted' : l'.Pairwise (· < ·))
    (same : ∀ a, a ∈ l ↔ a ∈ l') : l = l' :=
  List.Perm.eq_of_pairwise (fun a _ _ _ hab hba => absurd (Nat.lt_trans hab hba) (Address.lt_irrefl a)) sorted sorted'
    ((List.perm_ext_iff_of_nodup (addresses_nodup sorted) (addresses_nodup sorted')).2 same)

namespace Registry

theorem mem_addresses {r : Registry} {a : Address} : a ∈ r.topology.addresses ↔ (r.find? a).isSome := by
  rw [← not_iff_not, Bool.not_eq_true, Option.isSome_eq_false_iff, Option.isNone_iff_eq_none]
  exact find?_eq_none_iff.symm

theorem WellFormed.addresses_sorted {r : Registry} (wf : r.WellFormed) : r.topology.addresses.Pairwise (· < ·) :=
  List.pairwise_map.2 wf.sorted

end Registry

namespace Cluster

open Registry (mem_addresses)

/-! ## What a report says -/

section Report

variable (t : Translator)

/-- The addresses that peers translate to, in their order. -/
def translations (peers : List Peer) : List Address :=
  peers.filterMap fun p => (t.translate p.advertised).toOption

/-- The advertised addresses of the peers that do not translate, in their order. -/
def untranslated (peers : List Peer) : List Address :=
  (peers.map (·.advertised)).filter fun b => (t.translate b).toOption.isNone

/-- What is said of the host at an address by the first peer that translates to it. -/
def describedAs (peers : List Peer) (a : Address) : Option Metadata :=
  (peers.find? fun p => (t.translate p.advertised).toOption == some a).map (·.metadata)

end Report

/-- What a report makes of a registry, where `last` is what advertised addresses last translated to. -/
structure Reconciled (r : Registry) (last : Address → Option Address) (peers : List Peer) (t : Translator)
    (update : TopologyUpdate) (r' : Registry) : Prop where
  registered : ∀ a, a ∈ r'.topology.addresses ↔ (∃ p ∈ peers, t.translate p.advertised = .ok a) ∨
    ∃ p ∈ peers, (∃ f, t.translate p.advertised = .error f) ∧ (last p.advertised).getD p.advertised = a ∧
      a ∈ r.topology.addresses
  added : update.added = ((translations t peers).filter (· ∉ r.topology.addresses)).eraseDups
  sorted : r.topology.addresses.Pairwise (· < ·)
  removed : update.removed = r.topology.addresses.filter (· ∉ r'.topology.addresses)
  failed : update.failed = untranslated t peers
  stays : ∀ a ∈ r.topology.addresses, a ∈ r'.topology.addresses →
    ∃ h, r.find? a = some h ∧ r'.find? a = some h ∧ (r'.host h).address = (r.host h).address ∧
      (r'.host h).state = (r.host h).state ∧
      (r'.host h).metadata = (r.host h).metadata.or (describedAs t peers a)

/-! ## Lists of peers -/

theorem answers_ne_nil {peers : List Peer} (nonempty : peers ≠ []) (t : Translator) : t.answers peers ≠ [] :=
  mt List.map_eq_nil_iff.1 nonempty

theorem toOption_ok {t : Translator} {b a : Address} (h : t.translate b = .ok a) :
    (t.translate b).toOption = some a := by
  rw [h]
  rfl

theorem toOption_error {t : Translator} {b : Address} {f : Failure} (h : t.translate b = .error f) :
    (t.translate b).toOption = none := by
  rw [h]
  rfl

theorem mem_translations {t : Translator} {peers : List Peer} {a : Address} :
    a ∈ translations t peers ↔ ∃ p ∈ peers, t.translate p.advertised = .ok a := by
  unfold translations
  rw [List.mem_filterMap]
  refine exists_congr fun p => and_congr_right fun _ => ?_
  cases t.translate p.advertised <;> simp [Except.toOption]

theorem translations_ok {t : Translator} {p : Peer} {a : Address} (h : t.translate p.advertised = .ok a)
    (peers : List Peer) : translations t (peers ++ [p]) = translations t peers ++ [a] := by
  simp only [translations, List.filterMap_append, List.filterMap_cons, toOption_ok h, List.filterMap_nil]

theorem translations_error {t : Translator} {p : Peer} {f : Failure} (h : t.translate p.advertised = .error f)
    (peers : List Peer) : translations t (peers ++ [p]) = translations t peers := by
  simp only [translations, List.filterMap_append, List.filterMap_cons, toOption_error h, List.filterMap_nil,
    List.append_nil]

theorem untranslated_ok {t : Translator} {p : Peer} {a : Address} (h : t.translate p.advertised = .ok a)
    (peers : List Peer) : untranslated t (peers ++ [p]) = untranslated t peers := by
  simp [untranslated, toOption_ok h]

theorem untranslated_error {t : Translator} {p : Peer} {f : Failure} (h : t.translate p.advertised = .error f)
    (peers : List Peer) : untranslated t (peers ++ [p]) = untranslated t peers ++ [p.advertised] := by
  simp [untranslated, toOption_error h]

theorem describedAs_append (t : Translator) (peers : List Peer) (p : Peer) (a : Address) :
    describedAs t (peers ++ [p]) a = (describedAs t peers a).or
      (if (t.translate p.advertised).toOption = some a then some p.metadata else none) := by
  unfold describedAs
  rw [List.find?_append, Option.map_or]
  congr 1
  by_cases h : (t.translate p.advertised).toOption = some a <;> simp [h]

theorem describedAs_ok {t : Translator} {p : Peer} {a : Address} (h : t.translate p.advertised = .ok a)
    (peers : List Peer) (b : Address) : describedAs t (peers ++ [p]) b =
      (describedAs t peers b).or (if a = b then some p.metadata else none) := by
  rw [describedAs_append, toOption_ok h]
  simp only [Option.some.injEq]

theorem eraseDups_append_of_mem {a : Address} {l : List Address} (h : a ∈ l) :
    (l ++ [a]).eraseDups = l.eraseDups := by
  rw [List.eraseDups_append]
  simp [List.removeAll, h]

theorem eraseDups_append_of_not_mem {a : Address} {l : List Address} (h : a ∉ l) :
    (l ++ [a]).eraseDups = l.eraseDups ++ [a] := by
  rw [List.eraseDups_append]
  simp [List.removeAll, h, List.eraseDups_cons]

/-! ## One peer -/

theorem adopt_state (c : Cluster) (h : HostId) (m : Metadata) (k : HostId) :
    ((c.adopt h m).registry.host k).state = (c.registry.host k).state := by
  cases hm : (c.registry.host h).metadata with
  | some m' => rw [adopt_described hm]
  | none =>
    rw [(adopt_bare m hm).state]
    exact Registry.host_modify_keeps (f := fun x => { x with metadata := some m }) (fun _ => rfl) k

/-- What was reported of a host before stays. -/
theorem adopt_metadata {c : Cluster} {h : HostId} (known : h < c.registry.hosts.length) (m : Metadata) (k : HostId) :
    ((c.adopt h m).registry.host k).metadata =
      (c.registry.host k).metadata.or (if h = k then some m else none) := by
  cases hm : (c.registry.host h).metadata with
  | some m' =>
    rw [adopt_described hm]
    by_cases hk : h = k
    · rw [← hk, hm]
      rfl
    · rw [if_neg hk, Option.or_none]
  | none =>
    rw [(adopt_bare m hm).metadata]
    by_cases hk : h = k
    · rw [← hk, hm, if_pos rfl]
      exact congrArg Host.metadata (Registry.host_modify_self _ known)
    · rw [if_neg hk, Option.or_none]
      exact congrArg Host.metadata (Registry.host_modify_ne _ _ hk)

/-- A peer that does not translate leaves the registry as it is, and the host that it was last known under
stays reported. -/
theorem takePeer_error {p : Translated} {f : Failure} (h : p.translation = .error f) (s : Reconciling) :
    takePeer s p = { s with
      failed := s.failed ++ [p.advertised]
      reported := (s.cluster.registry.lastResolved? p.advertised).toList ++ s.reported } := by
  unfold takePeer
  rw [h]
  simp only
  cases s.cluster.registry.lastResolved? p.advertised <;> rfl

theorem takePeer_ok {p : Translated} {a : Address} (h : p.translation = .ok a) (s : Reconciling) :
    (takePeer s p).reported = a :: s.reported ∧ (takePeer s p).failed = s.failed ∧
      (takePeer s p).cluster.registry.resolved = (s.cluster.registry.remember p.advertised a).resolved := by
  unfold takePeer
  rw [h]
  simp only
  split
  · exact ⟨rfl, rfl, add_resolved _ _⟩
  · exact ⟨rfl, rfl, adopt_resolved _ _ _⟩

/-! ## Noting translations -/

/-- The remembered translations once a peer was taken in. -/
def noted (l : List (Address × Address)) (p : Translated) : List (Address × Address) :=
  match p.translation with
  | .ok a => (p.advertised, a) :: l.filter (·.1 != p.advertised)
  | .error _ => l

/-- The last answer that a report has for an advertised address. -/
def lastAnswer (report : List Translated) (b : Address) : Option Address :=
  report.reverse.findSome? fun p => if p.advertised = b then p.translation.toOption else none

theorem noted_ok {p : Translated} {a : Address} (h : p.translation = .ok a) (l : List (Address × Address)) :
    noted l p = (p.advertised, a) :: l.filter (·.1 != p.advertised) := by
  unfold noted
  rw [h]

theorem noted_error {p : Translated} {f : Failure} (h : p.translation = .error f) (l : List (Address × Address)) :
    noted l p = l := by
  unfold noted
  rw [h]

theorem takePeer_noted (s : Reconciling) (p : Translated) :
    (takePeer s p).cluster.registry.resolved = noted s.cluster.registry.resolved p := by
  cases h : p.translation with
  | ok a => rw [(takePeer_ok h s).2.2, noted_ok h]; rfl
  | error f => rw [takePeer_error h, noted_error h]

theorem foldl_takePeer_noted : ∀ (report : List Translated) (s : Reconciling),
    (report.foldl takePeer s).cluster.registry.resolved = report.foldl noted s.cluster.registry.resolved
  | [], _ => rfl
  | p :: report, s => by
    rw [List.foldl_cons, List.foldl_cons, foldl_takePeer_noted report, takePeer_noted]

theorem lookup_noted (l : List (Address × Address)) (p : Translated) (b : Address) :
    (noted l p).lookup b = (if p.advertised = b then p.translation.toOption else none).or (l.lookup b) := by
  cases h : p.translation with
  | ok a =>
    rw [noted_ok h, lookup_replaced]
    by_cases hb : b = p.advertised
    · rw [if_pos hb, if_pos hb.symm]
      rfl
    · rw [if_neg hb, if_neg (Ne.symm hb), Option.none_or]
  | error f =>
    rw [noted_error h, show (Except.error f : Except Failure Address).toOption = none from rfl, ite_self,
      Option.none_or]

/-- **What is remembered is the last answer, or what was there.** -/
theorem lookup_foldl_noted (b : Address) : ∀ (report : List Translated) (l : List (Address × Address)),
    (report.foldl noted l).lookup b = (lastAnswer report b).or (l.lookup b)
  | [], _ => rfl
  | p :: report, l => by
    rw [List.foldl_cons, lookup_foldl_noted b report, lookup_noted, ← Option.or_assoc]
    congr 1
    rw [lastAnswer, lastAnswer, List.reverse_cons, List.findSome?_append, List.findSome?_singleton]

theorem lastAnswer_mem {report : List Translated} {b a : Address} (h : lastAnswer report b = some a) :
    ∃ p ∈ report, p.translation = .ok a := by
  obtain ⟨p, hp, ha⟩ := List.exists_of_findSome?_eq_some h
  refine ⟨p, List.mem_reverse.1 hp, ?_⟩
  split at ha
  · cases ht : p.translation <;> rw [ht] at ha <;> cases ha
    rfl
  · cases ha

/-- A rule that fails for an address has no answer for it. -/
theorem lastAnswer_error {t : Translator} {b : Address} {f : Failure} (h : t.translate b = .error f)
    (peers : List Peer) : lastAnswer (t.answers peers) b = none := by
  refine List.findSome?_eq_none_iff.2 fun p hp => ?_
  obtain ⟨q, -, rfl⟩ := List.mem_map.1 (List.mem_reverse.1 hp)
  split
  · rename_i hb
    obtain rfl : q.advertised = b := hb
    exact toOption_error h
  · rfl

/-! ## A number of peers -/

/-- The registry after these peers of a report, told by the one that the report found. -/
structure TakenUpTo (t : Translator) (r : Registry) (peers : List Peer) (s : Reconciling) : Prop where
  wellFormed : s.cluster.registry.WellFormed
  found : ∀ a, (s.cluster.registry.find? a).isSome ↔ (r.find? a).isSome ∨ a ∈ translations t peers
  stays : ∀ a h, r.find? a = some h → s.cluster.registry.find? a = some h ∧
    (s.cluster.registry.host h).state = (r.host h).state ∧
    (s.cluster.registry.host h).metadata = (r.host h).metadata.or (describedAs t peers a)
  remembered : s.cluster.registry.resolved = (t.answers peers).foldl noted r.resolved
  reported : ∀ a, a ∈ s.reported ↔ a ∈ translations t peers ∨
    ∃ p ∈ peers, (∃ f, t.translate p.advertised = .error f) ∧
      (r.resolved.lookup p.advertised).getD p.advertised = a ∧ (r.find? a).isSome
  added : s.added = ((translations t peers).filter fun a => (r.find? a).isNone).eraseDups
  failed : s.failed = untranslated t peers

namespace TakenUpTo

theorem start {c : Cluster} (t : Translator) (wf : c.registry.WellFormed) :
    TakenUpTo t c.registry [] { cluster := c } where
  wellFormed := wf
  found a := by simp [translations]
  stays a h known := ⟨known, rfl, by simp [describedAs]⟩
  remembered := rfl
  reported a := by simp [translations]
  added := rfl
  failed := rfl

variable {t : Translator} {r : Registry} {peers : List Peer} {s : Reconciling}

/-- What is remembered of an address that does not translate is what the report found. -/
theorem remembered_error (taken : TakenUpTo t r peers s) {b : Address} {f : Failure}
    (h : t.translate b = .error f) : s.cluster.registry.resolved.lookup b = r.resolved.lookup b := by
  rw [taken.remembered, lookup_foldl_noted, lastAnswer_error h, Option.none_or]

theorem remembered_next (taken : TakenUpTo t r peers s) (p : Peer) :
    (Cluster.takePeer s (t.answer p)).cluster.registry.resolved = (t.answers (peers ++ [p])).foldl noted r.resolved := by
  rw [takePeer_noted, taken.remembered, Translator.answers, Translator.answers, List.map_append, List.foldl_append]
  rfl

theorem error (taken : TakenUpTo t r peers s) {p : Peer} {f : Failure} (h : t.translate p.advertised = .error f) :
    TakenUpTo t r (peers ++ [p]) (Cluster.takePeer s (t.answer p)) := by
  have hlast : s.cluster.registry.lastResolved? p.advertised =
      if (s.cluster.registry.find? ((r.resolved.lookup p.advertised).getD p.advertised)).isSome then
        some ((r.resolved.lookup p.advertised).getD p.advertised) else none := by
    unfold Registry.lastResolved?
    rw [taken.remembered_error h]
  have taking : Cluster.takePeer s (t.answer p) = { s with
      failed := s.failed ++ [p.advertised]
      reported := (s.cluster.registry.lastResolved? p.advertised).toList ++ s.reported } := takePeer_error h s
  rw [taking]
  refine ⟨taken.wellFormed, fun a => ?_, fun a k known => ?_, ?_, fun a => ?_, ?_, ?_⟩
  · rw [translations_error h]
    exact taken.found a
  · rw [describedAs_append, toOption_error h, if_neg nofun, Option.or_none]
    exact taken.stays a k known
  · exact taking ▸ taken.remembered_next p
  · rw [translations_error h, List.mem_append, taken.reported a, hlast]
    simp only [List.mem_append, List.mem_singleton, or_and_right, exists_or, exists_eq_left]
    have hfound := taken.found a
    -- The address that the peer was last known under may be registered only since an earlier peer came.
    by_cases hp : (r.resolved.lookup p.advertised).getD p.advertised = a
    · rw [hp]
      have hfails : ∃ f, t.translate p.advertised = .error f := ⟨f, h⟩
      by_cases ha : (s.cluster.registry.find? a).isSome
      · have := hfound.1 ha
        simp [ha, hfails]
        tauto
      · have := mt hfound.2 ha
        simp [ha]
        tauto
    · split <;> simp [hp, Ne.symm hp]
  · rw [translations_error h]
    exact taken.added
  · rw [untranslated_error h]
    exact congrArg (· ++ [p.advertised]) taken.failed

theorem reported_ok (taken : TakenUpTo t r peers s) {p : Peer} {a : Address}
    (h : t.translate p.advertised = .ok a) (b : Address) :
    b ∈ (Cluster.takePeer s (t.answer p)).reported ↔ b ∈ translations t (peers ++ [p]) ∨
      ∃ q ∈ peers ++ [p], (∃ f, t.translate q.advertised = .error f) ∧
        (r.resolved.lookup q.advertised).getD q.advertised = b ∧ (r.find? b).isSome := by
  have reported : (Cluster.takePeer s (t.answer p)).reported = a :: s.reported := (takePeer_ok h s).1
  rw [reported, translations_ok h, List.mem_cons, taken.reported b, List.mem_append,
    List.mem_singleton, ← or_assoc, or_comm (a := b = a)]
  refine or_congr_right (exists_congr fun q => and_congr_left fun hq => ?_)
  have hne : q ≠ p := by
    rintro rfl
    obtain ⟨⟨f, hf⟩, -⟩ := hq
    cases h.symm.trans hf
  simp [hne]

/-- A peer brings its host. -/
theorem enrolls (taken : TakenUpTo t r peers s) {p : Peer} {a : Address} (h : t.translate p.advertised = .ok a)
    (free : s.cluster.registry.find? a = none) (hadded : (Cluster.takePeer s (t.answer p)).added = s.added ++ [a])
    (hc : (Cluster.takePeer s (t.answer p)).cluster = ((s.cluster.remember p.advertised a).add (.ofPeer a p)).2) :
    TakenUpTo t r (peers ++ [p]) (Cluster.takePeer s (t.answer p)) := by
  have hnew : ¬ ((r.find? a).isSome ∨ a ∈ translations t peers) := by
    rw [← taken.found a, free]
    exact Bool.false_ne_true
  obtain ⟨-, rank⟩ := add_new (c := s.cluster.remember p.advertised a) (x := .ofPeer a p) free
  refine ⟨(takePeer_changes s (t.answer p)).wellFormed taken.wellFormed, fun b => ?_, fun b k known => ?_,
    taken.remembered_next p, taken.reported_ok h, ?_, ?_⟩
  · rw [hc, add_find?_isSome, translations_ok h, List.mem_append, List.mem_singleton, ← or_assoc,
      ← taken.found b, or_comm]
    rfl
  · obtain ⟨found, hstate, hmeta⟩ := taken.stays b k known
    have hne : b ≠ a := fun he => by
      rw [he, free] at found
      cases found
    have hold : ((s.cluster.registry.remember p.advertised a).enroll (.ofPeer a p)).host k =
        s.cluster.registry.host k :=
      Registry.host_enroll_old (taken.wellFormed.lt_of_mem (Registry.mem_ids_of_find? found))
    rw [hc]
    refine ⟨?_, (rank.state k).trans ((congrArg Host.state hold).trans hstate), ?_⟩
    · rw [rank.find?]
      exact (Registry.find?_enroll (s.cluster.registry.remember p.advertised a) (.ofPeer a p) b).trans
        ((if_neg hne).trans found)
    · rw [describedAs_ok h, if_neg (Ne.symm hne), Option.or_none, ← hmeta]
      exact (rank.metadata k).trans (congrArg Host.metadata hold)
  · have hfree : (r.find? a).isNone := by simpa using mt Or.inl hnew
    rw [hadded, taken.added, translations_ok h, List.filter_append, List.filter_singleton, hfree, cond_true,
      eraseDups_append_of_not_mem]
    exact fun hm => hnew (.inr (List.mem_of_mem_filter hm))
  · exact (takePeer_ok h s).2.1.trans (taken.failed.trans (untranslated_ok h peers).symm)

/-- A peer describes the host that is there. -/
theorem describes (taken : TakenUpTo t r peers s) {p : Peer} {a : Address} (h : t.translate p.advertised = .ok a)
    {k : HostId} (hk : s.cluster.registry.find? a = some k) (hadded : (Cluster.takePeer s (t.answer p)).added = s.added)
    (hc : (Cluster.takePeer s (t.answer p)).cluster = (s.cluster.remember p.advertised a).adopt k p.metadata) :
    TakenUpTo t r (peers ++ [p]) (Cluster.takePeer s (t.answer p)) := by
  have hold : (r.find? a).isSome ∨ a ∈ translations t peers := (taken.found a).1 (Option.isSome_of_eq_some hk)
  have hlt : k < (s.cluster.remember p.advertised a).registry.hosts.length :=
    taken.wellFormed.lt_of_mem (Registry.mem_ids_of_find? hk)
  refine ⟨(takePeer_changes s (t.answer p)).wellFormed taken.wellFormed, fun b => ?_, fun b j known => ?_,
    taken.remembered_next p, taken.reported_ok h, ?_, ?_⟩
  · rw [hc, adopt_find?, translations_ok h, List.mem_append, List.mem_singleton]
    refine (taken.found b).trans ⟨fun hb => hb.imp_right .inl, ?_⟩
    rintro (hb | hb | rfl)
    · exact .inl hb
    · exact .inr hb
    · exact hold
  · obtain ⟨found, hstate, hmeta⟩ := taken.stays b j known
    have hhost : k = j ↔ a = b := by
      constructor
      · rintro rfl
        rw [← taken.wellFormed.find?_address hk, taken.wellFormed.find?_address found]
      · rintro rfl
        exact Option.some.inj (hk.symm.trans found)
    rw [hc, adopt_find?, adopt_state, adopt_metadata hlt, describedAs_ok h, ← Option.or_assoc, ← hmeta]
    refine ⟨found, hstate, ?_⟩
    simp only [hhost]
    rfl
  · rw [hadded, taken.added, translations_ok h, List.filter_append, List.filter_singleton]
    cases hr : (r.find? a).isNone with
    | false => rw [cond_false, List.append_nil]
    | true =>
      have hfree : ¬ (r.find? a).isSome := by simpa using hr
      rw [cond_true, eraseDups_append_of_mem (List.mem_filter.2 ⟨hold.resolve_left hfree, hr⟩)]
  · exact (takePeer_ok h s).2.1.trans (taken.failed.trans (untranslated_ok h peers).symm)

theorem takePeer (taken : TakenUpTo t r peers s) (p : Peer) :
    TakenUpTo t r (peers ++ [p]) (Cluster.takePeer s (t.answer p)) := by
  cases h : t.translate p.advertised with
  | ok a =>
    rcases takePeer_cases s (t.answer p) with ⟨f, hf, -⟩ | ⟨b, hb, -, ⟨free, hadded, hc⟩ | ⟨k, hk, hadded, hc⟩⟩
    · cases h.symm.trans hf
    · exact taken.enrolls hb free hadded hc
    · exact taken.describes hb hk hadded hc
  | error f => exact taken.error h

theorem foldl : ∀ (rest : List Peer) {peers : List Peer} {s : Reconciling}, TakenUpTo t r peers s →
    TakenUpTo t r (peers ++ rest) ((t.answers rest).foldl Cluster.takePeer s)
  | [], peers, _, taken => (List.append_nil peers).symm ▸ taken
  | p :: rest, peers, _, taken => by
    rw [List.append_cons]
    exact foldl rest (taken.takePeer p)

end TakenUpTo

/-! ## Hosts that no peer stands for -/

theorem remove_stays {c : Cluster} (wf : c.registry.WellFormed) {a b : Address} {h : HostId}
    (known : c.registry.find? b = some h) (hne : b ≠ a) :
    ((c.remove a).2.registry.host h).state = (c.registry.host h).state ∧
      ((c.remove a).2.registry.host h).metadata = (c.registry.host h).metadata := by
  cases hf : c.registry.find? a with
  | none =>
    rw [remove_unknown hf]
    exact ⟨rfl, rfl⟩
  | some k =>
    have hkh : k ≠ h := fun he => hne (by rw [← wf.find?_address known, ← wf.find?_address hf, he])
    have rank := (remove_known hf).2
    rw [rank.state, rank.metadata]
    exact ⟨congrArg Host.state (wf.host_strike hf hkh), congrArg Host.metadata (wf.host_strike hf hkh)⟩

theorem removeAll_find? : ∀ (stale : List Address) (c : Cluster) (b : Address),
    (c.removeAll stale).2.registry.find? b = if b ∈ stale then none else c.registry.find? b
  | [], _, _ => rfl
  | a :: stale, c, b => by
    have h := removeAll_find? stale (c.remove a).2 b
    rw [remove_find?] at h
    refine Eq.trans h ?_
    by_cases ha : b = a <;> by_cases hs : b ∈ stale <;> simp [ha, hs]

theorem removeAll_stays : ∀ (stale : List Address) {c : Cluster}, c.registry.WellFormed → ∀ {b : Address} {h : HostId},
    c.registry.find? b = some h → b ∉ stale →
      ((c.removeAll stale).2.registry.host h).state = (c.registry.host h).state ∧
        ((c.removeAll stale).2.registry.host h).metadata = (c.registry.host h).metadata
  | [], _, _, _, _, _, _ => ⟨rfl, rfl⟩
  | a :: stale, c, wf, b, h, known, hb => by
    obtain ⟨hne, hb⟩ := not_or.1 (mt List.mem_cons.2 hb)
    obtain ⟨hstate, hmeta⟩ := remove_stays wf known hne
    have found : (c.remove a).2.registry.find? b = some h := by rw [remove_find?, if_neg hne, known]
    obtain ⟨hstate', hmeta'⟩ := removeAll_stays stale ((remove_changes c a).wellFormed wf) found hb
    exact ⟨hstate'.trans hstate, hmeta'.trans hmeta⟩

/-- Every address that was registered is listed. -/
theorem removeAll_registered : ∀ {stale : List Address} {c : Cluster}, stale.Nodup →
    (∀ a ∈ stale, (c.registry.find? a).isSome) → (c.removeAll stale).1 = stale
  | [], _, _, _ => rfl
  | a :: stale, c, nodup, known => by
    obtain ⟨ha, nodup⟩ := List.nodup_cons.1 nodup
    obtain ⟨h, hf⟩ := Option.isSome_iff_exists.1 (known a List.mem_cons_self)
    have hrest := removeAll_registered (c := (c.remove a).2) nodup fun b hb => by
      rw [remove_find?, if_neg (ne_of_mem_of_not_mem hb ha)]
      exact known b (List.mem_cons_of_mem _ hb)
    unfold removeAll
    simp only [(remove_known hf).1, hrest, Option.isSome_some, if_true]

/-! ## The whole report -/

/-- What is removed in the end: what is registered and was not reported. -/
def Reconciling.stale (s : Reconciling) : List Address :=
  s.cluster.registry.topology.addresses.filter (· ∉ s.reported)

theorem mem_stale {s : Reconciling} {a : Address} :
    a ∈ s.stale ↔ (s.cluster.registry.find? a).isSome ∧ a ∉ s.reported := by
  simp only [Reconciling.stale, List.mem_filter, mem_addresses, decide_eq_true_eq]

theorem stale_sorted {s : Reconciling} (wf : s.cluster.registry.WellFormed) : s.stale.Pairwise (· < ·) :=
  wf.addresses_sorted.filter _

theorem removeAll_stale {s : Reconciling} (wf : s.cluster.registry.WellFormed) :
    (s.cluster.removeAll s.stale).1 = s.stale :=
  removeAll_registered (addresses_nodup (stale_sorted wf)) fun _ ha => (mem_stale.1 ha).1

/-- What is registered in the end is what was registered after the last peer and was reported. -/
theorem mem_removeAll_stale {s : Reconciling} {a : Address} :
    a ∈ (s.cluster.removeAll s.stale).2.registry.topology.addresses ↔
      a ∈ s.reported ∧ (s.cluster.registry.find? a).isSome := by
  rw [mem_addresses, removeAll_find?]
  split
  · rename_i ha
    exact iff_of_false Bool.false_ne_true fun h => (mem_stale.1 ha).2 h.1
  · rename_i ha
    refine ⟨fun hf => ⟨?_, hf⟩, And.right⟩
    by_contra hr
    exact ha (mem_stale.2 ⟨hf, hr⟩)

theorem applyTopology_nonempty {report : List Translated} (nonempty : report ≠ []) (c : Cluster) :
    c.applyTopology report =
      let s := report.foldl takePeer { cluster := c }
      ({ added := s.added, removed := (s.cluster.removeAll s.stale).1, failed := s.failed },
        (s.cluster.removeAll s.stale).2) := by
  unfold applyTopology
  rw [if_neg (by simpa using nonempty)]
  rfl

/-- **A report brings the registry in line with its peers**, going by what it remembers of their addresses. -/
theorem applyTopology_reconciled {c : Cluster} (wf : c.registry.WellFormed) {peers : List Peer}
    (nonempty : peers ≠ []) (t : Translator) :
    Reconciled c.registry (fun b => c.registry.resolved.lookup b) peers t (c.applyTopology (t.answers peers)).1
      (c.applyTopology (t.answers peers)).2.registry := by
  have taken : TakenUpTo t c.registry peers ((t.answers peers).foldl takePeer { cluster := c }) :=
    (TakenUpTo.start t wf).foldl peers
  rw [applyTopology_nonempty (answers_ne_nil nonempty t)]
  generalize (t.answers peers).foldl takePeer { cluster := c } = s at taken
  dsimp only
  rw [removeAll_stale taken.wellFormed]
  refine ⟨fun a => ?_, ?_, wf.addresses_sorted, ?_, taken.failed, fun a ha ha' => ?_⟩
  · rw [mem_removeAll_stale, taken.reported, taken.found, mem_translations, mem_addresses]
    constructor
    · exact And.left
    · intro h
      exact ⟨h, h.elim .inr fun ⟨_, _, _, _, hf⟩ => .inl hf⟩
  · refine taken.added.trans (congrArg List.eraseDups (List.filter_congr fun a _ => ?_))
    rw [Bool.eq_iff_iff, decide_eq_true_eq, mem_addresses, Option.isNone_iff_eq_none, Option.not_isSome_iff_eq_none]
  · refine addresses_ext (stale_sorted taken.wellFormed) (wf.addresses_sorted.filter _) fun a => ?_
    rw [mem_stale, List.mem_filter, decide_eq_true_eq, mem_removeAll_stale, mem_addresses, taken.found]
    have : a ∈ translations t peers → a ∈ s.reported := fun h => (taken.reported a).2 (.inl h)
    tauto
  · obtain ⟨h, known⟩ := Option.isSome_iff_exists.1 (mem_addresses.1 ha)
    obtain ⟨found, hstate, hmeta⟩ := taken.stays a h known
    have hkept : a ∉ s.stale := fun hm => (mem_stale.1 hm).2 (mem_removeAll_stale.1 ha').1
    obtain ⟨hstate', hmeta'⟩ := removeAll_stays s.stale taken.wellFormed found hkept
    have found' : (s.cluster.removeAll s.stale).2.registry.find? a = some h := by
      rw [removeAll_find?, if_neg hkept, found]
    have wf' := (removeAll_changes s.stale s.cluster).wellFormed taken.wellFormed
    exact ⟨h, known, found', (wf'.find?_address found').trans (wf.find?_address known).symm, hstate'.trans hstate,
      hmeta'.trans hmeta⟩

end Cluster

end CqlDispatch
