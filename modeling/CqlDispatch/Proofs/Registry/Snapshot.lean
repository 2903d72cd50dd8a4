import CqlDispatch.Proofs.Registry.Change
import CqlDispatch.Proofs.TokenRing
/-!
# Rings and versions

The topology of a registry holds its members, a ring and a version.  The ring is always that of the
members (`Charted`), also after metadata was set in a host that others hold.  The version is compared
with that of an earlier state of the registry: it grew by the hosts that came, those that went and
those that got their metadata since (`Since`).
-/
namespace CqlDispatch

/-- Where one more entry passes, one more is left. -/
theorem length_filter_succ {l : List HostId} {h : HostId} {p p' : HostId → Bool} (nodup : l.Nodup) (hm : h ∈ l)
    (hp : p h = false) (hp' : p' h = true) (same : ∀ k ∈ l, k ≠ h → p' k = p k) :
    (l.filter p').length = (l.filter p).length + 1 := by
  have hperm := List.perm_cons_erase hm
  have hrest : (l.erase h).filter p' = (l.erase h).filter p := List.filter_congr fun k hk =>
    have hk := nodup.mem_erase_iff.1 hk
    same k hk.2 hk.1
  rw [(hperm.filter p').length_eq, (hperm.filter p).length_eq, List.filter_cons_of_pos hp',
    List.filter_cons_of_neg (by simp [hp]), hrest, List.length_cons]

namespace Registry

theorem metadata_strike {r : Registry} (w : r.WellFormed) {a : Address} {h : HostId} (known : r.find? a = some h)
    (k : HostId) : ((r.strike a h).host k).metadata = (r.host k).metadata := by
  rw [strike_eq (w.ne_removed (mem_ids_of_find? known))]
  exact host_modify_keeps (r := r.rebuild _) (f := fun x => { x with state := .removed }) (fun _ => rfl) k

theorem address_strike {r : Registry} (w : r.WellFormed) {a : Address} {h : HostId} (known : r.find? a = some h)
    (k : HostId) : ((r.strike a h).host k).address = (r.host k).address := by
  rw [strike_eq (w.ne_removed (mem_ids_of_find? known))]
  exact host_modify_keeps (r := r.rebuild _) (f := fun x => { x with state := .removed }) (fun _ => rfl) k

/-! ## The ring -/

/-- The ring is that of the registered hosts. -/
def Charted (r : Registry) : Prop := r.topology.ring = TokenRing.ofHosts r.members

theorem charted_empty (id : Nat) : Charted { id := id } := rfl

theorem charted_rebuild (r : Registry) (ms : List (Address × HostId)) : (r.rebuild ms).Charted := by
  show TokenRing.ofHosts (ms.map fun m => r.host m.2) = TokenRing.ofHosts ((ms.map (·.2)).map r.host)
  rw [List.map_map]
  rfl

theorem Charted.of_same {r r' : Registry} (charted : r.Charted) (topology : r'.topology = r.topology)
    (same : ∀ h, (r'.host h).address = (r.host h).address ∧ (r'.host h).metadata = (r.host h).metadata) :
    r'.Charted := by
  unfold Charted members
  rw [topology]
  refine charted.trans (TokenRing.ofHosts_congr fun h _ => ⟨(same h).1.symm, ?_⟩)
  unfold Host.tokens
  rw [(same h).2]

theorem Charted.change {r r' : Registry} (charted : r.Charted) (w : r.WellFormed) (hc : r.Change r') :
    r'.Charted := by
  -- Three changes make a new version, and with it a new ring; under the others nothing is new.
  rcases w.topology_cases hc with hnew | ⟨htopology, hsame⟩
  · cases hc with
    | enrolled free => exact charted_rebuild _ _
    | @struck a h known =>
      have hs := strike_eq (a := a) (w.ne_removed (mem_ids_of_find? known))
      refine (charted_rebuild r _).of_same (by rw [hs]; rfl) fun k => ?_
      exact ⟨address_strike w known k, metadata_strike w known k⟩
    | adopted known bare => exact charted_rebuild _ _
    | ranked known => exact absurd hnew (Nat.lt_irrefl _)
    | moved known legal about tells stays =>
      obtain ⟨-, rfl⟩ := move?_eq_some legal
      exact absurd hnew (Nat.lt_irrefl _)
    | joined => exact absurd hnew (Nat.lt_irrefl _)
    | left gone => exact absurd hnew (Nat.lt_irrefl _)
    | remembered => exact absurd hnew (Nat.lt_irrefl _)
    | replicated => exact absurd hnew (Nat.lt_irrefl _)
  · exact charted.of_same htopology hsame

/-! ## What addresses resolve to -/

/-- What is remembered of an advertised address is registered. -/
def Resolves (r : Registry) : Prop := ∀ x ∈ r.resolved, (r.find? x.2).isSome

theorem Resolves.of_same {r r' : Registry} (hr : r.Resolves) (resolved : r'.resolved = r.resolved)
    (found : ∀ b, r'.find? b = r.find? b) : r'.Resolves := by
  intro x hx
  rw [found]
  exact hr x (resolved ▸ hx)

theorem mem_resolved_remember {r : Registry} {advertised a : Address} {x : Address × Address}
    (hx : x ∈ (r.remember advertised a).resolved) : x.2 = a ∨ x ∈ r.resolved := by
  rcases List.mem_cons.1 hx with rfl | hx
  · exact .inl rfl
  · exact .inr (List.mem_of_mem_filter hx)

theorem mem_resolved_strike {r : Registry} {a : Address} {h : HostId} {x : Address × Address}
    (hx : x ∈ (r.strike a h).resolved) : x ∈ r.resolved ∧ x.2 ≠ a := by
  have hresolved : (r.strike a h).resolved = r.resolved.filter (·.2 != a) := by
    unfold strike move?
    dsimp only
    split <;> rfl
  rw [hresolved] at hx
  simpa using List.mem_filter.1 hx

/-! ## The version -/

/-- The hosts that a later registry has and this one has not. -/
def gained (r r' : Registry) : List HostId := r'.topology.ids.filter (· ∉ r.topology.ids)

/-- The registered hosts that have got their metadata in a later registry. -/
def described (r r' : Registry) : List HostId :=
  r.topology.ids.filter fun h => (r.host h).metadata.isNone && (r'.host h).metadata.isSome

/-- A later state of a registry, told by its version: it grew by one for each host that came, that
went, and that got its metadata. -/
structure Since (r r' : Registry) : Prop where
  length : r.hosts.length ≤ r'.hosts.length
  keeps : ∀ h < r.hosts.length, (r.host h).metadata ≠ none → (r'.host h).metadata ≠ none
  version : r'.version = r.version + (gained r r').length + (gained r' r).length + (described r r').length

namespace Since

theorem refl (r : Registry) : Since r r := by
  refine ⟨Nat.le_refl _, fun _ _ h => h, ?_⟩
  have hgained : gained r r = [] := List.filter_eq_nil_iff.2 fun h hm => by simpa using hm
  have hdescribed : described r r = [] := List.filter_eq_nil_iff.2 fun h hm => by
    cases (r.host h).metadata <;> simp
  rw [hgained, hdescribed]
  rfl

variable {base r : Registry} (since : Since base r)
include since

theorem of_same {r' : Registry} (length : r'.hosts.length = r.hosts.length) (version : r'.version = r.version)
    (topology : r'.topology = r.topology) (metadata : ∀ h, (r'.host h).metadata = (r.host h).metadata) :
    Since base r' := by
  refine ⟨length ▸ since.length, fun h hlt hm => metadata h ▸ since.keeps h hlt hm, ?_⟩
  unfold gained described
  simp only [version, topology, metadata]
  exact since.version

theorem enroll (wb : base.WellFormed) {x : Host} (free : r.find? x.address = none) : Since base (r.enroll x) := by
  have hold : ∀ h < base.hosts.length, (r.enroll x).host h = r.host h := fun h hlt =>
    host_enroll_old (Nat.lt_of_lt_of_le hlt since.length)
  have hnew : r.hosts.length ∉ base.topology.ids := fun hm =>
    absurd (wb.lt_of_mem hm) (Nat.not_lt.2 since.length)
  refine ⟨?_, fun h hlt hm => hold h hlt ▸ since.keeps h hlt hm, ?_⟩
  · rw [hosts_enroll_length]
    exact Nat.le_succ_of_le since.length
  · have hgained : (gained base (r.enroll x)).length = (gained base r).length + 1 := by
      unfold gained
      rw [((ids_enroll_perm free).filter _).length_eq, List.filter_cons_of_pos (by simpa using hnew), List.length_cons]
    have hlost : gained (r.enroll x) base = gained r base := List.filter_congr fun h hm => by
      have hne : h ≠ r.hosts.length := fun he => hnew (he ▸ hm)
      simp only [mem_ids_enroll free, hne, false_or]
    have hdescribed : described base (r.enroll x) = described base r := List.filter_congr fun h hm => by
      rw [hold h (wb.lt_of_mem hm)]
    rw [hgained, hlost, hdescribed, show (r.enroll x).version = r.version + 1 from rfl, since.version]
    omega

theorem strike (wb : base.WellFormed) (w : r.WellFormed) {a : Address} {h : HostId}
    (known : r.find? a = some h) (before : h ∈ base.topology.ids) : Since base (r.strike a h) := by
  have hs := strike_eq (a := a) (w.ne_removed (mem_ids_of_find? known))
  have hlength : (r.strike a h).hosts.length = r.hosts.length := by
    rw [hs]
    exact hosts_modify_length (r.rebuild _) h _
  refine ⟨hlength ▸ since.length, fun k hlt hm => metadata_strike w known k ▸ since.keeps k hlt hm, ?_⟩
  have hgained : (gained base (r.strike a h)).length = (gained base r).length := by
    have w' := w.change (.struck known)
    refine List.Perm.length_eq ((List.perm_ext_iff_of_nodup (w'.ids_nodup.filter _) (w.ids_nodup.filter _)).2 ?_)
    intro k
    simp only [List.mem_filter, decide_eq_true_eq, w.mem_ids_strike known]
    exact ⟨fun hk => ⟨hk.1.1, hk.2⟩, fun hk => ⟨⟨hk.1, fun he => hk.2 (he ▸ before)⟩, hk.2⟩⟩
  have hlost : (gained (r.strike a h) base).length = (gained r base).length + 1 := by
    refine length_filter_succ wb.ids_nodup before ?_ ?_ fun k _ hne => ?_
    · simpa using mem_ids_of_find? known
    · simp [w.mem_ids_strike known]
    · simp [w.mem_ids_strike known, Ne.symm hne]
  have hdescribed : described base (r.strike a h) = described base r := List.filter_congr fun k _ => by
    rw [metadata_strike w known k]
  have hversion : (r.strike a h).version = r.version + 1 := by
    rw [hs]
    rfl
  rw [hgained, hlost, hdescribed, hversion, since.version]
  omega

theorem adopt (wb : base.WellFormed) {h : HostId} (bare : (r.host h).metadata = none)
    (before : h ∈ base.topology.ids) (m : Metadata) :
    Since base ((r.modify h ({ · with metadata := some m })).rebuild r.topology.members) := by
  have hlt := wb.lt_of_mem before
  have hbare : (base.host h).metadata = none := by
    by_contra hm
    exact since.keeps h hlt hm bare
  have hself : ((r.modify h ({ · with metadata := some m })).host h).metadata = some m :=
    congrArg Host.metadata (host_modify_self _ (Nat.lt_of_lt_of_le hlt since.length))
  refine ⟨(hosts_modify_length r h _).symm ▸ since.length, fun k hk hm => ?_, ?_⟩
  · show ((r.modify h _).host k).metadata ≠ none
    by_cases hkh : h = k
    · exact fun hnone => hm (hkh ▸ hbare)
    · rw [host_modify_ne r _ hkh]
      exact since.keeps k hk hm
  · have hdescribed : (described base ((r.modify h ({ · with metadata := some m })).rebuild
        r.topology.members)).length = (described base r).length + 1 := by
      refine length_filter_succ wb.ids_nodup before ?_ ?_ fun k _ hne => ?_
      · rw [bare, Bool.and_eq_false_iff]
        exact .inr rfl
      · rw [hbare]
        exact congrArg Option.isSome hself
      · show (_ && ((r.modify h _).host k).metadata.isSome) = _
        rw [host_modify_ne r _ (Ne.symm hne)]
    rw [hdescribed]
    show r.version + 1 = base.version + (gained base r).length + (gained r base).length + _
    rw [since.version]
    omega

end Since

end Registry

end CqlDispatch
