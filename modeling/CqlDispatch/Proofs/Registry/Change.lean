import CqlDispatch.Proofs.Registry.Members
/-!
# Changes of a registry

Everything that happens to a registry is made of a few changes.  What each of them keeps, every
operation keeps: the registry stays well-formed (`WellFormed.change`), and a host keeps its
address for ever (`Extends.of_change`).
-/
namespace CqlDispatch

/-- The state that an event says its host went to; a host that is added went nowhere. -/
def HostEvent.tells : HostEvent → Option HostState
  | added _ => none
  | removed _ => some .removed
  | up _ => some .up
  | down _ _ => some .down
  | reconnecting _ => some .reconnecting

namespace Registry

/-- One change of a registry. -/
inductive Change (r : Registry) : Registry → Prop
  | enrolled {a m} (free : r.find? a = none) : Change r (r.enroll { address := a, metadata := m })
  | struck {a h} (known : r.find? a = some h) : Change r (r.strike a h)
  | adopted {h m} (known : h ∈ r.topology.ids) (bare : (r.host h).metadata = none) :
    Change r ((r.modify h ({ · with metadata := some m })).rebuild r.topology.members)
  | ranked {h d} (known : h ∈ r.topology.ids) : Change r (r.modify h ({ · with distance := d }))
  | moved {a h target q e} (known : r.find? a = some h) (legal : r.move? h target = some q)
    (about : e.address = a) (tells : e.tells = some target) (stays : target ≠ .removed) : Change r (q.emit e)
  | joined {a} : Change r (r.emit (.added a))
  | left {a} (gone : r.find? a = none) : Change r (r.emit (.removed a))
  | remembered {advertised a} : Change r (r.remember advertised a)
  | replicated {keyspace factor} : Change r (r.setReplicationFactor keyspace factor)

/-! ## Single hosts -/

theorem host_modify_self {r : Registry} {h : HostId} (f : Host → Host) (hlt : h < r.hosts.length) :
    (r.modify h f).host h = f (r.host h) := by
  unfold host modify
  rw [List.getElem?_modify_eq, List.getElem?_eq_getElem hlt]
  rfl

theorem host_modify_keeps {α : Type} {r : Registry} {h : HostId} {f : Host → Host} {g : Host → α}
    (hf : ∀ x, g (f x) = g x) (k : HostId) : g ((r.modify h f).host k) = g (r.host k) := by
  by_cases hk : h = k
  · subst hk
    unfold host modify
    rw [List.getElem?_modify_eq]
    cases hg : r.hosts[h]? with
    | none => rfl
    | some x => exact hf x
  · rw [host_modify_ne r f hk]

theorem host_enroll_new (r : Registry) (x : Host) : (r.enroll x).host r.hosts.length = x := by
  unfold host enroll rebuild
  rw [List.getElem?_append_right (Nat.le_refl _), Nat.sub_self]
  rfl

theorem host_enroll_old {r : Registry} {x : Host} {k : HostId} (hk : k < r.hosts.length) :
    (r.enroll x).host k = r.host k := by
  unfold host enroll rebuild
  rw [List.getElem?_append_left hk]

theorem hosts_enroll_length (r : Registry) (x : Host) : (r.enroll x).hosts.length = r.hosts.length + 1 :=
  List.length_append

theorem move?_eq_some {r q : Registry} {h : HostId} {target : HostState} (hm : r.move? h target = some q) :
    (r.host h).state ∈ target.sources ∧ q = r.modify h ({ · with state := target }) := by
  unfold move? at hm
  split at hm
  · rename_i hs
    exact ⟨hs, (Option.some.inj hm).symm⟩
  · cases hm

theorem mem_sources_removed {s : HostState} (hs : s ≠ .removed) : s ∈ HostState.removed.sources := by
  cases s <;> first | exact absurd rfl hs | decide

/-- An address that is struck is taken out, and its host is marked as removed. -/
theorem strike_eq {r : Registry} {a : Address} {h : HostId} (hs : (r.host h).state ≠ .removed) :
    r.strike a h = { (r.rebuild (r.topology.members.filter (·.1 != a))).modify h
      ({ · with state := .removed }) with resolved := r.resolved.filter (·.2 != a) } := by
  unfold strike
  have hmove : (r.rebuild (r.topology.members.filter (·.1 != a))).move? h .removed =
      some ((r.rebuild (r.topology.members.filter (·.1 != a))).modify h ({ · with state := .removed })) :=
    if_pos (mem_sources_removed hs)
  simp only [hmove, Option.getD_some]
  rfl

@[simp] theorem log_strike (r : Registry) (a : Address) (h : HostId) : (r.strike a h).log = r.log := by
  unfold strike move?
  dsimp only
  split <;> rfl

/-! ## Members -/

theorem ids_enroll_perm {r : Registry} {x : Host} (free : r.find? x.address = none) :
    (r.enroll x).topology.ids.Perm (r.hosts.length :: r.topology.ids) :=
  (insertMember_perm (find?_eq_none_iff.1 free)).map Prod.snd

theorem mem_ids_enroll {r : Registry} {x : Host} (free : r.find? x.address = none) {h : HostId} :
    h ∈ (r.enroll x).topology.ids ↔ h = r.hosts.length ∨ h ∈ r.topology.ids :=
  (ids_enroll_perm free).mem_iff.trans List.mem_cons

theorem WellFormed.mem_members_ne {r : Registry} (w : r.WellFormed) {a : Address} {h : HostId}
    (known : r.find? a = some h) {n : Address × HostId} (hn : n ∈ r.topology.members.filter (·.1 != a)) :
    n ∈ r.topology.members ∧ h ≠ n.2 := by
  obtain ⟨hn, hne⟩ := List.mem_filter.1 hn
  refine ⟨hn, fun he => ?_⟩
  have ha := w.placed _ (w.find?_eq_some_iff.1 known)
  rw [he, w.placed n hn] at ha
  simp [ha] at hne

theorem WellFormed.mem_ids_strike {r : Registry} (w : r.WellFormed) {a : Address} {h k : HostId}
    (known : r.find? a = some h) : k ∈ (r.strike a h).topology.ids ↔ k ∈ r.topology.ids ∧ h ≠ k := by
  rw [strike_eq (w.present _ (w.find?_eq_some_iff.1 known)), mem_ids, mem_ids]
  show (∃ b, (b, k) ∈ r.topology.members.filter (·.1 != a)) ↔ _
  constructor
  · rintro ⟨b, hb⟩
    obtain ⟨hb, hne⟩ := w.mem_members_ne known hb
    exact ⟨⟨b, hb⟩, hne⟩
  · rintro ⟨⟨b, hb⟩, hne⟩
    refine ⟨b, List.mem_filter.2 ⟨hb, ?_⟩⟩
    by_cases hba : b = a
    · subst hba
      have hfound := w.find?_eq_some_iff.2 hb
      rw [known] at hfound
      exact absurd (Option.some.inj hfound) hne
    · simpa using hba

theorem WellFormed.host_strike {r : Registry} (w : r.WellFormed) {a : Address} {h k : HostId}
    (known : r.find? a = some h) (hne : h ≠ k) : (r.strike a h).host k = r.host k := by
  rw [strike_eq (w.present _ (w.find?_eq_some_iff.1 known))]
  exact host_modify_ne (r.rebuild _) _ hne

/-! ## Well-formed registries -/

theorem WellFormed.modify {r : Registry} (w : r.WellFormed) {h : HostId} {f : Host → Host}
    (ha : ∀ x, (f x).address = x.address) (hs : ∀ x, x.state ≠ .removed → (f x).state ≠ .removed) :
    (r.modify h f).WellFormed where
  version := w.version
  sorted := w.sorted
  known m hm := by
    rw [hosts_modify_length]
    exact w.known m hm
  placed m hm := (host_modify_keeps ha m.2).trans (w.placed m hm)
  present m hm := by
    by_cases hk : h = m.2
    · rw [hk, host_modify_self f (w.known m hm)]
      exact hs _ (w.present m hm)
    · rw [host_modify_ne r f hk]
      exact w.present m hm

/-- **Every change keeps a registry well-formed.** -/
theorem WellFormed.change {r r' : Registry} (w : r.WellFormed) (hc : r.Change r') : r'.WellFormed := by
  cases hc with
  | @enrolled a m free =>
    have hfree := find?_eq_none_iff.1 free
    have hmem : ∀ {n}, n ∈ (r.enroll { address := a, metadata := m }).topology.members →
        n = (a, r.hosts.length) ∨ n ∈ r.topology.members := fun hn =>
      List.mem_cons.1 ((insertMember_perm hfree).mem_iff.1 hn)
    refine ⟨rfl, insertMember_sorted hfree w.sorted, fun n hn => ?_, fun n hn => ?_, fun n hn => ?_⟩
    · rw [hosts_enroll_length]
      rcases hmem hn with rfl | hn
      · exact Nat.lt_succ_self _
      · exact Nat.lt_succ_of_lt (w.known n hn)
    · rcases hmem hn with rfl | hn
      · rw [host_enroll_new]
      · rw [host_enroll_old (w.known n hn)]
        exact w.placed n hn
    · rcases hmem hn with rfl | hn
      · rw [host_enroll_new]
        exact HostState.noConfusion
      · rw [host_enroll_old (w.known n hn)]
        exact w.present n hn
  | @struck a h known =>
    have hrest : ∀ {n}, n ∈ r.topology.members.filter (·.1 != a) → n ∈ r.topology.members ∧ h ≠ n.2 :=
      w.mem_members_ne known
    rw [strike_eq (w.present _ (w.find?_eq_some_iff.1 known))]
    refine ⟨rfl, w.sorted.filter _, fun n hn => ?_, fun n hn => ?_, fun n hn => ?_⟩
    · show n.2 < (r.hosts.modify h _).length
      rw [List.length_modify]
      exact w.known n (hrest hn).1
    · exact (host_modify_ne _ _ (hrest hn).2).symm ▸ w.placed n (hrest hn).1
    · exact (host_modify_ne _ _ (hrest hn).2).symm ▸ w.present n (hrest hn).1
  | @adopted h m known bare =>
    have w' := w.modify (h := h) (f := fun x => { x with metadata := some m }) (fun _ => rfl) (fun _ hs => hs)
    exact ⟨rfl, w.sorted, w'.known, w'.placed, w'.present⟩
  | ranked known => exact w.modify (fun _ => rfl) (fun _ hs => hs)
  | @moved a h target q e known legal about tells stays =>
    obtain ⟨-, rfl⟩ := move?_eq_some legal
    have w' := w.modify (h := h) (f := fun x => { x with state := target }) (fun _ => rfl) (fun _ _ => stays)
    exact ⟨w.version, w.sorted, w'.known, w'.placed, w'.present⟩
  | joined => exact ⟨w.version, w.sorted, w.known, w.placed, w.present⟩
  | left gone => exact ⟨w.version, w.sorted, w.known, w.placed, w.present⟩
  | remembered => exact ⟨w.version, w.sorted, w.known, w.placed, w.present⟩
  | replicated => exact ⟨w.version, w.sorted, w.known, w.placed, w.present⟩

/-- **A change leaves the members and what is known about them alone, or makes a new version.** -/
theorem WellFormed.topology_cases {r r' : Registry} (w : r.WellFormed) (hc : r.Change r') :
    r.topology.version < r'.topology.version ∨
      r'.topology = r.topology ∧ ∀ h, (r'.host h).address = (r.host h).address ∧
        (r'.host h).metadata = (r.host h).metadata := by
  have hnew : r.topology.version < r.version + 1 := by
    rw [w.version]
    exact Nat.lt_succ_self _
  have hsame : ∀ (h : HostId) (f : Host → Host), (∀ x, (f x).address = x.address) →
      (∀ x, (f x).metadata = x.metadata) → ∀ k, ((r.modify h f).host k).address = (r.host k).address ∧
        ((r.modify h f).host k).metadata = (r.host k).metadata := fun _ _ ha hm k =>
    ⟨host_modify_keeps ha k, host_modify_keeps hm k⟩
  cases hc with
  | enrolled free => exact .inl hnew
  | struck known =>
    rw [strike_eq (w.present _ (w.find?_eq_some_iff.1 known))]
    exact .inl hnew
  | adopted known bare => exact .inl hnew
  | ranked known => exact .inr ⟨rfl, hsame _ _ (fun _ => rfl) (fun _ => rfl)⟩
  | moved known legal about tells stays =>
    obtain ⟨-, rfl⟩ := move?_eq_some legal
    exact .inr ⟨rfl, hsame _ _ (fun _ => rfl) (fun _ => rfl)⟩
  | joined => exact .inr ⟨rfl, fun _ => ⟨rfl, rfl⟩⟩
  | left gone => exact .inr ⟨rfl, fun _ => ⟨rfl, rfl⟩⟩
  | remembered => exact .inr ⟨rfl, fun _ => ⟨rfl, rfl⟩⟩
  | replicated => exact .inr ⟨rfl, fun _ => ⟨rfl, rfl⟩⟩

/-! ## Hosts for life -/

/-- A later state of a registry: its hosts are still there, under the same addresses. -/
structure Extends (r r' : Registry) : Prop where
  id : r'.id = r.id
  length : r.hosts.length ≤ r'.hosts.length
  address : ∀ h < r.hosts.length, (r'.host h).address = (r.host h).address

theorem Extends.refl (r : Registry) : Extends r r := ⟨rfl, Nat.le_refl _, fun _ _ => rfl⟩

theorem Extends.trans {r r' r'' : Registry} (h : Extends r r') (h' : Extends r' r'') : Extends r r'' :=
  ⟨h'.id.trans h.id, Nat.le_trans h.length h'.length, fun k hk =>
    (h'.address k (Nat.lt_of_lt_of_le hk h.length)).trans (h.address k hk)⟩

theorem Extends.of_modify {r r' : Registry} {h : HostId} {f : Host → Host} (hid : r'.id = r.id)
    (hr : r'.hosts = r.hosts.modify h f) (hf : ∀ x, (f x).address = x.address) : Extends r r' := by
  refine ⟨hid, Nat.le_of_eq (by rw [hr, List.length_modify]), fun k _ => ?_⟩
  have hk := host_modify_keeps (r := r) (h := h) (g := Host.address) hf k
  unfold host modify at hk
  unfold host
  rw [hr, hk]

theorem Extends.of_change {r r' : Registry} (w : r.WellFormed) (hc : r.Change r') : Extends r r' := by
  cases hc with
  | enrolled free =>
    refine ⟨rfl, ?_, fun k hk => by rw [host_enroll_old hk]⟩
    rw [hosts_enroll_length]
    exact Nat.le_succ _
  | struck known =>
    rw [strike_eq (w.present _ (w.find?_eq_some_iff.1 known))]
    exact .of_modify rfl rfl fun _ => rfl
  | adopted known bare => exact .of_modify rfl rfl fun _ => rfl
  | ranked known => exact .of_modify rfl rfl fun _ => rfl
  | moved known legal about tells stays =>
    obtain ⟨-, rfl⟩ := move?_eq_some legal
    exact .of_modify rfl rfl fun _ => rfl
  | joined => exact ⟨rfl, Nat.le_refl _, fun _ _ => rfl⟩
  | left gone => exact ⟨rfl, Nat.le_refl _, fun _ _ => rfl⟩
  | remembered => exact ⟨rfl, Nat.le_refl _, fun _ _ => rfl⟩
  | replicated => exact ⟨rfl, Nat.le_refl _, fun _ _ => rfl⟩

end Registry

end CqlDispatch
