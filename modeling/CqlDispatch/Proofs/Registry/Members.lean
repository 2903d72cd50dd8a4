import CqlDispatch.Registry
import CqlDispatch.Proofs.Lookup
/-!
# The members of a registry

A registry built by its own changes is well-formed: the members stand in the order of their
addresses, each under the address of its host, and none of them was removed.  So a registered host
is found under its address and nowhere else.
-/
namespace CqlDispatch

/-! ## The list of members -/

theorem Address.lt_irrefl (a : Address) : ¬ a < a := Nat.lt_irrefl a.rank

theorem insertMember_perm {a : Address} {h : HostId} :
    ∀ {l : List (Address × HostId)}, a ∉ l.map (·.1) → (insertMember a h l).Perm ((a, h) :: l)
  | [], _ => .refl _
  | (b, k) :: l, ha => by
    simp only [List.map_cons, List.mem_cons, not_or] at ha
    unfold insertMember
    rw [if_neg ha.1]
    split
    · exact .refl _
    · exact ((insertMember_perm ha.2).cons _).trans (.swap _ _ _)

theorem insertMember_sorted {a : Address} {h : HostId} :
    ∀ {l : List (Address × HostId)}, a ∉ l.map (·.1) → l.Pairwise (·.1 < ·.1) →
      (insertMember a h l).Pairwise (·.1 < ·.1)
  | [], _, _ => List.pairwise_singleton _ _
  | (b, k) :: l, ha, hl => by
    obtain ⟨hb, hrest⟩ := List.pairwise_cons.1 hl
    simp only [List.map_cons, List.mem_cons, not_or] at ha
    unfold insertMember
    rw [if_neg ha.1]
    split
    · rename_i hab
      refine List.pairwise_cons.2 ⟨fun m hm => ?_, hl⟩
      rcases List.mem_cons.1 hm with rfl | hm
      · exact hab
      · exact Nat.lt_trans hab (hb m hm)
    · rename_i hab
      have hba : b < a := by
        have hne : b.rank ≠ a.rank := fun he => ha.1 (Address.rank_inj he).symm
        have hle : ¬ a.rank < b.rank := hab
        exact Address.lt_iff.2 (by omega)
      refine List.pairwise_cons.2 ⟨fun m hm => ?_, insertMember_sorted ha.2 hrest⟩
      rcases List.mem_cons.1 ((insertMember_perm ha.2).mem_iff.1 hm) with rfl | hm
      · exact hba
      · exact hb m hm

namespace Registry

/-- What holds of every registry that was built by its own changes. -/
structure WellFormed (r : Registry) : Prop where
  version : r.topology.version = r.version
  sorted : r.topology.members.Pairwise (·.1 < ·.1)
  known : ∀ m ∈ r.topology.members, m.2 < r.hosts.length
  placed : ∀ m ∈ r.topology.members, (r.host m.2).address = m.1
  present : ∀ m ∈ r.topology.members, (r.host m.2).state ≠ .removed

theorem wellFormed_empty (id : Nat) : WellFormed { id := id } :=
  ⟨rfl, .nil, fun _ h => absurd h List.not_mem_nil, fun _ h => absurd h List.not_mem_nil,
    fun _ h => absurd h List.not_mem_nil⟩

theorem mem_ids {r : Registry} {h : HostId} : h ∈ r.topology.ids ↔ ∃ a, (a, h) ∈ r.topology.members := by
  unfold Topology.ids
  rw [List.mem_map]
  exact ⟨fun ⟨m, hm, he⟩ => ⟨m.1, he ▸ hm⟩, fun ⟨a, hm⟩ => ⟨(a, h), hm, rfl⟩⟩

theorem mem_ids_of_find? {r : Registry} {a : Address} {h : HostId} (hf : r.find? a = some h) :
    h ∈ r.topology.ids := by
  obtain ⟨l, l', hs, -⟩ := List.lookup_eq_some_iff.1 hf
  refine mem_ids.2 ⟨a, ?_⟩
  rw [hs]
  exact List.mem_append_right _ List.mem_cons_self

theorem find?_eq_none_iff {r : Registry} {a : Address} :
    r.find? a = none ↔ a ∉ r.topology.members.map (·.1) := by
  unfold find? Topology.find?
  rw [List.lookup_eq_none_iff]
  constructor
  · intro h ha
    obtain ⟨m, hm, hma⟩ := List.mem_map.1 ha
    exact absurd (h m hm) (by simp [hma])
  · intro h m hm
    have hne : a ≠ m.1 := fun he => h (he ▸ List.mem_map_of_mem hm)
    simpa using hne

namespace WellFormed

variable {r : Registry} (w : r.WellFormed)
include w

theorem find?_eq_some_iff {a : Address} {h : HostId} : r.find? a = some h ↔ (a, h) ∈ r.topology.members := by
  refine lookup_eq_some_iff_mem (w.sorted.imp fun {m n} hlt he => ?_)
  rw [he] at hlt
  exact Address.lt_irrefl _ hlt

theorem mem_ids_iff {h : HostId} : h ∈ r.topology.ids ↔ r.find? (r.host h).address = some h := by
  rw [w.find?_eq_some_iff, mem_ids]
  constructor
  · rintro ⟨a, hm⟩
    have := w.placed _ hm
    simp only at this
    rwa [this]
  · exact fun hm => ⟨_, hm⟩

theorem find?_address {a : Address} {h : HostId} (hf : r.find? a = some h) : (r.host h).address = a :=
  w.placed _ (w.find?_eq_some_iff.1 hf)

theorem lt_of_mem {h : HostId} (hm : h ∈ r.topology.ids) : h < r.hosts.length := by
  obtain ⟨a, hm⟩ := mem_ids.1 hm
  exact w.known _ hm

theorem ne_removed {h : HostId} (hm : h ∈ r.topology.ids) : (r.host h).state ≠ .removed := by
  obtain ⟨a, hm⟩ := mem_ids.1 hm
  exact w.present _ hm

theorem address_inj {h k : HostId} (hh : h ∈ r.topology.ids) (hk : k ∈ r.topology.ids)
    (he : (r.host h).address = (r.host k).address) : h = k := by
  rw [w.mem_ids_iff] at hh hk
  rw [he, hk] at hh
  exact (Option.some.inj hh).symm

theorem ids_nodup : r.topology.ids.Nodup := by
  unfold Topology.ids List.Nodup
  rw [List.pairwise_map]
  refine w.sorted.imp_of_mem fun {m n} hm hn hlt he => ?_
  have hsame : m.1 = n.1 := by rw [← w.placed m hm, ← w.placed n hn, he]
  rw [hsame] at hlt
  exact Address.lt_irrefl n.1 hlt

end WellFormed

end Registry

end CqlDispatch
