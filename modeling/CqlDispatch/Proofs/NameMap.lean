import Mathlib.Algebra.GroupWithZero.Nat
import Mathlib.Data.List.Induction
import CqlDispatch.NameMap
import CqlDispatch.Proofs.Lookup
/-!
# The names of a map

`insert` keeps the names in order, so each occurs once, and adds no name but its own.  A map of entries with distinct
names has these entries (`ofList_perm`).
-/
namespace CqlDispatch
namespace NameMap

variable {α : Type}

theorem mem_names_insert {name other : String} {v : α} : ∀ {m : NameMap α},
    other ∈ (insert name v m).map (·.1) ↔ other = name ∨ other ∈ m.map (·.1)
  | [] => by simp [insert]
  | (first, w) :: rest => by
    unfold insert
    split
    · rename_i he
      subst he
      simp
    · split
      · simp
      · rw [List.map_cons, List.mem_cons, mem_names_insert, List.map_cons, List.mem_cons]
        exact or_left_comm

theorem sorted_insert {name : String} {v : α} : ∀ {m : NameMap α},
    m.Pairwise (·.1 < ·.1) → (insert name v m).Pairwise (·.1 < ·.1)
  | [], _ => List.pairwise_singleton _ _
  | (first, w) :: rest, hm => by
    obtain ⟨hfirst, hrest⟩ := List.pairwise_cons.1 hm
    unfold insert
    split
    · rename_i he
      subst he
      exact List.pairwise_cons.2 ⟨hfirst, hrest⟩
    · rename_i hne
      split
      · rename_i hlt
        refine List.pairwise_cons.2 ⟨fun e he => ?_, hm⟩
        rcases List.mem_cons.1 he with rfl | he
        · exact hlt
        · exact String.lt_trans hlt (hfirst e he)
      · rename_i hlt
        have hgt : first < name := by
          rw [← String.not_le]
          exact fun hle => hne (String.le_antisymm hle (String.not_lt.1 hlt))
        refine List.pairwise_cons.2 ⟨fun e he => ?_, sorted_insert hrest⟩
        rcases mem_names_insert.1 (List.mem_map_of_mem he) with hname | hm
        · rw [hname]
          exact hgt
        · obtain ⟨e', he', hsame⟩ := List.mem_map.1 hm
          rw [← hsame]
          exact hfirst e' he'

theorem sorted_foldl_insert : ∀ (entries : List (String × α)) (m : NameMap α), m.Pairwise (·.1 < ·.1) →
    (entries.foldl (fun acc e => insert e.1 e.2 acc) m).Pairwise (·.1 < ·.1)
  | [], _, hm => hm
  | _ :: entries, _, hm => sorted_foldl_insert entries _ (sorted_insert hm)

theorem mem_names_foldl_insert {other : String} : ∀ {entries : List (String × α)} {m : NameMap α},
    other ∈ (entries.foldl (fun acc e => insert e.1 e.2 acc) m).map (·.1) ↔
      other ∈ entries.map (·.1) ∨ other ∈ m.map (·.1)
  | [], _ => by simp
  | e :: entries, _ => by
    rw [List.foldl_cons, mem_names_foldl_insert, mem_names_insert, List.map_cons, List.mem_cons, or_assoc]
    exact or_left_comm

/-- The names of a map are those of its entries. -/
theorem mem_names_ofList {other : String} {entries : List (String × α)} :
    other ∈ (ofList entries).map (·.1) ↔ other ∈ entries.map (·.1) :=
  mem_names_foldl_insert.trans (or_iff_left List.not_mem_nil)

theorem distinct_of_sorted {m : NameMap α} (sorted : m.Pairwise (·.1 < ·.1)) : m.Pairwise (·.1 ≠ ·.1) := by
  refine sorted.imp fun {x y} hlt he => ?_
  rw [he] at hlt
  exact String.lt_irrefl _ hlt

/-- **Each name occurs once.** -/
theorem names_nodup (entries : List (String × α)) : ((ofList entries).map (·.1)).Nodup := by
  unfold List.Nodup
  rw [List.pairwise_map]
  exact distinct_of_sorted (sorted_foldl_insert entries [] .nil)

/-! ## Values -/

theorem find?_insert (name other : String) (v : α) : ∀ m : NameMap α,
    find? other (insert name v m) = if other = name then some v else find? other m
  | [] => lookup_cons_if name other v []
  | (first, w) :: rest => by
    unfold insert
    split
    · rename_i he
      subst he
      show List.lookup other _ = if _ then _ else List.lookup other _
      rw [lookup_cons_if, lookup_cons_if]
      split <;> rfl
    · rename_i hne
      split
      · exact lookup_cons_if name other v _
      · show List.lookup other (_ :: insert name v rest) = if _ then _ else List.lookup other _
        rw [lookup_cons_if, lookup_cons_if, ← find?, find?_insert name other v rest]
        by_cases ho : other = name
        · rw [if_pos ho, if_pos ho, if_neg (ho ▸ hne)]
        · rw [if_neg ho, if_neg ho]
          rfl

/-- In a map in order a name before the first is none of its names. -/
theorem find?_of_lt {name : String} {m : NameMap α} (before : ∀ e ∈ m, name < e.1) : find? name m = none := by
  refine List.lookup_eq_none_iff.2 fun e he => ?_
  have hne : name ≠ e.1 := fun h => String.lt_irrefl _ (h ▸ before e he)
  simpa using hne

/-- **One value is put in place of another**, so the sum of all changes by these two. -/
theorem sum_insert {name : String} {n : Nat} : ∀ {m : NameMap Nat}, m.Pairwise (·.1 < ·.1) →
    ((insert name n m).map (·.2)).sum + (m.find? name).getD 0 = (m.map (·.2)).sum + n
  | [], _ => Nat.add_comm _ _
  | (first, w) :: rest, sorted => by
    obtain ⟨hfirst, hrest⟩ := List.pairwise_cons.1 sorted
    have hfind : find? name ((first, w) :: rest) = if name = first then some w else find? name rest :=
      lookup_cons_if first name w rest
    rw [hfind]
    unfold insert
    by_cases he : name = first
    · rw [if_pos he, if_pos he, List.map_cons, List.map_cons, List.sum_cons, List.sum_cons, Option.getD_some]
      omega
    · rw [if_neg he, if_neg he]
      by_cases hlt : name < first
      · rw [if_pos hlt, find?_of_lt fun e he => String.lt_trans hlt (hfirst e he), List.map_cons, List.sum_cons,
          Option.getD_none]
        omega
      · have ih : ((insert name n rest).map (·.2)).sum + _ = _ := sum_insert hrest
        rw [if_neg hlt, List.map_cons, List.map_cons, List.sum_cons, List.sum_cons]
        omega

/-- A change of all values passes through. -/
theorem map_insert {β : Type} (f : α → β) (name : String) (v : α) : ∀ m : NameMap α,
    (insert name v m).map (fun e => (e.1, f e.2)) = insert name (f v) (m.map fun e => (e.1, f e.2))
  | [] => rfl
  | (first, w) :: rest => by
    by_cases he : name = first
    · simp only [insert, List.map_cons, if_pos he]
    · by_cases hlt : name < first
      · simp only [insert, List.map_cons, if_neg he, if_pos hlt]
      · simp only [insert, List.map_cons, if_neg he, if_neg hlt, map_insert f name v rest]

theorem find?_map {β : Type} (f : α → β) (name : String) : ∀ m : NameMap α,
    find? name (m.map fun e => (e.1, f e.2)) = (find? name m).map f
  | [] => rfl
  | (first, w) :: rest => by
    show List.lookup name ((first, f w) :: _) = Option.map f (List.lookup name _)
    rw [lookup_cons_if, lookup_cons_if]
    split
    · rfl
    · exact find?_map f name rest

/-! ## Maps of entries -/

/-- A fresh name adds its entry to the others. -/
theorem insert_perm {name : String} {v : α} : ∀ {m : NameMap α}, name ∉ m.map (·.1) →
    (insert name v m).Perm ((name, v) :: m)
  | [], _ => .refl _
  | (first, w) :: rest, fresh => by
    rw [List.map_cons, List.mem_cons, not_or] at fresh
    by_cases hlt : name < first
    · simp only [insert, if_neg fresh.1, if_pos hlt]
      exact .refl _
    · simp only [insert, if_neg fresh.1, if_neg hlt]
      exact ((insert_perm fresh.2).cons _).trans (.swap ..)

theorem ofList_append_singleton (entries : List (String × α)) (e : String × α) :
    ofList (entries ++ [e]) = insert e.1 e.2 (ofList entries) := by
  unfold ofList
  rw [List.foldl_append]
  rfl

/-- Entries with distinct names are all there. -/
theorem ofList_perm {entries : List (String × α)} (distinct : (entries.map (·.1)).Nodup) :
    (ofList entries).Perm entries := by
  induction entries using List.reverseRecOn with
  | nil => exact .refl _
  | append_singleton entries e ih =>
    rw [List.map_append, List.nodup_append] at distinct
    obtain ⟨hentries, -, hfresh⟩ := distinct
    have fresh : e.1 ∉ (ofList entries).map (·.1) := fun hm =>
      hfresh e.1 (mem_names_ofList.1 hm) e.1 (by simp) rfl
    rw [ofList_append_singleton]
    exact ((insert_perm fresh).trans ((ih hentries).cons e)).trans (List.perm_append_singleton e entries).symm

/-- A map is made of its own entries. -/
theorem ofList_ofList (entries : List (String × α)) : ofList (ofList entries) = ofList entries := by
  have hsorted : ∀ l : List (String × α), (ofList l).Pairwise (·.1 < ·.1) := fun l => sorted_foldl_insert l [] .nil
  refine (ofList_perm (names_nodup entries)).eq_of_pairwise (fun a b _ _ hab hba => ?_) (hsorted _) (hsorted _)
  exact absurd (String.lt_trans hab hba) (String.lt_irrefl _)

/-- Of entries with one name the last one is found. -/
theorem find?_ofList (name : String) (entries : List (String × α)) :
    find? name (ofList entries) = entries.reverse.lookup name := by
  induction entries using List.reverseRecOn with
  | nil => rfl
  | append_singleton entries e ih =>
    rw [ofList_append_singleton, find?_insert, ih, List.reverse_concat, lookup_cons_if]

/-- Maps in order are equal where the same is found under every name. -/
theorem ext_find? {m m' : NameMap α} (sorted : m.Pairwise (·.1 < ·.1)) (sorted' : m'.Pairwise (·.1 < ·.1))
    (same : ∀ name, find? name m = find? name m') : m = m' := by
  have hmem : ∀ {m : NameMap α}, m.Pairwise (·.1 < ·.1) → ∀ name v, (name, v) ∈ m ↔ find? name m = some v :=
    fun hm _ _ => (lookup_eq_some_iff_mem (distinct_of_sorted hm)).symm
  have hnodup : ∀ {m : NameMap α}, m.Pairwise (·.1 < ·.1) → m.Nodup := fun hm =>
    (distinct_of_sorted hm).imp fun hne he => hne (congrArg Prod.fst he)
  have hperm : m.Perm m' := by
    rw [List.perm_ext_iff_of_nodup (hnodup sorted) (hnodup sorted')]
    rintro ⟨name, v⟩
    rw [hmem sorted, hmem sorted', same]
  refine hperm.eq_of_pairwise (fun a b _ _ hab hba => ?_) sorted sorted'
  exact absurd (String.lt_trans hab hba) (String.lt_irrefl _)

theorem map_ofList {β : Type} (f : α → β) (entries : List (String × α)) :
    (ofList entries).map (fun e => (e.1, f e.2)) = ofList (entries.map fun e => (e.1, f e.2)) := by
  induction entries using List.reverseRecOn with
  | nil => rfl
  | append_singleton entries e ih =>
    rw [ofList_append_singleton, map_insert, ih, List.map_append]
    exact (ofList_append_singleton _ (e.1, f e.2)).symm

end NameMap

end CqlDispatch
