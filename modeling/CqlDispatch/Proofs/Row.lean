import CqlDispatch.Row
import CqlDispatch.Proofs.Json
/-!
# Names and members of rows

Names are looked up in an index that is made in one pass, and members are chosen by position; both come to the first
column of a name (`Columns.find?_eq_some_iff`, `mem_members`).  So whatever a row is built of, its JSON object has a
member for every name under which a value is found, and no other (`lookups_and_members_agree`).
-/
namespace CqlDispatch

namespace Columns

/-- The first column that bears a name. -/
def First (columns : Columns) (name : String) (i : Nat) : Prop :=
  (columns[i]?).map (·.name) = some name ∧ ∀ j < i, (columns[j]?).map (·.name) ≠ some name

theorem find?_indexed (name : String) (index : NameMap Nat) (column : Column × Nat) :
    (indexed index column).find? name =
      (index.find? name).or (if column.1.name = name then some column.2 else none) := by
  unfold indexed
  by_cases hknown : (index.find? column.1.name).isSome
  · rw [if_pos hknown]
    by_cases hname : column.1.name = name
    · rw [← hname]
      obtain ⟨i, hi⟩ := Option.isSome_iff_exists.1 hknown
      simp [hi]
    · simp [hname]
  · rw [if_neg hknown, NameMap.find?_insert]
    by_cases hname : column.1.name = name
    · rw [← hname, if_pos rfl, if_pos rfl, Option.not_isSome_iff_eq_none.1 hknown, Option.none_or]
    · simp [hname, Ne.symm hname]

/-- The index of columns in front of which others were indexed. -/
theorem find?_foldl (name : String) : ∀ (columns : List (Column × Nat)) (index : NameMap Nat),
    (columns.foldl indexed index).find? name =
      (index.find? name).or ((columns.find? fun c => c.1.name == name).map (·.2))
  | [], index => by simp
  | c :: columns, index => by
    rw [List.foldl_cons, find?_foldl name columns, find?_indexed, Option.or_assoc, List.find?_cons]
    congr 1
    by_cases hname : c.1.name = name
    · simp [hname]
    · have hne : (c.1.name == name) = false := by simpa using hname
      simp [hname, hne]

theorem find?_eq_findIdx? (columns : Columns) (name : String) :
    columns.find? name = columns.findIdx? (·.name == name) := by
  rw [List.findIdx?_eq_fst_find?_zipIdx]
  exact find?_foldl name columns.zipIdx []

/-- **A name is found at its first column**, and nowhere if there is none. -/
theorem find?_eq_some_iff {columns : Columns} {name : String} {i : Nat} :
    columns.find? name = some i ↔ columns.First name i := by
  rw [find?_eq_findIdx?, List.findIdx?_eq_some_iff_getElem]
  unfold First
  constructor
  · rintro ⟨hi, hname, hbefore⟩
    refine ⟨by simpa [hi] using hname, fun j hj => ?_⟩
    have hj' := hbefore j hj
    simpa [Nat.lt_trans hj hi] using hj'
  · rintro ⟨hname, hbefore⟩
    obtain ⟨c, hc, hcname⟩ := Option.map_eq_some_iff.1 hname
    obtain ⟨hi, rfl⟩ := List.getElem?_eq_some_iff.1 hc
    refine ⟨hi, by simpa using hcname, fun j hj => ?_⟩
    have hj' := hbefore j hj
    simpa [Nat.lt_trans hj hi] using hj'

/-- The order of names is that of their first columns. -/
def Before (columns : Columns) (a b : String) : Prop :=
  ∃ i j, columns.find? a = some i ∧ columns.find? b = some j ∧ i < j

theorem Before.ne {columns : Columns} {a b : String} (h : columns.Before a b) : a ≠ b := by
  rintro rfl
  obtain ⟨i, j, hi, hj, hlt⟩ := h
  rw [hi] at hj
  cases hj
  exact Nat.lt_irrefl _ hlt

end Columns

namespace Row

variable {r : Row}

theorem mem_members {name : String} {v : Value} : (name, v) ∈ r.members ↔ r.get? name = some v := by
  have hcell : ∀ i, r.columns.find? name = some i →
      ((r.keys.zip r.cells)[i]? = some (name, some v) ↔ r.at? i = some v) := fun i hi => by
    have hname : r.keys[i]? = some name := by
      have hfirst := (Columns.find?_eq_some_iff.1 hi).1
      simpa [keys] using hfirst
    rw [List.getElem?_zip_eq_some]
    unfold at?
    simp [hname, Option.join_eq_some_iff]
  unfold members get?
  simp only [List.mem_filterMap, List.mem_filter, Prod.exists, List.mem_zipIdx_iff_getElem?, beq_iff_eq,
    Option.map_eq_some_iff, Prod.mk.injEq, Option.bind_eq_some_iff]
  constructor
  · rintro ⟨key, cell, i, ⟨hcells, hi⟩, v', hv, rfl, rfl⟩
    subst hv
    exact ⟨i, hi, (hcell i hi).1 hcells⟩
  · rintro ⟨i, hi, hv⟩
    exact ⟨name, some v, i, ⟨(hcell i hi).2 hv, hi⟩, v, rfl, rfl, rfl⟩

/-- **Members stand in the order of the columns.** -/
theorem members_ordered (r : Row) : (r.members.map (·.1)).Pairwise r.columns.Before := by
  have hplaces : (r.keys.zip r.cells).zipIdx.Pairwise (·.2 < ·.2) := by
    rw [← List.pairwise_map, List.zipIdx_map_snd]
    exact List.pairwise_lt_range'
  have hkept : ((r.keys.zip r.cells).zipIdx.filter fun m => r.columns.find? m.1.1 == some m.2).Pairwise
      fun a b => r.columns.Before a.1.1 b.1.1 :=
    List.pairwise_filter.2 (hplaces.imp fun {a b} hlt ha hb =>
      ⟨a.2, b.2, by simpa using ha, by simpa using hb, hlt⟩)
  rw [List.pairwise_map]
  refine hkept.filterMap _ fun a b hbefore a' ha b' hb => ?_
  obtain ⟨v, -, rfl⟩ := Option.map_eq_some_iff.1 ha
  obtain ⟨w, -, rfl⟩ := Option.map_eq_some_iff.1 hb
  exact hbefore

theorem names_nodup (r : Row) : (r.members.map (·.1)).Nodup := r.members_ordered.imp Columns.Before.ne

/-- An object of what a row holds under its names, in a form for values. -/
def Renders (r : Row) (form : Value → Json) (members : List (String × Json)) : Prop :=
  (members.map (·.1)).Nodup ∧ ∀ name j, (name, j) ∈ members ↔ ∃ v, r.get? name = some v ∧ j = form v

theorem renders_members (r : Row) (form : Value → Json) :
    r.Renders form (r.members.map fun (name, v) => (name, form v)) := by
  refine ⟨?_, fun name j => ?_⟩
  · rw [List.map_map]
    exact r.names_nodup
  · simp only [List.mem_map, Prod.exists, Prod.mk.injEq]
    constructor
    · rintro ⟨_, v, hm, rfl, rfl⟩
      exact ⟨v, mem_members.1 hm, rfl⟩
    · rintro ⟨v, hv, rfl⟩
      exact ⟨name, v, mem_members.2 hv, rfl, rfl⟩

theorem tree_eq (r : Row) : r.tree = .object (NameMap.ofList (r.members.map fun (name, v) => (name, v.tree))) := by
  have hsorted : ∀ v : Value, v.tree.sorted = v.tree := fun v => Json.sorted_sorted _
  unfold tree
  rw [Json.sorted, Json.sortedValues_eq_map, List.map_map]
  simp only [Function.comp_def, hsorted]

theorem renders_tree (r : Row) :
    r.Renders Value.tree (NameMap.ofList (r.members.map fun (name, v) => (name, v.tree))) := by
  obtain ⟨hnodup, hmem⟩ := r.renders_members Value.tree
  exact ⟨NameMap.names_nodup _, fun name j => (NameMap.ofList_perm hnodup).mem_iff.trans (hmem name j)⟩

/-- A row of these columns that holds these cells. -/
structure Holds (r : Row) (columns : Columns) (cells : List (Option Value)) : Prop where
  columns_eq : r.columns = columns
  cells_eq : r.cells = cells ++ List.replicate (columns.length - cells.length) none
  slots : r.cells.length = columns.length
  get : ∀ name v, r.get? name = some v ↔ ∃ i, columns.First name i ∧ cells[i]? = some (some v)
  json : ∃ members, r.json = .object members ∧ r.Renders Value.json members ∧
    (members.map (·.1)).Pairwise columns.Before
  tree : ∃ members, r.tree = .object members ∧ r.Renders Value.tree members

theorem holds {r : Row} {columns : Columns} {cells : List (Option Value)} (hcolumns : r.columns = columns)
    (hcells : r.cells = cells ++ List.replicate (columns.length - cells.length) none) : r.Holds columns cells := by
  subst hcolumns
  refine ⟨rfl, hcells, r.complete, fun name v => ?_, ⟨_, rfl, r.renders_members _, ?_⟩, ⟨_, r.tree_eq, r.renders_tree⟩⟩
  · have hcell : ∀ i, r.cells[i]? = some (some v) ↔ cells[i]? = some (some v) := fun i => by
      rw [hcells, List.getElem?_append]
      by_cases hi : i < cells.length
      · rw [if_pos hi]
      · rw [if_neg hi, List.getElem?_eq_none (Nat.le_of_not_lt hi)]
        simp [List.getElem?_replicate]
    unfold get? at?
    simp only [Option.bind_eq_some_iff, Columns.find?_eq_some_iff, Option.join_eq_some_iff, hcell]
  · rw [List.map_map]
    exact r.members_ordered

/-- What comes of an attempt to build a row. -/
inductive Built (columns : Columns) (cells : List (Option Value)) : Except Failure Row → Prop
  | row {row : Row} (room : cells.length ≤ columns.length) (h : row.Holds columns cells) : Built columns cells (.ok row)
  | refused {m} (full : columns.length < cells.length) : Built columns cells (.error (.construction m))

theorem ofCells_built (columns : Columns) (cells : List (Option Value)) :
    Built columns cells (ofCells columns cells) := by
  unfold ofCells
  by_cases h : cells.length ≤ columns.length
  · rw [dif_pos h]
    exact .row h (holds rfl rfl)
  · rw [dif_neg h]
    exact .refused (Nat.lt_of_not_le h)

/-- **Look-ups and members agree.**  A name is found at the first column that bears it.  A row can be built exactly
where there are no more values than columns; it has one cell for each column, and finds the value that was given for
the first column of a name.  Its JSON form is an object with the values that are found, each under its name and
nothing else, in the order of the columns; the same members make up its tree. -/
theorem lookups_and_members_agree (columns : Columns) :
    (∀ name i, columns.find? name = some i ↔ columns.First name i) ∧
      (empty columns).Holds columns [] ∧ (∀ values, Built columns (values.map some) (ofValues columns values)) ∧
      ∀ cells, Built columns cells (ofCells columns cells) :=
  ⟨fun _ _ => Columns.find?_eq_some_iff, holds rfl rfl, fun _ => ofCells_built _ _, ofCells_built columns⟩

/-- A name whose first column is undefined is left out, whatever its other columns hold. -/
example : (ofCells (Columns.ofNames ["a", "b", "a"]) [none, some (.boolean true), some (.boolean false)]).toOption.map
    (fun r => r.members.map (·.1)) = some ["b"] := by
  decide

end Row

end CqlDispatch
