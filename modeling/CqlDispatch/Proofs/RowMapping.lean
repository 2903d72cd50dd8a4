import Mathlib.Data.List.Forall2
import Mathlib.Data.List.Nodup
import CqlDispatch.RowMapping
import CqlDispatch.Proofs.Row
/-!
# JSON models of rows

A row becomes a JSON object in two ways: as it is, where a name stands for its first column, and as the model of a
mapping, where each defined column puts its member in place of an earlier one with the same property.  With the names
left as they are, the model has the value that the row holds last under a name (`model_eq`), so the two objects are
the same exactly where this value is as good as the first column's (`models_agree_iff`).
-/
namespace CqlDispatch

namespace Row

/-- The defined cells with their names, in the order of the columns. -/
def named (r : Row) : List (String × Value) := (r.keys.zip r.cells).filterMap fun e => e.2.map (e.1, ·)

/-- The value of the last column with a name that is defined. -/
def last? (r : Row) (name : String) : Option Value := r.named.reverse.lookup name

theorem mem_named {r : Row} {name : String} {v : Value} :
    (name, v) ∈ r.named ↔ ∃ i : Nat, r.keys[i]? = some name ∧ r.cells[i]? = some (some v) := by
  unfold named
  simp only [List.mem_filterMap, Prod.exists, Option.map_eq_some_iff, Prod.mk.injEq]
  constructor
  · rintro ⟨key, cell, hm, w, rfl, rfl, rfl⟩
    obtain ⟨i, hi⟩ := List.mem_iff_getElem?.1 hm
    exact ⟨i, List.getElem?_zip_eq_some.1 hi⟩
  · rintro ⟨i, hkey, hcell⟩
    exact ⟨name, some v, List.mem_of_getElem? (List.getElem?_zip_eq_some.2 ⟨hkey, hcell⟩), v, rfl, rfl, rfl⟩

theorem named_nodup {r : Row} (distinct : r.keys.Nodup) : (r.named.map (·.1)).Nodup := by
  have hsub : (r.named.map (·.1)).Sublist ((r.keys.zip r.cells).map (·.1)) := by
    unfold named
    rw [List.map_filterMap]
    induction r.keys.zip r.cells with
    | nil => simp
    | cons e rest ih =>
      cases hcell : e.2 with
      | none => simpa [hcell] using ih.trans (List.sublist_cons_self _ _)
      | some v => simpa [hcell] using ih
  have hkeys : (r.keys.zip r.cells).map (·.1) = r.keys :=
    List.map_fst_zip (by simp [keys, r.complete])
  rw [hkeys] at hsub
  exact hsub.nodup distinct

/-- Where no name repeats, a name has one column and the value of that. -/
theorem last?_eq_get? {r : Row} (distinct : r.keys.Nodup) (name : String) : r.last? name = r.get? name := by
  apply Option.ext
  intro v
  have hrev : r.named.reverse.Pairwise (·.1 ≠ ·.1) := by
    rw [List.pairwise_reverse]
    exact (List.pairwise_map.1 (named_nodup distinct)).imp Ne.symm
  unfold last?
  rw [lookup_eq_some_iff_mem hrev, List.mem_reverse, mem_named]
  unfold get? at?
  simp only [Option.bind_eq_some_iff, Option.join_eq_some_iff]
  constructor
  · rintro ⟨i, hkey, hcell⟩
    refine ⟨i, Columns.find?_eq_some_iff.2 ⟨by simpa [keys] using hkey, fun j hj hsame => ?_⟩, hcell⟩
    have hkey' : r.keys[j]? = some name := by simpa [keys] using hsame
    obtain ⟨hi, hi'⟩ := List.getElem?_eq_some_iff.1 hkey
    obtain ⟨hl, hl'⟩ := List.getElem?_eq_some_iff.1 hkey'
    have := (List.Nodup.getElem_inj_iff distinct).1 (hl'.trans hi'.symm)
    omega
  · rintro ⟨i, hi, hcell⟩
    exact ⟨i, by simpa [keys] using (Columns.find?_eq_some_iff.1 hi).1, hcell⟩

/-- The members of a row's object by name. -/
theorem find?_tree (r : Row) (name : String) :
    (NameMap.ofList (r.members.map fun e => (e.1, e.2.tree))).find? name = (r.get? name).map Value.tree := by
  rw [← NameMap.map_ofList, NameMap.find?_map, NameMap.find?_ofList]
  congr 1
  apply Option.ext
  intro v
  have hrev : r.members.reverse.Pairwise (·.1 ≠ ·.1) := by
    rw [List.pairwise_reverse]
    exact (List.pairwise_map.1 r.names_nodup).imp Ne.symm
  rw [lookup_eq_some_iff_mem hrev, List.mem_reverse, mem_members]

end Row

namespace JsonMapping

/-- Names and values as they are. -/
def plain : JsonMapping := {}

theorem foldl_store (columns : Columns) : ∀ (cells : List (Option Value)) (model : NameMap Json),
    (cells.zip (columns.map fun c => (plain.toMapping.propertyOf c.name, plain.toMapping.transformOf c.name))).foldl
        (fun model (v, property, transform) => plain.toMapping.store model property (Adapter.transformed transform v))
        model =
      (((columns.map (·.name)).zip cells).filterMap fun e => e.2.map (e.1, ·)).foldl
        (fun acc e => NameMap.insert e.1 e.2.tree acc) model := by
  induction columns with
  | nil => simp
  | cons c columns ih =>
    intro cells model
    cases cells with
    | nil => simp
    | cons v cells =>
      cases v with
      | none => exact ih cells model
      | some v => exact ih cells _

/-- **A model has the value that its row holds last under a name.** -/
theorem model_eq (row : Row) :
    (Adapter.ofColumns plain.toMapping row.columns).adapt plain.toMapping row =
      NameMap.ofList (row.named.map fun e => (e.1, e.2.tree)) := by
  unfold Adapter.adapt Adapter.ofColumns NameMap.ofList Row.named Row.keys
  rw [List.foldl_map]
  exact foldl_store row.columns row.cells []

theorem find?_model (row : Row) (name : String) :
    ((Adapter.ofColumns plain.toMapping row.columns).adapt plain.toMapping row).find? name =
      (row.last? name).map Value.tree := by
  rw [model_eq, ← NameMap.map_ofList, NameMap.find?_map, NameMap.find?_ofList]
  rfl

theorem model_eq_tree_iff (row : Row) :
    Json.object ((Adapter.ofColumns plain.toMapping row.columns).adapt plain.toMapping row) = row.tree ↔
      ∀ name, (row.last? name).map Value.tree = (row.get? name).map Value.tree := by
  rw [row.tree_eq, Json.object.injEq]
  constructor
  · intro h name
    rw [← find?_model, h]
    exact row.find?_tree name
  · intro h
    have hsorted : ∀ entries : List (String × Json), (NameMap.ofList entries).Pairwise (·.1 < ·.1) := fun entries =>
      NameMap.sorted_foldl_insert entries [] .nil
    refine NameMap.ext_find? (model_eq row ▸ hsorted _) (hsorted _) fun name => ?_
    rw [find?_model, h]
    exact (row.find?_tree name).symm

/-- How the model of a row and the row's own object lie to each other. -/
structure Models (model : NameMap Json) (row : Row) : Prop where
  sorted : model.Pairwise (·.1 < ·.1)
  last : ∀ name, model.find? name = (row.last? name).map Value.tree
  agrees : Json.object model = row.tree ↔ ∀ name, (row.last? name).map Value.tree = (row.get? name).map Value.tree
  distinct : row.keys.Nodup → Json.object model = row.tree

theorem models_of_shared {r : ResultSet} {row : Row} (shared : row.columns = r.columns) :
    Models ((Adapter.ofColumns plain.toMapping r.columns).adapt plain.toMapping row) row := by
  rw [← shared]
  refine ⟨?_, find?_model row, model_eq_tree_iff row, fun hdistinct => ?_⟩
  · rw [model_eq]
    exact NameMap.sorted_foldl_insert _ [] .nil
  · exact (model_eq_tree_iff row).2 fun name => by rw [Row.last?_eq_get? hdistinct]

/-- **Models against rows.**  Where the rows of a result share its columns, each becomes, in order, an object of the
values that it holds last under its names.  This is the row's own object iff under every name the last defined column
shows what the first column shows; so it is where no name repeats. -/
theorem shared_rows_modelled (r : ResultSet) (shared : ∀ row ∈ r.rows, row.columns = r.columns) :
    List.Forall₂ Models (r.mapRows plain.toMapping) r.rows := by
  unfold ResultSet.mapRows
  rw [List.forall₂_map_left_iff, List.forall₂_same]
  exact fun row hrow => models_of_shared (shared row hrow)

/-- Two rows whose first and last columns have one name. -/
def repeatedName : ResultSet where
  columns := Columns.ofNames ["a", "b", "a"]
  rows := [⟨Columns.ofNames ["a", "b", "a"], [some (.boolean true), some .null, some (.boolean false)], rfl⟩,
    ⟨Columns.ofNames ["a", "b", "a"], [some (.boolean true), none, none], rfl⟩]

/-- The first row's model has the second `a`, the row itself has the first; the other row has no second `a`. -/
theorem repeated_name_modelled :
    (∀ row ∈ repeatedName.rows, row.columns = repeatedName.columns) ∧
      repeatedName.mapRows plain.toMapping = [[("a", .bool false), ("b", .null)], [("a", .bool true)]] ∧
      repeatedName.rows.map Row.tree = [.object [("a", .bool true), ("b", .null)], .object [("a", .bool true)]] ∧
      List.Forall₂ Models (repeatedName.mapRows plain.toMapping) repeatedName.rows := by
  have shared : ∀ row ∈ repeatedName.rows, row.columns = repeatedName.columns := by
    simp [repeatedName]
  exact ⟨shared, rfl, rfl, shared_rows_modelled _ shared⟩

/-- Models are not always what the rows themselves show. -/
theorem repeated_name_shown_otherwise :
    ¬ ∀ r : ResultSet, (∀ row ∈ r.rows, row.columns = r.columns) →
      (r.mapRows plain.toMapping).map Json.object = r.rows.map Row.tree := by
  intro h
  have hsame := h repeatedName (by simp [repeatedName])
  have hmodels : (repeatedName.mapRows plain.toMapping).map Json.object =
      [.object [("a", .bool false), ("b", .null)], .object [("a", .bool true)]] := rfl
  have htrees : repeatedName.rows.map Row.tree =
      [.object [("a", .bool true), ("b", .null)], .object [("a", .bool true)]] := rfl
  rw [hmodels, htrees] at hsame
  simp at hsame

end JsonMapping

end CqlDispatch
