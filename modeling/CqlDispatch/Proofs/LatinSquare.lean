import Mathlib.Data.List.Nodup
import Mathlib.Data.List.Rotate
/-!
# Latin squares

Rows that each list all symbols, such that each column does, too.  The rotations of a list by as many amounts in
a row as it has members are one (`latinSquare_rotate`), wherever the first of them starts: a column is itself
such a rotation.
-/
namespace CqlDispatch

/-- As many rows as there are symbols; each symbol stands once in every row and once in every column. -/
structure LatinSquare {α : Type} (symbols : List α) (rows : List (List α)) : Prop where
  distinct : symbols.Nodup
  height : rows.length = symbols.length
  row : ∀ row ∈ rows, row.Perm symbols
  column : ∀ j < symbols.length, (rows.map (·[j]?)).Perm (symbols.map some)

variable {α : Type} {symbols : List α}

/-- In what order the symbols are listed is no part of the square. -/
theorem LatinSquare.of_perm {rows : List (List α)} (square : LatinSquare symbols rows) {symbols' : List α}
    (same : symbols.Perm symbols') : LatinSquare symbols' rows where
  distinct := same.nodup_iff.1 square.distinct
  height := square.height.trans same.length_eq
  row := fun row hrow => (square.row row hrow).trans same
  column := fun j hj => (square.column j (same.length_eq ▸ hj)).trans (same.map some)

theorem map_getElem?_range (xs : List α) : (List.range xs.length).map (xs[·]?) = xs.map some := by
  refine List.ext_getElem? fun i => ?_
  rw [List.getElem?_map, List.getElem?_map]
  by_cases hi : i < xs.length
  · rw [List.getElem?_range hi, List.getElem?_eq_getElem hi]
    exact congrArg some (List.getElem?_eq_getElem hi)
  · rw [List.getElem?_eq_none (by simpa using hi), List.getElem?_eq_none (by simpa using hi)]
    rfl

/-- **Rotations in a row make a Latin square.** -/
theorem latinSquare_rotate (distinct : symbols.Nodup) (start : Nat) :
    LatinSquare symbols ((List.range symbols.length).map fun k => symbols.rotate (start + k)) where
  distinct := distinct
  height := by rw [List.length_map, List.length_range]
  row := by
    intro row hrow
    obtain ⟨k, -, rfl⟩ := List.mem_map.1 hrow
    exact symbols.rotate_perm _
  column := by
    intro j hj
    -- Read downwards, a column is the rotation that starts where its first row has it.
    have down : ∀ k ∈ List.range symbols.length,
        (symbols.rotate (start + k))[j]? = (symbols.rotate (j + start))[k]? := by
      intro k hk
      rw [List.getElem?_rotate hj, List.getElem?_rotate (List.mem_range.1 hk), ← Nat.add_assoc,
        Nat.add_comm k]
    have column : ((List.range symbols.length).map fun k => symbols.rotate (start + k)).map (·[j]?) =
        (symbols.rotate (j + start)).map some := by
      rw [List.map_map, ← map_getElem?_range, List.length_rotate]
      exact List.map_congr_left down
    rw [column]
    exact (symbols.rotate_perm _).map some

end CqlDispatch
