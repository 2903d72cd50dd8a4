import CqlDispatch.Json
import CqlDispatch.Proofs.NameMap
/-!
# Sorted documents

A document that is sorted stays as it is when it is sorted again.
-/
namespace CqlDispatch
namespace Json

theorem sortedValues_eq_map : ∀ members : List (String × Json),
    sortedValues members = members.map fun e => (e.1, e.2.sorted)
  | [] => rfl
  | (_, _) :: members => congrArg _ (sortedValues_eq_map members)

mutual

theorem sorted_sorted : ∀ j : Json, j.sorted.sorted = j.sorted
  | .null | .bool _ | .number _ | .string _ => rfl
  | .array items => congrArg Json.array (sortedItems_sortedItems items)
  | .object members => by
    have hvalues := sortedValues_sortedValues members
    rw [sortedValues_eq_map] at hvalues
    show object (NameMap.ofList (sortedValues (NameMap.ofList (sortedValues members)))) = _
    rw [sortedValues_eq_map (NameMap.ofList _), NameMap.map_ofList, hvalues, NameMap.ofList_ofList]
    rfl

theorem sortedItems_sortedItems : ∀ items : List Json, sortedItems (sortedItems items) = sortedItems items
  | [] => rfl
  | j :: items => by
    show sorted (sorted j) :: sortedItems (sortedItems items) = _
    rw [sorted_sorted j, sortedItems_sortedItems items]
    rfl

theorem sortedValues_sortedValues : ∀ members : List (String × Json),
    sortedValues (sortedValues members) = sortedValues members
  | [] => rfl
  | (name, j) :: members => by
    show (name, sorted (sorted j)) :: sortedValues (sortedValues members) = _
    rw [sorted_sorted j, sortedValues_sortedValues members]
    rfl

end
end Json

end CqlDispatch
