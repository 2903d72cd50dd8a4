import Mathlib.Data.List.Nodup
import CqlDispatch.Proofs.Json
import CqlDispatch.Proofs.Value.Collisions
import CqlDispatch.Value.Json
/-!
# Keys as member names

The JSON form of a map has a member for each entry iff the display forms of the keys are distinct (`Value.keeps_iff`).
Different keys of a type have distinct display forms just where the type is a text type or separable, so for all other
types entries can be lost (`ColumnType.keeps_iff_legible`).
-/
namespace CqlDispatch

namespace Value

/-- The JSON form of the map is an object with one member for each entry. -/
def KeepsEntries (entries : List (Value × Value)) : Prop :=
  ∃ members, (map entries).tree = .object members ∧ members.Perm (entries.map fun e => (e.1.display, e.2.tree))

theorem jsonEntries_eq_map (single : Binary32 → Json) : ∀ entries : List (Value × Value),
    jsonEntries single entries = entries.map fun e => (e.1.display, e.2.jsonWith single)
  | [] => by rw [jsonEntries, List.map_nil]
  | (k, v) :: rest => by rw [jsonEntries, jsonEntries_eq_map single rest, List.map_cons]

theorem tree_map (entries : List (Value × Value)) : (map entries).tree =
    .object (NameMap.ofList (entries.map fun e => (e.1.display, e.2.tree))) := by
  rw [tree, jsonWith, jsonEntries_eq_map, Json.sorted, Json.sortedValues_eq_map, List.map_map]
  rfl

/-- **No entry is lost iff no two keys are shown alike.** -/
theorem keeps_iff (entries : List (Value × Value)) :
    KeepsEntries entries ↔ (entries.map fun e => e.1.display).Nodup := by
  have hnames : (entries.map fun e => (e.1.display, e.2.tree)).map (·.1) = entries.map fun e => e.1.display := by
    rw [List.map_map]
    rfl
  constructor
  · rintro ⟨members, htree, hperm⟩
    rw [tree_map] at htree
    obtain rfl := Json.object.inj htree
    rw [← hnames]
    exact (hperm.map (·.1)).nodup_iff.1 (NameMap.names_nodup _)
  · intro hdistinct
    exact ⟨_, tree_map entries, NameMap.ofList_perm (hnames ▸ hdistinct)⟩

end Value

namespace ColumnType

open Value (same sameItems sameFields)

mutual

/-- A value of a separable type equals itself. -/
theorem same_self : ∀ t : ColumnType, separable t = true → ∀ v, t.holds v = true → same v v = true
  | simple t, h, v, hv => by
    rw [separable] at h
    rw [holds] at hv
    exact SimpleType.same_self (by rintro rfl; simp [SimpleType.separable] at h)
      (by rintro rfl; simp [SimpleType.separable] at h) hv
  | list t, h, .list items, hv => by
    have ht := same_self t
    rw [separable] at h
    rw [holds, List.all_eq_true] at hv
    rw [same]
    exact Value.sameItems_self fun w hw => ht h w (hv w hw)
  | set t, h, .set items, hv => by
    have ht := same_self t
    rw [separable] at h
    rw [holds, List.all_eq_true] at hv
    rw [same]
    exact Value.sameItems_self fun w hw => ht h w (hv w hw)
  | map k t, h, .map entries, hv => by
    have hk := same_self k
    have ht := same_self t
    rw [holds, List.all_eq_true] at hv
    rw [same]
    refine Value.sameEntries_self fun e he => ?_
    obtain ⟨hkey, hvalue⟩ := Bool.and_eq_true_iff.1 (hv e he)
    obtain ⟨hsepK, hsepT, -⟩ := separable_of_entry h (hv e he)
    exact ⟨hk hsepK e.1 hkey, ht hsepT e.2 hvalue⟩
  | tuple ts, h, .tuple first rest, hv => by
    have hitems := sameItems_self ts (by rwa [separable] at h) (first :: rest) (by rwa [holds] at hv)
    rw [sameItems] at hitems
    rwa [same]
  | udt keyspace name fs, h, .udt fields, hv => by
    rw [same]
    exact sameFields_self fs (by rwa [separable] at h) fields (by rwa [holds] at hv)

theorem sameItems_self : ∀ ts : List ColumnType, separableAll ts = true → ∀ vs, holdsAll ts vs = true →
    sameItems vs vs = true
  | [], _, vs, hv => by
    obtain rfl : vs = [] := by simpa [holdsAll] using hv
    rw [sameItems]
  | t :: ts, h, v :: vs, hv => by
    rw [separableAll] at h
    rw [holdsAll] at hv
    obtain ⟨ht, hts⟩ := Bool.and_eq_true_iff.1 h
    obtain ⟨hv, hvs⟩ := Bool.and_eq_true_iff.1 hv
    have hfirst := same_self t ht v
    rw [sameItems, sameItems_self ts hts vs hvs, Bool.and_true]
    cases v with
    | null => simp [same]
    | _ => exact hfirst (by simpa [Value.isNull] using hv)

theorem sameFields_self : ∀ fs : List (String × ColumnType), separableFields fs = true → ∀ fields,
    holdsFields fs fields = true → sameFields fields fields = true
  | [], _, fields, hv => by
    obtain rfl : fields = [] := by simpa [holdsFields] using hv
    rw [sameFields]
  | (name, t) :: fs, h, (other, v) :: fields, hv => by
    rw [separableFields] at h
    rw [holdsFields] at hv
    obtain ⟨ht, hfs⟩ := Bool.and_eq_true_iff.1 h
    obtain ⟨hv, hfields⟩ := Bool.and_eq_true_iff.1 hv
    have hrest := sameFields_self fs hfs fields hfields
    cases v with
    | none => simp [sameFields, hrest]
    | some v =>
      have hsame := same_self t ht v (Bool.and_eq_true_iff.1 hv).2
      simp [sameFields, hsame, hrest]

end

/-- Different values of the type are shown differently. -/
def legible : ColumnType → Bool
  | simple .ascii | simple .text => true
  | t => separable t

theorem legible_iff (t : ColumnType) : legible t = true ↔ IsText t ∨ separable t = true := by
  unfold IsText
  cases t with
  | simple t => cases t <;> simp [legible]
  | _ => simp [legible]

theorem IsText.display_ne {t : ColumnType} (h : IsText t) {x y : Value} (hx : t.holds x = true) (hy : t.holds y = true)
    (hne : same x y = false) : x.display ≠ y.display := by
  rcases h with rfl | rfl
  · cases x <;> simp [holds, SimpleType.holds] at hx
    cases y <;> simp [holds, SimpleType.holds] at hy
    simpa [same, Value.display] using hne
  · cases x <;> simp [holds, SimpleType.holds] at hx
    cases y <;> simp [holds, SimpleType.holds] at hy
    simpa [same, Value.display] using hne

theorem display_ne_of_legible {t : ColumnType} (h : legible t = true) {x y : Value} (hx : t.holds x = true)
    (hy : t.holds y = true) (hne : same x y = false) : x.display ≠ y.display := by
  rcases (legible_iff t).1 h with htext | hseparable
  · exact htext.display_ne hx hy hne
  · intro hshown
    obtain rfl := (reads t hseparable).eq_of_display hx hy hshown
    rw [same_self t hseparable x hx] at hne
    exact absurd hne.symm Bool.false_ne_true

/-- **Maps keep all their entries in JSON, whatever the values of the type they have as keys, iff the type is a text
type or its values can be told apart by their texts**: no text inside it, no floating-point number, no map from
addresses to addresses. -/
theorem keeps_iff_legible (t : ColumnType) : legible t = true ↔ ∀ entries : List (Value × Value),
    (∀ e ∈ entries, t.holds e.1 = true) → entries.Pairwise (fun e f => same e.1 f.1 = false) →
      Value.KeepsEntries entries := by
  constructor
  · intro h entries htyped hdifferent
    rw [Value.keeps_iff, List.Nodup, List.pairwise_map]
    exact hdifferent.imp_of_mem fun {e f} he hf hne => display_ne_of_legible h (htyped e he) (htyped f hf) hne
  · intro h
    by_cases hseparable : separable t = true
    · exact (legible_iff t).2 (.inr hseparable)
    · rcases collides t (by simpa using hseparable) with htext | ⟨x, y, hx, hy, hne, hshown⟩
      · exact (legible_iff t).2 (.inl htext)
      · have hkeeps := h [(x, .null), (y, .null)] (by simp [hx, hy]) (by simp [hne])
        rw [Value.keeps_iff] at hkeeps
        simp [hshown] at hkeeps

/-- Sets of pairs are told apart, also where one begins like another. -/
theorem sets_of_pairs_kept : legible (set (tuple [simple .int, simple .time])) = true ∧
    Value.KeepsEntries [(.set [.tuple (.int 1) [.time ⟨3600, 0⟩]], .text "a"),
      (.set [.tuple (.int 1) [.time ⟨3600, 500000000⟩]], .text "b"), (.set [.tuple (.int 1) [.null]], .text "c")] :=
  ⟨rfl, (keeps_iff_legible (set (tuple [simple .int, simple .time]))).1 rfl _ (by decide)
    (by simp [same, sameItems])⟩

/-- A list of one text with a comma in it and a list of two are different keys, of which the first is lost. -/
theorem lists_of_text_lose_entry :
    (∀ key ∈ [Value.list [.text "a,b"], .list [.text "a", .text "b"]], (list (simple .text)).holds key = true) ∧
      same (.list [.text "a,b"]) (.list [.text "a", .text "b"]) = false ∧
      (Value.map [(.list [.text "a,b"], .int 1), (.list [.text "a", .text "b"], .int 2)]).tree.text =
        "\x7b\"[a,b]\":2\x7d" ∧
      ¬Value.KeepsEntries [(.list [.text "a,b"], .int 1), (.list [.text "a", .text "b"], .int 2)] := by
  have hone : (Value.list [.text "a,b"]).display = "[a,b]" := by decide
  have htwo : (Value.list [.text "a", .text "b"]).display = "[a,b]" := by decide
  refine ⟨by decide, by simp [same, sameItems], ?_, ?_⟩
  · rw [Value.tree_map]
    decide
  · rw [Value.keeps_iff]
    simp [hone, htwo]

end ColumnType

end CqlDispatch
