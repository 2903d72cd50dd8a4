import CqlDispatch.Proofs.Value.Nesting
/-!
# Different values with one text

A type that is not separable is a text type, whose own values are told apart, or has two different values with the same
display form (`ColumnType.collides`).  Text can look like nothing, like null or like the marks around it, and a type
hands the collisions of its parts on.
-/
namespace CqlDispatch.ColumnType

open Value (same sameItems sameEntries sameFields entryText fieldText enclosed)

/-- Two different values of the type are shown alike. -/
def Collides (t : ColumnType) : Prop :=
  ∃ x y, t.holds x = true ∧ t.holds y = true ∧ same x y = false ∧ x.display = y.display

/-- Any text is a value of the type, and shown as it is. -/
def IsText (t : ColumnType) : Prop := t = simple .ascii ∨ t = simple .text

theorem IsText.exists_make {t : ColumnType} (h : IsText t) : ∃ make : String → Value,
    (∀ s, t.holds (make s) = true) ∧ (∀ s, (make s).display = s) ∧ ∀ s, same .null (make s) = false := by
  rcases h with rfl | rfl
  · exact ⟨.ascii, fun s => rfl, fun s => rfl, fun s => by simp [same]⟩
  · exact ⟨.text, fun s => rfl, fun s => rfl, fun s => by simp [same]⟩

/-! ## Scalars -/

/-- No number equals nothing. -/
theorem collides_float : Collides (simple .float) := by
  refine ⟨.float ⟨0x7fc00000⟩, .float ⟨0x7fc00000⟩, rfl, rfl, ?_, rfl⟩
  rw [same]
  decide

theorem collides_double : Collides (simple .double) := by
  refine ⟨.double ⟨0x7ff8000000000000⟩, .double ⟨0x7ff8000000000000⟩, rfl, rfl, ?_, rfl⟩
  rw [same]
  decide

theorem collides_simple {t : SimpleType} (h : t.separable = false) : IsText (simple t) ∨ Collides (simple t) := by
  cases t with
  | ascii => exact .inl (.inl rfl)
  | text => exact .inl (.inr rfl)
  | float => exact .inr collides_float
  | double => exact .inr collides_double
  | _ => exact absurd h.symm Bool.false_ne_true

/-! ## Collections -/

section

variable {k t : ColumnType}

/-- No element is shown like one element without text. -/
theorem exists_items (h : IsText t ∨ Collides t) : ∃ xs ys, xs.all t.holds = true ∧ ys.all t.holds = true ∧
    sameItems xs ys = false ∧ ∀ opening closing, enclosed opening closing (xs.map Value.display) =
      enclosed opening closing (ys.map Value.display) := by
  rcases h with h | ⟨x, y, hx, hy, hne, hshown⟩
  · obtain ⟨make, hmake, hshown, -⟩ := h.exists_make
    refine ⟨[make ""], [], by simp [hmake], rfl, by simp [sameItems], fun opening closing => ?_⟩
    simp [enclosed, hshown]
  · refine ⟨[x], [y], by simp [hx], by simp [hy], by simp [sameItems, hne], fun opening closing => ?_⟩
    simp [hshown]

theorem collides_list (h : IsText t ∨ Collides t) : Collides (list t) := by
  obtain ⟨xs, ys, hxs, hys, hne, hshown⟩ := exists_items h
  refine ⟨.list xs, .list ys, hxs, hys, by rwa [same], ?_⟩
  rw [Value.display_list, Value.display_list, hshown]

theorem collides_set (h : IsText t ∨ Collides t) : Collides (set t) := by
  obtain ⟨xs, ys, hxs, hys, hne, hshown⟩ := exists_items h
  refine ⟨.set xs, .set ys, hxs, hys, by rwa [same], ?_⟩
  rw [Value.display_set, Value.display_set, hshown]

/-- A key can look like an entry with the key left out, and the beginning of the next one. -/
theorem collides_key (h : IsText k ∨ Collides k) {v : Value} (hv : t.holds v = true) : Collides (map k t) := by
  rcases h with h | ⟨x, y, hx, hy, hne, hshown⟩
  · obtain ⟨make, hmake, hshown, -⟩ := h.exists_make
    refine ⟨.map [(make "", v), (make "", v)], .map [(make (":" ++ v.display ++ ","), v)], ?_, ?_, ?_, ?_⟩
    · simp [holds, hmake, hv]
    · simp [holds, hmake, hv]
    · simp [same, sameEntries]
    · refine String.toList_inj.1 ?_
      simp [Value.display_map, entryText, enclosed, hshown]
  · refine ⟨.map [(x, v)], .map [(y, v)], ?_, ?_, ?_, ?_⟩
    · simp [holds, hx, hv]
    · simp [holds, hy, hv]
    · simp [same, sameEntries, hne]
    · simp [Value.display_map, entryText, hshown]

/-- A value can look like the next entry. -/
theorem collides_value (h : IsText t ∨ Collides t) {u : Value} (hu : k.holds u = true) : Collides (map k t) := by
  rcases h with h | ⟨x, y, hx, hy, hne, hshown⟩
  · obtain ⟨make, hmake, hshown, -⟩ := h.exists_make
    refine ⟨.map [(u, make ""), (u, make "")], .map [(u, make ("," ++ u.display ++ ":"))], ?_, ?_, ?_, ?_⟩
    · simp [holds, hmake, hu]
    · simp [holds, hmake, hu]
    · simp [same, sameEntries]
    · refine String.toList_inj.1 ?_
      simp [Value.display_map, entryText, enclosed, hshown]
  · refine ⟨.map [(u, x)], .map [(u, y)], ?_, ?_, ?_, ?_⟩
    · simp [holds, hx, hu]
    · simp [holds, hy, hu]
    · simp [same, sameEntries, hne]
    · simp [Value.display_map, entryText, hshown]

/-- `1::2` and `3:4::5` with a colon between them are `1::2:3` and `4::5` with one. -/
theorem collides_addresses : Collides (map (simple .inet) (simple .inet)) := by
  refine ⟨.map [(.inet (.v6 0x00010000000000000000000000000002), .inet (.v6 0x00030004000000000000000000000005))],
    .map [(.inet (.v6 0x00010000000000000000000000020003), .inet (.v6 0x00040000000000000000000000000005))],
    rfl, rfl, by simp [same, sameEntries], ?_⟩
  have h₁ : (Value.inet (.v6 0x00010000000000000000000000000002)).display = "1::2" := by decide +kernel
  have h₂ : (Value.inet (.v6 0x00030004000000000000000000000005)).display = "3:4::5" := by decide +kernel
  have h₃ : (Value.inet (.v6 0x00010000000000000000000000020003)).display = "1::2:3" := by decide +kernel
  have h₄ : (Value.inet (.v6 0x00040000000000000000000000000005)).display = "4::5" := by decide +kernel
  rw [Value.display_map, Value.display_map, List.map_singleton, List.map_singleton, entryText, entryText, h₁, h₂, h₃,
    h₄]
  rfl

/-! ## Tuples and user-defined types -/

/-- Null is shown like the text of that name. -/
theorem exists_component (h : IsText t ∨ Collides t) : ∃ x y, (x.isNull || t.holds x) = true ∧
    (y.isNull || t.holds y) = true ∧ same x y = false ∧ x.display = y.display := by
  rcases h with h | ⟨x, y, hx, hy, hne, hshown⟩
  · obtain ⟨make, hmake, hshown, hnull⟩ := h.exists_make
    refine ⟨.null, make "null", rfl, by simp [hmake], hnull _, ?_⟩
    rw [hshown]
    rfl
  · exact ⟨x, y, by simp [hx], by simp [hy], hne, hshown⟩

/-- So is an unset field. -/
theorem exists_field (h : IsText t ∨ Collides t) (name : String) (rest : List (String × Option Value)) : ∃ v w,
    v.all t.holds = true ∧ w.all t.holds = true ∧ sameFields ((name, v) :: rest) ((name, w) :: rest) = false ∧
      fieldText (name, v) = fieldText (name, w) := by
  rcases h with h | ⟨x, y, hx, hy, hne, hshown⟩
  · obtain ⟨make, hmake, hshown, -⟩ := h.exists_make
    refine ⟨none, some (make "null"), rfl, hmake _, by simp [sameFields], ?_⟩
    rw [fieldText, fieldText, Value.ofOption, Value.ofOption, hshown]
    rfl
  · refine ⟨some x, some y, hx, hy, by simp [sameFields, hne], ?_⟩
    rw [fieldText, fieldText, Value.ofOption, Value.ofOption, hshown]

end

theorem collides_tuple {ts : List ColumnType} {xs ys : List Value} (hxs : holdsAll ts xs = true)
    (hys : holdsAll ts ys = true) (hne : sameItems xs ys = false) (hshown : xs.map Value.display = ys.map Value.display)
    (hts : ts ≠ []) : Collides (tuple ts) := by
  obtain ⟨t, ts, rfl⟩ := List.exists_cons_of_ne_nil hts
  cases xs with
  | nil => simp [holdsAll] at hxs
  | cons x xs =>
    cases ys with
    | nil => simp [holdsAll] at hys
    | cons y ys =>
      refine ⟨.tuple x xs, .tuple y ys, by rwa [holds], by rwa [holds], ?_, ?_⟩
      · rw [sameItems] at hne
        rwa [same]
      · rw [Value.display_tuple, Value.display_tuple, hshown]

mutual

/-- **A type whose values cannot be told apart by their texts is a text type or has a collision.** -/
theorem collides : ∀ t : ColumnType, separable t = false → IsText t ∨ Collides t
  | simple t, h => by
    rw [separable] at h
    exact collides_simple h
  | list t, h => by
    rw [separable] at h
    exact .inr (collides_list (collides t h))
  | set t, h => by
    rw [separable] at h
    exact .inr (collides_set (collides t h))
  | map k t, h => by
    have hkey := collides k
    have hvalue := collides t
    simp only [separable, Bool.or_eq_false_iff, Bool.not_eq_false', Bool.and_eq_false_iff] at h
    obtain ⟨⟨hk, ht⟩, h⟩ := h
    obtain ⟨u, hu⟩ := exists_holds hk
    obtain ⟨v, hv⟩ := exists_holds ht
    refine .inr ?_
    rcases h with (h | h) | h
    · exact collides_key (hkey h) hv
    · exact collides_value (hvalue h) hu
    · obtain ⟨hk, ht⟩ := Bool.and_eq_true_iff.1 h
      rw [isInet_iff.1 hk, isInet_iff.1 ht]
      exact collides_addresses
  | tuple ts, h => by
    rw [separable] at h
    obtain ⟨xs, ys, hxs, hys, hne, hshown⟩ := collidesAll ts h
    refine .inr (collides_tuple hxs hys hne hshown ?_)
    rintro rfl
    exact absurd h.symm Bool.false_ne_true
  | udt keyspace name fs, h => by
    rw [separable] at h
    obtain ⟨xs, ys, hxs, hys, hne, hshown⟩ := collidesFields fs h
    refine .inr ⟨.udt xs, .udt ys, by rwa [holds], by rwa [holds], by rwa [same], ?_⟩
    rw [Value.display_udt, Value.display_udt, hshown]
  | custom _, h => absurd h.symm Bool.false_ne_true

theorem collidesAll : ∀ ts : List ColumnType, separableAll ts = false → ∃ xs ys, holdsAll ts xs = true ∧
    holdsAll ts ys = true ∧ sameItems xs ys = false ∧ xs.map Value.display = ys.map Value.display
  | [], h => absurd h.symm Bool.false_ne_true
  | t :: ts, h => by
    have hfirst := collides t
    have hrest := collidesAll ts
    rw [separableAll, Bool.and_eq_false_iff] at h
    rcases h with h | h
    · obtain ⟨x, y, hx, hy, hne, hshown⟩ := exists_component (hfirst h)
      have hnulls := holdsAll_nulls ts
      refine ⟨x :: ts.map fun _ => .null, y :: ts.map fun _ => .null, ?_, ?_, ?_, ?_⟩
      · rw [holdsAll, hx, hnulls]
        rfl
      · rw [holdsAll, hy, hnulls]
        rfl
      · rw [sameItems, hne]
        rfl
      · rw [List.map_cons, List.map_cons, hshown]
    · obtain ⟨xs, ys, hxs, hys, hne, hshown⟩ := hrest h
      exact ⟨.null :: xs, .null :: ys, by simp [holdsAll, hxs, Value.isNull], by simp [holdsAll, hys, Value.isNull],
        by simp [sameItems, hne], by rw [List.map_cons, List.map_cons, hshown]⟩

theorem collidesFields : ∀ fs : List (String × ColumnType), separableFields fs = false → ∃ xs ys,
    holdsFields fs xs = true ∧ holdsFields fs ys = true ∧ sameFields xs ys = false ∧
      xs.map fieldText = ys.map fieldText
  | [], h => absurd h.symm Bool.false_ne_true
  | (name, t) :: fs, h => by
    have hfirst := collides t
    have hrest := collidesFields fs
    rw [separableFields, Bool.and_eq_false_iff] at h
    rcases h with h | h
    · obtain ⟨v, w, hv, hw, hne, hshown⟩ := exists_field (hfirst h) name (fs.map fun f => (f.1, none))
      have hunset := holdsFields_unset fs
      exact ⟨_, _, by simp [holdsFields, hv, hunset], by simp [holdsFields, hw, hunset], hne,
        by rw [List.map_cons, List.map_cons, hshown]⟩
    · obtain ⟨xs, ys, hxs, hys, hne, hshown⟩ := hrest h
      exact ⟨(name, none) :: xs, (name, none) :: ys, by simp [holdsFields, hxs], by simp [holdsFields, hys],
        by simp [sameFields, hne], by rw [List.map_cons, List.map_cons, hshown]⟩

end

end CqlDispatch.ColumnType
