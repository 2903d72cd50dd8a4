import CqlDispatch.RowMapping
/-!
# Names there and back

A column name that is joined and split again comes back iff it has no capital and a small letter right after every
underscore; a property name that is split and joined again comes back iff it has no underscore.  The recursion carries
the flag of `joinWords`, which stands for an underscore that has been dropped (`Rejoins`).
-/
namespace CqlDispatch
namespace Naming

/-- What holds of all characters with a number below 128 holds of an ASCII character. -/
theorem ascii_cases {P : Char → Prop} (h : ∀ n : Fin 128, P (Char.ofNat n)) {c : Char} (hc : c.toNat < 128) : P c := by
  have := h ⟨c.toNat, hc⟩
  simpa using this

theorem toUpper_toLower {c : Char} (ascii : c.toNat < 128) (small : c.isLower) :
    c.toUpper.isUpper ∧ c.toUpper.toLower = c :=
  ascii_cases (P := fun c => c.isLower → c.toUpper.isUpper ∧ c.toUpper.toLower = c) (by decide) ascii small

theorem toLower_toUpper {c : Char} (ascii : c.toNat < 128) (capital : c.isUpper) :
    c.toLower.toUpper = c ∧ c.toLower ≠ c ∧ c.toLower ≠ '_' :=
  ascii_cases (P := fun c => c.isUpper → c.toLower.toUpper = c ∧ c.toLower ≠ c ∧ c.toLower ≠ '_')
    (by decide) ascii capital

theorem toUpper_of_not_isLower {c : Char} (ascii : c.toNat < 128) (other : ¬ c.isLower) : c.toUpper = c :=
  ascii_cases (P := fun c => ¬ c.isLower → c.toUpper = c) (by decide) ascii other

theorem toUpper_ne_underscore {c : Char} (ascii : c.toNat < 128) (other : c ≠ '_') : c.toUpper ≠ '_' :=
  ascii_cases (P := fun c => c ≠ '_' → c.toUpper ≠ '_') (by decide) ascii other

theorem toLower_ascii {c : Char} (ascii : c.toNat < 128) : c.toLower.toNat < 128 :=
  ascii_cases (P := fun c => c.toLower.toNat < 128) (by decide) ascii

/-! ## One step of each function -/

theorem joinWords_underscore (raise : Bool) (cs : List Char) : joinWords raise ('_' :: cs) = joinWords true cs := by
  simp [joinWords]

theorem joinWords_raised {c : Char} (ascii : c.toNat < 128) (other : c ≠ '_') (cs : List Char) :
    joinWords true (c :: cs) = c.toUpper :: joinWords false cs := by
  simp [joinWords, other, upperForm_ascii ascii]

theorem joinWords_plain {c : Char} (other : c ≠ '_') (cs : List Char) :
    joinWords false (c :: cs) = c :: joinWords false cs := by
  simp [joinWords, other]

theorem splitWords_capital {c : Char} (ascii : c.toNat < 128) (capital : c.isUpper) (cs : List Char) :
    splitWords (c :: cs) = '_' :: c.toLower :: splitWords cs := by
  simp [splitWords, isUpperCase_ascii ascii, lowerForm_ascii ascii, capital]

theorem splitWords_plain {c : Char} (ascii : c.toNat < 128) (other : ¬ c.isUpper) (cs : List Char) :
    splitWords (c :: cs) = c :: splitWords cs := by
  simp [splitWords, isUpperCase_ascii ascii, other]

/-- Joining leaves no underscore. -/
theorem underscore_not_mem_joinWords : ∀ (raise : Bool) {cs : List Char}, (∀ c ∈ cs, c.toNat < 128) →
    '_' ∉ joinWords raise cs
  | _, [], _ => by simp [joinWords]
  | raise, c :: cs, ascii => by
    obtain ⟨hc, hcs⟩ := List.forall_mem_cons.1 ascii
    by_cases hunder : c = '_'
    · subst hunder
      rw [joinWords_underscore]
      exact underscore_not_mem_joinWords true hcs
    · have ih := underscore_not_mem_joinWords false hcs
      cases raise with
      | true =>
        rw [joinWords_raised hc hunder]
        simp [ih, (toUpper_ne_underscore hc hunder).symm]
      | false =>
        rw [joinWords_plain hunder]
        simp [ih, Ne.symm hunder]

/-! ## Columns -/

/-- Characters come back from joining and splitting, with an underscore dropped before them or not. -/
def Rejoins : Bool → List Char → Prop
  | raise, [] => raise = false
  | true, c :: cs => c.isLower ∧ Rejoins false cs
  | false, c :: cs => if c = '_' then Rejoins true cs else ¬ c.isUpper ∧ Rejoins false cs

/-- Splitting puts no underscore before another where none stands. -/
theorem splitWords_ne_underscores {cs : List Char} (ascii : ∀ c ∈ cs, c.toNat < 128) (hnone : '_' ∉ cs)
    (rest : List Char) : splitWords cs ≠ '_' :: '_' :: rest := by
  cases cs with
  | nil => simp [splitWords]
  | cons c cs =>
    have hc : c.toNat < 128 := ascii c List.mem_cons_self
    have hunder : c ≠ '_' := fun h => hnone (h ▸ List.mem_cons_self)
    by_cases hcapital : c.isUpper
    · rw [splitWords_capital hc hcapital]
      simp [(toLower_toUpper hc hcapital).2.2]
    · rw [splitWords_plain hc hcapital]
      simp [hunder]

theorem toUpper_ascii {c : Char} (ascii : c.toNat < 128) : c.toUpper.toNat < 128 :=
  ascii_cases (P := fun c => c.toUpper.toNat < 128) (by decide) ascii

theorem joinWords_ascii : ∀ (raise : Bool) {cs : List Char}, (∀ c ∈ cs, c.toNat < 128) →
    ∀ c ∈ joinWords raise cs, c.toNat < 128
  | _, [], _ => by simp [joinWords]
  | raise, c :: cs, ascii => by
    obtain ⟨hc, hcs⟩ := List.forall_mem_cons.1 ascii
    by_cases hunder : c = '_'
    · subst hunder
      rw [joinWords_underscore]
      exact joinWords_ascii true hcs
    · have ih := joinWords_ascii false hcs
      cases raise with
      | true =>
        rw [joinWords_raised hc hunder]
        exact List.forall_mem_cons.2 ⟨toUpper_ascii hc, ih⟩
      | false =>
        rw [joinWords_plain hunder]
        exact List.forall_mem_cons.2 ⟨hc, ih⟩

theorem splitWords_joinWords : ∀ {cs : List Char}, (∀ c ∈ cs, c.toNat < 128) →
    (splitWords (joinWords false cs) = cs ↔ Rejoins false cs) ∧
      (splitWords (joinWords true cs) = '_' :: cs ↔ Rejoins true cs)
  | [], _ => by simp [joinWords, splitWords, Rejoins]
  | c :: cs, ascii => by
    obtain ⟨hc, hcs⟩ := List.forall_mem_cons.1 ascii
    obtain ⟨ihFalse, ihTrue⟩ := splitWords_joinWords hcs
    by_cases hunder : c = '_'
    · subst hunder
      rw [joinWords_underscore, joinWords_underscore]
      have hnone := splitWords_ne_underscores (joinWords_ascii true hcs) (underscore_not_mem_joinWords true hcs) cs
      simp [Rejoins, ihTrue, hnone]
    · rw [joinWords_plain hunder, joinWords_raised hc hunder]
      by_cases hcapital : c.isUpper
      · -- a capital is lowered in both, with an underscore before it or where one was
        have hother : ¬ c.isLower := ascii_cases (P := fun c => c.isUpper → ¬ c.isLower) (by decide) hc hcapital
        rw [toUpper_of_not_isLower hc hother, splitWords_capital hc hcapital]
        simp [Rejoins, hunder, hcapital, hother, Ne.symm hunder, (toLower_toUpper hc hcapital).2.1]
      · rw [splitWords_plain hc hcapital]
        by_cases hsmall : c.isLower
        · obtain ⟨hup, hdown⟩ := toUpper_toLower hc hsmall
          rw [splitWords_capital (toUpper_ascii hc) hup, hdown]
          simp [Rejoins, hunder, hcapital, hsmall, ihFalse]
        · rw [toUpper_of_not_isLower hc hsmall, splitWords_plain hc hcapital]
          simp [Rejoins, hunder, hcapital, hsmall, ihFalse]

theorem rejoins_raised {cs : List Char} : Rejoins true cs ↔ (∃ c, cs[0]? = some c ∧ c.isLower) ∧ Rejoins false cs := by
  cases cs with
  | nil => simp [Rejoins]
  | cons c cs =>
    by_cases hsmall : c.isLower
    · have hunder : c ≠ '_' := by
        rintro rfl
        exact absurd hsmall (by decide)
      have hcapital : ¬ c.isUpper := by
        unfold Char.isLower at hsmall
        unfold Char.isUpper
        simp [UInt32.le_iff_toNat_le] at hsmall ⊢
        omega
      simp [Rejoins, hsmall, hunder, hcapital]
    · simp [Rejoins, hsmall]

/-- In places: no capital, and a small letter right after every underscore. -/
theorem rejoins_iff : ∀ {cs : List Char}, Rejoins false cs ↔
    (∀ c ∈ cs, ¬ c.isUpper) ∧ ∀ i : Nat, cs[i]? = some '_' → ∃ c, cs[i + 1]? = some c ∧ c.isLower
  | [] => by simp [Rejoins]
  | c :: cs => by
    have ih := @rejoins_iff cs
    rw [List.forall_mem_cons, ← Nat.and_forall_add_one]
    simp only [List.getElem?_cons_zero, List.getElem?_cons_succ, Option.some.injEq]
    by_cases hunder : c = '_'
    · subst hunder
      have hplain : '_'.isUpper = false := by decide
      simp only [Rejoins, if_true, rejoins_raised, ih, forall_const, hplain, Bool.false_eq_true, not_false_eq_true,
        true_and]
      exact and_left_comm
    · simp only [Rejoins, if_false, ih, hunder, false_implies, true_and, and_assoc]

/-! ## Properties -/

theorem joinWords_splitWords : ∀ {cs : List Char}, (∀ c ∈ cs, c.toNat < 128) → '_' ∉ cs →
    joinWords false (splitWords cs) = cs
  | [], _, _ => rfl
  | c :: cs, ascii, hnone => by
    obtain ⟨hc, hcs⟩ := List.forall_mem_cons.1 ascii
    rw [List.mem_cons, not_or] at hnone
    have ih := joinWords_splitWords hcs hnone.2
    by_cases hcapital : c.isUpper
    · obtain ⟨hup, -, hlow⟩ := toLower_toUpper hc hcapital
      rw [splitWords_capital hc hcapital, joinWords_underscore, joinWords_raised (toLower_ascii hc) hlow, hup, ih]
    · rw [splitWords_plain hc hcapital, joinWords_plain (Ne.symm hnone.1), ih]

theorem splitWords_ascii {cs : List Char} (ascii : ∀ c ∈ cs, c.toNat < 128) : ∀ c ∈ splitWords cs, c.toNat < 128 := by
  intro c hc
  obtain ⟨d, hd, hcd⟩ := List.mem_flatMap.1 hc
  have hascii := ascii d hd
  rw [isUpperCase_ascii hascii, lowerForm_ascii hascii] at hcd
  by_cases hcapital : d.isUpper
  · simp only [hcapital, if_true, List.mem_cons, List.not_mem_nil, or_false] at hcd
    rcases hcd with rfl | rfl
    · decide
    · exact toLower_ascii hascii
  · simp only [hcapital, Bool.false_eq_true, if_false, List.mem_singleton] at hcd
    exact hcd ▸ hascii

/-- **Names there and back.**  An ASCII column name is the column of its property iff it has no capital and a small
letter right after every underscore; an ASCII property name is the property of its column iff it has no underscore. -/
theorem names_return_iff (name : String) (ascii : ∀ c ∈ name.toList, c.toNat < 128) :
    (camelCase.columnOf (camelCase.propertyOf name) = name ↔
        (∀ c ∈ name.toList, ¬ c.isUpper) ∧
          ∀ i : Nat, name.toList[i]? = some '_' → ∃ c, name.toList[i + 1]? = some c ∧ c.isLower) ∧
      (camelCase.propertyOf (camelCase.columnOf name) = name ↔ '_' ∉ name.toList) := by
  have hofList : ∀ cs : List Char, String.ofList cs = name ↔ cs = name.toList := fun cs => by
    rw [← String.toList_inj, String.toList_ofList]
  unfold columnOf propertyOf
  simp only [String.toList_ofList, hofList]
  refine ⟨(splitWords_joinWords ascii).1.trans rejoins_iff, fun h => ?_, joinWords_splitWords ascii⟩
  rw [← h]
  exact underscore_not_mem_joinWords false (splitWords_ascii ascii)

/-- A column name with an underscore before a small letter comes back; as a property name it does not. -/
theorem user_id_returns :
    (∀ c ∈ "user_id".toList, c.toNat < 128) ∧ camelCase.columnOf (camelCase.propertyOf "user_id") = "user_id" ∧
      camelCase.propertyOf (camelCase.columnOf "user_id") ≠ "user_id" := by
  have ascii : ∀ c ∈ "user_id".toList, c.toNat < 128 := by simp
  have hrejoins : Rejoins false "user_id".toList := by simp [Rejoins]
  obtain ⟨column, property⟩ := names_return_iff "user_id" ascii
  exact ⟨ascii, column.2 (rejoins_iff.1 hrejoins), fun h => property.1 h (by simp)⟩

end Naming
end CqlDispatch
