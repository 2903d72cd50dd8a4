/-!
# Entries of a list by key

Maps of the client are lists of pairs.  An entry is replaced by putting the new one in front of the
others, and taken out by leaving its key out.
-/
namespace CqlDispatch

variable {α β : Type} [DecidableEq α]

theorem lookup_cons_if (a b : α) (v : β) (l : List (α × β)) :
    ((a, v) :: l).lookup b = if b = a then some v else l.lookup b := by
  rw [List.lookup_cons]
  by_cases hb : b = a
  · subst hb
    simp
  · rw [beq_false_of_ne hb, if_neg hb]

/-- Where no key stands twice, every entry is found under its key. -/
theorem lookup_eq_some_iff_mem {a : α} {v : β} {l : List (α × β)} (distinct : l.Pairwise (·.1 ≠ ·.1)) :
    l.lookup a = some v ↔ (a, v) ∈ l := by
  rw [List.lookup_eq_some_iff]
  constructor
  · rintro ⟨l₁, l₂, hs, -⟩
    rw [hs]
    exact List.mem_append_right _ List.mem_cons_self
  · intro hm
    obtain ⟨l₁, l₂, hs⟩ := List.append_of_mem hm
    refine ⟨l₁, l₂, hs, fun m hml => ?_⟩
    rw [hs] at distinct
    have hne : m.1 ≠ a := (List.pairwise_append.1 distinct).2.2 m hml (a, v) List.mem_cons_self
    simpa using hne.symm

theorem lookup_filter_ne (a b : α) : ∀ l : List (α × β),
    (l.filter (·.1 != a)).lookup b = if b = a then none else l.lookup b
  | [] => by simp
  | (d, v) :: l => by
    rw [List.filter_cons]
    by_cases hd : d = a
    · subst hd
      rw [if_neg (by simp), lookup_filter_ne d b l, lookup_cons_if]
      by_cases hb : b = d
      · rw [if_pos hb, if_pos hb]
      · rw [if_neg hb, if_neg hb, if_neg hb]
    · rw [if_pos (by simpa using hd), lookup_cons_if, lookup_cons_if, lookup_filter_ne a b l]
      by_cases hb : b = a
      · subst hb
        rw [if_neg (Ne.symm hd), if_pos rfl, if_pos rfl]
      · rw [if_neg hb, if_neg hb]

theorem lookup_replaced (a b : α) (v : β) (l : List (α × β)) :
    ((a, v) :: l.filter (·.1 != a)).lookup b = if b = a then some v else l.lookup b := by
  rw [lookup_cons_if, lookup_filter_ne]
  by_cases hb : b = a
  · rw [if_pos hb, if_pos hb]
  · rw [if_neg hb, if_neg hb, if_neg hb]

end CqlDispatch
