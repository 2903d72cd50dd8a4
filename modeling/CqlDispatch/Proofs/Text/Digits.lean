import CqlDispatch.Text.Digits
/-!
# Reading digits back

A number is known from its digits, however many zeros stand in front of them (`paddedDigits_inj`), and digits are known
from a text that goes on behind them if it goes on with something that is no digit (`append_inj_of_stops`).
-/
namespace CqlDispatch

/-- Two texts that go on behind their first stop are the same up to there. -/
theorem append_inj_of_stops {α : Type} (stop : α → Prop) : ∀ {a b r s : List α}, (∀ c ∈ a, ¬ stop c) →
    (∀ c ∈ b, ¬ stop c) → (∀ c ∈ r.head?, stop c) → (∀ c ∈ s.head?, stop c) → a ++ r = b ++ s → a = b ∧ r = s
  | [], [], _, _, _, _, _, _, h => ⟨rfl, h⟩
  | [], c :: b, r, s, _, hb, hr, _, h => by
    have hc : c ∈ r.head? := by simp [show r = c :: (b ++ s) from h]
    exact absurd (hr c hc) (hb c List.mem_cons_self)
  | c :: a, [], r, s, ha, _, _, hs, h => by
    have hc : c ∈ s.head? := by simp [show s = c :: (a ++ r) from h.symm]
    exact absurd (hs c hc) (ha c List.mem_cons_self)
  | c :: a, d :: b, r, s, ha, hb, hr, hs, h => by
    obtain ⟨rfl, htail⟩ := List.cons.inj h
    obtain ⟨rfl, rfl⟩ := append_inj_of_stops stop (fun e he => ha e (List.mem_cons_of_mem _ he))
      (fun e he => hb e (List.mem_cons_of_mem _ he)) hr hs htail
    exact ⟨rfl, rfl⟩

theorem mem_intercalate {α : Type} {x : α} {sep : List α} : ∀ {parts : List (List α)},
    x ∈ sep.intercalate parts → x ∈ sep ∨ ∃ part ∈ parts, x ∈ part
  | [], h => by simp at h
  | [part], h => .inr ⟨part, List.mem_cons_self, by simpa using h⟩
  | part :: next :: rest, h => by
    rw [List.intercalate_cons_cons, List.mem_append, List.mem_append] at h
    rcases h with (h | h) | h
    · exact .inr ⟨part, List.mem_cons_self, h⟩
    · exact .inl h
    · rcases mem_intercalate h with h | ⟨p, hp, hx⟩
      · exact .inl h
      · exact .inr ⟨p, List.mem_cons_of_mem _ hp, hx⟩

/-! ## The value of digits -/

/-- The number that digits of a base stand for. -/
def valueOf (base : Nat) (cs : List Char) : Nat := cs.foldl (fun n c => base * n + (hexValue? c).getD 0) 0

theorem hexValue_digitChar {d : Nat} (h : d < 16) : hexValue? (Nat.digitChar d) = some d := by
  revert h
  revert d
  decide

theorem valueOf_append_singleton (base : Nat) (cs : List Char) (c : Char) :
    valueOf base (cs ++ [c]) = base * valueOf base cs + (hexValue? c).getD 0 := by
  simp [valueOf]

theorem valueOf_toDigits {base : Nat} (hb : 1 < base) (hb' : base ≤ 16) (n : Nat) :
    valueOf base (Nat.toDigits base n) = n := by
  induction n using Nat.strongRecOn with
  | ind n ih =>
    rw [Nat.toDigits_eq_if hb]
    split
    · rename_i hn
      simp [valueOf, hexValue_digitChar (Nat.lt_of_lt_of_le hn hb')]
    · rename_i hn
      have hlt : n / base < n := Nat.div_lt_self (by omega) hb
      have hmod : n % base < base := Nat.mod_lt _ (by omega)
      rw [valueOf_append_singleton, ih _ hlt, hexValue_digitChar (Nat.lt_of_lt_of_le hmod hb')]
      exact Nat.div_add_mod n base

theorem toDigits_inj {base m n : Nat} (hb : 1 < base) (hb' : base ≤ 16)
    (h : Nat.toDigits base m = Nat.toDigits base n) : m = n := by
  rw [← valueOf_toDigits hb hb' m, h, valueOf_toDigits hb hb']

/-- The digits of a number behind as many zeros as are missing. -/
def paddedDigits (base width n : Nat) : List Char :=
  List.replicate (width - (Nat.toDigits base n).length) '0' ++ Nat.toDigits base n

@[simp] theorem toList_zeroPadded (width n : Nat) : (zeroPadded width n).toList = paddedDigits 10 width n := by
  simp [zeroPadded, paddedDigits]

@[simp] theorem Hex.toList_padded (width n : Nat) : (Hex.padded width n).toList = paddedDigits 16 width n := by
  simp [Hex.padded, paddedDigits]

theorem valueOf_zeros (base : Nat) : ∀ k, valueOf base (List.replicate k '0') = 0
  | 0 => rfl
  | k + 1 => by
    rw [List.replicate_succ', valueOf_append_singleton, valueOf_zeros base k]
    rfl

theorem valueOf_paddedDigits {base : Nat} (hb : 1 < base) (hb' : base ≤ 16) (width n : Nat) :
    valueOf base (paddedDigits base width n) = n := by
  unfold paddedDigits
  rw [valueOf, List.foldl_append, ← valueOf, valueOf_zeros, ← valueOf, valueOf_toDigits hb hb']

/-- **A number is known from its digits and the zeros in front of them.** -/
theorem paddedDigits_inj {base width width' m n : Nat} (hb : 1 < base) (hb' : base ≤ 16)
    (h : paddedDigits base width m = paddedDigits base width' n) : m = n := by
  rw [← valueOf_paddedDigits hb hb' width m, h, valueOf_paddedDigits hb hb']

theorem length_paddedDigits {base width n : Nat} (hb : 1 < base) (hw : 0 < width) (h : n < Nat.pow base width) :
    (paddedDigits base width n).length = width := by
  have hle : (Nat.toDigits base n).length ≤ width := (Nat.length_toDigits_le_iff hb hw).2 h
  unfold paddedDigits
  rw [List.length_append, List.length_replicate]
  omega

/-! ## The characters -/

theorem isSome_hexValue_of_isDigit {c : Char} (h : c.isDigit = true) : (hexValue? c).isSome = true := by
  have hrange : 48 ≤ c.toNat ∧ c.toNat ≤ 57 := by simpa [Char.isDigit, UInt32.le_iff_toNat_le] using h
  simp [hexValue?, hrange]

theorem isSome_hexValue_of_mem_toDigits {base : Nat} (hb : 1 < base) (hb' : base ≤ 16) {n : Nat} {c : Char}
    (hc : c ∈ Nat.toDigits base n) : (hexValue? c).isSome = true := by
  induction n using Nat.strongRecOn with
  | ind n ih =>
    rw [Nat.toDigits_eq_if hb] at hc
    split at hc
    · rename_i hn
      rw [List.mem_singleton.1 hc, hexValue_digitChar (Nat.lt_of_lt_of_le hn hb')]
      rfl
    · rename_i hn
      rcases List.mem_append.1 hc with hc | hc
      · exact ih _ (Nat.div_lt_self (by omega) hb) hc
      · rw [List.mem_singleton.1 hc, hexValue_digitChar (Nat.lt_of_lt_of_le (Nat.mod_lt _ (by omega)) hb')]
        rfl

theorem isSome_hexValue_of_mem_paddedDigits {base : Nat} (hb : 1 < base) (hb' : base ≤ 16) {width n : Nat} {c : Char}
    (hc : c ∈ paddedDigits base width n) : (hexValue? c).isSome = true := by
  rcases List.mem_append.1 hc with hc | hc
  · rw [List.eq_of_mem_replicate hc]
    rfl
  · exact isSome_hexValue_of_mem_toDigits hb hb' hc

theorem isDigit_of_mem_paddedDigits {width n : Nat} {c : Char} (hc : c ∈ paddedDigits 10 width n) :
    c.isDigit = true := by
  rcases List.mem_append.1 hc with hc | hc
  · rw [List.eq_of_mem_replicate hc]
    rfl
  · exact Nat.isDigit_of_mem_toDigits (by omega) (by omega) hc

/-! ## Whole numbers -/

theorem toList_intText (n : Int) :
    (intText n).toList = (if n < 0 then ['-'] else []) ++ Nat.toDigits 10 n.natAbs := by
  unfold intText
  split <;> simp

/-- A digit or the minus sign. -/
theorem mem_intText {n : Int} {c : Char} (hc : c ∈ (intText n).toList) : c.isDigit = true ∨ c = '-' := by
  rw [toList_intText] at hc
  rcases List.mem_append.1 hc with hc | hc
  · refine .inr ?_
    split at hc
    · exact List.mem_singleton.1 hc
    · exact absurd hc List.not_mem_nil
  · exact .inl (Nat.isDigit_of_mem_toDigits (by omega) (by omega) hc)

/-- Signs and what follows them are known from the whole, if what follows begins with a digit. -/
theorem sign_inj {p q : Prop} [Decidable p] [Decidable q] {a b : List Char} (ha : ∀ c ∈ a.head?, c ≠ '-')
    (hb : ∀ c ∈ b.head?, c ≠ '-') (h : (if p then ['-'] else []) ++ a = (if q then ['-'] else []) ++ b) :
    (p ↔ q) ∧ a = b := by
  by_cases hp : p
  · by_cases hq : q
    · simpa [hp, hq] using h
    · rw [if_pos hp, if_neg hq] at h
      have hm : '-' ∈ b.head? := by simp [show b = '-' :: a from h.symm]
      exact absurd rfl (hb _ hm)
  · by_cases hq : q
    · rw [if_neg hp, if_pos hq] at h
      have hm : '-' ∈ a.head? := by simp [show a = '-' :: b from h]
      exact absurd rfl (ha _ hm)
    · simpa [hp, hq] using h

theorem ne_minus_of_mem_head_toDigits {n : Nat} : ∀ c ∈ (Nat.toDigits 10 n).head?, c ≠ '-' := by
  rintro c hc rfl
  exact absurd (Nat.isDigit_of_mem_toDigits (by omega) (by omega) (List.mem_of_mem_head? hc)) (by decide)

/-- **A whole number is known from its text.** -/
theorem intText_inj {m n : Int} (h : intText m = intText n) : m = n := by
  have hlist := congrArg String.toList h
  rw [toList_intText, toList_intText] at hlist
  obtain ⟨hsign, hdigits⟩ := sign_inj ne_minus_of_mem_head_toDigits ne_minus_of_mem_head_toDigits hlist
  have habs := toDigits_inj (by omega) (by omega) hdigits
  omega

end CqlDispatch
