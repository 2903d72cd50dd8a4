import CqlDispatch.Proofs.Text.Digits
import CqlDispatch.Value.Text
/-!
# Reading scalars back

Decimals, identifiers, durations and blobs are known from their texts.  A duration is read part by part: what follows a
part is no part of the same unit (`part_inj`).
-/
namespace CqlDispatch

/-! ## Decimals -/

namespace ScaledDecimal

/-- A decimal without its sign. -/
def digits (d : ScaledDecimal) : List Char :=
  if d.scale = 0 then Nat.toDigits 10 d.mantissa.natAbs
  else Nat.toDigits 10 (d.mantissa.natAbs / Nat.pow 10 d.scale) ++
    '.' :: paddedDigits 10 d.scale (d.mantissa.natAbs % Nat.pow 10 d.scale)

theorem toList_text (d : ScaledDecimal) :
    d.text.toList = (if d.mantissa < 0 then ['-'] else []) ++ d.digits := by
  unfold text digits
  by_cases hscale : d.scale = 0
  · by_cases hneg : d.mantissa < 0 <;> simp [hscale, hneg]
  · by_cases hneg : d.mantissa < 0 <;> simp [hscale, hneg]

theorem mem_digits {d : ScaledDecimal} {c : Char} (hc : c ∈ d.digits) : c.isDigit = true ∨ c = '.' := by
  unfold digits at hc
  split at hc
  · exact .inl (Nat.isDigit_of_mem_toDigits (by omega) (by omega) hc)
  · simp only [List.mem_append, List.mem_cons] at hc
    rcases hc with hc | rfl | hc
    · exact .inl (Nat.isDigit_of_mem_toDigits (by omega) (by omega) hc)
    · exact .inr rfl
    · exact .inl (isDigit_of_mem_paddedDigits hc)

theorem mem_text {d : ScaledDecimal} {c : Char} (hc : c ∈ d.text.toList) : c.isDigit = true ∨ c = '.' ∨ c = '-' := by
  rw [toList_text] at hc
  rcases List.mem_append.1 hc with hc | hc
  · split at hc
    · exact .inr (.inr (List.mem_singleton.1 hc))
    · exact absurd hc List.not_mem_nil
  · exact (mem_digits hc).imp_right .inl

theorem digits_ne_nil (d : ScaledDecimal) : d.digits ≠ [] := by
  unfold digits
  split <;> simp [Nat.toDigits_ne_nil]

theorem digits_inj {d e : ScaledDecimal} (h : d.digits = e.digits) :
    d.scale = e.scale ∧ d.mantissa.natAbs = e.mantissa.natAbs := by
  have hno : ∀ n : Nat, ∀ c ∈ Nat.toDigits 10 n, ¬(c = '.') := by
    rintro n c hc rfl
    exact absurd (Nat.isDigit_of_mem_toDigits (by omega) (by omega) hc) (by decide)
  have hpos : ∀ k : Nat, 0 < Nat.pow 10 k := fun k => Nat.pow_pos (by omega)
  have hlength : ∀ {k n : Nat}, k ≠ 0 → (paddedDigits 10 k (n % Nat.pow 10 k)).length = k := fun {k n} hk =>
    length_paddedDigits (by omega) (by omega) (Nat.mod_lt n (hpos k))
  unfold digits at h
  by_cases hd : d.scale = 0
  · by_cases he : e.scale = 0
    · rw [if_pos hd, if_pos he] at h
      exact ⟨hd.trans he.symm, toDigits_inj (by omega) (by omega) h⟩
    · rw [if_pos hd, if_neg he] at h
      exact absurd rfl (hno d.mantissa.natAbs '.' (by simp [h]))
  · by_cases he : e.scale = 0
    · rw [if_neg hd, if_pos he] at h
      exact absurd rfl (hno e.mantissa.natAbs '.' (by simp [← h]))
    · rw [if_neg hd, if_neg he] at h
      obtain ⟨hwhole, hrest⟩ := append_inj_of_stops (fun c => c = '.') (hno _) (hno _) (by simp) (by simp) h
      obtain ⟨-, hfraction⟩ := List.cons.inj hrest
      have hscale : d.scale = e.scale := by rw [← hlength hd, hfraction, hlength he]
      have hwhole := toDigits_inj (by omega) (by omega) hwhole
      have hfraction := paddedDigits_inj (by omega) (by omega) hfraction
      refine ⟨hscale, ?_⟩
      rw [hscale] at hwhole hfraction
      rw [← Nat.div_add_mod d.mantissa.natAbs (Nat.pow 10 e.scale), hwhole, hfraction, Nat.div_add_mod]

/-- **A decimal is known from its text**, with its scale. -/
theorem text_inj {d e : ScaledDecimal} (h : d.text = e.text) : d = e := by
  have hhead : ∀ d : ScaledDecimal, ∀ c ∈ d.digits.head?, c ≠ '-' := by
    rintro d c hc rfl
    rcases mem_digits (List.mem_of_mem_head? hc) with h | h <;> exact absurd h (by decide)
  have hlist := congrArg String.toList h
  rw [toList_text, toList_text] at hlist
  obtain ⟨hsign, hdigits⟩ := sign_inj (hhead d) (hhead e) hlist
  obtain ⟨hscale, hmantissa⟩ := digits_inj hdigits
  cases d
  cases e
  simp only [mk.injEq] at *
  omega

end ScaledDecimal

/-! ## Identifiers -/

namespace Uuid

/-- The digits of an identifier, group by group. -/
def groups (u : Uuid) : List (List Char) :=
  let digits := paddedDigits 16 32 u.bits.toNat
  [digits.take 8, (digits.drop 8).take 4, (digits.drop 12).take 4, (digits.drop 16).take 4, (digits.drop 20).take 12]

theorem toList_text (u : Uuid) : u.text.toList = ['-'].intercalate u.groups := by
  simp [text, groups]

theorem flatten_groups (u : Uuid) : u.groups.flatten = paddedDigits 16 32 u.bits.toNat := by
  have hlength : (paddedDigits 16 32 u.bits.toNat).length = 32 :=
    length_paddedDigits (by decide) (by decide) u.bits.isLt
  have hnext : ∀ (cs : List Char) (i n : Nat), (cs.drop i).take n ++ cs.drop (i + n) = cs.drop i := by
    intro cs i n
    rw [← List.drop_drop, List.take_append_drop]
  unfold groups
  generalize paddedDigits 16 32 u.bits.toNat = digits at *
  have hlast : (digits.drop 20).take 12 = digits.drop 20 := List.take_of_length_le (by rw [List.length_drop]; omega)
  simp only [List.flatten_cons, List.flatten_nil, List.append_nil, hlast]
  rw [hnext digits 16 4, hnext digits 12 4, hnext digits 8 4, List.take_append_drop]

theorem mem_groups {u : Uuid} {group : List Char} (hg : group ∈ u.groups) {c : Char} (hc : c ∈ group) :
    (hexValue? c).isSome = true := by
  have hdigit : c ∈ paddedDigits 16 32 u.bits.toNat := flatten_groups u ▸ List.mem_flatten_of_mem hg hc
  exact isSome_hexValue_of_mem_paddedDigits (by omega) (by omega) hdigit

theorem mem_text {u : Uuid} {c : Char} (hc : c ∈ u.text.toList) : (hexValue? c).isSome = true ∨ c = '-' := by
  rw [toList_text] at hc
  rcases mem_intercalate hc with hc | ⟨group, hg, hc⟩
  · exact .inr (List.mem_singleton.1 hc)
  · exact .inl (mem_groups hg hc)

theorem text_ne_nil (u : Uuid) : u.text.toList ≠ [] := by
  intro h
  rw [toList_text] at h
  simp [groups, List.intercalate_cons_cons] at h

/-- **An identifier is known from its text.** -/
theorem text_inj {u v : Uuid} (h : u.text = v.text) : u = v := by
  have hfree : ∀ w : Uuid, ∀ group ∈ w.groups, '-' ∉ group := by
    intro w group hg hc
    exact absurd (mem_groups hg hc) (by decide)
  have hsplit := congrArg (fun s : String => s.toList.splitOn '-') h
  simp only [toList_text] at hsplit
  rw [List.splitOn_intercalate _ (hfree u) (by simp [groups]),
    List.splitOn_intercalate _ (hfree v) (by simp [groups])] at hsplit
  have hdigits := congrArg List.flatten hsplit
  rw [flatten_groups, flatten_groups] at hdigits
  cases u
  cases v
  exact congrArg Uuid.mk (BitVec.eq_of_toNat_eq (paddedDigits_inj (by omega) (by omega) hdigits))

end Uuid

/-! ## Durations -/

namespace CalendarDuration

/-- A number and its unit, or nothing for zero. -/
def part (n : Int) (unit : List Char) : List Char := if n = 0 then [] else (intText n).toList ++ unit

/-- The nanoseconds of a duration, which stand there also when all is zero. -/
def nanosecondPart (d : CalendarDuration) : List Char :=
  if d.months.toInt = 0 ∧ d.days.toInt = 0 then (intText d.nanoseconds.toInt).toList ++ ['n', 's']
  else part d.nanoseconds.toInt ['n', 's']

theorem toList_text (d : CalendarDuration) :
    d.text.toList = part d.months.toInt ['m', 'o'] ++ (part d.days.toInt ['d'] ++ d.nanosecondPart) := by
  have hmonths : d.months = 0 ↔ d.months.toInt = 0 := by rw [← Int32.toInt_inj]; rfl
  have hdays : d.days = 0 ↔ d.days.toInt = 0 := by rw [← Int32.toInt_inj]; rfl
  have hnanos : d.nanoseconds = 0 ↔ d.nanoseconds.toInt = 0 := by rw [← Int64.toInt_inj]; rfl
  have hzero : intText 0 = "0" := by decide
  simp only [text, part, nanosecondPart, Bool.and_eq_true, beq_iff_eq, hmonths, hdays, hnanos]
  by_cases hm : d.months.toInt = 0
  · by_cases hd : d.days.toInt = 0
    · by_cases hn : d.nanoseconds.toInt = 0 <;> simp [hm, hd, hn, hzero]
    · by_cases hn : d.nanoseconds.toInt = 0 <;> simp [hm, hd, hn]
  · by_cases hd : d.days.toInt = 0
    · by_cases hn : d.nanoseconds.toInt = 0 <;> simp [hm, hd, hn]
    · by_cases hn : d.nanoseconds.toInt = 0 <;> simp [hm, hd, hn]

/-- A character that ends a number. -/
def IsUnit (c : Char) : Prop := ¬(c.isDigit = true ∨ c = '-')

instance (c : Char) : Decidable (IsUnit c) := inferInstanceAs (Decidable (¬_))

/-- What does not begin with a number and then this character. -/
def NoPart (unit : Char) (r : List Char) : Prop := ∀ n s, r ≠ (intText n).toList ++ unit :: s

section

variable {m n : Int} {c d : Char} {unit r s : List Char} (hc : IsUnit c)
include hc

theorem intText_append_inj (hd : IsUnit d) (h : (intText m).toList ++ c :: r = (intText n).toList ++ d :: s) :
    m = n ∧ c = d ∧ r = s := by
  obtain ⟨hnumber, hrest⟩ := append_inj_of_stops IsUnit (fun e he => not_not_intro (mem_intText he))
    (fun e he => not_not_intro (mem_intText he)) (by simpa using hc) (by simpa using hd) h
  exact ⟨intText_inj (String.toList_inj.1 hnumber), List.cons.inj hrest⟩

theorem part_inj (hr : NoPart c r) (hs : NoPart c s) (h : part m (c :: unit) ++ r = part n (c :: unit) ++ s) :
    m = n ∧ r = s := by
  unfold part at h
  by_cases hm : m = 0
  · by_cases hn : n = 0
    · exact ⟨hm.trans hn.symm, by simpa [hm, hn] using h⟩
    · rw [if_pos hm, if_neg hn, List.append_assoc, List.cons_append] at h
      exact absurd h (hr _ _)
  · by_cases hn : n = 0
    · rw [if_neg hm, if_pos hn, List.append_assoc, List.cons_append] at h
      exact absurd h.symm (hs _ _)
    · rw [if_neg hm, if_neg hn, List.append_assoc, List.append_assoc, List.cons_append, List.cons_append] at h
      obtain ⟨hnumber, -, hrest⟩ := intText_append_inj hc hc h
      exact ⟨hnumber, List.append_cancel_left hrest⟩

/-- A number of another unit is none of this one. -/
theorem noPart_intText (hd : IsUnit d) (hne : d ≠ c) : NoPart c ((intText n).toList ++ d :: r) := by
  intro k s h
  exact hne (intText_append_inj hd hc h).2.1

theorem noPart_part (hd : IsUnit d) (hne : d ≠ c) (hr : NoPart c r) : NoPart c (part n (d :: unit) ++ r) := by
  unfold part
  split
  · exact hr
  · rw [List.append_assoc, List.cons_append]
    exact noPart_intText hc hd hne

theorem noPart_nanosecondPart (hne : 'n' ≠ c) (e : CalendarDuration) : NoPart c e.nanosecondPart := by
  unfold nanosecondPart
  split
  · exact noPart_intText hc (by decide) hne
  · rw [← List.append_nil (part _ _)]
    exact noPart_part hc (by decide) hne (fun k s h => by simp at h)

end

/-- **A duration is known from its text.** -/
theorem text_inj {d e : CalendarDuration} (h : d.text = e.text) : d = e := by
  have hm : IsUnit 'm' := by decide
  have hd : IsUnit 'd' := by decide
  have hlist := congrArg String.toList h
  rw [toList_text, toList_text] at hlist
  obtain ⟨hmonths, hrest⟩ := part_inj hm
    (noPart_part hm hd (by decide) (noPart_nanosecondPart hm (by decide) d))
    (noPart_part hm hd (by decide) (noPart_nanosecondPart hm (by decide) e)) hlist
  obtain ⟨hdays, hrest⟩ := part_inj hd (noPart_nanosecondPart hd (by decide) d)
    (noPart_nanosecondPart hd (by decide) e) hrest
  have hnanos : d.nanoseconds.toInt = e.nanoseconds.toInt := by
    unfold nanosecondPart at hrest
    rw [hmonths, hdays] at hrest
    split at hrest
    · exact intText_inj (String.toList_inj.1 (List.append_cancel_right hrest))
    · have hnone : NoPart 'n' [] := fun k s h => by simp at h
      exact (part_inj (by decide) hnone hnone (by simpa using hrest)).1
  cases d
  cases e
  rw [mk.injEq]
  exact ⟨Int32.toInt_inj.1 hmonths, Int32.toInt_inj.1 hdays, Int64.toInt_inj.1 hnanos⟩

/-- A number and what follows it begin with a digit or a sign. -/
theorem starts_intText (n : Int) (r : List Char) :
    ∃ c cs, (intText n).toList ++ r = c :: cs ∧ (c.isDigit = true ∨ c = '-') := by
  have hne : (intText n).toList ≠ [] := by
    rw [toList_intText]
    simp [Nat.toDigits_ne_nil]
  obtain ⟨c, cs, hcs⟩ := List.exists_cons_of_ne_nil hne
  have hc : c ∈ (intText n).toList := by simp [hcs]
  exact ⟨c, cs ++ r, by rw [hcs, List.cons_append], mem_intText hc⟩

theorem starts_text (d : CalendarDuration) : ∃ c cs, d.text.toList = c :: cs ∧ (c.isDigit = true ∨ c = '-') := by
  rw [toList_text]
  unfold part nanosecondPart
  by_cases hm : d.months.toInt = 0
  · by_cases hd : d.days.toInt = 0
    · rw [if_pos hm, if_pos hd, if_pos ⟨hm, hd⟩]
      exact starts_intText _ _
    · rw [if_pos hm, if_neg hd, List.nil_append, List.append_assoc]
      exact starts_intText _ _
  · rw [if_neg hm, List.append_assoc]
    exact starts_intText _ _

theorem mem_part {n : Int} {unit : List Char} {c : Char} (hc : c ∈ part n unit) :
    (c.isDigit = true ∨ c = '-') ∨ c ∈ unit := by
  unfold part at hc
  split at hc
  · exact absurd hc List.not_mem_nil
  · exact (List.mem_append.1 hc).imp_left mem_intText

theorem mem_text {d : CalendarDuration} {c : Char} (hc : c ∈ d.text.toList) :
    (c.isDigit = true ∨ c = '-') ∨ c ∈ ['m', 'o', 'd', 'n', 's'] := by
  have hmonths : ∀ c ∈ ['m', 'o'], c ∈ ['m', 'o', 'd', 'n', 's'] := by simp
  have hdays : ∀ c ∈ ['d'], c ∈ ['m', 'o', 'd', 'n', 's'] := by simp
  have hnanos : ∀ c ∈ ['n', 's'], c ∈ ['m', 'o', 'd', 'n', 's'] := by simp
  rw [toList_text, List.mem_append, List.mem_append] at hc
  rcases hc with hc | hc | hc
  · exact (mem_part hc).imp_right (hmonths c)
  · exact (mem_part hc).imp_right (hdays c)
  · unfold nanosecondPart at hc
    split at hc
    · exact (List.mem_append.1 hc).imp mem_intText (hnanos c)
    · exact (mem_part hc).imp_right (hnanos c)

end CalendarDuration

/-! ## Blobs -/

theorem hexValue_hexDigit {n : Nat} (h : n < 16) : hexValue? (hexDigit n) = some n := hexValue_digitChar h

namespace Hex

theorem decodeChars_ofByte : ∀ bytes : List UInt8, decodeChars (bytes.flatMap ofByte) = some bytes
  | [] => rfl
  | b :: bytes => by
    have hb := b.toNat_lt
    have htail : decodeChars ((b :: bytes).flatMap ofByte) = (do
        let hi ← hexValue? (hexDigit (b.toNat / 16))
        let lo ← hexValue? (hexDigit (b.toNat % 16))
        let tail ← decodeChars (bytes.flatMap ofByte)
        pure (UInt8.ofNat (hi * 16 + lo) :: tail)) := rfl
    rw [htail, hexValue_hexDigit (by omega), hexValue_hexDigit (by omega), decodeChars_ofByte bytes]
    show some (UInt8.ofNat (b.toNat / 16 * 16 + b.toNat % 16) :: bytes) = some (b :: bytes)
    rw [Nat.div_add_mod', UInt8.ofNat_toNat]

/-- **Bytes are known from their digits.** -/
theorem encode_inj {a b : List UInt8} (h : encode a = encode b) : a = b := by
  have hdecode := congrArg (fun s : String => decodeChars s.toList) h
  simpa [encode, decodeChars_ofByte] using hdecode

theorem mem_encode {bytes : List UInt8} {c : Char} (hc : c ∈ (encode bytes).toList) : (hexValue? c).isSome = true := by
  unfold encode at hc
  rw [String.toList_ofList] at hc
  obtain ⟨b, -, hc⟩ := List.mem_flatMap.1 hc
  have hb := b.toNat_lt
  simp only [ofByte, List.mem_cons, List.not_mem_nil, or_false] at hc
  rcases hc with rfl | rfl
  · rw [hexValue_hexDigit (by omega)]
    rfl
  · rw [hexValue_hexDigit (by omega)]
    rfl

end Hex

end CqlDispatch
