import CqlDispatch.Proofs.Text.Digits
import CqlDispatch.Time.Calendar
/-!
# Reading dates, times and instants back

The calendar gives different days different dates (`Date.ofDays_inj`), and a date, a time of day or an instant of whole
milliseconds is known from its text: two digits a part but for the year, which `append_inj` cuts off from behind.
-/
namespace CqlDispatch

/-! ## The calendar -/

/-- The years of an era that are over before a day of it; the last day of the era, a leap day, stands apart. -/
theorem split_ofEra {e y : Nat} (h : e < 146097) (hy : y = (e - e / 1460 + e / 36524 - e / 146096) / 365) :
    365 * y + y / 4 - y / 100 ≤ e ∧ e - (365 * y + y / 4 - y / 100) ≤ 365 ∧ y < 400 := by
  by_cases hlast : e = 146096
  · subst hlast
    omega
  have hg : e / 146096 = 0 := by omega
  -- one century at a time, which makes the leap days a linear matter
  obtain hf | hf | hf | hf : e / 36524 = 0 ∨ e / 36524 = 1 ∨ e / 36524 = 2 ∨ e / 36524 = 3 := by omega
  all_goals
    rw [hg, hf] at hy
    have hc : y / 100 = e / 36524 := by omega
    rw [hc, hf]
    omega

namespace Date

/-- The day `n` has this date: its year and month counted from March, and its day of that year. -/
structure Parts (n : Int) (d : Date) (era : Int) (yearOfEra ofYear fromMarch : Nat) : Prop where
  days : n + 719468 = era * 146097 + (365 * yearOfEra + yearOfEra / 4 - yearOfEra / 100 + ofYear : Nat)
  yearOfEra_lt : yearOfEra < 400
  ofYear_le : ofYear ≤ 365
  fromMarch_eq : fromMarch = (5 * ofYear + 2) / 153
  year : d.year = era * 400 + yearOfEra + (if d.month ≤ 2 then 1 else 0)
  month : d.month = if fromMarch < 10 then fromMarch + 3 else fromMarch - 9
  day : d.day = ofYear - (153 * fromMarch + 2) / 5 + 1

theorem parts_ofDays (n : Int) : ∃ era yearOfEra ofYear fromMarch,
    Parts n (ofDays n) era yearOfEra ofYear fromMarch := by
  have hmod : 0 ≤ Int.fmod (n + 719468) 146097 ∧ Int.fmod (n + 719468) 146097 < 146097 :=
    ⟨Int.fmod_nonneg_of_pos _ (by omega), Int.fmod_lt_of_pos _ (by omega)⟩
  have hdiv := Int.mul_fdiv_add_fmod (n + 719468) 146097
  obtain ⟨e, he⟩ := Int.eq_ofNat_of_zero_le hmod.1
  obtain ⟨hle, hyear, hlt⟩ := split_ofEra (e := e) (by omega) rfl
  refine ⟨Int.fdiv (n + 719468) 146097, _, _, _, ?_, hlt, hyear, rfl, ?_, ?_, ?_⟩
  · rw [Nat.add_sub_cancel' hle]
    omega
  all_goals simp [ofDays, he]

theorem ofDays_range (n : Int) : (ofDays n).month < 100 ∧ (ofDays n).day < 100 := by
  obtain ⟨era, yearOfEra, ofYear, fromMarch, h⟩ := parts_ofDays n
  have hle := h.ofYear_le
  have hmarch := h.fromMarch_eq
  rw [h.month, h.day]
  constructor
  · split <;> omega
  · omega

/-- **Different days have different dates.** -/
theorem ofDays_inj {m n : Int} (h : ofDays m = ofDays n) : m = n := by
  obtain ⟨era, yearOfEra, ofYear, fromMarch, hm⟩ := parts_ofDays m
  obtain ⟨era', yearOfEra', ofYear', fromMarch', hn⟩ := parts_ofDays n
  have hmonth := hm.month
  have hday := hm.day
  have hyear := hm.year
  rw [h, hn.month] at hmonth
  rw [h, hn.day] at hday
  rw [h, hn.year] at hyear
  have hle := hm.ofYear_le
  have hle' := hn.ofYear_le
  have hmarch := hm.fromMarch_eq
  have hmarch' := hn.fromMarch_eq
  have hsame : fromMarch = fromMarch' := by split at hmonth <;> split at hmonth <;> omega
  subst hsame
  have hofYear : ofYear = ofYear' := by omega
  subst hofYear
  have hlt := hm.yearOfEra_lt
  have hlt' := hn.yearOfEra_lt
  obtain ⟨rfl, rfl⟩ : era = era' ∧ yearOfEra = yearOfEra' := by omega
  have hdays := hm.days
  have hdays' := hn.days
  omega

end Date

/-! ## Dates -/

theorem toList_yearText (y : Int) : (yearText y).toList =
    if 0 ≤ y ∧ y ≤ 9999 then paddedDigits 10 4 y.toNat
    else (if y < 0 then '-' else '+') :: paddedDigits 10 4 y.natAbs := by
  unfold yearText
  split
  · simp
  · split <;> simp

theorem mem_yearText {y : Int} {c : Char} (hc : c ∈ (yearText y).toList) : c.isDigit = true ∨ c = '-' ∨ c = '+' := by
  rw [toList_yearText] at hc
  split at hc
  · exact .inl (isDigit_of_mem_paddedDigits hc)
  · rcases List.mem_cons.1 hc with rfl | hc
    · split <;> simp
    · exact .inl (isDigit_of_mem_paddedDigits hc)

/-- Digits do not begin with a sign. -/
theorem paddedDigits_ne_cons {width n : Nat} {c : Char} {cs : List Char} (hc : c.isDigit = false) :
    paddedDigits 10 width n ≠ c :: cs := by
  intro h
  have hdigit := isDigit_of_mem_paddedDigits (show c ∈ paddedDigits 10 width n by simp [h])
  simp [hc] at hdigit

theorem yearText_inj {x y : Int} (h : yearText x = yearText y) : x = y := by
  have hlist := congrArg String.toList h
  rw [toList_yearText, toList_yearText] at hlist
  have hsign : ∀ z : Int, (if z < 0 then '-' else '+').isDigit = false := by
    intro z
    split <;> rfl
  by_cases hx : 0 ≤ x ∧ x ≤ 9999
  · by_cases hy : 0 ≤ y ∧ y ≤ 9999
    · rw [if_pos hx, if_pos hy] at hlist
      have := paddedDigits_inj (by omega) (by omega) hlist
      omega
    · rw [if_pos hx, if_neg hy] at hlist
      exact absurd hlist (paddedDigits_ne_cons (hsign y))
  · by_cases hy : 0 ≤ y ∧ y ≤ 9999
    · rw [if_neg hx, if_pos hy] at hlist
      exact absurd hlist.symm (paddedDigits_ne_cons (hsign x))
    · rw [if_neg hx, if_neg hy] at hlist
      obtain ⟨hs, hlist⟩ := List.cons.inj hlist
      have habs := paddedDigits_inj (by omega) (by omega) hlist
      split at hs <;> split at hs <;> first | omega | exact absurd hs (by decide)

theorem length_two {n : Nat} (h : n < 100) : (paddedDigits 10 2 n).length = 2 :=
  length_paddedDigits (by omega) (by omega) h

namespace Date

theorem toList_text (d : Date) : d.text.toList =
    (yearText d.year).toList ++ ('-' :: paddedDigits 10 2 d.month ++ '-' :: paddedDigits 10 2 d.day) := by
  simp [text]

theorem mem_text {d : Date} {c : Char} (hc : c ∈ d.text.toList) : c.isDigit = true ∨ c = '-' ∨ c = '+' := by
  rw [toList_text] at hc
  simp only [List.mem_append, List.mem_cons] at hc
  rcases hc with hc | (rfl | hc) | rfl | hc
  · exact mem_yearText hc
  · simp
  · exact .inl (isDigit_of_mem_paddedDigits hc)
  · simp
  · exact .inl (isDigit_of_mem_paddedDigits hc)

theorem text_inj {d e : Date} (hd : d.month < 100 ∧ d.day < 100) (he : e.month < 100 ∧ e.day < 100)
    (h : d.text = e.text) : d = e := by
  have hlist := congrArg String.toList h
  rw [toList_text, toList_text] at hlist
  obtain ⟨hyear, hrest⟩ := List.append_inj' hlist
    (by simp [length_two hd.1, length_two hd.2, length_two he.1, length_two he.2])
  obtain ⟨hmonth, hday⟩ := List.append_inj hrest (by simp [length_two hd.1, length_two he.1])
  have hyear := yearText_inj (String.toList_inj.1 hyear)
  have hmonth := paddedDigits_inj (by omega) (by omega) (List.cons.inj hmonth).2
  have hday := paddedDigits_inj (by omega) (by omega) (List.cons.inj hday).2
  cases d
  cases e
  simp_all

end Date

/-! ## Times of day -/

/-- A second of the day and nanoseconds after it; behind the last second of a minute a leap second may follow. -/
structure IsClock (seconds nanos : Nat) : Prop where
  second : seconds < 86400
  nano : nanos < 2000000000
  leap : 1000000000 ≤ nanos → seconds % 60 = 59

instance (seconds nanos : Nat) : Decidable (IsClock seconds nanos) :=
  decidable_of_iff (seconds < 86400 ∧ nanos < 2000000000 ∧ (1000000000 ≤ nanos → seconds % 60 = 59))
    ⟨fun ⟨hs, hn, hl⟩ => ⟨hs, hn, hl⟩, fun ⟨hs, hn, hl⟩ => ⟨hs, hn, hl⟩⟩

theorem toList_clockText (s n : Nat) : (clockText s n).toList = paddedDigits 10 2 (s / 3600) ++
    (':' :: paddedDigits 10 2 (s / 60 % 60) ++ ':' :: paddedDigits 10 2 (s % 60 + n / 1000000000)) := by
  simp [clockText]

theorem mem_clockText {s n : Nat} {c : Char} (hc : c ∈ (clockText s n).toList) : c.isDigit = true ∨ c = ':' := by
  rw [toList_clockText] at hc
  simp only [List.mem_append, List.mem_cons] at hc
  rcases hc with hc | (rfl | hc) | rfl | hc
  · exact .inl (isDigit_of_mem_paddedDigits hc)
  · simp
  · exact .inl (isDigit_of_mem_paddedDigits hc)
  · simp
  · exact .inl (isDigit_of_mem_paddedDigits hc)

theorem count_colon_eq_zero {cs : List Char} (h : ∀ c ∈ cs, c ≠ ':') : cs.count ':' = 0 :=
  List.count_eq_zero.2 fun hc => h _ hc rfl

theorem count_colon_paddedDigits (width n : Nat) : (paddedDigits 10 width n).count ':' = 0 := by
  refine count_colon_eq_zero ?_
  rintro c hc rfl
  exact absurd (isDigit_of_mem_paddedDigits hc) (by decide)

theorem count_colon_clockText (s n : Nat) : (clockText s n).toList.count ':' = 2 := by
  simp [toList_clockText, count_colon_paddedDigits]

section

variable {s n s' n' : Nat}

theorem length_clockText (h : IsClock s n) : (clockText s n).toList.length = 8 := by
  have hs := h.second
  have hn := h.nano
  rw [toList_clockText]
  simp [length_two (show s / 3600 < 100 by omega), length_two (show s / 60 % 60 < 100 by omega),
    length_two (show s % 60 + n / 1000000000 < 100 by omega)]

theorem clockText_inj (h : IsClock s n) (h' : IsClock s' n') (heq : (clockText s n).toList = (clockText s' n').toList) :
    s = s' ∧ n / 1000000000 = n' / 1000000000 := by
  have hs := h.second
  have hn := h.nano
  have hl := h.leap
  have hs' := h'.second
  have hn' := h'.nano
  have hl' := h'.leap
  rw [toList_clockText, toList_clockText] at heq
  obtain ⟨hhour, hrest⟩ := List.append_inj heq
    (by rw [length_two (by omega), length_two (by omega)])
  obtain ⟨hminute, hsecond⟩ := List.append_inj hrest
    (by rw [List.length_cons, List.length_cons, length_two (by omega), length_two (by omega)])
  have hhour := paddedDigits_inj (by omega) (by omega) hhour
  have hminute := paddedDigits_inj (by omega) (by omega) (List.cons.inj hminute).2
  have hsecond := paddedDigits_inj (by omega) (by omega) (List.cons.inj hsecond).2
  omega

end

/-- The fraction of a second as a time of day shows it. -/
def fractionText (n : Nat) : String :=
  if n == 0 then ""
  else if n % 1000000 == 0 then "." ++ zeroPadded 3 (n / 1000000)
  else if n % 1000 == 0 then "." ++ zeroPadded 6 (n / 1000)
  else "." ++ zeroPadded 9 n

theorem mem_fractionText {n : Nat} {c : Char} (hc : c ∈ (fractionText n).toList) : c.isDigit = true ∨ c = '.' := by
  have hpoint : ∀ {w m : Nat}, c ∈ ("." ++ zeroPadded w m).toList → c.isDigit = true ∨ c = '.' := by
    intro w m hc
    simp only [String.toList_append, toList_zeroPadded] at hc
    rcases List.mem_append.1 hc with hc | hc
    · exact .inr (List.mem_singleton.1 hc)
    · exact .inl (isDigit_of_mem_paddedDigits hc)
  unfold fractionText at hc
  split at hc
  · simp at hc
  · split at hc
    · exact hpoint hc
    · split at hc <;> exact hpoint hc

/-- The fractions of a second have no, three, six or nine digits, and their number says what they count. -/
theorem toList_fractionText {n : Nat} (h : n < 1000000000) : (n = 0 ∧ (fractionText n).toList = []) ∨
    ∃ w k unit, (w, unit) ∈ [(3, 1000000), (6, 1000), (9, 1)] ∧ n = k * unit ∧
      (fractionText n).toList = '.' :: paddedDigits 10 w k ∧ (paddedDigits 10 w k).length = w := by
  unfold fractionText
  by_cases hzero : n = 0
  · exact .inl ⟨hzero, by simp [hzero]⟩
  refine .inr ?_
  rw [if_neg (by simpa using hzero)]
  by_cases hmilli : n % 1000000 = 0
  · refine ⟨3, n / 1000000, 1000000, by simp, by omega, by simp [hmilli], ?_⟩
    exact length_paddedDigits (by omega) (by omega) (show n / 1000000 < 1000 by omega)
  · by_cases hmicro : n % 1000 = 0
    · refine ⟨6, n / 1000, 1000, by simp, by omega, by simp [hmilli, hmicro], ?_⟩
      exact length_paddedDigits (by omega) (by omega) (show n / 1000 < 1000000 by omega)
    · refine ⟨9, n, 1, by simp, by omega, by simp [hmilli, hmicro], ?_⟩
      exact length_paddedDigits (by omega) (by omega) h

theorem fractionText_inj {m n : Nat} (hm : m < 1000000000) (hn : n < 1000000000)
    (h : (fractionText m).toList = (fractionText n).toList) : m = n := by
  rcases toList_fractionText hm with ⟨hm, hnone⟩ | ⟨w, k, unit, hunit, hm, hsome, hw⟩
  · rcases toList_fractionText hn with ⟨hn, -⟩ | ⟨w', k', unit', -, -, hsome', -⟩
    · rw [hm, hn]
    · simp [hnone, hsome'] at h
  · rcases toList_fractionText hn with ⟨-, hnone'⟩ | ⟨w', k', unit', hunit', hn, hsome', hw'⟩
    · simp [hsome, hnone'] at h
    · rw [hsome, hsome'] at h
      obtain ⟨-, hdigits⟩ := List.cons.inj h
      have hlength : w = w' := by rw [← hw, hdigits, hw']
      have hk := paddedDigits_inj (by omega) (by omega) hdigits
      simp only [List.mem_cons, Prod.mk.injEq, List.not_mem_nil, or_false] at hunit hunit'
      have hunits : unit = unit' := by omega
      rw [hm, hn, hk, hunits]

theorem TimeOfDay.toList_text (t : TimeOfDay) : t.text.toList =
    (clockText t.seconds t.nanos).toList ++ (fractionText (t.nanos % 1000000000)).toList := String.toList_append

theorem TimeOfDay.mem_text {t : TimeOfDay} {c : Char} (hc : c ∈ t.text.toList) :
    c.isDigit = true ∨ c = ':' ∨ c = '.' := by
  rw [toList_text] at hc
  rcases List.mem_append.1 hc with hc | hc
  · exact (mem_clockText hc).imp_right .inl
  · exact (mem_fractionText hc).imp_right .inr

theorem TimeOfDay.count_colon_text (t : TimeOfDay) : t.text.toList.count ':' = 2 := by
  rw [toList_text, List.count_append, count_colon_clockText, count_colon_eq_zero]
  rintro c hc rfl
  rcases mem_fractionText hc with h | h <;> exact absurd h (by decide)

/-- **A time of day is known from its text**, also where the text goes on with something that is no digit or point. -/
theorem TimeOfDay.text_inj {t u : TimeOfDay} {r s : List Char} (ht : IsClock t.seconds t.nanos)
    (hu : IsClock u.seconds u.nanos) (hr : ∀ c ∈ r.head?, ¬(c.isDigit = true ∨ c = '.'))
    (hs : ∀ c ∈ s.head?, ¬(c.isDigit = true ∨ c = '.')) (h : t.text.toList ++ r = u.text.toList ++ s) :
    t = u ∧ r = s := by
  rw [toList_text, toList_text, List.append_assoc, List.append_assoc] at h
  obtain ⟨hclock, hrest⟩ := List.append_inj h (by rw [length_clockText ht, length_clockText hu])
  obtain ⟨hseconds, hleap⟩ := clockText_inj ht hu hclock
  obtain ⟨hfraction, hrest⟩ := append_inj_of_stops (fun c => ¬(c.isDigit = true ∨ c = '.'))
    (fun c hc => not_not_intro (mem_fractionText hc)) (fun c hc => not_not_intro (mem_fractionText hc)) hr hs hrest
  have hnanos := fractionText_inj (Nat.mod_lt _ (by omega)) (Nat.mod_lt _ (by omega)) hfraction
  refine ⟨?_, hrest⟩
  cases t
  cases u
  simp only [TimeOfDay.mk.injEq] at *
  omega

/-! ## Instants -/

/-- An instant of whole milliseconds. -/
structure Instant.IsMilli (i : Instant) : Prop where
  clock : IsClock (Int.fmod i.seconds 86400).toNat i.nanos
  milli : i.nanos % 1000000 = 0

instance (i : Instant) : Decidable i.IsMilli :=
  decidable_of_iff (IsClock (Int.fmod i.seconds 86400).toNat i.nanos ∧ i.nanos % 1000000 = 0)
    ⟨fun ⟨hc, hm⟩ => ⟨hc, hm⟩, fun ⟨hc, hm⟩ => ⟨hc, hm⟩⟩

namespace Instant

/-- The time of day in an instant's text. -/
def clockChars (i : Instant) : List Char := (clockText (Int.fmod i.seconds 86400).toNat i.nanos).toList ++
  ('.' :: paddedDigits 10 3 (i.nanos % 1000000000 / 1000000) ++ ['Z'])

theorem toList_text (i : Instant) :
    i.text.toList = (Date.ofDays (Int.fdiv i.seconds 86400)).text.toList ++ 'T' :: i.clockChars := by
  simp [text, clockChars]

theorem mem_text {i : Instant} {c : Char} (hc : c ∈ i.text.toList) :
    c.isDigit = true ∨ c ∈ ['-', '+', 'T', ':', '.', 'Z'] := by
  rw [toList_text, clockChars] at hc
  simp only [List.mem_append, List.mem_cons] at hc
  rcases hc with hc | rfl | hc | (rfl | hc) | hc
  · rcases Date.mem_text hc with h | rfl | rfl
    · exact .inl h
    · simp
    · simp
  · simp
  · rcases mem_clockText hc with h | rfl
    · exact .inl h
    · simp
  · simp
  · exact .inl (isDigit_of_mem_paddedDigits hc)
  · simp at hc
    simp [hc]

theorem count_colon_text (i : Instant) : i.text.toList.count ':' = 2 := by
  have hdate : (Date.ofDays (Int.fdiv i.seconds 86400)).text.toList.count ':' = 0 := by
    refine count_colon_eq_zero ?_
    rintro c hc rfl
    rcases Date.mem_text hc with h | h | h <;> exact absurd h (by decide)
  simp [toList_text, clockChars, hdate, count_colon_clockText, count_colon_paddedDigits]

theorem length_milli (n : Nat) : (paddedDigits 10 3 (n % 1000000000 / 1000000)).length = 3 :=
  length_paddedDigits (by omega) (by omega) (show n % 1000000000 / 1000000 < 1000 by omega)

section

variable {i j : Instant} (hi : i.IsMilli) (hj : j.IsMilli)
include hi

theorem length_clockChars : i.clockChars.length = 13 := by
  simp [clockChars, length_clockText hi.clock, length_milli]

include hj

theorem clockChars_inj (h : i.clockChars = j.clockChars) :
    Int.fmod i.seconds 86400 = Int.fmod j.seconds 86400 ∧ i.nanos = j.nanos := by
  obtain ⟨hclock, hrest⟩ := List.append_inj h (by rw [length_clockText hi.clock, length_clockText hj.clock])
  obtain ⟨hseconds, hleap⟩ := clockText_inj hi.clock hj.clock hclock
  have hmillis := paddedDigits_inj (by omega) (by omega) (List.cons.inj (List.append_inj_left' hrest rfl)).2
  have hwhole := hi.milli
  have hwhole' := hj.milli
  have hmod := Int.fmod_nonneg_of_pos i.seconds (show (0 : Int) < 86400 by omega)
  have hmod' := Int.fmod_nonneg_of_pos j.seconds (show (0 : Int) < 86400 by omega)
  constructor <;> omega

/-- **An instant of whole milliseconds is known from its text**, whatever follows. -/
theorem text_inj {r s : List Char} (h : i.text.toList ++ r = j.text.toList ++ s) : i = j ∧ r = s := by
  have hdate : ∀ {d : Date}, ∀ c ∈ d.text.toList, ¬(c = 'T') := by
    rintro d c hc rfl
    rcases Date.mem_text hc with h | h | h <;> exact absurd h (by decide)
  rw [toList_text, toList_text, List.append_assoc, List.append_assoc] at h
  obtain ⟨hdays, hrest⟩ := append_inj_of_stops (fun c => c = 'T') hdate hdate (by simp) (by simp) h
  obtain ⟨hclock, hrest⟩ := List.append_inj (List.cons.inj hrest).2
    (by rw [length_clockChars hi, length_clockChars hj])
  have hdays := Date.ofDays_inj
    (Date.text_inj (Date.ofDays_range _) (Date.ofDays_range _) (String.toList_inj.1 hdays))
  obtain ⟨hseconds, hnanos⟩ := clockChars_inj hi hj hclock
  have hdiv := Int.mul_fdiv_add_fmod i.seconds 86400
  have hdiv' := Int.mul_fdiv_add_fmod j.seconds 86400
  have hwhole : i.seconds = j.seconds := by rw [← hdiv, ← hdiv', hdays, hseconds]
  refine ⟨?_, hrest⟩
  cases i
  cases j
  simp_all

end

end Instant

end CqlDispatch
