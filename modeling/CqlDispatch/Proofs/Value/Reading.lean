import CqlDispatch.Proofs.Net.Ip
import CqlDispatch.Proofs.Value.Held
import CqlDispatch.Proofs.Value.Scalars
/-!
# Reading values back

A value is known from its display form among the values of its type (`ColumnType.reads`), provided the type is
`separable`: no text and no floating-point number in it, and no map from addresses to addresses.  As parts of a longer
text are not quoted, what is shown of each type is that a value and what follows it are known together, where a comma, a
closing mark or, behind a key, a colon follows.  Addresses have colons themselves: as keys they are told from their
values by the number of colons in the values (`Reads.colons`).
-/
namespace CqlDispatch

/-! ## What may follow -/

/-- The characters a part of a value ends in front of. -/
def closings : List Char := [',', ']', ')', '\x7d']

/-- A text that goes on behind a part: with nothing, a comma or a closing mark, and behind a key with a colon. -/
def Ends (key : Bool) (r : List Char) : Prop := ∀ c ∈ r.head?, c ∈ closings ∨ key = true ∧ c = ':'

theorem Ends.weaken {key : Bool} {r : List Char} (h : Ends false r) : Ends key r := by
  intro c hc
  rcases h c hc with hc | ⟨hfalse, -⟩
  · exact .inl hc
  · exact absurd hfalse Bool.false_ne_true

theorem ends_colon (r : List Char) : Ends true (':' :: r) := by
  intro c hc
  exact .inr ⟨rfl, by simpa using hc.symm⟩

theorem ends_cons {c : Char} (hc : c ∈ closings) (r : List Char) : Ends false (c :: r) := by
  intro d hd
  rw [List.head?_cons, Option.mem_some_iff] at hd
  exact .inl (hd ▸ hc)

/-- The marks around and between the parts of a value. -/
def marks : List Char := ['[', '(', '\x7b'] ++ closings

/-- The colons in front of the first mark. -/
def colonsAhead (cs : List Char) : Nat := (cs.takeWhile fun c => !marks.contains c).count ':'

/-- A character that is no mark and no colon. -/
def Plain (c : Char) : Prop := c ∉ marks ∧ c ≠ ':'

instance (c : Char) : Decidable (Plain c) := inferInstanceAs (Decidable (_ ∧ _))

theorem not_mem_marks_of_hexValue {c : Char} (h : (hexValue? c).isSome = true) : c ∉ marks := by
  intro hc
  have hnone : ∀ d ∈ marks, (hexValue? d).isSome = false := by simp [marks, closings, hexValue?]
  rw [hnone c hc] at h
  exact Bool.false_ne_true h

theorem plain_of_hexValue {c : Char} (h : (hexValue? c).isSome = true) : Plain c := by
  refine ⟨not_mem_marks_of_hexValue h, ?_⟩
  rintro rfl
  exact absurd h (by decide)

/-! ## Values that can be read -/

/-- The values of a kind can be read off a text.  Those of a kind that may be keys can be read in front of a colon; in
front of an address there is the same number of colons, whatever the value. -/
structure Reads (key : Bool) (p : Value → Bool) : Prop where
  starts : ∀ {x}, p x = true → ∃ c cs, x.display.toList = c :: cs ∧ c ≠ 'n' ∧ c ∉ closings
  inj : ∀ {x y r s}, p x = true → p y = true → Ends key r → Ends key s →
    x.display.toList ++ r = y.display.toList ++ s → x = y ∧ r = s
  colons : key = true → ∃ n, ∀ {x r}, p x = true → Ends false r → colonsAhead (x.display.toList ++ r) = n

theorem mem_marks_of_mem_closings {c : Char} (h : c ∈ closings) : c ∈ marks := List.mem_append_right _ h

theorem colonsAhead_append {a r : List Char} (ha : ∀ c ∈ a, c ∉ marks) (hr : Ends false r) :
    colonsAhead (a ++ r) = a.count ':' := by
  have hend : r.takeWhile (fun c => !marks.contains c) = [] := by
    cases r with
    | nil => rfl
    | cons c r =>
      rcases hr c rfl with hc | ⟨hfalse, -⟩
      · simp [mem_marks_of_mem_closings hc]
      · exact absurd hfalse Bool.false_ne_true
  unfold colonsAhead
  rw [List.takeWhile_append_of_pos (by simpa using ha), hend, List.append_nil]

/-! ## Scalars -/

/-- A digit of either base, a sign or a point. -/
def Numeric (c : Char) : Prop := (hexValue? c).isSome = true ∨ c = '-' ∨ c = '+' ∨ c = '.'

theorem Numeric.of_isDigit {c : Char} (h : c.isDigit = true) : Numeric c := .inl (isSome_hexValue_of_isDigit h)

theorem Numeric.plain {c : Char} (h : Numeric c) : Plain c := by
  rcases h with h | rfl | rfl | rfl
  · exact plain_of_hexValue h
  all_goals decide

theorem Numeric.ne_n {c : Char} (h : Numeric c) : c ≠ 'n' := by
  rintro rfl
  rcases h with h | h | h | h <;> exact absurd h (by decide)

theorem Numeric.unmarked {c : Char} (h : Numeric c) : c ∉ marks ∧ c ≠ 'n' := ⟨h.plain.1, h.ne_n⟩

theorem exists_start {cs : List Char} (hne : cs ≠ []) (h : ∀ c ∈ cs, c ∉ marks ∧ c ≠ 'n') :
    ∃ c rest, cs = c :: rest ∧ c ≠ 'n' := by
  obtain ⟨c, rest, rfl⟩ := List.exists_cons_of_ne_nil hne
  exact ⟨c, rest, rfl, (h c List.mem_cons_self).2⟩

/-- The values of a kind are made of valid contents, and these texts are shown for them. -/
structure Shown {α : Type} (p : Value → Bool) (valid : α → Prop) (make : α → Value) (text : α → String) : Prop where
  held : ∀ x, p x = true → ∃ a, valid a ∧ x = make a
  shown : ∀ a, (make a).display = text a

namespace Shown

variable {α : Type} {p : Value → Bool} {valid : α → Prop} {make : α → Value} {text : α → String}
  (h : Shown p valid make text)
include h

theorem reads_of_unmarked {key : Bool} (starts : ∀ a, valid a → ∃ c cs, (text a).toList = c :: cs ∧ c ≠ 'n')
    (unmarked : ∀ a, valid a → ∀ c ∈ (text a).toList, c ∉ marks)
    (inj : ∀ {a b r s}, valid a → valid b → Ends key r → Ends key s →
      (text a).toList ++ r = (text b).toList ++ s → a = b ∧ r = s)
    (colons : key = true → ∃ n, ∀ a, valid a → (text a).toList.count ':' = n) : Reads key p where
  starts := by
    intro x hx
    obtain ⟨a, ha, rfl⟩ := h.held x hx
    obtain ⟨c, cs, hcs, hn⟩ := starts a ha
    rw [h.shown]
    refine ⟨c, cs, hcs, hn, fun hc => ?_⟩
    exact unmarked a ha c (by simp [hcs]) (mem_marks_of_mem_closings hc)
  inj := by
    intro x y r s hx hy hr hs heq
    obtain ⟨a, ha, rfl⟩ := h.held x hx
    obtain ⟨b, hb, rfl⟩ := h.held y hy
    rw [h.shown, h.shown] at heq
    obtain ⟨rfl, rfl⟩ := inj ha hb hr hs heq
    exact ⟨rfl, rfl⟩
  colons := by
    intro hkey
    obtain ⟨n, hcount⟩ := colons hkey
    refine ⟨n, fun {x r} hx hr => ?_⟩
    obtain ⟨a, ha, rfl⟩ := h.held x hx
    rw [h.shown, colonsAhead_append (unmarked a ha) hr, hcount a ha]

theorem reads_of_plain (starts : ∀ a, valid a → ∃ c cs, (text a).toList = c :: cs ∧ c ≠ 'n')
    (plain : ∀ a, valid a → ∀ c ∈ (text a).toList, Plain c)
    (inj : ∀ a b, valid a → valid b → text a = text b → a = b) : Reads true p := by
  have hfree : ∀ a, valid a → ∀ c ∈ (text a).toList, ¬(c ∈ closings ∨ true = true ∧ c = ':') := by
    rintro a ha c hc (hmark | ⟨-, rfl⟩)
    · exact (plain a ha c hc).1 (mem_marks_of_mem_closings hmark)
    · exact (plain a ha _ hc).2 rfl
  refine h.reads_of_unmarked starts (fun a ha c hc => (plain a ha c hc).1) (fun {a b r s} ha hb hr hs heq => ?_)
    fun _ => ⟨0, fun a ha => ?_⟩
  · obtain ⟨htext, hrest⟩ := append_inj_of_stops _ (hfree a ha) (hfree b hb) hr hs heq
    exact ⟨inj a b ha hb (String.toList_inj.1 htext), hrest⟩
  · exact List.count_eq_zero.2 fun hc => (plain a ha _ hc).2 rfl

theorem reads_of_numeric (ne_nil : ∀ a, (text a).toList ≠ []) (numeric : ∀ a, ∀ c ∈ (text a).toList, Numeric c)
    (inj : ∀ a b, valid a → valid b → text a = text b → a = b) : Reads true p := by
  refine h.reads_of_plain (fun a _ => ?_) (fun a _ c hc => (numeric a c hc).plain) inj
  obtain ⟨c, cs, hcs⟩ := List.exists_cons_of_ne_nil (ne_nil a)
  exact ⟨c, cs, hcs, (numeric a c (by simp [hcs])).ne_n⟩

end Shown

theorem reads_of_wholeNumber {α : Type} {p : Value → Bool} {make : α → Value} {number : α → Int}
    (h : Shown p (fun _ => True) make fun a => intText (number a)) (inj : ∀ a b, number a = number b → a = b) :
    Reads true p := by
  refine h.reads_of_numeric (fun a => ?_) (fun a c hc => ?_) (fun a b _ _ h => inj a b (intText_inj h))
  · simp [toList_intText, Nat.toDigits_ne_nil]
  · rcases mem_intText hc with h | h
    · exact .of_isDigit h
    · exact .inr (.inl h)

theorem reads_of_uuid {p : Value → Bool} {make : Uuid → Value} (h : Shown p (fun _ => True) make Uuid.text) :
    Reads true p :=
  h.reads_of_numeric Uuid.text_ne_nil (fun _ _ hc => (Uuid.mem_text hc).imp_right .inl) fun _ _ _ _ => Uuid.text_inj

namespace SimpleType

theorem reads_boolean : Reads true boolean.holds := by
  have hshown : Shown boolean.holds (fun _ => True) Value.boolean fun b => if b then "true" else "false" :=
    ⟨fun | .boolean b, _ => ⟨b, trivial, rfl⟩, fun _ => rfl⟩
  refine hshown.reads_of_plain (fun b _ => ?_) (fun b _ => ?_) (by decide)
  · cases b <;> exact ⟨_, _, rfl, by decide⟩
  · cases b <;> simp [Plain, marks, closings]

theorem reads_tinyint : Reads true tinyint.holds :=
  reads_of_wholeNumber ⟨fun | .tinyint n, _ => ⟨n, trivial, rfl⟩, fun _ => rfl⟩
    fun _ _ => Int8.toInt_inj.1

theorem reads_smallint : Reads true smallint.holds :=
  reads_of_wholeNumber ⟨fun | .smallint n, _ => ⟨n, trivial, rfl⟩, fun _ => rfl⟩
    fun _ _ => Int16.toInt_inj.1

theorem reads_int : Reads true int.holds :=
  reads_of_wholeNumber ⟨fun | .int n, _ => ⟨n, trivial, rfl⟩, fun _ => rfl⟩
    fun _ _ => Int32.toInt_inj.1

theorem reads_bigint : Reads true bigint.holds :=
  reads_of_wholeNumber ⟨fun | .bigint n, _ => ⟨n, trivial, rfl⟩, fun _ => rfl⟩
    fun _ _ => Int64.toInt_inj.1

theorem reads_counter : Reads true counter.holds :=
  reads_of_wholeNumber ⟨fun | .counter n, _ => ⟨n, trivial, rfl⟩, fun _ => rfl⟩
    fun _ _ => Int64.toInt_inj.1

theorem reads_varint : Reads true varint.holds :=
  reads_of_wholeNumber ⟨fun | .varint n, _ => ⟨n, trivial, rfl⟩, fun _ => rfl⟩ fun _ _ => id

theorem reads_decimal : Reads true decimal.holds := by
  have hshown : Shown decimal.holds (fun _ => True) Value.decimal ScaledDecimal.text :=
    ⟨fun | .decimal d, _ => ⟨d, trivial, rfl⟩, fun _ => rfl⟩
  refine hshown.reads_of_numeric (fun d => ?_) (fun d c hc => ?_) (fun _ _ _ _ => ScaledDecimal.text_inj)
  · simp [ScaledDecimal.toList_text, ScaledDecimal.digits_ne_nil]
  · rcases ScaledDecimal.mem_text hc with h | h | h
    · exact .of_isDigit h
    · exact .inr (.inr (.inr h))
    · exact .inr (.inl h)

theorem reads_uuid : Reads true uuid.holds :=
  reads_of_uuid ⟨fun | .uuid u, _ => ⟨u, trivial, rfl⟩, fun _ => rfl⟩

theorem reads_timeuuid : Reads true timeuuid.holds :=
  reads_of_uuid ⟨fun | .timeuuid u, _ => ⟨u, trivial, rfl⟩, fun _ => rfl⟩

theorem numeric_date {d : Date} {c : Char} (hc : c ∈ d.text.toList) : Numeric c := by
  rcases Date.mem_text hc with h | h | h
  · exact .of_isDigit h
  · exact .inr (.inl h)
  · exact .inr (.inr (.inl h))

theorem reads_date : Reads true date.holds := by
  have hshown : Shown date.holds (fun d : Date => d.month ≤ 12 ∧ d.day ≤ 31) Value.date Date.text :=
    ⟨fun | .date d, h => ⟨d, by simpa [holds] using h, rfl⟩, fun _ => rfl⟩
  refine hshown.reads_of_numeric (fun d => ?_) (fun d c hc => numeric_date hc)
    (fun d e hd he => Date.text_inj (by omega) (by omega))
  simp [Date.toList_text]

theorem reads_duration : Reads true duration.holds := by
  have hshown : Shown duration.holds (fun _ => True) Value.duration CalendarDuration.text :=
    ⟨fun | .duration d, _ => ⟨d, trivial, rfl⟩, fun _ => rfl⟩
  refine hshown.reads_of_plain (fun d _ => ?_) (fun d _ c hc => ?_) (fun _ _ _ _ => CalendarDuration.text_inj)
  · obtain ⟨c, cs, hcs, hc | hc⟩ := CalendarDuration.starts_text d
    · exact ⟨c, cs, hcs, (Numeric.of_isDigit hc).ne_n⟩
    · exact ⟨c, cs, hcs, by simp [hc]⟩
  · have hunits : ∀ c ∈ ['m', 'o', 'd', 'n', 's'], Plain c := by simp [Plain, marks, closings]
    rcases CalendarDuration.mem_text hc with (hc | rfl) | hc
    · exact (Numeric.of_isDigit hc).plain
    · decide
    · exact hunits c hc

theorem reads_blob : Reads true blob.holds := by
  have hshown : Shown blob.holds (fun _ => True) Value.blob fun bytes => "0x" ++ Hex.encode bytes :=
    ⟨fun | .blob bytes, _ => ⟨bytes, trivial, rfl⟩, fun _ => rfl⟩
  refine hshown.reads_of_plain (fun bytes _ => ?_) (fun bytes _ c hc => ?_) (fun a b _ _ h => ?_)
  · exact ⟨'0', 'x' :: (Hex.encode bytes).toList, by simp, by decide⟩
  · rw [String.toList_append] at hc
    rcases List.mem_append.1 hc with hc | hc
    · simp at hc
      rcases hc with rfl | rfl <;> decide
    · exact plain_of_hexValue (Hex.mem_encode hc)
  · have hlist := congrArg String.toList h
    rw [String.toList_append, String.toList_append] at hlist
    exact Hex.encode_inj (String.toList_inj.1 (List.append_cancel_left hlist))

theorem reads_time : Reads true time.holds := by
  have hshown : Shown time.holds (fun t : TimeOfDay => IsClock t.seconds t.nanos) Value.time TimeOfDay.text :=
    ⟨fun | .time t, h => ⟨t, by simpa [holds] using h, rfl⟩, fun _ => rfl⟩
  have hmarks : ∀ (t : TimeOfDay), ∀ c ∈ t.text.toList, c ∉ marks ∧ c ≠ 'n' := by
    intro t c hc
    rcases TimeOfDay.mem_text hc with h | rfl | rfl
    · exact (Numeric.of_isDigit h).unmarked
    · decide
    · decide
  have hends : ∀ {r}, Ends true r → ∀ c ∈ r.head?, ¬(c.isDigit = true ∨ c = '.') := by
    have hnone : ∀ c ∈ ':' :: closings, ¬(c.isDigit = true ∨ c = '.') := by simp [closings]
    intro r hr c hc
    rcases hr c hc with h | ⟨-, rfl⟩
    · exact hnone c (List.mem_cons_of_mem _ h)
    · exact hnone _ List.mem_cons_self
  refine hshown.reads_of_unmarked (fun t _ => exists_start ?_ (hmarks t)) (fun t _ c hc => (hmarks t c hc).1)
    (fun ht hu hr hs => TimeOfDay.text_inj ht hu (hends hr) (hends hs)) fun _ => ⟨2, fun t _ => t.count_colon_text⟩
  simp [TimeOfDay.toList_text, toList_clockText]

theorem reads_timestamp : Reads true timestamp.holds := by
  have hshown : Shown timestamp.holds Instant.IsMilli Value.timestamp Instant.text :=
    ⟨fun | .timestamp i, h => ⟨i, by simpa [holds] using h, rfl⟩, fun _ => rfl⟩
  have hmarks : ∀ (i : Instant), ∀ c ∈ i.text.toList, c ∉ marks ∧ c ≠ 'n' := by
    have hrest : ∀ c ∈ ['-', '+', 'T', ':', '.', 'Z'], c ∉ marks ∧ c ≠ 'n' := by simp [marks, closings]
    intro i c hc
    rcases Instant.mem_text hc with h | h
    · exact (Numeric.of_isDigit h).unmarked
    · exact hrest c h
  refine hshown.reads_of_unmarked (fun i _ => exists_start ?_ (hmarks i)) (fun i _ c hc => (hmarks i c hc).1)
    (fun hi hj _ _ => Instant.text_inj hi hj) fun _ => ⟨2, fun i _ => i.count_colon_text⟩
  simp [Instant.toList_text]

theorem shown_inet : Shown inet.holds (fun _ => True) Value.inet Ip.text :=
  ⟨fun | .inet ip, _ => ⟨ip, trivial, rfl⟩, fun _ => rfl⟩

theorem unmarked_ip {ip : Ip} {c : Char} (hc : c ∈ ip.text.toList) : c ∉ marks ∧ c ≠ 'n' := by
  rcases Ip.mem_text hc with h | rfl | rfl
  · exact Numeric.unmarked (.inl h)
  · decide
  · decide

theorem unmarked_inet {x : Value} (hx : inet.holds x = true) : ∀ c ∈ x.display.toList, c ∉ marks := by
  obtain ⟨ip, -, rfl⟩ := shown_inet.held x hx
  rw [shown_inet.shown]
  exact fun c hc => (unmarked_ip hc).1

theorem reads_inet : Reads false inet.holds := by
  refine shown_inet.reads_of_unmarked (fun ip _ => exists_start ip.text_ne_nil fun c => unmarked_ip)
    (fun ip _ c hc => (unmarked_ip hc).1) (fun {a b r s} _ _ hr hs heq => ?_) (by simp)
  have hfree : ∀ ip : Ip, ∀ c ∈ ip.text.toList, ¬(c ∈ closings ∨ false = true ∧ c = ':') := by
    rintro ip c hc (h | ⟨hfalse, -⟩)
    · exact (unmarked_ip hc).1 (mem_marks_of_mem_closings h)
    · exact absurd hfalse Bool.false_ne_true
  obtain ⟨htext, hrest⟩ := append_inj_of_stops _ (hfree a) (hfree b) hr hs heq
  exact ⟨Ip.text_inj (String.toList_inj.1 htext), hrest⟩

/-- The values of the type can be told apart by their texts. -/
def separable : SimpleType → Bool
  | ascii | text | float | double => false
  | _ => true

/-- **Values of a scalar type other than text and floating-point numbers can be read back.** -/
theorem reads (t : SimpleType) (h : t.separable = true) : Reads (t != inet) t.holds :=
  match t, h with
  | boolean, _ => reads_boolean
  | tinyint, _ => reads_tinyint
  | smallint, _ => reads_smallint
  | int, _ => reads_int
  | bigint, _ => reads_bigint
  | counter, _ => reads_counter
  | decimal, _ => reads_decimal
  | varint, _ => reads_varint
  | uuid, _ => reads_uuid
  | timeuuid, _ => reads_timeuuid
  | timestamp, _ => reads_timestamp
  | date, _ => reads_date
  | time, _ => reads_time
  | duration, _ => reads_duration
  | inet, _ => reads_inet
  | blob, _ => reads_blob

end SimpleType

end CqlDispatch
