import CqlDispatch.Proofs.Value.Reading
/-!
# Reading collections, tuples and user-defined types back

The parts between the marks of a value are read one by one: each place has its own kind of part (`Placed`), so that one
argument serves lists, whose parts are all of a kind, and tuples and user-defined types, whose parts are not.  The type
of a value then says how to read it (`ColumnType.reads`), by recursion on the type.
-/
namespace CqlDispatch

/-! ## Parts in their places -/

section

variable {α : Type} {f : α → List Char} {close : Char} {r s : List Char}

/-- Parts of a kind that can be read off in front of a comma or a closing mark. -/
def IsPart (P : α → Prop) (f : α → List Char) : Prop :=
  ∀ {a b r s}, P a → P b → Ends false r → Ends false s → f a ++ r = f b ++ s → a = b ∧ r = s

/-- Each part is of the kind of its place. -/
def Placed (P : Nat → α → Prop) (as : List α) : Prop := ∀ i, ∀ a ∈ as[i]?, P i a

theorem placed_cons {P : Nat → α → Prop} {a : α} {as : List α} :
    Placed P (a :: as) ↔ P 0 a ∧ Placed (fun i => P (i + 1)) as := by
  constructor
  · intro h
    exact ⟨h 0 a rfl, fun i b hb => h (i + 1) b (by simpa using hb)⟩
  · rintro ⟨ha, has⟩ i b hb
    cases i with
    | zero =>
      rw [List.getElem?_cons_zero, Option.mem_some_iff] at hb
      exact hb ▸ ha
    | succ i => exact has i b (by simpa using hb)

theorem placed_of_forall {P : α → Prop} {as : List α} (h : ∀ a ∈ as, P a) : Placed (fun _ => P) as :=
  fun _ a ha => h a (List.mem_of_getElem? ha)

/-- Parts with a comma in front of each. -/
def behind (f : α → List Char) (as : List α) : List Char := as.flatMap fun a => ',' :: f a

theorem ends_behind (hclose : close ∈ closings) (as : List α) (r : List Char) :
    Ends false (behind f as ++ close :: r) := by
  cases as with
  | nil => exact ends_cons hclose r
  | cons a as => exact ends_cons (by decide) _

/-- Parts behind others can be read, up to the mark that closes them. -/
theorem behind_inj (hclose : close ∈ closings) (hcomma : close ≠ ',') : ∀ {P : Nat → α → Prop} {as bs : List α},
    (∀ i, IsPart (P i) f) → Placed P as → Placed P bs → behind f as ++ close :: r = behind f bs ++ close :: s →
      as = bs ∧ r = s
  | _, [], [], _, _, _, h => ⟨rfl, (List.cons.inj h).2⟩
  | _, [], b :: bs, _, _, _, h => absurd (List.cons.inj h).1 hcomma
  | _, a :: as, [], _, _, _, h => absurd (List.cons.inj h).1.symm hcomma
  | P, a :: as, b :: bs, hpart, has, hbs, h => by
    obtain ⟨ha, hrestA⟩ := placed_cons.1 has
    obtain ⟨hb, hrestB⟩ := placed_cons.1 hbs
    have htail : f a ++ (behind f as ++ close :: r) = f b ++ (behind f bs ++ close :: s) := by
      simpa [behind] using h
    obtain ⟨rfl, hrest⟩ := hpart 0 ha hb (ends_behind hclose as r) (ends_behind hclose bs s) htail
    obtain ⟨rfl, rfl⟩ := behind_inj hclose hcomma (fun i => hpart (i + 1)) hrestA hrestB hrest
    exact ⟨rfl, rfl⟩

/-- Parts with commas between them. -/
def joined (f : α → List Char) (as : List α) : List Char := [','].intercalate (as.map f)

theorem joined_cons (a : α) : ∀ as : List α, joined f (a :: as) = f a ++ behind f as
  | [] => by simp [joined, behind]
  | b :: bs => by
    have htail := joined_cons b bs
    unfold joined at htail ⊢
    rw [List.map_cons] at htail ⊢
    rw [List.map_cons, List.intercalate_cons_cons, htail]
    simp [behind]

theorem joined_inj {P : Nat → α → Prop} (hpart : ∀ i, IsPart (P i) f) (hclose : close ∈ closings) (hcomma : close ≠ ',')
    {as bs : List α} (has : Placed P as) (hbs : Placed P bs) (hempty : as = [] ↔ bs = [])
    (h : joined f as ++ close :: r = joined f bs ++ close :: s) : as = bs ∧ r = s := by
  cases as with
  | nil =>
    rw [hempty.1 rfl] at h ⊢
    exact ⟨rfl, (List.cons.inj (List.append_cancel_left h)).2⟩
  | cons a as =>
    cases bs with
    | nil => exact absurd (hempty.2 rfl) (List.cons_ne_nil _ _)
    | cons b bs =>
      obtain ⟨ha, hrestA⟩ := placed_cons.1 has
      obtain ⟨hb, hrestB⟩ := placed_cons.1 hbs
      rw [joined_cons, joined_cons, List.append_assoc, List.append_assoc] at h
      obtain ⟨rfl, hrest⟩ := hpart 0 ha hb (ends_behind hclose as r) (ends_behind hclose bs s) h
      obtain ⟨rfl, rfl⟩ := behind_inj hclose hcomma (fun i => hpart (i + 1)) hrestA hrestB hrest
      exact ⟨rfl, rfl⟩

/-- Nothing between the marks is told from something, if no part begins with a closing mark. -/
theorem nil_iff_of_joined {P : α → Prop} (starts : ∀ a, P a → ∃ c cs, f a = c :: cs ∧ c ∉ closings)
    (hclose : close ∈ closings) {as bs : List α} (has : ∀ a ∈ as, P a) (hbs : ∀ b ∈ bs, P b)
    (h : joined f as ++ close :: r = joined f bs ++ close :: s) : as = [] ↔ bs = [] := by
  have hsome : ∀ {a : α} {as : List α} {r s}, P a → joined f (a :: as) ++ close :: r ≠ close :: s := by
    intro a as r s ha h
    obtain ⟨c, cs, hcs, hc⟩ := starts a ha
    rw [joined_cons, hcs] at h
    exact hc ((List.cons.inj h).1 ▸ hclose)
  cases as with
  | nil =>
    cases bs with
    | nil => simp
    | cons b bs => exact absurd h.symm (hsome (hbs b List.mem_cons_self))
  | cons a as =>
    cases bs with
    | nil => exact absurd h (hsome (has a List.mem_cons_self))
    | cons b bs => simp

end

theorem toList_enclosed {α : Type} (opening close : Char) (text : α → String) (as : List α) :
    (Value.enclosed (String.singleton opening) (String.singleton close) (as.map text)).toList =
      opening :: (joined (fun a => (text a).toList) as ++ [close]) := by
  simp [Value.enclosed, joined, Function.comp_def]

/-- Values that are shown as parts between an opening and a closing mark. -/
structure Enclosed {α : Type} (p : Value → Bool) (opening close : Char) (valid : List α → Prop) (text : α → String)
    (make : List α → Value) : Prop where
  opening_mem : opening ∈ ['[', '(', '\x7b']
  close_mem : close ∈ [']', ')', '\x7d']
  held : ∀ x, p x = true → ∃ as, valid as ∧ x = make as ∧
    x.display = Value.enclosed (String.singleton opening) (String.singleton close) (as.map text)

namespace Enclosed

variable {α : Type} {p : Value → Bool} {opening close : Char} {valid : List α → Prop} {P : Nat → α → Prop}
  {text : α → String} {make : List α → Value}

theorem reads (h : Enclosed p opening close valid text make) (placed : ∀ as, valid as → Placed P as)
    (hpart : ∀ i, IsPart (P i) fun a => (text a).toList)
    (empty : ∀ {as bs r s}, valid as → valid bs → joined (fun a => (text a).toList) as ++ close :: r =
      joined (fun a => (text a).toList) bs ++ close :: s → (as = [] ↔ bs = [])) : Reads true p := by
  have hopening : ∀ c ∈ ['[', '(', '\x7b'], c ∈ marks ∧ c ≠ 'n' ∧ c ∉ closings := by simp [marks, closings]
  have hclose : ∀ c ∈ [']', ')', '\x7d'], c ∈ closings ∧ c ≠ ',' := by simp [closings]
  obtain ⟨hmark, hn, hstart⟩ := hopening _ h.opening_mem
  obtain ⟨hclosing, hcomma⟩ := hclose _ h.close_mem
  refine ⟨fun {x} hx => ?_, fun {x y r s} hx hy hr hs heq => ?_, fun _ => ⟨0, fun {x r} hx hr => ?_⟩⟩
  · obtain ⟨as, -, -, hshown⟩ := h.held x hx
    exact ⟨opening, _, by rw [hshown, toList_enclosed], hn, hstart⟩
  · obtain ⟨as, has, hxas, hshown⟩ := h.held x hx
    obtain ⟨bs, hbs, hybs, hshown'⟩ := h.held y hy
    rw [hshown, hshown', toList_enclosed, toList_enclosed, List.cons_append, List.cons_append, List.append_assoc,
      List.append_assoc] at heq
    obtain ⟨-, heq⟩ := List.cons.inj heq
    obtain ⟨hsame, hrest⟩ := joined_inj hpart hclosing hcomma (placed as has) (placed bs hbs) (empty has hbs heq) heq
    exact ⟨by rw [hxas, hybs, hsame], hrest⟩
  · obtain ⟨as, -, -, hshown⟩ := h.held x hx
    rw [hshown, toList_enclosed]
    simp [colonsAhead, hmark]

/-- Values whose parts are all of a kind, any number of them. -/
theorem reads_uniform {Q : α → Prop} (h : Enclosed p opening close (fun as => ∀ a ∈ as, Q a) text make)
    (hpart : IsPart Q fun a => (text a).toList)
    (starts : ∀ a, Q a → ∃ c cs, (text a).toList = c :: cs ∧ c ∉ closings) : Reads true p := by
  have hclose : ∀ c ∈ [']', ')', '\x7d'], c ∈ closings := by simp [closings]
  exact h.reads (fun as => placed_of_forall) (fun _ => hpart) (nil_iff_of_joined starts (hclose _ h.close_mem))

end Enclosed

/-! ## The shapes of values -/

namespace Value

theorem displayItems_eq_map : ∀ items : List Value, displayItems items = items.map display
  | [] => rfl
  | v :: rest => congrArg (v.display :: ·) (displayItems_eq_map rest)

def entryText (e : Value × Value) : String := e.1.display ++ ":" ++ e.2.display

theorem displayEntries_eq_map : ∀ entries : List (Value × Value), displayEntries entries = entries.map entryText
  | [] => rfl
  | e :: rest => congrArg (entryText e :: ·) (displayEntries_eq_map rest)

/-- An unset field is shown as null. -/
def fieldText (e : String × Option Value) : String := e.1 ++ ":" ++ (ofOption e.2).display

theorem displayFields_eq_map : ∀ fields : List (String × Option Value), displayFields fields = fields.map fieldText
  | [] => rfl
  | (name, none) :: rest => by
    have hnull : name ++ ":null" = fieldText (name, none) := by
      show name ++ (":" ++ "null") = name ++ ":" ++ "null"
      rw [String.append_assoc]
    show (name ++ ":null") :: displayFields rest = fieldText (name, none) :: rest.map fieldText
    rw [displayFields_eq_map rest, hnull]
  | (name, some v) :: rest => congrArg (fieldText (name, some v) :: ·) (displayFields_eq_map rest)

theorem display_list (items : List Value) : (list items).display = enclosed "[" "]" (items.map display) :=
  congrArg (enclosed "[" "]") (displayItems_eq_map items)

theorem display_set (items : List Value) : (set items).display = enclosed "\x7b" "\x7d" (items.map display) :=
  congrArg (enclosed "\x7b" "\x7d") (displayItems_eq_map items)

theorem display_map (entries : List (Value × Value)) :
    (map entries).display = enclosed "\x7b" "\x7d" (entries.map entryText) :=
  congrArg (enclosed "\x7b" "\x7d") (displayEntries_eq_map entries)

theorem display_tuple (first : Value) (rest : List Value) :
    (tuple first rest).display = enclosed "(" ")" ((first :: rest).map display) :=
  congrArg (enclosed "(" ")") (displayItems_eq_map (first :: rest))

theorem display_udt (fields : List (String × Option Value)) :
    (udt fields).display = enclosed "\x7b" "\x7d" (fields.map fieldText) :=
  congrArg (enclosed "\x7b" "\x7d") (displayFields_eq_map fields)

end Value

/-! ## Kinds of parts -/

section

variable {key : Bool} {p q : Value → Bool}

/-- Values that can be read are known from their texts. -/
theorem Reads.eq_of_display (h : Reads key p) {x y : Value} (hx : p x = true) (hy : p y = true)
    (heq : x.display = y.display) : x = y := by
  have hnil : Ends key [] := by simp [Ends]
  exact (h.inj hx hy hnil hnil (by rw [heq])).1

theorem Reads.isPart (h : Reads key p) : IsPart (fun v => p v = true) fun v => v.display.toList :=
  fun hx hy hr hs => h.inj hx hy hr.weaken hs.weaken

/-- Null is no value of a kind that can be read. -/
theorem Reads.not_null (h : Reads key p) {x : Value} {r s : List Char} (hx : p x = true) :
    x.display.toList ++ r ≠ Value.null.display.toList ++ s := by
  intro heq
  obtain ⟨c, cs, hcs, hn, -⟩ := h.starts hx
  rw [hcs] at heq
  exact hn (List.cons.inj heq).1

/-- A component may be null. -/
theorem Reads.isPart_orNull (h : Reads key p) :
    IsPart (fun v => (v.isNull || p v) = true) fun v => v.display.toList := by
  have hcases : ∀ {v : Value}, (v.isNull || p v) = true → v = .null ∨ p v = true := by
    intro v hv
    cases v <;> simp_all [Value.isNull]
  intro x y r s hx hy hr hs heq
  dsimp only at heq
  rcases hcases hx with rfl | hx
  · rcases hcases hy with rfl | hy
    · exact ⟨rfl, List.append_cancel_left heq⟩
    · exact absurd heq.symm (h.not_null hy)
  · rcases hcases hy with rfl | hy
    · exact absurd heq (h.not_null hx)
    · exact h.isPart hx hy hr hs heq

/-- A field has its name, and may be unset. -/
theorem Reads.isPart_field (h : Reads key p) (name : String) :
    IsPart (fun e : String × Option Value => (name == e.1 && e.2.all p) = true)
      fun e => (Value.fieldText e).toList := by
  have hset : ∀ {v : Option Value}, v.all p = true → ((Value.ofOption v).isNull || p (Value.ofOption v)) = true := by
    intro v hv
    cases v with
    | none => rfl
    | some v => simpa [Value.ofOption] using .inr hv
  have hne : ∀ {v : Value}, p v = true → Value.null ≠ v := by
    rintro v hv rfl
    exact h.not_null hv (r := []) (s := []) rfl
  rintro ⟨m, v⟩ ⟨n, w⟩ r s hv hw hr hs heq
  obtain ⟨hm, hv⟩ := Bool.and_eq_true_iff.1 hv
  obtain ⟨hn, hw⟩ := Bool.and_eq_true_iff.1 hw
  obtain rfl := eq_of_beq hm
  obtain rfl := eq_of_beq hn
  simp only [Value.fieldText, String.toList_append, List.append_assoc] at heq
  obtain ⟨hsame, hrest⟩ := h.isPart_orNull (hset hv) (hset hw) hr hs
    (List.append_cancel_left (List.append_cancel_left heq))
  refine ⟨?_, hrest⟩
  cases v with
  | none =>
    cases w with
    | none => rfl
    | some w => exact absurd hsame (hne hw)
  | some v =>
    cases w with
    | none => exact absurd hsame.symm (hne hv)
    | some w => exact congrArg (fun u => (name, some u)) hsame

theorem toList_entryText (e : Value × Value) :
    (Value.entryText e).toList = e.1.display.toList ++ ':' :: e.2.display.toList := by
  simp [Value.entryText]

/-- An entry whose key can be told from the colon behind it. -/
theorem Reads.isPart_entry (hp : Reads true p) (hq : Reads key q) :
    IsPart (fun e : Value × Value => (p e.1 && q e.2) = true) fun e => (Value.entryText e).toList := by
  rintro ⟨k, v⟩ ⟨l, w⟩ r s he hf hr hs heq
  obtain ⟨hk, hv⟩ := Bool.and_eq_true_iff.1 he
  obtain ⟨hl, hw⟩ := Bool.and_eq_true_iff.1 hf
  simp only [toList_entryText, List.append_assoc] at heq
  obtain ⟨hkey, hrest⟩ := hp.inj hk hl (ends_colon _) (ends_colon _) heq
  obtain ⟨hvalue, hrest⟩ := hq.isPart hv hw hr hs (List.cons.inj hrest).2
  exact ⟨Prod.ext hkey hvalue, hrest⟩

theorem append_inj_of_count {c : Char} : ∀ {a b r s : List Char}, r.count c = s.count c → a ++ c :: r = b ++ c :: s →
    a = b ∧ r = s
  | [], [], _, _, _, h => ⟨rfl, (List.cons.inj h).2⟩
  | [], d :: b, r, s, hcount, h => by
    obtain ⟨-, rfl⟩ := List.cons.inj h
    simp at hcount
    omega
  | d :: a, [], r, s, hcount, h => by
    obtain ⟨-, rfl⟩ := List.cons.inj h
    simp at hcount
    omega
  | d :: a, e :: b, r, s, hcount, h => by
    obtain ⟨rfl, htail⟩ := List.cons.inj h
    obtain ⟨rfl, rfl⟩ := append_inj_of_count hcount htail
    exact ⟨rfl, rfl⟩

/-- An entry whose key has colons, and whose value has a known number of them. -/
theorem Reads.isPart_address (hq : Reads true q) :
    IsPart (fun e : Value × Value => (SimpleType.inet.holds e.1 && q e.2) = true)
      fun e => (Value.entryText e).toList := by
  obtain ⟨n, hcolons⟩ := hq.colons rfl
  rintro ⟨k, v⟩ ⟨l, w⟩ r s he hf hr hs heq
  obtain ⟨hk, hv⟩ := Bool.and_eq_true_iff.1 he
  obtain ⟨hl, hw⟩ := Bool.and_eq_true_iff.1 hf
  simp only [toList_entryText, List.append_assoc] at heq
  -- up to the first mark there is the address, a colon and as many colons as every value has
  have hahead : ∀ {x t}, SimpleType.inet.holds x = true →
      (x.display.toList ++ (':' :: t)).takeWhile (fun c => !marks.contains c) =
        x.display.toList ++ ':' :: t.takeWhile (fun c => !marks.contains c) := by
    intro x t hx
    rw [List.takeWhile_append_of_pos (by simpa using SimpleType.unmarked_inet hx),
      List.takeWhile_cons_of_pos (by decide)]
  have hcut := congrArg (List.takeWhile fun c => !marks.contains c) heq
  simp only [List.cons_append] at hcut heq
  rw [hahead hk, hahead hl] at hcut
  obtain ⟨htext, -⟩ := append_inj_of_count ((hcolons hv hr).trans (hcolons hw hs).symm) hcut
  have hkey := SimpleType.reads_inet.eq_of_display hk hl (String.toList_inj.1 htext)
  rw [htext] at heq
  obtain ⟨hvalue, hrest⟩ := hq.isPart hv hw hr hs (List.cons.inj (List.append_cancel_left heq)).2
  exact ⟨Prod.ext hkey hvalue, hrest⟩

end

namespace ColumnType

def isInet : ColumnType → Bool
  | simple .inet => true
  | _ => false

mutual

/-- The values of the type can be told apart by their texts. -/
def separable : ColumnType → Bool
  | simple t => t.separable
  | list t | set t => separable t
  | map k t => !hasValues k || !hasValues t || separable k && separable t && !(isInet k && isInet t)
  | tuple ts => separableAll ts
  | udt _ _ fs => separableFields fs
  | custom _ => true

def separableAll : List ColumnType → Bool
  | [] => true
  | t :: ts => separable t && separableAll ts

def separableFields : List (String × ColumnType) → Bool
  | [] => true
  | (_, t) :: fs => separable t && separableFields fs

end

section

variable {k t : ColumnType} {key : Bool}

theorem starts_value (h : Reads key t.holds) (v : Value) (hv : t.holds v = true) :
    ∃ c cs, v.display.toList = c :: cs ∧ c ∉ closings := by
  obtain ⟨c, cs, hcs, -, hc⟩ := h.starts hv
  exact ⟨c, cs, hcs, hc⟩

theorem reads_list (h : Reads key t.holds) : Reads true (list t).holds := by
  have henclosed : Enclosed (list t).holds '[' ']' (fun items => ∀ v ∈ items, t.holds v = true) Value.display
      Value.list :=
    ⟨by decide, by decide, fun | .list items, hx => ⟨items, by simpa [holds] using hx, rfl,
      Value.display_list items⟩⟩
  exact henclosed.reads_uniform h.isPart (starts_value h)

theorem reads_set (h : Reads key t.holds) : Reads true (set t).holds := by
  have henclosed : Enclosed (set t).holds '\x7b' '\x7d' (fun items => ∀ v ∈ items, t.holds v = true)
      Value.display Value.set :=
    ⟨by decide, by decide, fun | .set items, hx => ⟨items, by simpa [holds] using hx, rfl,
      Value.display_set items⟩⟩
  exact henclosed.reads_uniform h.isPart (starts_value h)

/-- An entry of a map of the type. -/
def IsEntry (k t : ColumnType) (e : Value × Value) : Prop := (k.holds e.1 && t.holds e.2) = true

theorem reads_map (hpart : IsPart (IsEntry k t) fun e => (Value.entryText e).toList)
    (starts : ∀ e, IsEntry k t e → ∃ c cs, e.1.display.toList = c :: cs ∧ c ∉ closings) :
    Reads true (map k t).holds := by
  have henclosed : Enclosed (map k t).holds '\x7b' '\x7d' (fun entries => ∀ e ∈ entries, IsEntry k t e)
      Value.entryText Value.map :=
    ⟨by decide, by decide, fun | .map entries, hx => ⟨entries, by simpa [holds, IsEntry] using hx, rfl,
      Value.display_map entries⟩⟩
  refine henclosed.reads_uniform hpart fun e he => ?_
  obtain ⟨c, cs, hcs, hc⟩ := starts e he
  exact ⟨c, cs ++ ':' :: e.2.display.toList, by rw [toList_entryText, hcs, List.cons_append], hc⟩

theorem hasValues_of_holds {v : Value} (h : t.holds v = true) : hasValues t = true := by
  by_cases hvalues : hasValues t = true
  · exact hvalues
  · rw [not_holds_of_not_hasValues (by simpa using hvalues)] at h
    exact absurd h Bool.false_ne_true

theorem separable_of_entry (h : separable (map k t) = true) {e : Value × Value} (he : IsEntry k t e) :
    separable k = true ∧ separable t = true ∧ (isInet k = false ∨ isInet t = false) := by
  obtain ⟨hk, ht⟩ := Bool.and_eq_true_iff.1 he
  simpa only [separable, hasValues_of_holds hk, hasValues_of_holds ht, Bool.not_true, Bool.false_or, Bool.and_eq_true,
    Bool.not_eq_true', Bool.and_eq_false_iff, and_assoc] using h

theorem isInet_iff {t : ColumnType} : isInet t = true ↔ t = simple .inet := by
  cases t with
  | simple t => cases t <;> simp [isInet]
  | _ => simp [isInet]

theorem isPart_entry (hk : Reads (!isInet k) k.holds) (ht : Reads (!isInet t) t.holds)
    (hinet : isInet k = false ∨ isInet t = false) : IsPart (IsEntry k t) fun e => (Value.entryText e).toList := by
  by_cases h : isInet k = true
  · have hvalue : Reads true t.holds := by simpa [show isInet t = false by simpa [h] using hinet] using ht
    have hkeys : k.holds = SimpleType.inet.holds := by
      rw [isInet_iff.1 h]
      funext v
      rw [holds]
    unfold IsEntry
    rw [hkeys]
    exact hvalue.isPart_address
  · exact Reads.isPart_entry (by simpa [h] using hk) ht

end

/-- A component of a tuple, in its place. -/
def IsComponent (ts : List ColumnType) (i : Nat) (v : Value) : Prop :=
  ∃ t, ts[i]? = some t ∧ (v.isNull || t.holds v) = true

theorem placed_of_holdsAll : ∀ {ts : List ColumnType} {vs : List Value}, holdsAll ts vs = true →
    Placed (IsComponent ts) vs
  | [], vs, h => by
    obtain rfl : vs = [] := by simpa [holdsAll] using h
    intro i v hv
    simp at hv
  | t :: ts, [], h => by simp [holdsAll] at h
  | t :: ts, v :: vs, h => by
    rw [holdsAll] at h
    obtain ⟨hv, hvs⟩ := Bool.and_eq_true_iff.1 h
    exact placed_cons.2 ⟨⟨t, rfl, hv⟩, placed_of_holdsAll hvs⟩

theorem reads_tuple {ts : List ColumnType} (h : ∀ t ∈ ts, Reads (!isInet t) t.holds) : Reads true (tuple ts).holds := by
  have henclosed : Enclosed (tuple ts).holds '(' ')' (fun vs => vs ≠ [] ∧ holdsAll ts vs = true) Value.display
      fun vs => .tuple (vs.headD .null) vs.tail :=
    ⟨by decide, by decide, fun | .tuple v vs, hx => ⟨v :: vs, ⟨List.cons_ne_nil _ _, by simpa [holds] using hx⟩, rfl,
      Value.display_tuple v vs⟩⟩
  refine henclosed.reads (fun vs hvs => placed_of_holdsAll hvs.2) ?_ fun has hbs _ => by simp [has.1, hbs.1]
  rintro i v w r s ⟨t, ht, hv⟩ ⟨u, hu, hw⟩ hr hs heq
  obtain rfl : t = u := Option.some.inj (ht.symm.trans hu)
  exact (h t (List.mem_of_getElem? ht)).isPart_orNull hv hw hr hs heq

/-- A field of a user-defined type, in its place. -/
def IsField (fs : List (String × ColumnType)) (i : Nat) (e : String × Option Value) : Prop :=
  ∃ f, fs[i]? = some f ∧ (f.1 == e.1 && e.2.all f.2.holds) = true

theorem placed_of_holdsFields : ∀ {fs : List (String × ColumnType)} {fields : List (String × Option Value)},
    holdsFields fs fields = true → Placed (IsField fs) fields ∧ (fields = [] ↔ fs = [])
  | [], fields, h => by
    obtain rfl : fields = [] := by simpa [holdsFields] using h
    refine ⟨fun i e he => ?_, by simp⟩
    simp at he
  | f :: fs, [], h => by simp [holdsFields] at h
  | f :: fs, e :: fields, h => by
    rw [holdsFields] at h
    obtain ⟨he, hfields⟩ := Bool.and_eq_true_iff.1 h
    exact ⟨placed_cons.2 ⟨⟨f, rfl, he⟩, (placed_of_holdsFields hfields).1⟩, by simp⟩

theorem reads_udt {keyspace name : String} {fs : List (String × ColumnType)}
    (h : ∀ f ∈ fs, Reads (!isInet f.2) f.2.holds) : Reads true (udt keyspace name fs).holds := by
  have henclosed : Enclosed (udt keyspace name fs).holds '\x7b' '\x7d' (fun fields => holdsFields fs fields = true)
      Value.fieldText Value.udt :=
    ⟨by decide, by decide, fun | .udt fields, hx => ⟨fields, by simpa [holds] using hx, rfl, Value.display_udt fields⟩⟩
  refine henclosed.reads (fun fields hfields => (placed_of_holdsFields hfields).1) ?_ fun ha hb _ => ?_
  · rintro i e e' r s ⟨f, hf, he⟩ ⟨g, hg, he'⟩ hr hs heq
    obtain rfl : f = g := Option.some.inj (hf.symm.trans hg)
    exact (h f (List.mem_of_getElem? hf)).isPart_field f.1 he he' hr hs heq
  · rw [(placed_of_holdsFields ha).2, (placed_of_holdsFields hb).2]

mutual

/-- **The values of a separable type can be read back.** -/
theorem reads : ∀ t : ColumnType, separable t = true → Reads (!isInet t) (holds t)
  | simple t, h => by
    rw [separable] at h
    have hinet : (!isInet (simple t)) = (t != .inet) := by cases t <;> rfl
    have hholds : holds (simple t) = t.holds := by
      funext v
      rw [holds]
    rw [hinet, hholds]
    exact t.reads h
  | list t, h => by
    rw [separable] at h
    exact reads_list (reads t h)
  | set t, h => by
    rw [separable] at h
    exact reads_set (reads t h)
  | map k t, h => by
    have hkey := reads k
    have hvalue := reads t
    by_cases hentry : ∃ e, IsEntry k t e
    · obtain ⟨e, he⟩ := hentry
      obtain ⟨hk, ht, hinet⟩ := separable_of_entry h he
      exact reads_map (isPart_entry (hkey hk) (hvalue ht) hinet)
        fun e he => starts_value (hkey hk) e.1 (Bool.and_eq_true_iff.1 he).1
    · exact reads_map (fun ha => absurd ⟨_, ha⟩ hentry) fun e he => absurd ⟨e, he⟩ hentry
  | tuple ts, h => by
    rw [separable] at h
    exact reads_tuple (readsAll ts h)
  | udt keyspace name fs, h => by
    rw [separable] at h
    exact reads_udt (readsFields fs h)
  | custom className, h => by
    refine ⟨fun {x} hx => ?_, fun {x y r s} hx => ?_, fun _ => ⟨0, fun {x r} hx => ?_⟩⟩
    all_goals simp [holds] at hx

theorem readsAll : ∀ ts : List ColumnType, separableAll ts = true → ∀ t ∈ ts, Reads (!isInet t) (holds t)
  | [], _, t, ht => by simp at ht
  | t :: ts, h, u, hu => by
    rw [separableAll] at h
    obtain ⟨ht, hts⟩ := Bool.and_eq_true_iff.1 h
    have hfirst := reads t ht
    rcases List.mem_cons.1 hu with rfl | hu
    · exact hfirst
    · exact readsAll ts hts u hu

theorem readsFields : ∀ fs : List (String × ColumnType), separableFields fs = true →
    ∀ f ∈ fs, Reads (!isInet f.2) (holds f.2)
  | [], _, f, hf => by simp at hf
  | (_, t) :: fs, h, f, hf => by
    rw [separableFields] at h
    obtain ⟨ht, hfs⟩ := Bool.and_eq_true_iff.1 h
    have hfirst := reads t ht
    rcases List.mem_cons.1 hf with rfl | hf
    · exact hfirst
    · exact readsFields fs hfs f hf

end

end ColumnType

end CqlDispatch
