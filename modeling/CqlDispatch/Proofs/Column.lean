import Mathlib.Data.List.Basic
import CqlDispatch.Column
/-!
# Custom types inside a type

A type is supported exactly where no custom type stands inside it, and else the first one is named
(`refuses_first_custom`).  A place inside a type is the way to it, part by part, the parts numbered from the left: what
is read first has the smaller place.  Whatever the shape of a type, its parts are checked in turn
(`ensureSupported_eq`), so the induction is over parts.
-/
namespace CqlDispatch

namespace ColumnType

/-- What a type is made of, from left to right. -/
def parts : ColumnType → List ColumnType
  | simple _ | custom _ => []
  | list t | set t => [t]
  | map k v => [k, v]
  | tuple ts => ts
  | udt _ _ fields => fields.map (·.2)

/-- What stands at a place; the type itself stands at the empty one. -/
def at? (t : ColumnType) : List Nat → Option ColumnType
  | [] => some t
  | i :: place => t.parts[i]?.bind (at? · place)

/-- No custom type stands at any place. -/
def NoCustom (t : ColumnType) : Prop := ∀ place className, t.at? place ≠ some (custom className)

/-- A custom type stands at the place, and none at a place before it. -/
structure FirstCustom (t : ColumnType) (place : List Nat) (className : String) : Prop where
  here : t.at? place = some (custom className)
  none_before : ∀ other < place, ∀ c, t.at? other ≠ some (custom c)

theorem FirstCustom.eq {t : ColumnType} {place place' : List Nat} {c c' : String} (h : t.FirstCustom place c)
    (h' : t.FirstCustom place' c') : c = c' := by
  have hplace : place = place' := List.le_antisymm (List.not_lt.1 fun hlt => h.none_before _ hlt _ h'.here)
    (List.not_lt.1 fun hlt => h'.none_before _ hlt _ h.here)
  have hsame := h.here.symm.trans (hplace ▸ h'.here)
  simpa using hsame

theorem NoCustom.of_parts {t : ColumnType} (ht : ∀ c, t ≠ custom c) (h : ∀ p ∈ t.parts, p.NoCustom) :
    t.NoCustom
  | [], c, hc => ht c (Option.some.inj hc)
  | i :: place, c, hc => by
    obtain ⟨p, hp, hpc⟩ := Option.bind_eq_some_iff.1 hc
    exact h p (List.mem_of_getElem? hp) place c hpc

theorem FirstCustom.of_part {t p : ColumnType} {i : Nat} {place : List Nat} {c : String} (ht : ∀ c, t ≠ custom c)
    (hp : t.parts[i]? = some p) (h : p.FirstCustom place c) (hbefore : ∀ j < i, ∀ q ∈ t.parts[j]?, q.NoCustom) :
    t.FirstCustom (i :: place) c where
  here := Option.bind_eq_some_iff.2 ⟨p, hp, h.here⟩
  none_before
    | [], _, d, hd => ht d (Option.some.inj hd)
    | j :: other, hlt, d, hd => by
      obtain ⟨q, hq, hqd⟩ := Option.bind_eq_some_iff.1 hd
      rcases List.cons_lt_cons_iff.1 hlt with hji | ⟨rfl, hrest⟩
      · exact hbefore j hji q hq other d hqd
      · obtain rfl := Option.some.inj (hp.symm.trans hq)
        exact h.none_before other hrest d hqd

/-! ## The check, part by part -/

theorem ensureFieldsSupported_eq : ∀ fields : List (String × ColumnType),
    ensureFieldsSupported fields = ensureAllSupported (fields.map (·.2))
  | [] => rfl
  | (_, t) :: fields => by
    rw [ensureFieldsSupported, List.map_cons, ensureAllSupported, ensureFieldsSupported_eq fields]

theorem ensureAllSupported_one (t : ColumnType) : ensureAllSupported [t] = ensureSupported t := by
  rw [ensureAllSupported]
  cases ensureSupported t <;> rfl

/-- **All but custom types are checked by their parts.** -/
theorem ensureSupported_eq {t : ColumnType} (ht : ∀ c, t ≠ custom c) :
    ensureSupported t = ensureAllSupported t.parts := by
  cases t with
  | simple t => rw [ensureSupported, parts, ensureAllSupported]
  | list t => rw [ensureSupported, parts, ensureAllSupported_one]
  | set t => rw [ensureSupported, parts, ensureAllSupported_one]
  | map k v => rw [ensureSupported, parts, ensureAllSupported, ensureAllSupported_one]
  | tuple ts => rw [ensureSupported, parts]
  | udt keyspace name fields => rw [ensureSupported, parts, ensureFieldsSupported_eq]
  | custom c => exact absurd rfl (ht c)

theorem sizeOf_part {t p : ColumnType} (h : p ∈ t.parts) : sizeOf p < sizeOf t := by
  cases t with
  | simple t => cases h
  | list t =>
    rw [List.mem_singleton.1 h, list.sizeOf_spec]
    omega
  | set t =>
    rw [List.mem_singleton.1 h, set.sizeOf_spec]
    omega
  | map k v =>
    rw [map.sizeOf_spec]
    rcases List.mem_pair.1 h with rfl | rfl <;> omega
  | tuple ts =>
    have := List.sizeOf_lt_of_mem (show p ∈ ts from h)
    rw [tuple.sizeOf_spec]
    omega
  | udt keyspace name fields =>
    obtain ⟨⟨field, type⟩, hmem, rfl⟩ := List.mem_map.1 h
    have := List.sizeOf_lt_of_mem hmem
    rw [Prod.mk.sizeOf_spec] at this
    show sizeOf type < _
    rw [udt.sizeOf_spec]
    omega
  | custom c => cases h

theorem induction_parts {P : ColumnType → Prop} (step : ∀ t, (∀ p ∈ t.parts, P p) → P t) (t : ColumnType) : P t :=
  step t fun p _ => induction_parts step p
termination_by t
decreasing_by exact sizeOf_part ‹_›

/-- What a check comes to. -/
inductive Verdict (t : ColumnType) : Except Failure Unit → Prop
  | supported (h : t.NoCustom) : Verdict t (.ok ())
  | refused {place c} (h : t.FirstCustom place c) : Verdict t (.error (unsupported c))

/-- The parts are checked up to the first one with a custom type inside. -/
theorem ensureAllSupported_cases : ∀ {ts : List ColumnType}, (∀ p ∈ ts, Verdict p p.ensureSupported) →
    (ensureAllSupported ts = .ok () ∧ ∀ p ∈ ts, p.NoCustom) ∨
      ∃ (i : Nat) (p : ColumnType) (place : List Nat) (c : String), ts[i]? = some p ∧ p.FirstCustom place c ∧
        (∀ j < i, ∀ q ∈ ts[j]?, q.NoCustom) ∧ ensureAllSupported ts = .error (unsupported c)
  | [], _ => .inl ⟨rfl, fun _ hp => absurd hp List.not_mem_nil⟩
  | t :: ts, h => by
    rw [ensureAllSupported]
    have ht := h t List.mem_cons_self
    generalize t.ensureSupported = x at ht
    cases ht with
    | refused hfirst => exact .inr ⟨0, t, _, _, rfl, hfirst, fun j hj => absurd hj j.not_lt_zero, rfl⟩
    | supported hnone =>
      rcases ensureAllSupported_cases fun p hp => h p (List.mem_cons_of_mem t hp) with
        ⟨hok, hall⟩ | ⟨i, p, place, c, hp, hfirst, hbefore, herr⟩
      · exact .inl ⟨hok, List.forall_mem_cons.2 ⟨hnone, hall⟩⟩
      · refine .inr ⟨i + 1, p, place, c, hp, hfirst, fun j hj q hq => ?_, herr⟩
        cases j with
        | zero => exact Option.some.inj hq ▸ hnone
        | succ j => exact hbefore j (Nat.lt_of_succ_lt_succ hj) q hq

theorem verdict_ensureSupported (t : ColumnType) : Verdict t t.ensureSupported := by
  induction t using induction_parts with
  | step t ih =>
    by_cases ht : ∀ c, t ≠ custom c
    · rw [ensureSupported_eq ht]
      rcases ensureAllSupported_cases ih with ⟨hok, hall⟩ | ⟨i, p, place, c, hp, hfirst, hbefore, herr⟩
      · exact hok ▸ .supported (.of_parts ht hall)
      · exact herr ▸ .refused (.of_part ht hp hfirst hbefore)
    · obtain ⟨c, hc⟩ := not_forall_not.1 ht
      have hfirst : (custom c).FirstCustom [] c := ⟨rfl, fun other hlt => absurd hlt (List.not_lt_nil other)⟩
      rw [hc, ensureSupported]
      exact .refused hfirst

theorem unsupported_eq (className : String) :
    unsupported className = .unsupportedOperation ((if className = "org.apache.cassandra.db.marshal.PointType" ∨
          className = "org.apache.cassandra.db.marshal.LineStringType" ∨
          className = "org.apache.cassandra.db.marshal.PolygonType" then "geometry types are not supported"
      else "custom types are not supported") ++ ": " ++ className) := by
  simp only [unsupported, geometryClasses, List.contains_eq_mem, List.mem_cons, List.not_mem_nil, or_false,
    decide_eq_true_eq]

/-- **A type is supported where no custom type stands inside it, and else its first custom class is named**, with the
reason for shapes where it is one of the three. -/
theorem refuses_first_custom (t : ColumnType) :
    (t.ensureSupported = .ok () ↔ t.NoCustom) ∧
      ∀ e, t.ensureSupported = .error e ↔ ∃ place className, t.FirstCustom place className ∧
        e = .unsupportedOperation ((if className = "org.apache.cassandra.db.marshal.PointType" ∨
              className = "org.apache.cassandra.db.marshal.LineStringType" ∨
              className = "org.apache.cassandra.db.marshal.PolygonType" then "geometry types are not supported"
          else "custom types are not supported") ++ ": " ++ className) := by
  have hverdict := t.verdict_ensureSupported
  generalize t.ensureSupported = x at hverdict
  cases hverdict with
  | supported hnone =>
    refine ⟨iff_of_true rfl hnone, fun e => iff_of_false nofun ?_⟩
    rintro ⟨place, c, hfirst, -⟩
    exact hnone place c hfirst.here
  | @refused place c hfirst =>
    refine ⟨iff_of_false nofun fun hnone => hnone place c hfirst.here, fun e => ⟨fun he => ?_, ?_⟩⟩
    · exact ⟨place, c, hfirst, by rw [← Except.error.inj he, unsupported_eq]⟩
    · rintro ⟨place', c', hfirst', rfl⟩
      rw [hfirst.eq hfirst', unsupported_eq]

example : ensureSupported (map (tuple [simple .int, list (custom "com.acme.Foo")])
      (custom "org.apache.cassandra.db.marshal.PointType")) =
    .error (.unsupportedOperation "custom types are not supported: com.acme.Foo") := rfl

example : ensureSupported (list (custom "org.apache.cassandra.db.marshal.PointType")) =
    .error (.unsupportedOperation "geometry types are not supported: org.apache.cassandra.db.marshal.PointType") := rfl

end ColumnType

end CqlDispatch
