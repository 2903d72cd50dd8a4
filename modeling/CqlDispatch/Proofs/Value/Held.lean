import CqlDispatch.Column
import CqlDispatch.Proofs.Time.Calendar
import CqlDispatch.Value
/-!
# The values of a type

What a column of a type can hold: a value of that shape, with dates and times in their ranges and timestamps of whole
milliseconds.  Elements of collections are values of the element type, components of a tuple may be null as well, and
the fields of a user-defined type, which have the declared names in the declared order, may be unset.
-/
namespace CqlDispatch

/-- A value of the type; any text is one of both text types. -/
def SimpleType.holds : SimpleType → Value → Bool
  | ascii, v => match v with | .ascii _ => true | _ => false
  | text, v => match v with | .text _ => true | _ => false
  | boolean, v => match v with | .boolean _ => true | _ => false
  | tinyint, v => match v with | .tinyint _ => true | _ => false
  | smallint, v => match v with | .smallint _ => true | _ => false
  | int, v => match v with | .int _ => true | _ => false
  | bigint, v => match v with | .bigint _ => true | _ => false
  | counter, v => match v with | .counter _ => true | _ => false
  | float, v => match v with | .float _ => true | _ => false
  | double, v => match v with | .double _ => true | _ => false
  | decimal, v => match v with | .decimal _ => true | _ => false
  | varint, v => match v with | .varint _ => true | _ => false
  | uuid, v => match v with | .uuid _ => true | _ => false
  | timeuuid, v => match v with | .timeuuid _ => true | _ => false
  | timestamp, v => match v with | .timestamp i => decide i.IsMilli | _ => false
  | date, v => match v with | .date d => decide (d.month ≤ 12 ∧ d.day ≤ 31) | _ => false
  | time, v => match v with | .time t => decide (IsClock t.seconds t.nanos) | _ => false
  | duration, v => match v with | .duration _ => true | _ => false
  | inet, v => match v with | .inet _ => true | _ => false
  | blob, v => match v with | .blob _ => true | _ => false

/-! ## Equality -/

namespace Value

theorem sameItems_self : ∀ {items : List Value}, (∀ v ∈ items, same v v = true) → sameItems items items = true
  | [], _ => by rw [sameItems]
  | v :: rest, h => by
    rw [sameItems, h v List.mem_cons_self, sameItems_self fun w hw => h w (List.mem_cons_of_mem _ hw)]
    rfl

theorem sameEntries_self : ∀ {entries : List (Value × Value)},
    (∀ e ∈ entries, same e.1 e.1 = true ∧ same e.2 e.2 = true) → sameEntries entries entries = true
  | [], _ => by rw [sameEntries]
  | (k, v) :: rest, h => by
    obtain ⟨hk, hv⟩ := h (k, v) List.mem_cons_self
    rw [sameEntries, hk, hv, sameEntries_self fun e he => h e (List.mem_cons_of_mem _ he)]
    rfl

end Value

theorem SimpleType.same_self {t : SimpleType} (hfloat : t ≠ .float) (hdouble : t ≠ .double) {v : Value}
    (h : t.holds v = true) : v.same v = true := by
  cases v with
  | float x => cases t <;> simp_all [holds]
  | double x => cases t <;> simp_all [holds]
  | decimal d => simp [Value.same, ScaledDecimal.same]
  | null => cases t <;> simp [holds] at h
  | list items => cases t <;> simp [holds] at h
  | set items => cases t <;> simp [holds] at h
  | map entries => cases t <;> simp [holds] at h
  | tuple first rest => cases t <;> simp [holds] at h
  | udt fields => cases t <;> simp [holds] at h
  | _ => simp [Value.same]

namespace ColumnType

mutual

/-- A value of the type, null left out. -/
def holds : ColumnType → Value → Bool
  | simple t, v => t.holds v
  | list t, v => match v with | .list items => items.all (holds t) | _ => false
  | set t, v => match v with | .set items => items.all (holds t) | _ => false
  | map k t, v => match v with | .map entries => entries.all fun e => holds k e.1 && holds t e.2 | _ => false
  | tuple ts, v => match v with | .tuple first rest => holdsAll ts (first :: rest) | _ => false
  | udt _ _ fs, v => match v with | .udt fields => holdsFields fs fields | _ => false
  | custom _, _ => false

/-- Values of the types in turn, any of which may be null. -/
def holdsAll : List ColumnType → List Value → Bool
  | [], vs => vs.isEmpty
  | t :: ts, vs => match vs with
    | [] => false
    | v :: rest => (v.isNull || holds t v) && holdsAll ts rest

/-- Fields with the names and of the types in turn, any of which may be unset. -/
def holdsFields : List (String × ColumnType) → List (String × Option Value) → Bool
  | [], fields => fields.isEmpty
  | (name, t) :: fs, fields => match fields with
    | [] => false
    | (other, v) :: rest => name == other && v.all (holds t) && holdsFields fs rest

end

/-- Whether the type has values at all. -/
def hasValues : ColumnType → Bool
  | tuple [] | custom _ => false
  | _ => true

theorem not_holds_of_not_hasValues : ∀ {t : ColumnType} {v : Value}, hasValues t = false → holds t v = false
  | custom _, _, _ => by rw [holds]
  | tuple [], v, _ => by cases v <;> simp [holds, holdsAll]

theorem holdsAll_nulls : ∀ ts : List ColumnType, holdsAll ts (ts.map fun _ => .null) = true
  | [] => rfl
  | t :: ts => by
    rw [List.map_cons, holdsAll, holdsAll_nulls ts]
    rfl

theorem holdsFields_unset : ∀ fs : List (String × ColumnType), holdsFields fs (fs.map fun f => (f.1, none)) = true
  | [] => rfl
  | (name, t) :: fs => by
    rw [List.map_cons, holdsFields, holdsFields_unset fs]
    simp

theorem exists_simple_holds (t : SimpleType) : ∃ v, t.holds v = true := by
  cases t with
  | ascii => exact ⟨.ascii "", rfl⟩
  | text => exact ⟨.text "", rfl⟩
  | boolean => exact ⟨.boolean false, rfl⟩
  | tinyint => exact ⟨.tinyint 0, rfl⟩
  | smallint => exact ⟨.smallint 0, rfl⟩
  | int => exact ⟨.int 0, rfl⟩
  | bigint => exact ⟨.bigint 0, rfl⟩
  | counter => exact ⟨.counter 0, rfl⟩
  | float => exact ⟨.float ⟨0⟩, rfl⟩
  | double => exact ⟨.double ⟨0⟩, rfl⟩
  | decimal => exact ⟨.decimal ⟨0, 0⟩, rfl⟩
  | varint => exact ⟨.varint 0, rfl⟩
  | uuid => exact ⟨.uuid ⟨0⟩, rfl⟩
  | timeuuid => exact ⟨.timeuuid ⟨0⟩, rfl⟩
  | timestamp => exact ⟨.timestamp ⟨0, 0⟩, by decide⟩
  | date => exact ⟨.date ⟨1970, 1, 1⟩, by decide⟩
  | time => exact ⟨.time ⟨0, 0⟩, by decide⟩
  | duration => exact ⟨.duration ⟨0, 0, 0⟩, rfl⟩
  | inet => exact ⟨.inet (.v4 0), rfl⟩
  | blob => exact ⟨.blob [], rfl⟩

/-- **Every type has values but custom ones and the tuple without components.** -/
theorem exists_holds {t : ColumnType} (h : hasValues t = true) : ∃ v, t.holds v = true := by
  cases t with
  | simple t =>
    obtain ⟨v, hv⟩ := exists_simple_holds t
    exact ⟨v, by rwa [holds]⟩
  | list t => exact ⟨.list [], rfl⟩
  | set t => exact ⟨.set [], rfl⟩
  | map k t => exact ⟨.map [], rfl⟩
  | tuple ts =>
    cases ts with
    | nil => exact absurd h Bool.false_ne_true
    | cons t ts => exact ⟨.tuple .null (ts.map fun _ => .null), holdsAll_nulls (t :: ts)⟩
  | udt keyspace name fs => exact ⟨.udt (fs.map fun f : String × ColumnType => (f.1, none)), holdsFields_unset fs⟩
  | custom className => exact absurd h Bool.false_ne_true

end ColumnType

end CqlDispatch
