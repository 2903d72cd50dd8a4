import CqlDispatch.Options
import CqlDispatch.Proofs.Settings.Draft
/-!
# The options a request gets

Options come of a draft, over the built-in defaults or over those a client was set up with, or of such defaults alone
(`Obtained`).  All three fill open fields in the same way, and none lets a page of no rows or a timeout of zero
through.  The serial level is checked where defaults are built and nowhere else, so options can name a level that is no
serial one, but only if their draft does (`obtained_checks`).
-/
namespace CqlDispatch

/-- The level for conditional writes is a serial one, where it is named. -/
def NamesSerial (serial : Option Consistency) : Prop := ∀ level ∈ serial, level.isSerial = true

/-- The ways to the options of a request, with the draft and the defaults they are made of. -/
inductive Obtained : OptionsDraft → QueryDefaults → Except Failure ExecutionOptions → Prop
  | built (d : OptionsDraft) : Obtained d {} d.build
  | builtOver (d : OptionsDraft) {asked : QueryDraft} {q : QueryDefaults} (accepted : asked.build = .ok q) :
      Obtained d q (d.build q)
  | ofDefaults {asked : QueryDraft} {q : QueryDefaults} (accepted : asked.build = .ok q) :
      Obtained {} q (.ok q.options)

/-! ## Defaults -/

structure QueryDefaults.Sound (q : QueryDefaults) : Prop where
  pageSize : q.pageSize ≠ 0
  timeout : q.timeout ≠ some .zero
  serial : NamesSerial q.serial

theorem QueryDefaults.sound_of_build {asked : QueryDraft} {q : QueryDefaults} (accepted : asked.build = .ok q) :
    q.Sound := by
  have hbuild := asked.checks_build
  rw [accepted] at hbuild
  cases hbuild with
  | accepts hsound hq =>
    rw [hq]
    exact ⟨(getD_ne_iff (by decide)).2 hsound.pageSize, (getD_ne_iff (by decide)).2 hsound.timeout, hsound.serial⟩

/-! ## Drafts -/

namespace OptionsDraft

structure Sound (d : OptionsDraft) : Prop where
  pageSize : d.pageSize ≠ some 0
  timeout : d.timeout ≠ some .zero

/-- What is set is in effect, and what is left open is as in the defaults.  Payload, routing key and timestamp have
none. -/
structure InEffect (d : OptionsDraft) (q : QueryDefaults) (o : ExecutionOptions) : Prop where
  keyspace : Follows (fun k x => x = some k) d.keyspace q.keyspace o.keyspace
  consistency : Follows (fun c x => x = c) d.consistency q.consistency o.consistency
  serial : Follows (fun c x => x = some c) d.serial q.serial o.serial
  idempotent : Follows (fun b x => x = b) d.idempotent q.idempotent o.idempotent
  pageSize : Follows (fun n x => x = n) d.pageSize q.pageSize o.pageSize
  timeout : Follows (fun t x => x = some t) d.timeout q.timeout o.timeout
  payload : o.payload = d.payload
  routingKey : o.routingKey = d.routingKey
  timestamp : o.timestamp = d.timestamp

/-- The options of a draft over some defaults. -/
structure Gives (d : OptionsDraft) (q : QueryDefaults) (o : ExecutionOptions) : Prop where
  inEffect : d.InEffect q o
  pageSize : o.pageSize ≠ 0
  timeout : o.timeout ≠ some .zero
  /-- A level that is no serial one is the draft's own. -/
  serial : NamesSerial o.serial ↔ NamesSerial d.serial

/-- The options with the open fields filled. -/
def filled (d : OptionsDraft) (q : QueryDefaults) : ExecutionOptions where
  keyspace := d.keyspace.or q.keyspace
  consistency := d.consistency.getD q.consistency
  serial := d.serial.or q.serial
  idempotent := d.idempotent.getD q.idempotent
  payload := d.payload
  pageSize := d.pageSize.getD q.pageSize
  timeout := d.timeout.or q.timeout
  routingKey := d.routingKey
  timestamp := d.timestamp

variable {d : OptionsDraft} {q : QueryDefaults}

theorem inEffect_filled (d : OptionsDraft) (q : QueryDefaults) : d.InEffect q (d.filled q) where
  keyspace := .of_or _ _
  consistency := .of_getD _ _
  serial := .of_or _ _
  idempotent := .of_getD _ _
  pageSize := .of_getD _ _
  timeout := .of_or _ _
  payload := rfl
  routingKey := rfl
  timestamp := rfl

theorem namesSerial_or {own usual : Option Consistency} (h : NamesSerial usual) :
    NamesSerial (own.or usual) ↔ NamesSerial own := by
  cases own with
  | none => exact iff_of_true h nofun
  | some level => rfl

theorem gives_filled (hd : d.Sound) (hq : q.Sound) : d.Gives q (d.filled q) where
  inEffect := d.inEffect_filled q
  pageSize := (getD_ne_iff hq.pageSize).2 hd.pageSize
  timeout := (or_ne_iff hq.timeout).2 hd.timeout
  serial := namesSerial_or hq.serial

/-- **A draft is built over sound defaults exactly where it asks for rows on a page and for time.** -/
theorem checks_build (d : OptionsDraft) (hq : q.Sound) : Checks d.Sound (d.Gives q) (d.build q) := by
  have hlimits : Checks (d.pageSize.getD q.pageSize ≠ 0 ∧ d.timeout.or q.timeout ≠ some .zero ∧ True) (fun _ => True)
      (checkLimits (d.pageSize.getD q.pageSize) (d.timeout.or q.timeout)) :=
    Checks.refusing (Checks.refusing (.done trivial))
  have hsteps : Checks (_ ∧ True) (· = d.filled q) (d.build q) := hlimits.bind fun _ _ => .done rfl
  have hfilled : Checks d.Sound (· = d.filled q) (d.build q) := hsteps.iff (by
    rw [getD_ne_iff hq.pageSize, or_ne_iff hq.timeout]
    exact ⟨fun h => ⟨h.1.1, h.1.2.1⟩, fun h => ⟨⟨h.pageSize, h.timeout, trivial⟩, trivial⟩⟩)
  generalize d.build q = x at hfilled
  cases hfilled with
  | accepts hd ho => exact .accepts hd (ho ▸ gives_filled hd hq)
  | refuses bad => exact .refuses bad

theorem build_open (hq : q.Sound) : ({} : OptionsDraft).build q = .ok q.options := by
  have hlimits : checkLimits q.pageSize q.timeout = .ok () := by
    rw [checkLimits, if_neg hq.pageSize, if_neg hq.timeout]
  show (checkLimits q.pageSize q.timeout >>= fun _ => .ok q.options) = .ok q.options
  rw [hlimits]
  rfl

end OptionsDraft

theorem Obtained.sound {d : OptionsDraft} {q : QueryDefaults} {x : Except Failure ExecutionOptions}
    (h : Obtained d q x) : q.Sound := by
  cases h with
  | built d => exact QueryDefaults.sound_of_build (show QueryDraft.build {} = .ok {} from rfl)
  | builtOver d accepted => exact QueryDefaults.sound_of_build accepted
  | ofDefaults accepted => exact QueryDefaults.sound_of_build accepted

/-- **The options a request gets.**  However they are obtained, a page has rows, the timeout is not zero, and open
fields are as in the defaults; they name no level but a serial one for conditional writes exactly where the draft does
not either.  A draft is refused for a page of no rows or a timeout of zero of its own and for nothing else, and one that
leaves everything open gives the options of the defaults alone. -/
theorem obtained_checks {d : OptionsDraft} {q : QueryDefaults} {x : Except Failure ExecutionOptions}
    (h : Obtained d q x) : Checks d.Sound (d.Gives q) x ∧ ({} : OptionsDraft).build q = .ok q.options := by
  have hq := h.sound
  refine ⟨?_, OptionsDraft.build_open hq⟩
  cases h with
  | built d => exact d.checks_build hq
  | builtOver d accepted => exact d.checks_build hq
  | ofDefaults accepted =>
    rw [← OptionsDraft.build_open hq]
    exact OptionsDraft.checks_build _ hq

/-- Over defaults with a serial level and no timeout, with a page size of the request's own. -/
theorem own_page_size_obtained :
    ∃ q, QueryDraft.build { serial := some .localSerial, timeout := some none } = .ok q ∧
      Checks (OptionsDraft.Sound { pageSize := some 10 }) (OptionsDraft.Gives { pageSize := some 10 } q)
        (OptionsDraft.build { pageSize := some 10 } q) ∧
      OptionsDraft.build {} q = .ok q.options := by
  have accepted : QueryDraft.build { serial := some .localSerial, timeout := some none } =
      .ok { serial := some .localSerial, timeout := none } := rfl
  exact ⟨_, accepted, obtained_checks (.builtOver _ accepted)⟩

/-- A request can name a level for conditional writes that is refused in the defaults. -/
theorem quorum_taken_as_serial :
    (∃ o, OptionsDraft.build { serial := some .quorum } = .ok o ∧ ¬NamesSerial o.serial) ∧
      QueryDraft.build { serial := some .quorum } =
        .error (.configuration "serial_consistency must be SERIAL or LOCAL_SERIAL, got QUORUM") :=
  ⟨⟨_, rfl, fun h => absurd (h .quorum rfl) (by decide)⟩, rfl⟩

end CqlDispatch
