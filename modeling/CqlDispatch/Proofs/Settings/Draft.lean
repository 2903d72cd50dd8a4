import CqlDispatch.Settings
import CqlDispatch.Proofs.Settings.Checks
/-!
# Settings of a draft

A draft is built exactly where it is sound, and then its open fields are filled with the usual settings.
-/
namespace CqlDispatch

/-- The settings of a draft that leaves everything open. -/
def Settings.usual : Settings where
  contactPoints := [localhost]
  port := usualPort
  localDatacenter := none
  connectionTimeout := usualConnectionTimeout
  query := {}
  limits := {}
  policies := .standard
  auth := none

theorem SettingsDraft.build_open : ({} : SettingsDraft).build = .ok .usual := rfl

open Settings (usual)

theorem Span.isZero_iff {t : Span} : t.isZero = true ↔ t = .zero := by
  cases t
  simp [isZero, zero]

structure QueryDraft.Sound (d : QueryDraft) : Prop where
  pageSize : d.pageSize ≠ some 0
  timeout : d.timeout ≠ some (some .zero)
  serial : ∀ level ∈ d.serial, level.isSerial = true

/-- The defaults for requests with the open fields filled. -/
def QueryDraft.filled (d : QueryDraft) : QueryDefaults where
  keyspace := d.keyspace
  consistency := d.consistency.getD usual.query.consistency
  serial := d.serial
  idempotent := d.idempotent.getD usual.query.idempotent
  pageSize := d.pageSize.getD usual.query.pageSize
  timeout := d.timeout.getD usual.query.timeout

theorem QueryDraft.checks_build (d : QueryDraft) : Checks d.Sound (· = d.filled) d.build := by
  have hlimits : Checks (d.pageSize.getD usual.query.pageSize ≠ 0 ∧ d.timeout.getD usual.query.timeout ≠ some .zero ∧
      True) (fun _ => True) (checkLimits (d.pageSize.getD usual.query.pageSize) (d.timeout.getD usual.query.timeout)) :=
    Checks.refusing (Checks.refusing (.done trivial))
  have hsound : d.Sound ↔ d.pageSize.getD usual.query.pageSize ≠ 0 ∧ d.timeout.getD usual.query.timeout ≠ some .zero ∧
      ∀ level ∈ d.serial, level.isSerial = true := by
    rw [getD_ne_iff (by decide), getD_ne_iff (by decide)]
    exact ⟨fun h => ⟨h.pageSize, h.timeout, h.serial⟩, fun ⟨h₁, h₂, h₃⟩ => ⟨h₁, h₂, h₃⟩⟩
  unfold build
  cases hs : d.serial with
  | none => exact (hlimits.bind fun _ _ => .done (by rw [filled, hs]; rfl)).iff (by simp [hsound, hs])
  | some level =>
    exact (hlimits.bind fun _ _ => Checks.refusing (.done (by rw [filled, hs]; rfl))).iff
      (by simp [hsound, hs, and_assoc])

/-- The settings with the open fields filled. -/
def SettingsDraft.filled (d : SettingsDraft) : Settings where
  contactPoints := if d.contactPoints.isEmpty then usual.contactPoints else d.contactPoints
  port := d.port.getD usual.port
  localDatacenter := d.localDatacenter
  connectionTimeout := d.connectionTimeout.getD usual.connectionTimeout
  query := d.query.filled
  limits := ⟨d.maxInFlight.getD usual.limits.maxInFlight, d.maxQueued.getD usual.limits.maxQueued⟩
  policies := d.policies.getD (.standard d.localDatacenter)
  auth := d.auth

structure SettingsDraft.Sound (d : SettingsDraft) : Prop where
  port : d.port ≠ some 0
  connectionTimeout : d.connectionTimeout ≠ some .zero
  localDatacenter : d.localDatacenter ≠ some ""
  query : d.query.Sound
  maxInFlight : d.maxInFlight ≠ some 0

theorem SettingsDraft.checks_build (d : SettingsDraft) : Checks d.Sound (· = d.filled) d.build := by
  have hlimits : Checks (d.maxInFlight.getD usual.limits.maxInFlight ≠ 0 ∧ True) (· = d.filled.limits) d.limits :=
    Checks.refusing (.done rfl)
  refine Checks.iff (Checks.refusing (Checks.refusing (Checks.refusing (d.query.checks_build.bind fun q hq =>
    hlimits.bind fun l hl => .done ?_)))) ?_
  · subst hq hl
    rfl
  · have hport : d.port.getD usual.port ≠ 0 ↔ d.port ≠ some 0 := getD_ne_iff (by decide)
    have htime : ¬(d.connectionTimeout.getD usual.connectionTimeout).isZero = true ↔
        d.connectionTimeout ≠ some .zero := by
      rw [Span.isZero_iff]
      exact getD_ne_iff (by decide)
    have hmax : d.maxInFlight.getD usual.limits.maxInFlight ≠ 0 ↔ d.maxInFlight ≠ some 0 := getD_ne_iff (by decide)
    exact ⟨fun ⟨h₁, h₂, h₃, h₄, ⟨h₅, _⟩, _⟩ => ⟨hport.1 h₁, htime.1 h₂, h₃, h₄, hmax.1 h₅⟩,
      fun h => ⟨hport.2 h.port, htime.2 h.connectionTimeout, h.localDatacenter, h.query,
        ⟨hmax.2 h.maxInFlight, trivial⟩, trivial⟩⟩

end CqlDispatch
