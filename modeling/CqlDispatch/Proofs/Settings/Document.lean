import CqlDispatch.Settings.Document
import CqlDispatch.Proofs.Settings.Draft
/-!
# What a document sets

Settings come of a document exactly where its entries are valid (`SettingsDocument.Valid`); then each entry that is
there is in effect, and where it is not, what a draft that leaves everything open gives (`SettingsDocument.InEffect`).
A draft takes the entries over (`checks_draft`), which leaves some of them to be checked when it is built
(`Drafted.sound_iff`).  A section that is left out is as an empty one (`settings_take_effect`).
-/
namespace CqlDispatch

open Settings (usual)

/-! ## The query section -/

namespace QuerySection

structure Valid (s : QuerySection) : Prop where
  consistency : ∀ name ∈ s.consistency, ∃ level, Consistency.parse name = .ok level
  serial : ∀ name ∈ s.serialConsistency, ∃ level ∈ [Consistency.serial, .localSerial],
    Consistency.parse name = .ok level
  pageSize : s.pageSize ≠ some 0

structure InEffect (s : QuerySection) (q : QueryDefaults) : Prop where
  keyspace : q.keyspace = s.keyspace
  consistency : Follows (fun name c => Consistency.parse name = .ok c) s.consistency usual.query.consistency
    q.consistency
  serial : Follows (fun name c => ∃ level, Consistency.parse name = .ok level ∧ c = some level) s.serialConsistency
    usual.query.serial q.serial
  idempotent : Follows (fun b x => x = b) s.idempotent usual.query.idempotent q.idempotent
  pageSize : Follows (fun n x => x = n) s.pageSize usual.query.pageSize q.pageSize
  /-- Zero stands for no timeout. -/
  timeout : Follows (fun ms x => x = if ms = 0 then none else some (.ofMillis ms)) s.requestTimeoutMs
    usual.query.timeout q.timeout

end QuerySection

/-! ## The other sections -/

/-- The policies for retries by name. -/
def retryPolicies : List (String × RetryPolicy) :=
  [("default", .standard), ("idempotence-aware", .idempotenceAware .standard), ("fallthrough", .fallthrough)]

namespace ReconnectionSection

def kindOrUsual (s : ReconnectionSection) : String := s.kind.getD "exponential"
def base (s : ReconnectionSection) : Nat := s.baseDelayMs.getD 1000
def longest (s : ReconnectionSection) : Nat := s.maxDelayMs.getD 600000

def Valid (s : ReconnectionSection) : Prop :=
  s.kindOrUsual = "constant" ∨ s.kindOrUsual = "exponential" ∧ 0 < s.base ∧ s.base ≤ s.longest

/-- A constant backoff makes no use of the longest delay and of a start without one. -/
def InEffect (s : ReconnectionSection) (b : Backoff) : Prop :=
  s.kindOrUsual = "constant" ∧ b = .constant (.ofMillis s.base) ∨
    s.kindOrUsual = "exponential" ∧
      b = .exponential (.ofMillis s.base) (.ofMillis s.longest) (s.startWithNoDelay.getD false)

end ReconnectionSection

namespace PoliciesSection

structure Valid (s : PoliciesSection) : Prop where
  retry : ∀ name ∈ s.retry, lowerAscii (trim name) ∈ retryPolicies.map (·.1)
  reconnection : ∀ r ∈ s.reconnection, r.Valid
  speculation : ∀ x ∈ s.speculativeExecution, x.maxExecutions.getD 1 ≠ 0

structure InEffect (s : PoliciesSection) (p : Policies) : Prop where
  retry : Follows (fun name x => (lowerAscii (trim name), x) ∈ retryPolicies) s.retry usual.policies.retry p.retry
  backoff : Follows ReconnectionSection.InEffect s.reconnection usual.policies.backoff p.backoff
  speculation : Follows (fun e x => x = .constant (.ofMillis (e.delayMs.getD 0)) (e.maxExecutions.getD 1))
    s.speculativeExecution usual.policies.speculation p.speculation
  timestamps : Follows (fun on x => x = if on then usual.policies.timestamps else none) s.clientTimestamps
    usual.policies.timestamps p.timestamps
  translator : p.translator = usual.policies.translator

end PoliciesSection

namespace AuthSection

def Valid (s : AuthSection) : Prop := s.username = none ↔ s.password = none

def InEffect (s : AuthSection) (p : Option AuthProvider) : Prop :=
  (∃ username password, s.username = some username ∧ s.password = some password ∧
      p = some (.credentials ⟨username, password⟩)) ∨
    s.username = none ∧ s.password = none ∧ p = usual.auth

end AuthSection

/-! ## The document -/

namespace SettingsDocument

structure Valid (d : SettingsDocument) : Prop where
  contactPoints : ∀ p ∈ d.contactPoints.getD [], ∃ ip, Ip.parse? (trim p) = some ip
  port : d.port ≠ some 0
  localDatacenter : d.localDatacenter ≠ some ""
  connectionTimeout : d.connectionTimeoutMs ≠ some 0
  query : (d.query.getD {}).Valid
  pooling : (d.pooling.getD {}).maxRequestsPerHost ≠ some 0
  policies : (d.policies.getD {}).Valid
  auth : (d.auth.getD {}).Valid

structure InEffect (d : SettingsDocument) (s : Settings) : Prop where
  contactPoints : d.contactPoints.getD [] ≠ [] ∧
      List.Forall₂ (fun p ip => Ip.parse? (trim p) = some ip) (d.contactPoints.getD []) s.contactPoints ∨
    d.contactPoints.getD [] = [] ∧ s.contactPoints = usual.contactPoints
  port : Follows (fun p x => x = p) d.port usual.port s.port
  localDatacenter : s.localDatacenter = d.localDatacenter
  connectionTimeout : Follows (fun ms x => x = .ofMillis ms) d.connectionTimeoutMs usual.connectionTimeout
    s.connectionTimeout
  query : (d.query.getD {}).InEffect s.query
  maxInFlight : Follows (fun n x => x = n) (d.pooling.getD {}).maxRequestsPerHost usual.limits.maxInFlight
    s.limits.maxInFlight
  maxQueued : Follows (fun n x => x = n) (d.pooling.getD {}).maxQueuedPerHost usual.limits.maxQueued
    s.limits.maxQueued
  /-- The local datacenter is in effect whether there are policies or not. -/
  balancer : s.policies.balancer = .standard d.localDatacenter
  policies : (d.policies.getD {}).InEffect s.policies
  auth : (d.auth.getD {}).InEffect s.auth

end SettingsDocument

/-! ## From entries to a draft -/

theorem Span.ofMillis_eq_zero {n : Nat} : ofMillis n = .zero ↔ n = 0 := by
  rw [ofMillis, zero, mk.injEq]
  omega

theorem Span.ofMillis_lt {m n : Nat} : (ofMillis m).nanos < (ofMillis n).nanos ↔ m < n :=
  Nat.mul_lt_mul_right (by decide)

theorem checks_contactPoint (p : String) :
    Checks (∃ ip, Ip.parse? (trim p) = some ip) (fun ip => Ip.parse? (trim p) = some ip) (readContactPoint p) := by
  unfold readContactPoint
  cases h : Ip.parse? (trim p) with
  | some ip => exact .accepts ⟨ip, rfl⟩ rfl
  | none => exact .refuses fun ⟨ip, he⟩ => by cases he

theorem checks_level (entry name : String) :
    Checks (∃ level, Consistency.parse name = .ok level) (fun level => Consistency.parse name = .ok level)
      (readLevel entry name) := by
  unfold readLevel
  cases h : Consistency.parse name with
  | ok level => exact .accepts ⟨level, rfl⟩ rfl
  | error m => exact .refuses fun ⟨level, he⟩ => by cases he

theorem checks_retry (name : String) :
    Checks (lowerAscii (trim name) ∈ retryPolicies.map (·.1)) (fun x => (lowerAscii (trim name), x) ∈ retryPolicies)
      (readRetryPolicy name) := by
  unfold readRetryPolicy
  split
  case h_1 _ h | h_2 _ h | h_3 _ h =>
    rw [h]
    exact .accepts (by simp [retryPolicies]) (by simp [retryPolicies])
  case h_4 _ h₁ h₂ h₃ =>
    refine .refuses fun h => ?_
    simp only [retryPolicies, List.map_cons, List.map_nil, List.mem_cons, List.not_mem_nil, or_false] at h
    exact h.elim h₁ (Or.elim · h₂ h₃)

theorem ReconnectionSection.checks_backoff (s : ReconnectionSection) : Checks s.Valid s.InEffect s.backoff := by
  have hbase : (s.baseDelayMs.map Span.ofMillis).getD Backoff.defaultBase = .ofMillis s.base := by
    unfold base
    cases s.baseDelayMs <;> rfl
  have hlongest : (s.maxDelayMs.map Span.ofMillis).getD Backoff.defaultLongest = .ofMillis s.longest := by
    unfold longest
    cases s.maxDelayMs <;> rfl
  unfold backoff
  simp only [hbase, hlongest]
  split
  case h_1 _ h => exact .accepts (.inl h) (.inl ⟨h, rfl⟩)
  case h_2 _ h =>
    have hvalid : s.Valid ↔ 0 < s.base ∧ s.base ≤ s.longest := by
      unfold Valid
      simp [show s.kindOrUsual = "exponential" from h]
    unfold Backoff.exponential?
    by_cases hzero : s.base = 0
    · rw [if_pos (Span.isZero_iff.2 (Span.ofMillis_eq_zero.2 hzero))]
      exact .refuses fun hv => by have := hvalid.1 hv; omega
    · rw [if_neg (mt (Span.ofMillis_eq_zero.1 ∘ Span.isZero_iff.1) hzero)]
      by_cases hlt : s.longest < s.base
      · rw [if_pos (Span.ofMillis_lt.2 hlt)]
        exact .refuses fun hv => by have := hvalid.1 hv; omega
      · rw [if_neg (mt Span.ofMillis_lt.1 hlt)]
        exact .accepts (hvalid.2 (by omega)) (.inr ⟨h, rfl⟩)
  case h_3 _ h₁ h₂ => exact .refuses fun hv => hv.elim h₁ fun hv => h₂ hv.1

theorem SpeculationSection.checks_speculation (s : SpeculationSection) :
    Checks (s.maxExecutions.getD 1 ≠ 0)
      (fun x => x = .constant (.ofMillis (s.delayMs.getD 0)) (s.maxExecutions.getD 1)) s.speculation := by
  unfold speculation Speculation.constant?
  by_cases h : s.maxExecutions.getD 1 = 0
  · rw [if_pos h]
    exact .refuses fun hne => hne h
  · rw [if_neg h]
    exact .accepts h rfl

theorem PoliciesSection.checks_policies (s : PoliciesSection) (localDc : Option String) :
    Checks s.Valid (fun p => p.balancer = .standard localDc ∧ s.InEffect p) (s.policies localDc) := by
  refine Checks.iff ((Checks.option checks_retry s.retry).bind fun retry hretry =>
    (Checks.option (·.checks_backoff) s.reconnection).bind fun backoff hbackoff =>
      (Checks.option (·.checks_speculation) s.speculativeExecution).bind fun speculation hspeculation =>
        .done ⟨rfl, .of_rel hretry _, .of_rel hbackoff _, .of_rel hspeculation _, ?_, rfl⟩) ?_
  · cases s.clientTimestamps with
    | none => rfl
    | some on => cases on <;> rfl
  · exact ⟨fun ⟨h₁, h₂, h₃, _⟩ => ⟨h₁, h₂, h₃⟩, fun h => ⟨h.retry, h.reconnection, h.speculation, trivial⟩⟩

theorem AuthSection.checks_credentials (s : AuthSection) :
    Checks s.Valid (fun c => s.InEffect (c.map .credentials)) s.credentials := by
  unfold credentials Valid InEffect
  split
  · rename_i username password hu hp
    exact .accepts (by simp [hu, hp]) (.inl ⟨username, password, hu, hp, rfl⟩)
  · rename_i hu hp
    exact .accepts (by simp [hu, hp]) (.inr ⟨hu, hp, rfl⟩)
  · rename_i hboth hneither
    refine .refuses fun h => ?_
    cases hu : s.username with
    | none => exact hneither hu (h.1 hu)
    | some username =>
      cases hp : s.password with
      | none => rw [h.2 hp] at hu; cases hu
      | some password => exact hboth username password hu hp

/-- What a draft takes from a section for queries. -/
structure QuerySection.Drafted (s : QuerySection) (q : QueryDraft) : Prop where
  consistency : Option.Rel (fun name level => Consistency.parse name = .ok level) s.consistency q.consistency
  serial : Option.Rel (fun name level => Consistency.parse name = .ok level) s.serialConsistency q.serial
  keyspace : q.keyspace = s.keyspace
  idempotent : q.idempotent = s.idempotent
  pageSize : q.pageSize = s.pageSize
  timeout : q.timeout = s.requestTimeoutMs.map fun ms => if ms = 0 then none else some (.ofMillis ms)

theorem QuerySection.checks_draft (s : QuerySection) :
    Checks ((∀ name ∈ s.consistency, ∃ level, Consistency.parse name = .ok level) ∧
      (∀ name ∈ s.serialConsistency, ∃ level, Consistency.parse name = .ok level) ∧ True) s.Drafted s.draft :=
  (Checks.option (checks_level "consistency") _).bind fun _ hc =>
    (Checks.option (checks_level "serial-consistency") _).bind fun _ hs => .done ⟨hc, hs, rfl, rfl, rfl, rfl⟩

theorem Consistency.isSerial_iff {level : Consistency} :
    level.isSerial = true ↔ level ∈ [Consistency.serial, .localSerial] := by
  cases level <;> decide

/-! ## From a document to settings -/

/-- Without a section the usual policies are in effect, as with an empty one. -/
theorem PoliciesSection.inEffect_of_rel {entry : Option PoliciesSection} {chosen : Option Policies}
    {localDc : Option String}
    (h : Option.Rel (fun s p => p.balancer = .standard localDc ∧ s.InEffect p) entry chosen) :
    (chosen.getD (.standard localDc)).balancer = .standard localDc ∧
      (entry.getD {}).InEffect (chosen.getD (.standard localDc)) := by
  cases h with
  | none => exact ⟨rfl, rfl, rfl, rfl, rfl, rfl⟩
  | some h => exact h

namespace SettingsDocument

/-- What a draft takes from a document. -/
structure Drafted (d : SettingsDocument) (r : SettingsDraft) : Prop where
  contactPoints : List.Forall₂ (fun p ip => Ip.parse? (trim p) = some ip) (d.contactPoints.getD []) r.contactPoints
  query : (d.query.getD {}).Drafted r.query
  policies : Option.Rel (fun s p => p.balancer = .standard d.localDatacenter ∧ s.InEffect p) d.policies r.policies
  auth : (d.auth.getD {}).InEffect r.auth
  port : r.port = d.port
  localDatacenter : r.localDatacenter = d.localDatacenter
  connectionTimeout : r.connectionTimeout = d.connectionTimeoutMs.map .ofMillis
  maxInFlight : r.maxInFlight = (d.pooling.getD {}).maxRequestsPerHost
  maxQueued : r.maxQueued = (d.pooling.getD {}).maxQueuedPerHost

theorem checks_draft (d : SettingsDocument) :
    Checks ((∀ p ∈ d.contactPoints.getD [], ∃ ip, Ip.parse? (trim p) = some ip) ∧
      ((∀ name ∈ (d.query.getD {}).consistency, ∃ level, Consistency.parse name = .ok level) ∧
        (∀ name ∈ (d.query.getD {}).serialConsistency, ∃ level, Consistency.parse name = .ok level) ∧ True) ∧
      (∀ s ∈ d.policies, s.Valid) ∧ (d.auth.getD {}).Valid ∧ True) d.Drafted d.draft :=
  (Checks.list checks_contactPoint _).bind fun _ hpoints => (d.query.getD {}).checks_draft.bind fun _ hquery =>
    (Checks.option (·.checks_policies d.localDatacenter) _).bind fun _ hpolicies =>
      (d.auth.getD {}).checks_credentials.bind fun _ hauth =>
        .done ⟨hpoints, hquery, hpolicies, hauth, rfl, rfl, rfl, by cases d.pooling <;> rfl,
          by cases d.pooling <;> rfl⟩

variable {d : SettingsDocument} {r : SettingsDraft}

theorem Drafted.inEffect (h : d.Drafted r) : d.InEffect r.filled := by
  have hpolicies := PoliciesSection.inEffect_of_rel h.policies
  rw [← h.localDatacenter] at hpolicies
  refine {
    contactPoints := ?_
    port := h.port ▸ .of_getD r.port _
    localDatacenter := h.localDatacenter
    connectionTimeout := ?_
    query := {
      keyspace := h.query.keyspace
      consistency := .of_rel h.query.consistency _
      serial := .of_rel_some h.query.serial
      idempotent := h.query.idempotent ▸ .of_getD r.query.idempotent _
      pageSize := h.query.pageSize ▸ .of_getD r.query.pageSize _
      timeout := ?_ }
    maxInFlight := h.maxInFlight ▸ .of_getD r.maxInFlight _
    maxQueued := h.maxQueued ▸ .of_getD r.maxQueued _
    balancer := h.localDatacenter ▸ hpolicies.1
    policies := hpolicies.2
    auth := h.auth }
  · have hpoints := h.contactPoints
    unfold SettingsDraft.filled
    by_cases hnone : d.contactPoints.getD [] = []
    · rw [hnone, List.forall₂_nil_left_iff] at hpoints
      exact .inr ⟨hnone, by rw [hpoints]; rfl⟩
    · have hsome : r.contactPoints ≠ [] := fun hnil => by
        rw [hnil, List.forall₂_nil_right_iff] at hpoints
        exact hnone hpoints
      refine .inl ⟨hnone, ?_⟩
      rw [if_neg (by simpa using hsome)]
      exact hpoints
  · show Follows _ _ _ (r.connectionTimeout.getD usual.connectionTimeout)
    rw [h.connectionTimeout]
    exact .of_map _ _ _
  · show Follows _ _ _ (r.query.timeout.getD usual.query.timeout)
    rw [h.query.timeout]
    exact .of_map _ _ _

/-- What is left to check of a draft that was taken from a document. -/
theorem Drafted.sound_iff (h : d.Drafted r) : r.Sound ↔
    (d.port ≠ some 0 ∧ d.connectionTimeoutMs ≠ some 0 ∧ d.localDatacenter ≠ some "" ∧
      (d.query.getD {}).pageSize ≠ some 0 ∧ (d.pooling.getD {}).maxRequestsPerHost ≠ some 0) ∧
    ∀ name ∈ (d.query.getD {}).serialConsistency, ∀ level, Consistency.parse name = .ok level →
      level.isSerial = true := by
  have htime : r.connectionTimeout ≠ some .zero ↔ d.connectionTimeoutMs ≠ some 0 := by
    rw [h.connectionTimeout]
    cases d.connectionTimeoutMs <;> simp [Span.ofMillis_eq_zero]
  have hpositive : r.query.timeout ≠ some (some .zero) := by
    rw [h.query.timeout]
    cases (d.query.getD {}).requestTimeoutMs with
    | none => simp
    | some ms => by_cases hms : ms = 0 <;> simp [hms, Span.ofMillis_eq_zero]
  rw [← h.port, ← htime, ← h.localDatacenter, ← h.query.pageSize, ← h.maxInFlight,
    ← rel_ok_iff h.query.serial]
  exact ⟨fun hr => ⟨⟨hr.port, hr.connectionTimeout, hr.localDatacenter, hr.query.pageSize, hr.maxInFlight⟩,
      hr.query.serial⟩,
    fun ⟨⟨h₁, h₂, h₃, h₄, h₅⟩, h₆⟩ => ⟨h₁, h₂, h₃, ⟨h₄, hpositive, h₆⟩, h₅⟩⟩

theorem checks_settings (d : SettingsDocument) : Checks d.Valid d.InEffect d.settings := by
  have steps := d.checks_draft.bind fun r hr => (r.checks_build.iff hr.sound_iff).imp fun _ he => he ▸ hr.inEffect
  have hpolicies : (∀ s ∈ d.policies, s.Valid) ↔ (d.policies.getD {}).Valid := by
    cases d.policies with
    | none => exact iff_of_true (by simp) ⟨by simp, by simp, by simp⟩
    | some s => simp
  refine Checks.iff steps ⟨?_, fun h => ?_⟩
  · rintro ⟨⟨hpoints, ⟨hconsistency, hparse, -⟩, hsections, hauth, -⟩, ⟨h₁, h₂, h₃, h₄, h₅⟩, hserial⟩
    refine ⟨hpoints, h₁, h₃, h₂, ⟨hconsistency, fun name hname => ?_, h₄⟩, h₅, hpolicies.1 hsections, hauth⟩
    obtain ⟨level, hlevel⟩ := hparse name hname
    exact ⟨level, Consistency.isSerial_iff.1 (hserial name hname level hlevel), hlevel⟩
  · refine ⟨⟨h.contactPoints, ⟨h.query.consistency, fun name hname => ?_, trivial⟩, hpolicies.2 h.policies, h.auth,
      trivial⟩, ⟨h.port, h.connectionTimeout, h.localDatacenter, h.query.pageSize, h.pooling⟩,
      fun name hname level hlevel => ?_⟩
    · obtain ⟨level, -, hlevel⟩ := h.query.serial name hname
      exact ⟨level, hlevel⟩
    · obtain ⟨level', hserial, hlevel'⟩ := h.query.serial name hname
      cases hlevel.symm.trans hlevel'
      exact Consistency.isSerial_iff.2 hserial

/-- Policies that leave everything to the usual ones are the policies of a draft without any. -/
theorem settings_open_policies (d : SettingsDocument) :
    { d with policies := some {} }.settings = { d with policies := none }.settings := by
  unfold settings draft
  cases (d.contactPoints.getD []).mapM readContactPoint with
  | error => rfl
  | ok points =>
    cases (d.query.getD {}).draft with
    | error => rfl
    | ok query => cases (d.auth.getD {}).credentials <;> rfl

/-- **What a document sets.**  Settings come of a document exactly where it is valid.  Every entry that is there is
then in effect, but that a constant backoff makes no use of a longest delay and of a start without delay; whatever is
left open is as the builder has it.  An empty section gives the same as none. -/
theorem settings_take_effect (d : SettingsDocument) :
    Checks d.Valid d.InEffect d.settings ∧ ({} : SettingsDraft).build = .ok usual ∧
      { d with query := some {} }.settings = { d with query := none }.settings ∧
      { d with pooling := some {} }.settings = { d with pooling := none }.settings ∧
      { d with policies := some {} }.settings = { d with policies := none }.settings ∧
      (∀ s : PoliciesSection, { d with policies := some { s with reconnection := some {} } }.settings =
        { d with policies := some { s with reconnection := none } }.settings) ∧
      { d with auth := some {} }.settings = { d with auth := none }.settings :=
  ⟨d.checks_settings, SettingsDraft.build_open, rfl, rfl, d.settings_open_policies, fun _ => rfl, rfl⟩

/-- A constant backoff that is to start without a delay waits all the same. -/
theorem constant_start_waits :
    ∃ s, settings { policies := some { reconnection := some { kind := "constant", startWithNoDelay := true } } } =
        .ok s ∧
      (s.policies.backoff.schedule 0).next.map (·.1) ≠ some .zero :=
  ⟨_, rfl, by decide⟩

end SettingsDocument

end CqlDispatch
