import CqlDispatch.Json
import CqlDispatch.Settings
import CqlDispatch.Text.Blank
import CqlDispatch.Text.Unsigned
/-!
# Settings documents

Settings as they are written down by a person: every entry may be left out, times are in
milliseconds, and policies are chosen by name.  `SettingsDocument.read` takes a document in any
format that can be looked at as a `Document`; entries it does not know are passed over, and an
entry of the wrong type makes the whole document unreadable.  `SettingsDocument.settings` turns
what was read into settings, or finds the first thing wrong with it.
-/
namespace CqlDispatch

/-- How the parts of a document are looked at.  Each part may be taken for what it can stand for. -/
class Document (δ : Type) where
  /-- What an entry holds that this part is written for: nothing where that leaves it open, and the
  outer `none` where it can be no entry. -/
  held? : δ → Option (Option δ)
  /-- The entries of a section with these names. -/
  entries? : List String → δ → Option (List (String × δ))
  items? : δ → Option (List δ)
  text? : δ → Option String
  count? : δ → Option Nat
  truth? : δ → Option Bool

namespace Document

variable {δ : Type} [Document δ]

def countUpTo? (greatest : Nat) (x : δ) : Option Nat :=
  (count? x).bind fun n => if n ≤ greatest then some n else none

def texts? (x : δ) : Option (List String) := (items? x).bind (·.mapM text?)

/-- The entry of a name, which may be open or missing, but neither wrong nor there twice. -/
def entry? {α : Type} (read : δ → Option α) (entries : List (String × δ)) (name : String) :
    Option (Option α) :=
  match entries.filter (·.1 == name) with
  | [] => some none
  | [(_, x)] => (held? x).bind fun held => held.mapM read
  | _ => none

end Document

structure QuerySection where
  keyspace : Option String := none
  consistency : Option String := none
  serialConsistency : Option String := none
  idempotent : Option Bool := none
  pageSize : Option Nat := none
  requestTimeoutMs : Option Nat := none
  deriving DecidableEq, Repr

structure PoolingSection where
  maxRequestsPerHost : Option Nat := none
  maxQueuedPerHost : Option Nat := none
  deriving DecidableEq, Repr

structure ReconnectionSection where
  kind : Option String := none
  baseDelayMs : Option Nat := none
  maxDelayMs : Option Nat := none
  startWithNoDelay : Option Bool := none
  deriving DecidableEq, Repr

structure SpeculationSection where
  delayMs : Option Nat := none
  maxExecutions : Option Nat := none
  deriving DecidableEq, Repr

structure PoliciesSection where
  retry : Option String := none
  reconnection : Option ReconnectionSection := none
  speculativeExecution : Option SpeculationSection := none
  clientTimestamps : Option Bool := none
  deriving DecidableEq, Repr

structure AuthSection where
  username : Option String := none
  password : Option String := none
  deriving DecidableEq, Repr

structure SettingsDocument where
  contactPoints : Option (List String) := none
  port : Option UInt16 := none
  localDatacenter : Option String := none
  connectionTimeoutMs : Option Nat := none
  query : Option QuerySection := none
  pooling : Option PoolingSection := none
  policies : Option PoliciesSection := none
  auth : Option AuthSection := none
  deriving DecidableEq, Repr

/-! ## Reading -/

section Reading

open Document

variable {δ : Type} [Document δ]

def QuerySection.names : List String :=
  ["keyspace", "consistency", "serial-consistency", "idempotent", "page-size", "request-timeout-ms"]

def QuerySection.read? (x : δ) : Option QuerySection := do
  let e ← entries? QuerySection.names x
  pure {
    keyspace := ← entry? text? e "keyspace"
    consistency := ← entry? text? e "consistency"
    serialConsistency := ← entry? text? e "serial-consistency"
    idempotent := ← entry? truth? e "idempotent"
    pageSize := ← entry? (countUpTo? greatest64) e "page-size"
    requestTimeoutMs := ← entry? (countUpTo? greatest64) e "request-timeout-ms" }

def PoolingSection.names : List String := ["max-requests-per-host", "max-queued-per-host"]

def PoolingSection.read? (x : δ) : Option PoolingSection := do
  let e ← entries? PoolingSection.names x
  pure {
    maxRequestsPerHost := ← entry? (countUpTo? greatest64) e "max-requests-per-host"
    maxQueuedPerHost := ← entry? (countUpTo? greatest64) e "max-queued-per-host" }

def ReconnectionSection.names : List String :=
  ["kind", "base-delay-ms", "max-delay-ms", "start-with-no-delay"]

def ReconnectionSection.read? (x : δ) : Option ReconnectionSection := do
  let e ← entries? ReconnectionSection.names x
  pure {
    kind := ← entry? text? e "kind"
    baseDelayMs := ← entry? (countUpTo? greatest64) e "base-delay-ms"
    maxDelayMs := ← entry? (countUpTo? greatest64) e "max-delay-ms"
    startWithNoDelay := ← entry? truth? e "start-with-no-delay" }

def SpeculationSection.names : List String := ["delay-ms", "max-executions"]

def SpeculationSection.read? (x : δ) : Option SpeculationSection := do
  let e ← entries? SpeculationSection.names x
  pure {
    delayMs := ← entry? (countUpTo? greatest64) e "delay-ms"
    maxExecutions := ← entry? (countUpTo? greatest32) e "max-executions" }

def PoliciesSection.names : List String :=
  ["retry", "reconnection", "speculative-execution", "client-timestamps"]

def PoliciesSection.read? (x : δ) : Option PoliciesSection := do
  let e ← entries? PoliciesSection.names x
  pure {
    retry := ← entry? text? e "retry"
    reconnection := ← entry? ReconnectionSection.read? e "reconnection"
    speculativeExecution := ← entry? SpeculationSection.read? e "speculative-execution"
    clientTimestamps := ← entry? truth? e "client-timestamps" }

def AuthSection.names : List String := ["username", "password"]

def AuthSection.read? (x : δ) : Option AuthSection := do
  let e ← entries? AuthSection.names x
  pure { username := ← entry? text? e "username", password := ← entry? text? e "password" }

def SettingsDocument.names : List String :=
  ["contact-points", "port", "local-datacenter", "connection-timeout-ms", "query", "pooling",
    "policies", "auth"]

def SettingsDocument.read? (x : δ) : Option SettingsDocument := do
  let e ← entries? SettingsDocument.names x
  pure {
    contactPoints := ← entry? texts? e "contact-points"
    port := (← entry? (countUpTo? greatest16) e "port").map UInt16.ofNat
    localDatacenter := ← entry? text? e "local-datacenter"
    connectionTimeoutMs := ← entry? (countUpTo? greatest64) e "connection-timeout-ms"
    query := ← entry? QuerySection.read? e "query"
    pooling := ← entry? PoolingSection.read? e "pooling"
    policies := ← entry? PoliciesSection.read? e "policies"
    auth := ← entry? AuthSection.read? e "auth" }

end Reading

/-! ## Writing

A document is written with all its entries in their order, the open ones as null.
-/

/-- What an entry holds, or null where it is open. -/
def Json.entry {α : Type} (write : α → Json) (x : Option α) : Json := (x.map write).getD .null

open Json in
def QuerySection.json (s : QuerySection) : Json :=
  object [("keyspace", entry string s.keyspace), ("consistency", entry string s.consistency),
    ("serial-consistency", entry string s.serialConsistency),
    ("idempotent", entry bool s.idempotent), ("page-size", entry ofNat s.pageSize),
    ("request-timeout-ms", entry ofNat s.requestTimeoutMs)]

open Json in
def PoolingSection.json (s : PoolingSection) : Json :=
  object [("max-requests-per-host", entry ofNat s.maxRequestsPerHost),
    ("max-queued-per-host", entry ofNat s.maxQueuedPerHost)]

open Json in
def ReconnectionSection.json (s : ReconnectionSection) : Json :=
  object [("kind", entry string s.kind), ("base-delay-ms", entry ofNat s.baseDelayMs),
    ("max-delay-ms", entry ofNat s.maxDelayMs),
    ("start-with-no-delay", entry bool s.startWithNoDelay)]

open Json in
def SpeculationSection.json (s : SpeculationSection) : Json :=
  object [("delay-ms", entry ofNat s.delayMs), ("max-executions", entry ofNat s.maxExecutions)]

open Json in
def PoliciesSection.json (s : PoliciesSection) : Json :=
  object [("retry", entry string s.retry),
    ("reconnection", entry ReconnectionSection.json s.reconnection),
    ("speculative-execution", entry SpeculationSection.json s.speculativeExecution),
    ("client-timestamps", entry bool s.clientTimestamps)]

open Json in
def AuthSection.json (s : AuthSection) : Json :=
  object [("username", entry string s.username), ("password", entry string s.password)]

def AuthSection.describe (s : AuthSection) : String :=
  let shown (x : Option String) : String :=
    match x with
    | some t => "Some(" ++ quoted t ++ ")"
    | none => "None"
  "FileAuthConfig \x7b username: " ++ shown s.username ++ ", password: " ++
    shown (s.password.map fun _ => "***") ++ " \x7d"

open Json in
def SettingsDocument.json (d : SettingsDocument) : Json :=
  object [("contact-points", entry (fun ps => array (ps.map string)) d.contactPoints),
    ("port", entry (fun p => ofNat p.toNat) d.port),
    ("local-datacenter", entry string d.localDatacenter),
    ("connection-timeout-ms", entry ofNat d.connectionTimeoutMs),
    ("query", entry QuerySection.json d.query), ("pooling", entry PoolingSection.json d.pooling),
    ("policies", entry PoliciesSection.json d.policies), ("auth", entry AuthSection.json d.auth)]

/-! ## From documents to settings -/

def readContactPoint (p : String) : Except Failure Ip :=
  match Ip.parse? (trim p) with
  | some ip => .ok ip
  | none => .error (.configuration ("invalid contact point '" ++ p ++ "': invalid IP address syntax"))

def readLevel (entry : String) (name : String) : Except Failure Consistency :=
  match Consistency.parse name with
  | .ok c => .ok c
  | .error m => .error (.configuration ("invalid " ++ entry ++ ": " ++ m))

def QuerySection.draft (s : QuerySection) : Except Failure QueryDraft := do
  let consistency ← s.consistency.mapM (readLevel "consistency")
  let serial ← s.serialConsistency.mapM (readLevel "serial-consistency")
  pure {
    keyspace := s.keyspace
    consistency := consistency
    serial := serial
    idempotent := s.idempotent
    pageSize := s.pageSize
    timeout := s.requestTimeoutMs.map fun ms => if ms = 0 then none else some (.ofMillis ms) }

def readRetryPolicy (name : String) : Except Failure RetryPolicy :=
  match lowerAscii (trim name) with
  | "default" => .ok .standard
  | "idempotence-aware" => .ok (.idempotenceAware .standard)
  | "fallthrough" => .ok .fallthrough
  | other =>
    .error (.configuration ("unknown retry policy: " ++ other ++
      " (expected default, idempotence-aware, or fallthrough)"))

/-- A refusal of an argument as one of the settings. -/
def asConfiguration {α : Type} : Except Failure α → Except Failure α
  | .ok x => .ok x
  | .error f => .error (.configuration f.message)

def ReconnectionSection.backoff (s : ReconnectionSection) : Except Failure Backoff :=
  let base := (s.baseDelayMs.map Span.ofMillis).getD Backoff.defaultBase
  match s.kind.getD "exponential" with
  | "constant" => .ok (.constant base)
  | "exponential" =>
    let longest := (s.maxDelayMs.map Span.ofMillis).getD Backoff.defaultLongest
    asConfiguration (Backoff.exponential? base longest (s.startWithNoDelay.getD false))
  | other =>
    .error (.configuration ("unknown reconnection policy kind: " ++ other ++
      " (expected constant or exponential)"))

def SpeculationSection.speculation (s : SpeculationSection) : Except Failure Speculation :=
  asConfiguration
    (Speculation.constant? (.ofMillis (s.delayMs.getD 0)) (s.maxExecutions.getD 1))

/-- The usual policies but for those that the section chooses. -/
def PoliciesSection.policies (s : PoliciesSection) (localDc : Option String) :
    Except Failure Policies := do
  let usual := Policies.standard localDc
  let retry ← s.retry.mapM readRetryPolicy
  let backoff ← s.reconnection.mapM (·.backoff)
  let speculation ← s.speculativeExecution.mapM (·.speculation)
  pure { usual with
    retry := retry.getD usual.retry
    backoff := backoff.getD usual.backoff
    speculation := speculation.getD usual.speculation
    timestamps := if s.clientTimestamps = some false then none else usual.timestamps }

/-- A user name and a password, or neither. -/
def AuthSection.credentials (s : AuthSection) : Except Failure (Option Credentials) :=
  match s.username, s.password with
  | some username, some password => .ok (some ⟨username, password⟩)
  | none, none => .ok none
  | _, _ => .error (.configuration "auth requires both username and password")

def SettingsDocument.draft (d : SettingsDocument) : Except Failure SettingsDraft := do
  let contactPoints ← (d.contactPoints.getD []).mapM readContactPoint
  let query ← (d.query.getD {}).draft
  let policies ← d.policies.mapM (·.policies d.localDatacenter)
  let credentials ← (d.auth.getD {}).credentials
  pure {
    contactPoints := contactPoints
    port := d.port
    localDatacenter := d.localDatacenter
    connectionTimeout := d.connectionTimeoutMs.map Span.ofMillis
    query := query
    maxInFlight := d.pooling.bind (·.maxRequestsPerHost)
    maxQueued := d.pooling.bind (·.maxQueuedPerHost)
    policies := policies
    auth := credentials.map .credentials }

def SettingsDocument.settings (d : SettingsDocument) : Except Failure Settings :=
  d.draft.bind (·.build)

/-! ## JSON as a document

A section may also be written as the list of its values in the order of its entries.
-/

instance : Document Json where
  held?
    | .null => some none
    | x => some (some x)
  entries? names
    | .object members => some members
    | .array items => if items.length ≤ names.length then some (names.zip items) else none
    | _ => none
  items?
    | .array items => some items
    | _ => none
  text?
    | .string s => some s
    | _ => none
  count?
    | .number t => natOfDigits? t.toList
    | _ => none
  truth?
    | .bool b => some b
    | _ => none

end CqlDispatch
