import CqlDispatch.Client
import CqlDispatch.Proofs.Plan.Pull
/-!
# Runs of one request

A request by itself: it starts on a plan and then makes moves, each with what requests share as it
is at that moment.  Between two moves anything may happen to hosts, slots, other requests and the
clock, so a run is a list of moves with the surroundings of each.

The search for a host is opened once, here.  `proceed_rule` says what holds at its end, given what
every pull, every host passed over and every refused slot keeps; `answer_rule` does the same for
the answer to an attempt and `move_cases` for a move.  Later proofs use these rules and unfold
none of the functions.
-/
namespace CqlDispatch

/-- A statement about every place in a list, at the head and behind it. -/
theorem forall_split_cons {α : Type} {P : List α → α → List α → Prop} {x : α} {l : List α} :
    (∀ pre y post, x :: l = pre ++ y :: post → P pre y post) ↔
      P [] x l ∧ ∀ pre y post, l = pre ++ y :: post → P (x :: pre) y post := by
  constructor
  · intro h
    exact ⟨h [] x l rfl, fun pre y post hs => h (x :: pre) y post (by rw [hs]; rfl)⟩
  · rintro ⟨h0, h⟩ pre y post hs
    cases pre with
    | nil =>
      simp only [List.nil_append, List.cons.injEq] at hs
      obtain ⟨rfl, rfl⟩ := hs
      exact h0
    | cons z pre =>
      simp only [List.cons_append, List.cons.injEq] at hs
      obtain ⟨rfl, hs⟩ := hs
      exact h pre y post hs

namespace Request

/-! ## Moves -/

/-- What a live request can do next. -/
inductive Move where
  | answer (execution : Nat) (answer : Answer)
  | resume (execution : Nat)
  | speculate
  | expire
  | cancel

/-- Makes a move, if the request is live and the move is possible. -/
def move? (p : Policies) (s : Shared) (r : Request) (m : Move) : Option (Shared × Request) :=
  if r.isLive then
    match m with
    | .answer e a => if Client.isInFlight r e then some (r.answer p s e a) else none
    | .resume e => if Client.canResume s r e then some (r.resume s e) else none
    | .speculate => if Client.isDue r.nextSpeculative s.now then some (r.speculate p s) else none
    | .expire => if Client.isDue r.deadline s.now then some (r.expire s) else none
    | .cancel => some (r.cancel s)
  else none

def run? (p : Policies) (r : Request) : List (Shared × Move) → Option Request
  | [] => some r
  | (s, m) :: rest => (r.move? p s m).bind fun out => out.2.run? p rest

/-- What every move of a kind keeps, a run of such moves keeps. -/
theorem run?_keeps {p : Policies} {I : Request → Prop} {A : Move → Prop}
    (step : ∀ {s r m out}, A m → I r → r.move? p s m = some out → I out.2) :
    ∀ {moves : List (Shared × Move)} {r r' : Request}, (∀ m ∈ moves, A m.2) → I r →
      r.run? p moves = some r' → I r'
  | [], r, r', _, hI, h => by
    simp only [run?, Option.some.injEq] at h
    exact h ▸ hI
  | (s, m) :: rest, r, r', ha, hI, h => by
    simp only [run?, Option.bind_eq_some_iff] at h
    obtain ⟨out, hm, hrest⟩ := h
    have hout := step (ha (s, m) List.mem_cons_self) hI hm
    exact run?_keeps step (fun x hx => ha x (List.mem_cons_of_mem _ hx)) hout hrest

def oneHost : Shared := { cluster := (({} : Cluster).add { address := default }).2, admission := {} }

def twoHosts : Shared :=
  { cluster := ((({} : Cluster).add { address := ⟨.v4 1, 0⟩ }).2.add { address := ⟨.v4 2, 0⟩ }).2, admission := {} }

/-! ## The events of a request -/

def events (r : Request) : List RequestEvent := r.trace.map (·.event)

@[simp] theorem events_without (r : Request) (i : Nat) : (r.without i).events = r.events := rfl

@[simp] theorem executions_record (r : Request) (s : Shared) (e : RequestEvent) :
    (r.record s e).executions = r.executions := rfl

theorem send_events (s : Shared) (r : Request) (i : Nat) (c : Consistency) (h : HostId) (t : Ticket) :
    (r.send s i c h t).2.events = .sent ⟨h, (s.host h).address, i, c, r.timestamp⟩ :: r.events := rfl

theorem send_executions (s : Shared) (r : Request) (i : Nat) (c : Consistency) (h : HostId)
    (t : Ticket) : (r.send s i c h t).2.executions =
      r.executions ++ [⟨i, c, .inFlight h (s.host h).address t⟩] := rfl

theorem isLive_iff {r : Request} : r.isLive = true ↔ r.outcome = none ∧ r.lost = none := by
  unfold isLive
  rw [Bool.and_eq_true, Option.isNone_iff_eq_none, Option.isNone_iff_eq_none]

theorem isLive_of_move {p : Policies} {s : Shared} {r : Request} {m : Move} {out : Shared × Request}
    (hm : r.move? p s m = some out) : r.isLive = true := by
  unfold move? at hm
  split at hm
  · assumption
  · cases hm

theorem isLive_lose (s : Shared) (r : Request) (o : Overflow) : (r.lose s o).2.isLive = false :=
  Bool.and_false _

theorem mem_of_execution? {r : Request} {i : Nat} {e : Execution} (he : r.execution? i = some e) :
    e ∈ r.executions ∧ e.index = i :=
  ⟨List.mem_of_find?_eq_some he, by simpa using List.find?_some he⟩

/-! ## The search for a host -/

/-- `L` holds all through a search of an execution: of the host at hand, if there is one, of what is
shared, and of the request.  `Q` holds at its end. -/
structure SearchKeeps (index : Nat) (c : Consistency) (L : Option HostId → Shared → Request → Prop)
    (Q : Shared × Request → Prop) : Prop where
  pulled : ∀ {s r h plan}, L none s r → r.plan.pull s.cluster.registry = (some h, plan) →
    L (some h) s ({ r with plan := plan }.record s (.pulled index h))
  dry : ∀ {s r plan}, L none s r → r.plan.pull s.cluster.registry = (none, plan) →
    Q (exhaust s ({ r with plan := plan }.record s .ranDry))
  down : ∀ {s r h}, L (some h) s r → s.isUp h = false → L none s r
  refused : ∀ {s r h t f admission}, L (some h) s r → s.isUp h = true →
    s.admission.acquire (s.host h).address = (t, .turnedAway f, admission) →
    L none { s with admission := admission }
      ((r.record s (.refused index (s.host h).address f)).recordError (s.host h).address f)
  queued : ∀ {s r h t admission}, L (some h) s r → s.isUp h = true →
    s.admission.acquire (s.host h).address = (t, .queued, admission) →
    Q ({ s with admission := admission },
      { r with executions := r.executions ++ [⟨index, c, .queued h (s.host h).address t⟩] })
  granted : ∀ {s r h t admission}, L (some h) s r → s.isUp h = true →
    s.admission.acquire (s.host h).address = (t, .granted, admission) →
    Q (send { s with admission := admission } r index c h t)
  overflow : ∀ {s r h t admission}, L (some h) s r → s.isUp h = true →
    s.admission.acquire (s.host h).address = (t, .overflow, admission) →
    Q (lose { s with admission := admission } r .slots)

section Search
variable {index : Nat} {c : Consistency} {L : Option HostId → Shared → Request → Prop}
  {Q : Shared × Request → Prop}

theorem SearchKeeps.seek (hk : SearchKeeps index c L Q) :
    ∀ (fuel : Nat) (current : Option HostId) (s : Shared) (r : Request),
      r.plan.size + current.toList.length < fuel → L current s r → Q (seek index c fuel current s r)
  | 0, _, _, _, hf, _ => by omega
  | fuel + 1, none, s, r, hf, hL => by
    unfold Request.seek
    cases hp : r.plan.pull s.cluster.registry with
    | mk found plan =>
      cases found with
      | none => exact hk.dry hL hp
      | some h =>
        -- The pull has made the plan smaller, so the host at hand is paid for.
        have hlt := Plan.size_pull hp
        have hnext := hk.seek (fuel + 1) (some h) s ({ r with plan := plan }.record s (.pulled index h))
          (by
            simp only [Option.toList_some, List.length_singleton, Option.toList_none, List.length_nil,
              record] at hf ⊢
            omega)
          (hk.pulled hL hp)
        unfold Request.seek at hnext
        exact hnext
  | fuel + 1, some h, s, r, hf, hL => by
    have hf' : r.plan.size < fuel := by
      simp only [Option.toList_some, List.length_singleton] at hf
      omega
    unfold Request.seek
    simp only
    cases hup : s.isUp h with
    | false => exact hk.seek fuel none s r hf' (hk.down hL hup)
    | true =>
      simp only [Bool.not_true, Bool.false_eq_true, if_false]
      cases ha : s.admission.acquire (s.host h).address with
      | mk t out =>
        obtain ⟨admittance, admission⟩ := out
        cases admittance with
        | granted => exact hk.granted hL hup ha
        | queued => exact hk.queued hL hup ha
        | turnedAway f => exact hk.seek fuel none _ _ hf' (hk.refused hL hup ha)
        | overflow => exact hk.overflow hL hup ha
  termination_by fuel current => (fuel, if current.isNone then 1 else 0)

/-- **What holds after a search.** -/
theorem SearchKeeps.proceed (hk : SearchKeeps index c L Q) {current : Option HostId} {s : Shared}
    {r : Request} (hL : L current s r) : Q (r.proceed s index c current) := by
  refine hk.seek _ current s r ?_ hL
  cases current <;> simp only [Option.toList_none, Option.toList_some, List.length_nil,
    List.length_singleton] <;> omega

end Search

/-! ## The moves, opened -/

section Moves
variable {p : Policies} {s : Shared} {r : Request} {Q : Shared × Request → Prop}

/-- A request after the answer to an attempt has come and before anything was made of it. -/
def received (r : Request) (s : Shared) (index : Nat) (a : Address) (answer : Answer) : Request :=
  (r.without index).record s (.answered index a answer)

/-- **What holds after an answer**, by what came back and what the retry policy made of it. -/
theorem answer_rule {index : Nat} {ans : Answer} {e : Execution} {h : HostId} {a : Address} {t : Ticket}
    (he : r.execution? index = some e) (hp : e.phase = .inFlight h a t)
    (ok : ∀ {s' result}, ans = .ok result →
      Q ((r.received s' index a ans).succeed s' result a e.consistency))
    (retry : ∀ {s' f setback level sameHost current}, ans = .error f → f.setback? = some setback →
      p.retry.decide (r.received s' index a ans).operation e.consistency setback = .retry level sameHost →
      (∀ k ∈ current, k = h ∧ sameHost = true) →
      Q (proceed s' (recordError
        { (r.received s' index a ans).record s' (.decided index a (.retry level sameHost)) with
          retries := r.retries + 1 } a f) index (level.getD e.consistency) current))
    (rethrow : ∀ {s' f setback}, ans = .error f → f.setback? = some setback →
      p.retry.decide (r.received s' index a ans).operation e.consistency setback = .rethrow →
      Q (((r.received s' index a ans).record s' (.decided index a .rethrow)).finish s' (.failure f)))
    (ignore : ∀ {s' f setback}, ans = .error f → f.setback? = some setback →
      p.retry.decide (r.received s' index a ans).operation e.consistency setback = .ignore →
      Q (((r.received s' index a ans).record s' (.decided index a .ignore)).succeed s' .empty a
        e.consistency))
    (busy : ∀ {s' host limit}, ans = .error (.busy host limit) →
      Q (proceed s' ((r.received s' index a ans).recordError a (.busy host limit)) index e.consistency none))
    (hopeless : ∀ {s' f}, ans = .error f → f.setback? = none → (∀ host limit, f ≠ .busy host limit) →
      Q ((r.received s' index a ans).finish s' (.failure f))) :
    Q (r.answer p s index ans) := by
  have hi : e.index = index := by
    have := List.find?_some he
    simpa using this
  unfold Request.answer
  simp only [he, hp]
  cases ans with
  | ok result => exact ok rfl
  | error f =>
    simp only [afterFailure]
    cases hs : f.setback? with
    | some setback =>
      simp only [hi]
      generalize hd : p.retry.decide _ e.consistency setback = d
      cases d with
      | rethrow => exact rethrow rfl hs hd
      | ignore => exact ignore rfl hs hd
      | retry level sameHost =>
        refine retry rfl hs hd ?_
        intro k hk
        split at hk
        · rename_i hsame
          exact ⟨(Option.mem_some.1 hk).symm, (Bool.and_eq_true _ _ ▸ hsame).1⟩
        · cases hk
    | none =>
      simp only
      split
      · rw [hi]
        exact busy rfl
      · next hne => exact hopeless rfl hs hne

/-- **What holds after a queued execution looked again.** -/
theorem resume_rule {index : Nat} {e : Execution} {h : HostId} {a : Address} {t : Ticket}
    (he : r.execution? index = some e) (hp : e.phase = .queued h a t)
    (waiting : ∀ {s' admission}, s.admission.resume a t = (.waiting, admission) → Q (s', r))
    (granted : ∀ {s'}, Q (send s' (r.without index) index e.consistency h t))
    (closed : ∀ {s' f}, Q (proceed s' (((r.without index).record s' (.refused index a f)).recordError a f)
      index e.consistency none)) :
    Q (r.resume s index) := by
  unfold Request.resume
  simp only [he, hp]
  cases hr : s.admission.resume a t with
  | mk found admission =>
    cases found with
    | granted => exact granted
    | waiting => exact waiting hr
    | closed f => exact closed

/-- A request that starts a copy of itself at this host, before it is known when the next one is due. -/
def copying (r : Request) (s : Shared) (h : HostId) (plan : Plan) : Request :=
  { ({ r with plan := plan }.record s (.pulled (r.speculated + 1) h)).record s (.speculated (r.speculated + 1)) with
    speculated := r.speculated + 1 }

/-- **What holds after the timer for a further execution fired.** -/
theorem speculate_rule
    (dry : ∀ {plan}, r.plan.pull s.cluster.registry = (none, plan) →
      Q (s, { { r with plan := plan }.record s .ranDry with nextSpeculative := none }))
    (started : ∀ {h plan next}, r.plan.pull s.cluster.registry = (some h, plan) →
      speculationDue p s (r.copying s h plan) (r.speculated + 1) = .ok next →
      Q (proceed s { r.copying s h plan with nextSpeculative := next } (r.speculated + 1) r.options.consistency
        (some h)))
    (lost : ∀ {h plan o}, r.plan.pull s.cluster.registry = (some h, plan) →
      speculationDue p s (r.copying s h plan) (r.speculated + 1) = .error o → Q (lose s (r.copying s h plan) o)) :
    Q (r.speculate p s) := by
  unfold Request.speculate
  cases hp : r.plan.pull s.cluster.registry with
  | mk found plan =>
    cases found with
    | none => exact dry hp
    | some h =>
      have due := @started h plan
      have late := @lost h plan
      unfold copying at due late
      dsimp only
      split
      · exact late hp ‹_›
      · exact due hp ‹_›

/-- **What holds after a move**, by its kind. -/
theorem move_rule {m : Move} {out : Shared × Request} (hm : r.move? p s m = some out)
    (answered : ∀ {i ans e h a t}, m = .answer i ans → r.execution? i = some e →
      e.phase = .inFlight h a t → Q (r.answer p s i ans))
    (resumed : ∀ {i e h a t}, m = .resume i → r.execution? i = some e → e.phase = .queued h a t →
      Q (r.resume s i))
    (speculated : m = .speculate → Client.isDue r.nextSpeculative s.now = true → Q (r.speculate p s))
    (expired : m = .expire → Q (r.expire s))
    (cancelled : m = .cancel → Q (r.cancel s)) : r.isLive = true ∧ Q out := by
  unfold move? at hm
  split at hm
  case isFalse => cases hm
  rename_i hlive
  refine ⟨hlive, ?_⟩
  cases m with
  | answer i ans =>
    simp only [Option.ite_none_right_eq_some, Option.some.injEq] at hm
    obtain ⟨hf, rfl⟩ := hm
    unfold Client.isInFlight at hf
    split at hf
    · rename_i e he
      split at hf
      · rename_i h a t hp
        exact answered rfl he hp
      · cases hf
    · cases hf
  | resume i =>
    simp only [Option.ite_none_right_eq_some, Option.some.injEq] at hm
    obtain ⟨hf, rfl⟩ := hm
    unfold Client.canResume at hf
    split at hf
    · rename_i e he
      split at hf
      · rename_i h a t hp
        exact resumed rfl he hp
      · cases hf
    · cases hf
  | speculate =>
    simp only [Option.ite_none_right_eq_some, Option.some.injEq] at hm
    obtain ⟨hf, rfl⟩ := hm
    exact speculated rfl hf
  | expire =>
    simp only [Option.ite_none_right_eq_some, Option.some.injEq] at hm
    obtain ⟨-, rfl⟩ := hm
    exact expired rfl
  | cancel =>
    simp only [Option.some.injEq] at hm
    exact hm ▸ cancelled rfl

/-- **What holds after the start**: the plan had no host, or the search begins with its first, or the request was
lost before that. -/
theorem start_rule {statement : Statement} {options : ExecutionOptions} {plan : Plan}
    (dry : ∀ {rest}, plan.pull s.cluster.registry = (none, rest) →
      Q ((stillborn s statement options rest).finish s (.failure (.noHostAvailable []))))
    (begun : ∀ {s' h rest next}, plan.pull s.cluster.registry = (some h, rest) →
      s' = { s with timestamps := (stamp options.timestamp s.timestamps).2 } →
      firstCopyDue p s' (opened s statement options h rest) = .ok next →
      Q (proceed s' { opened s statement options h rest with nextSpeculative := next } 0 options.consistency (some h)))
    (lost : ∀ {s' h rest o}, plan.pull s.cluster.registry = (some h, rest) →
      s' = { s with timestamps := (stamp options.timestamp s.timestamps).2 } →
      firstCopyDue p s' (opened s statement options h rest) = .error o →
      Q (lose s' (opened s statement options h rest) o)) :
    Q (startOn p s statement options plan) := by
  unfold startOn
  cases hp : plan.pull s.cluster.registry with
  | mk found rest =>
    cases found with
    | none => exact dry hp
    | some h =>
      dsimp only
      cases hdue : firstCopyDue p _ (opened s statement options h rest) with
      | error o => exact lost hp rfl hdue
      | ok next => exact begun hp rfl hdue

/-- No copy is due where the statement may not be sent twice. -/
theorem firstCopyDue_once (once : r.options.idempotent = false) : firstCopyDue p s r = .ok none := by
  unfold firstCopyDue
  rw [once]
  rfl

/-- **A request starts on the plan that was made for it**, or is lost where none could be. -/
theorem start_cases (p : Policies) (s : Shared) (statement : Statement) (options : ExecutionOptions) :
    let made := s.cluster.plan options.keyspace options
    let planned := { s with cluster := made.2 }
    ((s.cluster.plan? options.keyspace options).1 = .ok made.1 ∧
        start p s statement options = startOn p planned statement options made.1) ∨
      ∃ o, (s.cluster.plan? options.keyspace options).1 = .error o ∧
        start p s statement options = (submitted planned statement options).lose planned o := by
  intro made planned
  unfold start Cluster.plan? Balancer.plan?
  cases s.cluster.balancer.overflow? s.cluster.registry options.keyspace options with
  | none => exact .inl ⟨rfl, rfl⟩
  | some o => exact .inr ⟨o, rfl, rfl⟩

end Moves

end Request

end CqlDispatch
