import Mathlib.Algebra.GroupWithZero.Nat
import Mathlib.Algebra.Order.BigOperators.Group.List
import Mathlib.Algebra.Order.Group.Nat
import CqlDispatch.Proofs.Admission.Order
import CqlDispatch.Proofs.Request.Attempts
import CqlDispatch.Proofs.Request.Lost
import CqlDispatch.Proofs.Request.Strides
/-!
# The end of a request

A request whose waits all come to an end comes to its own.  What it can still use up is weighed (`weight`): the
hosts of its plan, the second attempt to the same host if nothing was retried yet, and the waits of its
executions.  The answer to an attempt and the end of a wait in a queue make a request lighter, and nothing makes
it heavier (`bounded_move`): a further execution takes its host from the plan.  A request that is live has an
execution, and every execution waits.
-/
namespace CqlDispatch

/-- A wait in a queue comes before the attempt. -/
def Phase.weight : Phase → Nat
  | .queued .. => 2
  | .inFlight .. => 1

namespace Request

def weight (r : Request) : Nat :=
  2 * (r.plan.size + (1 - retried r.events)) + (r.executions.map (·.phase.weight)).sum

/-- A request of this weight at most; as long as it is live, an execution waits. -/
structure Bounded (bound : Nat) (r : Request) : Prop where
  weight : r.weight ≤ bound
  busy : r.isLive = true → r.executions ≠ []

/-! ## The weight of a search -/

section Weight
variable {bound : Nat} {s : Shared} {r : Request} {i : Nat}

theorem bounded_finish (light : r.weight ≤ bound) (s : Shared) (o : Outcome) : Bounded bound (r.finish s o).2 := by
  refine ⟨Nat.le_trans ?_ light, fun hlive => by cases hlive⟩
  show 2 * (r.plan.size + (1 - retried r.events)) + 0 ≤ r.weight
  exact Nat.le_add_right _ _

theorem bounded_lose (light : r.weight ≤ bound) (s : Shared) (o : Overflow) : Bounded bound (r.lose s o).2 := by
  refine ⟨Nat.le_trans ?_ light, fun hlive => absurd (hlive.symm.trans (isLive_lose s r o)) Bool.noConfusion⟩
  show 2 * (r.plan.size + (1 - retried r.events)) + 0 ≤ r.weight
  exact Nat.le_add_right _ _

theorem bounded_exhaust (light : r.weight ≤ bound) (s : Shared) : Bounded bound (r.exhaust s).2 := by
  unfold exhaust
  split
  · exact bounded_finish light s _
  · rename_i hsome
    exact ⟨light, fun _ hnone => hsome (by rw [hnone]; rfl)⟩

/-- An execution waits again. -/
theorem bounded_waits (e : Execution) {q : Request} (light : r.weight + e.phase.weight ≤ bound)
    (plan : q.plan = r.plan) (same : retried q.events = retried r.events)
    (executions : q.executions = r.executions ++ [e]) : Bounded bound q := by
  refine ⟨?_, fun _ hnone => ?_⟩
  · unfold weight at light ⊢
    rw [plan, same, executions, List.map_append, List.sum_append, List.map_singleton, List.sum_singleton]
    omega
  · rw [executions] at hnone
    exact List.append_ne_nil_of_right_ne_nil _ (List.cons_ne_nil _ _) hnone

/-- **A search is paid for by the hosts that it takes**, and by the one at hand. -/
theorem bounded_search (bound : Nat) (i : Nat) (c : Consistency) :
    SearchKeeps i c (fun current _ r => r.weight + 2 * current.toList.length ≤ bound)
      (fun out => Bounded bound out.2) where
  pulled {s r h rest} light hp := by
    have hlt := Plan.size_pull hp
    show 2 * (rest.size + (1 - retried r.events)) + (r.executions.map (·.phase.weight)).sum + 2 * 1 ≤ bound
    change 2 * (r.plan.size + (1 - retried r.events)) + (r.executions.map (·.phase.weight)).sum + 0 ≤ bound at light
    omega
  dry {s r rest} light hp := by
    have hle := Plan.size_pull_le hp
    rw [Option.toList_none, List.length_nil] at hle
    refine bounded_exhaust ?_ s
    show 2 * (rest.size + (1 - retried r.events)) + (r.executions.map (·.phase.weight)).sum ≤ bound
    change 2 * (r.plan.size + (1 - retried r.events)) + (r.executions.map (·.phase.weight)).sum + 0 ≤ bound at light
    omega
  down light _ := by
    simp only [Option.toList_none, Option.toList_some, List.length_nil, List.length_singleton] at light ⊢
    omega
  refused {s r h t f admission} light _ _ := by
    show r.weight + 0 ≤ bound
    simp only [Option.toList_some, List.length_singleton] at light
    omega
  queued {s r h t admission} light _ _ := bounded_waits ⟨i, c, .queued h (s.host h).address t⟩ light rfl rfl rfl
  granted {s r h t admission} light _ _ := by
    have hless : r.weight + 1 ≤ bound := Nat.le_of_succ_le light
    exact bounded_waits ⟨i, c, .inFlight h (s.host h).address t⟩ hless rfl rfl rfl
  overflow {s r h t admission} light _ _ := bounded_lose (Nat.le_of_add_right_le light) _ _

theorem bounded_proceed {c : Consistency} {current : Option HostId}
    (light : r.weight + 2 * current.toList.length ≤ bound) : Bounded bound (r.proceed s i c current).2 :=
  (bounded_search bound i c).proceed (L := fun current _ r => r.weight + 2 * current.toList.length ≤ bound) light

theorem weight_without {e : Execution} (he : r.execution? i = some e) :
    (r.without i).weight + e.phase.weight ≤ r.weight := by
  obtain rfl : e.index = i := by simpa using List.find?_some he
  obtain ⟨l, hl, hsub⟩ := subperm_of_mem (List.mem_of_find?_eq_some he)
  have hsum : ((r.without e.index).executions.map (·.phase.weight)).sum + e.phase.weight ≤
      (r.executions.map (·.phase.weight)).sum := by
    have heq := (hl.map (·.phase.weight)).sum_nat
    have hle := (hsub.map (·.phase.weight)).sum_le_sum fun _ _ => Nat.zero_le _
    rw [List.map_cons, List.sum_cons] at heq
    show ((r.executions.filter (·.index != e.index)).map (·.phase.weight)).sum + _ ≤ _
    omega
  show 2 * (r.plan.size + (1 - retried r.events)) + _ + _ ≤ 2 * (r.plan.size + (1 - retried r.events)) + _
  omega

theorem weight_pos (busy : r.executions ≠ []) : 0 < r.weight := by
  unfold weight
  cases hr : r.executions with
  | nil => exact absurd hr busy
  | cons e rest =>
    have hpos : 0 < e.phase.weight := by
      unfold Phase.weight
      split <;> decide
    rw [List.map_cons, List.sum_cons]
    omega

/-! ## The weight of a move -/

/-- **An answer makes a request lighter.** -/
theorem bounded_answer {p : Policies} (builtIn : p.retry.BuiltIn)
    (unwrapped : r.retries = 0 → retried r.events = 0) {ans : Answer} {e : Execution} {h : HostId}
    {a : Address} {t : Ticket} (he : r.execution? i = some e) (hp : e.phase = .inFlight h a t)
    (light : r.weight ≤ bound + 1) : Bounded bound (r.answer p s i ans).2 := by
  have hrest : (r.without i).weight ≤ bound := by
    have := weight_without he
    rw [hp] at this
    have : (r.without i).weight + 1 ≤ r.weight := this
    omega
  have received : ∀ s', (r.received s' i a ans).weight ≤ bound := fun _ => hrest
  have decided : ∀ s' d, d.isRetry = false → ((r.received s' i a ans).record s' (.decided i a d)).weight ≤ bound :=
    fun s' d final => by
      have hretried : retried (.decided i a d :: .answered i a ans :: r.events) = retried r.events :=
        (quiet_cons (e := .decided i a d) _ nofun nofun final).retried
      show 2 * (r.plan.size + (1 - retried (.decided i a d :: .answered i a ans :: r.events))) + _ ≤ bound
      rw [hretried]
      exact hrest
  refine answer_rule (Q := fun out => Bounded bound out.2) he hp ?ok ?retry ?rethrow ?ignore ?busy ?hopeless
  case ok => exact fun {s' _} _ => bounded_finish (received s') s' _
  case retry =>
    intro s' f setback level sameHost current _ _ hd hcurrent
    have hretried : retried (.decided i a (.retry level sameHost) :: .answered i a ans :: r.events) =
        retried r.events + 1 := List.countP_cons_of_pos rfl
    refine bounded_proceed ?_
    show 2 * (r.plan.size + (1 - retried (.decided i a (.retry level sameHost) :: .answered i a ans :: r.events))) +
      ((r.without i).executions.map (·.phase.weight)).sum + 2 * current.toList.length ≤ bound
    rw [hretried]
    change 2 * (r.plan.size + (1 - retried r.events)) + ((r.without i).executions.map (·.phase.weight)).sum ≤ bound
      at hrest
    cases current with
    | none =>
      rw [Option.toList_none, List.length_nil]
      omega
    | some k =>
      have hsame := (hcurrent k rfl).2
      rw [hsame] at hd
      have hunretried : retried r.events = 0 := unwrapped (builtIn.unretried hd)
      rw [Option.toList_some, List.length_singleton]
      omega
  case rethrow => exact fun {s' _ _} _ _ _ => bounded_finish (decided s' .rethrow rfl) s' _
  case ignore => exact fun {s' _ _} _ _ _ => bounded_finish (decided s' .ignore rfl) s' _
  case busy => exact fun {s' _ _} _ => bounded_proceed hrest
  case hopeless => exact fun {s' _} _ _ _ => bounded_finish (received s') s' _

/-- **The end of a wait in a queue makes a request lighter.** -/
theorem bounded_resume {e : Execution} {h : HostId} {a : Address} {t : Ticket} (he : r.execution? i = some e)
    (hp : e.phase = .queued h a t) (ready : s.admission.canResume a t = true) (light : r.weight ≤ bound + 1) :
    Bounded bound (r.resume s i).2 := by
  have hrest : (r.without i).weight + 1 ≤ bound := by
    have := weight_without he
    rw [hp] at this
    have : (r.without i).weight + 2 ≤ r.weight := this
    omega
  refine resume_rule (Q := fun out => Bounded bound out.2) he hp ?waiting ?granted ?closed
  case waiting =>
    intro s' admission hr
    have hwaits := (Admission.resume_waiting_iff.1 (congrArg Prod.fst hr)).2
    exact absurd hwaits (of_decide_eq_true ready)
  case granted =>
    exact fun {s'} => bounded_waits ⟨i, e.consistency, .inFlight h (s'.host h).address t⟩ hrest rfl rfl rfl
  case closed =>
    intro s' f
    refine bounded_proceed ?_
    exact Nat.le_of_succ_le hrest

/-- A further execution starts with a host of the plan. -/
theorem bounded_speculate (p : Policies) (s : Shared) (busy : r.executions ≠ []) (light : r.weight ≤ bound) :
    Bounded bound (r.speculate p s).2 := by
  change 2 * (r.plan.size + (1 - retried r.events)) + (r.executions.map (·.phase.weight)).sum ≤ bound at light
  refine speculate_rule (Q := fun out => Bounded bound out.2) ?dry ?started ?lost
  case dry =>
    intro rest hp
    have hle := Plan.size_pull_le hp
    rw [Option.toList_none, List.length_nil] at hle
    refine ⟨?_, fun _ => busy⟩
    show 2 * (rest.size + (1 - retried r.events)) + (r.executions.map (·.phase.weight)).sum ≤ bound
    omega
  case started =>
    intro h rest next hp _
    have hlt := Plan.size_pull hp
    refine bounded_proceed ?_
    show 2 * (rest.size + (1 - retried r.events)) + (r.executions.map (·.phase.weight)).sum + 2 * 1 ≤ bound
    omega
  case lost =>
    intro h rest o hp _
    have hlt := Plan.size_pull hp
    refine bounded_lose ?_ s o
    show 2 * (rest.size + (1 - retried r.events)) + (r.executions.map (·.phase.weight)).sum ≤ bound
    omega

end Weight

/-- The execution whose wait a move ends. -/
def Move.completes? : Move → Option Nat
  | .answer i _ => some i
  | .resume i => some i
  | .speculate | .expire | .cancel => none

theorem canResume_of_move {p : Policies} {s : Shared} {r : Request} {i : Nat} {out : Shared × Request}
    (hm : r.move? p s (.resume i) = some out) : Client.canResume s r i = true := by
  unfold move? at hm
  split at hm
  · exact (Option.ite_none_right_eq_some.1 hm).1
  · cases hm

/-- **No move makes a request heavier, and one that ends a wait makes it lighter.** -/
theorem bounded_move {p : Policies} (builtIn : p.retry.BuiltIn) {bound : Nat} {s : Shared} {r : Request} {m : Move}
    {out : Shared × Request} (unwrapped : r.retries = 0 → retried r.events = 0)
    (busy : r.isLive = true → r.executions ≠ []) (light : r.weight ≤ bound + m.completes?.toList.length) (hm : r.move? p s m = some out) :
    Bounded bound out.2 := by
  refine (move_rule (Q := fun out => r.executions ≠ [] → Bounded bound out.2) hm ?answered ?resumed ?speculated
    ?expired ?cancelled).elim fun hl hq => hq (busy hl)
  case answered =>
    rintro i ans e h a t rfl he hp -
    exact bounded_answer builtIn unwrapped he hp light
  case resumed =>
    rintro i e h a t rfl he hp -
    have hready := canResume_of_move hm
    unfold Client.canResume at hready
    simp only [he, hp] at hready
    exact bounded_resume he hp hready light
  case speculated =>
    rintro rfl - hbusy
    exact bounded_speculate p s hbusy light
  case expired =>
    rintro rfl -
    exact bounded_finish light s _
  case cancelled =>
    rintro rfl -
    exact bounded_finish light s _

theorem busy_start (p : Policies) (s : Shared) (statement : Statement) (options : ExecutionOptions) (plan : Plan) :
    ∃ bound, Bounded bound (startOn p s statement options plan).2 := by
  refine start_rule (Q := fun out => ∃ bound, Bounded bound out.2) ?dry ?begun ?lost
  case dry => exact fun _ => ⟨_, bounded_finish (Nat.le_refl _) s _⟩
  case begun => exact fun _ _ _ => ⟨_, bounded_proceed (Nat.le_refl _)⟩
  case lost => exact fun {s' _ _ o} _ _ _ => ⟨_, bounded_lose (Nat.le_refl _) s' o⟩

/-! ## Lives -/

/-- What an instant makes of a request: a move, if it is possible, or nothing. -/
def after (p : Policies) (r : Request) : Option (Shared × Move) → Request
  | none => r
  | some (s, m) => ((r.move? p s m).map (·.2)).getD r

/-- A request at every instant, for ever. -/
def life (p : Policies) (r : Request) (turns : Nat → Option (Shared × Move)) : Nat → Request
  | 0 => r
  | t + 1 => (life p r turns t).after p (turns t)

/-- The wait of an execution comes to its end, unless that of the request comes first: an answer arrives for it, or
it looks into its queue and need not wait any more. -/
def Served (p : Policies) (r : Request) (turns : Nat → Option (Shared × Move)) (t i : Nat) : Prop :=
  ∃ t' ≥ t, (life p r turns t').isLive = true → ∃ s m out,
    turns t' = some (s, m) ∧ m.completes? = some i ∧ (life p r turns t').move? p s m = some out

section Life
variable {p : Policies} {r : Request} {turns : Nat → Option (Shared × Move)}

theorem after_of_move {s : Shared} {m : Move} {out : Shared × Request} (hm : r.move? p s m = some out) :
    r.after p (some (s, m)) = out.2 := by
  show ((r.move? p s m).map (·.2)).getD r = out.2
  rw [hm]
  rfl

theorem after_cases (p : Policies) (r : Request) (turn : Option (Shared × Move)) :
    r.after p turn = r ∨ ∃ s m out, turn = some (s, m) ∧ r.move? p s m = some out ∧ r.after p turn = out.2 := by
  cases turn with
  | none => exact .inl rfl
  | some x =>
    obtain ⟨s, m⟩ := x
    cases hm : r.move? p s m with
    | none =>
      refine .inl ?_
      show ((r.move? p s m).map (·.2)).getD r = r
      rw [hm]
      rfl
    | some out => exact .inr ⟨s, m, out, rfl, hm, after_of_move hm⟩

/-- What every move keeps holds for ever. -/
theorem life_keeps {I : Request → Prop} (step : ∀ {s r m out}, I r → r.move? p s m = some out → I out.2)
    (start : I r) : ∀ t, I (life p r turns t)
  | 0 => start
  | t + 1 => by
    have ih := life_keeps step start t
    rcases after_cases p (life p r turns t) (turns t) with hsame | ⟨s, m, out, -, hm, hout⟩
    · exact (congrArg I hsame).mpr ih
    · exact (congrArg I hout).mpr (step ih hm)

variable (builtIn : p.retry.BuiltIn)
  (unwrapped : ∀ t, (life p r turns t).retries = 0 → retried (life p r turns t).events = 0)
  (busy : r.isLive = true → r.executions ≠ [])
include builtIn unwrapped busy

theorem life_busy : ∀ t, (life p r turns t).isLive = true → (life p r turns t).executions ≠ []
  | 0 => busy
  | t + 1 => by
    have ih := life_busy t
    rcases after_cases p (life p r turns t) (turns t) with hsame | ⟨s, m, out, -, hm, hout⟩
    · intro live
      rw [life, hsame] at live ⊢
      exact ih live
    · rw [life, hout]
      exact (bounded_move builtIn (unwrapped t) ih (Nat.le_add_right _ _) hm).busy

theorem life_lighter {t t' : Nat} (later : t ≤ t') : (life p r turns t').weight ≤ (life p r turns t).weight := by
  induction later with
  | refl => exact Nat.le_refl _
  | @step t' _ ih =>
    refine Nat.le_trans ?_ ih
    rcases after_cases p (life p r turns t') (turns t') with hsame | ⟨s, m, out, -, hm, hout⟩
    · exact Nat.le_of_eq (congrArg weight hsame)
    · have hlight := (bounded_move builtIn (unwrapped t') (life_busy builtIn unwrapped busy t') (Nat.le_add_right _ _) hm).weight
      exact (congrArg weight hout) ▸ hlight

/-- **A request ends when its waits do**: as long as it lives an execution waits, and the end of its wait makes the
request lighter. -/
theorem life_ends (served : ∀ t, ∀ e ∈ (life p r turns t).executions, Served p r turns t e.index) :
    ∀ (bound t : Nat), (life p r turns t).weight < bound → ∃ t', (life p r turns t').isLive = false
  | 0, _, hb => absurd hb (Nat.not_lt_zero _)
  | bound + 1, t, hb => by
    cases hlive : (life p r turns t).isLive with
    | false => exact ⟨t, hlive⟩
    | true =>
      obtain ⟨e, he⟩ := List.exists_mem_of_ne_nil _ (life_busy builtIn unwrapped busy t hlive)
      obtain ⟨t', hlater, hserved⟩ := served t e he
      cases hlive' : (life p r turns t').isLive with
      | false => exact ⟨t', hlive'⟩
      | true =>
        obtain ⟨s, m, out, hturn, hcompletes, hm⟩ := hserved hlive'
        have hnext : life p r turns (t' + 1) = out.2 := by
          show (life p r turns t').after p (turns t') = out.2
          rw [hturn, after_of_move hm]
        have hbusy : (life p r turns t').isLive = true → _ := life_busy builtIn unwrapped busy t'
        have hpos := weight_pos (hbusy hlive')
        have hlighter : out.2.weight ≤ (life p r turns t').weight - 1 := by
          refine (bounded_move builtIn (unwrapped t') hbusy ?_ hm).weight
          rw [hcompletes, Option.toList_some, List.length_singleton]
          omega
        have hbefore : (life p r turns t').weight ≤ (life p r turns t).weight := life_lighter builtIn unwrapped busy hlater
        refine life_ends served bound (t' + 1) ?_
        rw [hnext]
        omega

end Life

/-- What was asked for stays, and where it fits at every move the request is not lost. -/
theorem life_kept {statement : Statement} {options : ExecutionOptions} (asked : r.statement = statement ∧ r.options = options)
    (kept : r.lost = none) (fits : ∀ t s m, turns t = some (s, m) → Fits p statement options s) :
    ∀ t, ((life p r turns t).statement = statement ∧ (life p r turns t).options = options) ∧
      (life p r turns t).lost = none
  | 0 => ⟨asked, kept⟩
  | t + 1 => by
    obtain ⟨⟨hstatement, hoptions⟩, ih⟩ := life_kept asked kept fits t
    rcases after_cases p (life p r turns t) (turns t) with hsame | ⟨s, m, out, hturn, hm, hout⟩
    · rw [life, hsame]
      exact ⟨⟨hstatement, hoptions⟩, ih⟩
    · rw [life, hout]
      have fits := fits t s m hturn
      refine ⟨?_, lost_move (hstatement.symm ▸ hoptions.symm ▸ fits) hm⟩
      exact (move_strides hm).keeps (I := fun g => g.request.statement = statement ∧ g.request.options = options)
        (fun same stride => ⟨stride.asked.1.trans same.1, stride.asked.2.trans same.2⟩) ⟨hstatement, hoptions⟩

theorem asked_startOn (p : Policies) (s : Shared) (statement : Statement) (options : ExecutionOptions) (plan : Plan) :
    (startOn p s statement options plan).2.statement = statement ∧
      (startOn p s statement options plan).2.options = options :=
  startOn_keeps (I := fun g => g.request.statement = statement ∧ g.request.options = options)
    (fun same stride => ⟨stride.asked.1.trans same.1, stride.asked.2.trans same.2⟩) (fun _ _ => ⟨rfl, rfl⟩)
    fun _ _ _ _ _ => ⟨rfl, rfl⟩

/-- Two idempotence-aware layers around the standard policy. -/
def wrappedTwice : Policies :=
  { balancer := .roundRobin none 0, retry := .idempotenceAware (.idempotenceAware .standard) }

/-- The read times out, is sent again to the same host, and succeeds. -/
def timedOutOnce : Nat → Option (Shared × Move)
  | 0 => some (oneHost, .answer 0 (.error (.readTimeout .quorum 2 2 false)))
  | 1 => some (oneHost, .answer 0 (.ok .empty))
  | _ => none

/-- A further execution is due after the longest delay that there is. -/
def muchLater : Policies := { balancer := .roundRobin none 0, speculation := .constant .longest 1 }

end Request

end CqlDispatch
