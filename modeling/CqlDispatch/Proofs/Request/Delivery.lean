import CqlDispatch.Proofs.Request.Turns
/-!
# One delivery at most

A statement that is not idempotent must not be applied twice.  Under the idempotence-aware retry
policy its request sends one attempt after the other, all from its first execution, and none any
more once an answer came back from which it cannot be told that nothing was applied
(`not_idempotent_sent_until_answered`).

That an execution takes turns with its answers holds of every request.  Here it is added that there
is one execution, that no timer for a second one is set, and that all answers so far turned the
attempt down.
-/
namespace CqlDispatch
namespace Request

/-- An answer that comes before any replica has been asked: too few were alive, or the host had no
room for the attempt. -/
def TurnedDown (answer : Answer) : Prop :=
  (∃ c required alive, answer = .error (.unavailable c required alive)) ∨
    ∃ host limit, answer = .error (.busy host limit)

/-- Every answer so far turned the attempt down. -/
def AllTurnedDown (events : List RequestEvent) : Prop :=
  ∀ i a answer, .answered i a answer ∈ events → TurnedDown answer

/-- Each attempt is one of the first execution, and goes out when all answers so far turned the
attempts before it down. -/
def SentUnapplied : List RequestEvent → Prop
  | [] => True
  | .sent a :: earlier => a.execution = 0 ∧ AllTurnedDown earlier ∧ SentUnapplied earlier
  | _ :: earlier => SentUnapplied earlier

theorem SentUnapplied.tail {e : RequestEvent} {earlier : List RequestEvent}
    (h : SentUnapplied (e :: earlier)) : SentUnapplied earlier := by
  cases e with
  | sent a => exact h.2.2
  | _ => exact h

theorem SentUnapplied.suffix {earlier : List RequestEvent} :
    ∀ {later : List RequestEvent}, SentUnapplied (later ++ earlier) → SentUnapplied earlier
  | [], h => h
  | _ :: _, h => SentUnapplied.suffix h.tail

theorem SentUnapplied.first_execution {events : List RequestEvent} (h : SentUnapplied events)
    {a : Attempt} (ha : .sent a ∈ events) : a.execution = 0 := by
  obtain ⟨later, earlier, rfl⟩ := List.append_of_mem ha
  exact h.suffix.1

theorem SentUnapplied.not_sent_after {later earlier : List RequestEvent} {i : Nat} {address : Address}
    {answer : Answer} (h : SentUnapplied (later ++ .answered i address answer :: earlier))
    (hans : ¬ TurnedDown answer) (b : Attempt) : .sent b ∉ later := by
  intro hb
  obtain ⟨newest, rest, rfl⟩ := List.append_of_mem hb
  rw [List.append_assoc, List.cons_append] at h
  obtain ⟨-, hall, -⟩ := h.suffix
  exact hans (hall i address answer (List.mem_append_right _ List.mem_cons_self))

/-! ## The invariant -/

/-- The only execution looks for a host, and may send again. -/
structure LooksAlone (r : Request) : Prop where
  sent : SentUnapplied r.events
  turnedDown : AllTurnedDown r.events
  nobody : r.executions = []
  noTimer : r.nextSpeculative = none
  notIdempotent : r.options.idempotent = false

/-- The only execution waits. -/
structure WaitsAlone (r : Request) (e : Execution) : Prop where
  alone : r.executions = [e]
  first : e.index = 0
  turnedDown : AllTurnedDown r.events
  noTimer : r.nextSpeculative = none
  notIdempotent : r.options.idempotent = false

/-- What holds of a request that is not idempotent: live or decided, nothing was sent that may have
been applied before. -/
def Delivers (r : Request) : Prop := SentUnapplied r.events ∧ (r.isLive = true → ∃ e, WaitsAlone r e)

theorem delivers_finish {r : Request} (h : SentUnapplied r.events) (s : Shared) (o : Outcome) :
    Delivers (r.finish s o).2 :=
  ⟨h, fun hlive => by cases hlive⟩

theorem delivers_lose {r : Request} (h : SentUnapplied r.events) (s : Shared) (o : Overflow) :
    Delivers (r.lose s o).2 :=
  ⟨h, fun hlive => absurd (hlive.symm.trans (isLive_lose s r o)) Bool.noConfusion⟩

theorem allTurnedDown_cons {events : List RequestEvent} {e : RequestEvent} (h : AllTurnedDown events)
    (he : ∀ i a answer, e = .answered i a answer → TurnedDown answer) : AllTurnedDown (e :: events) := by
  intro i a answer hm
  rcases List.mem_cons.1 hm with heq | hm
  · exact he i a answer heq.symm
  · exact h i a answer hm

theorem LooksAlone.sends {r : Request} (h : LooksAlone r) (s : Shared) (c : Consistency) (host : HostId)
    (t : Ticket) : Delivers (send s r 0 c host t).2 := by
  refine ⟨⟨rfl, h.turnedDown, h.sent⟩, fun _ => ⟨⟨0, c, .inFlight host (s.host host).address t⟩, ?_, rfl,
    allTurnedDown_cons h.turnedDown (fun _ _ _ he => by cases he), h.noTimer, h.notIdempotent⟩⟩
  rw [send_executions, h.nobody, List.nil_append]

/-- **The search of the only execution** ends with it in flight, in a queue, or with the request. -/
theorem looksAlone_search (c : Consistency) :
    SearchKeeps 0 c (fun _ _ r => LooksAlone r) (fun out => Delivers out.2) where
  pulled h _ :=
    ⟨h.sent, allTurnedDown_cons h.turnedDown (fun _ _ _ he => by cases he), h.nobody, h.noTimer,
      h.notIdempotent⟩
  dry {s r plan} h _ := by
    have hempty : ({ r with plan := plan }.record s .ranDry).executions.isEmpty = true := by
      rw [executions_record]
      simp [h.nobody]
    unfold exhaust
    rw [if_pos hempty]
    refine delivers_finish ?_ s _
    exact h.sent
  down h _ := h
  refused h _ _ :=
    ⟨h.sent, allTurnedDown_cons h.turnedDown (fun _ _ _ he => by cases he), h.nobody, h.noTimer,
      h.notIdempotent⟩
  queued {s r host t admission} h _ _ := by
    refine ⟨h.sent, fun _ => ⟨⟨0, c, .queued host (s.host host).address t⟩, ?_, rfl, h.turnedDown,
      h.noTimer, h.notIdempotent⟩⟩
    show r.executions ++ _ = _
    rw [h.nobody, List.nil_append]
  granted h _ _ := h.sends _ _ _ _
  overflow h _ _ := delivers_lose h.sent _ _

theorem decide_not_retry {child : RetryPolicy} {o : Operation} {c : Consistency} {f : Failure}
    {setback : Setback} {level : Option Consistency} {sameHost : Bool} (hi : o.isIdempotent = false)
    (hs : f.setback? = some setback)
    (hd : (RetryPolicy.idempotenceAware child).decide o c setback = .retry level sameHost) :
    TurnedDown (.error f) := by
  cases hb : setback.beforeReplicas with
  | false => simp [RetryPolicy.decide, hi, hb] at hd
  | true =>
    cases f <;> simp only [Failure.setback?, Option.some.injEq, reduceCtorEq] at hs
    case unavailable c required alive => exact .inl ⟨c, required, alive, rfl⟩
    case response code reason =>
      split at hs
      · cases hs
        cases hb
      · cases hs
    all_goals subst hs; cases hb

theorem execution?_alone {r : Request} {e e' : Execution} {i : Nat} (h : r.executions = [e])
    (he : r.execution? i = some e') : e' = e ∧ e.index = i := by
  unfold execution? at he
  rw [h, List.find?_singleton] at he
  split at he
  · rename_i hi
    exact ⟨(Option.some.inj he).symm, by simpa using hi⟩
  · cases he

theorem without_alone {r : Request} {e : Execution} (h : r.executions = [e]) :
    (r.without e.index).executions = [] := by
  simp [without, h]

/-- **A move keeps the order of delivery.** -/
theorem delivers_move {p : Policies} {child : RetryPolicy} (hp : p.retry = .idempotenceAware child)
    {s : Shared} {r : Request} {m : Move} {out : Shared × Request} (h : Delivers r)
    (hm : r.move? p s m = some out) : Delivers out.2 := by
  obtain ⟨hsent, hlive⟩ := h
  refine (move_rule (Q := fun out => (∃ e, WaitsAlone r e) → Delivers out.2) hm ?answered ?resumed
    ?speculated ?expired ?cancelled).elim fun hl hq => hq (hlive hl)
  case answered =>
    rintro i ans e' host a t _ he hphase ⟨e, hw⟩
    obtain ⟨rfl, rfl⟩ := execution?_alone hw.alone he
    have hfirst := hw.first
    have hlooks : TurnedDown ans → ∀ s', LooksAlone (r.received s' e'.index a ans) := fun hdown s' =>
      ⟨hsent, allTurnedDown_cons hw.turnedDown (fun _ _ _ he => by cases he; exact hdown),
        without_alone hw.alone, hw.noTimer, hw.notIdempotent⟩
    refine answer_rule (Q := fun out => Delivers out.2) he hphase ?ok ?retry ?rethrow ?ignore ?busy ?hopeless
    case ok =>
      intro s' result _
      refine delivers_finish ?_ s' _
      exact hsent
    case retry =>
      intro s' f setback level sameHost current hans hs hd _
      rw [hp] at hd
      have hi : (r.received s' e'.index a ans).operation.isIdempotent = false := hw.notIdempotent
      have hdown : TurnedDown ans := by
        rw [hans]
        exact decide_not_retry hi hs hd
      have hl := hlooks hdown s'
      rw [hfirst] at hl ⊢
      exact (looksAlone_search _).proceed (L := fun _ _ r => LooksAlone r)
        ⟨hl.sent, allTurnedDown_cons hl.turnedDown (fun _ _ _ he => by cases he), hl.nobody, hl.noTimer,
          hl.notIdempotent⟩
    case rethrow =>
      intro s' f setback _ _ _
      refine delivers_finish ?_ s' _
      exact hsent
    case ignore =>
      intro s' f setback _ _ _
      refine delivers_finish ?_ s' _
      exact hsent
    case busy =>
      intro s' host limit hans
      have hl := hlooks (hans ▸ .inr ⟨host, limit, rfl⟩) s'
      rw [hfirst] at hl ⊢
      exact (looksAlone_search _).proceed (L := fun _ _ r => LooksAlone r)
        ⟨hl.sent, hl.turnedDown, hl.nobody, hl.noTimer, hl.notIdempotent⟩
    case hopeless =>
      intro s' f _ _ _
      refine delivers_finish ?_ s' _
      exact hsent
  case resumed =>
    rintro i e' host a t _ he hphase ⟨e, hw⟩
    obtain ⟨rfl, rfl⟩ := execution?_alone hw.alone he
    have hl : LooksAlone (r.without e'.index) :=
      ⟨hsent, hw.turnedDown, without_alone hw.alone, hw.noTimer, hw.notIdempotent⟩
    rw [hw.first] at hl ⊢
    refine resume_rule (Q := fun out => Delivers out.2) (hw.first ▸ he) hphase ?waiting ?granted ?closed
    case waiting => exact fun _ => ⟨hsent, hlive⟩
    case granted => exact fun {s'} => hl.sends s' _ _ _
    case closed =>
      intro s' f
      exact (looksAlone_search _).proceed (L := fun _ _ r => LooksAlone r)
        ⟨hl.sent, allTurnedDown_cons hl.turnedDown (fun _ _ _ he => by cases he), hl.nobody, hl.noTimer,
          hl.notIdempotent⟩
  case speculated =>
    rintro _ hdue ⟨e, hw⟩
    rw [hw.noTimer] at hdue
    cases hdue
  case expired => exact fun _ _ => delivers_finish hsent s _
  case cancelled => exact fun _ _ => delivers_finish hsent s _

theorem delivers_start (p : Policies) (s : Shared) (statement : Statement) {options : ExecutionOptions}
    (hi : options.idempotent = false) (plan : Plan) :
    Delivers (startOn p s statement options plan).2 := by
  refine start_rule (Q := fun out => Delivers out.2) ?dry ?begun ?lost
  case dry => exact fun {rest} _ => delivers_finish (r := stillborn s statement options rest) trivial s _
  case begun =>
    intro s' h rest next _ _ timed
    rw [firstCopyDue_once hi] at timed
    cases timed
    refine (looksAlone_search _).proceed (L := fun _ _ r => LooksAlone r) ⟨trivial, ?_, rfl, rfl, hi⟩
    intro i a answer hm
    cases List.mem_singleton.1 hm
  case lost => exact fun {s' h rest o} _ _ _ => delivers_lose (r := opened s statement options h rest) trivial s' o

/-- **A statement that is not idempotent is not sent again once an attempt may have been applied.**
Under the idempotence-aware retry policy, whatever its child decides, attempts go out one after the
other, all from the first execution, and after an answer other than that replicas were missing or
the host was busy none goes out any more. -/
theorem not_idempotent_sent_until_answered {p : Policies} {child : RetryPolicy}
    (hp : p.retry = .idempotenceAware child) (s : Shared) (statement : Statement)
    {options : ExecutionOptions} (hi : options.idempotent = false) (plan : Plan)
    {moves : List (Shared × Move)} {r : Request}
    (hr : (startOn p s statement options plan).2.run? p moves = some r) :
    (∀ a, .sent a ∈ r.events → a.execution = 0) ∧
    (∀ later between earlier a b, r.events = later ++ .sent b :: (between ++ .sent a :: earlier) →
      ∃ answer, .answered a.execution a.address answer ∈ between) ∧
    (∀ later earlier i address answer, r.events = later ++ .answered i address answer :: earlier →
      ¬ TurnedDown answer → ∀ b, .sent b ∉ later) := by
  have hturns : TakesTurns r := run?_keeps (A := fun _ => True) (fun _ h hm => takesTurns_move h hm)
    (fun _ _ => trivial) (takesTurns_start p s statement options plan) hr
  have hkept : Delivers r := run?_keeps (A := fun _ => True) (fun _ h hm => delivers_move hp h hm)
    (fun _ _ => trivial) (delivers_start p s statement hi plan) hr
  obtain ⟨hsent, -⟩ := hkept
  have hfirst : ∀ a, .sent a ∈ r.events → a.execution = 0 := fun a ha => hsent.first_execution ha
  refine ⟨hfirst, ?_, ?_⟩
  · intro later between earlier a b hev
    have hab : b.execution = a.execution := by
      rw [hfirst a (by simp [hev]), hfirst b (by simp [hev])]
    have hturn := hturns.1
    rw [hev] at hturn
    exact hturn.answered_before_next hab
  · intro later earlier i address answer hev hans b
    rw [hev] at hsent
    exact hsent.not_sent_after hans b

/-- A write whose child policy would send it again whatever happened. -/
def insistent : Policies :=
  { balancer := .roundRobin none 0, retry := .idempotenceAware (.custom fun _ _ _ => .retry none true) }

def write : Statement := { query := "INSERT" }

/-- Replicas are missing, and then the write times out. -/
def missingThenTimeout : List (Shared × Move) :=
  [(oneHost, .answer 0 (.error (.unavailable .quorum 2 1))),
    (oneHost, .answer 0 (.error (.writeTimeout .quorum 1 2 .simple)))]

theorem timed_out_write_not_sent_again :
    ∃ r, (startOn insistent oneHost write ({} : QueryDefaults).options (.listed [0])).2.run? insistent
        missingThenTimeout = some r ∧
      (∃ a b answer rest, r.events = rest ++
        [.sent b, .decided 0 default (.retry none true), answer, .sent a, .pulled 0 0]) ∧
      (∀ a, .sent a ∈ r.events → a.execution = 0) ∧
      (∀ later between earlier a b, r.events = later ++ .sent b :: (between ++ .sent a :: earlier) →
        ∃ answer, .answered a.execution a.address answer ∈ between) ∧
      (∀ later earlier i address answer, r.events = later ++ .answered i address answer :: earlier →
        ¬ TurnedDown answer → ∀ b, .sent b ∉ later) := by
  refine ⟨_, rfl, ⟨_, _, _, [_, _, _], rfl⟩, ?_⟩
  exact @not_idempotent_sent_until_answered insistent (.custom fun _ _ _ => .retry none true) rfl oneHost
    write ({} : QueryDefaults).options rfl (.listed [0]) missingThenTimeout _ rfl

end Request

end CqlDispatch
