import CqlDispatch.Proofs.Request.Attempts
import CqlDispatch.Proofs.Request.Strides
/-!
# The report

A request that succeeds reports what its events say (`report_truthful`).  The attempts, the retries and the further
executions are counted over all executions, those that lose included; the host and the level are
those of the one attempt whose answer won.  The level of an attempt is that of its own execution
(`level`): a decision about another never changes it.

The invariant (`Told`) ties what the request keeps to folds over its events, and the level of each execution,
wherever it is, to the decisions about it.
-/
namespace CqlDispatch

def Outcome.report? : Outcome → Option ExecutionReport
  | .success _ report => some report
  | .failure _ => none

theorem Outcome.eq_success_of_report? {o : Outcome} {report : ExecutionReport} (h : o.report? = some report) :
    ∃ result, o = .success result report := by
  cases o with
  | success result report' =>
    obtain rfl := Option.some.inj h
    exact ⟨result, rfl⟩
  | failure f => cases h

namespace Request

/-! ## What the events say -/

/-- The level of the next attempt of an execution: the last that a decision about it gave, or else the first. -/
def level (base : Consistency) (i : Nat) : List RequestEvent → Consistency
  | [] => base
  | .decided j _ d :: earlier => if j = i then d.consistency?.getD (level base i earlier) else level base i earlier
  | _ :: earlier => level base i earlier

/-- Each attempt goes out at the level of its execution. -/
def Levelled (base : Consistency) : List RequestEvent → Prop
  | [] => True
  | .sent a :: earlier => a.consistency = level base a.execution earlier ∧ Levelled base earlier
  | _ :: earlier => Levelled base earlier

/-- The answer to an attempt won: it brought a result, or its failure was ignored. -/
inductive Won : List RequestEvent → Attempt → ResultSet → Prop
  | answered {a result earlier} (sent : outstanding a.execution earlier = some a) :
    Won (.answered a.execution a.address (.ok result) :: earlier) a result
  | ignored {a f earlier} (sent : outstanding a.execution earlier = some a) :
    Won (.decided a.execution a.address .ignore :: .answered a.execution a.address (.error f) :: earlier) a .empty

/-- Where the attempts went, the oldest first. -/
def triedIn (events : List RequestEvent) : List Address := ((attempts events).map (·.address)).reverse

end Request

namespace RequestEvent

/-- The execution whose level or outstanding attempt an event may change. -/
def concerns? : RequestEvent → Option Nat
  | sent a => some a.execution
  | answered i _ _ => some i
  | decided i _ _ => some i
  | _ => none

end RequestEvent

namespace Request

/-- The report on the attempt that won; what it counts has 32 bits. -/
def reportOn (history : List RequestEvent) (a : Attempt) : ExecutionReport where
  host := a.address
  tried := triedIn history
  speculated := .ofNat (history.countP (·.isCopy))
  retries := .ofNat (history.countP (·.isRetry))
  achieved := a.consistency

theorem Levelled.sent {base : Consistency} {a : Attempt} {earlier : List RequestEvent} :
    ∀ {later : List RequestEvent}, Levelled base (later ++ .sent a :: earlier) →
      a.consistency = level base a.execution earlier
  | [], h => h.1
  | e :: later, h => by
    have hrest : Levelled base (later ++ .sent a :: earlier) := by
      cases e with
      | sent b => exact h.2
      | _ => exact h
    exact hrest.sent

theorem level_cons {base : Consistency} {i : Nat} {e : RequestEvent} {events : List RequestEvent}
    (other : e.concerns? ≠ some i) : level base i (e :: events) = level base i events := by
  cases e with
  | decided j a d => exact if_neg fun hj => other (congrArg some hj)
  | _ => rfl

theorem outstanding_cons {i : Nat} {e : RequestEvent} {events : List RequestEvent} (other : e.concerns? ≠ some i) :
    outstanding i (e :: events) = outstanding i events := by
  cases e with
  | sent a => exact if_neg fun hj => other (congrArg some hj)
  | answered j a ans => exact if_neg fun hj => other (congrArg some hj)
  | _ => rfl

theorem outstanding_execution {i : Nat} {a : Attempt} {events : List RequestEvent}
    (h : outstanding i events = some a) : a.execution = i := by
  induction events with
  | nil => cases h
  | cons x earlier ih =>
    cases x with
    | sent b =>
      rw [outstanding] at h
      split at h
      · rename_i hb
        exact Option.some.inj h ▸ hb
      · exact ih h
    | answered j b ans =>
      rw [outstanding] at h
      split at h
      · cases h
      · exact ih h
    | _ => exact ih h

/-! ## The invariant -/

/-- An execution has an attempt outstanding at this address and level. -/
def Outstands (i : Nat) (address : Address) (c : Consistency) (events : List RequestEvent) : Prop :=
  ∃ a, outstanding i events = some a ∧ a.address = address ∧ a.consistency = c

/-- An execution waits at its level. -/
structure Waits (base : Consistency) (events : List RequestEvent) (e : Execution) : Prop where
  level : e.consistency = level base e.index events
  sent : ∀ h a t, e.phase = .inFlight h a t → Outstands e.index a e.consistency events

/-- An execution that is at work keeps to its level, and has the answer to its own attempt. -/
def Heeds (base : Consistency) (events : List RequestEvent) : Focus → Prop
  | .idle => True
  | .seeking i c _ => c = level base i events
  | .judging e _ address ans => e.consistency = level base e.index events ∧
      ∃ earlier, events = .answered e.index address ans :: earlier ∧ Outstands e.index address e.consistency earlier

/-- A success is reported as it was. -/
def Reported (r : Request) : Prop :=
  ∀ result report, r.outcome = some (.success result report) → ∃ latency history a,
    r.events = .ended (.success result report) latency :: history ∧ Won history a result ∧ report = reportOn history a

/-- What a request keeps is what its events say. -/
structure Told (base : Consistency) (g : Stage) : Prop where
  tried : g.request.tried = triedIn g.request.events
  retries : g.request.retries = .ofNat (g.request.events.countP (·.isRetry))
  speculated : g.request.speculated = g.request.events.countP (·.isCopy)
  first : g.request.options.consistency = base
  levelled : Levelled base g.request.events
  unheard : ∀ i, g.request.speculated < i → level base i g.request.events = base
  waiting : ∀ e ∈ g.request.executions, Waits base g.request.events e
  heeding : Heeds base g.request.events g.focus
  reported : Reported g.request

theorem reported_of_live {r : Request} (live : r.isLive = true) : Reported r := by
  intro result report ho
  unfold isLive at live
  rw [ho] at live
  cases live

theorem Waits.later {base : Consistency} {events : List RequestEvent} {e : Execution} {x : RequestEvent}
    (w : Waits base events e) (other : x.concerns? ≠ some e.index) : Waits base (x :: events) e := by
  refine ⟨w.level.trans (level_cons other).symm, fun h a t hp => ?_⟩
  obtain ⟨b, hb, same⟩ := w.sent h a t hp
  exact ⟨b, (outstanding_cons other).trans hb, same⟩

variable {p : Policies} {base : Consistency} {g g' : Stage} {s : Shared} {r : Request}

/-- A request that is lost reports nothing. -/
theorem Told.lose (k : Told base g) (live : g.request.isLive = true) (s : Shared) (o : Overflow) :
    Told base (.rest (g.request.lose s o)) :=
  ⟨k.tried, k.retries, k.speculated, k.first, k.levelled, k.unheard, nofun, trivial, fun _ _ ho =>
    absurd (ho.symm.trans (isLive_iff.1 live).1) nofun⟩

/-- The end keeps to what was told. -/
theorem Told.finish (k : Told base g) (s : Shared) (o : Outcome)
    (reported : ∀ result report, o = .success result report → ∃ a, Won g.request.events a result ∧
      report = reportOn g.request.events a) : Told base (.rest (g.request.finish s o)) where
  tried := k.tried
  retries := k.retries
  speculated := k.speculated
  first := k.first
  levelled := k.levelled
  unheard := k.unheard
  waiting := nofun
  heeding := trivial
  reported := by
    rintro result report ho
    obtain rfl := Option.some.inj ho
    obtain ⟨a, won, report⟩ := reported result report rfl
    exact ⟨_, g.request.events, a, rfl, won, report⟩

/-- What is kept is the report on the attempt that won. -/
theorem Told.report (k : Told base g) {history : List RequestEvent} {a : Attempt} {address : Address}
    {c : Consistency} (here : g.request.events = history) (at' : a.address = address) (sent : a.consistency = c) :
    ({ host := address, tried := g.request.tried, speculated := .ofNat g.request.speculated,
       retries := g.request.retries, achieved := c } : ExecutionReport) = reportOn history a := by
  subst here at' sent
  rw [k.tried, k.speculated, k.retries]
  rfl

/-- An execution that looks for a host sends. -/
theorem Told.sends {i : Nat} {c : Consistency} {current : Option HostId} (o : Orderly ⟨s, r, .seeking i c current⟩)
    (k : Told base ⟨s, r, .seeking i c current⟩) (s' : Shared) (h : HostId) (t : Ticket) :
    Told base (.rest (r.send s' i c h t)) where
  tried := by
    show r.tried ++ [(s'.host h).address] = triedIn (.sent ⟨h, (s'.host h).address, i, c, r.timestamp⟩ :: r.events)
    rw [k.tried]
    exact (List.reverse_cons ..).symm
  retries := k.retries
  speculated := k.speculated
  first := k.first
  levelled := ⟨k.heeding, k.levelled⟩
  unheard := k.unheard
  waiting := by
    intro e he
    rcases List.mem_append.1 he with he | he
    · exact (k.waiting e he).later fun hi => (o.apart i rfl).2.1 e he (Option.some.inj hi).symm
    · obtain rfl := List.mem_singleton.1 he
      refine ⟨k.heeding, ?_⟩
      rintro h' a t' hp
      cases hp
      exact ⟨_, if_pos rfl, rfl, rfl⟩
  heeding := trivial
  reported := reported_of_live (o.apart i rfl).2.2

/-- A queued execution goes on. -/
theorem Told.goesOn (k : Told base ⟨s, r, .idle⟩) (live : r.isLive = true) {i : Nat} {e : Execution}
    (waits : r.execution? i = some e) : Told base ⟨s, r.without i, .seeking i e.consistency none⟩ := by
  obtain ⟨he, rfl⟩ := mem_of_execution? waits
  exact ⟨k.tried, k.retries, k.speculated, k.first, k.levelled, k.unheard,
    fun e' he' => k.waiting e' (List.mem_filter.1 he').1, (k.waiting e he).level, reported_of_live live⟩

/-- A slot is refused. -/
theorem Told.refused {i : Nat} {c : Consistency} {current : Option HostId}
    (k : Told base ⟨s, r, .seeking i c current⟩) (live : r.isLive = true) (s' : Shared) (a : Address) (f : Failure) :
    Told base ⟨s', (r.record s (.refused i a f)).recordError a f, .seeking i c none⟩ :=
  ⟨k.tried, k.retries, k.speculated, k.first, k.levelled, k.unheard, fun e he => (k.waiting e he).later nofun,
    k.heeding, reported_of_live live⟩

/-- The retry policy has decided. -/
theorem Told.decided {e : Execution} {h : HostId} {a : Address} {ans : Answer}
    (o : Orderly ⟨s, r, .judging e h a ans⟩) (k : Told base ⟨s, r, .judging e h a ans⟩) (d : Decision) :
    Told base ⟨s, { r.record s (.decided e.index a d) with
      retries := bif d.isRetry then r.retries + 1 else r.retries }, .idle⟩ where
  tried := k.tried
  retries := by
    show (bif d.isRetry then r.retries + 1 else r.retries) =
      .ofNat ((RequestEvent.decided e.index a d :: r.events).countP (·.isRetry))
    have hcount : (RequestEvent.decided e.index a d :: r.events).countP (·.isRetry) =
        r.events.countP (·.isRetry) + if d.isRetry then 1 else 0 := List.countP_cons
    rw [hcount, UInt32.ofNat_add, ← k.retries]
    cases d.isRetry
    · exact (UInt32.add_zero r.retries).symm
    · rfl
  speculated := k.speculated
  first := k.first
  levelled := k.levelled
  unheard := by
    intro i hi
    refine (level_cons fun he => ?_).trans (k.unheard i hi)
    obtain rfl := Option.some.inj he
    exact absurd (o.apart _ rfl).1 (Nat.not_le_of_lt hi)
  waiting := fun e' he' => (k.waiting e' he').later fun hi =>
    (o.apart _ rfl).2.1 e' he' (Option.some.inj hi).symm
  heeding := trivial
  reported := reported_of_live (o.apart _ rfl).2.2

/-- **Every stride keeps what was told.** -/
theorem Told.stride (o : Orderly g) (k : Told base g) (stride : Stride p g g') : Told base g' := by
  cases stride with
  | pulled offer =>
    exact ⟨k.tried, k.retries, k.speculated, k.first, k.levelled, k.unheard,
      fun e he => (k.waiting e he).later nofun, k.heeding, reported_of_live (o.apart _ rfl).2.2⟩
  | ranDry dry =>
    exact ⟨k.tried, k.retries, k.speculated, k.first, k.levelled, k.unheard,
      fun e he => (k.waiting e he).later nofun, trivial, reported_of_live (o.apart _ rfl).2.2⟩
  | passed down =>
    exact ⟨k.tried, k.retries, k.speculated, k.first, k.levelled, k.unheard, k.waiting, k.heeding, k.reported⟩
  | busy =>
    exact ⟨k.tried, k.retries, k.speculated, k.first, k.levelled, k.unheard, k.waiting, k.heeding.1, k.reported⟩
  | refused up asked => exact k.refused (o.apart _ rfl).2.2 _ _ _
  | @queued s r i c h t admission up asked =>
    refine ⟨k.tried, k.retries, k.speculated, k.first, k.levelled, k.unheard, fun e he => ?_, trivial, k.reported⟩
    rcases List.mem_append.1 he with he | he
    · exact k.waiting e he
    · obtain rfl := List.mem_singleton.1 he
      exact ⟨k.heeding, nofun⟩
  | granted up asked => exact Told.sends o k _ _ _
  | @answered s r i ans e h a t live waits sent =>
    have on := k.goesOn live waits
    obtain ⟨he, rfl⟩ := mem_of_execution? waits
    have w := k.waiting e he
    refine ⟨k.tried, k.retries, k.speculated, k.first, k.levelled, k.unheard, fun e' he' => ?_,
      ⟨w.level, r.events, rfl, w.sent h a t sent⟩, reported_of_live live⟩
    exact (on.waiting e' he').later fun hi =>
      (by simpa using (List.mem_filter.1 he').2 : e'.index ≠ e.index) (Option.some.inj hi).symm
  | @succeeded s r e h a result =>
    obtain ⟨-, earlier, hev, b, hb, rfl, hc⟩ := k.heeding
    have hi := outstanding_execution hb
    refine k.finish s _ fun result' report ho => ⟨b, ?_, ?_⟩
    · cases ho
      rw [hev, ← hi]
      exact .answered (hi ▸ hb)
    · cases ho
      exact k.report rfl rfl hc
  | @retried s r e h a f setback level' sameHost asked decided =>
    have d := Told.decided o k (.retry level' sameHost)
    refine ⟨d.tried, d.retries, d.speculated, d.first, d.levelled, d.unheard, d.waiting, ?_, d.reported⟩
    show level'.getD e.consistency = level base e.index (.decided e.index a (.retry level' sameHost) :: r.events)
    rw [level, if_pos rfl, ← k.heeding.1]
    rfl
  | rethrown asked decided => exact (Told.decided o k .rethrow).finish _ _ nofun
  | @ignored s r e h a f setback asked decided =>
    obtain ⟨-, earlier, hev, b, hb, rfl, hc⟩ := k.heeding
    have hi := outstanding_execution hb
    have d := Told.decided o k .ignore
    refine d.finish s _ fun result' report ho => ⟨b, ?_, ?_⟩
    · cases ho
      show Won (.decided e.index b.address .ignore :: r.events) b .empty
      rw [hev, ← hi]
      exact .ignored (hi ▸ hb)
    · cases ho
      exact d.report rfl rfl hc
  | failed live => exact k.finish _ _ nofun
  | lost live => exact k.lose live _ _
  | @resumed s r i e h a t admission live waits queued found =>
    exact Told.sends (o.goesOn live waits s (.seeking i e.consistency none) rfl) (k.goesOn live waits) _ _ _
  | closed live waits queued found => exact (k.goesOn live waits).refused live _ _ _
  | spent live due dry =>
    exact ⟨k.tried, k.retries, k.speculated, k.first, k.levelled, k.unheard,
      fun e he => (k.waiting e he).later nofun, trivial, reported_of_live live⟩
  | @copied s r h plan next live due offer timed =>
    refine ⟨k.tried, k.retries, ?_, k.first, k.levelled, fun i hi => k.unheard i (Nat.lt_of_succ_lt hi),
      fun e he => ?_, ?_, reported_of_live live⟩
    · show r.speculated + 1 = (RequestEvent.speculated (r.speculated + 1) :: .pulled (r.speculated + 1) h ::
        r.events).countP (·.isCopy)
      rw [List.countP_cons, List.countP_cons, k.speculated]
      rfl
    · have w : Waits base (.pulled (r.speculated + 1) h :: r.events) e := (k.waiting e he).later nofun
      exact w.later nofun
    · exact k.first.trans (k.unheard _ (Nat.lt_succ_self _)).symm

/-! ## Runs -/

theorem told_start (p : Policies) (s : Shared) (statement : Statement) (options : ExecutionOptions) (plan : Plan) :
    Orderly (.rest (startOn p s statement options plan)) ∧
      Told options.consistency (.rest (startOn p s statement options plan)) := by
  refine startOn_keeps (I := fun g => Orderly g ∧ Told options.consistency g)
    (fun i stride => ⟨i.1.stride stride, i.2.stride i.1 stride⟩) (fun rest _ => ⟨⟨nofun, nofun⟩, ?_⟩)
    fun h rest next _ _ => ⟨orderly_begun s statement options h rest next, ?_⟩
  · exact ⟨rfl, rfl, rfl, rfl, trivial, fun _ _ => rfl, nofun, trivial, nofun⟩
  · exact ⟨rfl, rfl, rfl, rfl, trivial, fun _ _ => rfl, nofun, rfl, nofun⟩

/-- One more execution is started, and failures are retried at a lower level. -/
def lowering : Policies :=
  { balancer := .roundRobin none 0, speculation := .constant (.ofMillis 5) 1
    retry := .custom fun _ _ _ => .retry (some .one) true }

/-- The copy wins after the first execution was told to try again. -/
def copyWins : List (Shared × Move) :=
  [({ twoHosts with now := 5 }, .speculate), ({ twoHosts with now := 6 }, .answer 0 (.error (.connection "reset"))),
    ({ twoHosts with now := 7 }, .answer 1 (.ok .empty))]

end Request

end CqlDispatch
