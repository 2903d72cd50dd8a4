import CqlDispatch.Proofs.Request.Turns
/-!
# The outcome

A request that is left alone ends once, with what its earliest deciding event says: the first
success, or the first failure for good (`Verdict`).  Only where no event decides, the plan is at its
end and every attempt was turned back, no host was available
(`ends_with_first_verdict`).
-/
namespace CqlDispatch

/-- What the caller gets, without the report. -/
def Outcome.result : Outcome → Except Failure ResultSet
  | .success result _ => .ok result
  | .failure f => .error f

namespace Request

/-! ## What decides -/

/-- The newest event decides the request.  A failure does at once where the retry policy is not
asked and the host was not busy, else by the decision that follows it. -/
inductive Verdict : List RequestEvent → Except Failure ResultSet → Prop
  | succeeded {i a result earlier} : Verdict (.answered i a (.ok result) :: earlier) (.ok result)
  | hopeless {i a f earlier} (asked : f.setback? = none) (busy : ∀ host limit, f ≠ .busy host limit) :
    Verdict (.answered i a (.error f) :: earlier) (.error f)
  | rethrown {i a f earlier} :
    Verdict (.decided i a .rethrow :: .answered i a (.error f) :: earlier) (.error f)
  | ignored {i a earlier} : Verdict (.decided i a .ignore :: earlier) (.ok .empty)

/-- No event decides. -/
def Undecided (events : List RequestEvent) : Prop := ∀ earlier v, earlier <:+ events → ¬ Verdict earlier v

/-- Where the retry policy is asked about a failure, its decision is the next event. -/
def Consulted (events : List RequestEvent) : Prop :=
  ∀ later e earlier, events = later ++ e :: earlier → ∀ i a f, e = .answered i a (.error f) →
    f.setback? ≠ none → ∃ newer d, later = newer ++ [.decided i a d]

/-- A failed attempt or a refused slot. -/
def mishap? : RequestEvent → Option (Address × String)
  | .refused _ a f => some (a, f.message)
  | .answered _ a (.error f) => some (a, f.message)
  | _ => none

/-- Every failed attempt and every refused slot, the oldest first. -/
def mishaps (events : List RequestEvent) : List (Address × String) := events.reverse.filterMap mishap?

/-- Some events, the newest first, after an attempt was sent: its own answer is a failure, and the
host was busy or it is to be tried again. -/
def TurnedBack (a : Attempt) (later earlier : List RequestEvent) : Prop :=
  ∃ newer between f, outstanding a.execution (between ++ .sent a :: earlier) = some a ∧
    ((∃ host limit, f = .busy host limit) ∧
        later = newer ++ .answered a.execution a.address (.error f) :: between ∨
      ∃ level sameHost, later = newer ++ .decided a.execution a.address (.retry level sameHost) ::
        .answered a.execution a.address (.error f) :: between)

theorem not_verdict_of_asked {i : Nat} {a : Address} {f : Failure} {setback : Setback}
    (hs : f.setback? = some setback) (earlier : List RequestEvent) (v : Except Failure ResultSet) :
    ¬ Verdict (.answered i a (.error f) :: earlier) v := by
  intro hv
  cases hv with
  | hopeless hask _ =>
    rw [hs] at hask
    cases hask

theorem unended_cons {e : RequestEvent} {events : List RequestEvent}
    (h : ∀ o latency, .ended o latency ∉ events) (he : ∀ o latency, e ≠ .ended o latency) (o : Outcome)
    (latency : Span) : .ended o latency ∉ e :: events := by
  intro hm
  rcases List.mem_cons.1 hm with heq | hm
  · exact he o latency heq.symm
  · exact h o latency hm

theorem undecided_cons {e : RequestEvent} {events : List RequestEvent} (h : Undecided events)
    (he : ∀ v, ¬ Verdict (e :: events) v) : Undecided (e :: events) := by
  intro earlier v hs
  rcases List.suffix_cons_iff.1 hs with rfl | hs
  · exact he v
  · exact h earlier v hs

theorem consulted_cons {e : RequestEvent} {events : List RequestEvent} (h : Consulted events)
    (he : ∀ i a f, e = .answered i a (.error f) → f.setback? = none) : Consulted (e :: events) := by
  refine forall_split_cons.2 ⟨fun i a f hf hask => absurd (he i a f hf) hask, ?_⟩
  intro later x earlier hs i a f hf hask
  obtain ⟨newer, d, rfl⟩ := h later x earlier hs i a f hf hask
  exact ⟨e :: newer, d, rfl⟩

theorem consulted_decided {i : Nat} {a : Address} {d : Decision} {f : Failure}
    {events : List RequestEvent} (h : Consulted events) :
    Consulted (.decided i a d :: .answered i a (.error f) :: events) := by
  refine forall_split_cons.2 ⟨fun _ _ _ hf => (by cases hf), ?_⟩
  refine forall_split_cons.2 ⟨fun _ _ _ hf _ => (by cases hf; exact ⟨[], d, rfl⟩), ?_⟩
  intro later x earlier hs j b g hg hask
  obtain ⟨newer, d', rfl⟩ := h later x earlier hs j b g hg hask
  exact ⟨_ :: _ :: newer, d', rfl⟩

theorem mishaps_cons (e : RequestEvent) (events : List RequestEvent) :
    mishaps (e :: events) = mishaps events ++ (mishap? e).toList := by
  unfold mishaps
  rw [List.reverse_cons, List.filterMap_append]
  cases h : mishap? e <;> simp [h]

theorem turnedBack_of_settled {later earlier : List RequestEvent} {a : Attempt}
    (ht : InTurn (later ++ .sent a :: earlier)) (hu : Undecided (later ++ .sent a :: earlier))
    (hc : Consulted (later ++ .sent a :: earlier))
    (ho : outstanding a.execution (later ++ .sent a :: earlier) = none) : TurnedBack a later earlier := by
  rcases ht.outstanding_or_answered with hout | ⟨newer, between, answer, rfl, hout⟩
  · rw [hout] at ho
    cases ho
  have hsplit : ∀ pre : List RequestEvent, ∀ e, (pre ++ e :: between) ++ .sent a :: earlier =
      pre ++ e :: (between ++ .sent a :: earlier) := fun pre e => by simp
  rw [hsplit] at hu hc
  cases answer with
  | ok result => exact absurd .succeeded (hu _ (.ok result) (List.suffix_append newer _))
  | error f =>
    by_cases hask : f.setback? = none
    · refine ⟨newer, between, f, hout, .inl ⟨?_, rfl⟩⟩
      by_cases hbusy : ∃ host limit, f = .busy host limit
      · exact hbusy
      · have hne : ∀ host limit, f ≠ .busy host limit := fun host limit hf => hbusy ⟨host, limit, hf⟩
        exact absurd (.hopeless hask hne) (hu _ (.error f) (List.suffix_append newer _))
    · obtain ⟨newest, d, rfl⟩ := hc newer _ _ rfl _ _ f rfl hask
      simp only [List.append_assoc, List.singleton_append] at hu ⊢
      cases d with
      | retry level sameHost => exact ⟨newest, between, f, hout, .inr ⟨level, sameHost, by simp⟩⟩
      | rethrow => exact absurd .rethrown (hu _ (.error f) (List.suffix_append newest _))
      | ignore => exact absurd .ignored (hu _ (.ok .empty) (List.suffix_append newest _))

/-! ## The invariant -/

/-- A live request that no event has decided, with every failure on its list. -/
structure Pending (r : Request) : Prop where
  live : r.isLive = true
  undecided : Undecided r.events
  unended : ∀ o latency, .ended o latency ∉ r.events
  consulted : Consulted r.events
  errors : r.errors = mishaps r.events

/-- Events that left no host to try. -/
structure NothingLeft (plan : Plan) (events : List RequestEvent) : Prop where
  undecided : Undecided events
  ranDry : events.head? = some .ranDry
  ended : plan.Ended
  none_outstanding : ∀ i, outstanding i events = none
  turnedBack : ∀ later a earlier, events = later ++ .sent a :: earlier → TurnedBack a later earlier

/-- A request that was decided: by the newest event before its end and by none before that, or
because no host was left. -/
def Concluded (r : Request) : Prop :=
  ∃ o latency history, r.outcome = some o ∧ r.events = .ended o latency :: history ∧
    (∀ o' latency', .ended o' latency' ∉ history) ∧
    (Verdict history o.result ∧ Undecided history.tail ∨
      o = .failure (.noHostAvailable (mishaps history)) ∧ NothingLeft r.plan history)

/-- What holds of a request that is left alone, if it was not lost. -/
def Stands (r : Request) : Prop := Coherent r ∧ Pending r ∨ Concluded r ∨ r.outcome = none ∧ r.isLive = false

theorem stands_lose {r : Request} (live : r.isLive = true) (s : Shared) (o : Overflow) : Stands (r.lose s o).2 :=
  .inr (.inr ⟨(isLive_iff.1 live).1, isLive_lose s r o⟩)

theorem Pending.cons {r q : Request} {e : RequestEvent} (h : Pending r) (hq : q.events = e :: r.events)
    (hlive : q.isLive = true) (he : q.errors = r.errors ++ (mishap? e).toList)
    (hv : ∀ v, ¬ Verdict (e :: r.events) v) (hend : ∀ o latency, e ≠ .ended o latency)
    (hask : ∀ i a f, e = .answered i a (.error f) → f.setback? = none) : Pending q where
  live := hlive
  undecided := hq ▸ undecided_cons h.undecided hv
  unended := hq ▸ unended_cons h.unended hend
  consulted := hq ▸ consulted_cons h.consulted hask
  errors := by rw [hq, mishaps_cons, he, h.errors]

theorem pending_first {r : Request} {e : RequestEvent} (hev : r.events = [e]) (hlive : r.isLive = true)
    (herr : r.errors = (mishap? e).toList) (hv : ∀ v, ¬ Verdict [e] v)
    (hend : ∀ o latency, e ≠ .ended o latency)
    (hask : ∀ i a f, e = .answered i a (.error f) → f.setback? = none) : Pending r := by
  have hnil : Pending { r with trace := [], errors := [] } := by
    refine ⟨hlive, fun earlier v hs hv => ?_, fun _ _ => List.not_mem_nil, fun later e earlier hs => ?_, rfl⟩
    · rw [List.suffix_nil.1 hs] at hv
      cases hv
    · exact absurd hs.symm (by simp [events])
  exact hnil.cons hev hlive herr hv hend hask

theorem concluded_finish {r : Request} {e : RequestEvent} {earlier : List RequestEvent} {o : Outcome}
    (hr : r.events = e :: earlier) (hu : Undecided earlier)
    (hend : ∀ o latency, .ended o latency ∉ r.events) (hv : Verdict r.events o.result) (s : Shared) :
    Concluded (r.finish s o).2 :=
  ⟨o, _, r.events, rfl, rfl, hend, .inl ⟨hv, by rw [hr]; exact hu⟩⟩

theorem concluded_ranDry {r : Request} (hc : Coherent r) (hp : Pending r) (hdry : r.events.head? = some .ranDry)
    (hended : r.plan.Ended) (hnone : r.executions = []) (s : Shared) :
    Concluded (r.finish s (.failure (.noHostAvailable r.errors))).2 := by
  have hout : ∀ i, outstanding i r.events = none := fun i => by
    have := hc.agrees i
    rw [execution?, hnone] at this
    exact Option.map_eq_none_iff.1 this
  refine ⟨_, _, r.events, rfl, rfl, hp.unended, .inr ⟨by rw [hp.errors], hp.undecided, hdry, hended, hout, ?_⟩⟩
  intro later a earlier hsplit
  have ho := hout a.execution
  have ht := hc.inTurn
  have hu := hp.undecided
  have hcons := hp.consulted
  rw [hsplit] at ho ht hu hcons
  exact turnedBack_of_settled ht hu hcons ho

/-- **A search decides nothing**, unless it is the last and the plan is at its end. -/
theorem pending_search (i : Nat) (c : Consistency) :
    SearchKeeps i c (fun _ _ r => Looking i r ∧ Pending r) (fun out => Stands out.2) where
  pulled {s r host plan} h hp :=
    ⟨(looking_search i c).pulled (s := s) h.1 hp, h.2.cons rfl h.2.live (List.append_nil _).symm
      (fun _ hv => by cases hv) (fun _ _ he => by cases he) (fun _ _ _ he => by cases he)⟩
  dry {s r plan} h hp := by
    have hpending : Pending ({ r with plan := plan }.record s .ranDry) :=
      h.2.cons rfl h.2.live (List.append_nil _).symm (fun _ hv => by cases hv) (fun _ _ he => by cases he)
        (fun _ _ _ he => by cases he)
    have hcoherent : Coherent ({ r with plan := plan }.record s .ranDry) :=
      ⟨h.1.inTurn, h.1.agrees, h.1.fresh⟩
    unfold exhaust
    split
    · rename_i hempty
      exact .inr (.inl (concluded_ranDry hcoherent hpending rfl (Plan.ended_of_pull hp) (List.isEmpty_iff.1 hempty) s))
    · exact .inl ⟨hcoherent, hpending⟩
  down h _ := h
  refused {s r host t f admission} h hup ha :=
    ⟨(looking_search i c).refused (s := s) h.1 hup ha, h.2.cons rfl h.2.live rfl (fun _ hv => by cases hv)
      (fun _ _ he => by cases he) (fun _ _ _ he => by cases he)⟩
  queued {s r host t admission} h hup ha := by
    have hlive := h.2.live
    exact .inl ⟨((looking_search i c).queued (s := s) h.1 hup ha).2 hlive, hlive, h.2.undecided, h.2.unended,
      h.2.consulted, h.2.errors⟩
  granted {s r host t admission} h hup ha :=
    .inl ⟨h.1.sends _ _ _ _, h.2.cons rfl h.2.live (List.append_nil _).symm (fun _ hv => by cases hv)
      (fun _ _ he => by cases he) (fun _ _ _ he => by cases he)⟩
  overflow h _ _ := stands_lose h.2.live _ _

/-- **A move decides by the verdict it brings, or leaves the request undecided.** -/
theorem stands_move {p : Policies} {s : Shared} {r : Request} {m : Move} {out : Shared × Request}
    (hleft : m ≠ .expire ∧ m ≠ .cancel) (h : Stands r) (hm : r.move? p s m = some out) : Stands out.2 := by
  refine (move_rule (Q := fun out => Coherent r ∧ Pending r → Stands out.2) hm ?answered ?resumed
    ?speculated ?expired ?cancelled).elim fun hl hq => hq (h.resolve_right ?undecided)
  case undecided =>
    rintro (⟨o, latency, history, ho, -⟩ | ⟨-, lost⟩)
    · rw [isLive, ho] at hl
      cases hl
    · exact absurd (hl.symm.trans lost) Bool.noConfusion
  case answered =>
    rintro i ans e host a t _ he hp ⟨hc, hpend⟩
    have hlooks := fun s' => hc.looks he hp s' ans
    have hended : ∀ s' o latency, .ended o latency ∉ (r.received s' i a ans).events := fun s' =>
      unended_cons hpend.unended (fun _ _ he => by cases he)
    refine answer_rule (Q := fun out => Stands out.2) he hp ?ok ?retry ?rethrow ?ignore ?busy ?hopeless
    case ok =>
      rintro s' result rfl
      refine .inr (.inl (concluded_finish rfl hpend.undecided (hended s') ?_ s'))
      exact .succeeded
    case retry =>
      rintro s' f setback level sameHost current rfl hs _ _
      have hl := hlooks s'
      refine (pending_search i _).proceed (L := fun _ _ r => Looking i r ∧ Pending r)
        ⟨⟨⟨hl.inTurn, hl.agrees, hl.fresh⟩, hl.detached, hl.known⟩, hpend.live, ?_, ?_, ?_, ?_⟩
      · exact undecided_cons (undecided_cons hpend.undecided (not_verdict_of_asked hs _)) fun _ hv => by cases hv
      · exact unended_cons (hended s') (fun _ _ he => by cases he)
      · exact consulted_decided hpend.consulted
      · show r.errors ++ _ = mishaps (.decided i a _ :: .answered i a _ :: r.events)
        rw [mishaps_cons, mishaps_cons, hpend.errors]
        simp [mishap?]
    case rethrow =>
      rintro s' f setback rfl hs _
      refine .inr (.inl (concluded_finish rfl (undecided_cons hpend.undecided (not_verdict_of_asked hs _)) ?_ ?_ s'))
      · exact unended_cons (hended s') (fun _ _ he => by cases he)
      · exact .rethrown
    case ignore =>
      rintro s' f setback rfl hs _
      refine .inr (.inl (concluded_finish rfl (undecided_cons hpend.undecided (not_verdict_of_asked hs _)) ?_ ?_ s'))
      · exact unended_cons (hended s') (fun _ _ he => by cases he)
      · exact .ignored
    case busy =>
      rintro s' at' limit rfl
      have hl := hlooks s'
      refine (pending_search i _).proceed (L := fun _ _ r => Looking i r ∧ Pending r)
        ⟨⟨⟨hl.inTurn, hl.agrees, hl.fresh⟩, hl.detached, hl.known⟩, hpend.cons rfl hpend.live rfl ?_ ?_ ?_⟩
      · intro v hv
        cases hv with
        | hopeless _ hbusy => exact hbusy at' limit rfl
      · exact fun _ _ he => by cases he
      · exact fun _ _ _ he => by cases he; rfl
    case hopeless =>
      rintro s' f rfl hs hbusy
      refine .inr (.inl (concluded_finish rfl hpend.undecided (hended s') ?_ s'))
      exact .hopeless hs hbusy
  case resumed =>
    rintro i e host a t _ he hp ⟨hc, hpend⟩
    have hl := hc.dequeued he hp
    refine resume_rule (Q := fun out => Stands out.2) he hp ?waiting ?granted ?closed
    case waiting => exact fun _ => .inl ⟨hc, hpend⟩
    case granted =>
      intro s'
      exact .inl ⟨hl.sends _ _ _ _, hpend.cons rfl hpend.live (List.append_nil _).symm
        (fun _ hv => by cases hv) (fun _ _ he => by cases he) (fun _ _ _ he => by cases he)⟩
    case closed =>
      intro s' f
      exact (pending_search i _).proceed (L := fun _ _ r => Looking i r ∧ Pending r)
        ⟨⟨⟨hl.inTurn, hl.agrees, hl.fresh⟩, hl.detached, hl.known⟩, hpend.cons rfl hpend.live rfl
          (fun _ hv => by cases hv) (fun _ _ he => by cases he) (fun _ _ _ he => by cases he)⟩
  case speculated =>
    rintro _ _ ⟨hc, hpend⟩
    refine speculate_rule (Q := fun out => Stands out.2) ?dry ?started ?lost
    case dry =>
      intro plan _
      exact .inl ⟨⟨hc.inTurn, hc.agrees, hc.fresh⟩, hpend.cons rfl hpend.live (List.append_nil _).symm
        (fun _ hv => by cases hv) (fun _ _ he => by cases he) (fun _ _ _ he => by cases he)⟩
    case started =>
      intro host plan next _ _
      have hpulled : Pending ({ r with plan := plan }.record s (.pulled (r.speculated + 1) host)) :=
        hpend.cons rfl hpend.live (List.append_nil _).symm (fun _ hv => by cases hv)
          (fun _ _ he => by cases he) (fun _ _ _ he => by cases he)
      exact (pending_search _ _).proceed (L := fun _ _ r => Looking _ r ∧ Pending r)
        ⟨hc.begins rfl rfl rfl, hpulled.cons rfl hpend.live (List.append_nil _).symm
          (fun _ hv => by cases hv) (fun _ _ he => by cases he) (fun _ _ _ he => by cases he)⟩
    case lost => exact fun {host plan o} _ _ => stands_lose (r := r.copying s host plan) hpend.live s o
  case expired => exact fun he => absurd he hleft.1
  case cancelled => exact fun he => absurd he hleft.2

theorem stands_start (p : Policies) (s : Shared) (statement : Statement) (options : ExecutionOptions)
    (plan : Plan) : Stands (startOn p s statement options plan).2 := by
  refine start_rule (Q := fun out => Stands out.2) ?dry ?begun ?lost
  case dry =>
    intro rest hpull
    have hpend : Pending (stillborn s statement options rest) := pending_first rfl rfl rfl (fun _ hv => by cases hv)
      (fun _ _ he => by cases he) (fun _ _ _ he => by cases he)
    have hlook : Looking 0 (stillborn s statement options rest) := looking_first trivial (fun _ => rfl) rfl
    exact .inr (.inl (concluded_ranDry hlook.toCoherent hpend rfl (Plan.ended_of_pull hpull) rfl s))
  case begun =>
    intro s' host rest next _ _ _
    have hpend : Pending { opened s statement options host rest with nextSpeculative := next } :=
      pending_first rfl rfl rfl (fun _ hv => by cases hv) (fun _ _ he => by cases he) (fun _ _ _ he => by cases he)
    exact (pending_search 0 _).proceed (L := fun _ _ r => Looking 0 r ∧ Pending r)
      ⟨looking_first trivial (fun _ => rfl) rfl, hpend⟩
  case lost => exact fun {s' host rest o} _ _ _ => stands_lose (r := opened s statement options host rest) rfl s' o

/-- **A request has one outcome, and its earliest verdict decides it.**  If it is neither timed out
nor given up and ends, then with the result or failure of the newest event before its end, and no
earlier event decides; or no host was available, then nothing decides, the plan is at its end,
nothing is outstanding, every attempt was turned back, and the failure lists every failed attempt
and refused slot. -/
theorem ends_with_first_verdict (p : Policies) (s : Shared) (statement : Statement)
    (options : ExecutionOptions) (plan : Plan) {moves : List (Shared × Move)} {r : Request}
    (hr : (startOn p s statement options plan).2.run? p moves = some r)
    (hleft : ∀ m ∈ moves, m.2 ≠ .expire ∧ m.2 ≠ .cancel) {o : Outcome} (ho : r.outcome = some o) :
    ∃ latency history, r.events = .ended o latency :: history ∧
      (∀ o' latency', .ended o' latency' ∉ history) ∧
      (Verdict history o.result ∧ Undecided history.tail ∨
        o = .failure (.noHostAvailable (mishaps history)) ∧ NothingLeft r.plan history) := by
  have hkept : Stands r := run?_keeps (A := fun m => m ≠ .expire ∧ m ≠ .cancel)
    (fun ha h hm => stands_move ha h hm) hleft (stands_start p s statement options plan) hr
  rcases hkept with ⟨-, hpend⟩ | ⟨o', latency, history, ho', hev, hend, hwhy⟩ | ⟨undecided, -⟩
  · have hlive := hpend.live
    rw [isLive, ho] at hlive
    cases hlive
  · rw [ho, Option.some.injEq] at ho'
    subst ho'
    exact ⟨latency, history, hev, hend, hwhy⟩
  · rw [ho] at undecided
    cases undecided

/-- The connection breaks under the only attempt. -/
def connectionLost : List (Shared × Move) := [(oneHost, .answer 0 (.error (.connection "reset")))]

theorem only_host_lost_none_available :
    ∃ r o, (startOn { balancer := .roundRobin none 0 } oneHost { query := "SELECT" }
        ({} : QueryDefaults).options (.listed [0])).2.run? { balancer := .roundRobin none 0 }
        connectionLost = some r ∧ (∀ m ∈ connectionLost, m.2 ≠ .expire ∧ m.2 ≠ .cancel) ∧
      r.outcome = some o ∧ o.result = .error (.noHostAvailable [(default, (Failure.connection "reset").message)]) ∧
      ∃ latency history, r.events = .ended o latency :: history ∧
        (∀ o' latency', .ended o' latency' ∉ history) ∧
        (Verdict history o.result ∧ Undecided history.tail ∨
          o = .failure (.noHostAvailable (mishaps history)) ∧ NothingLeft r.plan history) := by
  have hleft : ∀ m ∈ connectionLost, m.2 ≠ .expire ∧ m.2 ≠ .cancel := by simp [connectionLost]
  exact ⟨_, _, rfl, hleft, rfl, rfl, @ends_with_first_verdict { balancer := .roundRobin none 0 } oneHost
    { query := "SELECT" } ({} : QueryDefaults).options (.listed [0]) connectionLost _ rfl hleft _ rfl⟩

end Request

end CqlDispatch
