import CqlDispatch.Proofs.Request.Run
/-!
# Turns

An execution sends its next attempt only after the answer to the one before, and every answer is
to the attempt that its execution has outstanding.  The order is read off the events alone
(`InTurn`); the invariant ties them to where each execution waits (`Coherent`).  It holds whatever
the policies say and whatever the other executions do.
-/
namespace CqlDispatch

/-- Where an answer is to come from, if one is to come. -/
def Phase.address? : Phase → Option Address
  | .queued .. => none
  | .inFlight _ a _ => some a

namespace Request

/-! ## The order of events -/

/-- The latest attempt of an execution, if it has no answer yet. -/
def outstanding (i : Nat) : List RequestEvent → Option Attempt
  | [] => none
  | .sent a :: earlier => if a.execution = i then some a else outstanding i earlier
  | .answered j _ _ :: earlier => if j = i then none else outstanding i earlier
  | _ :: earlier => outstanding i earlier

/-- Each attempt goes out when its execution has none outstanding, and each answer is to the
outstanding one. -/
def InTurn : List RequestEvent → Prop
  | [] => True
  | .sent a :: earlier => outstanding a.execution earlier = none ∧ InTurn earlier
  | .answered i address _ :: earlier =>
    (∃ a, outstanding i earlier = some a ∧ a.address = address) ∧ InTurn earlier
  | _ :: earlier => InTurn earlier

theorem InTurn.tail {e : RequestEvent} {earlier : List RequestEvent} (h : InTurn (e :: earlier)) :
    InTurn earlier := by
  cases e with
  | sent a => exact h.2
  | answered i address answer => exact h.2
  | _ => exact h

theorem InTurn.suffix {earlier : List RequestEvent} :
    ∀ {later : List RequestEvent}, InTurn (later ++ earlier) → InTurn earlier
  | [], h => h
  | _ :: _, h => InTurn.suffix h.tail

/-- **An attempt stays outstanding until its own answer has come.** -/
theorem InTurn.outstanding_or_answered {a : Attempt} {earlier : List RequestEvent} :
    ∀ {later : List RequestEvent}, InTurn (later ++ .sent a :: earlier) →
      outstanding a.execution (later ++ .sent a :: earlier) = some a ∨
        ∃ newer between answer, later = newer ++ .answered a.execution a.address answer :: between ∧
          outstanding a.execution (between ++ .sent a :: earlier) = some a
  | [], _ => .inl (if_pos rfl)
  | e :: later, h => by
    have hrest : InTurn (later ++ .sent a :: earlier) := h.tail
    rcases hrest.outstanding_or_answered with ho | ⟨newer, between, answer, rfl, ho⟩
    · cases e with
      | sent b =>
        by_cases hb : b.execution = a.execution
        · have hnone : outstanding b.execution (later ++ .sent a :: earlier) = none := h.1
          rw [hb, ho] at hnone
          cases hnone
        · exact .inl ((if_neg hb).trans ho)
      | answered i address answer =>
        by_cases hi : i = a.execution
        · obtain ⟨⟨b, hb, rfl⟩, -⟩ := h
          have hab : some a = some b := ho.symm.trans (hi ▸ hb)
          rw [hi, ← Option.some.inj hab]
          exact .inr ⟨[], later, answer, rfl, ho⟩
        · exact .inl ((if_neg hi).trans ho)
      | _ => exact .inl ho
    · exact .inr ⟨e :: newer, between, answer, rfl, ho⟩

/-- Between two attempts of an execution the first is answered. -/
theorem InTurn.answered_before_next {later between earlier : List RequestEvent} {a b : Attempt}
    (h : InTurn (later ++ .sent b :: (between ++ .sent a :: earlier)))
    (hab : b.execution = a.execution) :
    ∃ answer, .answered a.execution a.address answer ∈ between := by
  obtain ⟨hnone, hrest⟩ := h.suffix
  rcases hrest.outstanding_or_answered with ho | ⟨newer, rest, answer, rfl, -⟩
  · rw [hab, ho] at hnone
    cases hnone
  · exact ⟨answer, List.mem_append_right _ List.mem_cons_self⟩

/-! ## The executions -/

theorem execution?_without (r : Request) (i j : Nat) :
    (r.without i).execution? j = if j = i then none else r.execution? j := by
  unfold execution? without
  simp only [List.find?_filter]
  split
  · rename_i hji
    subst hji
    exact List.find?_eq_none.2 (fun e _ => by simp)
  · rename_i hji
    congr 1
    funext e
    by_cases he : e.index = j
    · simp [he, hji]
    · simp [he]

theorem execution?_snoc {r q : Request} {e : Execution} (hq : q.executions = r.executions ++ [e])
    (hnone : r.execution? e.index = none) (j : Nat) :
    q.execution? j = if j = e.index then some e else r.execution? j := by
  unfold execution? at hnone ⊢
  rw [hq, List.find?_append]
  split
  · rename_i hj
    subst hj
    rw [hnone]
    simp
  · rename_i hj
    rw [List.find?_singleton, if_neg (by simpa using fun h => hj h.symm), Option.or_none]

/-! ## The invariant -/

/-- The executions in flight are those with an attempt outstanding, at the same address. -/
structure Coherent (r : Request) : Prop where
  inTurn : InTurn r.events
  agrees : ∀ i, (outstanding i r.events).map (·.address) = (r.execution? i).bind (·.phase.address?)
  fresh : ∀ i, r.speculated < i → r.execution? i = none

/-- An execution looks for a host; the others wait. -/
structure Looking (i : Nat) (r : Request) : Prop extends Coherent r where
  detached : r.execution? i = none
  known : i ≤ r.speculated

theorem looking_first {r : Request} (ht : InTurn r.events) (ho : ∀ i, outstanding i r.events = none)
    (hnone : r.executions = []) : Looking 0 r := by
  have hexec : ∀ i, r.execution? i = none := fun i => by rw [execution?, hnone]; rfl
  refine ⟨⟨ht, fun i => ?_, fun i _ => hexec i⟩, hexec 0, Nat.zero_le _⟩
  rw [ho, hexec]
  rfl

theorem Looking.settled {i : Nat} {r : Request} (h : Looking i r) : outstanding i r.events = none := by
  have := h.agrees i
  rw [h.detached] at this
  exact Option.map_eq_none_iff.1 this

theorem Looking.waits {i : Nat} {r q : Request} {e : Execution} (h : Looking i r) (hi : e.index = i)
    (hq : q.executions = r.executions ++ [e]) (hs : q.speculated = r.speculated) (ht : InTurn q.events)
    (ho : ∀ j, (outstanding j q.events).map (·.address) =
      if j = i then e.phase.address? else (outstanding j r.events).map (·.address)) : Coherent q := by
  subst hi
  have hsnoc := execution?_snoc hq h.detached
  refine ⟨ht, fun j => ?_, fun j hj => ?_⟩
  · rw [ho, hsnoc]
    split
    · rfl
    · exact h.agrees j
  · have hknown := h.known
    rw [hsnoc, if_neg (by omega)]
    exact h.fresh j (hs ▸ hj)

theorem Looking.sends {i : Nat} {r : Request} (h : Looking i r) (s : Shared) (c : Consistency)
    (host : HostId) (t : Ticket) : Coherent (send s r i c host t).2 := by
  refine h.waits (e := ⟨i, c, .inFlight host (s.host host).address t⟩) rfl rfl rfl ⟨h.settled, h.inTurn⟩
    fun j => ?_
  rw [send_events, outstanding]
  by_cases hj : i = j
  · rw [if_pos hj, if_pos hj.symm]
    rfl
  · rw [if_neg hj, if_neg (Ne.symm hj)]

/-- What holds of every request: live or decided, its executions took turns. -/
def TakesTurns (r : Request) : Prop := InTurn r.events ∧ (r.isLive = true → Coherent r)

theorem takesTurns_finish {r : Request} (h : InTurn r.events) (s : Shared) (o : Outcome) :
    TakesTurns (r.finish s o).2 :=
  ⟨h, fun hlive => by cases hlive⟩

theorem takesTurns_lose {r : Request} (h : InTurn r.events) (s : Shared) (o : Overflow) :
    TakesTurns (r.lose s o).2 :=
  ⟨h, fun hlive => absurd (hlive.symm.trans (isLive_lose s r o)) Bool.noConfusion⟩

/-- **A search ends** with the execution in a queue or in flight, or at the end of the plan. -/
theorem looking_search (i : Nat) (c : Consistency) :
    SearchKeeps i c (fun _ _ r => Looking i r) (fun out => TakesTurns out.2) where
  pulled h _ := ⟨⟨h.inTurn, h.agrees, h.fresh⟩, h.detached, h.known⟩
  dry {s r plan} h _ := by
    unfold exhaust
    split
    · refine takesTurns_finish ?_ s _
      exact h.inTurn
    · exact ⟨h.inTurn, fun _ => ⟨h.inTurn, h.agrees, h.fresh⟩⟩
  down h _ := h
  refused h _ _ := ⟨⟨h.inTurn, h.agrees, h.fresh⟩, h.detached, h.known⟩
  queued {s r host t admission} h _ _ := by
    refine ⟨h.inTurn, fun _ => h.waits (e := ⟨i, c, .queued host (s.host host).address t⟩) rfl rfl rfl
      h.inTurn fun j => ?_⟩
    show (outstanding j r.events).map _ = _
    split
    · rename_i hj
      rw [hj, h.settled]
      rfl
    · rfl
  granted h _ _ := ⟨(h.sends _ _ _ _).inTurn, fun _ => h.sends _ _ _ _⟩
  overflow h _ _ := takesTurns_lose h.inTurn _ _

theorem Coherent.looks {r : Request} (h : Coherent r) {i : Nat} {e : Execution} {host : HostId}
    {a : Address} {t : Ticket} (he : r.execution? i = some e) (hp : e.phase = .inFlight host a t)
    (s : Shared) (ans : Answer) : Looking i (r.received s i a ans) := by
  have hexec := execution?_without r i
  obtain ⟨attempt, hout, haddr⟩ : ∃ b, outstanding i r.events = some b ∧ b.address = a := by
    have := h.agrees i
    rw [he, Option.bind_some, hp] at this
    exact Option.map_eq_some_iff.1 this
  refine ⟨⟨⟨⟨attempt, hout, haddr⟩, h.inTurn⟩, fun j => ?_, fun j hj => ?_⟩, ?_, ?_⟩
  · show (outstanding j (.answered i a ans :: r.events)).map _ = ((r.without i).execution? j).bind _
    rw [hexec, outstanding]
    by_cases hj : i = j
    · rw [if_pos hj, if_pos hj.symm]
      rfl
    · rw [if_neg hj, if_neg (Ne.symm hj)]
      exact h.agrees j
  · show (r.without i).execution? j = none
    rw [hexec]
    split
    · rfl
    · exact h.fresh j hj
  · exact (hexec i).trans (if_pos rfl)
  · refine Nat.le_of_not_lt fun hlt => ?_
    rw [h.fresh i hlt] at he
    cases he

theorem Coherent.dequeued {r : Request} (h : Coherent r) {i : Nat} {e : Execution} {host : HostId}
    {a : Address} {t : Ticket} (he : r.execution? i = some e) (hp : e.phase = .queued host a t) :
    Looking i (r.without i) := by
  have hexec := execution?_without r i
  refine ⟨⟨h.inTurn, fun j => ?_, fun j hj => ?_⟩, (hexec i).trans (if_pos rfl), ?_⟩
  · rw [events_without, hexec, h.agrees]
    split
    · rename_i hj
      rw [hj, he, Option.bind_some, hp]
      rfl
    · rfl
  · rw [hexec]
    split
    · rfl
    · exact h.fresh j hj
  · refine Nat.le_of_not_lt fun hlt => ?_
    rw [h.fresh i hlt] at he
    cases he

theorem Coherent.begins {r q : Request} {host : HostId} (h : Coherent r)
    (ht : q.events = .speculated (r.speculated + 1) :: .pulled (r.speculated + 1) host :: r.events)
    (he : q.executions = r.executions) (hs : q.speculated = r.speculated + 1) :
    Looking (r.speculated + 1) q := by
  have hexec : ∀ j, q.execution? j = r.execution? j := fun j => by rw [execution?, he]; rfl
  refine ⟨⟨?_, fun j => ?_, fun j hj => ?_⟩, ?_, Nat.le_of_eq hs.symm⟩
  · rw [ht]
    exact h.inTurn
  · rw [ht, hexec]
    exact h.agrees j
  · rw [hexec]
    exact h.fresh j (by omega)
  · rw [hexec]
    exact h.fresh _ (Nat.lt_succ_self _)

/-- **Every move keeps the turns.** -/
theorem takesTurns_move {p : Policies} {s : Shared} {r : Request} {m : Move} {out : Shared × Request}
    (h : TakesTurns r) (hm : r.move? p s m = some out) : TakesTurns out.2 := by
  obtain ⟨hturn, hlive⟩ := h
  refine (move_rule (Q := fun out => Coherent r → TakesTurns out.2) hm ?answered ?resumed ?speculated
    ?expired ?cancelled).elim fun hl hq => hq (hlive hl)
  case answered =>
    intro i ans e host a t _ he hp hc
    have hlooks := fun s' => hc.looks he hp s' ans
    refine answer_rule (Q := fun out => TakesTurns out.2) he hp ?ok ?retry ?rethrow ?ignore ?busy ?hopeless
    case ok => exact fun {s' _} _ => takesTurns_finish (hlooks s').inTurn s' _
    case retry =>
      intro s' f setback level sameHost current _ _ _ _
      have hl := hlooks s'
      exact (looking_search i _).proceed (L := fun _ _ r => Looking i r)
        ⟨⟨hl.inTurn, hl.agrees, hl.fresh⟩, hl.detached, hl.known⟩
    case rethrow =>
      intro s' f setback _ _ _
      refine takesTurns_finish ?_ s' _
      exact (hlooks s').inTurn
    case ignore =>
      intro s' f setback _ _ _
      refine takesTurns_finish ?_ s' _
      exact (hlooks s').inTurn
    case busy =>
      intro s' host limit _
      have hl := hlooks s'
      exact (looking_search i _).proceed (L := fun _ _ r => Looking i r)
        ⟨⟨hl.inTurn, hl.agrees, hl.fresh⟩, hl.detached, hl.known⟩
    case hopeless => exact fun {s' _} _ _ _ => takesTurns_finish (hlooks s').inTurn s' _
  case resumed =>
    intro i e host a t _ he hp hc
    have hl := hc.dequeued he hp
    refine resume_rule (Q := fun out => TakesTurns out.2) he hp ?waiting ?granted ?closed
    case waiting => exact fun _ => ⟨hturn, hlive⟩
    case granted =>
      intro s'
      have hsent := hl.sends s' e.consistency host t
      exact ⟨hsent.inTurn, fun _ => hsent⟩
    case closed =>
      intro s' f
      exact (looking_search i _).proceed (L := fun _ _ r => Looking i r)
        ⟨⟨hl.inTurn, hl.agrees, hl.fresh⟩, hl.detached, hl.known⟩
  case speculated =>
    intro _ _ hc
    refine speculate_rule (Q := fun out => TakesTurns out.2) ?dry ?started ?lost
    case dry => exact fun _ => ⟨hturn, fun _ => ⟨hc.inTurn, hc.agrees, hc.fresh⟩⟩
    case started =>
      intro host plan next _ _
      exact (looking_search _ _).proceed (L := fun _ _ r => Looking _ r) (hc.begins rfl rfl rfl)
    case lost => exact fun {host plan o} _ _ => takesTurns_lose (r := r.copying s host plan) hturn s o
  case expired => exact fun _ _ => takesTurns_finish hturn s _
  case cancelled => exact fun _ _ => takesTurns_finish hturn s _

theorem takesTurns_start (p : Policies) (s : Shared) (statement : Statement) (options : ExecutionOptions)
    (plan : Plan) : TakesTurns (startOn p s statement options plan).2 := by
  refine start_rule (Q := fun out => TakesTurns out.2) ?dry ?begun ?lost
  case dry => exact fun {rest} _ => takesTurns_finish (r := stillborn s statement options rest) trivial s _
  case begun =>
    intro s' host rest next _ _ _
    exact (looking_search 0 _).proceed (L := fun _ _ r => Looking 0 r)
      (looking_first (r := { opened s statement options host rest with nextSpeculative := next }) trivial
        (fun _ => rfl) rfl)
  case lost => exact fun {s' host rest o} _ _ _ => takesTurns_lose (r := opened s statement options host rest) trivial s' o

end Request

end CqlDispatch
