import CqlDispatch.Proofs.Client.Slots
/-!
# Requests that have ended

A request that has ended never acts again, whatever the client does (`Over`).  The slots and the places in
queues that are taken are those of live requests (`HeldByLive`), so whatever its executions waited with or held
when it ended is given up.
-/
namespace CqlDispatch
namespace Client

/-! ## Silence -/

/-- At most the request with this number acts in a step, and it is live, or new. -/
structure Turn (c : Client) (n : Nat) (c' : Client) : Prop where
  live : ∀ r, c.request? n = some r → r.isLive = true
  others : ∀ k r, k ≠ n → c.request? k = some r → c'.request? k = some r
  noted : ∃ new, c'.journal = new ++ c.journal ∧ ∀ x ∈ new, ∀ k e, x.event = .request k e → k = n

section Step

variable {c c' : Client} {act : Action} {n : Nat}

theorem turn_putBack {r : Request} {out : Shared × Request} (found : c.request? n = some r)
    (live : r.isLive = true) (old : Nat) : Turn c n (c.putBack n old out) := by
  refine ⟨fun q hq => Option.some.inj (found.symm.trans hq) ▸ live, fun k q hk hq => ?_, _, rfl, fun x hx k e he => ?_⟩
  · exact (List.getElem?_set_ne hk.symm).trans hq
  · obtain ⟨m, -, rfl⟩ := List.mem_map.1 hx
    cases he
    rfl

theorem turn_submit (statement : Statement) (options : ExecutionOptions) :
    Turn c c.requests.length (c.submit statement options) := by
  refine ⟨fun r hr => ?_, fun k q hk hq => ?_, _, rfl, fun x hx k e he => ?_⟩
  · have hlt := (List.getElem?_eq_some_iff.1 hr).1
    exact absurd hlt (Nat.lt_irrefl _)
  · have hlt := (List.getElem?_eq_some_iff.1 hq).1
    exact (List.getElem?_set_ne hk.symm).trans ((List.getElem?_append_left hlt).trans hq)
  · obtain ⟨m, -, rfl⟩ := List.mem_map.1 hx
    cases he
    rfl

/-- **At most one request acts in a step**, and never one that has ended. -/
theorem step?_turn (h : c.step? act = some c') : ∃ n, Turn c n c' := by
  have turn : ∀ {n f}, c.onRequest? n f = some c' → ∃ n, Turn c n c' := fun {n f} h => by
    obtain ⟨r, out, found, live, -, rfl⟩ := onRequest?_eq_some h
    exact ⟨n, turn_putBack found live _⟩
  cases act with
  | submit statement options =>
    cases h
    exact ⟨_, turn_submit statement options⟩
  | answer | resume | speculate | expire | cancel =>
    rw [step?] at h
    exact turn h
  | _ =>
    obtain ⟨requests, new, journal, hnew⟩ := step?_quiet rfl (fun _ _ => Action.noConfusion) h
    refine ⟨c.requests.length, fun r hr => ?_, fun k r _ hr => ?_, new, journal, fun x hx k e he => ?_⟩
    · exact absurd (List.getElem?_eq_some_iff.1 hr).1 (Nat.lt_irrefl _)
    · unfold request? at hr ⊢
      rwa [requests]
    · exact absurd he (hnew x hx k e)

/-- A request that has ended stays as it is, and nothing more is noted of it. -/
theorem ended_silent {r : Request} (ended : r.isLive = false) :
    ∀ {later : List Action} {c c' : Client}, c.request? n = some r → c.run? later = some c' →
      c'.request? n = some r ∧ ∃ new, c'.journal = new ++ c.journal ∧ ∀ x ∈ new, ∀ e, x.event ≠ .request n e
  | [], c, _, found, ran => by
    cases ran
    exact ⟨found, [], rfl, fun _ hx => absurd hx List.not_mem_nil⟩
  | act :: later, c, c', found, ran => by
    obtain ⟨d, hd, hrest⟩ := Option.bind_eq_some_iff.1 ran
    obtain ⟨k, turn⟩ := step?_turn hd
    have hk : n ≠ k := by
      rintro rfl
      exact absurd ((turn.live r found).symm.trans ended) Bool.noConfusion
    obtain ⟨new, hjournal, hnew⟩ := turn.noted
    obtain ⟨found', new', hjournal', hnew'⟩ := ended_silent ended (turn.others n r hk found) hrest
    refine ⟨found', new' ++ new, ?_, fun x hx e he => ?_⟩
    · rw [hjournal', hjournal, List.append_assoc]
    · exact (List.mem_append.1 hx).elim (fun hx => hnew' x hx e he) fun hx => hk (hnew x hx n e he)

end Step

/-- What becomes of a request that has ended, or was lost. -/
structure Over (c : Client) (n : Nat) (r : Request) : Prop where
  executions : r.executions = []
  /-- The last that it did was to end. -/
  last : ∀ o, r.outcome = some o → ∃ m latency, r.trace.head? = some ⟨m, .ended o latency⟩
  /-- Whatever the client does next, it sends no attempt, asks for no host and takes no decision. -/
  silent : ∀ later c', c.run? later = some c' → c'.request? n = some r ∧
    ∃ new, c'.journal = new ++ c.journal ∧ ∀ x ∈ new, ∀ e, x.event ≠ .request n e

/-! ## Slots -/

/-- The executions of live requests that asked for a slot at an address since its host was last removed, and
wait for it or have it. -/
def asking (past : List (Client × Action)) (c : Client) (a : Address) : List Execution :=
  ((c.requests.filter (·.isLive)).flatMap (·.executions)).filter (·.phase.CountsAt (DrawnSince past) a)

/-- The slots of an address that are taken, and the places in its queue, are those of live requests. -/
structure HeldByLive (past : List (Client × Action)) (c : Client) (a : Address) : Prop where
  /-- An execution has a slot when its attempt is under way, or when it was handed one and will notice. -/
  inFlight : c.shared.admission.inFlight a = ((c.asking past a).filter fun e =>
    e.phase.isInFlight ∨ (c.shared.admission.resume a e.phase.ticket).1 = .granted).length
  queued : c.shared.admission.queued a = ((c.asking past a).filter fun e => e.phase.isInFlight = false).length

theorem flatMap_filter_of_nil {α β : Type} {p : α → Bool} {f : α → List β} :
    ∀ {l : List α}, (∀ x ∈ l, p x = false → f x = []) → (l.filter p).flatMap f = l.flatMap f
  | [], _ => rfl
  | x :: l, empty => by
    have hrest := flatMap_filter_of_nil (l := l) fun y hy => empty y (List.mem_cons_of_mem _ hy)
    cases hx : p x with
    | true => rw [List.filter_cons_of_pos hx, List.flatMap_cons, List.flatMap_cons, hrest]
    | false =>
      rw [List.filter_cons_of_neg (by simp [hx]), List.flatMap_cons, empty x List.mem_cons_self hx, hrest]
      rfl

theorem Accounted.heldByLive {limits : Limits} {past : List (Client × Action)} {c : Client}
    (i : Accounted limits past c) (a : Address) : HeldByLive past c a := by
  have hlive : (c.requests.filter (·.isLive)).flatMap (·.executions) = c.executions :=
    flatMap_filter_of_nil fun r hr ended => (i.sound r hr).idle ended
  have ledger := i.ledger
  rw [phases_eq] at ledger
  have inFlight := ledger.inFlight_eq a
  have queued := ledger.queued_eq a
  rw [List.filter_map, List.filter_map, List.length_map] at inFlight queued
  rw [← hlive] at inFlight queued
  exact ⟨inFlight, queued⟩

/-- **A request that has ended is over, and holds nothing**: in every state that a client gets to, every
request that has ended stays silent from then on, and every slot and every place in a queue that is taken is
taken by an execution of a live request. -/
theorem ended_request_over {policies : Policies} {defaults : QueryDefaults} {limits : Limits}
    {contacts : List Address} {report : Except Failure (List Translated)} {c₀ c : Client} {actions : List Action}
    (connected : connect policies defaults limits contacts report = .ok c₀) (ran : c₀.run? actions = some c) :
    (∀ n r, c.request? n = some r → r.isLive = false → Over c n r) ∧
      ∀ a, HeldByLive (c₀.past actions) c a := by
  have i := accounted_run connected ran
  refine ⟨fun n r found ended => ?_, i.heldByLive⟩
  have sound := i.sound r (List.mem_of_getElem? found)
  exact ⟨sound.idle ended, sound.last, fun _ _ later => ended_silent ended found later⟩

/-- The first request is given up while its attempt is under way, and the second one gets its slot. -/
def givenUp : List Action := [read, read, .cancel 0]

theorem cancelled_request_over : ∃ c₀ c r,
    connect inTurn {} oneSlot [] (.ok onePeer) = .ok c₀ ∧ c₀.run? givenUp = some c ∧
      c.request? 0 = some r ∧ r.isLive = false ∧ Over c 0 r ∧
      (c.asking (c₀.past givenUp) ⟨.v4 0x0a000001, 9042⟩).map (·.phase.ticket) = [1] ∧
      HeldByLive (c₀.past givenUp) c ⟨.v4 0x0a000001, 9042⟩ := by
  obtain ⟨silent, held⟩ := @ended_request_over inTurn {} oneSlot [] (.ok onePeer) _ _ givenUp rfl rfl
  exact ⟨_, _, _, rfl, rfl, rfl, rfl, silent 0 _ rfl rfl, rfl, held _⟩

/-- The first of two hosts is removed and registered again while an attempt to it is under way, and the request at
the other host is given up. -/
def givenUpElsewhere : List Action :=
  [read, read, .report (.hostRemoved ⟨.v4 0x0a000001, 9042⟩), .addHost ⟨.v4 0x0a000001, 9042⟩, .cancel 1]

/-- **A live request can hold a slot that nobody counts**: where every ticket of its address counts, with no past to
look at, the slots that are taken are not those that live requests hold. -/
theorem live_request_slot_uncounted :
    ¬ ∀ {policies : Policies} {defaults : QueryDefaults} {limits : Limits} {contacts : List Address}
      {report : Except Failure (List Translated)} {c₀ c : Client} {actions : List Action} {n : Nat} {r : Request},
      connect policies defaults limits contacts report = .ok c₀ → c₀.run? actions = some c →
      c.request? n = some r → r.isLive = false → ∀ a, HeldByLive [] c a := by
  intro always
  have held := @always inTurn {} oneSlot [] (.ok twoPeers) _ _ givenUpElsewhere 1 _ rfl rfl rfl rfl
    ⟨.v4 0x0a000001, 9042⟩
  exact absurd held.inFlight (by decide +kernel)

end Client

end CqlDispatch
