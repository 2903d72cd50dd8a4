import CqlDispatch.Proofs.Request.Sending
/-!
# Sending in a running client

Every attempt that a client sends goes to a host that is up at that moment, except one that waited in the
queue of its host: the host was up when the wait began, and the attempt is sent there when the wait is over,
whatever has become of the host (`sent_up_or_waited`).
-/
namespace CqlDispatch
namespace Client

/-! ## One step -/

/-- What the journal of a later client has that this one's has not. -/
def news (c c' : Client) : List (Moment ClientEvent) := c'.journal.take (c'.journal.length - c.journal.length)

theorem news_eq {c c' : Client} (new : List (Moment ClientEvent)) (hj : c'.journal = new ++ c.journal) :
    c.news c' = new := by
  unfold news
  rw [hj, List.length_append, Nat.add_sub_cancel, List.take_left]

/-- An execution of a request, in the phase it is in. -/
def Runs (c : Client) (n : Nat) (e : Execution) : Prop := ∃ r ∈ c.request? n, e ∈ r.executions

instance (c : Client) (n : Nat) (e : Execution) : Decidable (c.Runs n e) :=
  inferInstanceAs (Decidable (∃ r ∈ c.request? n, e ∈ r.executions))

/-- Which attempts a step sends, and on which hosts executions begin to wait. -/
structure StepChecks (c : Client) (act : Action) (c' : Client) : Prop where
  sends : ∀ m n a, ⟨m, .request n (.sent a)⟩ ∈ c.news c' → c.registry.isUp a.host = true ∨
    act = .resume n a.execution ∧ ∃ e, c.Runs n e ∧ e.index = a.execution ∧ ∃ b t, e.phase = .queued a.host b t
  queued : ∀ n e h a t, c'.Runs n e → e.phase = .queued h a t → c.Runs n e ∨ c.registry.isUp h = true

/-- Why an attempt may be sent when an action is the turn of a request: its host is up, or the action resumes
an execution that waits for that host. -/
abbrev SendsOnTurn (c : Client) (act : Action) (n : Nat) (r : Request) (a : Attempt) : Prop :=
  c.registry.isUp a.host = true ∨
    act = .resume n a.execution ∧ ∃ e ∈ r.executions, e.index = a.execution ∧ ∃ b t, e.phase = .queued a.host b t

namespace StepChecks

variable {c c' : Client} {act : Action}

/-- No request took a step. -/
theorem quiet (new : List (Moment ClientEvent)) (requests : c'.requests = c.requests)
    (journal : c'.journal = new ++ c.journal) (hnew : ∀ x ∈ new, ∀ n e, x.event ≠ .request n e) :
    StepChecks c act c' := by
  refine ⟨fun m n a hm => ?_, fun n e h a t hr _ => .inl ?_⟩
  · rw [news_eq _ journal] at hm
    exact absurd rfl (hnew _ hm n _)
  · unfold Runs request? at hr ⊢
    rwa [requests] at hr

/-- One request took a step, or was submitted. -/
theorem turn {n : Nat} {r : Request} {fresh : List (Moment RequestEvent)} {out : Request}
    (before : ∀ e, e ∈ r.executions → c.Runs n e)
    (requests : ∀ k q, c'.request? k = some q → k = n ∧ q = out ∨ c.request? k = some q)
    (journal : c'.journal = fresh.map (fun m => ⟨m.time, .request n m.event⟩) ++ c.journal)
    (sends : ∀ m ∈ fresh, ∀ a, m.event = .sent a → c.SendsOnTurn act n r a)
    (queued : ∀ e ∈ out.executions, ∀ h a t, e.phase = .queued h a t →
      e ∈ r.executions ∨ c.registry.isUp h = true) : StepChecks c act c' := by
  refine ⟨fun m k a hm => ?_, fun k e h a t hr hp => ?_⟩
  · rw [news_eq _ journal] at hm
    obtain ⟨x, hx, he⟩ := List.mem_map.1 hm
    simp only [Moment.mk.injEq, ClientEvent.request.injEq] at he
    obtain ⟨-, rfl, hsent⟩ := he
    rcases sends x hx a hsent with hup | ⟨hact, e, he, hi, hp⟩
    · exact .inl hup
    · exact .inr ⟨hact, e, before e he, hi, hp⟩
  · obtain ⟨q, hq, he⟩ := hr
    rcases requests k q hq with ⟨rfl, rfl⟩ | hq
    · exact (queued e he h a t hp).imp_left (before e)
    · exact .inl ⟨q, hq, he⟩

end StepChecks

/-- What a step of a request notes is new in the journal. -/
theorem journal_putBack {c : Client} {n : Nat} {r : Request} (fresh : List (Moment RequestEvent))
    {out : Shared × Request} (trace : out.2.trace = fresh ++ r.trace) :
    (c.putBack n r.trace.length out).journal =
      fresh.map (fun m => ⟨m.time, .request n m.event⟩) ++ c.journal := by
  have hfresh : freshTrace r.trace.length out.2 = fresh := by
    unfold freshTrace
    rw [trace, List.length_append, Nat.add_sub_cancel, List.take_left]
  unfold putBack
  rw [hfresh]

theorem request?_putBack {c : Client} {n k old : Nat} {out : Shared × Request} {q : Request}
    (h : (c.putBack n old out).request? k = some q) : k = n ∧ q = out.2 ∨ k ≠ n ∧ c.request? k = some q := by
  have h : (c.requests.set n out.2)[k]? = some q := h
  rw [List.getElem?_set] at h
  split at h
  · rename_i hk
    split at h
    · exact .inl ⟨hk.symm, (Option.some.inj h).symm⟩
    · cases h
  · rename_i hk
    exact .inr ⟨fun he => hk he.symm, h⟩

theorem onRequest?_checks {c c' : Client} {act : Action} {n : Nat}
    {f : Shared → Request → Option (Shared × Request)}
    (hf : ∀ r out, f c.shared r = some out →
      Request.Checks (c.SendsOnTurn act n r) (fun h => c.registry.isUp h = true) r out.2)
    (h : c.onRequest? n f = some c') : StepChecks c act c' := by
  obtain ⟨r, out, hr, -, hout, rfl⟩ := onRequest?_eq_some h
  have checks := hf r out hout
  obtain ⟨fresh, htrace, hsends⟩ := checks.trace
  exact .turn (fun e he => ⟨r, hr, he⟩) (fun k q hq => (request?_putBack hq).imp_right And.right)
    (journal_putBack fresh htrace) hsends checks.queued

theorem onRequest?_checks_if {c c' : Client} {act : Action} {n : Nat} {p : Shared → Request → Prop}
    [∀ s r, Decidable (p s r)] {f : Shared → Request → Shared × Request}
    (hf : ∀ r, Request.Checks (c.SendsOnTurn act n r) (fun h => c.registry.isUp h = true) r (f c.shared r).2)
    (h : c.onRequest? n (fun s r => if p s r then some (f s r) else none) = some c') : StepChecks c act c' := by
  refine onRequest?_checks (fun r out hout => ?_) h
  simp only [Option.ite_none_right_eq_some, Option.some.injEq] at hout
  rw [← hout.2]
  exact hf r

theorem submit_checks (c : Client) (statement : Statement) (options : ExecutionOptions) :
    StepChecks c (.submit statement options) (c.submit statement options) := by
  obtain ⟨r, htrace, hexecutions, checks⟩ := Request.checks_start c.policies c.shared statement options
  obtain ⟨fresh, hfresh, hsends⟩ := checks.trace
  have hjournal := journal_putBack (n := c.requests.length) (c := { c with
    requests := c.requests ++ [(Request.start c.policies c.shared statement options).2] }) fresh hfresh
  rw [htrace] at hjournal
  refine .turn (r := r) (fun e he => absurd he (by simp [hexecutions])) (fun k q hq => ?_) hjournal
    (fun m hm a ha => .inl (hsends m hm a ha)) checks.queued
  rcases request?_putBack hq with hlast | ⟨hk, hq⟩
  · exact .inl hlast
  · have hq : (c.requests ++ [_])[k]? = some q := hq
    have hlt := (List.getElem?_eq_some_iff.1 hq).1
    rw [List.length_append, List.length_singleton] at hlt
    rw [List.getElem?_append_left (by omega)] at hq
    exact .inr hq

/-- **Which attempts a step sends**, and on which hosts executions begin to wait. -/
theorem step?_checks {c c' : Client} {act : Action} (h : c.step? act = some c') : StepChecks c act c' := by
  cases act with
  | submit statement options =>
    cases h
    exact submit_checks c statement options
  | answer n e a =>
    rw [step?] at h
    exact onRequest?_checks_if (fun r => (Request.checks_answer c.policies c.shared r e a).mono fun _ => .inl) h
  | resume n e =>
    rw [step?] at h
    refine onRequest?_checks_if (fun r => (Request.resume_checks c.shared r e).mono fun a ha => ?_) h
    rcases ha with hup | ⟨he, hq⟩
    · exact .inl hup
    · exact .inr ⟨by rw [he], he ▸ hq⟩
  | speculate n =>
    rw [step?] at h
    exact onRequest?_checks_if (fun r => (Request.checks_speculate c.policies c.shared r).mono fun _ => .inl) h
  | expire n =>
    rw [step?] at h
    exact onRequest?_checks_if (fun r => (Request.Checks.refl r).finish) h
  | cancel n =>
    rw [step?] at h
    refine onRequest?_checks (fun r out hout => ?_) h
    cases hout
    exact (Request.Checks.refl r).finish
  -- The rest is about hosts and time, and no request takes a step.
  | _ =>
    obtain ⟨requests, new, journal, hnew⟩ := step?_quiet rfl (fun _ _ => Action.noConfusion) h
    exact .quiet new requests journal hnew

/-! ## Runs -/

/-- An execution has waited since a step in which its host was up. -/
def WaitsSinceUp (n : Nat) (e : Execution) (h : HostId) (past : List (Client × Action)) : Prop :=
  ∃ newer d act older, past = newer ++ (d, act) :: older ∧ d.registry.isUp h = true ∧ ¬ d.Runs n e ∧
    ∀ x ∈ newer, x.1.Runs n e

/-- Every execution that waits has waited since its host was up. -/
def QueuedUp (past : List (Client × Action)) (c : Client) : Prop :=
  ∀ n e h a t, c.Runs n e → e.phase = .queued h a t → WaitsSinceUp n e h past

theorem QueuedUp.step {past : List (Client × Action)} {c c' : Client} {act : Action} (queued : QueuedUp past c)
    (h : c.step? act = some c') : QueuedUp ((c, act) :: past) c' := by
  intro n e host a t hr hp
  by_cases hbefore : c.Runs n e
  · obtain ⟨newer, d, act', older, hpast, hup, hnot, hnewer⟩ := queued n e host a t hbefore hp
    refine ⟨(c, act) :: newer, d, act', older, by rw [hpast, List.cons_append], hup, hnot, ?_⟩
    exact List.forall_mem_cons.2 ⟨hbefore, hnewer⟩
  · have hup := ((step?_checks h).queued n e host a t hr hp).resolve_left hbefore
    exact ⟨[], c, act, past, rfl, hup, hbefore, fun _ hx => absurd hx List.not_mem_nil⟩

theorem queuedUp_connect {policies : Policies} {defaults : QueryDefaults} {limits : Limits}
    {contacts : List Address} {report : Except Failure (List Translated)} {c : Client}
    (h : connect policies defaults limits contacts report = .ok c) : QueuedUp [] c := by
  have hnone : c.requests = [] := by
    unfold connect at h
    dsimp only at h
    split at h
    · cases h
    · cases h
      rfl
  intro n e host a t hr
  obtain ⟨r, hr, -⟩ := hr
  unfold request? at hr
  rw [hnone] at hr
  cases hr

/-- An execution that goes on with the slot it was handed sends, and does nothing else. -/
theorem resume_sends {c c' : Client} {n : Nat} {r : Request} {e : Execution} {h : HostId} {b : Address} {t : Ticket}
    (hr : c.request? n = some r) (he : r.execution? e.index = some e) (hp : e.phase = .queued h b t)
    (granted : (c.shared.admission.resume b t).1 = .granted) (step : c.step? (.resume n e.index) = some c') :
    ∃ a, a.host = h ∧ a.execution = e.index ∧ c.news c' = [⟨c.now, .request n (.sent a)⟩] := by
  rw [step?] at step
  obtain ⟨q, out, hq, -, hout, rfl⟩ := onRequest?_eq_some step
  cases hr.symm.trans hq
  simp only [Option.ite_none_right_eq_some, Option.some.injEq] at hout
  obtain ⟨a, hhost, hindex, htrace⟩ := Request.trace_resume he hp granted
  rw [hout.2] at htrace
  exact ⟨a, hhost, hindex, news_eq _ (journal_putBack [_] htrace)⟩

/-- **Every attempt is sent to a host that is up, or has waited for a slot of it since it was up.**  This
holds of every step of every run of a client.  And of an attempt that was handed a slot while it waited,
nobody asks again: when it goes on, it is sent, whatever has become of the host. -/
theorem sent_up_or_waited {policies : Policies} {defaults : QueryDefaults} {limits : Limits}
    {contacts : List Address} {report : Except Failure (List Translated)} {c₀ c c' : Client} {actions : List Action}
    {act : Action} (connected : connect policies defaults limits contacts report = .ok c₀)
    (ran : c₀.run? actions = some c) (step : c.step? act = some c') :
    (∀ m n a, ⟨m, .request n (.sent a)⟩ ∈ c.news c' → c.registry.isUp a.host = true ∨
      act = .resume n a.execution ∧ ∃ e, c.Runs n e ∧ e.index = a.execution ∧
        (∃ b t, e.phase = .queued a.host b t) ∧ WaitsSinceUp n e a.host (c₀.past actions)) ∧
    (∀ n r e h b t, act = .resume n e.index → c.request? n = some r → r.execution? e.index = some e →
      e.phase = .queued h b t → (c.shared.admission.resume b t).1 = .granted →
      ∃ a, a.host = h ∧ a.execution = e.index ∧ c.news c' = [⟨c.now, .request n (.sent a)⟩]) := by
  constructor
  · intro m n a hm
    refine ((step?_checks step).sends m n a hm).imp_right fun ⟨hact, e, hr, hi, b, t, hp⟩ => ?_
    have hqueued : QueuedUp (c₀.past actions ++ []) c :=
      run?_keeps (I := QueuedUp) (A := fun _ => True) (fun _ queued h => queued.step h) (fun _ _ => trivial)
        (queuedUp_connect connected) ran
    rw [List.append_nil] at hqueued
    exact ⟨hact, e, hr, hi, ⟨b, t, hp⟩, hqueued n e a.host b t hr hp⟩
  · intro n r e h b t hact hr he hp granted
    exact resume_sends hr he hp granted (hact ▸ step)

/-- The hosts take turns, and no attempt carries a timestamp. -/
def inTurn : Policies := { balancer := .roundRobin none 0, timestamps := none }

def oneSlot : Limits := { maxInFlight := 1, maxQueued := 1 }

def onePeer : List Translated := Translator.identity.answers [⟨⟨.v4 0x0a000001, 9042⟩, {}⟩]

def twoPeers : List Translated :=
  Translator.identity.answers [⟨⟨.v4 0x0a000001, 9042⟩, {}⟩, ⟨⟨.v4 0x0a000002, 9042⟩, {}⟩]

def read : Action := .submit { query := "SELECT" } ({} : QueryDefaults).options

/-- The third request waits for the slot that the first one holds; the connection to that host breaks, and
with the attempt that fails the slot is handed on. -/
def brokenWhileQueued : List Action :=
  [read, read, read, .report (.hostDown ⟨.v4 0x0a000001, 9042⟩ "reset"),
    .answer 0 0 (.error (.connection "reset"))]

theorem broken_host_sent_to_after_wait :
    ∃ c₀ c c', connect inTurn {} oneSlot [] (.ok twoPeers) = .ok c₀ ∧ c₀.run? brokenWhileQueued = some c ∧
      c.step? (.resume 2 0) = some c' ∧ (c.registry.host 0).state = .down ∧
      ∃ a, a.host = 0 ∧ c.news c' = [⟨0, .request 2 (.sent a)⟩] ∧ ∃ e, c.Runs 2 e ∧ e.index = a.execution ∧
        (∃ b t, e.phase = .queued a.host b t) ∧ WaitsSinceUp 2 e a.host (c₀.past brokenWhileQueued) := by
  obtain ⟨hup, hsent⟩ := @sent_up_or_waited inTurn {} oneSlot [] (.ok twoPeers) _ _ _ brokenWhileQueued
    (.resume 2 0) rfl rfl rfl
  obtain ⟨a, hhost, -, hnews⟩ := hsent 2 _ ⟨0, .standard, .queued 0 ⟨.v4 0x0a000001, 9042⟩ 2⟩ 0 _ _ rfl rfl rfl
    rfl rfl
  have hmem := hnews ▸ List.mem_singleton_self (⟨0, .request 2 (.sent a)⟩ : Moment ClientEvent)
  refine ⟨_, _, _, rfl, rfl, rfl, rfl, a, hhost, hnews, ((hup 0 2 a hmem).resolve_left ?_).2⟩
  rw [hhost]
  decide

/-- **An attempt that waited is sent to a host that is down.** -/
theorem queued_attempt_sent_to_down_host :
    ¬ ∀ {policies : Policies} {defaults : QueryDefaults} {limits : Limits} {contacts : List Address}
      {report : Except Failure (List Translated)} {c₀ c c' : Client} {actions : List Action} {act : Action},
      connect policies defaults limits contacts report = .ok c₀ → c₀.run? actions = some c →
      c.step? act = some c' →
      ∀ m n a, ⟨m, .request n (.sent a)⟩ ∈ c.news c' → c.registry.isUp a.host = true := by
  intro always
  have hsent := @always inTurn {} oneSlot [] (.ok twoPeers) _ _ _ brokenWhileQueued (.resume 2 0) rfl rfl rfl
  have hup := hsent 0 2 ⟨0, ⟨.v4 0x0a000001, 9042⟩, 0, .standard, none⟩ (by
    rw [news_eq [_] rfl]
    exact List.mem_singleton.2 rfl)
  exact absurd hup (by decide)

end Client

end CqlDispatch
