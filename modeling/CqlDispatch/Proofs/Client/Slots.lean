import Mathlib.Data.List.Perm.Basic
import CqlDispatch.Proofs.Client.Sending
import CqlDispatch.Proofs.Request.Slots
/-!
# Slots of a client

The executions of all requests are the users of the admission, step after step (`Accounted`).  A host that is
removed takes its slots along; attempts to its address that are under way then count no more when the address
is registered again.
-/
namespace CqlDispatch
namespace Client

open Admission (Ledger)
open Request (Booked)

def executions (c : Client) : List Execution := c.requests.flatMap (·.executions)

def phases (c : Client) : List Phase := c.requests.flatMap (·.phases)

theorem phases_eq (c : Client) : c.phases = c.executions.map (·.phase) := List.map_flatMap.symm

/-- The attempts to an address that were sent and not answered yet. -/
def underWay (c : Client) (a : Address) : List Execution :=
  c.executions.filter (·.phase.SentTo a)

/-- The addresses that lose their slots and their queues in a step. -/
def struck (c : Client) : Action → List Address
  | .report (.hostRemoved a) => [a]
  | .refresh report => (c.refresh report).1.removed
  | _ => []

/-- A ticket was drawn since its address last lost its slots. -/
def DrawnSince (past : List (Client × Action)) (a : Address) (t : Ticket) : Prop :=
  ∀ x ∈ past, a ∈ x.1.struck x.2 → x.1.shared.admission.nextTicket ≤ t

instance (past : List (Client × Action)) (a : Address) (t : Ticket) : Decidable (DrawnSince past a t) :=
  inferInstanceAs (Decidable (∀ x ∈ past, a ∈ x.1.struck x.2 → x.1.shared.admission.nextTicket ≤ t))

/-- An attempt with this ticket was under way when the address lost its slots. -/
def StruckUnderWay (past : List (Client × Action)) (a : Address) (t : Ticket) : Prop :=
  ∃ x ∈ past, a ∈ x.1.struck x.2 ∧ ∃ e ∈ x.1.underWay a, e.phase.ticket = t

theorem drawnSince_cons_of_unstruck {past : List (Client × Action)} {c : Client} {act : Action} {a : Address}
    {t : Ticket} (unstruck : c.struck act = []) : DrawnSince ((c, act) :: past) a t ↔ DrawnSince past a t := by
  unfold DrawnSince
  rw [List.forall_mem_cons, unstruck]
  exact and_iff_right fun hm => absurd hm List.not_mem_nil

theorem StruckUnderWay.later {past : List (Client × Action)} {x : Client × Action} {a : Address} {t : Ticket}
    (struck : StruckUnderWay past a t) : StruckUnderWay (x :: past) a t := by
  obtain ⟨y, hy, h⟩ := struck
  exact ⟨y, List.mem_cons_of_mem _ hy, h⟩

theorem mem_underWay_of_phase {c : Client} {b : HostId} {a : Address} {t : Ticket} (hm : .inFlight b a t ∈ c.phases) :
    ∃ e ∈ c.underWay a, e.phase.ticket = t := by
  rw [phases_eq] at hm
  obtain ⟨e, he, hp⟩ := List.mem_map.1 hm
  refine ⟨e, List.mem_filter.2 ⟨he, decide_eq_true ?_⟩, ?_⟩
  · rw [hp]
    exact ⟨rfl, rfl⟩
  · rw [hp]
    rfl

/-- The users of the admission are the executions of the requests. -/
structure Accounted (limits : Limits) (past : List (Client × Action)) (c : Client) : Prop where
  wellFormed : c.registry.WellFormed
  ledger : Ledger limits (DrawnSince past) (StruckUnderWay past) c.shared.admission c.phases
  sound : ∀ r ∈ c.requests, r.Sound c.registry

theorem accounted_connect {policies : Policies} {defaults : QueryDefaults} {limits : Limits}
    {contacts : List Address} {report : Except Failure (List Translated)} {c : Client}
    (h : connect policies defaults limits contacts report = .ok c) : Accounted limits [] c := by
  have wf := (connect_changes h).1.wellFormed (Registry.wellFormed_empty 0)
  refine ⟨wf, ?_, ?_⟩
  · rw [connect_eq h]
    refine (Ledger.start limits _).congr (fun a t => iff_of_true ?_ trivial) fun _ _ => id
    exact fun x hx => absurd hx List.not_mem_nil
  · rw [connect_eq h]
    exact fun r hr => absurd hr List.not_mem_nil

section Step

variable {limits : Limits} {past : List (Client × Action)} {c c' : Client} {act : Action}

/-- Where no request takes a step, addresses lose their slots and queues, and else the admission stays as it is. -/
theorem step?_admission (apart : act.isOfRequest = false) (old : ∀ statement options, act ≠ .submit statement options)
    (h : c.step? act = some c') :
    c'.shared.admission = (c.struck act).foldl Admission.remove c.shared.admission := by
  cases act with
  | submit statement options => exact absurd rfl (old statement options)
  | answer | resume | speculate | expire | cancel => cases apart
  | report e =>
    cases h
    cases e <;> rfl
  | refresh | addHost | setReplicationFactor | elapse =>
    cases h
    rfl
  | wakeSeries n =>
    obtain ⟨s, wake, -, -, -, ⟨-, rfl⟩ | ⟨-, rfl⟩⟩ := step?_wakeSeries h
    · rfl
    · rfl
  | hear | beginSeries | probed | quitSeries | shutdown =>
    rw [step?_ofReconnector rfl (fun _ => Action.noConfusion) h]
    rfl

/-- Where no request takes a step, slots go only with hosts that are removed. -/
theorem Accounted.kept (i : Accounted limits past c) (requests : c'.requests = c.requests)
    (admission : c'.shared.admission = (c.struck act).foldl Admission.remove c.shared.admission)
    (changes : Cluster.Changes c.shared.cluster c'.shared.cluster) : Accounted limits ((c, act) :: past) c' := by
  refine ⟨changes.wellFormed i.wellFormed, ?_, fun r hr => ?_⟩
  · have hphases : c'.phases = c.phases := by
      unfold phases
      rw [requests]
    rw [hphases, admission]
    refine (i.ledger.removeAll _).congr (fun a t => ?_) fun a t hs => ?_
    · unfold DrawnSince
      rw [List.forall_mem_cons]
      exact and_comm
    · rcases hs with hs | ⟨ha, b, hm⟩
      · exact hs.later
      · obtain ⟨e, he, rfl⟩ := mem_underWay_of_phase hm
        exact ⟨_, List.mem_cons_self, ha, e, he, rfl⟩
  · exact (i.sound r (requests ▸ hr)).extends (changes.extends i.wellFormed)

/-- An action that takes no slots from an address. -/
theorem Accounted.unstruck (i : Accounted limits past c') (unstruck : c.struck act = []) :
    Accounted limits ((c, act) :: past) c' :=
  ⟨i.wellFormed, i.ledger.congr (fun _ _ => drawnSince_cons_of_unstruck unstruck) fun _ _ => .later, i.sound⟩

/-- A request takes a step of its own, and the ledger stays right. -/
theorem Accounted.turn (i : Accounted limits past c) {n old : Nat} {r : Request} {out : Shared × Request}
    (found : c.request? n = some r)
    (booked : ∀ others, Booked limits (DrawnSince past) (StruckUnderWay past) others c.shared r →
      Booked limits (DrawnSince past) (StruckUnderWay past) others out.1 out.2)
    (changes : Cluster.Changes c.shared.cluster out.1.cluster) : Accounted limits past (c.putBack n old out) := by
  obtain ⟨hlt, rfl⟩ := List.getElem?_eq_some_iff.1 found
  have before : c.phases.Perm (c.requests[n].phases ++ (c.requests.eraseIdx n).flatMap (·.phases)) :=
    (List.getElem_cons_eraseIdx_perm hlt).symm.flatMap_right _
  have after : (c.putBack n old out).phases.Perm (out.2.phases ++ (c.requests.eraseIdx n).flatMap (·.phases)) :=
    (List.set_perm_cons_eraseIdx hlt out.2).flatMap_right _
  have out_booked := booked _ ⟨i.ledger.perm before, i.sound _ (List.getElem_mem hlt)⟩
  refine ⟨changes.wellFormed i.wellFormed, ?_, fun q hq => ?_⟩
  · exact out_booked.ledger.perm after.symm
  · rcases List.mem_or_eq_of_mem_set hq with hq | rfl
    · exact (i.sound q hq).extends (changes.extends i.wellFormed)
    · exact out_booked.sound

theorem Accounted.turn_if (i : Accounted limits past c) {n : Nat} {p : Shared → Request → Prop}
    [∀ s r, Decidable (p s r)] {f : Shared → Request → Shared × Request}
    (booked : ∀ others r, r.isLive = true → Booked limits (DrawnSince past) (StruckUnderWay past) others c.shared r →
      Booked limits (DrawnSince past) (StruckUnderWay past) others (f c.shared r).1 (f c.shared r).2)
    (changes : Cluster.Changes c.shared.cluster c'.shared.cluster) (unstruck : c.struck act = [])
    (h : c.onRequest? n (fun s r => if p s r then some (f s r) else none) = some c') :
    Accounted limits ((c, act) :: past) c' := by
  obtain ⟨r, out, hr, live, hout, rfl⟩ := onRequest?_eq_some h
  simp only [Option.ite_none_right_eq_some, Option.some.injEq] at hout
  obtain ⟨-, rfl⟩ := hout
  exact (i.turn hr (fun others => booked others r live) changes).unstruck unstruck

/-- The client with one more request, which was started so. -/
def joined (c : Client) (out : Shared × Request) : Client :=
  { c with requests := c.requests ++ [out.2] }.putBack c.requests.length 0 out

theorem requests_joined (c : Client) (out : Shared × Request) : (c.joined out).requests = c.requests ++ [out.2] := by
  show (c.requests ++ [_]).set c.requests.length _ = _
  rw [List.set_append_right _ _ (Nat.le_refl _), Nat.sub_self]
  rfl

theorem requests_submit (c : Client) (statement : Statement) (options : ExecutionOptions) :
    (c.submit statement options).requests = c.requests ++ [(Request.start c.policies c.shared statement options).2] :=
  requests_joined c _

/-- One more request uses the admission. -/
theorem Accounted.joined (i : Accounted limits past c) {out : Shared × Request}
    (booked : Booked limits (DrawnSince past) (StruckUnderWay past) c.phases out.1 out.2)
    (wellFormed : out.1.cluster.registry.WellFormed) (grown : c.registry.Extends out.1.cluster.registry) :
    Accounted limits past (c.joined out) := by
  have hrequests := requests_joined c out
  refine ⟨wellFormed, ?_, fun q hq => ?_⟩
  · have hphases : (c.joined out).phases = c.phases ++ out.2.phases := by
      unfold phases
      rw [hrequests, List.flatMap_append, List.flatMap_singleton]
    rw [hphases]
    exact booked.ledger.perm List.perm_append_comm
  · rw [hrequests, List.mem_append, List.mem_singleton] at hq
    rcases hq with hq | rfl
    · exact (i.sound q hq).extends grown
    · exact booked.sound

/-- **Every step keeps the ledger.** -/
theorem Accounted.step (i : Accounted limits past c) (h : c.step? act = some c') :
    Accounted limits ((c, act) :: past) c' := by
  have changes := (step?_effect h).changes
  cases act with
  | submit statement options =>
    cases h
    have booked := Request.booked_start i.ledger c.policies statement options
    exact (i.joined booked (changes.wellFormed i.wellFormed) (changes.extends i.wellFormed)).unstruck rfl
  | answer n e a =>
    rw [step?] at h
    exact i.turn_if (fun _ _ live booked => booked.answer live c.policies e a) changes rfl h
  | resume n e =>
    rw [step?] at h
    exact i.turn_if (fun _ _ live booked => booked.resume live e) changes rfl h
  | speculate n =>
    rw [step?] at h
    exact i.turn_if (fun _ _ live booked => booked.speculate live c.policies) changes rfl h
  | expire n =>
    rw [step?] at h
    exact i.turn_if (fun _ _ _ booked => booked.finish) changes rfl h
  | cancel n =>
    rw [step?] at h
    obtain ⟨r, out, hr, -, hout, rfl⟩ := onRequest?_eq_some h
    cases hout
    exact (i.turn hr (fun _ booked => booked.finish) changes).unstruck rfl
  -- The rest is about hosts and time.
  | _ =>
    have requests := (step?_quiet rfl (fun _ _ => Action.noConfusion) h).1
    exact i.kept requests (step?_admission rfl (fun _ _ => Action.noConfusion) h) changes

end Step

/-! ## Runs -/

section Runs

variable {policies : Policies} {defaults : QueryDefaults} {limits : Limits} {contacts : List Address}
  {report : Except Failure (List Translated)} {c₀ c : Client} {actions : List Action}

theorem accounted_run (connected : connect policies defaults limits contacts report = .ok c₀)
    (ran : c₀.run? actions = some c) : Accounted limits (c₀.past actions) c := by
  have i : Accounted limits (c₀.past actions ++ []) c :=
    run?_keeps (I := Accounted limits) (A := fun _ => True) (fun _ i h => i.step h) (fun _ _ => trivial)
      (accounted_connect connected) ran
  rwa [List.append_nil] at i

/-- **No more attempts to an address are under way than it has slots, but for those that were under way when its
host was removed.** -/
theorem under_way_le (connected : connect policies defaults limits contacts report = .ok c₀)
    (ran : c₀.run? actions = some c) (a : Address) :
    ((c.underWay a).filter fun e => DrawnSince (c₀.past actions) a e.phase.ticket).length ≤ limits.maxInFlight ∧
      ∀ e ∈ c.underWay a, DrawnSince (c₀.past actions) a e.phase.ticket ∨
        StruckUnderWay (c₀.past actions) a e.phase.ticket := by
  have ledger := (accounted_run connected ran).ledger
  rw [phases_eq] at ledger
  constructor
  · have hle := ledger.sent_le a
    rwa [List.filter_map, List.filter_map, List.length_map] at hle
  · intro e he
    obtain ⟨he, hsent⟩ := List.mem_filter.1 he
    exact ledger.current_or_stale a (List.mem_map_of_mem he) (of_decide_eq_true hsent)

/-- The only host is removed and registered again while an attempt to it is under way. -/
def registeredAgain : List Action :=
  [read, .report (.hostRemoved ⟨.v4 0x0a000001, 9042⟩), .addHost ⟨.v4 0x0a000001, 9042⟩, read]

theorem stale_attempt_takes_no_slot : ∃ c₀ c,
    connect inTurn {} oneSlot [] (.ok onePeer) = .ok c₀ ∧
      c₀.run? registeredAgain = some c ∧ (c.underWay ⟨.v4 0x0a000001, 9042⟩).length = 2 ∧
      ((c.underWay ⟨.v4 0x0a000001, 9042⟩).filter fun e =>
        DrawnSince (c₀.past registeredAgain) ⟨.v4 0x0a000001, 9042⟩ e.phase.ticket).length ≤ 1 ∧
      ∀ e ∈ c.underWay ⟨.v4 0x0a000001, 9042⟩,
        DrawnSince (c₀.past registeredAgain) ⟨.v4 0x0a000001, 9042⟩ e.phase.ticket ∨
          StruckUnderWay (c₀.past registeredAgain) ⟨.v4 0x0a000001, 9042⟩ e.phase.ticket :=
  ⟨_, _, rfl, rfl, rfl, @under_way_le inTurn {} oneSlot [] (.ok onePeer) _ _ registeredAgain rfl rfl _⟩

/-- **More attempts can be under way to an address than there are slots.** -/
theorem more_under_way_than_slots :
    ¬ ∀ {policies : Policies} {defaults : QueryDefaults} {limits : Limits} {contacts : List Address}
      {report : Except Failure (List Translated)} {c₀ c : Client} {actions : List Action},
      connect policies defaults limits contacts report = .ok c₀ → c₀.run? actions = some c →
      ∀ a, (c.underWay a).length ≤ limits.maxInFlight := by
  intro always
  have hle := @always inTurn {} oneSlot [] (.ok onePeer) _ _ registeredAgain rfl rfl ⟨.v4 0x0a000001, 9042⟩
  exact absurd hle (by decide)

end Runs

end Client

end CqlDispatch
