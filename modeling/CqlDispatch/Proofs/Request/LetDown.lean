import CqlDispatch.Proofs.Request.Slots
/-!
# Executions that are let down

An execution that waits stays as it is through all moves of its request but its own (`move_queued`).  Where its
queue is gone it is refused as it looks again, and what comes next is the next host of the plan, or the end of the
plan (`resume_goesOn`): the error is noted, no retry is counted, and no decision is asked for in the whole move.
-/
namespace CqlDispatch

def RequestEvent.isDecision : RequestEvent → Bool
  | decided _ _ _ => true
  | _ => false

namespace Request

variable {s : Shared} {r : Request} {i : Nat}

/-! ## Executions that wait -/

/-- No two executions of a request have the same number. -/
theorem Sound.execution?_of_mem {g : Registry} (sound : r.Sound g) {e : Execution} (he : e ∈ r.executions) :
    r.execution? e.index = some e := by
  cases hf : r.execution? e.index with
  | none => exact absurd BEq.rfl (List.find?_eq_none.1 hf e he)
  | some e' =>
    obtain ⟨he', hi⟩ := mem_of_execution? hf
    rw [List.inj_on_of_nodup_map sound.indices he' he hi]

theorem Sound.live_of_mem {g : Registry} (sound : r.Sound g) {e : Execution} (he : e ∈ r.executions) :
    r.isLive = true := by
  by_contra ended
  have none := sound.idle (Bool.eq_false_iff.2 ended)
  rw [none] at he
  cases he

/-- The execution is as it was, or the request is not live any more. -/
def Stays (e : Execution) (r : Request) : Prop := e ∈ r.executions ∨ r.isLive = false

namespace Stays

variable {e : Execution}

theorem finish (o : Outcome) : Stays e (r.finish s o).2 := .inr rfl

theorem lose (o : Overflow) : Stays e (r.lose s o).2 := .inr (isLive_lose s r o)

theorem proceed {c : Consistency} {current : Option HostId} (here : e ∈ r.executions) :
    Stays e (r.proceed s i c current).2 := by
  refine SearchKeeps.proceed (L := fun _ _ r => e ∈ r.executions) (Q := fun out => Stays e out.2) ?_ here
  exact {
    pulled := fun here _ => here
    dry := fun {s r plan} here _ => by
      unfold Request.exhaust
      split
      · exact .finish _
      · exact .inl here
    down := fun here _ => here
    refused := fun here _ _ => here
    queued := fun here _ _ => .inl (List.mem_append_left _ here)
    granted := fun here _ _ => .inl (List.mem_append_left _ here)
    overflow := fun _ _ _ => .lose _ }

theorem afterFailure {p : Policies} {e' : Execution} {h : HostId} {a : Address} {f : Failure}
    (here : e ∈ r.executions) : Stays e (r.afterFailure p s e' h a f).2 := by
  unfold Request.afterFailure
  split
  · dsimp only
    split
    · exact .proceed here
    · exact .finish _
    · exact .finish _
  · split
    · exact .proceed here
    · exact .finish _

end Stays

theorem mem_without {e : Execution} (here : e ∈ r.executions) (other : e.index ≠ i) :
    e ∈ (r.without i).executions :=
  List.mem_filter.2 ⟨here, bne_iff_ne.2 other⟩

/-- **Nothing but its own move, and the end of its request, touches an execution that waits.** -/
theorem move_queued {p : Policies} {m : Move} {out : Shared × Request} {g : Registry} (sound : r.Sound g)
    {e : Execution} {h : HostId} {a : Address} {t : Ticket} (here : e ∈ r.executions) (waits : e.phase = .queued h a t)
    (other : m ≠ .resume e.index) (hm : r.move? p s m = some out) : Stays e out.2 := by
  have found := sound.execution?_of_mem here
  refine (move_rule (Q := fun out => Stays e out.2) hm ?_ ?_ ?_ ?_ ?_).2
  · intro j ans e' h' a' t' _ he' flies
    have hj : e.index ≠ j := by
      rintro rfl
      rw [Option.some.inj (he'.symm.trans found), waits] at flies
      cases flies
    unfold Request.answer
    rw [he']
    dsimp only
    rw [flies]
    dsimp only
    split
    · exact .finish _
    · exact .afterFailure (mem_without here hj)
  · intro j e' h' a' t' hm' he' _
    have hj : e.index ≠ j := by
      rintro rfl
      exact other hm'
    unfold Request.resume
    rw [he']
    dsimp only
    split
    · split
      · exact .inl here
      · exact .inl (List.mem_append_left _ (mem_without here hj))
      · exact .proceed (mem_without here hj)
    · exact .inl here
  · exact fun _ _ => speculate_rule (Q := fun out => Stays e out.2) (fun _ => .inl here)
      (fun _ _ => .proceed here) fun _ _ => .lose _
  · exact fun _ => .finish _
  · exact fun _ => .finish _

/-! ## Going on with the plan -/

/-- What an execution notes as it turns to the plan: the next host, or that there is none. -/
def turnsTo (g : Registry) (i : Nat) (p : Plan) : RequestEvent :=
  match (p.pull g).1 with
  | some h => .pulled i h
  | none => .ranDry

/-- From one state of a request to a later one this was noted first, and then no decision; no retry was counted, and
no error forgotten. -/
structure Passes (first : List (Moment RequestEvent)) (r q : Request) : Prop where
  trace : ∃ later, q.trace = later ++ first ++ r.trace ∧ ∀ m ∈ later, m.event.isDecision = false
  errors : r.errors <+: q.errors
  retries : q.retries = r.retries

namespace Passes

variable {first : List (Moment RequestEvent)} {q q' : Request}

theorem same (k : Passes first r q) (trace : q'.trace = q.trace) (errors : q'.errors = q.errors)
    (retries : q'.retries = q.retries) : Passes first r q' :=
  ⟨trace ▸ k.trace, errors ▸ k.errors, retries.trans k.retries⟩

theorem record {e : RequestEvent} (k : Passes first r q) (he : e.isDecision = false) : Passes first r (q.record s e) := by
  obtain ⟨later, htrace, hlater⟩ := k.trace
  refine ⟨⟨⟨s.now, e⟩ :: later, ?_, List.forall_mem_cons.2 ⟨he, hlater⟩⟩, k.errors, k.retries⟩
  show _ :: q.trace = _
  rw [htrace]
  rfl

/-- One more is noted first. -/
theorem next {e : RequestEvent} (trace : q.trace = first ++ r.trace) (errors : r.errors <+: q.errors)
    (retries : q.retries = r.retries) : Passes (⟨s.now, e⟩ :: first) r (q.record s e) := by
  refine ⟨⟨[], ?_, fun _ hm => absurd hm List.not_mem_nil⟩, errors, retries⟩
  show _ :: q.trace = _
  rw [trace]
  rfl

theorem recordError {a : Address} {f : Failure} (k : Passes first r q) : Passes first r (q.recordError a f) :=
  ⟨k.trace, k.errors.trans (List.prefix_append _ _), k.retries⟩

theorem finish {o : Outcome} (k : Passes first r q) : Passes first r (q.finish s o).2 := by
  have hnoted : ∀ s' latency, Passes first r (q.record s' (.ended o latency)) := fun _ _ => k.record rfl
  exact (hnoted _ _).same rfl rfl rfl

theorem exhaust (k : Passes first r q) : Passes first r (q.exhaust s).2 := by
  unfold Request.exhaust
  split
  · exact k.finish
  · exact k

theorem send {c : Consistency} {h : HostId} {t : Ticket} (k : Passes first r q) : Passes first r (q.send s i c h t).2 := by
  have hnoted : ∀ a, Passes first r (q.record s (.sent a)) := fun _ => k.record rfl
  exact (hnoted _).same rfl rfl rfl

/-- **A search begins with the next host of the plan.** -/
theorem proceed {c : Consistency} (trace : q.trace = first ++ r.trace) (errors : r.errors <+: q.errors)
    (retries : q.retries = r.retries) :
    Passes (⟨s.now, turnsTo s.cluster.registry i q.plan⟩ :: first) r (q.proceed s i c none).2 := by
  generalize hnext : turnsTo s.cluster.registry i q.plan = next
  have next_eq : ∀ {found plan}, q.plan.pull s.cluster.registry = (found, plan) →
      next = match found with | some h => .pulled i h | none => .ranDry := fun hp => by
    rw [← hnext, turnsTo, hp]
  -- Until the first pull all is as it was, and from then on the pull is noted.
  let Began : Request → Prop := Passes (⟨s.now, next⟩ :: first) r
  refine SearchKeeps.proceed (Q := fun out => Began out.2)
    (L := fun current s' q' => s'.cluster = s.cluster ∧ s'.now = s.now ∧ (current = none ∧ q' = q ∨ Began q'))
    ?_ ⟨rfl, rfl, .inl ⟨rfl, rfl⟩⟩
  have pulls : ∀ (found : Option HostId) {s' : Shared} {q' : Request} {plan}, s'.cluster = s.cluster → s'.now = s.now →
      (q' = q ∨ Began q') → q'.plan.pull s'.cluster.registry = (found, plan) →
      Began ({ q' with plan := plan }.record s' (match found with | some h => .pulled i h | none => .ranDry)) := by
    intro found s' q' plan hcluster hnow hq' hp
    rcases hq' with rfl | began
    · rw [hcluster] at hp
      show Passes (⟨s.now, next⟩ :: first) r _
      rw [next_eq hp, ← hnow]
      exact Passes.next trace errors retries
    · have began : Began { q' with plan := plan } := Passes.same began rfl rfl rfl
      refine Passes.record began ?_
      cases found <;> rfl
  exact {
    pulled := fun ⟨hcluster, hnow, hq'⟩ hp =>
      ⟨hcluster, hnow, .inr (pulls (some _) hcluster hnow (hq'.imp_left And.right) hp)⟩
    dry := fun ⟨hcluster, hnow, hq'⟩ hp =>
      Passes.exhaust (pulls none hcluster hnow (hq'.imp_left And.right) hp)
    down := fun ⟨hcluster, hnow, hq'⟩ _ => ⟨hcluster, hnow, .inr (hq'.resolve_left (nofun ∘ And.left))⟩
    refused := fun ⟨hcluster, hnow, hq'⟩ _ _ =>
      ⟨hcluster, hnow, .inr (Passes.recordError (Passes.record (hq'.resolve_left (nofun ∘ And.left)) rfl))⟩
    queued := fun ⟨_, _, hq'⟩ _ _ => Passes.same (hq'.resolve_left (nofun ∘ And.left)) rfl rfl rfl
    granted := fun ⟨_, _, hq'⟩ _ _ => Passes.send (hq'.resolve_left (nofun ∘ And.left))
    overflow := fun ⟨_, _, hq'⟩ _ _ => Passes.same (hq'.resolve_left (nofun ∘ And.left)) rfl rfl rfl }

end Passes

/-- A search begins no wait with a ticket that was drawn before. -/
theorem not_mem_proceed {e : Execution} {c : Consistency} {current : Option HostId} (gone : e ∉ r.executions)
    (old : e.phase.ticket < s.admission.nextTicket) : e ∉ (r.proceed s i c current).2.executions := by
  have drawn : ∀ {s : Shared} {b t answer admission}, s.admission.acquire b = (t, answer, admission) →
      e.phase.ticket < s.admission.nextTicket → t ≠ e.phase.ticket ∧ e.phase.ticket < admission.nextTicket := by
    intro s b t answer admission he old
    obtain ⟨_, _, he', hnext, -⟩ := Admission.acquire_cases s.admission b
    cases he.symm.trans he'
    exact ⟨Nat.ne_of_gt old, hnext ▸ Nat.lt_succ_of_lt old⟩
  have joined : ∀ {q : Request} {c : Consistency} {p : Phase}, e ∉ q.executions → p.ticket ≠ e.phase.ticket →
      e ∉ q.executions ++ [⟨i, c, p⟩] := fun gone hne hm => by
    rcases List.mem_append.1 hm with hm | hm
    · exact gone hm
    · cases List.mem_singleton.1 hm
      exact hne rfl
  refine SearchKeeps.proceed (L := fun _ s r => e ∉ r.executions ∧ e.phase.ticket < s.admission.nextTicket)
    (Q := fun out => e ∉ out.2.executions) ?_ ⟨gone, old⟩
  exact {
    pulled := fun h _ => h
    dry := fun {s r plan} h _ => by
      unfold Request.exhaust
      split
      · exact List.not_mem_nil
      · exact h.1
    down := fun h _ => h
    refused := fun h _ he => ⟨h.1, (drawn he h.2).2⟩
    queued := fun h _ he => joined h.1 (drawn he h.2).1
    granted := fun h _ he => joined h.1 (drawn he h.2).1
    overflow := fun _ _ _ => List.not_mem_nil }

/-- An execution that waited at an address has gone on: it waits there no more, was refused with this failure, which
is noted as the error of the address, and turned to its plan. -/
structure GoesOn (s : Shared) (e : Execution) (a : Address) (f : Failure) (r q : Request) : Prop
    extends Passes [⟨s.now, turnsTo s.cluster.registry e.index r.plan⟩, ⟨s.now, .refused e.index a f⟩] r q where
  left : e ∉ q.executions
  noted : r.errors ++ [(a, f.message)] <+: q.errors

/-- **An execution whose queue is gone goes on to the next host of its plan.** -/
theorem resume_goesOn {e : Execution} {h : HostId} {a : Address} {t : Ticket} {f : Failure}
    (found : r.execution? e.index = some e) (waits : e.phase = .queued h a t) (old : t < s.admission.nextTicket)
    (closed : (s.admission.resume a t).1 = .closed f) : GoesOn s e a f r (r.resume s e.index).2 := by
  let looked : Shared := { s with admission := (s.admission.resume a t).2 }
  let refused : Request := ((r.without e.index).record looked (.refused e.index a f)).recordError a f
  have goesOn : r.resume s e.index = refused.proceed looked e.index e.consistency none := by
    unfold Request.resume
    rw [found]
    dsimp only
    rw [waits]
    dsimp only
    rw [closed]
  have noted : refused.trace = [⟨s.now, .refused e.index a f⟩] ++ r.trace := rfl
  have passes := Passes.proceed (s := looked) (i := e.index) (c := e.consistency) noted
    (List.prefix_append r.errors [(a, f.message)]) (rfl : refused.retries = r.retries)
  have kept := Passes.proceed (s := looked) (i := e.index) (c := e.consistency) (List.nil_append refused.trace).symm
    List.prefix_rfl rfl
  have gone : e ∉ refused.executions := fun hm => bne_iff_ne.1 (List.mem_filter.1 hm).2 rfl
  have old : e.phase.ticket < looked.admission.nextTicket := by
    rw [waits]
    exact Nat.lt_of_lt_of_eq old (Admission.nextTicket_resume s.admission a t).symm
  rw [goesOn]
  exact ⟨passes, not_mem_proceed gone old, kept.errors⟩

end Request

end CqlDispatch
