import CqlDispatch.Proofs.Client.Step
/-!
# Where attempts are sent

A search asks for a slot only on a host that is up, and an attempt that is let in at once is sent to
that host at that moment (`Checks`).  An attempt that has waited in a queue is sent to the host it
waited for, and nobody looks at the state of the host again (`resume_checks`).
-/
namespace CqlDispatch

def RequestEvent.isSend : RequestEvent → Bool
  | sent _ => true
  | _ => false

namespace Request

/-- From one state of a request to a later one: which attempts were sent in between, and on which hosts
those executions wait that did not before. -/
structure Checks (sends : Attempt → Prop) (asks : HostId → Prop) (r r' : Request) : Prop where
  trace : ∃ fresh, r'.trace = fresh ++ r.trace ∧ ∀ m ∈ fresh, ∀ a, m.event = .sent a → sends a
  queued : ∀ e ∈ r'.executions, ∀ h a t, e.phase = .queued h a t → e ∈ r.executions ∨ asks h

namespace Checks

variable {sends : Attempt → Prop} {asks : HostId → Prop} {r r' r'' : Request}

theorem refl (r : Request) : Checks sends asks r r :=
  ⟨⟨[], rfl, fun _ hm => absurd hm List.not_mem_nil⟩, fun _ he _ _ _ _ => .inl he⟩

theorem mono {sends' : Attempt → Prop} (k : Checks sends asks r r') (h : ∀ a, sends a → sends' a) :
    Checks sends' asks r r' := by
  obtain ⟨fresh, hfresh, hsends⟩ := k.trace
  exact ⟨⟨fresh, hfresh, fun m hm a ha => h a (hsends m hm a ha)⟩, k.queued⟩

/-- Nothing was sent, and no execution is new. -/
theorem same (k : Checks sends asks r r') (trace : r''.trace = r'.trace) (executions : r''.executions ⊆ r'.executions) :
    Checks sends asks r r'' := by
  obtain ⟨fresh, hfresh, hsends⟩ := k.trace
  exact ⟨⟨fresh, trace.trans hfresh, hsends⟩, fun e he => k.queued e (executions he)⟩

/-- One more execution was started, and where it waits it asked for a slot. -/
theorem joined {e : Execution} (k : Checks sends asks r r') (trace : r''.trace = r'.trace)
    (executions : r''.executions = r'.executions ++ [e]) (he : ∀ h a t, e.phase = .queued h a t → asks h) :
    Checks sends asks r r'' := by
  obtain ⟨fresh, hfresh, hsends⟩ := k.trace
  refine ⟨⟨fresh, trace.trans hfresh, hsends⟩, fun e' he' h a t hp => ?_⟩
  rcases List.mem_append.1 (executions ▸ he') with he' | he'
  · exact k.queued e' he' h a t hp
  · exact .inr (he h a t (List.mem_singleton.1 he' ▸ hp))

/-- One more event was noted. -/
theorem noted {m : Moment RequestEvent} (k : Checks sends asks r r') (trace : r''.trace = m :: r'.trace)
    (executions : r''.executions = r'.executions) (hm : ∀ a, m.event = .sent a → sends a) :
    Checks sends asks r r'' := by
  obtain ⟨fresh, hfresh, hsends⟩ := k.trace
  refine ⟨⟨m :: fresh, ?_, fun m' hm' => ?_⟩, fun e he => k.queued e (executions ▸ he)⟩
  · rw [trace, hfresh, List.cons_append]
  · exact (List.mem_cons.1 hm').elim (fun he => he ▸ hm) (hsends m')

theorem record {s : Shared} {e : RequestEvent} (k : Checks sends asks r r') (he : e.isSend = false) :
    Checks sends asks r (r'.record s e) :=
  k.noted rfl rfl fun a ha => by
    have ha : e = .sent a := ha
    rw [ha] at he
    cases he

theorem finish {s : Shared} {o : Outcome} (k : Checks sends asks r r') : Checks sends asks r (r'.finish s o).2 := by
  have hnoted : ∀ q latency, Checks sends asks r (r'.record q (.ended o latency)) := fun _ _ => k.record rfl
  exact (hnoted _ _).same rfl (List.nil_subset _)

theorem lose {s : Shared} {o : Overflow} (k : Checks sends asks r r') : Checks sends asks r (r'.lose s o).2 :=
  k.same rfl (List.nil_subset _)

theorem exhaust {s : Shared} (k : Checks sends asks r r') : Checks sends asks r (r'.exhaust s).2 := by
  unfold Request.exhaust
  split
  · exact k.finish
  · exact k

theorem send {s : Shared} {index : Nat} {c : Consistency} {h : HostId} {t : Ticket} (k : Checks sends asks r r')
    (hs : ∀ a : Attempt, a.host = h → a.execution = index → sends a) :
    Checks sends asks r (r'.send s index c h t).2 := by
  have hjoined : Checks sends asks r { r' with
      executions := r'.executions ++ [⟨index, c, .inFlight h (s.host h).address t⟩] } :=
    k.joined rfl rfl fun _ _ _ hp => Phase.noConfusion hp
  exact hjoined.noted rfl rfl fun a ha => by
    cases ha
    exact hs _ rfl rfl

end Checks

/-- What is sent, and what is asked for, with these hosts up. -/
abbrev ChecksUp (s : Shared) : Request → Request → Prop :=
  Checks (fun a => s.isUp a.host = true) (fun h => s.isUp h = true)

/-! ## Steps of a request -/

section Steps

variable {s s' : Shared} {r r' : Request}

theorem checks_proceed {index : Nat} {c : Consistency} {current : Option HostId} (hs : s'.cluster = s.cluster)
    (k : ChecksUp s r r') : ChecksUp s r (r'.proceed s' index c current).2 := by
  have hup : ∀ {q : Shared} {h}, q.cluster = s.cluster → q.isUp h = true → s.isUp h = true := fun {q h} hq => by
    unfold Shared.isUp
    rw [hq]
    exact id
  refine SearchKeeps.proceed (L := fun _ q r' => q.cluster = s.cluster ∧ ChecksUp s r r')
    (Q := fun out => ChecksUp s r out.2) ?_ ⟨hs, k⟩
  exact {
    pulled := fun h _ => ⟨h.1, .record (h.2.same rfl (List.Subset.refl _)) rfl⟩
    dry := fun h _ => .exhaust (.record (h.2.same rfl (List.Subset.refl _)) rfl)
    down := fun h _ => h
    refused := fun h _ _ => ⟨h.1, (h.2.record rfl).same rfl (List.Subset.refl _)⟩
    queued := fun hL hq _ => hL.2.joined rfl rfl fun _ _ _ hp => by
      cases hp
      exact hup hL.1 hq
    granted := fun hL hq _ => hL.2.send fun a ha _ => ha ▸ hup hL.1 hq
    overflow := fun hL _ _ => hL.2.lose }

theorem checks_afterFailure {p : Policies} {e : Execution} {h : HostId} {a : Address} {f : Failure}
    (hs : s'.cluster = s.cluster) (k : ChecksUp s r r') : ChecksUp s r (r'.afterFailure p s' e h a f).2 := by
  unfold afterFailure
  split
  · dsimp only
    split
    · exact checks_proceed hs ((k.record rfl).same rfl (List.Subset.refl _))
    · exact (k.record rfl).finish
    · exact (k.record rfl).finish
  · split
    · exact checks_proceed hs (k.same rfl (List.Subset.refl _))
    · exact k.finish

theorem checks_without (s : Shared) (r : Request) (index : Nat) : ChecksUp s r (r.without index) :=
  (Checks.refl r).same rfl List.filter_sublist.subset

theorem checks_answer (p : Policies) (s : Shared) (r : Request) (index : Nat) (ans : Answer) :
    ChecksUp s r (r.answer p s index ans).2 := by
  have hwithout := checks_without s r index
  unfold answer
  split
  · split
    · dsimp only
      split
      · exact (hwithout.record rfl).finish
      · exact checks_afterFailure (apart_cluster.dropPhase s _) (hwithout.record rfl)
    · exact .refl r
  · exact .refl r

theorem checks_speculate (p : Policies) (s : Shared) (r : Request) : ChecksUp s r (r.speculate p s).2 := by
  have hpulled : ∀ plan, ChecksUp s r { r with plan := plan } := fun _ => (Checks.refl r).same rfl (List.Subset.refl _)
  have hcopying : ∀ h plan, ChecksUp s r (r.copying s h plan) := fun h plan =>
    (((hpulled plan).record rfl).record rfl).same rfl (List.Subset.refl _)
  refine speculate_rule (Q := fun out => ChecksUp s r out.2) (fun {plan} _ => ?_) (fun {h plan next} _ _ => ?_)
    fun _ _ => (hcopying _ _).lose
  · exact ((hpulled plan).record rfl).same rfl (List.Subset.refl _)
  · exact checks_proceed rfl ((hcopying h plan).same rfl (List.Subset.refl _))

/-- An attempt whose wait is over is sent to the host it waited for, up or not. -/
theorem resume_checks (s : Shared) (r : Request) (index : Nat) :
    Checks (fun a => s.isUp a.host = true ∨ a.execution = index ∧
        ∃ e ∈ r.executions, e.index = index ∧ ∃ b t, e.phase = .queued a.host b t)
      (fun h => s.isUp h = true) r (r.resume s index).2 := by
  have hwithout := checks_without s r index
  unfold resume
  cases he : r.execution? index with
  | none => exact .refl r
  | some e =>
    have hmem : e ∈ r.executions := List.mem_of_find?_eq_some he
    have hindex : e.index = index := by simpa using List.find?_some he
    dsimp only
    cases hp : e.phase with
    | inFlight h a t => exact .refl r
    | queued h a t =>
      dsimp only
      split
      · exact .refl r
      · refine (hwithout.mono fun _ => .inl).send fun b hb hi => .inr ⟨hi, e, hmem, hindex, a, t, ?_⟩
        rw [hp, hb]
      · refine Checks.mono ?_ fun _ => .inl
        exact checks_proceed rfl ((hwithout.record rfl).same rfl (List.Subset.refl _))

/-- An attempt that was handed a slot while it waited is sent. -/
theorem trace_resume {s : Shared} {r : Request} {e : Execution} {h : HostId} {b : Address} {t : Ticket}
    (he : r.execution? e.index = some e) (hp : e.phase = .queued h b t)
    (granted : (s.admission.resume b t).1 = .granted) :
    ∃ a, a.host = h ∧ a.execution = e.index ∧ (r.resume s e.index).2.trace = ⟨s.now, .sent a⟩ :: r.trace := by
  refine ⟨⟨h, (s.host h).address, e.index, e.consistency, r.timestamp⟩, rfl, rfl, ?_⟩
  unfold resume
  rw [he]
  dsimp only
  rw [hp]
  dsimp only
  rw [granted]
  rfl

theorem checks_startOn (p : Policies) (s : Shared) (statement : Statement) (options : ExecutionOptions)
    (plan : Plan) : ∃ r : Request, r.trace = [] ∧ r.executions = [] ∧
      ChecksUp s r (startOn p s statement options plan).2 := by
  let blank : Request := { statement, options, started := s.now, deadline := none }
  have hfirst : ∀ {r : Request} {m : Moment RequestEvent}, r.trace = [m] → r.executions = [] →
      m.event.isSend = false → ChecksUp s blank r := fun htrace hexecutions hm => by
    refine (Checks.refl blank).noted htrace hexecutions fun a ha => ?_
    rw [ha] at hm
    cases hm
  refine ⟨blank, rfl, rfl, ?_⟩
  refine start_rule (Q := fun out => ChecksUp s blank out.2) (fun _ => (hfirst rfl rfl rfl).finish) ?begun
    fun _ _ _ => (hfirst rfl rfl rfl).lose
  case begun =>
    rintro _ h rest next - rfl -
    exact checks_proceed rfl (hfirst rfl rfl rfl)

/-- The first attempts of a request, whose trace begins with it. -/
theorem checks_start (p : Policies) (s : Shared) (statement : Statement) (options : ExecutionOptions) :
    ∃ r : Request, r.trace = [] ∧ r.executions = [] ∧ ChecksUp s r (start p s statement options).2 := by
  rcases start_cases p s statement options with ⟨-, he⟩ | ⟨o, -, he⟩ <;> rw [he]
  · exact checks_startOn p { s with cluster := (s.cluster.plan options.keyspace options).2 } statement options _
  · exact ⟨submitted s statement options, rfl, rfl, (Checks.refl _).lose⟩

end Steps

end Request

end CqlDispatch
