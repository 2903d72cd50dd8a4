import CqlDispatch.Proofs.Admission.Ledger
import CqlDispatch.Proofs.Client.Step
/-!
# Slots of a request

Each step of a request keeps the ledger (`Booked`): an execution that goes on gives up what it waited with
before it asks for a slot elsewhere, and a request that ends gives up all that its executions had.
-/
namespace CqlDispatch

open Admission (Ledger)

/-- A place at an address is one at the host that has this address. -/
def Phase.Placed (p : Phase) (g : Registry) : Prop :=
  p.host < g.hosts.length ∧ (g.host p.host).address = p.address

theorem Phase.Placed.extends {p : Phase} {g g' : Registry} (placed : p.Placed g) (he : g.Extends g') : p.Placed g' :=
  ⟨Nat.lt_of_lt_of_le placed.1 he.length, (he.address _ placed.1).trans placed.2⟩

theorem Registry.lt_of_isUp {g : Registry} {h : HostId} (up : g.isUp h = true) : h < g.hosts.length := by
  by_contra hge
  unfold Registry.isUp Registry.host at up
  rw [List.getElem?_eq_none (Nat.not_lt.1 hge)] at up
  cases up

namespace Request

def phases (r : Request) : List Phase := r.executions.map (·.phase)

/-- What holds of the executions of a request; one that is not live has none. -/
structure Sound (g : Registry) (r : Request) : Prop where
  indices : (r.executions.map (·.index)).Nodup
  known : ∀ e ∈ r.executions, e.index ≤ r.speculated
  placed : ∀ e ∈ r.executions, e.phase.Placed g
  idle : r.isLive = false → r.executions = []
  /-- The last that it noted is its outcome. -/
  last : ∀ o, r.outcome = some o → ∃ m latency, r.trace.head? = some ⟨m, .ended o latency⟩

theorem Sound.extends {g g' : Registry} {r : Request} (sound : r.Sound g) (he : g.Extends g') : r.Sound g' :=
  ⟨sound.indices, sound.known, fun e hm => (sound.placed e hm).extends he, sound.idle, sound.last⟩

/-- Of a live request only the executions matter, and how many were started. -/
theorem Sound.same {g : Registry} {r r' : Request} (sound : r.Sound g) (live : r'.isLive = true)
    (executions : r'.executions = r.executions) (speculated : r.speculated ≤ r'.speculated) : r'.Sound g := by
  refine ⟨executions ▸ sound.indices, fun e he => ?_, executions ▸ sound.placed, fun ended => ?_, fun o ho => ?_⟩
  · exact Nat.le_trans (sound.known e (executions ▸ he)) speculated
  · exact absurd (live.symm.trans ended) Bool.noConfusion
  · exact absurd (ho.symm.trans (isLive_iff.1 live).1) nofun

/-- An execution of a live request looks for a host; the others wait. -/
structure Detached (g : Registry) (i : Nat) (r : Request) : Prop extends Sound g r where
  live : r.isLive = true
  away : ∀ e ∈ r.executions, e.index ≠ i
  started : i ≤ r.speculated

namespace Detached

variable {g : Registry} {i : Nat} {r r' : Request}

theorem same (d : r.Detached g i) (executions : r'.executions = r.executions) (live : r'.isLive = r.isLive)
    (speculated : r'.speculated = r.speculated) : r'.Detached g i := by
  have live : r'.isLive = true := live.trans d.live
  exact ⟨d.toSound.same live executions (Nat.le_of_eq speculated.symm), live, executions ▸ d.away,
    speculated ▸ d.started⟩

/-- It waits at a host. -/
theorem waits {p : Phase} {c : Consistency} (d : r.Detached g i) (placed : p.Placed g)
    (executions : r'.executions = r.executions ++ [⟨i, c, p⟩]) (live : r'.isLive = r.isLive)
    (speculated : r'.speculated = r.speculated) : r'.Sound g := by
  have live : r'.isLive = true := live.trans d.live
  refine ⟨?_, fun e he => ?_, fun e he => ?_, fun ended => ?_, fun o ho => ?_⟩
  · rw [executions, List.map_append]
    refine List.nodup_append.2 ⟨d.indices, List.nodup_singleton i, fun j hj k hk hjk => ?_⟩
    obtain ⟨e, he, rfl⟩ := List.mem_map.1 hj
    exact d.away e he (hjk.trans (List.mem_singleton.1 hk))
  · rw [executions] at he
    rw [speculated]
    rcases List.mem_append.1 he with he | he
    · exact d.known e he
    · exact List.mem_singleton.1 he ▸ d.started
  · rw [executions] at he
    rcases List.mem_append.1 he with he | he
    · exact d.placed e he
    · exact List.mem_singleton.1 he ▸ placed
  · exact absurd (live.symm.trans ended) Bool.noConfusion
  · exact absurd (ho.symm.trans (isLive_iff.1 live).1) nofun

end Detached

theorem detached_first {g : Registry} {r : Request} (executions : r.executions = []) (live : r.isLive = true) :
    r.Detached g 0 := by
  have none : ∀ e, e ∉ r.executions := fun e he => by
    rw [executions] at he
    cases he
  refine ⟨⟨?_, fun e he => absurd he (none e), fun e he => absurd he (none e), fun _ => executions, fun o ho => ?_⟩,
    live, fun e he => absurd he (none e), Nat.zero_le _⟩
  · rw [executions]
    exact .nil
  · exact absurd (ho.symm.trans (isLive_iff.1 live).1) nofun

/-! ## Giving up -/

theorem perm_filter_index {e : Execution} : ∀ {l : List Execution}, (l.map (·.index)).Nodup → e ∈ l →
    l.Perm (e :: l.filter (·.index != e.index))
  | [], _, he => absurd he List.not_mem_nil
  | x :: l, hnodup, he => by
    obtain ⟨hx, hnodup⟩ := List.nodup_cons.1 hnodup
    rcases List.mem_cons.1 he with rfl | he
    · have hothers : l.filter (·.index != e.index) = l := List.filter_eq_self.2 fun y hy => by
        have hne : y.index ≠ e.index := fun hi => hx (List.mem_map.2 ⟨y, hy, hi⟩)
        simpa using hne
      rw [List.filter_cons_of_neg (by simp), hothers]
    · have hne : x.index ≠ e.index := fun hi => hx (List.mem_map.2 ⟨e, he, hi.symm⟩)
      rw [List.filter_cons_of_pos (by simpa using hne)]
      exact ((perm_filter_index hnodup he).cons x).trans (.swap e x _)

/-- An execution that is taken out leaves the others. -/
theorem Sound.perm_without {g : Registry} {r : Request} (sound : r.Sound g) {i : Nat} {e : Execution}
    (he : r.execution? i = some e) : r.phases.Perm (e.phase :: (r.without i).phases) := by
  obtain ⟨hm, rfl⟩ := mem_of_execution? he
  exact (perm_filter_index sound.indices hm).map _

/-- It can look for a host then. -/
theorem Sound.detached {g : Registry} {r : Request} (sound : r.Sound g) (live : r.isLive = true) {i : Nat}
    {e : Execution} (he : r.execution? i = some e) : (r.without i).Detached g i := by
  obtain ⟨hm, rfl⟩ := mem_of_execution? he
  have hsub : (r.without e.index).executions.Sublist r.executions := List.filter_sublist
  refine ⟨⟨sound.indices.sublist (hsub.map _), fun x hx => sound.known x (hsub.mem hx),
    fun x hx => sound.placed x (hsub.mem hx), fun ended => ?_, sound.last⟩, live, fun x hx => ?_, sound.known e hm⟩
  · exact absurd (live.symm.trans ended) Bool.noConfusion
  · simpa using (List.mem_filter.1 hx).2

variable {limits : Limits} {current stale : Address → Ticket → Prop} {others : List Phase}

theorem ledger_dropPhase {s : Shared} {p : Phase} {rest : List Phase}
    (l : Ledger limits current stale s.admission (p :: rest)) : Ledger limits current stale (s.dropPhase p).admission rest := by
  cases p with
  | queued b a t => exact l.cancel
  | inFlight b a t => exact l.release

theorem ledger_dropAll : ∀ {l : List Execution} {s : Shared},
    Ledger limits current stale s.admission (l.map (·.phase) ++ others) →
      Ledger limits current stale (l.foldl (fun s e => s.dropPhase e.phase) s).admission others
  | [], _, ledger => ledger
  | _ :: l, _, ledger => ledger_dropAll (l := l) (ledger_dropPhase ledger)

/-! ## Steps -/

/-- The executions of a request, and others that it knows nothing of, are the users of the admission. -/
structure Booked (limits : Limits) (current stale : Address → Ticket → Prop) (others : List Phase) (s : Shared)
    (r : Request) : Prop where
  ledger : Ledger limits current stale s.admission (r.phases ++ others)
  sound : r.Sound s.cluster.registry

/-- So they are while an execution looks for a host. -/
structure Seeks (limits : Limits) (current stale : Address → Ticket → Prop) (others : List Phase) (i : Nat) (s : Shared)
    (r : Request) : Prop where
  ledger : Ledger limits current stale s.admission (r.phases ++ others)
  detached : r.Detached s.cluster.registry i

variable {s : Shared} {r r' : Request} {i : Nat}

theorem Seeks.same (seeks : Seeks limits current stale others i s r) (executions : r'.executions = r.executions)
    (live : r'.isLive = r.isLive) (speculated : r'.speculated = r.speculated) :
    Seeks limits current stale others i s r' := by
  refine ⟨?_, seeks.detached.same executions live speculated⟩
  unfold phases
  rw [executions]
  exact seeks.ledger

theorem Seeks.booked (seeks : Seeks limits current stale others i s r) : Booked limits current stale others s r :=
  ⟨seeks.ledger, seeks.detached.toSound⟩

/-- It has found a host where it waits. -/
theorem Detached.booked {p : Phase} {c : Consistency} (d : r.Detached s.cluster.registry i)
    (ledger : Ledger limits current stale s.admission (p :: (r.phases ++ others))) (placed : p.Placed s.cluster.registry)
    (executions : r'.executions = r.executions ++ [⟨i, c, p⟩]) (live : r'.isLive = r.isLive)
    (speculated : r'.speculated = r.speculated) : Booked limits current stale others s r' := by
  have hphases : r'.phases = r.phases ++ [p] := by
    unfold phases
    rw [executions, List.map_append]
    rfl
  refine ⟨?_, d.waits placed executions live speculated⟩
  rw [hphases, List.append_assoc]
  exact ledger.perm List.perm_middle.symm

theorem Booked.ledger_latestFirst (booked : Booked limits current stale others s r) :
    Ledger limits current stale (r.latestFirst.foldl (fun s e => s.dropPhase e.phase) s).admission others :=
  ledger_dropAll (booked.ledger.perm (((List.mergeSort_perm _ _).map _).append_right _).symm)

/-- **A request that ends gives up all that its executions have.** -/
theorem Booked.finish {o : Outcome} (booked : Booked limits current stale others s r) :
    Booked limits current stale others (r.finish s o).1 (r.finish s o).2 := by
  refine ⟨booked.ledger_latestFirst, .nil, nofun, nofun, fun _ => rfl, fun o' ho => ?_⟩
  cases ho
  exact ⟨_, _, rfl⟩

/-- So does one that is lost. -/
theorem Booked.lose {o : Overflow} (booked : Booked limits current stale others s r) (live : r.isLive = true) :
    Booked limits current stale others (r.lose s o).1 (r.lose s o).2 :=
  ⟨booked.ledger_latestFirst, .nil, nofun, nofun, fun _ => rfl, fun _ ho =>
    absurd (ho.symm.trans (isLive_iff.1 live).1) nofun⟩

/-- One more execution begins. -/
theorem Booked.begins (booked : Booked limits current stale others s r) (live : r'.isLive = true)
    (executions : r'.executions = r.executions) (speculated : r'.speculated = r.speculated + 1) :
    Seeks limits current stale others (r.speculated + 1) s r' := by
  have sound := booked.sound.same live executions (speculated ▸ Nat.le_succ _)
  refine ⟨?_, sound, live, fun e he => ?_, Nat.le_of_eq speculated.symm⟩
  · unfold phases
    rw [executions]
    exact booked.ledger
  · exact Nat.ne_of_lt (Nat.lt_succ_of_le (booked.sound.known e (executions ▸ he)))

theorem Booked.exhaust (booked : Booked limits current stale others s r) :
    Booked limits current stale others (r.exhaust s).1 (r.exhaust s).2 := by
  unfold Request.exhaust
  split
  · exact booked.finish
  · exact booked

/-- **A search keeps the ledger**: it asks for one slot after the other, and ends where the execution has one or
waits for one. -/
theorem seeks_search (i : Nat) (c : Consistency) :
    SearchKeeps i c (fun _ s r => Seeks limits current stale others i s r)
      (fun out => Booked limits current stale others out.1 out.2) where
  pulled h _ := h.same rfl rfl rfl
  dry h _ := Booked.exhaust (Seeks.booked (h.same rfl rfl rfl))
  down h _ := h
  refused h _ he := Seeks.same ⟨h.ledger.turnedAway he, h.detached⟩ rfl rfl rfl
  queued {s r b t admission} seeks hup he := by
    have placed : (Phase.queued b (s.host b).address t).Placed s.cluster.registry := ⟨Registry.lt_of_isUp hup, rfl⟩
    exact Detached.booked seeks.detached (seeks.ledger.queued he b) placed rfl rfl rfl
  granted {s r b t admission} seeks hup he := by
    have placed : (Phase.inFlight b (s.host b).address t).Placed s.cluster.registry := ⟨Registry.lt_of_isUp hup, rfl⟩
    exact Detached.booked seeks.detached (seeks.ledger.granted he b) placed rfl rfl rfl
  overflow seeks _ he := Booked.lose ⟨seeks.ledger.overflow he, seeks.detached.toSound⟩ seeks.detached.live

theorem Seeks.proceed {c : Consistency} {h : Option HostId} (seeks : Seeks limits current stale others i s r) :
    Booked limits current stale others (r.proceed s i c h).1 (r.proceed s i c h).2 :=
  (seeks_search i c).proceed (L := fun _ s r => Seeks limits current stale others i s r) seeks

theorem Seeks.afterFailure {p : Policies} {e : Execution} {h : HostId} {a : Address} {f : Failure}
    (seeks : Seeks limits current stale others e.index s r) :
    Booked limits current stale others (r.afterFailure p s e h a f).1 (r.afterFailure p s e h a f).2 := by
  unfold Request.afterFailure
  split
  · dsimp only
    split
    · exact Seeks.proceed (seeks.same rfl rfl rfl)
    · exact Booked.finish (Seeks.booked (seeks.same rfl rfl rfl))
    · exact Booked.finish (Seeks.booked (seeks.same rfl rfl rfl))
  · split
    · exact Seeks.proceed (seeks.same rfl rfl rfl)
    · exact seeks.booked.finish

theorem Booked.answer (booked : Booked limits current stale others s r) (live : r.isLive = true) (p : Policies) (i : Nat)
    (ans : Answer) : Booked limits current stale others (r.answer p s i ans).1 (r.answer p s i ans).2 := by
  unfold Request.answer
  cases he : r.execution? i with
  | none => exact booked
  | some e =>
    dsimp only
    cases hp : e.phase with
    | queued => exact booked
    | inFlight b a t =>
      have detached := booked.sound.detached live he
      have ledger := ledger_dropPhase (booked.ledger.perm ((booked.sound.perm_without he).append_right others))
      obtain ⟨-, rfl⟩ := mem_of_execution? he
      rw [hp] at ledger
      have seeks : Seeks limits current stale others e.index (s.dropPhase (.inFlight b a t)) (r.without e.index) := by
        refine ⟨ledger, ?_⟩
        rw [apart_cluster.dropPhase]
        exact detached
      dsimp only
      split
      · exact Booked.finish (Seeks.booked (seeks.same rfl rfl rfl))
      · exact Seeks.afterFailure (seeks.same rfl rfl rfl)

theorem Booked.resume (booked : Booked limits current stale others s r) (live : r.isLive = true) (i : Nat) :
    Booked limits current stale others (r.resume s i).1 (r.resume s i).2 := by
  unfold Request.resume
  cases he : r.execution? i with
  | none => exact booked
  | some e =>
    dsimp only
    cases hp : e.phase with
    | inFlight => exact booked
    | queued b a t =>
      have detached := booked.sound.detached live he
      have ledger := booked.ledger.perm ((booked.sound.perm_without he).append_right others)
      have placed := booked.sound.placed e (mem_of_execution? he).1
      rw [hp] at ledger placed
      dsimp only
      split
      · rename_i hr
        rw [Admission.resume_of_waiting hr]
        exact booked
      · rename_i hr
        have haddress : (s.host b).address = a := placed.2
        have hsent := send_executions { s with admission := (s.admission.resume a t).2 } (r.without i) i e.consistency b t
        have placed : (Phase.inFlight b a t).Placed s.cluster.registry := placed
        exact Detached.booked detached (ledger.got hr b) placed (haddress ▸ hsent) rfl rfl
      · rename_i f hr
        exact Seeks.proceed (Seeks.same ⟨ledger.closed hr, detached⟩ rfl rfl rfl)

theorem Booked.speculate (booked : Booked limits current stale others s r) (live : r.isLive = true) (p : Policies) :
    Booked limits current stale others (r.speculate p s).1 (r.speculate p s).2 := by
  refine speculate_rule (Q := fun out => Booked limits current stale others out.1 out.2) (fun {plan} _ => ?_)
    (fun {h plan next} _ _ => ?_) fun {h plan o} _ _ => ?_
  · exact ⟨booked.ledger, booked.sound.same live rfl (Nat.le_refl _)⟩
  · exact Seeks.proceed (booked.begins live rfl rfl)
  · have copying : Seeks limits current stale others (r.speculated + 1) s (r.copying s h plan) := booked.begins live rfl rfl
    exact copying.booked.lose live

/-- A request starts with the first host of its plan, or ends where the plan is empty. -/
theorem booked_startOn (ledger : Ledger limits current stale s.admission others) (p : Policies) (statement : Statement)
    (options : ExecutionOptions) (plan : Plan) : Booked limits current stale others
      (startOn p s statement options plan).1 (startOn p s statement options plan).2 := by
  refine start_rule (Q := fun out => Booked limits current stale others out.1 out.2) (fun _ => ?_)
    (fun _ hs _ => ?_) fun _ hs _ => ?_
  · exact Booked.finish (Seeks.booked ⟨ledger, detached_first rfl rfl⟩)
  · exact hs ▸ Seeks.proceed ⟨ledger, detached_first rfl rfl⟩
  · exact hs ▸ Booked.lose (Seeks.booked ⟨ledger, detached_first rfl rfl⟩) rfl

theorem booked_start (ledger : Ledger limits current stale s.admission others) (p : Policies) (statement : Statement)
    (options : ExecutionOptions) : Booked limits current stale others
      (start p s statement options).1 (start p s statement options).2 := by
  rcases start_cases p s statement options with ⟨-, hstart⟩ | ⟨o, -, hstart⟩
  · rw [hstart]
    exact booked_startOn (by exact ledger) p statement options _
  · rw [hstart]
    exact Booked.lose (Seeks.booked ⟨ledger, detached_first rfl rfl⟩) rfl

end Request

end CqlDispatch
