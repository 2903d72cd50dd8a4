import Mathlib.Data.List.Perm.Basic
import CqlDispatch.Proofs.Request.Turns
/-!
# Attempts

A request sends one attempt for each host that its plan yields, and one more: under the built-in retry policies
no more than one attempt is a second one to the same host.  These policies ask for it only as long as nothing was
retried, and the count of retries is one for all executions of a request.  The counter wraps, but every retry comes
after an attempt (`Frugal.backed`), so it does not do so where the plan has few hosts (`Frugal.retries_eq_zero`).

The events tell which hosts were taken from the plan and not used yet (`unused`), and so which attempts went to
no such host (`again`).  Between the decision to send again and the attempt an execution may wait in a queue
while others go on; the invariant (`Frugal`) therefore counts the attempts that are still to be sent again.
-/
namespace CqlDispatch

namespace RetryPolicy

/-- The standard policy, the one that never retries, and idempotence-aware ones around these. -/
inductive BuiltIn : RetryPolicy → Prop
  | standard : BuiltIn .standard
  | fallthrough : BuiltIn .fallthrough
  | idempotenceAware {child} (h : BuiltIn child) : BuiltIn (.idempotenceAware child)

/-- **A built-in policy asks for the same host only where nothing was retried.** -/
theorem BuiltIn.unretried {p : RetryPolicy} (builtIn : p.BuiltIn) {o : Operation} {c : Consistency} {s : Setback}
    {level : Option Consistency} (hd : p.decide o c s = .retry level true) : o.retryCount = 0 := by
  induction builtIn with
  | standard =>
    unfold decide standardRule at hd
    cases s with
    | readTimeout | writeTimeout =>
      simp only at hd
      split at hd
      · rename_i hif
        exact hif.1
      · cases hd
    | unavailable =>
      simp only at hd
      split at hd <;> cases hd
    | requestError => cases hd
  | fallthrough => cases hd
  | idempotenceAware _ ih =>
    unfold decide at hd
    split at hd
    · exact ih hd
    · cases hd

end RetryPolicy

def RequestEvent.isRetry : RequestEvent → Bool
  | decided _ _ d => d.isRetry
  | _ => false

/-- Where an execution in a queue is to send its attempt. -/
def Execution.place? (e : Execution) : Option (Nat × HostId) :=
  match e.phase with
  | .queued h _ _ => some (e.index, h)
  | .inFlight .. => none

namespace Request

/-! ## Hosts and attempts -/

/-- The hosts taken from the plan, the newest first. -/
def taken : List RequestEvent → List HostId
  | [] => []
  | .pulled _ h :: earlier => h :: taken earlier
  | _ :: earlier => taken earlier

/-- The attempts, the newest first. -/
def attempts : List RequestEvent → List Attempt
  | [] => []
  | .sent a :: earlier => a :: attempts earlier
  | _ :: earlier => attempts earlier

/-- The hosts that executions took and have sent nothing to yet. -/
def unused : List RequestEvent → List (Nat × HostId)
  | [] => []
  | .pulled i h :: earlier => (i, h) :: (unused earlier).filter (·.1 != i)
  | .sent a :: earlier => (unused earlier).filter (·.1 != a.execution)
  | _ :: earlier => unused earlier

/-- The attempts that went to the same host again: their executions had taken no other since the attempt before. -/
def again : List RequestEvent → List Attempt
  | [] => []
  | .sent a :: earlier => if (a.execution, a.host) ∈ unused earlier then again earlier else a :: again earlier
  | _ :: earlier => again earlier

theorem mem_unused_pulled {earlier : List RequestEvent} {i : Nat} {h : HostId} {x : Nat × HostId} (other : x.1 ≠ i) :
    x ∈ unused (.pulled i h :: earlier) ↔ x ∈ unused earlier := by
  have hne : x ≠ (i, h) := fun hx => other (congrArg Prod.fst hx)
  rw [unused, List.mem_cons, or_iff_right hne, List.mem_filter]
  exact and_iff_left (by simpa using other)

theorem mem_unused_sent {earlier : List RequestEvent} {a : Attempt} {x : Nat × HostId} (other : x.1 ≠ a.execution) :
    x ∈ unused (.sent a :: earlier) ↔ x ∈ unused earlier := by
  rw [unused, List.mem_filter]
  exact and_iff_left (by simpa using other)

/-- **Every attempt uses up a host or is one sent again.** -/
theorem attempts_le : ∀ events : List RequestEvent,
    (attempts events).length + (unused events).length ≤ (taken events).length + (again events).length
  | [] => Nat.le_refl _
  | .pulled i h :: earlier => by
    have ih := attempts_le earlier
    have hle := List.length_filter_le (·.1 != i) (unused earlier)
    simp only [attempts, unused, taken, again, List.length_cons]
    omega
  | .sent a :: earlier => by
    have ih := attempts_le earlier
    by_cases hm : (a.execution, a.host) ∈ unused earlier
    · have hlt : ((unused earlier).filter (·.1 != a.execution)).length < (unused earlier).length :=
        List.length_filter_lt_length_iff_exists.2 ⟨_, hm, by simp⟩
      simp only [attempts, unused, taken, again, if_pos hm, List.length_cons]
      omega
    · have hle := List.length_filter_le (·.1 != a.execution) (unused earlier)
      simp only [attempts, unused, taken, again, if_neg hm, List.length_cons]
      omega
  | .ranDry :: earlier | .refused _ _ _ :: earlier | .answered _ _ _ :: earlier | .decided _ _ _ :: earlier
  | .speculated _ :: earlier | .ended _ _ :: earlier => attempts_le earlier

/-! ## The invariant -/

def places (r : Request) : List (Nat × HostId) := r.executions.filterMap (·.place?)

/-- How many attempts have no answer yet. -/
def flying (r : Request) : Nat := r.executions.countP (·.place?.isNone)

/-- How often the retry policy had a request try again. -/
def retried (events : List RequestEvent) : Nat := events.countP (·.isRetry)

/-- Neither a host was taken nor an attempt sent, nor another one decided on. -/
structure Quiet (events events' : List RequestEvent) : Prop where
  taken : taken events' = taken events
  unused : unused events' = unused events
  again : again events' = again events
  attempts : attempts events' = attempts events
  retried : retried events' = retried events

theorem Quiet.rfl {events : List RequestEvent} : Quiet events events := ⟨.refl _, .refl _, .refl _, .refl _, .refl _⟩

theorem quiet_cons {e : RequestEvent} (events : List RequestEvent) (noPull : ∀ i h, e ≠ .pulled i h)
    (noSend : ∀ a, e ≠ .sent a) (noRetry : e.isRetry = false) : Quiet events (e :: events) := by
  have hretried : retried (e :: events) = retried events := List.countP_cons_of_neg (by simp [noRetry])
  cases e with
  | pulled i h => exact absurd (.refl _) (noPull i h)
  | sent a => exact absurd (.refl _) (noSend a)
  | _ => exact ⟨.refl _, .refl _, .refl _, .refl _, hretried⟩

/-- The hosts come from the plan, and of the attempts sent and those to be sent at these places one goes to the same
host again at most, and none before the first retry. -/
structure Frugal (plan : Plan) (places : List (Nat × HostId)) (r : Request) : Prop where
  drawn : plan.Yields (taken r.events) r.plan
  spared : (again r.events).length + places.countP (· ∉ unused r.events) ≤ min 1 (retried r.events)
  counted : r.retries = .ofNat (retried r.events)
  /-- Each retry is after an attempt that was answered. -/
  backed : retried r.events + r.flying ≤ (attempts r.events).length

section Frugal
variable {plan : Plan} {places places' : List (Nat × HostId)} {r q : Request} {i : Nat} {h : HostId}

/-- **Where the plan has few hosts the counter does not wrap.** -/
theorem Frugal.retries_eq_zero (k : Frugal plan places r) {n : Nat} (few : plan.YieldsAtMost n)
    (small : n + 1 < 4294967296) (zero : r.retries = 0) : retried r.events = 0 := by
  have hattempts := attempts_le r.events
  have htaken : (taken r.events).length ≤ n := few k.drawn
  have hspared := k.spared
  have hbacked := k.backed
  have hlt : retried r.events < 4294967296 := by omega
  have hcount := congrArg UInt32.toNat (k.counted.symm.trans zero)
  rwa [UInt32.toNat_ofNat_of_lt' hlt] at hcount

theorem Frugal.fewer (k : Frugal plan places r) (sub : places'.Subperm places) : Frugal plan places' r :=
  ⟨k.drawn, Nat.le_trans (Nat.add_le_add_left (sub.countP_le _) _) k.spared, k.counted, k.backed⟩

/-- Where nothing is taken and nothing sent, all stays as it was. -/
theorem Frugal.same (k : Frugal plan places r) (rest : q.plan = r.plan) (retries : q.retries = r.retries)
    (flying : q.flying ≤ r.flying) (quiet : Quiet r.events q.events) : Frugal plan places q := by
  refine ⟨?_, ?_, ?_, ?_⟩
  · rw [quiet.taken, rest]
    exact k.drawn
  · rw [quiet.unused, quiet.again, quiet.retried]
    exact k.spared
  · rw [quiet.retried, retries]
    exact k.counted
  · rw [quiet.retried, quiet.attempts]
    exact Nat.le_trans (Nat.add_le_add_left flying _) k.backed

/-- A host taken from the plan is one to send to. -/
theorem Frugal.pulled (k : Frugal plan places r) (away : ∀ x ∈ places, x.1 ≠ i) {s : Shared} {rest : Plan}
    (hp : r.plan.pull s.cluster.registry = (some h, rest)) :
    Frugal plan ((i, h) :: places) ({ r with plan := rest }.record s (.pulled i h)) := by
  refine ⟨k.drawn.pulled hp, ?_, k.counted, k.backed⟩
  have hhere : (i, h) ∈ unused (.pulled i h :: r.events) := List.mem_cons_self
  have hothers : places.countP (· ∉ unused (.pulled i h :: r.events)) = places.countP (· ∉ unused r.events) :=
    List.countP_congr fun x hx => by simp only [mem_unused_pulled (away x hx)]
  show (again r.events).length + ((i, h) :: places).countP (· ∉ unused (.pulled i h :: r.events)) ≤
    min 1 (retried r.events)
  rw [List.countP_cons_of_neg (by simpa using hhere), hothers]
  exact k.spared

/-- An attempt that was to be sent is sent. -/
theorem Frugal.sends (k : Frugal plan ((i, h) :: places) r) (away : ∀ x ∈ places, x.1 ≠ i) (s : Shared)
    (c : Consistency) (t : Ticket) : Frugal plan places (send s r i c h t).2 := by
  have flies : (send s r i c h t).2.flying = r.flying + 1 :=
    (List.countP_append).trans (congrArg (r.flying + ·) rfl)
  have hbacked : retried r.events + (r.flying + 1) ≤ (attempts r.events).length + 1 := Nat.succ_le_succ k.backed
  refine ⟨k.drawn, ?_, k.counted, flies ▸ hbacked⟩
  have hspared := k.spared
  have hmem : ∀ x ∈ places, (x ∈ unused (send s r i c h t).2.events ↔ x ∈ unused r.events) :=
    fun x hx => mem_unused_sent (away x hx)
  have hothers : places.countP (· ∉ unused (send s r i c h t).2.events) = places.countP (· ∉ unused r.events) :=
    List.countP_congr fun x hx => by simp only [hmem x hx]
  rw [hothers]
  show (again (.sent _ :: r.events)).length + _ ≤ min 1 (retried r.events)
  by_cases hm : (i, h) ∈ unused r.events
  · rw [List.countP_cons_of_neg (by simpa using hm)] at hspared
    rwa [again, if_pos hm]
  · rw [List.countP_cons_of_pos (by simpa using hm)] at hspared
    rw [again, if_neg hm, List.length_cons]
    omega

/-- A retry is counted.  Only the first one may go to a host at hand: nothing was sent again before it, and nothing
waits to be. -/
theorem Frugal.retry (k : Frugal plan places r) {current : Option HostId}
    (unretried : ∀ h ∈ current, retried r.events = 0) (answered : retried r.events + r.flying < (attempts r.events).length)
    {a : Address} {level : Option Consistency} {sameHost : Bool} (rest : q.plan = r.plan)
    (retries : q.retries = r.retries + 1) (executions : q.executions = r.executions)
    (events : q.events = .decided i a (.retry level sameHost) :: r.events) :
    Frugal plan (current.toList.map ((i, ·)) ++ places) q := by
  have hretried : retried q.events = retried r.events + 1 := by
    rw [events]
    exact List.countP_cons_of_pos rfl
  refine ⟨?_, ?_, ?_, ?_⟩
  · rw [events, rest]
    exact k.drawn
  · rw [hretried, events]
    have hspared := k.spared
    cases current with
    | none => exact Nat.le_trans hspared (by omega)
    | some h =>
      rw [unretried h rfl] at hspared ⊢
      have hcount : ((i, h) :: places).countP (· ∉ unused r.events) ≤ places.countP (· ∉ unused r.events) + 1 := by
        rw [List.countP_cons]
        split <;> omega
      exact Nat.le_trans (Nat.add_le_add_left hcount _) (Nat.succ_le_succ hspared)
  · rw [hretried, retries, k.counted, UInt32.ofNat_add]
    rfl
  · rw [hretried, events]
    unfold flying at answered ⊢
    rw [executions]
    show _ ≤ (attempts r.events).length
    omega

theorem Frugal.finish (k : Frugal plan places r) (s : Shared) (o : Outcome) :
    Frugal plan (r.finish s o).2.places (r.finish s o).2 :=
  (k.fewer (List.nil_subperm)).same rfl rfl (Nat.zero_le _) (quiet_cons _ nofun nofun rfl)

theorem Frugal.lose (k : Frugal plan places r) (s : Shared) (o : Overflow) :
    Frugal plan (r.lose s o).2.places (r.lose s o).2 :=
  (k.fewer (List.nil_subperm)).same rfl rfl (Nat.zero_le _) .rfl

end Frugal

theorem away_of_detached {r : Request} {i : Nat} (detached : r.execution? i = none) : ∀ x ∈ r.places, x.1 ≠ i := by
  intro x hx hi
  obtain ⟨e, he, hplace⟩ := List.mem_filterMap.1 hx
  have hne : ¬ (e.index == i) = true := List.find?_eq_none.1 detached e he
  unfold Execution.place? at hplace
  split at hplace
  · cases hplace
    exact hne (beq_iff_eq.2 hi)
  · cases hplace

theorem flying_without_le (r : Request) (i : Nat) : (r.without i).flying ≤ r.flying :=
  List.filter_sublist.countP_le

theorem places_without (r : Request) (i : Nat) : (r.without i).places.Subperm r.places :=
  (List.filter_sublist.filterMap _).subperm

/-- An execution taken out, and the others left in. -/
theorem subperm_of_mem {e : Execution} : ∀ {l : List Execution}, e ∈ l →
    (e :: l.filter (·.index != e.index)).Subperm l
  | [], he => absurd he List.not_mem_nil
  | x :: l, he => by
    rcases List.mem_cons.1 he with rfl | he
    · rw [List.filter_cons_of_neg (by simp)]
      exact (List.filter_sublist.cons_cons e).subperm
    · have ih := subperm_of_mem he
      by_cases hx : x.index = e.index
      · rw [List.filter_cons_of_neg (by simpa using hx)]
        exact ih.trans (List.sublist_cons_self x l).subperm
      · rw [List.filter_cons_of_pos (by simpa using hx)]
        exact (List.Perm.swap x e _).subperm.trans ((List.subperm_cons x).2 ih)

/-- The execution that has its answer flies no more. -/
theorem flying_without {r : Request} {i : Nat} {e : Execution} {h : HostId} {a : Address} {t : Ticket}
    (he : r.execution? i = some e) (hp : e.phase = .inFlight h a t) : (r.without i).flying < r.flying := by
  obtain rfl : e.index = i := by simpa using List.find?_some he
  have hle := (subperm_of_mem (List.mem_of_find?_eq_some he)).countP_le fun e => e.place?.isNone
  have hflies : e.place?.isNone = true := by
    unfold Execution.place?
    rw [hp]
    rfl
  rwa [List.countP_cons, if_pos hflies] at hle

theorem places_of_queued {r : Request} {i : Nat} {e : Execution} {h : HostId} {a : Address} {t : Ticket}
    (he : r.execution? i = some e) (hp : e.phase = .queued h a t) :
    ((i, h) :: (r.without i).places).Subperm r.places := by
  obtain rfl : e.index = i := by simpa using List.find?_some he
  obtain ⟨l, hl, hsub⟩ := subperm_of_mem (List.mem_of_find?_eq_some he)
  have hplace : e.place? = some (e.index, h) := by
    unfold Execution.place?
    rw [hp]
  refine ⟨l.filterMap (·.place?), ?_, hsub.filterMap _⟩
  refine (hl.filterMap _).trans (.of_eq ?_)
  rw [List.filterMap_cons_some hplace]
  rfl

/-- What holds of every request on a plan: live or decided, it took turns and did not send too much. -/
def Spends (plan : Plan) (r : Request) : Prop := TakesTurns r ∧ Frugal plan r.places r

/-- **A search sends to a host that it takes**, or to the one at hand. -/
theorem frugal_search (plan : Plan) (i : Nat) (c : Consistency) :
    SearchKeeps i c
      (fun current _ r => Looking i r ∧ Frugal plan (current.toList.map ((i, ·)) ++ r.places) r)
      (fun out => Spends plan out.2) where
  pulled {s r h rest} k hp := by
    refine ⟨(looking_search i c).pulled (s := s) k.1 hp, ?_⟩
    exact k.2.pulled (away_of_detached k.1.detached) hp
  dry {s r rest} k hp := by
    refine ⟨(looking_search i c).dry (s := s) k.1 hp, ?_⟩
    have hdry : Frugal plan r.places ({ r with plan := rest }.record s .ranDry) :=
      ⟨k.2.drawn.pulled hp, k.2.spared, k.2.counted, k.2.backed⟩
    unfold exhaust
    split
    · exact hdry.finish s _
    · exact hdry
  down k _ := ⟨k.1, k.2.fewer (List.sublist_cons_self _ _).subperm⟩
  refused {s r h t f admission} k hup ha := by
    refine ⟨(looking_search i c).refused (s := s) k.1 hup ha, ?_⟩
    exact (k.2.fewer (List.sublist_cons_self _ _).subperm).same rfl rfl (Nat.le_refl _) (quiet_cons _ nofun nofun rfl)
  queued {s r h t admission} k hup ha := by
    have hflying : Request.flying { r with executions := r.executions ++ [⟨i, c, .queued h (s.host h).address t⟩] } =
        r.flying := List.countP_append
    refine ⟨(looking_search i c).queued (s := s) k.1 hup ha, k.2.drawn, ?_, k.2.counted, hflying ▸ k.2.backed⟩
    have hplaces : Request.places { r with executions := r.executions ++ [⟨i, c, .queued h (s.host h).address t⟩] } =
        r.places ++ [(i, h)] := List.filterMap_append
    rw [hplaces, (List.perm_append_singleton (i, h) r.places).countP_eq]
    exact k.2.spared
  granted {s r h t admission} k hup ha := by
    refine ⟨(looking_search i c).granted (s := s) k.1 hup ha, ?_⟩
    have hplaces : (send { s with admission := admission } r i c h t).2.places = r.places :=
      (List.filterMap_append).trans (List.append_nil _)
    rw [hplaces]
    exact k.2.sends (away_of_detached k.1.detached) _ c t
  overflow {s r h t admission} k hup ha :=
    ⟨(looking_search i c).overflow k.1 hup ha, (k.2.fewer (List.sublist_cons_self _ _).subperm).lose _ _⟩

theorem Frugal.proceed {plan : Plan} {s : Shared} {r : Request} {i : Nat} {c : Consistency} {current : Option HostId}
    (frugal : Frugal plan (current.toList.map ((i, ·)) ++ r.places) r) (looking : Looking i r) :
    Frugal plan (r.proceed s i c current).2.places (r.proceed s i c current).2 :=
  ((frugal_search plan i c).proceed (L := fun current _ r =>
    Looking i r ∧ Frugal plan (current.toList.map ((i, ·)) ++ r.places) r) ⟨looking, frugal⟩).2

/-- **An answer is followed by the same host once**, and else by a host of the plan. -/
theorem Frugal.answer {p : Policies} (builtIn : p.retry.BuiltIn) {plan : Plan} {n : Nat} (few : plan.YieldsAtMost n)
    (small : n + 1 < 4294967296) {s : Shared} {r : Request} {i : Nat} {ans : Answer} {e : Execution} {h : HostId}
    {a : Address} {t : Ticket} (frugal : Frugal plan r.places r) (coherent : Coherent r)
    (he : r.execution? i = some e) (hp : e.phase = .inFlight h a t) :
    Frugal plan (r.answer p s i ans).2.places (r.answer p s i ans).2 := by
  have lands := flying_without he hp
  have received : ∀ s', Frugal plan (r.without i).places (r.received s' i a ans) := fun s' =>
    (frugal.fewer (places_without r i)).same rfl rfl (Nat.le_of_lt lands) (quiet_cons _ nofun nofun rfl)
  have decided : ∀ s' d, d.isRetry = false →
      Frugal plan (r.without i).places ((r.received s' i a ans).record s' (.decided i a d)) := fun s' d final =>
    (received s').same rfl rfl (Nat.le_refl _) (quiet_cons _ nofun nofun final)
  have looking : ∀ s', Looking i (r.received s' i a ans) := fun s' => coherent.looks he hp s' ans
  refine answer_rule (Q := fun out => Frugal plan out.2.places out.2) he hp ?ok ?retry ?rethrow ?ignore ?busy ?hopeless
  case ok => exact fun {s' _} _ => (received s').finish s' _
  case retry =>
    intro s' f setback level sameHost current _ _ hd hcurrent
    have hl := looking s'
    refine Frugal.proceed ?_ ⟨⟨hl.inTurn, hl.agrees, hl.fresh⟩, hl.detached, hl.known⟩
    refine (received s').retry (fun k hk => ?_) ?_ rfl rfl rfl rfl
    · exact frugal.retries_eq_zero few small (builtIn.unretried ((hcurrent k hk).2 ▸ hd))
    · exact Nat.lt_of_lt_of_le (Nat.add_lt_add_left lands _) frugal.backed
  case rethrow => exact fun {s' _ _} _ _ _ => (decided s' _ rfl).finish s' _
  case ignore => exact fun {s' _ _} _ _ _ => (decided s' _ rfl).finish s' _
  case busy =>
    intro s' host limit _
    have hl := looking s'
    refine Frugal.proceed ?_ ⟨⟨hl.inTurn, hl.agrees, hl.fresh⟩, hl.detached, hl.known⟩
    exact (received s').same rfl rfl (Nat.le_refl _) .rfl
  case hopeless => exact fun {s' _} _ _ _ => (received s').finish s' _

/-- An execution that waited goes on at the place where it waited, or with the plan. -/
theorem Frugal.resume {plan : Plan} {s : Shared} {r : Request} {i : Nat} {e : Execution} {h : HostId} {a : Address}
    {t : Ticket} (frugal : Frugal plan r.places r) (coherent : Coherent r) (he : r.execution? i = some e)
    (hp : e.phase = .queued h a t) : Frugal plan (r.resume s i).2.places (r.resume s i).2 := by
  have hl := coherent.dequeued he hp
  have hplace : Frugal plan ((i, h) :: (r.without i).places) r := frugal.fewer (places_of_queued he hp)
  refine resume_rule (Q := fun out => Frugal plan out.2.places out.2) he hp ?waiting ?granted ?closed
  case waiting => exact fun _ => frugal
  case granted =>
    intro s'
    have hplaces : (send s' (r.without i) i e.consistency h t).2.places = (r.without i).places :=
      (List.filterMap_append).trans (List.append_nil _)
    rw [hplaces]
    refine Frugal.sends ?_ (away_of_detached hl.detached) _ _ _
    exact hplace.same rfl rfl (flying_without_le r i) .rfl
  case closed =>
    intro s' f
    refine Frugal.proceed ?_ ⟨⟨hl.inTurn, hl.agrees, hl.fresh⟩, hl.detached, hl.known⟩
    exact (frugal.fewer (places_without r i)).same rfl rfl (flying_without_le r i) (quiet_cons _ nofun nofun rfl)

/-- **Every move keeps the account.** -/
theorem spends_move {p : Policies} (builtIn : p.retry.BuiltIn) {plan : Plan} {n : Nat} (few : plan.YieldsAtMost n)
    (small : n + 1 < 4294967296) {s : Shared} {r : Request} {m : Move} {out : Shared × Request} (k : Spends plan r)
    (hm : r.move? p s m = some out) : Spends plan out.2 := by
  obtain ⟨hturns, hfrugal⟩ := k
  refine ⟨takesTurns_move hturns hm, ?_⟩
  refine (move_rule (Q := fun out => Coherent r → Frugal plan out.2.places out.2) hm ?answered ?resumed ?speculated
    ?expired ?cancelled).elim fun hl hq => hq (hturns.2 hl)
  case answered => exact fun _ he hp hc => hfrugal.answer builtIn few small hc he hp
  case resumed => exact fun _ he hp hc => hfrugal.resume hc he hp
  case speculated =>
    intro _ _ hc
    have haway := away_of_detached (hc.fresh _ (Nat.lt_succ_self r.speculated))
    have hcopy : ∀ {h rest}, r.plan.pull s.cluster.registry = (some h, rest) →
        Frugal plan ((r.speculated + 1, h) :: r.places) (r.copying s h rest) := fun hp =>
      (hfrugal.pulled haway hp).same rfl rfl (Nat.le_refl _) (quiet_cons _ nofun nofun rfl)
    refine speculate_rule (Q := fun out => Frugal plan out.2.places out.2) ?dry ?started ?lost
    case dry => exact fun hp => ⟨hfrugal.drawn.pulled hp, hfrugal.spared, hfrugal.counted, hfrugal.backed⟩
    case started =>
      intro h rest next hp _
      exact Frugal.proceed ((hcopy hp).same rfl rfl (Nat.le_refl _) .rfl) (hc.begins rfl rfl rfl)
    case lost =>
      intro h rest o hp _
      exact ((hcopy hp).fewer (List.sublist_cons_self _ _).subperm).lose s o
  case expired => exact fun _ _ => hfrugal.finish s _
  case cancelled => exact fun _ _ => hfrugal.finish s _

theorem spends_start (p : Policies) (s : Shared) (statement : Statement) (options : ExecutionOptions) (plan : Plan) :
    Spends plan (startOn p s statement options plan).2 := by
  refine ⟨takesTurns_start p s statement options plan, ?_⟩
  have hopened : ∀ {h rest}, plan.pull s.cluster.registry = (some h, rest) →
      Frugal plan [(0, h)] (opened s statement options h rest) := fun hp =>
    ⟨.pulled .start hp, by simp [opened, submitted, record, events, again, unused], rfl, Nat.zero_le _⟩
  refine start_rule (Q := fun out => Frugal plan out.2.places out.2) ?dry ?begun ?lost
  case dry =>
    intro rest hp
    have hstillborn : Frugal plan [] (stillborn s statement options rest) :=
      ⟨.pulled .start hp, Nat.zero_le _, rfl, Nat.zero_le _⟩
    exact hstillborn.finish s _
  case begun =>
    intro s' h rest next hp _ _
    exact Frugal.proceed ((hopened hp).same rfl rfl (Nat.le_refl _) .rfl) (looking_first trivial (fun _ => rfl) rfl)
  case lost =>
    intro s' h rest o hp _ _
    exact ((hopened hp).fewer List.nil_subperm).lose s' o

end Request

end CqlDispatch
