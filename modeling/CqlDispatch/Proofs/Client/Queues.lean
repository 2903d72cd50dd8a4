import CqlDispatch.Proofs.Client.Log
import CqlDispatch.Proofs.Client.Ended
import CqlDispatch.Proofs.Cluster.Reports
import CqlDispatch.Proofs.Cluster.Stale
import CqlDispatch.Proofs.Request.LetDown
import CqlDispatch.Proofs.Request.Pools
/-!
# Queues of removed hosts

A host is taken out only where its address loses its slots and its queue (`step?_leaves`), and requests ask for slots
at hosts that are up, which are registered.  So there are pools at registered addresses only (`PoolsRegistered`), and
whoever waits for a host that is not registered any more drew its ticket before the address lost its queue
(`DrawnBefore`): it is let down as it looks again, and goes on to the next host of its plan.
-/
namespace CqlDispatch

open Cluster (Built)

/-- A host that is up is registered at its address. -/
theorem Cluster.Built.find?_of_up {c : Cluster} (built : Built c) {h : HostId} (up : c.registry.isUp h = true) :
    c.registry.find? (c.registry.host h).address = some h :=
  built.wellFormed.mem_ids_iff.1
    (Cluster.mem_ids_of_up .refl built.wellFormed built.accounted (Registry.lt_of_isUp up) up)

namespace Client

/-! ## Addresses that are struck -/

section Step

variable {c c' : Client} {act : Action}

/-- Where a host is reported as taken out, its address loses its slots and its queue. -/
theorem struck_of_reports {a : Address} (he : .removed a ∈ c.shared.cluster.reportsAll (c.operations act)) :
    a ∈ c.struck act := by
  have harmless : ∀ {ops : List Cluster.Operation} {d : Cluster}, .removed a ∈ d.reportsAll ops →
      (∀ o ∈ ops, o ≠ .report (.hostRemoved a) ∧ ∀ report, o ≠ .refresh report) → False := fun he hops => by
    obtain ⟨o, ho, d, he⟩ := Cluster.mem_reportsAll he
    rcases (Cluster.mem_reports he).2.2 a rfl with h | ⟨report, h⟩
    · exact (hops o ho).1 h
    · exact (hops o ho).2 report h
  have onward : ∀ {s : Series}, ∀ o ∈ sendingOn s, o ≠ .report (.hostRemoved a) ∧ ∀ report, o ≠ .refresh report :=
    fun {s} o ho => by
      unfold sendingOn at ho
      split at ho
      · cases ho
      · cases List.mem_singleton.1 ho
        exact ⟨nofun, nofun⟩
  cases act with
  | report e =>
    have he : .removed a ∈ c.shared.cluster.reports (.report e) ++ [] := he
    rw [List.append_nil] at he
    rcases (Cluster.mem_reports he).2.2 a rfl with h | ⟨_, h⟩
    · cases h
      exact List.mem_singleton_self a
    · cases h
  | refresh report =>
    have he : .removed a ∈ ((c.refresh report).1.added.map HostEvent.added ++
      (c.refresh report).1.removed.map HostEvent.removed) ++ [] := he
    rw [List.append_nil] at he
    rcases List.mem_append.1 he with he | he
    · obtain ⟨b, -, h⟩ := List.mem_map.1 he
      cases h
    · obtain ⟨b, hb, h⟩ := List.mem_map.1 he
      cases h
      exact hb
  | submit | addHost | setReplicationFactor =>
    refine (harmless he fun o ho => ?_).elim
    cases List.mem_singleton.1 ho
    exact ⟨nofun, nofun⟩
  | beginSeries n =>
    refine (harmless he fun o ho => ?_).elim
    obtain ⟨s, -, ho⟩ := List.mem_flatMap.1 ho
    rcases List.mem_cons.1 ho with rfl | ho
    · exact ⟨nofun, nofun⟩
    · exact onward o ho
  | probed n answer =>
    refine (harmless he fun o ho => ?_).elim
    cases answer with
    | ok u =>
      obtain ⟨s, -, rfl⟩ := List.mem_map.1 ho
      exact ⟨nofun, nofun⟩
    | error f =>
      obtain ⟨s, -, ho⟩ := List.mem_flatMap.1 ho
      exact onward o ho
  | answer | resume | speculate | expire | cancel | hear | wakeSeries | quitSeries | shutdown | elapse => cases he

/-- **A host that leaves takes the slots and the queue of its address along.** -/
theorem step?_leaves (wf : c.registry.WellFormed) (h : c.step? act = some c') {k : HostId}
    (hk : k ∈ c.registry.topology.ids) :
    k ∈ c'.registry.topology.ids ∨ (c.registry.host k).address ∈ c.struck act := by
  refine (Cluster.performAll_leaves (c.operations act) wf k hk).imp (fun hm => ?_) struck_of_reports
  unfold registry
  rw [step?_operations h]
  exact hm

/-- Where an address is struck, requests stay as they are. -/
theorem requests_of_struck {a : Address} (struck : a ∈ c.struck act) (h : c.step? act = some c') :
    c'.requests = c.requests := by
  cases act with
  | report | refresh => exact (step?_quiet rfl (fun _ _ => Action.noConfusion) h).1
  | _ => cases struck

end Step

/-! ## Pools -/

/-- There are pools at registered addresses only. -/
def PoolsRegistered (c : Client) : Prop := c.shared.admission.Within fun a => (c.registry.find? a).isSome

section Pools

variable {c c' : Client} {act : Action}

/-- **Every step leaves pools at registered addresses only.** -/
theorem PoolsRegistered.step (pools : PoolsRegistered c) (built : Built c.shared.cluster) (h : c.step? act = some c') :
    PoolsRegistered c' := by
  have up : ∀ k, c.registry.isUp k = true → (c.registry.find? (c.registry.host k).address).isSome := fun k hk => by
    rw [registry, built.find?_of_up hk]
    rfl
  have kept := Request.pooled_kept fun a => (c.registry.find? a).isSome
  have pooled : Request.Pooled (fun a => (c.registry.find? a).isSome) c.shared := ⟨up, pools⟩
  -- A request changes no host, and any other step makes no pool.
  have asked : c'.registry = c.registry → (c'.shared.admission.Within fun a => (c.registry.find? a).isSome) →
      PoolsRegistered c' := fun same within => by
    unfold PoolsRegistered
    rwa [same]
  have moved : ∀ {n m}, act.move? = some (n, m) → PoolsRegistered c' := fun {n m} hmove => by
    obtain ⟨q, out, -, -, hout, rfl⟩ := step?_move hmove h
    have same : (c.putBack n q.trace.length out).shared.cluster = c.shared.cluster := by
      rw [step?_operations h]
      cases act <;> first | rfl | cases hmove
    exact asked (congrArg Cluster.registry same) (kept.move pooled hout).pools
  cases act with
  | answer | resume | speculate | expire | cancel => exact moved rfl
  | submit statement options =>
    have planned : Request.Pooled (fun a => (c.registry.find? a).isSome)
        { c.shared with cluster := (c.shared.cluster.plan options.keyspace options).2 } := ⟨up, pools⟩
    have same : c'.registry = c.registry := by
      have hplan := congrArg Cluster.registry (step?_operations h)
      exact hplan
    cases h
    exact asked same (kept.start c.policies statement options planned).pools
  | _ =>
    have admission := step?_admission rfl (fun _ _ => Action.noConfusion) h
    unfold PoolsRegistered
    rw [admission]
    intro a ha
    obtain ⟨known, unstruck⟩ := Admission.Within.removeAll _ pools a ha
    obtain ⟨k, hk⟩ := Option.isSome_iff_exists.1 known
    have address := built.wellFormed.find?_address hk
    have changes := (step?_effect h).changes
    have registered := (step?_leaves built.wellFormed h (Registry.mem_ids_of_find? hk)).resolve_right fun hm =>
      unstruck (address ▸ hm)
    have found := (changes.wellFormed built.wellFormed).mem_ids_iff.1 registered
    have hsame := (changes.extends built.wellFormed).address k
      (built.wellFormed.lt_of_mem (Registry.mem_ids_of_find? hk))
    rw [registry, ← address, ← hsame, found]
    rfl

end Pools

/-! ## Queues -/

section Queues

variable {limits : Limits} {past : List (Client × Action)} {c c' : Client} {act : Action} {n : Nat} {e : Execution}
  {b : HostId} {a : Address} {t : Ticket}

theorem phase_mem_of_runs (runs : c.Runs n e) : e.phase ∈ c.phases := by
  obtain ⟨r, found, he⟩ := runs
  exact List.mem_flatMap.2 ⟨r, List.mem_of_getElem? found, List.mem_map_of_mem he⟩

theorem Runs.of_requests (runs : c.Runs n e) (same : c'.requests = c.requests) : c'.Runs n e := by
  unfold Runs request? at runs ⊢
  rwa [same]

/-- Whoever waits for a host that is not registered any more drew its ticket before the address lost its queue. -/
def DrawnBefore (past : List (Client × Action)) (c : Client) : Prop :=
  ∀ n e b a t, c.Runs n e → e.phase = .queued b a t → b ∉ c.registry.topology.ids → ¬ DrawnSince past a t

theorem DrawnBefore.step (before : DrawnBefore past c) (i : Accounted limits past c) (built : Built c.shared.cluster)
    (h : c.step? act = some c') : DrawnBefore ((c, act) :: past) c' := by
  intro n e b a t runs waits gone since
  by_cases running : c.Runs n e
  · obtain ⟨r, found, he⟩ := running
    have running : c.Runs n e := ⟨r, found, he⟩
    by_cases registered : b ∈ c.registry.topology.ids
    · have struck := (step?_leaves built.wellFormed h registered).resolve_left gone
      have placed := (i.sound r (List.mem_of_getElem? found)).placed e he
      have drawn := i.ledger.ticket_lt (phase_mem_of_runs running)
      rw [waits] at placed drawn
      have address : (c.registry.host b).address = a := placed.2
      exact absurd (since _ List.mem_cons_self (address ▸ struck)) (Nat.not_le.2 drawn)
    · exact before n e b a t running waits registered fun x hx => since x (List.mem_cons_of_mem _ hx)
  · -- It has just begun to wait, for a host that is up, and no host goes in such a step.
    have up := ((step?_checks h).queued n e b a t runs waits).resolve_left running
    have registered := Registry.mem_ids_of_find? (built.find?_of_up up)
    have struck := (step?_leaves built.wellFormed h registered).resolve_left gone
    exact running (runs.of_requests (requests_of_struck struck h).symm)

/-- What holds of pools and queues all through a run. -/
structure Tidy (limits : Limits) (past : List (Client × Action)) (c : Client) : Prop where
  built : Built c.shared.cluster
  accounted : Accounted limits past c
  pools : PoolsRegistered c
  before : DrawnBefore past c

theorem Tidy.step (i : Tidy limits past c) (h : c.step? act = some c') : Tidy limits ((c, act) :: past) c' :=
  ⟨step?_built i.built h, i.accounted.step h, i.pools.step i.built h, i.before.step i.accounted i.built h⟩

theorem tidy_connect {policies : Policies} {defaults : QueryDefaults} {contacts : List Address}
    {report : Except Failure (List Translated)} (h : connect policies defaults limits contacts report = .ok c) :
    Tidy limits [] c := by
  refine ⟨connect_built h, accounted_connect h, ?_, ?_⟩
  · rw [connect_eq h]
    intro a ha
    cases ha
  · rw [connect_eq h]
    rintro n e b a t ⟨r, found, -⟩
    cases found

/-! ## What becomes of those who wait -/

theorem mem_work_resume {r : Request} (found : c.request? n = some r) (live : r.isLive = true) (he : e ∈ r.executions)
    (can : canResume c.shared r e.index = true) : .resume n e.index ∈ c.work := by
  unfold work
  refine List.mem_append_left _ (List.mem_append_left _ (List.mem_flatMap.2 ⟨(r, n), ?_, ?_⟩))
  · exact List.mem_zipIdx_iff_getElem?.2 found
  · show _ ∈ c.requestWork n r
    unfold requestWork
    rw [if_neg (by simp [live])]
    refine List.mem_append_left _ (List.mem_append_left _ (List.mem_map.2 ⟨e, ?_, rfl⟩))
    exact List.mem_filter.2 ⟨he, can⟩

theorem step?_resume {r : Request} {i : Nat} (found : c.request? n = some r) (live : r.isLive = true)
    (can : canResume c.shared r i = true) :
    c.step? (.resume n i) = some (c.putBack n r.trace.length (r.resume c.shared i)) := by
  rw [step?, onRequest?, found]
  simp [live, can]

theorem request?_putBack_self {r : Request} {old : Nat} {out : Shared × Request} (found : c.request? n = some r) :
    (c.putBack n old out).request? n = some out.2 :=
  List.getElem?_set_self (List.getElem?_eq_some_iff.1 found).1

/-- **An execution that waits stays as it is** until it looks again, or its request ends. -/
theorem Accounted.stays (i : Accounted limits past c) (runs : c.Runs n e) (waits : e.phase = .queued b a t)
    (h : c.step? act = some c') (other : act ≠ .resume n e.index) :
    c'.Runs n e ∨ ∃ r ∈ c'.request? n, r.isLive = false := by
  obtain ⟨r, found, he⟩ := runs
  have runs : c.Runs n e := ⟨r, found, he⟩
  cases hmove : act.move? with
  | some move =>
    obtain ⟨k, m⟩ := move
    obtain ⟨q, out, hq, -, hout, rfl⟩ := step?_move hmove h
    by_cases hk : k = n
    · subst hk
      cases found.symm.trans hq
      have foreign : m ≠ .resume e.index := by
        rintro rfl
        cases act <;> cases hmove
        exact other rfl
      have after : (c.putBack k r.trace.length out).request? k = some out.2 := request?_putBack_self found
      rcases Request.move_queued (i.sound r (List.mem_of_getElem? found)) he waits foreign hout with here | ended
      · exact .inl ⟨_, after, here⟩
      · exact .inr ⟨_, after, ended⟩
    · exact .inl ⟨r, (List.getElem?_set_ne hk).trans found, he⟩
  | none =>
    refine .inl ?_
    cases act with
    | answer | resume | speculate | expire | cancel => cases hmove
    | submit statement options =>
      cases h
      have hlt := (List.getElem?_eq_some_iff.1 found).1
      exact ⟨r, (turn_submit statement options).others n r (Nat.ne_of_lt hlt) found, he⟩
    | _ => exact runs.of_requests (step?_quiet rfl (fun _ _ => Action.noConfusion) h).1

/-- What becomes of an execution whose host was removed while it waited for a slot there. -/
structure LetDown (c : Client) (n : Nat) (e : Execution) (a : Address) : Prop where
  /-- Its wait is over, and the client is not idle until it has looked again. -/
  ended : .resume n e.index ∈ c.work
  /-- It goes on to the next host of its plan then. -/
  goesOn : ∃ r q d, c.request? n = some r ∧ c.step? (.resume n e.index) = some d ∧ d.request? n = some q ∧
    r.GoesOn c.shared e a (Admission.closed a) q
  /-- Until then it stays as it is, unless its request ends. -/
  stays : ∀ act d, c.step? act = some d → act ≠ .resume n e.index →
    d.Runs n e ∨ ∃ r ∈ d.request? n, r.isLive = false

theorem Tidy.letDown (i : Tidy limits past c) (runs : c.Runs n e) (waits : e.phase = .queued b a t)
    (gone : b ∉ c.registry.topology.ids) : LetDown c n e a := by
  obtain ⟨r, found, he⟩ := runs
  have runs : c.Runs n e := ⟨r, found, he⟩
  have sound := i.accounted.sound r (List.mem_of_getElem? found)
  have live := sound.live_of_mem he
  have executed := sound.execution?_of_mem he
  have there := phase_mem_of_runs runs
  have drawn := i.accounted.ledger.ticket_lt there
  rw [waits] at there drawn
  have closed := (i.accounted.ledger.closed_iff there).2 (i.before n e b a t runs waits gone)
  have can : canResume c.shared r e.index = true := by
    unfold canResume
    rw [executed]
    dsimp only
    rw [waits]
    exact decide_eq_true (Admission.resume_closed_iff.1 closed).2
  have goesOn := Request.resume_goesOn executed waits drawn closed
  exact ⟨mem_work_resume found live he can,
    ⟨r, _, _, found, step?_resume found live can, request?_putBack_self found, goesOn⟩,
    fun _ _ h other => i.accounted.stays runs waits h other⟩

end Queues

/-- **Removed hosts have no slots and no queue.**  In every state that a client gets to there are pools at registered
addresses only.  A step that takes a host out leaves those who wait for it to be let down, and so is whoever waits for
a host that is not registered any more. -/
theorem removed_host_lets_down {policies : Policies} {defaults : QueryDefaults} {limits : Limits}
    {contacts : List Address} {report : Except Failure (List Translated)} {c₀ c : Client} {actions : List Action}
    (connected : connect policies defaults limits contacts report = .ok c₀) (ran : c₀.run? actions = some c) :
    (∀ a, (c.shared.admission.pool? a).isSome → (c.registry.find? a).isSome) ∧
      ∀ n e b a t, c.Runs n e → e.phase = .queued b a t →
        (b ∉ c.registry.topology.ids → LetDown c n e a) ∧
          ∀ act d, c.step? act = some d → b ∈ c.registry.topology.ids → b ∉ d.registry.topology.ids →
            d.Runs n e ∧ LetDown d n e a := by
  have i : Tidy limits (c₀.past actions ++ []) c :=
    run?_keeps (I := Tidy limits) (A := fun _ => True) (fun _ i h => i.step h) (fun _ _ => trivial)
      (tidy_connect connected) ran
  refine ⟨i.pools, fun n e b a t runs waits => ⟨i.letDown runs waits, fun act d h registered gone => ?_⟩⟩
  have struck := (step?_leaves i.built.wellFormed h registered).resolve_left gone
  have runs := runs.of_requests (requests_of_struck struck h)
  exact ⟨runs, (i.step h).letDown runs waits gone⟩

/-- The third request waits for the slot that the first one has, at a host that is removed then. -/
def removedWhileQueued : List Action := [read, read, read, .report (.hostRemoved ⟨.v4 0x0a000001, 9042⟩)]

theorem queued_read_let_down : ∃ c₀ c, connect inTurn {} oneSlot [] (.ok twoPeers) = .ok c₀ ∧
    c₀.run? removedWhileQueued = some c ∧
      c.Runs 2 ⟨0, .standard, .queued 0 ⟨.v4 0x0a000001, 9042⟩ 2⟩ ∧ 0 ∉ c.registry.topology.ids ∧
      LetDown c 2 ⟨0, .standard, .queued 0 ⟨.v4 0x0a000001, 9042⟩ 2⟩ ⟨.v4 0x0a000001, 9042⟩ ∧
      (c.shared.admission.pool? ⟨.v4 0x0a000001, 9042⟩).isSome = false := by
  obtain ⟨-, waiting⟩ := @removed_host_lets_down inTurn {} oneSlot [] (.ok twoPeers) _ _ removedWhileQueued rfl rfl
  refine ⟨_, _, rfl, rfl, ?_, ?_, (waiting 2 _ 0 _ 2 ?_ rfl).1 ?_, ?_⟩
  all_goals decide

end Client

end CqlDispatch
