import CqlDispatch.Proofs.Client.Log
import CqlDispatch.Proofs.Client.Reconnection
/-!
# The listener and its series in a running client

A series that is not live any more never is again (`Effect.later`), and as long as it is live the books list
it, unless the listener drops the entry of its address (`Effect.listed`).  An address whose schedule ran out is
marked until an event that settles it is taken in (`SpentAt`).
-/
namespace CqlDispatch

namespace Client

/-- The listener has lost events and skips them. -/
def Lags (c : Client) : Action → Prop
  | .hear => c.reconnector.awake = true ∧ mailbox < c.registry.log.length - c.reconnector.heard
  | _ => False

instance (c : Client) : ∀ act, Decidable (c.Lags act)
  | .hear => inferInstanceAs (Decidable (_ ∧ _))
  | .submit .. | .answer .. | .resume .. | .speculate .. | .expire .. | .cancel .. | .report .. | .refresh ..
  | .addHost .. | .setReplicationFactor .. | .beginSeries .. | .wakeSeries .. | .probed .. | .quitSeries ..
  | .shutdown | .elapse .. => .isFalse id

/-- The event that an action takes in. -/
def takesIn? (c : Client) : Action → Option HostEvent
  | .hear => if c.reconnector.resyncs c.registry then none else (c.reconnector.unheard c.registry).getLast?
  | _ => none

theorem takesIn?_hear {c : Client} {newer : List HostEvent} {e : HostEvent}
    (hsync : c.reconnector.resyncs c.registry = false) (hunheard : c.reconnector.unheard c.registry = newer ++ [e]) :
    c.takesIn? .hear = some e := by
  rw [takesIn?, hsync, hunheard, List.getLast?_concat]
  rfl

/-- The listener hears that the host of a marked address went down, and drops the entry of the address. -/
def Drops (c : Client) (a : Address) (act : Action) : Prop :=
  (c.takesIn? act).any (·.fells a) = true ∧ a ∈ c.reconnector.exhausted

instance (c : Client) (a : Address) (act : Action) : Decidable (c.Drops a act) := inferInstanceAs (Decidable (_ ∧ _))

theorem not_cancelled {w : Reconnector} {s : Series} (goesOn : w.isCancelled s = false) : s.cancelled = false :=
  (Bool.or_eq_false_iff.1 goesOn).1

/-! ## What does not come back -/

/-- A series has begun when it has taken a step, and it is live only if it was before. -/
theorem SeriesStep.live {c : Client} {n : Nat} {s s' : Series} {act : Action} {exhausted : List Address}
    {cluster : Cluster} (step : SeriesStep c n s act s' exhausted cluster) :
    s'.phase ≠ .created ∧ (s'.IsLive → s.IsLive) := by
  obtain ⟨busy, -, -, hcancelled⟩ := step.keeps
  refine ⟨?_, fun live => ⟨busy, hcancelled ▸ live.2⟩⟩
  cases step <;> exact SeriesPhase.noConfusion

section
variable {c c' : Client} {act : Action}

/-- A turn takes in no more events than there are. -/
theorem progress_hear {b : Backoff} {w : Reconnector} {r : Registry} (news : w.hasNews r = true)
    (hle : w.heard ≤ r.log.length) :
    (w.hear b r).heard ≤ r.log.length ∧ (w.hear b r).awake = true ∧ (w.hear b r).stopped = w.stopped := by
  rcases Reconnector.hear_cases b news hle with ⟨-, heard, hheard, he⟩ | ⟨-, hawake, hheard, e, -, he⟩
  · have hp := Reconnector.progress_resync { w with awake := true, heard := heard } b r
    simp only [Reconnector.progress, Prod.mk.injEq] at hp
    rw [he, hp.1, hp.2.1, hp.2.2]
    exact ⟨hheard, rfl, rfl⟩
  · have hp := Reconnector.progress_handle { w with heard := w.heard + 1 } b r e
    simp only [Reconnector.progress, Prod.mk.injEq] at hp
    rw [he, hp.1, hp.2.1, hp.2.2]
    exact ⟨hheard, hawake, rfl⟩

/-- **A series stays with its host, and once it is not live any more it never is again.** -/
theorem Effect.later {w : Reconnector} {cluster : Cluster} (effect : Effect c act w cluster)
    (heard : c.reconnector.heard ≤ c.registry.log.length) {n : Nat} {s : Series}
    (found : c.reconnector.series? n = some s) :
    ∃ s', w.series? n = some s' ∧ s'.host = s.host ∧ s'.address = s.address ∧ (s'.IsLive → s.IsLive) := by
  cases effect with
  | elsewhere | stops => exact ⟨s, found, rfl, rfl, id⟩
  | hears news =>
    rcases (Reconnector.Listens.hear c.policies.backoff news heard).old found with hs | hs
    · exact ⟨s, hs, rfl, rfl, id⟩
    · exact ⟨_, hs, rfl, rfl, fun live => Bool.noConfusion live.2⟩
  | @series _ m t t' exhausted _ foundt step =>
    have hset : Reconnector.series? { c.reconnector with series := c.reconnector.series.set m t' } n = _ :=
      Reconnector.series?_set foundt
    by_cases hn : m = n
    · subst hn
      cases foundt.symm.trans found
      rw [if_pos rfl] at hset
      exact ⟨t', hset, step.keeps.2.1, step.keeps.2.2.1, step.live.2⟩
    · rw [if_neg hn] at hset
      exact ⟨s, hset.trans found, rfl, rfl, id⟩

/-! ## The books -/

/-- **A step leaves a live series listed**, unless the listener drops the entry of its address. -/
theorem Effect.listed {w : Reconnector} {cluster : Cluster} (effect : Effect c act w cluster)
    (heard : c.reconnector.heard ≤ c.registry.log.length) {n : Nat} (k : Reconnector.Listed n c.reconnector)
    (kept : ∀ s, c.reconnector.series? n = some s → s.IsLive → ¬ c.Drops s.address act) :
    Reconnector.Listed n w := by
  cases effect with
  | elsewhere | stops => exact k
  | series found step => exact k.set found step.keeps.2.2.1 step.live.2
  | hears news =>
    rcases Reconnector.hear_cases c.policies.backoff news heard with
      ⟨-, heard, -, he⟩ | ⟨hsync, -, -, e, hunheard, he⟩ <;> rw [he]
    · exact Reconnector.Listed.foldl_spawn _ _ _ k
    · have k' : Reconnector.Listed n { c.reconnector with heard := c.reconnector.heard + 1 } := k
      refine k'.handle _ _ fun s hs live fells marked => kept s hs live ⟨?_, marked⟩
      rw [takesIn?_hear hsync hunheard]
      exact fells

/-! ## Addresses whose schedule ran out -/

/-- A series of the address has to go on and has no delay left. -/
def RunsOutAt (c : Client) (a : Address) (act : Action) : Prop :=
  ∃ n ∈ act.sentOn?, ∃ s ∈ c.reconnector.series? n, s.address = a ∧ s.schedule.next = none

instance (c : Client) (a : Address) (act : Action) : Decidable (c.RunsOutAt a act) :=
  inferInstanceAs (Decidable (∃ n ∈ act.sentOn?, ∃ s ∈ c.reconnector.series? n, _))

theorem runsOutAt_iff {n : Nat} {s : Series} {a : Address} (found : c.reconnector.series? n = some s)
    (sent : act.sentOn? = some n) : c.RunsOutAt a act ↔ s.address = a ∧ s.schedule.next = none := by
  constructor
  · rintro ⟨k, hk, t, ht, hta⟩
    cases sent.symm.trans hk
    cases found.symm.trans ht
    exact hta
  · exact fun hs => ⟨n, sent, s, found, hs⟩

theorem not_runsOutAt {a : Address} (unsent : act.sentOn? = none) : ¬ c.RunsOutAt a act := by
  rintro ⟨k, hk, -⟩
  rw [unsent] at hk
  cases hk

theorem Action.series?_of_sentOn? {n : Nat} (sent : act.sentOn? = some n) : act.series? = some n := by
  cases act with
  | beginSeries => exact sent
  | probed m answer => cases answer <;> first | exact sent | cases sent
  | _ => cases sent

/-- A schedule of the address ran out, and no event that settles it was taken in since. -/
def SpentAt (a : Address) : List (Client × Action) → Prop
  | [] => False
  | (c, act) :: past => c.RunsOutAt a act ∨ SpentAt a past ∧ ∀ e ∈ c.takesIn? act, e.settles a = false

/-- The schedule of a series runs out in a step, and its address is marked. -/
theorem SeriesStep.marks {n : Nat} {s s' : Series} {exhausted : List Address} {cluster : Cluster} {a : Address}
    (step : SeriesStep c n s act s' exhausted cluster) (found : c.reconnector.series? n = some s)
    (out : c.RunsOutAt a act ∨ a ∈ c.reconnector.exhausted) : a ∈ exhausted := by
  have marked : a ∈ c.reconnector.exhausted →
      a ∈ s.address :: c.reconnector.exhausted.filter (· != s.address) := fun hm => by
    by_cases ha : a = s.address
    · exact ha ▸ List.mem_cons_self
    · exact List.mem_cons_of_mem _ (List.mem_filter.2 ⟨hm, by simpa using ha⟩)
  rcases out with out | hm
  · cases step with
    | begins created next | fails probing next =>
      rw [((runsOutAt_iff found rfl).1 out).2] at next
      cases next
    | beginsDry | failsDry => exact ((runsOutAt_iff found rfl).1 out).1 ▸ List.mem_cons_self
    | wakes | wakesRemoved | succeeds | quits => exact absurd out (not_runsOutAt rfl)
  · cases step with
    | beginsDry | failsDry => exact marked hm
    | begins | wakes | wakesRemoved | succeeds | fails | quits => exact hm

/-- A step of a series marks an address only as the schedule runs out, and then the series is over. -/
theorem SeriesStep.marked_cases {n : Nat} {s s' : Series} {exhausted : List Address} {cluster : Cluster} {a : Address}
    (step : SeriesStep c n s act s' exhausted cluster) (marked : a ∈ exhausted) :
    a ∈ c.reconnector.exhausted ∨
      a = s.address ∧ act.sentOn? = some n ∧ s.schedule.next = none ∧ s'.phase = .over := by
  cases step with
  | beginsDry created dry | failsDry probing dry =>
    rcases List.mem_cons.1 marked with ha | hm
    · exact .inr ⟨ha, rfl, dry, rfl⟩
    · exact .inl (List.mem_filter.1 hm).1
  | begins | wakes | wakesRemoved | succeeds | fails | quits => exact .inl marked

/-- **An address whose schedule ran out stays marked** until an event that settles it is taken in. -/
theorem step?_marked (heard : c.reconnector.heard ≤ c.registry.log.length) (h : c.step? act = some c') {a : Address}
    (out : c.RunsOutAt a act ∨ a ∈ c.reconnector.exhausted ∧ ∀ e ∈ c.takesIn? act, e.settles a = false) :
    a ∈ c'.reconnector.exhausted := by
  have effect := step?_effect h
  generalize c'.reconnector = w at effect
  generalize c'.shared.cluster = cluster at effect
  have old : act.sentOn? = none → a ∈ c.reconnector.exhausted := fun hnone =>
    (out.resolve_left (not_runsOutAt hnone)).1
  cases effect with
  | elsewhere apart =>
    refine old ?_
    cases act <;> first | rfl | cases apart
  | stops => exact old rfl
  | series found step => exact step.marks found (out.imp_right And.left)
  | hears news =>
    obtain ⟨hm, open'⟩ := out.resolve_left (not_runsOutAt rfl)
    rcases Reconnector.hear_cases c.policies.backoff news heard with
      ⟨-, heard, -, he⟩ | ⟨hsync, -, -, e, hunheard, he⟩ <;> rw [he]
    · unfold Reconnector.resync
      rwa [Reconnector.exhausted_foldl_spawn]
    · exact Reconnector.mem_exhausted_handle hm (open' e (takesIn?_hear hsync hunheard))

end

end Client

end CqlDispatch
