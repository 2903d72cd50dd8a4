import CqlDispatch.Proofs.Backoff
import CqlDispatch.Proofs.Client.Lagging
import CqlDispatch.Proofs.Span
/-!
# The pace of probes

A series waits out each delay of its schedule before it probes its host, and it sends no more probes
than its schedule has delays (`OnTime`).  A listener that takes every event in before time passes
cancels a series in time: after the moment of an event that settles its address, and after the moment
of the shutdown, a series sends no probe (`Fading`), if series that are cancelled stop (`Heeds`).
-/
namespace CqlDispatch

/-! ## Series on their schedules -/

/-- Probes sent at these moments, after waits that began at those: each waits for the delay of its number. -/
def OnTime (s : Schedule) (waits probes : List Nat) : Prop :=
  ∀ k t, probes[k]? = some t → ∃ u d, waits[k]? = some u ∧ s.delay? k = some d ∧
    (d.shorter Span.longestSleep).HasPassed u t

namespace OnTime

theorem nil (s : Schedule) (waits : List Nat) : OnTime s waits [] := fun _ _ h => by cases h

theorem waits_append {s : Schedule} {waits probes : List Nat} (on : OnTime s waits probes) (more : List Nat) :
    OnTime s (waits ++ more) probes := by
  intro k t ht
  obtain ⟨u, d, hu, hd⟩ := on k t ht
  exact ⟨u, d, (List.getElem?_append_left (List.getElem?_eq_some_iff.1 hu).1).trans hu, hd⟩

theorem probe {s : Schedule} {waits probes : List Nat} (on : OnTime s waits probes) {u now : Nat} {d : Span}
    (wait : waits[probes.length]? = some u) (delay : s.delay? probes.length = some d)
    (passed : (d.shorter Span.longestSleep).HasPassed u now) : OnTime s waits (probes ++ [now]) := by
  intro k t ht
  by_cases hk : k < probes.length
  · rw [List.getElem?_append_left hk] at ht
    exact on k t ht
  · rw [List.getElem?_append_right (Nat.not_lt.1 hk), List.getElem?_singleton] at ht
    split at ht
    · rename_i hzero
      cases ht
      have hk : k = probes.length := by omega
      subst hk
      exact ⟨u, d, wait, delay, passed⟩
    · cases ht

end OnTime

/-- How far a series is on the schedule that it was given, by when it began, when its probes failed, and when it
sent them. -/
def Series.Walked (given : Schedule) (s : Series) (begun failed probes : List Nat) : Prop :=
  match s.phase with
  | .created => begun = [] ∧ failed = [] ∧ probes = [] ∧ s.schedule = given
  | .waiting wake => begun.length = 1 ∧ failed.length = probes.length ∧
      given.after? (probes.length + 1) = some s.schedule ∧
      ∃ u d, (begun ++ failed)[probes.length]? = some u ∧ given.delay? probes.length = some d ∧
        wake = u + d.sleepTicks
  | .probing => begun.length = 1 ∧ failed.length + 1 = probes.length ∧
      given.after? probes.length = some s.schedule
  | .over => begun.length ≤ 1

/-- The same of a series that may not be there yet. -/
def Series.WalkedIf (given : Schedule) (s : Option Series) (begun failed probes : List Nat) : Prop :=
  match s with
  | none => begun = [] ∧ failed = [] ∧ probes = []
  | some s => s.Walked given begun failed probes

/-- A turn of the listener leaves a series where it is on its schedule. -/
theorem Reconnector.Listens.walkedIf {b : Backoff} {w w' : Reconnector} (l : Listens b w w') {n : Nat}
    {begun failed probes : List Nat} (h : Series.WalkedIf (b.schedule n) (w.series? n) begun failed probes) :
    Series.WalkedIf (b.schedule n) (w'.series? n) begun failed probes := by
  cases hs : w.series? n with
  | some s =>
    rw [hs] at h
    rcases l.old hs with hs' | hs' <;> rw [hs']
    · exact h
    · exact h
  | none =>
    rw [hs] at h
    cases hs' : w'.series? n with
    | none => exact h
    | some s =>
      obtain ⟨hbegun, hfailed, hprobes⟩ := h
      obtain ⟨created, hschedule⟩ := l.new hs' hs
      show s.Walked (b.schedule n) begun failed probes
      simp only [Series.Walked, created]
      exact ⟨hbegun, hfailed, hprobes, hschedule⟩

def ClientEvent.isProbeOf (n : Nat) : ClientEvent → Bool
  | probe m _ => m == n
  | _ => false

namespace Client

/-! ## When a series began, failed and probed -/

def Action.begins (n : Nat) : Action → Bool
  | .beginSeries m => m == n
  | _ => false

def Action.failsProbe (n : Nat) : Action → Bool
  | .probed m (.error _) => m == n
  | _ => false

/-- When actions of a kind were performed, the earliest first. -/
def timesOf (p : Action → Bool) : List (Client × Action) → List Nat
  | [] => []
  | (c, act) :: past => timesOf p past ++ if p act then [c.now] else []

theorem timesOf_other {p : Action → Bool} {c : Client} {act : Action} {past : List (Client × Action)}
    (other : p act = false) : timesOf p ((c, act) :: past) = timesOf p past := by
  rw [timesOf, other]
  exact List.append_nil _

theorem timesOf_same {p : Action → Bool} {c : Client} {act : Action} {past : List (Client × Action)}
    (same : p act = true) : timesOf p ((c, act) :: past) = timesOf p past ++ [c.now] := by
  rw [timesOf, same]
  rfl

/-- When the waits of a series for its next probe began: first at its start, then after each failed probe. -/
def waitsOf (n : Nat) (past : List (Client × Action)) : List Nat :=
  timesOf (·.begins n) past ++ timesOf (·.failsProbe n) past

/-- When a series sent its probes, the first first. -/
def probeTimes (c : Client) (n : Nat) : List Nat :=
  ((c.journal.filter (·.event.isProbeOf n)).map (·.time)).reverse

theorem probeTimes_note (c : Client) (e : ClientEvent) (n : Nat) :
    (c.note e).probeTimes n = c.probeTimes n ++ if e.isProbeOf n then [c.now] else [] := by
  unfold probeTimes note
  cases he : e.isProbeOf n
  · simp [he]
  · simp [he]

/-- What a request notes is no probe. -/
theorem probeTimes_putBack (c : Client) (m old : Nat) (out : Shared × Request) (n : Nat) :
    (c.putBack m old out).probeTimes n = c.probeTimes n := by
  have hnone : ((freshTrace old out.2).map fun x => (⟨x.time, .request m x.event⟩ : Moment ClientEvent)).filter
      (·.event.isProbeOf n) = [] := by
    refine List.filter_eq_nil_iff.2 fun x hx => ?_
    obtain ⟨y, -, rfl⟩ := List.mem_map.1 hx
    exact Bool.false_ne_true
  unfold probeTimes putBack
  simp only [List.filter_append, hnone, List.nil_append]

/-- **A series sends probes only as it wakes.** -/
theorem step?_probeTimes {c c' : Client} {act : Action} {n : Nat} (h : c.step? act = some c')
    (still : act ≠ .wakeSeries n) : c'.probeTimes n = c.probeTimes n := by
  cases act with
  | answer | resume | speculate | expire | cancel =>
    obtain ⟨m, r, out, -, rfl, -⟩ := step?_ofRequest rfl h
    exact probeTimes_putBack c m _ out n
  | hear | beginSeries | probed | quitSeries | shutdown =>
    rw [step?_ofReconnector rfl (fun _ => Action.noConfusion) h]
    rfl
  | wakeSeries m =>
    have hne : ((m == n) = true) = False := by simpa using fun he : m = n => still (he ▸ rfl)
    obtain ⟨s, wake, -, -, -, ⟨-, rfl⟩ | ⟨-, rfl⟩⟩ := step?_wakeSeries h
    · rfl
    · rw [probeTimes_note, ClientEvent.isProbeOf, if_neg (by rw [hne]; exact id)]
      exact List.append_nil _
  | submit statement options =>
    cases h
    exact probeTimes_putBack _ _ _ _ n
  | report e =>
    cases h
    cases e <;> exact (probeTimes_note _ _ n).trans (List.append_nil _)
  | refresh report =>
    cases h
    exact (probeTimes_note _ _ n).trans (List.append_nil _)
  | addHost | setReplicationFactor | elapse =>
    cases h
    rfl

/-! ## The invariant -/

section
variable {b : Backoff} {c c' : Client} {act : Action} {past : List (Client × Action)} {n : Nat}

theorem SeriesStep.walked {s s' : Series} {exhausted : List Address} {cluster : Cluster} {probes : List Nat}
    {given : Schedule} (step : SeriesStep c n s act s' exhausted cluster) (still : act ≠ .wakeSeries n)
    (h : s.Walked given (timesOf (·.begins n) past) (timesOf (·.failsProbe n) past) probes) :
    s'.Walked given (timesOf (·.begins n) ((c, act) :: past)) (timesOf (·.failsProbe n) ((c, act) :: past)) probes := by
  have self : (n == n) = true := BEq.rfl
  cases step with
  | begins created next =>
    simp only [Series.Walked, created] at h
    obtain ⟨hbegun, hfailed, rfl, rfl⟩ := h
    obtain ⟨hdelay, hafter⟩ := Schedule.next_after? (s := s.schedule) (k := 0) rfl next
    rw [timesOf_same self, timesOf_other rfl, hbegun, hfailed]
    exact ⟨rfl, rfl, hafter, _, _, rfl, hdelay, rfl⟩
  | beginsDry created dry =>
    simp only [Series.Walked, created] at h
    rw [timesOf_same self, h.1]
    exact Nat.le_refl 1
  | wakes | wakesRemoved => exact absurd rfl still
  | succeeds probing =>
    simp only [Series.Walked, probing] at h
    rw [timesOf_other rfl]
    exact Nat.le_of_eq h.1
  | fails probing next =>
    simp only [Series.Walked, probing] at h
    obtain ⟨hbegun, hfailed, hafter⟩ := h
    obtain ⟨hdelay, hafter⟩ := Schedule.next_after? hafter next
    rw [timesOf_other rfl, timesOf_same self]
    refine ⟨hbegun, ?_, hafter, c.now, _, ?_, hdelay, rfl⟩
    · rw [List.length_append, List.length_singleton]
      exact hfailed
    · rw [← List.append_assoc, List.getElem?_append_right (by rw [List.length_append]; omega)]
      rw [List.length_append, show probes.length - _ = 0 by omega]
      rfl
  | failsDry probing dry =>
    simp only [Series.Walked, probing] at h
    rw [timesOf_other rfl]
    exact Nat.le_of_eq h.1
  | quits begun running cancelled =>
    rw [timesOf_other rfl]
    unfold Series.Walked at h
    split at h
    · rename_i created
      exact absurd created begun
    · exact Nat.le_of_eq h.1
    · exact Nat.le_of_eq h.1
    · exact h

theorem SeriesStep.created_of_begins {s s' : Series} {exhausted : List Address} {cluster : Cluster}
    (step : SeriesStep c n s act s' exhausted cluster) (begins : act.begins n = true) : s.phase = .created := by
  cases step with
  | begins created next => exact created
  | beginsDry created dry => exact created
  | wakes | wakesRemoved | succeeds | fails | failsDry | quits => cases begins

theorem SeriesStep.of_other {m : Nat} {s s' : Series} {exhausted : List Address} {cluster : Cluster}
    (step : SeriesStep c m s act s' exhausted cluster) (other : m ≠ n) :
    act.begins n = false ∧ act.failsProbe n = false := by
  cases step with
  | begins | beginsDry => exact ⟨beq_false_of_ne other, rfl⟩
  | fails | failsDry => exact ⟨rfl, beq_false_of_ne other⟩
  | wakes | wakesRemoved | succeeds | quits => exact ⟨rfl, rfl⟩

/-- The series of this number, if there is one, is on time and where its schedule has it. -/
def Walks (b : Backoff) (past : List (Client × Action)) (c : Client) (n : Nat) : Prop :=
  OnTime (b.schedule n) (waitsOf n past) (c.probeTimes n) ∧
    Series.WalkedIf (b.schedule n) (c.reconnector.series? n) (timesOf (·.begins n) past) (timesOf (·.failsProbe n) past)
      (c.probeTimes n)

/-- A wait that begins now is the last, unless no probe was sent yet. -/
theorem onTime_later {given : Schedule} {probes : List Nat} (on : OnTime given (waitsOf n past) probes)
    (begun : act.begins n = true → probes = []) : OnTime given (waitsOf n ((c, act) :: past)) probes := by
  cases hb : act.begins n with
  | true =>
    rw [begun hb]
    exact .nil _ _
  | false =>
    have hwaits : waitsOf n ((c, act) :: past) = waitsOf n past ++ if act.failsProbe n then [c.now] else [] := by
      unfold waitsOf
      rw [timesOf_other hb, timesOf, List.append_assoc]
    rw [hwaits]
    exact on.waits_append _

/-- What neither begins the series nor fails its probe leaves it where it is. -/
theorem Walks.quiet (w : Walks b past c n) (begins : act.begins n = false) (fails : act.failsProbe n = false)
    (probes : c'.probeTimes n = c.probeTimes n)
    (same : Series.WalkedIf (b.schedule n) (c'.reconnector.series? n) (timesOf (·.begins n) past) (timesOf (·.failsProbe n) past)
      (c.probeTimes n)) : Walks b ((c, act) :: past) c' n := by
  unfold Walks
  rw [probes, timesOf_other begins, timesOf_other fails]
  exact ⟨onTime_later w.1 fun ht => Bool.noConfusion (begins.symm.trans ht), same⟩

/-- A series that wakes has waited out its delay: it probes, or is over. -/
theorem Walks.wakes (w : Walks b past c n) (h : c.step? (.wakeSeries n) = some c') :
    Walks b ((c, .wakeSeries n) :: past) c' n := by
  obtain ⟨on, at'⟩ := w
  obtain ⟨s, wake, found, waiting, due, hc⟩ := step?_wakeSeries h
  have hset : ∀ s', Reconnector.series? { c.reconnector with series := c.reconnector.series.set n s' } n = some s' :=
    fun s' => List.getElem?_set_self (List.getElem?_eq_some_iff.1 found).1
  have hwaits : waitsOf n ((c, .wakeSeries n) :: past) = waitsOf n past := by
    unfold waitsOf
    rw [timesOf_other rfl, timesOf_other rfl]
  rw [found] at at'
  simp only [Series.WalkedIf, Series.Walked, waiting] at at'
  obtain ⟨hbegun, hfailed, hafter, u, d, hu, hd, rfl⟩ := at'
  unfold Walks
  rw [hwaits, timesOf_other rfl, timesOf_other rfl]
  rcases hc with ⟨-, hc⟩ | ⟨-, hc⟩
  · have hs : c'.reconnector.series? n = some { s with phase := .over } := by
      rw [hc]
      exact hset _
    have hprobes : c'.probeTimes n = c.probeTimes n := by
      rw [hc]
      rfl
    rw [hs, hprobes]
    exact ⟨on, Nat.le_of_eq hbegun⟩
  · have hs : c'.reconnector.series? n = some { s with phase := .probing, probes := s.probes + 1 } := by
      rw [hc]
      exact hset _
    have hself : (ClientEvent.probe n s.address).isProbeOf n = true := BEq.rfl
    have hprobes : c'.probeTimes n = c.probeTimes n ++ [c.now] := by
      rw [hc, probeTimes_note, if_pos hself]
      rfl
    rw [hs, hprobes]
    refine ⟨on.probe hu hd (Span.hasPassed_sleep due), hbegun, ?_, ?_⟩
    · rw [List.length_append]
      exact congrArg (· + 1) hfailed
    · rw [List.length_append]
      exact hafter

/-- **Every step keeps every series on its schedule.** -/
theorem Walks.step (i : Steady b c) (h : c.step? act = some c') (w : Walks b past c n) :
    Walks b ((c, act) :: past) c' n := by
  by_cases hwake : act = .wakeSeries n
  · subst hwake
    exact w.wakes h
  have hprobes := step?_probeTimes h hwake
  have effect := step?_effect h
  generalize hw : c'.reconnector = v at effect
  generalize c'.shared.cluster = cluster at effect
  cases effect with
  | elsewhere apart =>
    refine w.quiet ?_ ?_ hprobes (hw ▸ w.2)
    all_goals cases act <;> first | rfl | cases apart
  | stops => exact w.quiet rfl rfl hprobes (hw ▸ w.2)
  | hears news =>
    rw [i.policy] at hw
    exact w.quiet rfl rfl hprobes (hw ▸ (Reconnector.Listens.hear b news i.heard).walkedIf w.2)
  | @series _ m s s' exhausted _ found step =>
    have hseries : c'.reconnector.series? n = (c.reconnector.series.set m s')[n]? := by
      rw [hw]
      rfl
    by_cases hm : m = n
    · subst hm
      obtain ⟨on, at'⟩ := w
      rw [found] at at'
      unfold Walks
      rw [hprobes, hseries, List.getElem?_set_self (List.getElem?_eq_some_iff.1 found).1]
      refine ⟨onTime_later on fun begins => ?_, ?_⟩
      · have created := step.created_of_begins begins
        simp only [Series.WalkedIf, Series.Walked, created] at at'
        exact at'.2.2.1
      · exact step.walked hwake at'
    · obtain ⟨hb, hf⟩ := step.of_other hm
      refine w.quiet hb hf hprobes ?_
      rw [hseries, List.getElem?_set_ne hm]
      exact w.2

theorem Walks.begun_le (w : Walks b past c n) : (timesOf (·.begins n) past).length ≤ 1 := by
  obtain ⟨-, at'⟩ := w
  unfold Series.WalkedIf at at'
  split at at'
  · rw [at'.1]
    exact Nat.zero_le 1
  · unfold Series.Walked at at'
    split at at'
    · rw [at'.1]
      exact Nat.zero_le 1
    · exact Nat.le_of_eq at'.1
    · exact Nat.le_of_eq at'.1
    · exact at'

/-! ## The last probe of a series -/

/-- Time passes only when the listener has nothing left to do. -/
def Prompt (c : Client) : Action → Prop
  | .elapse _ => c.reconnector.isBusy c.registry = false
  | _ => True

/-- The series whose wait an action ends. -/
def Action.goesOn? : Action → Option Nat
  | .wakeSeries n | .probed n _ => some n
  | _ => none

/-- A series that was cancelled does not go on where it can stop. -/
def Heeds (c : Client) (act : Action) : Prop :=
  ∀ n ∈ act.goesOn?, ∀ s ∈ c.reconnector.series? n, c.reconnector.isCancelled s = false

instance (c : Client) (act : Action) : Decidable (c.Heeds act) :=
  inferInstanceAs (Decidable (∀ n ∈ act.goesOn?, ∀ s ∈ c.reconnector.series? n, _))

/-- A probe is sent now, by a series that wakes, or was sent before. -/
theorem step?_probe {t : Nat} (h : c.step? act = some c') (ht : t ∈ c'.probeTimes n) :
    t ∈ c.probeTimes n ∨ t = c.now ∧ act = .wakeSeries n ∧
      ∃ s, c.reconnector.series? n = some s ∧ s.phase ≠ .over := by
  by_cases hwake : act = .wakeSeries n
  · subst hwake
    obtain ⟨s, wake, found, waiting, -, ⟨-, rfl⟩ | ⟨-, rfl⟩⟩ := step?_wakeSeries h
    · exact .inl ht
    · rw [probeTimes_note] at ht
      refine (List.mem_append.1 ht).imp_right fun ht => ?_
      split at ht
      · exact ⟨List.mem_singleton.1 ht, rfl, s, found, waiting ▸ SeriesPhase.noConfusion⟩
      · cases ht
  · exact .inl (step?_probeTimes h hwake ▸ ht)

/-- A series that sends a probe is live, and the reconnector was not stopped, if series that are cancelled stop. -/
theorem Heeds.live {t : Nat} (heeds : c.Heeds act) (h : c.step? act = some c') (ht : t ∈ c'.probeTimes n) :
    t ∈ c.probeTimes n ∨
      t = c.now ∧ c.reconnector.stopped = false ∧ ∃ s, c.reconnector.series? n = some s ∧ s.IsLive := by
  refine (step?_probe h ht).imp_right fun ⟨hnow, hact, s, found, running⟩ => ?_
  have goesOn := heeds n (by rw [hact]; rfl) s found
  exact ⟨hnow, (Bool.or_eq_false_iff.1 goesOn).2, s, found, running, not_cancelled goesOn⟩

theorem Effect.stopped {w : Reconnector} {cluster : Cluster} (effect : Effect c act w cluster)
    (heard : c.reconnector.heard ≤ c.registry.log.length) (stopped : c.reconnector.stopped = true) :
    w.stopped = true := by
  cases effect with
  | elsewhere | series => exact stopped
  | stops => rfl
  | hears news => exact (progress_hear news heard).2.2.trans stopped

/-- Since the moment of another client a series of the address sent no probe: an event that settles it
is to be taken in at that very moment, or the reconnector was stopped, or the series is not live any more. -/
def Fading (n : Nat) (a : Address) (d c : Client) : Prop :=
  (∀ t ∈ c.probeTimes n, t ≤ d.now) ∧
    (c.now = d.now ∧ Settled a (c.reconnector.unheard c.registry) ∨ c.reconnector.stopped = true ∨
      ∀ s ∈ c.reconnector.series? n, ¬ s.IsLive)

/-- **An event that settles an address is still to be taken in, or the series of the address is not live**, if it
is not adrift. -/
theorem Supervised.settled (v : Supervised b past c) (h : c.step? act = some c') {s : Series}
    (found : c.reconnector.series? n = some s) (ashore : ¬ Adrift n ((c, act) :: past))
    (settled : Settled s.address (c.reconnector.unheard c.registry)) :
    Settled s.address (c'.reconnector.unheard c'.registry) ∨ ∀ x ∈ c'.reconnector.series? n, ¬ x.IsLive := by
  have i := v.steady
  by_cases hact : act = .hear
  · subst hact
    simp only [step?, Option.ite_none_right_eq_some, Option.some.injEq, i.policy] at h
    obtain ⟨news, rfl⟩ := h
    by_cases live : ∃ x ∈ (c.reconnector.hear b c.registry).series? n, x.IsLive
    · obtain ⟨x, hx, live⟩ := live
      obtain rfl := (Reconnector.Listens.hear b news i.heard).isLive found hx live
      exact .inl ((v.followed.settled i news found hx live settled).resolve_right ashore)
    · exact .inr fun x hx hlive => live ⟨x, hx, hlive⟩
  · rw [i.unheard_told hact h, settled_append]
    exact .inl (.inr settled)

/-- **No step lets a series probe again whose address is settled**, if time passes only when the listener has
nothing left to do, series that are cancelled stop, and the series is not adrift. -/
theorem Fading.step {d : Client} {s : Series} (v : Supervised b past c) (prompt : c.Prompt act) (heeds : c.Heeds act)
    (h : c.step? act = some c') (found : c.reconnector.series? n = some s) (ashore : ¬ Adrift n ((c, act) :: past))
    (f : Fading n s.address d c) : Fading n s.address d c' := by
  obtain ⟨hsent, hfades⟩ := f
  have heard := v.steady.heard
  refine ⟨fun t ht => ?_, ?_⟩
  · rcases heeds.live h ht with ht | ⟨rfl, hgoes, x, hx, live⟩
    · exact hsent t ht
    · rcases hfades with ⟨hnow, -⟩ | hstopped | hidle
      · exact Nat.le_of_eq hnow
      · cases hstopped.symm.trans hgoes
      · exact absurd live (hidle x hx)
  have effect := step?_effect h
  rcases hfades with ⟨hnow, hsettled⟩ | hstopped | hidle
  · have htime := (step?_keeps h).2
    by_cases hmillis : act.millis = 0
    · rw [hmillis, Nat.add_zero, hnow] at htime
      rcases v.settled h found ashore hsettled with settled | ended
      · exact .inl ⟨htime, settled⟩
      · exact .inr (.inr ended)
    · cases act with
      | elapse millis =>
        cases hstopped : c.reconnector.stopped with
        | true => exact .inr (.inl (effect.stopped heard hstopped))
        | false =>
          obtain ⟨e, he, -⟩ := hsettled
          rw [(Reconnector.caught_up (Reconnector.quiet_of_not_busy prompt hstopped)).2] at he
          cases he
      | _ => exact absurd rfl hmillis
  · exact .inr (.inl (effect.stopped heard hstopped))
  · obtain ⟨s', hs', -, -, hback⟩ := effect.later heard found
    refine .inr (.inr fun x hx live => hidle s found ?_)
    cases hs'.symm.trans hx
    exact hback live

end

/-! ## Runs -/

/-- Time passes only when the listener has nothing left to do, and it skips nothing; and no cancelled series of the
address runs out of its schedule. -/
structure Undisturbed (a : Address) (x : Client × Action) : Prop where
  lossless : ¬ x.1.Lags x.2
  timely : ¬ x.1.RunsOutLate a x.2
  prompt : x.1.Prompt x.2

/-- What holds of the probes of a client all along a run. -/
structure Paced (b : Backoff) (past : List (Client × Action)) (c : Client) : Prop where
  supervised : Supervised b past c
  walks : ∀ n, Walks b past c n
  sent : ∀ n, ∀ t ∈ c.probeTimes n, t ≤ c.now
  fading : (∀ x ∈ past, x.1.Heeds x.2) → ∀ d ∈ c :: past.map (·.1), ∀ n s, d.reconnector.series? n = some s →
    (∀ x ∈ past, Undisturbed s.address x) → Settled s.address (d.reconnector.unheard d.registry) →
    Fading n s.address d c ∧ ∃ s', c.reconnector.series? n = some s' ∧ s'.address = s.address
  stopped : (∀ x ∈ past, x.1.Heeds x.2) → ∀ d, (d, .shutdown) ∈ past →
    c.reconnector.stopped = true ∧ ∀ n, ∀ t ∈ c.probeTimes n, t ≤ d.now

theorem paced_connect {policies : Policies} {defaults : QueryDefaults} {limits : Limits} {contacts : List Address}
    {report : Except Failure (List Translated)} {c : Client}
    (h : connect policies defaults limits contacts report = .ok c) : Paced policies.backoff [] c := by
  have hw := (connect_changes h).2
  have hprobes : ∀ n, c.probeTimes n = [] := fun n => by
    rw [connect_eq h]
    exact (probeTimes_note _ _ n).trans (List.append_nil _)
  have hnone : ∀ n, c.reconnector.series? n = none := fun n => by
    rw [hw]
    rfl
  refine ⟨supervised_connect h, fun n => ?_, fun n t ht => ?_, fun _ d hd n s found => ?_,
    fun _ d hd => absurd hd List.not_mem_nil⟩
  · unfold Walks
    rw [hprobes, hnone]
    exact ⟨.nil _ _, rfl, rfl, rfl⟩
  · rw [hprobes] at ht
    cases ht
  · cases List.mem_singleton.1 hd
    rw [hnone] at found
    cases found

theorem Paced.step {b : Backoff} {past : List (Client × Action)} {c c' : Client} {act : Action}
    (p : Paced b past c) (h : c.step? act = some c') : Paced b ((c, act) :: past) c' := by
  have v := p.supervised
  have v' := v.step h
  have effect := step?_effect h
  have hnow : c.now ≤ c'.now := (step?_keeps h).2 ▸ Nat.le_add_right _ _
  have hsent : ∀ n, ∀ t ∈ c'.probeTimes n, t ≤ c'.now := by
    intro n t ht
    rcases step?_probe h ht with ht | ⟨rfl, -⟩
    · exact Nat.le_trans (p.sent n t ht) hnow
    · exact hnow
  refine ⟨v', fun n => (p.walks n).step v.steady h, hsent, fun heeds d hd n s found kept settled => ?_,
    fun heeds d hd => ?_⟩
  · obtain ⟨hheeds, heeds⟩ := List.forall_mem_cons.1 heeds
    rcases List.mem_cons.1 hd with rfl | hd
    · exact ⟨⟨hsent n, .inl ⟨rfl, settled⟩⟩, s, found, rfl⟩
    · obtain ⟨hkept, hearlier⟩ := List.forall_mem_cons.1 kept
      obtain ⟨f, t, ht, hta⟩ := p.fading heeds d hd n s found hearlier settled
      obtain ⟨t', ht', -, hta', -⟩ := effect.later v.steady.heard ht
      have sound := v'.sound (fun x hx => (kept x hx).lossless) s.address fun x hx => (kept x hx).timely
      have ashore := sound.not_adrift ht' (hta'.trans hta)
      exact ⟨hta ▸ Fading.step v hkept.prompt hheeds h ht ashore (hta ▸ f), t', ht', hta'.trans hta⟩
  · obtain ⟨hheeds, heeds⟩ := List.forall_mem_cons.1 heeds
    rcases List.mem_cons.1 hd with he | hd
    · cases he
      cases h
      exact ⟨rfl, fun n t ht => p.sent n t ht⟩
    · obtain ⟨hstopped, hlast⟩ := p.stopped heeds d hd
      refine ⟨effect.stopped v.steady.heard hstopped, fun n t ht => ?_⟩
      rcases hheeds.live h ht with ht | ⟨-, hgoes, -⟩
      · exact hlast n t ht
      · cases hstopped.symm.trans hgoes

/-- What can be counted on of the series of a client whose listener skips nothing. -/
structure InPace (b : Backoff) (past : List (Client × Action)) (c : Client) : Prop where
  /-- An address has at most one live series, if no cancelled one ran out of its schedule. -/
  unique : ∀ {m n s t}, c.reconnector.series? m = some s → c.reconnector.series? n = some t →
    s.address = t.address → s.IsLive → t.IsLive → (∀ x ∈ past, ¬ x.1.RunsOutLate s.address x.2) → m = n
  /-- Each series begins once, and walks the schedule of its number. -/
  once : ∀ n, (timesOf (·.begins n) past).length ≤ 1
  onTime : ∀ n, OnTime (b.schedule n) (waitsOf n past) (c.probeTimes n)
  bounded : ∀ n k, (b.schedule n).delay? k = none → (c.probeTimes n).length ≤ k
  /-- Once a schedule of it ran out, an address has no live series, if no cancelled one ran out, and none is
  started. -/
  spent : ∀ a, SpentAt a past →
    ((∀ x ∈ past, ¬ x.1.RunsOutLate a x.2) → ∀ s ∈ c.reconnector.series, s.address = a → ¬ s.IsLive) ∧
    ∀ act c', ¬ c.Lags act → c.step? act = some c' →
      ∀ s ∈ Reconnector.startedSince c.reconnector c'.reconnector, s.address ≠ a
  /-- From the moment at which an event that settles its address is told, a series sends no probe later, if no
  cancelled series of the address ran out. -/
  settled : (∀ x ∈ past, x.1.Prompt x.2) → ∀ d ∈ c :: past.map (·.1), ∀ n s, d.reconnector.series? n = some s →
    (∀ x ∈ past, ¬ x.1.RunsOutLate s.address x.2) →
    Settled s.address (d.reconnector.unheard d.registry) → ∀ t ∈ c.probeTimes n, t ≤ d.now
  stopped : ∀ d, (d, .shutdown) ∈ past → ∀ n, ∀ t ∈ c.probeTimes n, t ≤ d.now

/-- **Series keep their pace**, whatever happens to hosts and whatever probes are answered, as long as the
listener skips nothing and series that are cancelled stop. -/
theorem series_in_pace {policies : Policies} {defaults : QueryDefaults} {limits : Limits}
    {contacts : List Address} {report : Except Failure (List Translated)} {c₀ c : Client} {actions : List Action}
    (connected : connect policies defaults limits contacts report = .ok c₀) (ran : c₀.run? actions = some c)
    (lossless : ∀ x ∈ c₀.past actions, ¬ x.1.Lags x.2) (heeds : ∀ x ∈ c₀.past actions, x.1.Heeds x.2) :
    InPace policies.backoff (c₀.past actions) c := by
  have p : Paced policies.backoff (c₀.past actions ++ []) c :=
    run?_keeps (I := Paced policies.backoff) (A := fun _ => True) (fun _ p h => p.step h) (fun _ _ => trivial)
      (paced_connect connected) ran
  rw [List.append_nil] at p
  obtain ⟨i, f, sound, marked⟩ := p.supervised
  refine ⟨fun {m n s t} hs ht same live live' timely => ?_, fun n => (p.walks n).begun_le, fun n => (p.walks n).1,
    fun n k hk => ?_, fun a spent => ⟨fun timely s hs ha => ?_, fun act c' keeps h s hstart ha => ?_⟩,
    fun prompt d hd n s found timely settled => ?_, fun d hd => (p.stopped heeds d hd).2⟩
  · have k := sound lossless s.address timely
    exact (f.listed m (k.not_adrift hs rfl)).unique (f.listed n (k.not_adrift ht same.symm)) hs ht same live live'
  · refine Nat.le_of_not_lt fun hlt => ?_
    obtain ⟨u, d, -, hd, -⟩ := (p.walks n).1 k _ (List.getElem?_eq_getElem hlt)
    rw [hk] at hd
    cases hd
  · obtain ⟨n, found⟩ := List.mem_iff_getElem?.1 hs
    exact (sound lossless a timely).spent (marked a spent) n s found ha
  · exact keeps ((i.starts_iff (marked a spent) h).1 ⟨s, hstart, ha⟩).1
  · exact (p.fading heeds d hd n s found (fun x hx => ⟨lossless x hx, timely x hx, prompt x hx⟩) settled).1.1

/-- The local host goes down and is probed after each second; the second probe is answered. -/
def backAfterTwo : List Action :=
  [.hear, .report (.hostDown ⟨.v4 0x0a000001, 9042⟩ "reset"), .hear, .beginSeries 0, .hear, .elapse 1000,
    .wakeSeries 0, .probed 0 (.error (.connection "refused")), .elapse 1000, .wakeSeries 0, .probed 0 (.ok ()),
    .hear, .elapse 1000]

theorem down_host_probed_in_pace :
    ∃ c₀ c, connect oneRemote {} {} [] (.ok threePeers) = .ok c₀ ∧ c₀.run? backAfterTwo = some c ∧
      c.probeTimes 0 = [1000, 2000] ∧ waitsOf 0 (c₀.past backAfterTwo) = [0, 1000] ∧
      InPace oneRemote.backoff (c₀.past backAfterTwo) c := by
  have h := @series_in_pace oneRemote {} {} [] (.ok threePeers) _ _ backAfterTwo rfl rfl (by decide) (by decide)
  exact ⟨_, _, rfl, rfl, rfl, rfl, h⟩

/-- A host is probed after thirty years and a second. -/
def generation : Policies := { balancer := .roundRobin none 0, backoff := .constant (.ofSeconds 946080001) }

def wokenEarly : List Action :=
  [.hear, .report (.hostDown ⟨.v4 0x0a000001, 9042⟩ "reset"), .hear, .beginSeries 0, .elapse 946080000000,
    .wakeSeries 0]

/-- The first schedule of a host has no delay, and the others wait a second. -/
def emptyAtFirst : Policies :=
  { balancer := .roundRobin none 0, backoff := .custom fun n _ => if n = 0 then none else some (.ofSeconds 1) }

/-- The first series of a host begins after the second, and marks the host. -/
def markedByPredecessor : List Action :=
  [.hear, .report (.hostDown ⟨.v4 0x0a000001, 9042⟩ "reset"), .report (.hostUp ⟨.v4 0x0a000001, 9042⟩),
    .report (.hostDown ⟨.v4 0x0a000001, 9042⟩ "reset"), .hear, .hear, .hear, .beginSeries 1, .beginSeries 0, .hear, .hear,
    .report (.hostUp ⟨.v4 0x0a000001, 9042⟩), .report (.hostDown ⟨.v4 0x0a000001, 9042⟩ "reset"), .hear, .hear,
    .beginSeries 2]

/-- **A delay of more than thirty years is cut short.**  And where a cancelled series runs out of its schedule, its
address may have two that walk theirs. -/
theorem long_delay_cut_short :
    (¬ ∀ {policies : Policies} {defaults : QueryDefaults} {limits : Limits} {contacts : List Address}
      {report : Except Failure (List Translated)} {c₀ c : Client} {actions : List Action},
      connect policies defaults limits contacts report = .ok c₀ → c₀.run? actions = some c →
      (∀ x ∈ c₀.past actions, ¬ x.1.Lags x.2) → (∀ x ∈ c₀.past actions, x.1.Heeds x.2) →
      ∀ n k t, (c.probeTimes n)[k]? = some t → ∃ u d, (waitsOf n (c₀.past actions))[k]? = some u ∧
        (policies.backoff.schedule n).delay? k = some d ∧ d.HasPassed u t) ∧
    ¬ ∀ {policies : Policies} {defaults : QueryDefaults} {limits : Limits} {contacts : List Address}
      {report : Except Failure (List Translated)} {c₀ c : Client} {actions : List Action},
      connect policies defaults limits contacts report = .ok c₀ → c₀.run? actions = some c →
      (∀ x ∈ c₀.past actions, ¬ x.1.Lags x.2) → (∀ x ∈ c₀.past actions, x.1.Heeds x.2) →
      ∀ m n s t, c.reconnector.series? m = some s → c.reconnector.series? n = some t → s.address = t.address →
      s.IsLive → t.IsLive → m = n := by
  constructor
  · intro always
    obtain ⟨u, d, hu, hd, hpassed⟩ := @always generation {} {} [] (.ok threePeers) _ _ wokenEarly rfl rfl (by decide)
      (by decide) 0 0 946080000000 rfl
    cases hu
    cases hd
    exact absurd hpassed (by decide)
  · intro always
    have hsame := @always emptyAtFirst {} {} [] (.ok threePeers) _ _ markedByPredecessor rfl rfl (by decide) (by decide)
      1 2 _ _ rfl rfl rfl (by decide) (by decide)
    exact absurd hsame (by decide)

end Client

end CqlDispatch
