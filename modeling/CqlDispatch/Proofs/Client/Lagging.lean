import CqlDispatch.Proofs.Client.Steady
/-!
# Series that are adrift

A listener that falls behind by more than its mailbox holds skips the oldest events and looks at the registry
instead.  The look starts series, but it cancels none, and it does not ask which addresses are marked.  And a
listener that hears that the host of a marked address went down drops what the books list for the address, which
may be a live series.  So a series may outlive the events that would have cancelled it: it is adrift (`Adrift`).
Any other series that is not cancelled is of a host that is not up, once the listener has caught up
(`caught_up_series_wanting`).  Where the listener skips nothing, only the schedule of a series that was cancelled
can set another series adrift, by running out (`Sound`).
-/
namespace CqlDispatch
namespace Client

open Reconnector (Listed)

/-! ## Turns of the listener -/

/-- The events that the listener skips in a step, the newest first. -/
def skips (c : Client) (act : Action) : List HostEvent :=
  if c.Lags act then (c.reconnector.unheard c.registry).drop mailbox else []

section
variable {b : Backoff} {c c' : Client} {act : Action}

theorem skips_of_not_lags (keeps : ¬ c.Lags act) : c.skips act = [] := if_neg keeps

/-- **A turn of the listener** is its first look at the registry, a look instead of the events that it skips,
or the next event. -/
theorem Steady.turn_cases (i : Steady b c) (news : c.reconnector.hasNews c.registry = true) :
    (c.reconnector.awake = false ∧ ¬ c.Lags .hear ∧ c.reconnector.hear b c.registry =
      { c.reconnector with awake := true }.resync b c.registry) ∨
    (c.Lags .hear ∧ (∃ heard, c.reconnector.hear b c.registry =
        { c.reconnector with heard := heard }.resync b c.registry) ∧
      c.reconnector.unheard c.registry =
        (c.reconnector.hear b c.registry).unheard c.registry ++ c.skips .hear) ∨
    (¬ c.Lags .hear ∧ ∃ e, c.takesIn? .hear = some e ∧
      c.reconnector.unheard c.registry = (c.reconnector.hear b c.registry).unheard c.registry ++ [e] ∧
      c.reconnector.hear b c.registry =
        { c.reconnector with heard := c.reconnector.heard + 1 }.handle b c.registry e) := by
  cases hawake : c.reconnector.awake with
  | false =>
    refine .inl ⟨rfl, fun lags => ?_, ?_⟩
    · cases hawake.symm.trans lags.1
    · unfold Reconnector.hear
      simp only [hawake, Bool.not_false, if_true]
  | true =>
    by_cases lags : mailbox < c.registry.log.length - c.reconnector.heard
    · have hturn : c.reconnector.hear b c.registry =
          { c.reconnector with heard := c.registry.log.length - mailbox }.resync b c.registry := by
        unfold Reconnector.hear
        simp only [hawake, lags, Bool.false_eq_true, if_false, Bool.not_true, if_true]
      refine .inr (.inl ⟨⟨hawake, lags⟩, ⟨_, hturn⟩, ?_⟩)
      have hheard : (c.reconnector.hear b c.registry).heard = c.registry.log.length - mailbox := by
        rw [hturn]
        exact congrArg (·.1) (Reconnector.progress_resync _ b c.registry)
      have hkept : (c.reconnector.hear b c.registry).unheard c.registry =
          (c.reconnector.unheard c.registry).take mailbox := by
        unfold Reconnector.unheard
        rw [hheard, List.take_take]
        exact congrArg (c.registry.log.take ·) (by omega)
      rw [hkept, skips, if_pos ⟨hawake, lags⟩, List.take_append_drop]
    · refine .inr (.inr ⟨fun hl => lags hl.2, ?_⟩)
      have hsync : c.reconnector.resyncs c.registry = false := by
        unfold Reconnector.resyncs
        simpa [hawake] using lags
      rcases Reconnector.hear_cases b news i.heard with ⟨hs, -⟩ | ⟨-, -, -, e, hunheard, he⟩
      · cases hsync.symm.trans hs
      · refine ⟨e, takesIn?_hear hsync hunheard, ?_, he⟩
        rw [he, Reconnector.unheard_handle]
        exact hunheard

/-! ## Series that are adrift -/

/-- The series of this number was live when the listener skipped an event that settles its address, or dropped the
entry of the address. -/
def Adrift (n : Nat) (past : List (Client × Action)) : Prop :=
  ∃ x ∈ past, ∃ s ∈ x.1.reconnector.series? n,
    s.IsLive ∧ (Settled s.address (x.1.skips x.2) ∨ x.1.Drops s.address x.2)

instance (n : Nat) (past : List (Client × Action)) : Decidable (Adrift n past) :=
  inferInstanceAs (Decidable (∃ x ∈ past, ∃ s ∈ x.1.reconnector.series? n, _))

theorem Adrift.later {n : Nat} {past : List (Client × Action)} (adrift : Adrift n past) (x : Client × Action) :
    Adrift n (x :: past) := by
  obtain ⟨y, hy, h⟩ := adrift
  exact ⟨y, List.mem_cons_of_mem _ hy, h⟩

/-- What holds of the series that are live, however far the listener is behind. -/
structure Followed (past : List (Client × Action)) (c : Client) : Prop where
  listed : ∀ n, ¬ Adrift n past → Listed n c.reconnector
  wanting : ∀ n s, c.reconnector.series? n = some s → s.IsLive →
    Settled s.address (c.reconnector.unheard c.registry) ∨ Adrift n past ∨ c.Wanting s.host

/-- A series that is live after a turn of the listener has the event yet to hear of that settles its address, or
it is adrift. -/
theorem Followed.settled {past : List (Client × Action)} (f : Followed past c) (i : Steady b c)
    (news : c.reconnector.hasNews c.registry = true) {n : Nat} {s : Series}
    (hold : c.reconnector.series? n = some s) (found : (c.reconnector.hear b c.registry).series? n = some s)
    (live : s.IsLive) (settled : Settled s.address (c.reconnector.unheard c.registry)) :
    Settled s.address ((c.reconnector.hear b c.registry).unheard c.registry) ∨ Adrift n ((c, .hear) :: past) := by
  rcases i.turn_cases news with ⟨asleep, -⟩ | ⟨-, -, hunheard⟩ | ⟨-, e, -, hunheard, he⟩
  · unfold Reconnector.series? at hold
    rw [(i.asleep asleep).1] at hold
    cases hold
  · rw [hunheard, settled_append] at settled
    exact settled.imp_right fun skipped => ⟨_, List.mem_cons_self, s, hold, live, .inl skipped⟩
  · rw [hunheard, settled_append] at settled
    refine settled.imp_right fun ⟨x, hx, hsettles⟩ => ?_
    cases List.mem_singleton.1 hx
    by_contra ashore
    -- The books list it then, and the event that was taken in cancelled it.
    have k : Listed n { c.reconnector with heard := c.reconnector.heard + 1 } :=
      f.listed n fun adrift => ashore (adrift.later _)
    rw [he] at found
    exact k.settled b c.registry hsettles found rfl live

/-- A series that a turn of the listener starts is of a host that is not up, or its address is settled behind it. -/
theorem Steady.wanting_of_new (i : Steady b c) (news : c.reconnector.hasNews c.registry = true) {n : Nat} {s : Series}
    (found : (c.reconnector.hear b c.registry).series? n = some s) (new : c.reconnector.series? n = none) :
    Settled s.address ((c.reconnector.hear b c.registry).unheard c.registry) ∨ c.Wanting s.host := by
  have wf := i.built.wellFormed
  have looked : ∀ {w : Reconnector}, (w.resync b c.registry).series? n = some s → w.series? n = none →
      c.Wanting s.host := fun found new => by
    obtain ⟨registered, hdown, -⟩ := Reconnector.new_of_resync found new
    exact ⟨registered, hdown ▸ HostState.noConfusion⟩
  rcases i.turn_cases news with ⟨-, -, he⟩ | ⟨-, ⟨heard, he⟩, -⟩ | ⟨-, e, -, hunheard, he⟩
  · rw [he] at found
    exact .inr (looked found new)
  · rw [he] at found
    exact .inr (looked found new)
  · have replays := i.built.replays
    rw [Registry.Replays, show c.shared.cluster.registry = c.registry from rfl,
      Reconnector.log_of_unheard hunheard] at replays
    rw [he] at found
    obtain ⟨-, ⟨reason, rfl⟩, known, -⟩ := Reconnector.new_of_handle wf found new
    refine (broken_of_down replays).imp_right fun broken => ?_
    rw [← wf.find?_address known] at broken
    exact wanting_of_broken wf (Registry.mem_ids_of_find? known) broken

/-- **Every step follows the series that are live.** -/
theorem Followed.step {past : List (Client × Action)} (f : Followed past c) (i : Steady b c)
    (h : c.step? act = some c') : Followed ((c, act) :: past) c' := by
  refine ⟨fun n ashore => ?_, fun n s found live => ?_⟩
  · exact (step?_effect h).listed i.heard (f.listed n fun adrift => ashore (adrift.later _))
      fun s hs live drops => ashore ⟨_, List.mem_cons_self, s, hs, live, .inr drops⟩
  · by_cases hact : act = .hear
    · subst hact
      simp only [step?, Option.ite_none_right_eq_some, Option.some.injEq, i.policy] at h
      obtain ⟨news, rfl⟩ := h
      have found : (c.reconnector.hear b c.registry).series? n = some s := found
      cases hold : c.reconnector.series? n with
      | none => exact (i.wanting_of_new news found hold).imp_right .inr
      | some s₀ =>
        obtain rfl := (Reconnector.Listens.hear b news i.heard).isLive hold found live
        rcases f.wanting n s hold live with settled | adrift | wanting
        · exact (f.settled i news hold found live settled).imp_right .inl
        · exact .inr (.inl (adrift.later _))
        · exact .inr (.inr wanting)
    · -- Only a turn of the listener starts series, so this one was there and live.
      obtain ⟨s₀, hold, hhost, ha, hback⟩ := i.earlier hact h found
      rw [i.unheard_told hact h, settled_append, settled_reverse, hhost, ha]
      rcases f.wanting n s₀ hold (hback live) with settled | adrift | wanting
      · exact .inl (.inr settled)
      · exact .inr (.inl (adrift.later _))
      · have haddress := (i.tidy.series s₀ (Reconnector.mem_of_series? hold)).2
        rcases wanting.step i.built h with settled | wanting
        · exact .inl (.inl (haddress ▸ settled))
        · exact .inr (.inr wanting)

theorem followed_connect {policies : Policies} {defaults : QueryDefaults} {limits : Limits}
    {contacts : List Address} {report : Except Failure (List Translated)}
    (h : connect policies defaults limits contacts report = .ok c) : Followed [] c := by
  have none : ∀ n s, c.reconnector.series? n ≠ some s := fun n s => by
    rw [(connect_changes h).2]
    exact nofun
  exact ⟨fun n _ s hs => absurd hs (none n s), fun n s hs => absurd hs (none n s)⟩

/-! ## Where the listener skips nothing -/

/-- A series of the address has to go on and has no delay left, although it was cancelled. -/
def RunsOutLate (c : Client) (a : Address) (act : Action) : Prop :=
  ∃ n ∈ act.sentOn?, ∃ s ∈ c.reconnector.series? n, s.address = a ∧ s.cancelled = true ∧ s.schedule.next = none

instance (c : Client) (a : Address) (act : Action) : Decidable (c.RunsOutLate a act) :=
  inferInstanceAs (Decidable (∃ n ∈ act.sentOn?, ∃ s ∈ c.reconnector.series? n, _))

/-- The mark of an address is right about it: where it is marked it has no live series.  And no series of it is
adrift. -/
structure Sound (a : Address) (past : List (Client × Action)) (c : Client) : Prop where
  spent : a ∈ c.reconnector.exhausted → ∀ n s, c.reconnector.series? n = some s → s.address = a → ¬ s.IsLive
  ashore : ∀ n, Adrift n past → ∃ s, c.reconnector.series? n = some s ∧ s.address ≠ a

section
variable {a : Address} {past : List (Client × Action)}

theorem Sound.not_adrift (k : Sound a past c) {n : Nat} {s : Series} (found : c.reconnector.series? n = some s)
    (ha : s.address = a) : ¬ Adrift n past := fun adrift => by
  obtain ⟨t, ht, other⟩ := k.ashore n adrift
  cases found.symm.trans ht
  exact other ha

/-- A step of a series leaves a marked address without a live series, unless it marks it late. -/
theorem Sound.series (k : Sound a past c) (f : Followed past c) (timely : ¬ c.RunsOutLate a act) {n : Nat}
    {s s' : Series} {exhausted : List Address} {cluster : Cluster} (found : c.reconnector.series? n = some s)
    (step : SeriesStep c n s act s' exhausted cluster) (marked : a ∈ exhausted) {m : Nat} {t : Series}
    (ht : Reconnector.series? { c.reconnector with series := c.reconnector.series.set n s' } m = some t)
    (ha : t.address = a) : ¬ t.IsLive := by
  intro live
  obtain ⟨busy, -, haddress, -⟩ := step.keeps
  rw [Reconnector.series?_set found] at ht
  by_cases hn : n = m
  · rw [if_pos hn] at ht
    cases ht
    rcases step.marked_cases marked with hold | ⟨-, -, -, ended⟩
    · exact k.spent hold n s found (haddress.symm.trans ha) (step.live.2 live)
    · exact live.1 ended
  · rw [if_neg hn] at ht
    rcases step.marked_cases marked with hold | ⟨rfl, sent, dry, -⟩
    · exact k.spent hold m t ht ha live
    · -- The series that runs out was not cancelled, and so it is the one that the books list.
      have running : s.IsLive := ⟨busy, Bool.eq_false_iff.2 fun cancelled =>
        timely ⟨n, sent, s, found, rfl, cancelled, dry⟩⟩
      exact hn ((f.listed n (k.not_adrift found rfl)).unique (f.listed m (k.not_adrift ht ha)) found ht ha.symm
        running live)

/-- **Every step keeps the marks of an address sound**, if the listener skips nothing and no cancelled series of the
address runs out. -/
theorem Sound.step (k : Sound a past c) (f : Followed past c) (i : Steady b c) (keeps : ¬ c.Lags act)
    (timely : ¬ c.RunsOutLate a act) (h : c.step? act = some c') : Sound a ((c, act) :: past) c' := by
  have effect := step?_effect h
  refine ⟨fun marked => ?_, fun n adrift => ?_⟩
  · generalize c'.reconnector = w at effect marked ⊢
    generalize c'.shared.cluster = cluster at effect
    cases effect with
    | elsewhere | stops => exact k.spent marked
    | series found step => exact fun m t ht ha => k.series f timely found step marked ht ha
    | hears news =>
      rw [i.policy] at marked ⊢
      intro m t ht ha live
      rcases i.turn_cases news with ⟨asleep, -, he⟩ | ⟨lags, -⟩ | ⟨-, e, -, -, he⟩
      · rw [he, Reconnector.resync, Reconnector.exhausted_foldl_spawn, (i.asleep asleep).2] at marked
        cases marked
      · exact keeps lags
      · rw [he] at marked ht
        have hold := Reconnector.mem_exhausted_of_handle marked
        cases hm : c.reconnector.series? m with
        | none => exact (Reconnector.new_of_handle i.built.wellFormed ht hm).1 (ha ▸ hold)
        | some t₀ =>
          have l := Reconnector.Listens.handle { c.reconnector with heard := c.reconnector.heard + 1 } b c.registry e
          obtain rfl := l.isLive hm ht live
          exact k.spent hold m t hm ha live
  · have kept : ∀ s, c.reconnector.series? n = some s → s.address ≠ a →
        ∃ s, c'.reconnector.series? n = some s ∧ s.address ≠ a := fun s found other => by
      obtain ⟨s', hs', -, haddress, -⟩ := effect.later i.heard found
      exact ⟨s', hs', haddress ▸ other⟩
    obtain ⟨x, hx, s, found, live, cause⟩ := adrift
    rcases List.mem_cons.1 hx with rfl | hx
    · refine kept s found fun ha => ?_
      rcases cause with ⟨e, he, -⟩ | drops
      · rw [skips_of_not_lags keeps] at he
        cases he
      · exact k.spent (ha ▸ drops.2) n s found ha live
    · obtain ⟨t, ht, other⟩ := k.ashore n ⟨x, hx, s, found, live, cause⟩
      exact kept t ht other

end

/-! ## Addresses whose schedule ran out -/

/-- Skipping events, the listener starts a series for an address that is marked. -/
def Restarts (c : Client) (a : Address) (act : Action) : Prop :=
  c.Lags act ∧ a ∈ c.reconnector.exhausted ∧ ∃ h ∈ c.registry.topology.ids, (c.registry.host h).address = a ∧
    (c.registry.host h).state = .down ∧ ¬ c.reconnector.Declines c.registry h

/-- **A series is started for a marked address only as events are skipped**, and then for every host of it that
is down and not declined. -/
theorem Steady.starts_iff {a : Address} (i : Steady b c) (marked : a ∈ c.reconnector.exhausted)
    (h : c.step? act = some c') :
    (∃ s ∈ Reconnector.startedSince c.reconnector c'.reconnector, s.address = a) ↔ c.Restarts a act := by
  constructor
  · rintro ⟨s, hs, rfl⟩
    obtain ⟨n, found, new⟩ := Reconnector.mem_startedSince.1 hs
    by_cases hact : act = .hear
    · subst hact
      simp only [step?, Option.ite_none_right_eq_some, Option.some.injEq, i.policy] at h
      obtain ⟨news, rfl⟩ := h
      have found : (c.reconnector.hear b c.registry).series? n = some s := found
      rcases i.turn_cases news with ⟨asleep, -, -⟩ | ⟨lags, ⟨heard, he⟩, -⟩ | ⟨-, e, -, -, he⟩
      · rw [(i.asleep asleep).2] at marked
        cases marked
      · rw [he] at found
        obtain ⟨registered, hdown, ha, declines⟩ := Reconnector.new_of_resync found new
        exact ⟨lags, marked, s.host, registered, ha.symm, hdown, declines⟩
      · rw [he] at found
        exact absurd marked (Reconnector.new_of_handle i.built.wellFormed found new).1
    · obtain ⟨s₀, hold, -⟩ := i.earlier hact h found
      cases new.symm.trans hold
  · rintro ⟨lags, -, k, registered, rfl, hdown, declines⟩
    have hact : act = .hear := by
      cases act <;> first | rfl | cases lags
    subst hact
    simp only [step?, Option.ite_none_right_eq_some, Option.some.injEq, i.policy] at h
    obtain ⟨news, rfl⟩ := h
    show ∃ s ∈ Reconnector.startedSince c.reconnector (c.reconnector.hear b c.registry), _
    rcases i.turn_cases news with ⟨-, keeps, -⟩ | ⟨-, ⟨heard, he⟩, -⟩ | ⟨keeps, -⟩
    · exact absurd lags keeps
    · rw [he]
      have looked : k ∈ c.registry.topology.ids.filter fun h => (c.registry.host h).state == .down :=
        List.mem_filter.2 ⟨registered, beq_iff_eq.2 hdown⟩
      refine Reconnector.startedSince_foldl_spawn (w := { c.reconnector with heard := heard }) looked
        (fun x hx ha => ?_) declines
      exact i.built.wellFormed.address_inj (List.mem_filter.1 hx).1 registered ha
    · exact absurd lags keeps

/-! ## Runs -/

/-- What holds of the reconnector all along a run. -/
structure Supervised (b : Backoff) (past : List (Client × Action)) (c : Client) : Prop where
  steady : Steady b c
  followed : Followed past c
  sound : (∀ x ∈ past, ¬ x.1.Lags x.2) → ∀ a, (∀ x ∈ past, ¬ x.1.RunsOutLate a x.2) → Sound a past c
  marked : ∀ a, SpentAt a past → a ∈ c.reconnector.exhausted

theorem supervised_connect {policies : Policies} {defaults : QueryDefaults} {limits : Limits}
    {contacts : List Address} {report : Except Failure (List Translated)}
    (h : connect policies defaults limits contacts report = .ok c) : Supervised policies.backoff [] c := by
  refine ⟨steady_connect h, followed_connect h, fun _ a _ => ⟨fun marked => ?_, fun n adrift => ?_⟩, fun a => nofun⟩
  · rw [(connect_changes h).2] at marked
    cases marked
  · obtain ⟨x, hx, -⟩ := adrift
    cases hx

/-- **Every step of a client keeps its reconnector supervised.** -/
theorem Supervised.step {past : List (Client × Action)} (v : Supervised b past c) (h : c.step? act = some c') :
    Supervised b ((c, act) :: past) c' := by
  obtain ⟨i, f, sound, marked⟩ := v
  refine ⟨i.step h, f.step i h, fun lossless a timely => ?_, fun a spent => ?_⟩
  · obtain ⟨hlossless, lossless⟩ := List.forall_mem_cons.1 lossless
    obtain ⟨htimely, timely⟩ := List.forall_mem_cons.1 timely
    exact (sound lossless a timely).step f i hlossless htimely h
  · exact step?_marked i.heard h (spent.imp_right fun hs => ⟨marked a hs.1, hs.2⟩)

theorem run?_supervised {policies : Policies} {defaults : QueryDefaults} {limits : Limits} {contacts : List Address}
    {report : Except Failure (List Translated)} {c₀ : Client} {actions : List Action}
    (connected : connect policies defaults limits contacts report = .ok c₀) (ran : c₀.run? actions = some c) :
    Supervised policies.backoff (c₀.past actions) c := by
  have hrun : Supervised policies.backoff (c₀.past actions ++ []) c :=
    run?_keeps (I := Supervised policies.backoff) (A := fun _ => True) (fun _ v h => v.step h) (fun _ _ => trivial)
      (supervised_connect connected) ran
  rwa [List.append_nil] at hrun

end

/-- Of every datacenter but the local one the first host is used, and a host that is down is probed once, after a
second. -/
def oneRemoteProbe : Policies :=
  { oneRemote with backoff := .custom fun _ k => if k = 0 then some (.ofSeconds 1) else none }

/-- The one probe of the local host is on its way. -/
def lastProbe : List Action :=
  [.hear, .report (.hostDown ⟨.v4 0x0a000001, 9042⟩ "reset"), .hear, .beginSeries 0, .hear, .elapse 1000, .wakeSeries 0]

/-- The listener hears that the local host stays down.  Then the ignored host goes down and comes up, more often than
the mailbox can hold. -/
def flapping : List Action :=
  .hear :: (List.replicate 130 [Action.report (.hostDown ⟨.v4 0x0a000003, 9042⟩ "reset"),
    .report (.hostUp ⟨.v4 0x0a000003, 9042⟩)]).flatten

/-- The listener takes in all that the mailbox holds. -/
def catchingUp : List Action := List.replicate mailbox .hear

end Client

end CqlDispatch
