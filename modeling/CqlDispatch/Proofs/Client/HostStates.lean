import CqlDispatch.Proofs.Client.Lagging
/-!
# The states of hosts and their series

A series marks its host as tried again when it begins, and the connection layer may report the host down
while the series goes on, as the schedule of another series may run out.  So a host with a live series is down or
tried again by what happened last (`Stated`).  A host that is not up has a live series just in case the last look at it did not pass over it
(`Attended`), unless its schedule ran out or the report that it went down was lost.  Where it is tried again it
has one even if a schedule ran out before, unless a cancelled series of its address began (`Tried`).
-/
namespace CqlDispatch
namespace Client

/-! ## The states that series leave -/

/-- The connection layer reports that the host of an address is down. -/
def Action.reportsDown (a : Address) : Action → Bool
  | .report (.hostDown b _) => b == a
  | _ => false

/-- Since a series of the address last began, the connection layer reported the host down, or a schedule of the
address ran out. -/
def LeftDown (a : Address) : List (Client × Action) → Prop
  | [] => False
  | (c, act) :: past =>
    act.reportsDown a = true ∨ c.RunsOutAt a act ∨ ¬ c.BeginsAt a act ∧ LeftDown a past

instance decidableLeftDown (a : Address) : ∀ past, Decidable (LeftDown a past)
  | [] => .isFalse id
  | (c, act) :: past =>
    have := decidableLeftDown a past
    inferInstanceAs (Decidable (act.reportsDown a = true ∨ c.RunsOutAt a act ∨ ¬ c.BeginsAt a act ∧ LeftDown a past))

/-- The state in which a series that has begun finds the host of its address. -/
def stateLeft (a : Address) (past : List (Client × Action)) : HostState :=
  if LeftDown a past then .down else .reconnecting

section
variable {b : Backoff} {c c' : Client} {act : Action} {past : List (Client × Action)}

/-- **The state of a host changes with a report, the begin of a series, the end of a schedule, or an event that
settles its address**, and not otherwise. -/
theorem step?_states (built : Cluster.Built c.shared.cluster) (h : c.step? act = some c') {a : Address} {s : HostState}
    (state : c.registry.states a = some s) (unsettled : ¬ Settled a (c.told act)) (begins : ¬ c.BeginsAt a act)
    (reported : act.reportsDown a = false) (left : ¬ c.RunsOutAt a act) : c'.registry.states a = some s := by
  refine replay?_same built.replays state (step?_replays built h) fun e he ha => ?_
  have he := List.mem_reverse.1 he
  obtain ⟨hdown, htried⟩ := mem_told he
  cases e with
  | added x => exact congrArg HostEvent.added ha
  | up x | removed x => exact absurd ⟨_, he, beq_iff_eq.2 ha⟩ unsettled
  | reconnecting x =>
    cases ha
    exact absurd (htried _ rfl) begins
  | down x reason =>
    cases ha
    rcases hdown _ _ rfl with rfl | out
    · simp [Action.reportsDown, HostEvent.address] at reported
    · exact absurd out left

/-- The state of a registered host after it was moved to a state that it was in or that its own can lead to. -/
theorem states_transition {cluster : Cluster} (wf : cluster.registry.WellFormed) {h : HostId}
    (registered : h ∈ cluster.registry.topology.ids) {target : HostState} (e : HostEvent)
    (legal : (cluster.registry.host h).state = target ∨ (cluster.registry.host h).state ∈ target.sources) :
    (cluster.transition (cluster.registry.host h).address target e).2.registry.states
      (cluster.registry.host h).address = some target := by
  have known := wf.mem_ids_iff.1 registered
  have hfind : (cluster.transition (cluster.registry.host h).address target e).2.registry.find?
      (cluster.registry.host h).address = some h := by
    unfold Registry.find?
    rw [Cluster.topology_transition]
    exact known
  rw [Registry.states_of_find? hfind, Cluster.state_transition wf]
  refine congrArg some ?_
  rcases legal with hs | hs
  · split
    · rfl
    · exact hs
  · exact if_pos ⟨known, hs⟩

theorem states_markDown {cluster : Cluster} (wf : cluster.registry.WellFormed) {h : HostId}
    (registered : h ∈ cluster.registry.topology.ids) (reason : String) :
    (cluster.markDown (cluster.registry.host h).address reason).2.registry.states
      (cluster.registry.host h).address = some .down :=
  states_transition wf registered _ (HostState.eq_or_mem_sources_down (wf.ne_removed registered))

theorem states_of_begins (i : Steady b c) {h : HostId} (wanting : c.Wanting h)
    (begins : c.BeginsAt (c.registry.host h).address act) (left : ¬ c.RunsOutAt (c.registry.host h).address act)
    (step : c.step? act = some c') : c'.registry.states (c.registry.host h).address = some .reconnecting := by
  obtain ⟨m, hm, x, hx, hxa⟩ := begins
  obtain rfl := Action.eq_beginSeries hm
  obtain ⟨x₁, x', exhausted, hx₁, -, step⟩ := step?_series rfl step
  cases hx.symm.trans hx₁
  unfold registry
  generalize c'.shared.cluster = cluster at step ⊢
  cases step with
  | begins created next =>
    have known := i.built.wellFormed.ne_removed wanting.1
    rw [hxa]
    exact states_transition i.built.wellFormed wanting.1 _
      (HostState.eq_or_mem_sources_reconnecting known wanting.2)
  | beginsDry created dry => exact absurd ⟨m, rfl, x, hx, hxa, dry⟩ left

theorem states_of_reported (i : Steady b c) {h : HostId} (registered : h ∈ c.registry.topology.ids)
    (reported : act.reportsDown (c.registry.host h).address = true) (step : c.step? act = some c') :
    c'.registry.states (c.registry.host h).address = some .down := by
  cases act with
  | report e =>
    cases e with
    | hostDown x reason =>
      cases beq_iff_eq.1 reported
      cases step
      unfold registry
      rw [cluster_report]
      exact states_markDown i.built.wellFormed registered reason
    | _ => cases reported
  | _ => cases reported

/-- A schedule that runs out leaves the host of its address down. -/
theorem states_of_runsOut (i : Steady b c) {h : HostId} (registered : h ∈ c.registry.topology.ids)
    (out : c.RunsOutAt (c.registry.host h).address act) (step : c.step? act = some c') :
    c'.registry.states (c.registry.host h).address = some .down := by
  have wf : c.registry.WellFormed := i.built.wellFormed
  obtain ⟨m, hm, x, hx, hxa, dry⟩ := out
  obtain ⟨x₁, x', exhausted, hx₁, -, step⟩ := step?_series (Action.series?_of_sentOn? hm) step
  cases hx.symm.trans hx₁
  show c'.shared.cluster.registry.states _ = _
  generalize c'.shared.cluster = cluster at step ⊢
  cases step with
  | begins created next | fails probing next => cases next.symm.trans dry
  | failsDry =>
    rw [hxa]
    exact states_markDown wf registered _
  | beginsDry =>
    -- The host is marked as tried again first, which leaves it registered at its address.
    have changes := Cluster.startReconnecting_changes c.shared.cluster x.address
    have still : h ∈ (c.shared.cluster.startReconnecting x.address).2.registry.topology.ids := by
      unfold Cluster.startReconnecting
      rwa [Cluster.topology_transition]
    have haddress := (changes.extends wf).address h (wf.lt_of_mem registered)
    have hdown := states_markDown (changes.wellFormed wf) still "reconnection schedule exhausted"
    rw [haddress.trans hxa.symm] at hdown
    exact hxa ▸ hdown
  | wakes | wakesRemoved | succeeds | quits => cases hm

theorem stateLeft_begins {a : Address} (begins : c.BeginsAt a act) (left : ¬ c.RunsOutAt a act) :
    stateLeft a ((c, act) :: past) = .reconnecting := by
  refine if_neg fun down => ?_
  rcases down with hr | out | ⟨hb, -⟩
  · obtain ⟨m, hm, -⟩ := begins
    rw [Action.eq_beginSeries hm] at hr
    cases hr
  · exact left out
  · exact hb begins

theorem stateLeft_other {a : Address} (begins : ¬ c.BeginsAt a act) (reported : act.reportsDown a = false)
    (left : ¬ c.RunsOutAt a act) : stateLeft a ((c, act) :: past) = stateLeft a past := by
  simp only [stateLeft, LeftDown, reported, left, begins, Bool.false_eq_true, not_false_eq_true, true_and, false_or]

theorem SeriesStep.begun {n : Nat} {s s' : Series} {exhausted : List Address} {cluster : Cluster}
    (step : SeriesStep c n s act s' exhausted cluster) : s.phase ≠ .created ∨ act.begun? = some n := by
  cases step with
  | begins | beginsDry => exact .inr rfl
  | wakes waiting | wakesRemoved waiting => exact .inl (waiting ▸ SeriesPhase.noConfusion)
  | succeeds probing | fails probing | failsDry probing => exact .inl (probing ▸ SeriesPhase.noConfusion)
  | quits begun => exact .inl begun

/-- The host of a live series that has begun is in the state that was left to it, if its address is not to be
settled and the series is not adrift. -/
def Stated (past : List (Client × Action)) (c : Client) : Prop :=
  ∀ n s, c.reconnector.series? n = some s → s.IsLive → s.phase ≠ .created →
    Settled s.address (c.reconnector.unheard c.registry) ∨ Adrift n past ∨
      c.registry.states s.address = some (stateLeft s.address past)

theorem Stated.elsewhere (t : Stated past c) (f : Followed past c) (i : Steady b c) (still : act ≠ .hear)
    (h : c.step? act = some c') : Stated ((c, act) :: past) c' := by
  intro n s found live begun
  obtain ⟨s₀, hold, -, ha, hback⟩ := i.earlier still h found
  have lived := hback live
  have haddress : (c.registry.host s₀.host).address = s.address :=
    ((i.tidy.series s₀ (Reconnector.mem_of_series? hold)).2).trans ha.symm
  rw [i.unheard_told still h, settled_append, settled_reverse]
  by_cases settled : Settled s.address (c.told act)
  · exact .inl (.inl settled)
  by_cases adrift : Adrift n past
  · exact .inr (.inl (adrift.later _))
  rcases ha ▸ f.wanting n s₀ hold lived with hsettled | hadrift | wanting
  · exact .inl (.inr hsettled)
  · exact absurd hadrift adrift
  by_cases out : c.RunsOutAt s.address act
  · have hleft : stateLeft s.address ((c, act) :: past) = .down := if_pos (.inr (.inl out))
    exact .inr (.inr (hleft ▸ haddress ▸ states_of_runsOut i wanting.1 (haddress.symm ▸ out) h))
  by_cases begins : c.BeginsAt s.address act
  · -- A series of the address begins: the host is tried again, whatever was reported.
    refine .inr (.inr (stateLeft_begins begins out ▸ haddress ▸ states_of_begins i wanting ?_ ?_ h)) <;> rwa [haddress]
  have hbegun : s₀.phase ≠ .created := by
    by_cases other : act.series? = some n
    · obtain ⟨s₁, s', exhausted, hs₁, hs', step⟩ := step?_series other h
      cases hold.symm.trans hs₁
      exact step.begun.resolve_right fun hb => begins ⟨n, hb, s₀, hold, ha.symm⟩
    · cases (step?_other still h other).symm.trans found |>.symm.trans hold
      exact begun
  cases reported : act.reportsDown s.address with
  | true =>
    have hleft : stateLeft s.address ((c, act) :: past) = .down := if_pos (.inl reported)
    exact .inr (.inr (hleft ▸ haddress ▸ states_of_reported i wanting.1 (haddress.symm ▸ reported) h))
  | false =>
    rcases ha ▸ t n s₀ hold lived hbegun with hsettled | hadrift | state
    · exact .inl (.inr hsettled)
    · exact absurd hadrift adrift
    · rw [stateLeft_other begins reported out]
      exact .inr (.inr (step?_states i.built h state settled begins reported out))

/-- **Every step leaves the hosts of series in the states that are left to them.** -/
theorem Stated.step (t : Stated past c) (f : Followed past c) (i : Steady b c) (h : c.step? act = some c') :
    Stated ((c, act) :: past) c' := by
  by_cases hact : act = .hear
  · subst hact
    simp only [step?, Option.ite_none_right_eq_some, Option.some.injEq, i.policy] at h
    obtain ⟨news, rfl⟩ := h
    intro n s found live begun
    have found : (c.reconnector.hear b c.registry).series? n = some s := found
    have l := Reconnector.Listens.hear b news i.heard
    cases hold : c.reconnector.series? n with
    | none => exact absurd (l.new found hold).1 begun
    | some s₀ =>
      obtain rfl := l.isLive hold found live
      have hleft : stateLeft s.address ((c, .hear) :: past) = stateLeft s.address past :=
        stateLeft_other (not_beginsAt rfl) rfl (not_runsOutAt rfl)
      rcases t n s hold live begun with settled | adrift | state
      · exact (f.settled i news hold found live settled).imp_right .inl
      · exact .inr (.inl (adrift.later _))
      · exact .inr (.inr (hleft ▸ state))
  · exact t.elsewhere f i hact h

/-! ## Looks at hosts that are not up -/

/-- The listener skipped an event that told that the host of the address went down. -/
def DownLost (a : Address) (past : List (Client × Action)) : Prop := ∃ x ∈ past, Felled a (x.1.skips x.2)

instance (a : Address) (past : List (Client × Action)) : Decidable (DownLost a past) :=
  inferInstanceAs (Decidable (∃ x ∈ past, Felled a (x.1.skips x.2)))

theorem DownLost.later {a : Address} {x : Client × Action} (lost : DownLost a past) : DownLost a (x :: past) := by
  obtain ⟨y, hy, felled⟩ := lost
  exact ⟨y, List.mem_cons_of_mem _ hy, felled⟩

/-- What holds of hosts that are not up before the reconnector is stopped.  Of one of which nothing is left to hear
that it went down, the last look tells whether it has a series. -/
structure Attended (past : List (Client × Action)) (c : Client) : Prop where
  running : c.reconnector.stopped = false
  untried : c.reconnector.awake = false → ∀ a, c.registry.states a ≠ some .reconnecting
  looked : ∀ h, c.Wanting h → c.reconnector.awake = true →
    ¬ Felled (c.registry.host h).address (c.reconnector.unheard c.registry) →
    ¬ DownLost (c.registry.host h).address past →
      (PassedOver h past → ¬ c.reconnector.HasSeries h) ∧
        (¬ PassedOver h past → c.reconnector.HasSeries h ∨ RanOut h past)

theorem Wanting.not_isUp {h : HostId} (wanting : c.Wanting h) : c.registry.isUp h = false := by
  unfold Registry.isUp Host.isUp
  exact beq_eq_false_iff_ne.2 wanting.2

/-- What the last look told of a host still holds after a step without one. -/
theorem Attended.unlooked {h : HostId} {w : Reconnector} (wanting : c.Wanting h) (nolook : c.looksAt h act = false)
    (before : w.HasSeries h → c.reconnector.HasSeries h)
    (after : c.reconnector.HasSeries h → w.HasSeries h ∨ c.RunsOut h act)
    (looked : (PassedOver h past → ¬ c.reconnector.HasSeries h) ∧
      (¬ PassedOver h past → c.reconnector.HasSeries h ∨ RanOut h past)) :
    (PassedOver h ((c, act) :: past) → ¬ w.HasSeries h) ∧
      (¬ PassedOver h ((c, act) :: past) → w.HasSeries h ∨ RanOut h ((c, act) :: past)) := by
  obtain ⟨hover, hserved⟩ := looked
  rw [passedOver_unlooked nolook]
  refine ⟨fun hp hs => hover hp (before hs), fun hp => ?_⟩
  rcases hserved hp with hs | hr
  · exact (after hs).imp_right fun out => ⟨wanting.not_isUp, .inl out⟩
  · exact .inr ⟨wanting.not_isUp, .inr hr⟩

/-- A step that is no turn of the listener gives no host a live series, and a host that is not up after it loses
one only as the schedule runs out. -/
theorem Steady.hasSeries (i : Steady b c) (running : c.reconnector.stopped = false) (still : act ≠ .hear)
    (on : act ≠ .shutdown) (step : c.step? act = some c') {h : HostId} (wanting : c'.Wanting h) :
    (c'.reconnector.HasSeries h → c.reconnector.HasSeries h) ∧
      (c.reconnector.HasSeries h → c'.reconnector.HasSeries h ∨ c.RunsOut h act) := by
  have effect := step?_effect step
  unfold Wanting registry at wanting
  generalize c'.reconnector = w at effect ⊢
  generalize c'.shared.cluster = cluster at effect wanting
  cases effect with
  | elsewhere => exact ⟨id, .inl⟩
  | hears => exact absurd rfl still
  | stops => exact absurd rfl on
  | series found step =>
    exact ⟨fun hs => step.hasSeries_before found hs, fun hs =>
      step.hasSeries_after found i.tidy i.built.wellFormed running wanting.1 wanting.2 hs⟩

/-- A turn that looks over every host that is down and not at this one did not find it down. -/
theorem ne_down_of_unlooked {h : HostId} (hids : h ∈ c.registry.topology.ids)
    (nolook : c.looksAt h .hear = false) (hsync : c.reconnector.resyncs c.registry = true) :
    (c.registry.host h).state ≠ .down := by
  intro hd
  unfold looksAt at nolook
  simp [hsync, hids, hd] at nolook

/-- A turn that takes in an event and does not look at a host of the topology did not hear that the host went down. -/
theorem fells_of_unlooked {h : HostId} {e : HostEvent} (wf : c.registry.WellFormed)
    (hids : h ∈ c.registry.topology.ids) (nolook : c.looksAt h .hear = false)
    (hsync : c.reconnector.resyncs c.registry = false)
    (hlast : (c.reconnector.unheard c.registry).getLast? = some e) : e.fells (c.registry.host h).address = false := by
  cases e with
  | down x reason =>
    refine beq_eq_false_iff_ne.2 fun hx => ?_
    unfold looksAt at nolook
    simp [hsync, hlast, hx, wf.mem_ids_iff.1 hids] at nolook
  | added | removed | up | reconnecting => rfl

/-- A host that is not up, and of which nothing to hear tells that it went down, was not settled: nothing could
have taken it down since. -/
theorem Wanting.unsettled (built : Cluster.Built c.shared.cluster) {h : HostId} (wanting : c.Wanting h)
    (unfelled : ¬ Felled (c.registry.host h).address (c.reconnector.unheard c.registry)) :
    ¬ Settled (c.registry.host h).address (c.reconnector.unheard c.registry) := by
  have hlog : c.reconnector.unheard c.registry ++ c.registry.log.drop (c.registry.log.length - c.reconnector.heard) =
      c.registry.log := List.take_append_drop _ _
  have replays : replay? c.registry.log = some c.registry.states := built.replays
  rw [← hlog] at replays
  obtain ⟨m, holder⟩ := replay?_suffix replays
  exact (replay?_unfelled holder replays unfelled (wanting.broken built.wellFormed)).2

/-- An event that neither takes the host of an address down nor settles the address leaves the series of the host. -/
theorem hasSeries_handle {w : Reconnector} {r : Registry} (t : w.Tidy r) (wf : r.WellFormed) {h : HostId}
    {e : HostEvent} (unfells : e.fells (r.host h).address = false) (unsettles : e.settles (r.host h).address = false) :
    (w.handle b r e).HasSeries h ↔ w.HasSeries h := by
  by_cases ha : e.address = (r.host h).address
  · cases e with
    | added | reconnecting => exact .rfl
    | down x reason => cases unfells.symm.trans (beq_iff_eq.2 ha)
    | up x | removed x => cases unsettles.symm.trans (beq_iff_eq.2 ha)
  · exact Reconnector.hasSeries_handle_ne t wf b ha

theorem hasSeries_resync_of_ne_down {w : Reconnector} {r : Registry} (wf : r.WellFormed) {h : HostId} (hids : h ∈ r.topology.ids)
    (hstate : (r.host h).state ≠ .down) : (w.resync b r).HasSeries h ↔ w.HasSeries h := by
  unfold Reconnector.resync
  rw [Reconnector.hasSeries_foldl_spawn fun k hk ha => wf.address_inj (List.mem_filter.1 hk).1 hids ha]
  refine ⟨fun hs => hs.resolve_right fun hn => hstate ?_, .inl⟩
  exact beq_iff_eq.1 (List.mem_filter.1 hn.1).2

/-- A turn of the listener without a look at a host that is not up is not its first and leaves the series of the
host, if no event that the host went down is to hear after it or is skipped; nor was one to hear before it. -/
theorem Attended.unlooked_turn (t : Attended past c) (i : Steady b c) (news : c.reconnector.hasNews c.registry = true)
    {h : HostId} (wanting : c.Wanting h) (nolook : c.looksAt h .hear = false)
    (unfelled : ¬ Felled (c.registry.host h).address ((c.reconnector.hear b c.registry).unheard c.registry))
    (kept : ¬ Felled (c.registry.host h).address (c.skips .hear)) :
    c.reconnector.awake = true ∧ ¬ Felled (c.registry.host h).address (c.reconnector.unheard c.registry) ∧
      ((c.reconnector.hear b c.registry).HasSeries h ↔ c.reconnector.HasSeries h) := by
  have wf : c.registry.WellFormed := i.built.wellFormed
  rcases i.turn_cases news with ⟨asleep, -, he⟩ | ⟨lags, ⟨heard, he⟩, hunheard⟩ | ⟨-, e, htakes, hunheard, he⟩
  · -- Before the listener has run no series was there to try a host again, so the first look finds it down.
    have hsync : c.reconnector.resyncs c.registry = true := by simp [Reconnector.resyncs, asleep]
    have hstate := Registry.states_of_find? (wf.mem_ids_iff.1 wanting.1)
    cases hs : (c.registry.host h).state with
    | up => exact absurd hs wanting.2
    | down => exact absurd hs (ne_down_of_unlooked wanting.1 nolook hsync)
    | reconnecting => exact absurd (hs ▸ hstate) (t.untried asleep _)
    | removed => exact absurd hs (wf.ne_removed wanting.1)
  · have hsync : c.reconnector.resyncs c.registry = true := by simp [Reconnector.resyncs, lags.2]
    rw [he]
    refine ⟨lags.1, ?_, hasSeries_resync_of_ne_down wf wanting.1 (ne_down_of_unlooked wanting.1 nolook hsync)⟩
    rw [hunheard, felled_append]
    exact not_or.2 ⟨unfelled, kept⟩
  · obtain ⟨hsync, hlast⟩ : c.reconnector.resyncs c.registry = false ∧
        (c.reconnector.unheard c.registry).getLast? = some e := by
      simpa [takesIn?] using htakes
    have awake : c.reconnector.awake = true := by
      unfold Reconnector.resyncs at hsync
      simpa using (Bool.or_eq_false_iff.1 hsync).1
    have unfells := fells_of_unlooked wf wanting.1 nolook hsync hlast
    have hunfelled : ¬ Felled (c.registry.host h).address (c.reconnector.unheard c.registry) := by
      rw [hunheard, felled_append]
      refine not_or.2 ⟨unfelled, ?_⟩
      rintro ⟨x, hx, hf⟩
      cases List.mem_singleton.1 hx
      cases unfells.symm.trans hf
    have unsettles : e.settles (c.registry.host h).address = false := by
      have unsettled := wanting.unsettled i.built hunfelled
      rw [hunheard, settled_append] at unsettled
      exact Bool.eq_false_iff.2 fun hs => unsettled (.inr ⟨e, List.mem_singleton_self e, hs⟩)
    rw [he]
    exact ⟨awake, hunfelled, hasSeries_handle (w := { c.reconnector with heard := c.reconnector.heard + 1 })
      ⟨i.tidy.series, i.tidy.current⟩ wf unfells unsettles⟩

theorem Attended.hear (t : Attended past c) (i : Steady b c) (news : c.reconnector.hasNews c.registry = true)
    {h : HostId} (wanting : c.Wanting h)
    (unfelled : ¬ Felled (c.registry.host h).address ((c.reconnector.hear b c.registry).unheard c.registry))
    (kept : ¬ DownLost (c.registry.host h).address ((c, .hear) :: past)) :
    (PassedOver h ((c, .hear) :: past) → ¬ (c.reconnector.hear b c.registry).HasSeries h) ∧
      (¬ PassedOver h ((c, .hear) :: past) →
        (c.reconnector.hear b c.registry).HasSeries h ∨ RanOut h ((c, .hear) :: past)) := by
  cases look : c.looksAt h .hear with
  | true =>
    have hlooked := hasSeries_of_look i.built.wellFormed i.heard news look
    rw [i.policy] at hlooked
    rw [PassedOver, look, if_pos rfl]
    exact ⟨fun hp hs => hlooked.1 hs hp, fun hp => .inl (hlooked.2 hp)⟩
  | false =>
    obtain ⟨awake, before, hsame⟩ := t.unlooked_turn i news wanting look unfelled fun hf =>
      kept ⟨_, List.mem_cons_self, hf⟩
    exact unlooked wanting look hsame.1 (fun hs => .inl (hsame.2 hs))
      (t.looked h wanting awake before fun lost => kept lost.later)

/-- **Every step but the shutdown attends to hosts that are not up.** -/
theorem Attended.step (t : Attended past c) (i : Steady b c) (on : act ≠ .shutdown) (h : c.step? act = some c') :
    Attended ((c, act) :: past) c' := by
  by_cases hact : act = .hear
  · subst hact
    simp only [step?, Option.ite_none_right_eq_some, Option.some.injEq, i.policy] at h
    obtain ⟨news, rfl⟩ := h
    obtain ⟨-, hawake, hstopped⟩ := progress_hear (b := b) news i.heard
    refine ⟨hstopped.trans t.running, fun ha => ?_, fun k wanting _ unfelled kept => ?_⟩
    · cases hawake.symm.trans ha
    · exact t.hear i news wanting unfelled kept
  · obtain ⟨-, hawake, -⟩ := step?_unheard hact h
    refine ⟨?_, fun ha a hs => ?_, fun k wanting ha unfelled kept => ?_⟩
    · have effect := step?_effect h
      generalize c'.reconnector = w at effect ⊢
      generalize c'.shared.cluster = cluster at effect
      cases effect with
      | elsewhere | series => exact t.running
      | hears => exact absurd rfl hact
      | stops => exact absurd rfl on
    · have asleep := hawake.symm.trans ha
      refine t.untried asleep a (replay?_untried i.built.replays (step?_replays i.built h) (fun hm => ?_) hs)
      obtain ⟨n, -, s, found, -⟩ := (mem_told (List.mem_reverse.1 hm)).2 a rfl
      unfold Reconnector.series? at found
      rw [(i.asleep asleep).1] at found
      cases found
    · rw [i.unheard_told hact h, felled_append, felled_reverse, not_or] at unfelled
      have before := wanting.before i.built h unfelled.1
      have nolook : c.looksAt k act = false := by
        cases act <;> first | rfl | exact absurd rfl hact
      rw [step?_address i.built h before.1] at unfelled kept
      obtain ⟨hbefore, hafter⟩ := i.hasSeries t.running hact on h wanting
      exact unlooked before nolook hbefore hafter (t.looked k before (hawake.symm.trans ha) unfelled.2
        fun lost => kept lost.later)

/-! ## Hosts that are tried again -/

/-- A series of the address began although it was cancelled. -/
def BeganLate (a : Address) (past : List (Client × Action)) : Prop :=
  ∃ x ∈ past, ∃ n ∈ x.2.begun?, ∃ s ∈ x.1.reconnector.series? n, s.address = a ∧ s.cancelled = true

instance (a : Address) (past : List (Client × Action)) : Decidable (BeganLate a past) :=
  inferInstanceAs (Decidable (∃ x ∈ past, ∃ n ∈ x.2.begun?, ∃ s ∈ x.1.reconnector.series? n, _))

theorem BeganLate.later {a : Address} {x : Client × Action} (late : BeganLate a past) : BeganLate a (x :: past) := by
  obtain ⟨y, hy, began⟩ := late
  exact ⟨y, List.mem_cons_of_mem _ hy, began⟩

/-- A host that is tried again has a live series, if the last look did not pass over it, nothing tells or told in
vain that it went down, and no series of its address is adrift or began late. -/
def Tried (past : List (Client × Action)) (c : Client) : Prop :=
  ∀ h, c.Wanting h → ¬ Felled (c.registry.host h).address (c.reconnector.unheard c.registry) →
    ¬ DownLost (c.registry.host h).address past → ¬ BeganLate (c.registry.host h).address past →
    (∀ n s, c.reconnector.series? n = some s → s.address = (c.registry.host h).address → ¬ Adrift n past) →
    ¬ PassedOver h past → c.registry.states (c.registry.host h).address = some .reconnecting → c.reconnector.HasSeries h

/-- A host that a series of its address marks as tried again has a live series: this one. -/
theorem Followed.hasSeries_of_begins (f : Followed past c) (i : Steady b c) (h : c.step? act = some c') {k : HostId}
    (wanting : c.Wanting k) (begins : c.BeginsAt (c.registry.host k).address act)
    (unfelled : ¬ Felled (c.registry.host k).address (c.reconnector.unheard c.registry))
    (punctual : ¬ BeganLate (c.registry.host k).address ((c, act) :: past))
    (ashore : ∀ n s, c.reconnector.series? n = some s → s.address = (c.registry.host k).address → ¬ Adrift n past)
    (state : c'.registry.states (c.registry.host k).address = some .reconnecting) : c'.reconnector.HasSeries k := by
  obtain ⟨m, hm, x, hx, hxa⟩ := begins
  have goesOn : x.cancelled = false := by
    by_contra cancelled
    exact punctual ⟨_, List.mem_cons_self, m, hm, x, hx, hxa, Bool.not_eq_false _ ▸ cancelled⟩
  obtain rfl := Action.eq_beginSeries hm
  obtain ⟨x₁, x', exhausted, hx₁, hx', step⟩ := step?_series rfl h
  cases hx.symm.trans hx₁
  cases hdates : x.schedule.next with
  | none =>
    have out : c.RunsOutAt (c.registry.host k).address (.beginSeries m) := ⟨m, rfl, x, hx, hxa, hdates⟩
    cases (states_of_runsOut i wanting.1 out h).symm.trans state
  | some next =>
    obtain ⟨busy, hhost, -, hcancelled⟩ := step.keeps
    have haddress := (i.tidy.series x (Reconnector.mem_of_series? hx)).2
    have hk : x.host = k := by
      rcases f.wanting m x hx ⟨busy, goesOn⟩ with settled | adrift | wanted
      · exact absurd (hxa ▸ settled) (wanting.unsettled i.built unfelled)
      · exact absurd adrift (ashore m x hx hxa)
      · exact i.built.wellFormed.address_inj wanted.1 wanting.1 (haddress.trans hxa)
    refine ⟨x', Reconnector.mem_of_series? hx', hhost.trans hk, ?_, hcancelled.trans goesOn⟩
    generalize c'.shared.cluster = cluster at step
    cases step with
    | begins => exact SeriesPhase.noConfusion
    | beginsDry created dry => cases dry.symm.trans hdates

/-- **Every step but the shutdown leaves hosts that are tried again with a series.** -/
theorem Tried.step (t : Tried past c) (d : Attended past c) (f : Followed past c) (i : Steady b c)
    (on : act ≠ .shutdown) (h : c.step? act = some c') : Tried ((c, act) :: past) c' := by
  intro k wanting unfelled kept punctual ashore served state
  have earlier : ∀ n s, c.reconnector.series? n = some s → s.address = (c'.registry.host k).address → ¬ Adrift n past := by
    intro n s found ha adrift
    obtain ⟨s', hs', -, ha', -⟩ := (step?_effect h).later i.heard found
    exact ashore n s' hs' (ha'.trans ha) (adrift.later _)
  by_cases hact : act = .hear
  · subst hact
    simp only [step?, Option.ite_none_right_eq_some, Option.some.injEq, i.policy] at h
    obtain ⟨news, rfl⟩ := h
    cases look : c.looksAt k .hear with
    | true =>
      have hlooked := hasSeries_of_look i.built.wellFormed i.heard news look
      rw [i.policy] at hlooked
      rw [PassedOver, look, if_pos rfl] at served
      exact hlooked.2 served
    | false =>
      obtain ⟨-, before, hsame⟩ := d.unlooked_turn i news wanting look unfelled fun hf =>
        kept ⟨_, List.mem_cons_self, hf⟩
      rw [passedOver_unlooked look] at served
      exact hsame.2 (t k wanting before (fun lost => kept lost.later) (fun late => punctual late.later)
        earlier served state)
  · rw [i.unheard_told hact h, felled_append, felled_reverse, not_or] at unfelled
    have before := wanting.before i.built h unfelled.1
    have nolook : c.looksAt k act = false := by
      cases act <;> first | rfl | exact absurd rfl hact
    rw [step?_address i.built h before.1] at unfelled kept punctual earlier state
    rw [passedOver_unlooked nolook] at served
    -- The host is tried again because a series begins now, or it was tried again before.
    by_cases begins : c.BeginsAt (c.registry.host k).address act
    · exact f.hasSeries_of_begins i h before begins unfelled.2 punctual earlier state
    · have tried := replay?_untried i.built.replays (step?_replays i.built h)
        (fun hm => begins ((mem_told (List.mem_reverse.1 hm)).2 _ rfl)) state
      have series := t k before unfelled.2 (fun lost => kept lost.later) (fun late => punctual late.later) earlier
        served tried
      refine ((i.hasSeries d.running hact on h wanting).2 series).resolve_right fun dried => ?_
      obtain ⟨n, hn, s, hs, hhost, dry⟩ := dried
      have haddress := (i.tidy.series s (Reconnector.mem_of_series? hs)).2
      have out : c.RunsOutAt (c.registry.host k).address act := ⟨n, hn, s, hs, hhost ▸ haddress.symm, dry⟩
      cases (states_of_runsOut i before.1 out h).symm.trans state

theorem attended_connect {policies : Policies} {defaults : QueryDefaults} {limits : Limits}
    {contacts : List Address} {report : Except Failure (List Translated)}
    (h : connect policies defaults limits contacts report = .ok c) : Attended [] c := by
  have hw := (connect_changes h).2
  refine ⟨by rw [hw], fun _ a hs => ?_, fun _ _ awake => ?_⟩
  · -- No operation of a connect tries a host again, and at first no host is registered.
    have empty : Cluster.Built { balancer := policies.balancer } := .empty
    have tells := Cluster.performAll_tells (connecting contacts report) empty.wellFormed
    have replays : replay? c.registry.log = some c.registry.states := (connect_built h).replays
    have hlog : c.registry.log = (Cluster.reportsAll { balancer := policies.balancer }
        (connecting contacts report)).reverse ++ [] := by
      unfold registry
      rw [connect_operations h]
      exact tells.log
    rw [hlog] at replays
    refine absurd (replay?_untried rfl replays (fun hm => ?_) hs) nofun
    obtain ⟨o, ho, d, he⟩ := Cluster.mem_reportsAll (List.mem_reverse.1 hm)
    cases (Cluster.mem_reports he).2.1 a rfl
    simp [connecting] at ho
  · rw [hw] at awake
    cases awake

theorem stated_connect {policies : Policies} {defaults : QueryDefaults} {limits : Limits}
    {contacts : List Address} {report : Except Failure (List Translated)}
    (h : connect policies defaults limits contacts report = .ok c) : Stated [] c := by
  intro n s found
  unfold Reconnector.series? at found
  rw [(connect_changes h).2] at found
  cases found

theorem tried_connect {policies : Policies} {defaults : QueryDefaults} {limits : Limits}
    {contacts : List Address} {report : Except Failure (List Translated)}
    (h : connect policies defaults limits contacts report = .ok c) : Tried [] c := by
  have asleep : c.reconnector.awake = false := by rw [(connect_changes h).2]
  intro k _ _ _ _ _ _ state
  exact absurd state ((attended_connect h).untried asleep _)

end

/-! ## Clients at rest -/

/-- A client with nothing to do at this instant has heard everything, and each of its series has begun. -/
theorem idle_cases {c : Client} (idle : c.isIdle = true) :
    c.reconnector.isBusy c.registry = false ∧ ∀ n s, c.reconnector.series? n = some s → s.phase ≠ .created := by
  unfold isIdle work at idle
  simp only [List.isEmpty_iff, List.append_eq_nil_iff] at idle
  obtain ⟨⟨-, hnews⟩, hseries⟩ := idle
  refine ⟨?_, fun n s found created => ?_⟩
  · cases hn : c.reconnector.isBusy c.registry with
    | false => rfl
    | true =>
      rw [hn] at hnews
      cases hnews
  · have hm : (s, n) ∈ c.reconnector.series.zipIdx := List.mem_zipIdx_iff_getElem?.2 found
    have hwork := List.flatMap_eq_nil_iff.1 hseries (s, n) hm
    simp [seriesWork, created] at hwork

/-- **States and series.**  In every run of a client before its shutdown, whenever nothing is left to do at the
current instant: a registered host with a live series is down, if the connection layer reported so or a schedule of
its address ran out since a series of its address last began, and else it is tried again, unless the series is
adrift.  And a registered host that is not up has a live series just in case the last look at it did not pass over
it, unless a schedule of it ran out since it was up, or an event was lost that told that it went down.  Of a host
that is tried again this holds also where a schedule ran out, unless a series of its address began after it had been
cancelled, or is adrift. -/
theorem state_of_series {policies : Policies} {defaults : QueryDefaults} {limits : Limits}
    {contacts : List Address} {report : Except Failure (List Translated)} {c₀ c : Client} {actions : List Action}
    {h : HostId} (connected : connect policies defaults limits contacts report = .ok c₀)
    (ran : c₀.run? actions = some c) (on : Action.shutdown ∉ actions) (idle : c.isIdle = true)
    (registered : h ∈ c.registry.topology.ids) :
    (∀ n s, c.reconnector.series? n = some s → s.host = h → s.IsLive → ¬ Adrift n (c₀.past actions) →
      (c.registry.host h).state = stateLeft s.address (c₀.past actions)) ∧
    ((c.registry.host h).state ≠ .up → ¬ RanOut h (c₀.past actions) →
      ¬ DownLost (c.registry.host h).address (c₀.past actions) →
      (c.reconnector.HasSeries h ↔ ¬ PassedOver h (c₀.past actions))) ∧
    ((c.registry.host h).state = .reconnecting → ¬ BeganLate (c.registry.host h).address (c₀.past actions) →
      (∀ n s, c.reconnector.series? n = some s → s.address = (c.registry.host h).address →
        ¬ Adrift n (c₀.past actions)) →
      ¬ DownLost (c.registry.host h).address (c₀.past actions) →
      (c.reconnector.HasSeries h ↔ ¬ PassedOver h (c₀.past actions))) := by
  have hrun : Supervised policies.backoff (c₀.past actions ++ []) c ∧ Stated (c₀.past actions ++ []) c ∧
      Attended (c₀.past actions ++ []) c ∧ Tried (c₀.past actions ++ []) c := by
    refine run?_keeps
      (I := fun past c => Supervised policies.backoff past c ∧ Stated past c ∧ Attended past c ∧ Tried past c)
      (A := (· ≠ .shutdown)) (fun on ⟨v, t, d, k⟩ h => ?_) (fun _ hact he => on (he ▸ hact))
      ⟨supervised_connect connected, stated_connect connected, attended_connect connected, tried_connect connected⟩ ran
    have i := v.steady
    exact ⟨v.step h, t.step v.followed i h, d.step i on h, k.step d v.followed i on h⟩
  rw [List.append_nil] at hrun
  obtain ⟨⟨i, -, -, -⟩, t, attended, tried⟩ := hrun
  have wf : c.registry.WellFormed := i.built.wellFormed
  have hstate := Registry.states_of_find? (wf.mem_ids_iff.1 registered)
  obtain ⟨quiet, hbegun⟩ := idle_cases idle
  obtain ⟨awake, hunheard⟩ := Reconnector.caught_up (Reconnector.quiet_of_not_busy quiet attended.running)
  have unfelled : ¬ Felled (c.registry.host h).address (c.reconnector.unheard c.registry) := by
    rw [hunheard]
    exact fun ⟨e, he, _⟩ => absurd he List.not_mem_nil
  refine ⟨fun n s found hhost live ashore => ?_, fun up left kept => ?_, fun state punctual ashore kept => ?_⟩
  · have begun := hbegun n s found
    have haddress := (i.tidy.series s (Reconnector.mem_of_series? found)).2
    rw [hhost] at haddress
    rcases t n s found live begun with ⟨e, he, -⟩ | adrift | state
    · rw [hunheard] at he
      cases he
    · exact absurd adrift ashore
    · rw [← haddress, hstate] at state
      exact haddress ▸ Option.some.inj state
  · obtain ⟨hover, hserved⟩ := attended.looked h ⟨registered, up⟩ awake unfelled kept
    exact ⟨fun hs hp => hover hp hs, fun hp => (hserved hp).resolve_right left⟩
  · have wanting : c.Wanting h := ⟨registered, state ▸ HostState.noConfusion⟩
    obtain ⟨hover, -⟩ := attended.looked h wanting awake unfelled kept
    exact ⟨fun hs hp => hover hp hs, fun hp => tried h wanting unfelled kept punctual ashore hp (state ▸ hstate)⟩

theorem down_host_has_series :
    ∃ c₀ c s, connect oneRemote {} {} [] (.ok threePeers) = .ok c₀ ∧ c₀.run? downTwice = some c ∧
      c.isIdle = true ∧ c.reconnector.series? 0 = some s ∧ s.host = 0 ∧ s.IsLive ∧
      (c.registry.host 0).state = .down ∧ c.reconnector.HasSeries 0 := by
  have run : ∃ c₀ ∈ (connect oneRemote {} {} [] (.ok threePeers)).toOption, ∃ c ∈ c₀.run? downTwice,
      (∃ s ∈ c.reconnector.series? 0, s.host = 0 ∧ s.IsLive ∧ LeftDown s.address (c₀.past downTwice)) ∧
      ¬ Adrift 0 (c₀.past downTwice) ∧ ¬ RanOut 0 (c₀.past downTwice) ∧
      ¬ DownLost (c.registry.host 0).address (c₀.past downTwice) ∧
      ¬ PassedOver 0 (c₀.past downTwice) ∧ 0 ∈ c.registry.topology.ids ∧ c.isIdle = true := by
    decide +kernel
  obtain ⟨c₀, connected, c, ran, series, ashore, left, kept, served, registered, idle⟩ := run
  obtain ⟨s, found, hhost, live, reported⟩ := series
  have on : Action.shutdown ∉ downTwice := by simp [downTwice]
  obtain ⟨hstate, hseries, -⟩ := state_of_series (connect_of_mem connected) ran on idle registered
  have down : (c.registry.host 0).state = .down :=
    (hstate 0 s found hhost live ashore).trans (if_pos reported)
  exact ⟨c₀, c, s, connect_of_mem connected, ran, idle, found, hhost, live, down,
    (hseries (fun up => HostState.noConfusion (down.symm.trans up)) left kept).2 served⟩

/-- **A host has a live series while it is down**, and so it is not tried again. -/
theorem live_series_of_down_host :
    ¬ ∀ {policies : Policies} {defaults : QueryDefaults} {limits : Limits} {contacts : List Address}
      {report : Except Failure (List Translated)} {c₀ c : Client} {actions : List Action} {h : HostId},
      connect policies defaults limits contacts report = .ok c₀ → c₀.run? actions = some c →
      Action.shutdown ∉ actions → c.isIdle = true → h ∈ c.registry.topology.ids →
      ((c.registry.host h).state = .reconnecting ↔ c.reconnector.HasSeries h) ∧
        ((c.registry.host h).state = .down → ¬ c.reconnector.HasSeries h) := by
  intro always
  have run : ∃ c₀ ∈ (connect oneRemote {} {} [] (.ok threePeers)).toOption, ∃ c ∈ c₀.run? downTwice,
      (c.registry.host 0).state = .down ∧ (∃ s ∈ c.reconnector.series, s.host = 0 ∧ s.IsLive) ∧
        0 ∈ c.registry.topology.ids ∧ c.isIdle = true := by
    decide +kernel
  obtain ⟨c₀, connected, c, ran, down, series, registered, idle⟩ := run
  have on : Action.shutdown ∉ downTwice := by simp [downTwice]
  exact (always (connect_of_mem connected) ran on idle registered).2 down series

end Client

end CqlDispatch
