import CqlDispatch.Proofs.Client.Pace
import CqlDispatch.Proofs.Client.Steady
/-!
# Probes of ignored hosts

A series is started only for a host that is not ignored, and it does not look at the host's distance
again.  Whoever ranks the hosts anew may ignore the host while the series goes on (`Demoted`): that is the
one way in which a host that is ignored is probed (`ignored_host_probed_iff`).
-/
namespace CqlDispatch

/-! ## Distances -/

theorem Cluster.distance_transition (c : Cluster) (a : Address) (target : HostState) (e : HostEvent) (h : HostId) :
    ((c.transition a target e).2.registry.host h).distance = (c.registry.host h).distance := by
  have kept : ∀ x : Host, ({ x with state := target } : Host).distance = x.distance := fun _ => rfl
  rcases Cluster.transition_cases c a target e with he | ⟨k, -, -, he⟩ <;> rw [he]
  exact Registry.host_modify_keeps kept h

/-- **A turn of the listener starts series for hosts that are not ignored.** -/
theorem Reconnector.distance_of_hear {w : Reconnector} {b : Backoff} {r : Registry} (wf : r.WellFormed) {n : Nat}
    {s : Series} (news : w.hasNews r = true) (hle : w.heard ≤ r.log.length)
    (found : (w.hear b r).series? n = some s) (new : w.series? n = none) : (r.host s.host).distance ≠ .ignored := by
  suffices undeclined : ∃ w' : Reconnector, ¬ w'.Declines r s.host by
    obtain ⟨w', undeclined⟩ := undeclined
    exact fun ignored => undeclined (.inl ignored)
  rcases hear_cases b news hle with ⟨-, heard, -, he⟩ | ⟨-, -, -, e, -, he⟩ <;> rw [he] at found
  · exact ⟨_, (new_of_resync found new).2.2.2⟩
  · exact ⟨_, (new_of_handle wf found new).2.2.2⟩

namespace Client

/-- Whether an action ranks the hosts anew: a host left, hosts were reported, or one was added. -/
def Action.reclassifies : Action → Bool
  | .report (.hostRemoved _) | .refresh _ | .addHost _ => true
  | _ => false

section
variable {c c' : Client} {act : Action}

theorem SeriesStep.distance {n : Nat} {s s' : Series} {exhausted : List Address} {cluster : Cluster}
    (step : SeriesStep c n s act s' exhausted cluster) (k : HostId) :
    (cluster.registry.host k).distance = (c.registry.host k).distance := by
  cases step with
  | begins | succeeds | failsDry => exact Cluster.distance_transition ..
  | beginsDry => exact (Cluster.distance_transition ..).trans (Cluster.distance_transition ..)
  | wakes | wakesRemoved | fails | quits => rfl

/-- **A distance changes only as the hosts are ranked anew.** -/
theorem step?_distance (h : c.step? act = some c') (unranked : act.reclassifies = false) (k : HostId) :
    (c'.registry.host k).distance = (c.registry.host k).distance := by
  cases act with
  | submit statement options =>
    cases h
    show ((Request.start c.policies c.shared statement options).1.cluster.registry.host k).distance = _
    rw [Request.cluster_start]
    rfl
  | answer | resume | speculate | expire | cancel =>
    obtain ⟨n, r, out, -, rfl, hout⟩ := step?_ofRequest rfl h
    exact congrArg (fun x : Cluster => (x.registry.host k).distance) (hout Request.apart_cluster)
  | report e =>
    cases h
    unfold registry
    rw [cluster_report]
    cases e with
    | hostUp a | hostDown a reason => exact Cluster.distance_transition ..
    | hostRemoved a => cases unranked
  | refresh | addHost => cases unranked
  | setReplicationFactor | elapse | shutdown =>
    cases h
    rfl
  | hear =>
    simp only [step?, Option.ite_none_right_eq_some, Option.some.injEq] at h
    obtain ⟨-, rfl⟩ := h
    rfl
  | beginSeries n | wakeSeries n | probed n answer | quitSeries n =>
    obtain ⟨s, s', exhausted, -, -, step⟩ := step?_series rfl h
    exact step.distance k

/-- A series that was not there before a step is of a host that is not ignored. -/
theorem Steady.distance_of_new {b : Backoff} (i : Steady b c) (h : c.step? act = some c')
    {n : Nat} {s : Series} (found : c'.reconnector.series? n = some s) (new : c.reconnector.series? n = none) :
    (c'.registry.host s.host).distance ≠ .ignored := by
  have effect := step?_effect h
  unfold registry
  generalize c'.reconnector = w at effect found
  generalize c'.shared.cluster = cluster at effect ⊢
  cases effect with
  | elsewhere | stops => cases new.symm.trans found
  | hears news => exact Reconnector.distance_of_hear i.built.wellFormed news i.heard found new
  | @series _ m t t' _ _ foundt step =>
    exact absurd new (Reconnector.not_new_of_length List.length_set found)

/-! ## Demotions -/

/-- The host is ignored, and when it came to be so, as the hosts were ranked anew, the series of this
number was there already. -/
def Demoted (n : Nat) (h : HostId) : Client → List (Client × Action) → Prop
  | _, [] => False
  | c, (d, act) :: past => (c.registry.host h).distance = .ignored ∧
      (act.reclassifies = true ∧ (d.registry.host h).distance ≠ .ignored ∧
          (d.reconnector.series? n).isSome = true ∨ Demoted n h d past)

theorem Demoted.ignored {n : Nat} {h : HostId} : ∀ {c : Client} {past : List (Client × Action)},
    Demoted n h c past → (c.registry.host h).distance = .ignored
  | _, _ :: _, demoted => demoted.1

instance decidableDemoted (n : Nat) (h : HostId) : ∀ c past, Decidable (Demoted n h c past)
  | _, [] => .isFalse id
  | c, (d, act) :: past =>
    have := decidableDemoted n h d past
    inferInstanceAs (Decidable ((c.registry.host h).distance = .ignored ∧
      (act.reclassifies = true ∧ (d.registry.host h).distance ≠ .ignored ∧
          (d.reconnector.series? n).isSome = true ∨ Demoted n h d past)))

/-- Every series of a host that is ignored saw the host demoted. -/
def Overtaken (past : List (Client × Action)) (c : Client) : Prop :=
  ∀ n s, c.reconnector.series? n = some s → (c.registry.host s.host).distance = .ignored → Demoted n s.host c past

/-- **Every step leaves ignored hosts with series that saw them demoted.** -/
theorem Overtaken.step {b : Backoff} {past : List (Client × Action)} (overtaken : Overtaken past c) (i : Steady b c)
    (h : c.step? act = some c') : Overtaken ((c, act) :: past) c' := by
  intro n s found ignored
  cases hold : c.reconnector.series? n with
  | none => exact absurd ignored (i.distance_of_new h found hold)
  | some s₀ =>
    obtain ⟨s', hs', hhost, -⟩ := (step?_effect h).later i.heard hold
    cases found.symm.trans hs'
    by_cases before : (c.registry.host s.host).distance = .ignored
    · exact ⟨ignored, .inr (hhost ▸ overtaken n s₀ hold (hhost ▸ before))⟩
    · -- It was not ignored before, so it is this step that demotes it.
      refine ⟨ignored, .inl ⟨?_, before, by rw [hold]; rfl⟩⟩
      by_contra unranked
      rw [step?_distance h (Bool.eq_false_iff.2 unranked)] at ignored
      exact before ignored

/-- A series of the host sends a probe in this step. -/
def Probes (c c' : Client) (h : HostId) : Prop :=
  ∃ n, ∃ s ∈ c.reconnector.series? n, s.host = h ∧ c'.probeTimes n ≠ c.probeTimes n

/-- **A probe is sent as a series wakes**, unless its host was removed. -/
theorem probes_iff (step : c.step? act = some c') {h : HostId} : c.Probes c' h ↔
    ∃ n, act = .wakeSeries n ∧ ∃ s ∈ c.reconnector.series? n, s.host = h ∧ (c.registry.host h).state ≠ .removed := by
  constructor
  · rintro ⟨n, s, found, hhost, hprobe⟩
    have hact : act = .wakeSeries n := by
      by_contra still
      exact hprobe (step?_probeTimes step still)
    subst hact
    refine ⟨n, rfl, s, found, hhost, fun gone => ?_⟩
    obtain ⟨s', wake, found', -, -, ⟨-, rfl⟩ | ⟨known, -⟩⟩ := step?_wakeSeries step
    · exact hprobe rfl
    · cases found.symm.trans found'
      exact known (hhost ▸ gone)
  · rintro ⟨n, rfl, s, found, hhost, known⟩
    refine ⟨n, s, found, hhost, ?_⟩
    obtain ⟨s', wake, found', -, -, ⟨gone, -⟩ | ⟨-, rfl⟩⟩ := step?_wakeSeries step
    · cases found.symm.trans found'
      exact absurd (hhost ▸ gone) known
    · have self : (ClientEvent.probe n s'.address).isProbeOf n = true := BEq.rfl
      rw [probeTimes_note, if_pos self]
      exact fun same => absurd (congrArg List.length same) (by simp [probeTimes])

end

/-- **Which hosts that are ignored are probed.**  In every run of a client, a step probes a host that is
ignored just in case a series of the host wakes that was there already when the host came to be ignored, and
the host was not removed. -/
theorem ignored_host_probed_iff {policies : Policies} {defaults : QueryDefaults} {limits : Limits}
    {contacts : List Address} {report : Except Failure (List Translated)} {c₀ c c' : Client} {actions : List Action}
    {act : Action} {h : HostId} (connected : connect policies defaults limits contacts report = .ok c₀)
    (ran : c₀.run? actions = some c) (step : c.step? act = some c') :
    c.Probes c' h ∧ (c.registry.host h).distance = .ignored ↔
      ∃ n, act = .wakeSeries n ∧ (∃ s ∈ c.reconnector.series? n, s.host = h) ∧
        (c.registry.host h).state ≠ .removed ∧ Demoted n h c (c₀.past actions) := by
  have hrun : Steady policies.backoff c ∧ Overtaken (c₀.past actions ++ []) c := by
    refine run?_keeps (I := fun past c => Steady policies.backoff c ∧ Overtaken past c) (A := fun _ => True)
      (fun _ ⟨i, overtaken⟩ h => ⟨i.step h, overtaken.step i h⟩) (fun _ _ => trivial)
      ⟨steady_connect connected, fun n s found => ?_⟩ ran
    unfold Reconnector.series? at found
    rw [(connect_changes connected).2] at found
    cases found
  obtain ⟨-, overtaken⟩ := hrun
  rw [List.append_nil] at overtaken
  rw [probes_iff step]
  constructor
  · rintro ⟨⟨n, hact, s, found, rfl, known⟩, ignored⟩
    exact ⟨n, hact, ⟨s, found, rfl⟩, known, overtaken n s found ignored⟩
  · rintro ⟨n, hact, ⟨s, found, hhost⟩, known, demoted⟩
    exact ⟨⟨n, hact, s, found, hhost, known⟩, demoted.ignored⟩

/-- The first and the third of the three hosts. -/
def twoOfThree : List Translated := threePeers.eraseIdx 1

/-- The remote host goes down; as its series waits, another one is reported that is used in its place. -/
def demotion : List Action :=
  [.hear, .report (.hostDown ⟨.v4 0x0a000003, 9042⟩ "reset"), .hear, .beginSeries 0, .hear, .refresh threePeers,
    .elapse 1000]

theorem demoted_host_is_probed :
    ∃ c₀ c c', connect oneRemote {} {} [] (.ok twoOfThree) = .ok c₀ ∧ c₀.run? demotion = some c ∧
      c.step? (.wakeSeries 0) = some c' ∧ Demoted 0 1 c (c₀.past demotion) ∧ c.Probes c' 1 := by
  have run : ∃ c₀ ∈ (connect oneRemote {} {} [] (.ok twoOfThree)).toOption, ∃ c ∈ c₀.run? demotion,
      ∃ c' ∈ c.step? (.wakeSeries 0), (∃ s ∈ c.reconnector.series? 0, s.host = 1) ∧
        (c.registry.host 1).state ≠ .removed ∧ Demoted 0 1 c (c₀.past demotion) := by decide +kernel
  obtain ⟨c₀, connected, c, ran, c', step, series, known, demoted⟩ := run
  have h := ignored_host_probed_iff (h := 1) (connect_of_mem connected) ran step
  exact ⟨c₀, c, c', connect_of_mem connected, ran, step, demoted, (h.2 ⟨0, rfl, series, known, demoted⟩).1⟩

/-- **A host that is ignored is probed.** -/
theorem ignored_host_is_probed :
    ¬ ∀ {policies : Policies} {defaults : QueryDefaults} {limits : Limits} {contacts : List Address}
      {report : Except Failure (List Translated)} {c₀ c c' : Client} {actions : List Action} {act : Action} {h : HostId},
      connect policies defaults limits contacts report = .ok c₀ → c₀.run? actions = some c →
      c.step? act = some c' → c.Probes c' h → (c.registry.host h).distance ≠ .ignored := by
  intro always
  have run : ∃ c₀ ∈ (connect oneRemote {} {} [] (.ok twoOfThree)).toOption, ∃ c ∈ c₀.run? demotion,
      ∃ c' ∈ c.step? (.wakeSeries 0), (∃ s ∈ c.reconnector.series? 0, s.host = 1) ∧
        (c.registry.host 1).state ≠ .removed ∧ (c.registry.host 1).distance = .ignored := by decide +kernel
  obtain ⟨c₀, connected, c, ran, c', step, ⟨s, found, hhost⟩, known, ignored⟩ := run
  have probes : c.Probes c' 1 := (probes_iff step).2 ⟨0, rfl, s, found, hhost, known⟩
  exact always (connect_of_mem connected) ran step probes ignored

end Client

end CqlDispatch
