import CqlDispatch.Proofs.Client.Step
import CqlDispatch.Proofs.Cluster.Effect
/-!
# Hosts that are down and their series

The listener starts a series for a host when it looks at it while it is down: as it hears that the
host went down, or as it looks through the registry.  A host that it passes over then, it does not
look at again before the host's next event, whatever becomes of the host's distance.  So once the
listener has heard everything, a host that is down has a series just in case the last look did not
pass over it, unless its schedule ran out since (`down_has_series_iff`).
-/
namespace CqlDispatch
namespace Client

/-! ## Looks -/

/-- Whether the listener looks at a host in this step, which is down. -/
def looksAt (c : Client) (h : HostId) : Action → Bool
  | .hear =>
    if c.reconnector.resyncs c.registry then
      c.registry.topology.ids.contains h && (c.registry.host h).state == .down
    else
      match (c.reconnector.unheard c.registry).getLast? with
      | some (.down a _) => c.registry.find? a == some h
      | _ => false
  | _ => false

/-- The host has no live series, and a look at it starts none: it is ignored, or the books still
have an entry for its address, or its going down is heard while its address is marked as exhausted. -/
def PassesOver (c : Client) (h : HostId) : Prop :=
  ¬ c.reconnector.HasSeries h ∧ (c.reconnector.Declines c.registry h ∨
    c.reconnector.resyncs c.registry = false ∧ (c.registry.host h).address ∈ c.reconnector.exhausted)

instance (c : Client) (h : HostId) : Decidable (c.PassesOver h) :=
  inferInstanceAs (Decidable (¬ c.reconnector.HasSeries h ∧ (c.reconnector.Declines c.registry h ∨
    c.reconnector.resyncs c.registry = false ∧ (c.registry.host h).address ∈ c.reconnector.exhausted)))

/-- The last look at a host passed over it. -/
def PassedOver (h : HostId) : List (Client × Action) → Prop
  | [] => False
  | (c, act) :: past => if c.looksAt h act then c.PassesOver h else PassedOver h past

instance decidablePassedOver (h : HostId) : ∀ past, Decidable (PassedOver h past)
  | [] => .isFalse id
  | (c, act) :: past =>
    have := decidablePassedOver h past
    inferInstanceAs (Decidable (if c.looksAt h act then c.PassesOver h else PassedOver h past))

/-- The series that an action sends on to its next delay. -/
def Action.sentOn? : Action → Option Nat
  | .beginSeries n | .probed n (.error _) => some n
  | _ => none

/-- A series of the host has to go on and has no delay left. -/
def RunsOut (c : Client) (h : HostId) (act : Action) : Prop :=
  ∃ n ∈ act.sentOn?, ∃ s ∈ c.reconnector.series? n, s.host = h ∧ s.schedule.next = none

instance (c : Client) (h : HostId) (act : Action) : Decidable (c.RunsOut h act) :=
  inferInstanceAs (Decidable (∃ n ∈ act.sentOn?, ∃ s ∈ c.reconnector.series? n, _))

/-- A schedule of the host ran out since the host was last up. -/
def RanOut (h : HostId) : List (Client × Action) → Prop
  | [] => False
  | (c, act) :: past => c.registry.isUp h = false ∧ (c.RunsOut h act ∨ RanOut h past)

instance decidableRanOut (h : HostId) : ∀ past, Decidable (RanOut h past)
  | [] => .isFalse id
  | (c, act) :: past =>
    have := decidableRanOut h past
    inferInstanceAs (Decidable (c.registry.isUp h = false ∧ (c.RunsOut h act ∨ RanOut h past)))

/-! ## Turns of the listener -/

/-- **A look starts a series for a host that it does not pass over.** -/
theorem hasSeries_of_look {c : Client} {h : HostId} (wf : c.registry.WellFormed)
    (hle : c.reconnector.heard ≤ c.registry.log.length)
    (news : c.reconnector.hasNews c.registry = true) (look : c.looksAt h .hear = true) :
    (c.reconnector.hear c.policies.backoff c.registry).HasSeries h ↔ ¬ c.PassesOver h := by
  unfold PassesOver
  unfold looksAt at look
  rcases Reconnector.hear_cases c.policies.backoff news hle with
    ⟨hsync, heard, -, he⟩ | ⟨hsync, -, -, e, hunheard, he⟩
  · simp only [hsync, if_true, Bool.and_eq_true, List.contains_iff_mem, beq_iff_eq] at look
    rw [he, Reconnector.hasSeries_resync wf look.1 look.2, hsync]
    show c.reconnector.HasSeries h ∨ ¬ c.reconnector.Declines c.registry h ↔ _
    by_cases hs : c.reconnector.HasSeries h <;> simp [hs]
  · rw [hsync, hunheard, List.getLast?_concat] at look
    simp only [Bool.false_eq_true, if_false] at look
    cases e with
    | down a reason =>
      have hf : c.registry.find? a = some h := by simpa using look
      rw [he, Reconnector.hasSeries_handle_down _ hf, hsync, wf.find?_address hf]
      show c.reconnector.HasSeries h ∨ a ∉ c.reconnector.exhausted ∧ ¬ c.reconnector.Declines c.registry h ↔ _
      by_cases hs : c.reconnector.HasSeries h
      · simp [hs]
      · by_cases hx : a ∈ c.reconnector.exhausted <;> simp [hs, hx]
    | _ => cases look

/-- A turn without a look at a host that is down leaves it alone, if after it there is nothing left
to hear about the host. -/
theorem hear_unlooked {c : Client} {h : HostId} (wf : c.registry.WellFormed) (told : c.registry.Told)
    (tidy : c.reconnector.Tidy c.registry) (hle : c.reconnector.heard ≤ c.registry.log.length)
    (news : c.reconnector.hasNews c.registry = true) (hm : h ∈ c.registry.topology.ids)
    (hd : (c.registry.host h).state = .down) (nolook : c.looksAt h .hear = false)
    (hs : Silent (c.registry.host h).address
      ((c.reconnector.hear c.policies.backoff c.registry).unheard c.registry)) :
    c.reconnector.awake = true ∧ Silent (c.registry.host h).address (c.reconnector.unheard c.registry) ∧
      ((c.reconnector.hear c.policies.backoff c.registry).HasSeries h ↔ c.reconnector.HasSeries h) := by
  unfold looksAt at nolook
  rcases Reconnector.hear_cases c.policies.backoff news hle with
    ⟨hsync, -⟩ | ⟨hsync, hawake, -, e, hunheard, he⟩
  · simp [hsync, hm, hd] at nolook
  rw [hsync, hunheard, List.getLast?_concat] at nolook
  simp only [Bool.false_eq_true, if_false] at nolook
  have tidy' : { c.reconnector with heard := c.reconnector.heard + 1 }.Tidy c.registry :=
    ⟨tidy.series, tidy.current⟩
  rw [he, Reconnector.unheard_handle] at hs
  rw [he, hunheard, silent_append]
  by_cases ha : e.address = (c.registry.host h).address
  · cases ht : e.tells with
    | none =>
      refine ⟨hawake, ⟨hs, fun x hx _ => by rw [List.mem_singleton.1 hx, ht]⟩, ?_⟩
      cases e with
      | added a => exact .rfl
      | _ => cases ht
    | some s =>
      -- Nothing newer tells of the host, so this is the event that made it go down.
      have hlast : lastTold (c.registry.host h).address c.registry.log = some s := by
        rw [Reconnector.log_of_unheard hunheard, lastTold_append hs, lastTold_cons ha ht]
      rcases told h hm with hup | htold
      · rw [hd] at hup
        cases hup
      · rw [hlast, hd] at htold
        cases htold
        cases e with
        | down a reason =>
          have hf : c.registry.find? a = some h := by
            have hself := wf.mem_ids_iff.1 hm
            rwa [← ha] at hself
          simp [hf] at nolook
        | _ => cases ht
  · refine ⟨hawake, ⟨hs, fun x hx hxa => ?_⟩, Reconnector.hasSeries_handle_ne tidy' wf _ ha⟩
    rw [List.mem_singleton.1 hx] at hxa
    exact absurd hxa ha

/-! ## The invariant -/

/-- What holds of the reconnector and the registry all along a run.  Of a host that is down, and of
which there is nothing left to hear, the last look tells whether it has a series. -/
structure Watched (past : List (Client × Action)) (w : Reconnector) (r : Registry) : Prop where
  wellFormed : r.WellFormed
  told : r.Told
  tidy : w.Tidy r
  heard : w.heard ≤ r.log.length
  running : w.stopped = false
  looked : ∀ h ∈ r.topology.ids, (r.host h).state = .down → w.awake = true →
    Silent (r.host h).address (w.unheard r) →
      (PassedOver h past → ¬ w.HasSeries h) ∧ (¬ PassedOver h past → w.HasSeries h ∨ RanOut h past)

theorem passedOver_unlooked {c : Client} {act : Action} {h : HostId} {past : List (Client × Action)}
    (nolook : c.looksAt h act = false) : PassedOver h ((c, act) :: past) ↔ PassedOver h past := by
  rw [PassedOver, nolook]
  exact .rfl

theorem isUp_of_down {r : Registry} {h : HostId} (hd : (r.host h).state = .down) : r.isUp h = false := by
  unfold Registry.isUp Host.isUp
  rw [hd]
  rfl

section Step
variable {past : List (Client × Action)} {c : Client}

/-- A step without a look keeps the invariant, if a host that is down loses its series only to the
end of its schedule. -/
theorem Watched.unlooked {act : Action} {w : Reconnector} {cluster : Cluster}
    (i : Watched past c.reconnector c.registry) (changes : Cluster.Changes c.shared.cluster cluster)
    (nolook : ∀ h, c.looksAt h act = false) (progress : w.progress = c.reconnector.progress)
    (tidy : w.Tidy cluster.registry) (old : ∀ h, w.HasSeries h → c.reconnector.HasSeries h)
    (kept : ∀ h ∈ cluster.registry.topology.ids, (cluster.registry.host h).state = .down →
      c.reconnector.HasSeries h → w.HasSeries h ∨ c.RunsOut h act) :
    Watched ((c, act) :: past) w cluster.registry := by
  obtain ⟨new, hlog, hdown⟩ := changes.continues i.wellFormed
  have hheard : w.heard = c.reconnector.heard := congrArg (·.1) progress
  have hawake : w.awake = c.reconnector.awake := congrArg (·.2.1) progress
  have hstopped : w.stopped = c.reconnector.stopped := congrArg (·.2.2) progress
  have hle := i.heard
  refine ⟨changes.wellFormed i.wellFormed, changes.told i.wellFormed i.told, tidy, ?_,
    hstopped.trans i.running, fun h hm hd ha hs => ?_⟩
  · rw [hheard, hlog, List.length_append]
    exact Nat.le_add_left_of_le hle
  have hunheard : w.unheard cluster.registry = new ++ c.reconnector.unheard c.registry := by
    rw [← Reconnector.unheard_append hle hlog]
    unfold Reconnector.unheard
    rw [hheard]
  rw [hunheard, silent_append] at hs
  obtain ⟨hm₀, hd₀⟩ := hdown h hm hd hs.1
  have haddress := (changes.extends i.wellFormed).address h (i.wellFormed.lt_of_mem hm₀)
  obtain ⟨hover, hserved⟩ := i.looked h hm₀ hd₀ (hawake ▸ ha) (haddress ▸ hs.2)
  rw [passedOver_unlooked (nolook h)]
  refine ⟨fun hp hh => hover hp (old h hh), fun hp => ?_⟩
  rcases hserved hp with hh | hr
  · rcases kept h hm hd hh with hh | ho
    · exact .inl hh
    · exact .inr ⟨isUp_of_down hd₀, .inl ho⟩
  · exact .inr ⟨isUp_of_down hd₀, .inr hr⟩

/-- A live series of a host that does not come up ends only as its schedule runs out. -/
theorem SeriesStep.runsOut {n : Nat} {s s' : Series} {act : Action} {exhausted : List Address} {cluster : Cluster}
    (step : SeriesStep c n s act s' exhausted cluster) (found : c.reconnector.series? n = some s)
    (tidy : c.reconnector.Tidy c.registry) (wf : c.registry.WellFormed) (running : c.reconnector.stopped = false)
    (hm : s.host ∈ cluster.registry.topology.ids) (hd : (cluster.registry.host s.host).state ≠ .up)
    (live : s.cancelled = false) (ended : s'.phase = .over) : c.RunsOut s.host act := by
  have haddress := (tidy.series s (Reconnector.mem_of_series? found)).2
  cases step with
  | begins created next => cases ended
  | beginsDry created dry => exact ⟨n, rfl, s, found, rfl, dry⟩
  | wakes waiting due known => cases ended
  | wakesRemoved waiting due gone => exact absurd gone (wf.ne_removed hm)
  | succeeds probing =>
    have hm₀ : s.host ∈ c.registry.topology.ids :=
      (congrArg Topology.ids (Cluster.topology_transition _ _ _ _)) ▸ hm
    have hf := wf.mem_ids_iff.1 hm₀
    rw [haddress] at hf
    exact absurd (Cluster.markUp_state wf hf) hd
  | fails probing next => cases ended
  | failsDry probing dry => exact ⟨n, rfl, s, found, rfl, dry⟩
  | quits begun running' cancelled =>
    rw [Reconnector.isCancelled, live, running] at cancelled
    cases cancelled

/-- A step of a series gives no host a live series that had none. -/
theorem SeriesStep.hasSeries_before {n : Nat} {s s' : Series} {act : Action} {exhausted : List Address}
    {cluster : Cluster} (step : SeriesStep c n s act s' exhausted cluster) (found : c.reconnector.series? n = some s)
    {h : HostId} (hs : { c.reconnector with series := c.reconnector.series.set n s' }.HasSeries h) :
    c.reconnector.HasSeries h := by
  obtain ⟨busy, hhost, -, hcancelled⟩ := step.keeps
  rcases Reconnector.HasSeries.of_set hs with hs | ⟨hh, -, hc⟩
  · exact hs
  · exact ⟨s, Reconnector.mem_of_series? found, hhost ▸ hh, busy, hcancelled ▸ hc⟩

/-- A host that does not come up loses its live series only as the schedule runs out. -/
theorem SeriesStep.hasSeries_after {n : Nat} {s s' : Series} {act : Action} {exhausted : List Address}
    {cluster : Cluster} (step : SeriesStep c n s act s' exhausted cluster) (found : c.reconnector.series? n = some s)
    (tidy : c.reconnector.Tidy c.registry) (wf : c.registry.WellFormed) (running : c.reconnector.stopped = false)
    {h : HostId} (hm : h ∈ cluster.registry.topology.ids) (hd : (cluster.registry.host h).state ≠ .up)
    (hs : c.reconnector.HasSeries h) :
    { c.reconnector with series := c.reconnector.series.set n s' }.HasSeries h ∨ c.RunsOut h act := by
  obtain ⟨-, hhost, -, hcancelled⟩ := step.keeps
  rcases hs.set found with hs | ⟨rfl, -, hc⟩
  · exact .inl hs
  · by_cases hover : s'.phase = .over
    · exact .inr (step.runsOut found tidy wf running hm hd hc hover)
    · exact .inl (Reconnector.hasSeries_set_self found hhost ⟨hover, hcancelled.trans hc⟩)

theorem Watched.heard_turn (i : Watched past c.reconnector c.registry)
    (news : c.reconnector.hasNews c.registry = true) :
    Watched ((c, .hear) :: past) (c.reconnector.hear c.policies.backoff c.registry) c.registry := by
  obtain ⟨tidy, hheard, hstopped⟩ :=
    Reconnector.hear_keeps i.tidy i.wellFormed c.policies.backoff news i.heard
  refine ⟨i.wellFormed, i.told, tidy, hheard, hstopped.trans i.running, fun h hm hd _ hs => ?_⟩
  cases look : c.looksAt h .hear with
  | true =>
    have hlooked := hasSeries_of_look i.wellFormed i.heard news look
    rw [PassedOver, look, if_pos rfl]
    exact ⟨fun hp hh => hlooked.1 hh hp, fun hp => .inl (hlooked.2 hp)⟩
  | false =>
    obtain ⟨hawake, hs, hsame⟩ := hear_unlooked i.wellFormed i.told i.tidy i.heard news hm hd look hs
    obtain ⟨hover, hserved⟩ := i.looked h hm hd hawake hs
    rw [passedOver_unlooked look, hsame]
    refine ⟨hover, fun hp => ?_⟩
    rcases hserved hp with hh | hr
    · exact .inl hh
    · exact .inr ⟨isUp_of_down hd, .inr hr⟩

/-- **Every step but the shutdown keeps the invariant.** -/
theorem Watched.step {act : Action} {w : Reconnector} {cluster : Cluster}
    (i : Watched past c.reconnector c.registry) (effect : Effect c act w cluster) (on : act ≠ .shutdown) :
    Watched ((c, act) :: past) w cluster.registry := by
  cases effect with
  | elsewhere apart changes =>
    have nolook : ∀ h, c.looksAt h act = false := fun h => by
      cases act <;> first | rfl | cases apart
    exact i.unlooked changes nolook rfl (i.tidy.extends (changes.extends i.wellFormed)) (fun _ hs => hs)
      fun _ _ _ hs => .inl hs
  | hears news => exact i.heard_turn news
  | @series _ n s s' exhausted _ found step =>
    obtain ⟨-, hhost, ha, -⟩ := step.keeps
    have nolook : ∀ h, c.looksAt h act = false := fun h => by cases step <;> rfl
    have tidy := (i.tidy.set found hhost ha).extends (step.changes.extends i.wellFormed)
    exact i.unlooked step.changes nolook rfl ⟨tidy.series, tidy.current⟩ (fun h hs => step.hasSeries_before found hs)
      fun h hm hd hs => step.hasSeries_after found i.tidy i.wellFormed i.running hm (hd ▸ HostState.noConfusion) hs
  | stops => exact absurd rfl on

end Step

theorem watched_connect {policies : Policies} {defaults : QueryDefaults} {limits : Limits}
    {contacts : List Address} {report : Except Failure (List Translated)} {c : Client}
    (h : connect policies defaults limits contacts report = .ok c) : Watched [] c.reconnector c.registry := by
  obtain ⟨changes, hw⟩ := connect_changes h
  have wf := changes.wellFormed (Registry.wellFormed_empty 0)
  rw [hw]
  exact ⟨wf, changes.told (Registry.wellFormed_empty 0) (Registry.told_empty 0),
    ⟨fun _ hs => absurd hs List.not_mem_nil, fun _ hm => absurd hm List.not_mem_nil⟩, Nat.le_refl _, rfl,
    fun _ _ _ ha => absurd ha Bool.false_ne_true⟩

/-- **Which hosts that are down have a series.**  In every run of a client before its shutdown, once
the listener has nothing left to do, a registered host that is down, and whose schedule has not run
out since it was up, has a live series just in case the last look at it did not pass over it. -/
theorem down_has_series_iff {policies : Policies} {defaults : QueryDefaults} {limits : Limits}
    {contacts : List Address} {report : Except Failure (List Translated)} {c₀ c : Client} {actions : List Action}
    {h : HostId} (connected : connect policies defaults limits contacts report = .ok c₀)
    (ran : c₀.run? actions = some c) (on : Action.shutdown ∉ actions)
    (quiet : c.reconnector.hasNews c.registry = false) (registered : h ∈ c.registry.topology.ids)
    (down : (c.registry.host h).state = .down) (left : ¬ RanOut h (c₀.past actions)) :
    c.reconnector.HasSeries h ↔ ¬ PassedOver h (c₀.past actions) := by
  have hwatched : Watched (c₀.past actions ++ []) c.reconnector c.registry :=
    run?_keeps (I := fun past c => Watched past c.reconnector c.registry) (A := (· ≠ .shutdown))
      (fun on i h => i.step (step?_effect h) on) (fun _ hact he => on (he ▸ hact))
      (watched_connect connected) ran
  rw [List.append_nil] at hwatched
  obtain ⟨hawake, hunheard⟩ := Reconnector.caught_up quiet
  have hsilent : Silent (c.registry.host h).address (c.reconnector.unheard c.registry) := hunheard ▸ silent_nil _
  obtain ⟨hover, hserved⟩ := hwatched.looked h registered down hawake hsilent
  constructor
  · exact fun hs hp => hover hp hs
  · exact fun hp => (hserved hp).resolve_right left

/-- Of every datacenter but the local one the first host is used, and hosts that are down are probed
every second. -/
def oneRemote : Policies :=
  { balancer := .dcAware { configured := some "dc1", perRemoteDc := 1 }, backoff := .constant (.ofSeconds 1) }

/-- One local host and two of another datacenter. -/
def threePeers : List Translated :=
  Translator.identity.answers
    [⟨⟨.v4 0x0a000001, 9042⟩, { datacenter := some "dc1" }⟩,
      ⟨⟨.v4 0x0a000002, 9042⟩, { datacenter := some "dc2" }⟩,
      ⟨⟨.v4 0x0a000003, 9042⟩, { datacenter := some "dc2" }⟩]

/-- The local host goes down, and is reported down once more while its series waits. -/
def downTwice : List Action :=
  [.hear, .report (.hostDown ⟨.v4 0x0a000001, 9042⟩ "reset"), .hear, .beginSeries 0,
    .report (.hostDown ⟨.v4 0x0a000001, 9042⟩ "reset"), .hear, .hear]

theorem down_twice_has_series :
    ∃ c₀ c, connect oneRemote {} {} [] (.ok threePeers) = .ok c₀ ∧ c₀.run? downTwice = some c ∧
      c.reconnector.hasNews c.registry = false ∧ (c.registry.host 0).state = .down ∧
      c.reconnector.HasSeries 0 := by
  have hon : Action.shutdown ∉ downTwice := by simp [downTwice]
  have hseries := @down_has_series_iff oneRemote {} {} [] (.ok threePeers) _ _ downTwice 0 rfl rfl hon rfl
    (by decide) rfl (by decide)
  exact ⟨_, _, rfl, rfl, rfl, rfl, hseries.2 (by decide)⟩

/-- The third host goes down while it is ignored; then the second is removed, and the third is used
in its place. -/
def promotion : List Action :=
  [.hear, .report (.hostDown ⟨.v4 0x0a000003, 9042⟩ "reset"), .hear,
    .report (.hostRemoved ⟨.v4 0x0a000002, 9042⟩), .hear]

/-- **A host that is promoted while it is down gets no series**, although nothing is left to do, it is
not ignored, and no schedule of it ran out. -/
theorem promoted_host_has_no_series :
    ¬ ∀ {policies : Policies} {defaults : QueryDefaults} {limits : Limits} {contacts : List Address}
      {report : Except Failure (List Translated)} {c₀ c : Client} {actions : List Action} {h : HostId},
      connect policies defaults limits contacts report = .ok c₀ → c₀.run? actions = some c →
      Action.shutdown ∉ actions → c.isIdle = true → h ∈ c.registry.topology.ids →
      (c.registry.host h).state = .down → (c.registry.host h).distance ≠ .ignored →
      ¬ RanOut h (c₀.past actions) → c.reconnector.HasSeries h := by
  intro always
  have hon : Action.shutdown ∉ promotion := by simp [promotion]
  have hseries := @always oneRemote {} {} [⟨.v4 0x0a000001, 9042⟩] (.ok threePeers) _ _ promotion 2 rfl rfl hon
    rfl (by decide) rfl (by decide) (by decide)
  exact absurd hseries (by decide)

end Client

end CqlDispatch
