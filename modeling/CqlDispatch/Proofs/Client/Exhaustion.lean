import CqlDispatch.Proofs.Client.Lagging
/-!
# Hosts that are up when a schedule runs out

A series that has to go on and has no delay left takes the host of its address down, whatever state it
is in (`up_host_taken_down_iff`).  A series that was not cancelled does so for a host that is not up, or of which
the listener has yet to hear that it came up, or it is adrift.
-/
namespace CqlDispatch
namespace Client

/-- **A step of a series takes a host down that is up just in case a schedule of its address runs out.** -/
theorem SeriesStep.state_of_up {c : Client} {n : Nat} {s s' : Series} {act : Action} {exhausted : List Address}
    {cluster : Cluster} (step : SeriesStep c n s act s' exhausted cluster) (found : c.reconnector.series? n = some s)
    (wf : c.registry.WellFormed) {h : HostId} (registered : h ∈ c.registry.topology.ids)
    (up : (c.registry.host h).state = .up) :
    ¬ c.RunsOutAt (c.registry.host h).address act ∧ (cluster.registry.host h).state = .up ∨
      c.RunsOutAt (c.registry.host h).address act ∧ (cluster.registry.host h).state = .down := by
  have known := wf.mem_ids_iff.1 registered
  have downed : ∀ {cluster : Cluster}, cluster.registry.WellFormed → cluster.registry.topology = c.registry.topology →
      (cluster.registry.host h).state = .up → s.schedule.next = none → act.sentOn? = some n →
      ¬ c.RunsOutAt (c.registry.host h).address act ∧
          ((cluster.markDown s.address "reconnection schedule exhausted").2.registry.host h).state = .up ∨
        c.RunsOutAt (c.registry.host h).address act ∧
          ((cluster.markDown s.address "reconnection schedule exhausted").2.registry.host h).state = .down := by
    intro cluster wf' topology up' dry sent
    have hfind : cluster.registry.find? s.address = c.registry.find? s.address := congrArg (·.find? s.address) topology
    unfold Cluster.markDown
    rw [runsOutAt_iff found sent, Cluster.state_transition wf', hfind, up']
    by_cases ha : s.address = (c.registry.host h).address
    · exact .inr ⟨⟨ha, dry⟩, if_pos ⟨ha ▸ known, by decide⟩⟩
    · exact .inl ⟨fun hs => ha hs.1, if_neg fun hs => ha (wf.find?_address hs.1).symm⟩
  have kept : ∀ {target : HostState} {e : HostEvent}, .up ∉ target.sources →
      ((c.shared.cluster.transition s.address target e).2.registry.host h).state = .up := by
    intro target e hsource
    rw [Cluster.state_transition wf, if_neg fun hs => hsource (up ▸ hs.2)]
    exact up
  cases step with
  | begins created next =>
    refine .inl ⟨fun hs => ?_, kept (by decide)⟩
    rw [((runsOutAt_iff found rfl).1 hs).2] at next
    cases next
  | beginsDry created dry =>
    exact downed ((Cluster.startReconnecting_changes _ _).wellFormed wf) (Cluster.topology_transition _ _ _ _)
      (kept (by decide)) dry rfl
  | succeeds probing => exact .inl ⟨not_runsOutAt rfl, kept (by decide)⟩
  | fails probing next =>
    refine .inl ⟨fun hs => ?_, up⟩
    rw [((runsOutAt_iff found rfl).1 hs).2] at next
    cases next
  | failsDry probing dry => exact downed wf rfl up dry rfl
  | wakes | wakesRemoved | quits => exact .inl ⟨not_runsOutAt rfl, up⟩

/-- **Which hosts that are up a series takes down.**  In every run of a client, a step of a series leaves a host
that is up as it is, unless a schedule of its address runs out in that step: then it takes the host down.  The
series was cancelled then, or the listener has yet to hear that the host came up, or the series is adrift. -/
theorem up_host_taken_down_iff {policies : Policies} {defaults : QueryDefaults} {limits : Limits}
    {contacts : List Address} {report : Except Failure (List Translated)} {c₀ c c' : Client} {actions : List Action}
    {act : Action} {n : Nat} {h : HostId} (connected : connect policies defaults limits contacts report = .ok c₀)
    (ran : c₀.run? actions = some c) (turn : act.series? = some n) (step : c.step? act = some c')
    (up : (c.registry.host h).state = .up) :
    ((c'.registry.host h).state = .up ∨ (c'.registry.host h).state = .down) ∧
    ((c'.registry.host h).state = .down ↔ c.RunsOutAt (c.registry.host h).address act) ∧
    ((c'.registry.host h).state = .down → ∃ s, c.reconnector.series? n = some s ∧
      (s.cancelled = true ∨ Settled s.address (c.reconnector.unheard c.registry) ∨ Adrift n (c₀.past actions))) := by
  obtain ⟨i, f, -, -⟩ := run?_supervised connected ran
  have wf : c.registry.WellFormed := i.built.wellFormed
  have hlt : h < c.registry.hosts.length := by
    refine Nat.lt_of_not_le fun hle => ?_
    unfold Registry.host at up
    rw [List.getElem?_eq_none hle] at up
    cases up
  have registered : h ∈ c.registry.topology.ids :=
    (i.built.accounted h hlt).resolve_right fun hr => by
      rw [show (c.registry.host h).state = _ from hr] at up
      cases up
  obtain ⟨s, s', exhausted, found, -, series⟩ := step?_series turn step
  have hstate : ¬ c.RunsOutAt (c.registry.host h).address act ∧ (c'.registry.host h).state = .up ∨
      c.RunsOutAt (c.registry.host h).address act ∧ (c'.registry.host h).state = .down :=
    series.state_of_up found wf registered up
  rcases hstate with ⟨hleft, hup⟩ | ⟨hout, hdown⟩
  · rw [hup]
    exact ⟨.inl rfl, ⟨nofun, fun hout => absurd hout hleft⟩, nofun⟩
  rw [hdown]
  refine ⟨.inr rfl, ⟨fun _ => hout, fun _ => rfl⟩, fun _ => ⟨s, found, ?_⟩⟩
  cases goesOn : s.cancelled with
  | true => exact .inl rfl
  | false =>
    refine .inr ((f.wanting n s found ⟨series.keeps.1, goesOn⟩).imp_right fun h' => h'.resolve_right fun wanting => ?_)
    -- The host that the series is there for is this one, which is up.
    obtain ⟨m, sent, x, hx, hxa, -⟩ := hout
    cases (Action.series?_of_sentOn? sent).symm.trans turn
    cases found.symm.trans hx
    have haddress := (i.tidy.series s (Reconnector.mem_of_series? found)).2
    cases wf.address_inj wanting.1 registered (haddress.trans hxa)
    exact wanting.2 up

/-- A host that is down is probed once, after a second. -/
def oneProbe : Policies := { balancer := .roundRobin none 0, backoff := oneRemoteProbe.backoff }

/-- The last probe of a host is on its way when the connection layer reports that the host is up. -/
def upBeforeLastProbe : List Action :=
  [.hear, .report (.hostDown ⟨.v4 0x0a000001, 9042⟩ "reset"), .hear, .beginSeries 0, .hear, .elapse 1000,
    .wakeSeries 0, .report (.hostUp ⟨.v4 0x0a000001, 9042⟩)]

theorem last_probe_takes_up_host_down :
    ∃ c₀ c c', connect oneProbe {} {} [] (.ok threePeers) = .ok c₀ ∧ c₀.run? upBeforeLastProbe = some c ∧
      c.step? (.probed 0 (.error (.connection "refused"))) = some c' ∧ (c.registry.host 0).state = .up ∧
      (c'.registry.host 0).state = .down ∧
      Settled (c.registry.host 0).address (c.reconnector.unheard c.registry) := by
  have h := @up_host_taken_down_iff oneProbe {} {} [] (.ok threePeers) _ _ _ upBeforeLastProbe
    (.probed 0 (.error (.connection "refused"))) 0 0 rfl rfl rfl rfl rfl
  obtain ⟨s, found, cause⟩ := h.2.2 rfl
  refine ⟨_, _, _, rfl, rfl, rfl, rfl, rfl, ?_⟩
  cases found
  exact (cause.resolve_left (by decide)).resolve_right (by decide)

/-- A host that goes down is not probed at all. -/
def unprobed : Policies := { balancer := .roundRobin none 0, backoff := .custom fun _ _ => none }

/-- A host goes down and comes up again before its series begins. -/
def upBeforeSeries : List Action :=
  [.hear, .report (.hostDown ⟨.v4 0x0a000001, 9042⟩ "reset"), .report (.hostUp ⟨.v4 0x0a000001, 9042⟩), .hear, .hear]

/-- **A series takes a host down that is up.** -/
theorem series_takes_up_host_down :
    ¬ ∀ {policies : Policies} {defaults : QueryDefaults} {limits : Limits} {contacts : List Address}
      {report : Except Failure (List Translated)} {c₀ c c' : Client} {actions : List Action} {act : Action} {n : Nat}
      {h : HostId}, connect policies defaults limits contacts report = .ok c₀ → c₀.run? actions = some c →
      act.series? = some n → c.step? act = some c' → (c.registry.host h).state = .up →
      (c'.registry.host h).state = .up := by
  intro always
  have hup := @always unprobed {} {} [] (.ok threePeers) _ _ _ upBeforeSeries (.beginSeries 0) 0 0 rfl rfl rfl rfl rfl
  exact absurd hup (by decide)

end Client

end CqlDispatch
