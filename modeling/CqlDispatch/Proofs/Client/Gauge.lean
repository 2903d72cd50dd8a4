import CqlDispatch.Proofs.Client.Exhaustion
import CqlDispatch.Proofs.Cluster.UpCount
/-!
# The number of hosts up, as published

A client publishes how many hosts are up as it connects, after every report of the connection layer and after
every topology report.  A probe that brings a host up publishes nothing, and neither does a schedule that runs out
or a host that is added: until something is published again, the published number is off by what they made of it
(`published_hosts_up`).
-/
namespace CqlDispatch

def ClientEvent.hostsUp? : ClientEvent → Option Nat
  | hostsUp n => some n
  | request _ _ | probe _ _ => none

instance (a : Address) (m : Address → Option HostState) : Decidable (Broken a m) :=
  inferInstanceAs (Decidable (∃ s ∈ m a, s ≠ .up))

/-- A host that is not up is one that can come up. -/
theorem Broken.iff_source {r : Registry} (w : r.WellFormed) (a : Address) :
    Broken a r.states ↔ ∃ s ∈ r.states a, s ∈ HostState.up.sources := by
  refine exists_congr fun s => and_congr_right fun hs => ?_
  obtain ⟨h, known, rfl⟩ := Option.map_eq_some_iff.1 hs
  have present := w.ne_removed (Registry.mem_ids_of_find? known)
  cases hstate : (r.host h).state with
  | up | down | reconnecting => decide
  | removed => exact absurd hstate present

namespace Client

/-- The number that was published last. -/
def published? (c : Client) : Option Nat := c.journal.findSome? (·.event.hostsUp?)

/-- Whether an action publishes how many hosts are up. -/
def Action.publishes : Action → Bool
  | .report _ | .refresh _ => true
  | _ => false

/-- A host comes up without a report: by a probe, or as it is added. -/
def BringsUp (c : Client) : Action → Prop
  | .probed n (.ok _) => ∃ s ∈ c.reconnector.series? n, Broken s.address c.registry.states
  | .addHost a => c.registry.find? a = none
  | _ => False

/-- A host goes down without a report: a schedule of its address runs out while it is up. -/
def TakesDown (c : Client) (act : Action) : Prop :=
  ∃ n ∈ act.sentOn?, ∃ s ∈ c.reconnector.series? n, s.schedule.next = none ∧ c.registry.states s.address = some .up

instance (c : Client) : (act : Action) → Decidable (c.BringsUp act)
  | .probed n (.ok _) => inferInstanceAs (Decidable (∃ s ∈ c.reconnector.series? n, _))
  | .addHost a => inferInstanceAs (Decidable (c.registry.find? a = none))
  | .probed _ (.error _) | .submit .. | .answer .. | .resume .. | .speculate _ | .expire _ | .cancel _ | .report _
    | .refresh _ | .setReplicationFactor .. | .hear | .beginSeries _ | .wakeSeries _ | .quitSeries _ | .shutdown
    | .elapse _ => inferInstanceAs (Decidable False)

instance (c : Client) (act : Action) : Decidable (c.TakesDown act) :=
  inferInstanceAs (Decidable (∃ n ∈ act.sentOn?, _))

/-- What was done since something was published, the newest first. -/
def sincePublished (past : List (Client × Action)) : List (Client × Action) := past.takeWhile fun x => !x.2.publishes

def broughtUp (past : List (Client × Action)) : Nat := past.countP fun x => decide (x.1.BringsUp x.2)

def takenDown (past : List (Client × Action)) : Nat := past.countP fun x => decide (x.1.TakesDown x.2)

/-! ## One step -/

section
variable {c c' : Client} {act : Action}

theorem not_takesDown (unsent : act.sentOn? = none) : ¬ c.TakesDown act := by
  rintro ⟨n, hn, -⟩
  rw [unsent] at hn
  cases hn

theorem takesDown_iff {n : Nat} {s : Series} (found : c.reconnector.series? n = some s) (sent : act.sentOn? = some n) :
    c.TakesDown act ↔ s.schedule.next = none ∧ c.registry.states s.address = some .up := by
  constructor
  · rintro ⟨k, hk, t, ht, hta⟩
    cases sent.symm.trans hk
    cases found.symm.trans ht
    exact hta
  · exact fun hs => ⟨n, sent, s, found, hs⟩

/-- A step of a series counts a host up that its probe has reached, and a host down of which the schedule ran out. -/
theorem SeriesStep.upCount {n : Nat} {s s' : Series} {exhausted : List Address} {cluster : Cluster}
    (step : SeriesStep c n s act s' exhausted cluster) (found : c.reconnector.series? n = some s)
    (w : c.registry.WellFormed) : cluster.registry.upCount + (if c.TakesDown act then 1 else 0) =
      c.registry.upCount + (if c.BringsUp act then 1 else 0) := by
  have idle : (∀ u, act ≠ .probed n (.ok u)) → ¬ c.BringsUp act := fun unsaid => by
    cases step with
    | succeeds => exact absurd rfl (unsaid _)
    | begins | beginsDry | wakes | wakesRemoved | fails | failsDry | quits => exact id
  cases step with
  | begins created next =>
    rw [if_neg (idle nofun), if_neg fun down => nomatch next.symm.trans ((takesDown_iff found rfl).1 down).1]
    exact Cluster.upCount_startReconnecting w _
  | beginsDry created dry =>
    have takes : c.TakesDown (.beginSeries n) ↔ c.registry.states s.address = some .up :=
      (takesDown_iff found rfl).trans (and_iff_right dry)
    have tried := (Cluster.startReconnecting_changes c.shared.cluster s.address).wellFormed w
    have count := Cluster.upCount_markDown tried s.address "reconnection schedule exhausted"
    rw [Cluster.upCount_startReconnecting w] at count
    simp only [Cluster.up_startReconnecting_iff w] at count
    rw [if_neg (idle nofun)]
    simp only [takes]
    exact count
  | @succeeds u probing =>
    have brings : c.BringsUp (.probed n (.ok u)) ↔ Broken s.address c.registry.states := by
      refine ⟨?_, fun broken => ⟨s, found, broken⟩⟩
      rintro ⟨t, ht, broken⟩
      cases found.symm.trans ht
      exact broken
    rw [if_neg (not_takesDown rfl)]
    simp only [brings, Broken.iff_source w]
    exact Cluster.upCount_markUp w _
  | fails probing next =>
    rw [if_neg (idle nofun), if_neg fun down => nomatch next.symm.trans ((takesDown_iff found rfl).1 down).1]
    rfl
  | @failsDry f probing dry =>
    have takes : c.TakesDown (.probed n (.error f)) ↔ c.registry.states s.address = some .up :=
      (takesDown_iff found rfl).trans (and_iff_right dry)
    rw [if_neg (idle nofun)]
    simp only [takes]
    exact Cluster.upCount_markDown w _ _
  | wakes | wakesRemoved | quits =>
    rw [if_neg (not_takesDown rfl), if_neg (idle nofun)]
    rfl

/-- **A step that publishes nothing changes the number of hosts up by the host that it brings up or takes down.** -/
theorem step?_upCount (w : c.registry.WellFormed) (silent : act.publishes = false) (h : c.step? act = some c') :
    c'.registry.upCount + (if c.TakesDown act then 1 else 0) =
      c.registry.upCount + (if c.BringsUp act then 1 else 0) := by
  have hcluster := step?_operations h
  have still : c'.registry.upCount = c.registry.upCount → act.sentOn? = none → ¬ c.BringsUp act →
      c'.registry.upCount + (if c.TakesDown act then 1 else 0) =
        c.registry.upCount + (if c.BringsUp act then 1 else 0) := fun same unsent unbrought => by
    rw [if_neg (not_takesDown unsent), if_neg unbrought, same]
  cases act with
  | beginSeries n | wakeSeries n | probed n answer | quitSeries n =>
    obtain ⟨s, s', exhausted, found, -, step⟩ := step?_series rfl h
    exact step.upCount found w
  | report | refresh => cases silent
  | addHost a =>
    have brings : c.BringsUp (.addHost a) ↔ c.registry.find? a = none := .rfl
    rw [if_neg (not_takesDown rfl)]
    unfold registry at brings ⊢
    rw [hcluster]
    simp only [brings]
    exact Cluster.upCount_add w a none
  | submit | answer | resume | speculate | expire | cancel | setReplicationFactor | hear | shutdown | elapse =>
    refine still ?_ rfl id
    unfold registry
    rw [hcluster]
    rfl

/-- A step that publishes nothing leaves what was published last. -/
theorem step?_published (silent : act.publishes = false) (h : c.step? act = some c') :
    c'.published? = c.published? := by
  have requests : ∀ (n : Nat) (l : List (Moment RequestEvent)) (journal : List (Moment ClientEvent)),
      (l.map (fun m => (⟨m.time, .request n m.event⟩ : Moment ClientEvent)) ++ journal).findSome?
        (·.event.hostsUp?) = journal.findSome? (·.event.hostsUp?) := fun n l journal => by
    rw [List.findSome?_append, List.findSome?_eq_none_iff.2, Option.none_or]
    rintro x hx
    obtain ⟨m, -, rfl⟩ := List.mem_map.1 hx
    rfl
  cases act with
  | report | refresh => cases silent
  | submit statement options =>
    cases h
    exact requests _ _ _
  | answer | resume | speculate | expire | cancel =>
    obtain ⟨n, r, out, -, rfl, -⟩ := step?_ofRequest rfl h
    exact requests _ _ _
  | wakeSeries n =>
    obtain ⟨s, wake, -, -, -, ⟨-, rfl⟩ | ⟨-, rfl⟩⟩ := step?_wakeSeries h <;> rfl
  | hear | beginSeries | probed | quitSeries | shutdown =>
    rw [step?_ofReconnector rfl (fun _ => Action.noConfusion) h]
    rfl
  | addHost | setReplicationFactor | elapse =>
    cases h
    rfl

/-- A step that publishes publishes how many hosts are up after it. -/
theorem step?_publishes (publishes : act.publishes = true) (h : c.step? act = some c') :
    c'.published? = some c'.registry.upCount := by
  cases act with
  | report e =>
    cases h
    cases e <;> rfl
  | refresh report =>
    cases h
    rfl
  | _ => cases publishes

end

/-! ## Runs -/

/-- The published number and what happened since make up the number of hosts up. -/
def Gauged (past : List (Client × Action)) (c : Client) : Prop :=
  ∃ n, c.published? = some n ∧
    n + broughtUp (sincePublished past) = c.registry.upCount + takenDown (sincePublished past)

theorem Gauged.step {past : List (Client × Action)} {c c' : Client} {act : Action} (gauged : Gauged past c)
    (w : c.registry.WellFormed) (h : c.step? act = some c') : Gauged ((c, act) :: past) c' := by
  obtain ⟨n, published, account⟩ := gauged
  unfold Gauged sincePublished
  cases hact : act.publishes with
  | true =>
    refine ⟨_, step?_publishes hact h, ?_⟩
    rw [List.takeWhile_cons_of_neg (by simp [hact])]
    rfl
  | false =>
    refine ⟨n, (step?_published hact h).trans published, ?_⟩
    have count := step?_upCount w hact h
    rw [List.takeWhile_cons_of_pos (by simp [hact])]
    unfold broughtUp takenDown sincePublished at *
    rw [List.countP_cons, List.countP_cons]
    simp only [decide_eq_true_eq]
    omega

/-- **What the published number of hosts up is off by.**  At every moment of every run of a client a number was
published, and it is the number of hosts that are up, less the hosts that came up since without a report, and more
by those that went down so: probes that reached a host that was not up, hosts that were added, and schedules that
ran out while their host was up.  So it is right just in case as many came up as went down. -/
theorem published_hosts_up {policies : Policies} {defaults : QueryDefaults} {limits : Limits}
    {contacts : List Address} {report : Except Failure (List Translated)} {c₀ c : Client} {actions : List Action}
    (connected : connect policies defaults limits contacts report = .ok c₀) (ran : c₀.run? actions = some c) :
    let since := sincePublished (c₀.past actions)
    ∃ n, c.published? = some n ∧ n + broughtUp since = c.registry.upCount + takenDown since ∧
      (n = c.registry.upCount ↔ broughtUp since = takenDown since) := by
  have hrun : Cluster.Built c.shared.cluster ∧ Gauged (c₀.past actions ++ []) c := by
    refine run?_keeps (I := fun past c => Cluster.Built c.shared.cluster ∧ Gauged past c) (A := fun _ => True)
      (fun _ ⟨built, gauged⟩ h => ⟨step?_built built h, gauged.step built.wellFormed h⟩) (fun _ _ => trivial)
      ⟨connect_built connected, c₀.registry.upCount, ?_, rfl⟩ ran
    rw [connect_eq connected]
    rfl
  rw [List.append_nil] at hrun
  obtain ⟨-, n, published, account⟩ := hrun
  exact ⟨n, published, account, by omega⟩

/-- A host goes down, and its probe finds it up again. -/
def backByProbe : List Action :=
  [.hear, .report (.hostDown ⟨.v4 0x0a000001, 9042⟩ "reset"), .hear, .beginSeries 0, .hear, .elapse 1000,
    .wakeSeries 0, .probed 0 (.ok ()), .hear]

theorem back_by_probe_off_by_one :
    ∃ c₀ c n, connect oneProbe {} {} [] (.ok threePeers) = .ok c₀ ∧ c₀.run? backByProbe = some c ∧ c.isIdle = true ∧
      c.published? = some n ∧
      n + broughtUp (sincePublished (c₀.past backByProbe)) =
        c.registry.upCount + takenDown (sincePublished (c₀.past backByProbe)) ∧
      broughtUp (sincePublished (c₀.past backByProbe)) = 1 ∧ takenDown (sincePublished (c₀.past backByProbe)) = 0 ∧
      c.registry.upCount = 3 := by
  obtain ⟨n, published, account, -⟩ :=
    @published_hosts_up oneProbe {} {} [] (.ok threePeers) _ _ backByProbe rfl rfl
  exact ⟨_, _, n, rfl, rfl, by decide +kernel, published, account, by decide +kernel, by decide +kernel,
    by decide +kernel⟩

/-- **What was published last is not how many hosts are up**, though nothing is left to do. -/
theorem published_not_up_count :
    ¬ ∀ {policies : Policies} {defaults : QueryDefaults} {limits : Limits} {contacts : List Address}
      {report : Except Failure (List Translated)} {c₀ c : Client} {actions : List Action},
      connect policies defaults limits contacts report = .ok c₀ → c₀.run? actions = some c → c.isIdle = true →
        c.published? = some c.registry.upCount := by
  intro always
  have right := @always oneProbe {} {} [] (.ok threePeers) _ _ backByProbe rfl rfl (by decide +kernel)
  exact absurd right (by decide +kernel)

end Client

end CqlDispatch
