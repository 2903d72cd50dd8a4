import CqlDispatch.Proofs.Client.Supervision
import CqlDispatch.Proofs.Cluster.Reports
/-!
# What every run of a client keeps

The listener may lose events, but some things stay in order in every run: policies, and that series stand
under the addresses of their hosts (`Steady`).  And whatever a step tells (`told`), a host goes down in it only
because the connection layer says so or a schedule of its address runs out, and is tried again only because a
series of its address begins (`mem_told`).
-/
namespace CqlDispatch
namespace Client

open Cluster (Built)

/-- What holds of a client in every run, also where the listener lost events. -/
structure Steady (b : Backoff) (c : Client) : Prop where
  policy : c.policies.backoff = b
  built : Built c.shared.cluster
  heard : c.reconnector.heard ≤ c.registry.log.length
  tidy : c.reconnector.Tidy c.registry
  asleep : c.reconnector.awake = false → c.reconnector.series = [] ∧ c.reconnector.exhausted = []

section
variable {b : Backoff} {c c' : Client} {act : Action}

theorem steady_connect {policies : Policies} {defaults : QueryDefaults} {limits : Limits}
    {contacts : List Address} {report : Except Failure (List Translated)}
    (h : connect policies defaults limits contacts report = .ok c) : Steady policies.backoff c := by
  have hw := (connect_changes h).2
  have policy : c.policies.backoff = policies.backoff := by rw [connect_eq h]; rfl
  refine ⟨policy, connect_built h, Nat.le_of_eq (congrArg Reconnector.heard hw), (watched_connect h).tidy, fun _ => ?_⟩
  rw [hw]
  exact ⟨rfl, rfl⟩

/-- **Every step of a client keeps it steady.** -/
theorem Steady.step (i : Steady b c) (h : c.step? act = some c') : Steady b c' := by
  have wf := i.built.wellFormed
  obtain ⟨new, hlog⟩ := step?_log i.built h
  have grown : ∀ {n}, n ≤ c.registry.log.length → n ≤ c'.registry.log.length := fun hle => by
    rw [hlog, List.length_append]
    exact Nat.le_add_left_of_le hle
  have effect := step?_effect h
  have extended := effect.changes.extends wf
  -- Policies and clusters are kept by every step; the rest hangs on what becomes of the reconnector.
  suffices hsteady : c'.reconnector.heard ≤ c'.registry.log.length ∧ c'.reconnector.Tidy c'.registry ∧
      (c'.reconnector.awake = false → c'.reconnector.series = [] ∧ c'.reconnector.exhausted = []) by
    obtain ⟨heard, tidy, asleep⟩ := hsteady
    exact ⟨(congrArg Policies.backoff (step?_keeps h).1).trans i.policy, step?_built i.built h, heard, tidy, asleep⟩
  unfold registry at grown ⊢
  generalize c'.reconnector = w at effect ⊢
  generalize c'.shared.cluster = cluster at effect extended grown ⊢
  cases effect with
  | elsewhere apart changes => exact ⟨grown i.heard, i.tidy.extends extended, i.asleep⟩
  | stops => exact ⟨i.heard, ⟨i.tidy.series, i.tidy.current⟩, i.asleep⟩
  | hears news =>
    obtain ⟨hheard, hawake, -⟩ := progress_hear (b := c.policies.backoff) news i.heard
    refine ⟨hheard, (Reconnector.hear_keeps i.tidy wf _ news i.heard).1, fun ha => ?_⟩
    rw [hawake] at ha
    cases ha
  | series found step =>
    obtain ⟨-, hhost, ha, -⟩ := step.keeps
    have tidy := (i.tidy.set found hhost ha).extends extended
    refine ⟨grown i.heard, ⟨tidy.series, tidy.current⟩, fun asleep => ?_⟩
    unfold Reconnector.series? at found
    rw [(i.asleep asleep).1] at found
    cases found

/-- Only a turn of the listener takes events in or starts series. -/
theorem step?_unheard (still : act ≠ .hear) (h : c.step? act = some c') :
    c'.reconnector.heard = c.reconnector.heard ∧ c'.reconnector.awake = c.reconnector.awake ∧
      c'.reconnector.series.length = c.reconnector.series.length := by
  have effect := step?_effect h
  generalize c'.reconnector = w at effect ⊢
  generalize c'.shared.cluster = cluster at effect
  cases effect with
  | elsewhere | stops => exact ⟨rfl, rfl, rfl⟩
  | series => exact ⟨rfl, rfl, List.length_set⟩
  | hears => exact absurd rfl still

/-- **A step leaves a series alone** whose step it is not, but for a turn of the listener. -/
theorem step?_other (still : act ≠ .hear) (h : c.step? act = some c') {n : Nat} (other : act.series? ≠ some n) :
    c'.reconnector.series? n = c.reconnector.series? n := by
  have effect := step?_effect h
  generalize c'.reconnector = w at effect ⊢
  generalize c'.shared.cluster = cluster at effect
  cases effect with
  | elsewhere | stops => rfl
  | hears => exact absurd rfl still
  | @series _ m s s' _ _ found step =>
    have hm : m ≠ n := fun hm => other (by cases step <;> exact congrArg some hm)
    exact List.getElem?_set_ne hm

/-- **A series that is there after a step**, but for a turn of the listener, was there before it. -/
theorem Steady.earlier (i : Steady b c) (still : act ≠ .hear) (h : c.step? act = some c') {n : Nat} {s : Series}
    (found : c'.reconnector.series? n = some s) : ∃ s₀, c.reconnector.series? n = some s₀ ∧ s.host = s₀.host ∧
      s.address = s₀.address ∧ (s.IsLive → s₀.IsLive) := by
  cases hold : c.reconnector.series? n with
  | none => exact absurd hold (Reconnector.not_new_of_length (step?_unheard still h).2.2 found)
  | some s₀ =>
    obtain ⟨s', hs', hlater⟩ := (step?_effect h).later i.heard hold
    cases found.symm.trans hs'
    exact ⟨s₀, rfl, hlater⟩

/-! ## What a step tells -/

/-- The events that an action tells, in order. -/
def told (c : Client) (act : Action) : List HostEvent := c.shared.cluster.reportsAll (c.operations act)

theorem step?_told (built : Built c.shared.cluster) (h : c.step? act = some c') :
    c'.registry.log = (c.told act).reverse ++ c.registry.log := by
  unfold registry
  rw [step?_operations h]
  exact (Cluster.performAll_tells (c.operations act) built.wellFormed).log

/-- What a step tells the listener has yet to hear of. -/
theorem Steady.unheard_told (i : Steady b c) (still : act ≠ .hear) (h : c.step? act = some c') :
    c'.reconnector.unheard c'.registry = (c.told act).reverse ++ c.reconnector.unheard c.registry := by
  rw [← Reconnector.unheard_append i.heard (step?_told i.built h)]
  unfold Reconnector.unheard
  rw [(step?_unheard still h).1]

theorem settled_reverse {a : Address} {events : List HostEvent} : Settled a events.reverse ↔ Settled a events := by
  simp only [Settled, List.mem_reverse]

theorem felled_reverse {a : Address} {events : List HostEvent} : Felled a events.reverse ↔ Felled a events := by
  simp only [Felled, List.mem_reverse]

/-- The series that an action begins. -/
def Action.begun? : Action → Option Nat
  | .beginSeries n => some n
  | _ => none

theorem Action.eq_beginSeries {n : Nat} (begun : act.begun? = some n) : act = .beginSeries n := by
  cases act <;> first | (cases begun; done) | exact congrArg Action.beginSeries (Option.some.inj begun)

/-- A series of the address begins. -/
def BeginsAt (c : Client) (a : Address) (act : Action) : Prop :=
  ∃ n ∈ act.begun?, ∃ s ∈ c.reconnector.series? n, s.address = a

instance (c : Client) (a : Address) (act : Action) : Decidable (c.BeginsAt a act) :=
  inferInstanceAs (Decidable (∃ n ∈ act.begun?, ∃ s ∈ c.reconnector.series? n, _))

theorem not_beginsAt {a : Address} (unbegun : act.begun? = none) : ¬ c.BeginsAt a act := by
  rintro ⟨n, hn, -⟩
  rw [unbegun] at hn
  cases hn

theorem mem_sendingOn {s : Series} {o : Cluster.Operation} (ho : o ∈ sendingOn s) :
    s.schedule.next = none ∧ o = .report (.hostDown s.address "reconnection schedule exhausted") := by
  unfold sendingOn at ho
  split at ho
  · cases ho
  · rename_i dry
    exact ⟨dry, List.mem_singleton.1 ho⟩

/-- **Why a host goes down, and why it is tried again.** -/
theorem mem_told {e : HostEvent} (he : e ∈ c.told act) :
    (∀ a reason, e = .down a reason → act = .report (.hostDown a reason) ∨ c.RunsOutAt a act) ∧
      ∀ a, e = .reconnecting a → c.BeginsAt a act := by
  obtain ⟨o, ho, d, he⟩ := Cluster.mem_reportsAll he
  obtain ⟨hdown, htried, -⟩ := Cluster.mem_reports he
  refine ⟨fun a reason h => ?_, fun a h => ?_⟩
  · cases hdown a reason h
    cases act with
    | report e =>
      cases List.mem_singleton.1 ho
      exact .inl rfl
    | beginSeries n =>
      obtain ⟨s, hs, ho⟩ := List.mem_flatMap.1 ho
      obtain ⟨dry, ho⟩ := mem_sendingOn ((List.mem_cons.1 ho).resolve_left Cluster.Operation.noConfusion)
      cases ho
      exact .inr ⟨n, rfl, s, Option.mem_toList.1 hs, rfl, dry⟩
    | probed n answer =>
      cases answer with
      | ok u =>
        obtain ⟨s, -, ho⟩ := List.mem_map.1 ho
        cases ho
      | error f =>
        obtain ⟨s, hs, ho⟩ := List.mem_flatMap.1 ho
        obtain ⟨dry, ho⟩ := mem_sendingOn ho
        cases ho
        exact .inr ⟨n, rfl, s, Option.mem_toList.1 hs, rfl, dry⟩
    | submit | refresh | addHost | setReplicationFactor => cases List.mem_singleton.1 ho
    | _ => cases ho
  · cases htried a h
    cases act with
    | beginSeries n =>
      obtain ⟨s, hs, ho⟩ := List.mem_flatMap.1 ho
      rcases List.mem_cons.1 ho with ho | ho
      · cases ho
        exact ⟨n, rfl, s, Option.mem_toList.1 hs, rfl⟩
      · cases (mem_sendingOn ho).2
    | probed n answer =>
      cases answer with
      | ok u =>
        obtain ⟨s, -, ho⟩ := List.mem_map.1 ho
        cases ho
      | error f =>
        obtain ⟨s, -, ho⟩ := List.mem_flatMap.1 ho
        cases (mem_sendingOn ho).2
    | submit | report | refresh | addHost | setReplicationFactor => cases List.mem_singleton.1 ho
    | _ => cases ho

theorem step?_replays (built : Built c.shared.cluster) (h : c.step? act = some c') :
    replay? ((c.told act).reverse ++ c.registry.log) = some c'.registry.states :=
  step?_told built h ▸ (step?_built built h).replays

/-! ## Hosts that are not up -/

/-- The host is registered, and it is not up. -/
def Wanting (c : Client) (h : HostId) : Prop := h ∈ c.registry.topology.ids ∧ (c.registry.host h).state ≠ .up

instance (c : Client) (h : HostId) : Decidable (c.Wanting h) := inferInstanceAs (Decidable (_ ∧ _))

theorem Wanting.broken {h : HostId} (wf : c.registry.WellFormed) (wanting : c.Wanting h) :
    Broken (c.registry.host h).address c.registry.states :=
  ⟨_, Registry.states_of_find? (wf.mem_ids_iff.1 wanting.1), wanting.2⟩

theorem wanting_of_broken {h : HostId} (wf : c.registry.WellFormed) (registered : h ∈ c.registry.topology.ids)
    (broken : Broken (c.registry.host h).address c.registry.states) : c.Wanting h := by
  obtain ⟨s, hs, hup⟩ := broken
  rw [Registry.states_of_find? (wf.mem_ids_iff.1 registered)] at hs
  exact ⟨registered, fun h => hup (h ▸ (Option.some.inj hs).symm)⟩

theorem step?_address (built : Built c.shared.cluster) (h : c.step? act = some c') {k : HostId}
    (registered : k ∈ c.registry.topology.ids) : (c'.registry.host k).address = (c.registry.host k).address :=
  ((step?_effect h).changes.extends built.wellFormed).address k (built.wellFormed.lt_of_mem registered)

/-- **A host that is not up stays so, and registered, until its address is settled.** -/
theorem Wanting.step {h : HostId} (built : Built c.shared.cluster) (step : c.step? act = some c')
    (wanting : c.Wanting h) : Settled (c.registry.host h).address (c.told act) ∨ c'.Wanting h := by
  have wf := built.wellFormed
  rcases replay?_unsettled built.replays (wanting.broken wf) (step?_replays built step) with settled | broken
  · exact .inl (settled_reverse.1 settled)
  · rcases Cluster.performAll_leaves (c.operations act) wf h wanting.1 with registered | removed
    · refine .inr (wanting_of_broken (step?_built built step).wellFormed ?_ ?_)
      · unfold registry
        rwa [step?_operations step]
      · rwa [step?_address built step wanting.1]
    · exact .inl ⟨_, removed, BEq.rfl⟩

/-- A host that is not up after a step was not up before it, unless it went down in it. -/
theorem Wanting.before {h : HostId} (built : Built c.shared.cluster) (step : c.step? act = some c')
    (wanting : c'.Wanting h) (unfelled : ¬ Felled (c'.registry.host h).address (c.told act)) : c.Wanting h := by
  have wf := built.wellFormed
  have wf' := (step?_built built step).wellFormed
  obtain ⟨broken, unsettled⟩ := replay?_unfelled built.replays (step?_replays built step)
    (fun felled => unfelled (felled_reverse.1 felled)) (wanting.broken wf')
  rw [settled_reverse] at unsettled
  obtain ⟨s, hs, -⟩ := id broken
  obtain ⟨k, known, -⟩ := Option.map_eq_some_iff.1 hs
  have hk := Registry.mem_ids_of_find? known
  have haddress := wf.find?_address known
  -- The host that was there before is still there, for its address was not settled.
  rcases Cluster.performAll_leaves (c.operations act) wf k hk with hk' | removed
  · have hk' : k ∈ c'.registry.topology.ids := by
      unfold registry
      rwa [step?_operations step]
    cases wf'.address_inj hk' wanting.1 ((step?_address built step hk).trans haddress)
    rw [← haddress] at broken
    exact wanting_of_broken wf hk broken
  · exact absurd ⟨_, removed, beq_iff_eq.2 haddress⟩ unsettled

end

end Client

end CqlDispatch
