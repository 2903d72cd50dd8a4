import CqlDispatch.Proofs.Client.Step
import CqlDispatch.Proofs.Cluster.Replay
import CqlDispatch.Proofs.Reconnector.Books
/-!
# The log of a running client

Whatever a client does, it changes its cluster by operations of the cluster alone (`step?_operations`),
so at every moment of a run the log replays to the registered addresses and their states.  An address
of which a host is registered that is not up stays so until an event settles it (`replay?_unsettled`).
-/
namespace CqlDispatch

/-! ## Logs that do not settle an address -/

/-- Some of these events settles the address. -/
def Settled (a : Address) (events : List HostEvent) : Prop := ∃ e ∈ events, e.settles a = true

instance (a : Address) (events : List HostEvent) : Decidable (Settled a events) :=
  inferInstanceAs (Decidable (∃ e ∈ events, _))

/-- Some of these events tells that the host of the address went down. -/
def Felled (a : Address) (events : List HostEvent) : Prop := ∃ e ∈ events, e.fells a = true

instance (a : Address) (events : List HostEvent) : Decidable (Felled a events) :=
  inferInstanceAs (Decidable (∃ e ∈ events, _))

theorem felled_append {a : Address} {l l' : List HostEvent} : Felled a (l ++ l') ↔ Felled a l ∨ Felled a l' := by
  unfold Felled
  simp only [List.mem_append, or_and_right, exists_or]

theorem settled_append {a : Address} {l l' : List HostEvent} : Settled a (l ++ l') ↔ Settled a l ∨ Settled a l' := by
  unfold Settled
  simp only [List.mem_append, or_and_right, exists_or]

/-- A host of this address is registered, and it is not up. -/
def Broken (a : Address) (m : Address → Option HostState) : Prop := ∃ s, m a = some s ∧ s ≠ .up

theorem Broken.applied {a : Address} {e : HostEvent} {m m' : Address → Option HostState} (broken : Broken a m)
    (unsettled : e.settles a = false) (h : e.apply? m = some m') : Broken a m' := by
  obtain ⟨s, hs, hup⟩ := broken
  unfold HostEvent.apply? at h
  simp only [Option.ite_none_right_eq_some, Option.some.injEq] at h
  obtain ⟨legal, rfl⟩ := h
  by_cases ha : e.address = a
  · unfold Broken
    rw [← ha, Function.update_self]
    rw [ha, hs] at legal
    cases e with
    | added b => cases legal
    | down b reason => exact ⟨.down, rfl, HostState.noConfusion⟩
    | reconnecting b => exact ⟨.reconnecting, rfl, HostState.noConfusion⟩
    | up b | removed b => exact absurd (beq_iff_eq.2 ha) (Bool.eq_false_iff.1 unsettled)
  · exact ⟨s, (Function.update_of_ne (Ne.symm ha) ..).trans hs, hup⟩

/-- **A host that is not up stays so until an event settles its address.** -/
theorem replay?_unsettled {a : Address} {older : List HostEvent} {m : Address → Option HostState}
    (holder : replay? older = some m) (broken : Broken a m) : ∀ {newer : List HostEvent}
    {m' : Address → Option HostState}, replay? (newer ++ older) = some m' → Settled a newer ∨ Broken a m'
  | [], m', h => .inr (Option.some.inj (holder.symm.trans h) ▸ broken)
  | e :: newer, m', h => by
    obtain ⟨m₁, h₁, happly⟩ := Option.bind_eq_some_iff.1 h
    rcases replay?_unsettled holder broken h₁ with ⟨x, hx, hsettles⟩ | hbroken
    · exact .inl ⟨x, List.mem_cons_of_mem _ hx, hsettles⟩
    · cases hs : e.settles a with
      | true => exact .inl ⟨e, List.mem_cons_self, hs⟩
      | false => exact .inr (hbroken.applied hs happly)

theorem replay?_suffix {older : List HostEvent} : ∀ {newer : List HostEvent} {m' : Address → Option HostState},
    replay? (newer ++ older) = some m' → ∃ m, replay? older = some m
  | [], m', h => ⟨m', h⟩
  | _ :: _, _, h => by
    obtain ⟨m₁, h₁, -⟩ := Option.bind_eq_some_iff.1 h
    exact replay?_suffix h₁

/-- **A host that went down is not up** before an event settles its address. -/
theorem broken_of_down {a : Address} {reason : String} {newer older : List HostEvent}
    {m : Address → Option HostState} (h : replay? (newer ++ .down a reason :: older) = some m) :
    Settled a newer ∨ Broken a m := by
  obtain ⟨m₁, h₁⟩ := replay?_suffix h
  refine replay?_unsettled h₁ ?_ h
  obtain ⟨m₀, -, happly⟩ := Option.bind_eq_some_iff.1 h₁
  unfold HostEvent.apply? at happly
  simp only [Option.ite_none_right_eq_some, Option.some.injEq] at happly
  obtain ⟨-, rfl⟩ := happly
  exact ⟨.down, Function.update_self .., HostState.noConfusion⟩

/-- **A host that is not up was not up before**, unless it went down since, and no event settled its address. -/
theorem replay?_unfelled {a : Address} {older : List HostEvent} {m : Address → Option HostState}
    (holder : replay? older = some m) : ∀ {newer : List HostEvent} {m' : Address → Option HostState},
    replay? (newer ++ older) = some m' → ¬ Felled a newer → Broken a m' → Broken a m ∧ ¬ Settled a newer
  | [], m', h, _, broken => by
    cases holder.symm.trans h
    refine ⟨broken, ?_⟩
    rintro ⟨e, he, -⟩
    cases he
  | e :: newer, m', h, unfelled, broken => by
    obtain ⟨m₁, h₁, happly⟩ := Option.bind_eq_some_iff.1 h
    unfold HostEvent.apply? at happly
    simp only [Option.ite_none_right_eq_some, Option.some.injEq] at happly
    obtain ⟨legal, rfl⟩ := happly
    suffices hbefore : Broken a m₁ ∧ e.settles a = false by
      obtain ⟨hbroken, hsettled⟩ :=
        replay?_unfelled holder h₁ (fun ⟨x, hx, hf⟩ => unfelled ⟨x, List.mem_cons_of_mem _ hx, hf⟩) hbefore.1
      refine ⟨hbroken, ?_⟩
      rintro ⟨x, hx, hsettles⟩
      rcases List.mem_cons.1 hx with rfl | hx
      · cases hbefore.2.symm.trans hsettles
      · exact hsettled ⟨x, hx, hsettles⟩
    obtain ⟨s, hs, hup⟩ := broken
    by_cases ha : e.address = a
    · subst ha
      rw [Function.update_self] at hs
      cases e with
      | added b | up b => exact absurd (Option.some.inj hs).symm hup
      | removed b => cases hs
      | down b reason => exact absurd ⟨_, List.mem_cons_self, BEq.rfl⟩ unfelled
      | reconnecting b =>
        refine ⟨?_, rfl⟩
        cases hb : m₁ b with
        | none => simp [HostEvent.address, HostEvent.mayFollow, hb] at legal
        | some s₁ =>
          refine ⟨s₁, hb, ?_⟩
          rintro rfl
          simp [HostEvent.address, HostEvent.mayFollow, hb] at legal
    · rw [Function.update_of_ne (Ne.symm ha)] at hs
      refine ⟨⟨s, hs, hup⟩, ?_⟩
      cases e with
      | up b | removed b => exact beq_eq_false_iff_ne.2 ha
      | added | down | reconnecting => rfl

/-- A registered host keeps its state over events of other hosts. -/
theorem replay?_same {a : Address} {s : HostState} {older : List HostEvent} {m : Address → Option HostState}
    (holder : replay? older = some m) (hs : m a = some s) : ∀ {newer : List HostEvent}
    {m' : Address → Option HostState}, replay? (newer ++ older) = some m' →
      (∀ e ∈ newer, e.address = a → e = .added a) → m' a = some s
  | [], m', h, _ => Option.some.inj (holder.symm.trans h) ▸ hs
  | e :: newer, m', h, others => by
    obtain ⟨m₁, h₁, happly⟩ := Option.bind_eq_some_iff.1 h
    have hs₁ := replay?_same holder hs h₁ fun x hx => others x (List.mem_cons_of_mem _ hx)
    unfold HostEvent.apply? at happly
    simp only [Option.ite_none_right_eq_some, Option.some.injEq] at happly
    obtain ⟨legal, rfl⟩ := happly
    by_cases ha : e.address = a
    · rw [ha, hs₁, others e List.mem_cons_self ha] at legal
      cases legal
    · rw [Function.update_of_ne (Ne.symm ha)]
      exact hs₁

/-- A host that is tried again was tried again before, unless an event told so since. -/
theorem replay?_untried {a : Address} {older : List HostEvent} {m : Address → Option HostState}
    (holder : replay? older = some m) : ∀ {newer : List HostEvent} {m' : Address → Option HostState},
    replay? (newer ++ older) = some m' → .reconnecting a ∉ newer → m' a = some .reconnecting → m a = some .reconnecting
  | [], m', h, _, hs => Option.some.inj (holder.symm.trans h) ▸ hs
  | e :: newer, m', h, untried, hs => by
    obtain ⟨m₁, h₁, happly⟩ := Option.bind_eq_some_iff.1 h
    unfold HostEvent.apply? at happly
    simp only [Option.ite_none_right_eq_some, Option.some.injEq] at happly
    obtain ⟨-, rfl⟩ := happly
    refine replay?_untried holder h₁ (fun hm => untried (List.mem_cons_of_mem _ hm)) ?_
    by_cases ha : e.address = a
    · subst ha
      rw [Function.update_self] at hs
      cases e <;> cases hs
      exact absurd List.mem_cons_self untried
    · rwa [Function.update_of_ne (Ne.symm ha)] at hs

namespace Client

/-! ## Operations -/

open Cluster (Built)

/-- What a series does to the cluster as it has to go on: nothing, unless its schedule has run out. -/
def sendingOn (s : Series) : List Cluster.Operation :=
  match s.schedule.next with
  | some _ => []
  | none => [.report (.hostDown s.address "reconnection schedule exhausted")]

/-- The operations of the cluster that an action performs. -/
def operations (c : Client) : Action → List Cluster.Operation
  | .submit _ options => [.plan options.keyspace options]
  | .report e => [.report e]
  | .refresh report => [.refresh report]
  | .addHost a => [.add a none]
  | .setReplicationFactor keyspace factor => [.setReplicationFactor keyspace factor]
  | .beginSeries n => (c.reconnector.series? n).toList.flatMap fun s => .startReconnecting s.address :: sendingOn s
  | .probed n (.ok _) => (c.reconnector.series? n).toList.map fun s => .report (.hostUp s.address)
  | .probed n (.error _) => (c.reconnector.series? n).toList.flatMap sendingOn
  | _ => []

theorem SeriesStep.operations {c : Client} {n : Nat} {s s' : Series} {act : Action} {exhausted : List Address}
    {cluster : Cluster} (step : SeriesStep c n s act s' exhausted cluster) (found : c.reconnector.series? n = some s) :
    cluster = c.shared.cluster.performAll (c.operations act) := by
  cases step with
  | begins created next | beginsDry created next | fails probing next | failsDry probing next =>
    simp only [Client.operations, found, sendingOn, next, Option.toList_some, List.flatMap_cons, List.flatMap_nil,
      List.append_nil]
    rfl
  | succeeds probing =>
    simp only [Client.operations, found, Option.toList_some, List.map_cons, List.map_nil]
    rfl
  | wakes | wakesRemoved | quits => rfl

/-- **A client changes its cluster by operations alone.** -/
theorem step?_operations {c c' : Client} {act : Action} (h : c.step? act = some c') :
    c'.shared.cluster = c.shared.cluster.performAll (c.operations act) := by
  have effect := step?_effect h
  generalize hw : c'.reconnector = w at effect
  generalize hcluster : c'.shared.cluster = cluster at effect ⊢
  cases effect with
  | hears | stops => rfl
  | series found step => exact step.operations found
  | elsewhere apart =>
    subst hcluster
    cases act with
    | submit statement options =>
      cases h
      exact Request.cluster_start _ _ _ _
    | report e =>
      cases h
      exact cluster_report c e
    | refresh | addHost | setReplicationFactor | elapse =>
      cases h
      rfl
    | answer | resume | speculate | expire | cancel =>
      obtain ⟨n, r, out, -, rfl, hout⟩ := step?_ofRequest rfl h
      exact hout Request.apart_cluster
    | _ => cases apart

theorem step?_built {c c' : Client} {act : Action} (built : Built c.shared.cluster) (h : c.step? act = some c') :
    Built c'.shared.cluster := by
  rw [step?_operations h]
  exact built.performAll _

/-- What is new in the log after a step. -/
theorem step?_log {c c' : Client} {act : Action} (built : Built c.shared.cluster) (h : c.step? act = some c') :
    ∃ new, c'.registry.log = new ++ c.registry.log := by
  obtain ⟨new, hlog, -⟩ := (Cluster.performAll_changes (c.operations act) c.shared.cluster).continues built.wellFormed
  refine ⟨new, ?_⟩
  unfold registry
  rw [step?_operations h]
  exact hlog

theorem connect_built {policies : Policies} {defaults : QueryDefaults} {limits : Limits} {contacts : List Address}
    {report : Except Failure (List Translated)} {c : Client}
    (h : connect policies defaults limits contacts report = .ok c) : Built c.shared.cluster :=
  connect_operations h ▸ Built.performAll .empty _

end Client

end CqlDispatch
