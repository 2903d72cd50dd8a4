import CqlDispatch.Rehearsal
/-!
# Rehearsals are runs

Whatever is rehearsed, the client comes by steps of its own from where it was to where it is (`played_is_run`): scripts
decide what hosts answer, and the clock when they do, but neither touches the client.  So what holds in every run of
a client holds in every rehearsal of it.
-/
namespace CqlDispatch

/-- Whether a client can come to another by steps. -/
def Client.Reaches (c c' : Client) : Prop := ∃ actions, c.run? actions = some c'

namespace Client

theorem run?_append : ∀ (actions rest : List Action) (c : Client),
    c.run? (actions ++ rest) = (c.run? actions).bind (·.run? rest)
  | [], _, _ => rfl
  | act :: actions, rest, c => by
    show (c.step? act).bind (·.run? (actions ++ rest)) = ((c.step? act).bind (·.run? actions)).bind (·.run? rest)
    rw [Option.bind_assoc]
    exact congrArg (c.step? act).bind (funext fun d => run?_append actions rest d)

theorem Reaches.refl (c : Client) : c.Reaches c := ⟨[], rfl⟩

theorem Reaches.step {c c' : Client} {act : Action} (h : c.step? act = some c') : c.Reaches c' :=
  ⟨[act], by rw [run?, h]; rfl⟩

theorem Reaches.trans {c d e : Client} (hcd : c.Reaches d) (hde : d.Reaches e) : c.Reaches e := by
  obtain ⟨actions, hd⟩ := hcd
  obtain ⟨rest, he⟩ := hde
  exact ⟨actions ++ rest, by rw [run?_append, hd]; exact he⟩

end Client

namespace Rehearsal

/-! ## Scripts -/

theorem attend_client (s : Rehearsal) (m : Moment ClientEvent) : (s.attend m).client = s.client := by
  unfold attend
  split <;> rfl

/-- Looking answers up in the scripts leaves the client alone. -/
theorem attendAll_client (s : Rehearsal) : s.attendAll.client = s.client :=
  List.foldlRecOn (motive := fun d : Rehearsal => d.client = s.client) _ attend rfl
    fun d hd m _ => (attend_client d m).trans hd

/-! ## Instants -/

theorem perform_reaches (s : Rehearsal) (act : Client.Action) : s.client.Reaches (s.perform act).client := by
  unfold perform
  split
  · rename_i c h
    rw [attendAll_client]
    exact .step h
  · exact .refl _

theorem nextAction_client {s s' : Rehearsal} {act : Client.Action} (h : s.nextAction = some (act, s')) :
    s'.client = s.client := by
  unfold nextAction at h
  split at h
  · cases h
    rfl
  · obtain ⟨_, -, h⟩ := Option.map_eq_some_iff.1 h
    cases h
    rfl

theorem settleWithin_reaches : ∀ (fuel : Nat) (s : Rehearsal), s.client.Reaches (s.settleWithin fuel).client
  | 0, s => .refl _
  | fuel + 1, s => by
    unfold settleWithin
    split
    · exact .refl _
    · rename_i act d h
      rw [← nextAction_client h]
      exact (perform_reaches d act).trans (settleWithin_reaches fuel _)

theorem settle_reaches (s : Rehearsal) : s.client.Reaches s.settle.client := settleWithin_reaches patience s

theorem moveTo_reaches (s : Rehearsal) (t : Nat) : s.client.Reaches (s.moveTo t).client :=
  (perform_reaches s _).trans (settle_reaches _)

theorem passUntil_reaches (t : Nat) : ∀ (fuel : Nat) (s : Rehearsal), s.client.Reaches (passUntil t fuel s).client
  | 0, s => moveTo_reaches s t
  | fuel + 1, s => by
    unfold passUntil
    split
    · split
      · exact (moveTo_reaches s _).trans (passUntil_reaches t fuel _)
      · exact moveTo_reaches s t
    · exact moveTo_reaches s t

theorem passWhileLive_reaches (n : Nat) : ∀ (fuel : Nat) (s : Rehearsal),
    s.client.Reaches (passWhileLive n fuel s).client
  | 0, s => .refl _
  | fuel + 1, s => by
    unfold passWhileLive
    split
    · split
      · split
        · exact (moveTo_reaches s _).trans (passWhileLive_reaches n fuel _)
        · exact .refl _
      · exact .refl _
    · exact .refl _

/-! ## Scenes -/

/-- What is pending does not matter to the client. -/
theorem perform_pending_reaches (s : Rehearsal) (pending : List Pending) (act : Client.Action) :
    s.client.Reaches ({ s with pending := pending }.perform act).client :=
  perform_reaches { s with pending := pending } act

theorem begin_reaches (s : Rehearsal) (call : Call) : s.client.Reaches (s.begin call).2.client := by
  unfold begin
  dsimp only
  split
  · exact .refl _
  · exact perform_pending_reaches s _ _

theorem await_reaches (s : Rehearsal) (started : Started) : s.client.Reaches (s.await started).2.client := by
  unfold await
  split
  · exact .refl _
  · rename_i n
    have passed := passWhileLive_reaches n patience s
    dsimp only
    split <;> exact passed

theorem reports_reaches : ∀ (events : List ConnectionEvent) (s : Rehearsal),
    s.client.Reaches (events.foldl (fun s e => s.perform (.report e)) s).client
  | [], _ => .refl _
  | e :: events, s => (perform_reaches s (.report e)).trans (reports_reaches events _)

theorem play_reaches (s : Rehearsal) (scene : Scene) : s.client.Reaches (s.play scene).2.client := by
  cases scene with
  | execute call => exact ((begin_reaches s call).trans (settle_reaches _)).trans (await_reaches _ _)
  | spawn name call =>
    have settled := settle_reaches
      { (s.begin call).2 with names := (name, (s.begin call).1, call.cancellable) :: (s.begin call).2.names }
    exact (begin_reaches s call).trans settled
  | join name =>
    unfold play
    dsimp only
    split
    · exact await_reaches s _
    · exact .refl _
  | cancel name =>
    unfold play
    dsimp only
    split
    · exact (perform_reaches s _).trans (settle_reaches _)
    · exact .refl _
  | sleep millis => exact passUntil_reaches _ _ s
  | reports events times => exact (reports_reaches _ s).trans (settle_reaches _)
  | refresh =>
    unfold play
    dsimp only
    split
    · exact .refl _
    · rename_i peers _
      let report := s.client.policies.translator.answers peers
      have refreshed : s.client.step? (.refresh report) = some (s.client.refresh report).2 := rfl
      have settled := settle_reaches { s with client := (s.client.refresh report).2 }.attendAll
      rw [attendAll_client] at settled
      exact (Client.Reaches.step refreshed).trans settled
  | addHost a => exact (perform_reaches s _).trans (settle_reaches _)
  | setReplicationFactor keyspace factor => exact perform_reaches s _
  | replaceScripts attempts probes peers => exact .refl _
  | shutdown => exact (perform_reaches s _).trans (settle_reaches _)

/-- Plays scenes one after the other. -/
def playAll (s : Rehearsal) (scenes : List Scene) : Rehearsal := scenes.foldl (fun s scene => (s.play scene).2) s

/-- **What a rehearsal plays is a run**: whatever the scripts and the scenes are, there is a list of actions by which
the client comes to where the rehearsal has it. -/
theorem played_is_run : ∀ (scenes : List Scene) (s : Rehearsal),
    ∃ actions, s.client.run? actions = some (s.playAll scenes).client
  | [], s => Client.Reaches.refl s.client
  | scene :: scenes, s => (play_reaches s scene).trans (played_is_run scenes (s.play scene).2)

end Rehearsal

end CqlDispatch
