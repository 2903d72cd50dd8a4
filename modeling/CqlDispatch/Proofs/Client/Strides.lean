import CqlDispatch.Proofs.Client.Slots
import CqlDispatch.Proofs.Request.Strides
/-!
# Requests within a client

In a step of a client a request is made, or one makes a move, or none acts (`Acts`).  Between its own moves a request
sees the registry grow, where the hosts that were there keep their addresses.  So what its start gives, its strides keep
and a larger registry does not undo holds of it in every run of the client (`strides_step`).
-/
namespace CqlDispatch
namespace Client

open Request (Stage Stride Strides)

/-- What a step is to the requests and to the timestamps. -/
inductive Acts (c : Client) : Client → Prop
  | submits (statement : Statement) (options : ExecutionOptions) : Acts c (c.submit statement options)
  | moves {k : Nat} {q : Request} {m : Request.Move} {out : Shared × Request} (found : c.request? k = some q)
      (live : q.isLive = true) (moved : q.move? c.policies c.shared m = some out) :
    Acts c (c.putBack k q.trace.length out)
  | elsewhere {c' : Client} (requests : c'.requests = c.requests)
      (timestamps : c'.shared.timestamps = c.shared.timestamps) : Acts c c'

variable {c c' : Client} {act : Action}

theorem step?_acts (h : c.step? act = some c') : Acts c c' := by
  cases act with
  | submit statement options =>
    cases h
    exact .submits statement options
  | answer | resume | speculate | expire | cancel =>
    obtain ⟨q, out, found, live, moved, rfl⟩ := step?_move rfl h
    exact .moves found live moved
  | report e =>
    cases h
    cases e <;> exact .elsewhere rfl rfl
  | refresh | addHost | setReplicationFactor | elapse =>
    cases h
    exact .elsewhere rfl rfl
  | hear | beginSeries | probed | quitSeries | shutdown =>
    rw [step?_ofReconnector rfl (fun _ => Action.noConfusion) h]
    exact .elsewhere rfl rfl
  | wakeSeries n =>
    obtain ⟨s, wake, -, -, -, ⟨-, rfl⟩ | ⟨-, rfl⟩⟩ := step?_wakeSeries h
    · exact .elsewhere rfl rfl
    · exact .elsewhere rfl rfl

/-- **What holds of every request**, because its start gives it, its strides keep it and new hosts do not undo it. -/
theorem strides_step {I : Stage → Prop} (stride : ∀ {g g'}, I g → Stride c.policies g g' → I g')
    (later : ∀ {s s' r}, s.cluster.registry.Extends s'.cluster.registry → I ⟨s, r, .idle⟩ → I ⟨s', r, .idle⟩)
    (starts : ∀ statement options, I (.rest (Request.start c.policies c.shared statement options)))
    (wellFormed : c.registry.WellFormed) (holds : ∀ r ∈ c.requests, I ⟨c.shared, r, .idle⟩)
    (h : c.step? act = some c') : ∀ r ∈ c'.requests, I ⟨c'.shared, r, .idle⟩ := by
  have since := (step?_effect h).changes.extends wellFormed
  have others : ∀ r ∈ c.requests, I ⟨c'.shared, r, .idle⟩ := fun r hr => later since (holds r hr)
  intro r hr
  cases step?_acts h with
  | submits statement options =>
    rw [requests_submit, List.mem_append, List.mem_singleton] at hr
    rcases hr with hr | rfl
    · exact others r hr
    · exact starts statement options
  | moves found live moved =>
    rcases List.mem_or_eq_of_mem_set hr with hr | rfl
    · exact others r hr
    · exact (Request.move_strides moved).keeps stride (holds _ (List.mem_of_getElem? found))
  | elsewhere requests timestamps => exact others r (requests ▸ hr)

end Client

end CqlDispatch
