import CqlDispatch.Proofs.Admission.Pool
import CqlDispatch.Proofs.Client.Step
/-!
# Where there are pools

The pool of an address begins as an attempt asks for a slot there, and a request asks only at hosts that are up.
One whose wait is over does not ask again, and what is given up changes pools that are there already.  So no step of
a request makes a pool at an address that is not the one of a host that is up (`pooled_kept`).
-/
namespace CqlDispatch

namespace Admission

/-- There are pools at these addresses only. -/
def Within (a : Admission) (P : Address → Prop) : Prop := ∀ b, (a.pool? b).isSome → P b

theorem pool?_setPool (a : Admission) (host b : Address) (p : Pool) :
    (a.setPool host p).pool? b = if b = host then some p else a.pool? b :=
  lookup_replaced host b p a.pools

theorem pool?_remove (a : Admission) (host b : Address) :
    (a.remove host).pool? b = if b = host then none else a.pool? b :=
  lookup_filter_ne host b a.pools

namespace Within

variable {P : Address → Prop} {a : Admission} {host : Address} (within : a.Within P)
include within

theorem setPool (here : P host) (p : Pool) : (a.setPool host p).Within P := by
  intro b hb
  rw [pool?_setPool] at hb
  split at hb
  · rename_i he
    exact he ▸ here
  · exact within b hb

theorem changePool (host : Address) (f : Pool → Pool) : (a.changePool host f).Within P := by
  unfold Admission.changePool
  split
  · rename_i p hp
    have here : P host := within host (by rw [hp]; rfl)
    exact within.setPool here (f p)
  · exact within

theorem release (host : Address) (t : Ticket) : (a.release host t).Within P := within.changePool host _

theorem cancel (host : Address) (t : Ticket) : (a.cancel host t).Within P :=
  within.changePool host fun p => if t ∈ p.granted then p.free a.limits t
    else { p with waiting := p.waiting.filter (· != t) }

/-- Asking for a slot is what begins a pool. -/
theorem acquire (here : P host) : (a.acquire host).2.2.Within P := by
  unfold Admission.acquire
  dsimp only
  split
  · exact within
  · split
    · exact setPool (a := { a with nextTicket := a.nextTicket + 1 }) within here _
    · split
      · exact setPool (a := { a with nextTicket := a.nextTicket + 1 }) within here _
      · exact setPool (a := { a with nextTicket := a.nextTicket + 1 }) within here _

/-- One that looks again finds a slot in a pool that is there, or touches none. -/
theorem resume (host : Address) (t : Ticket) : (a.resume host t).2.Within P := by
  unfold Admission.resume
  dsimp only
  split
  · rename_i granted
    have here : P host := by
      refine within host ?_
      unfold pool at granted
      cases hp : a.pool? host with
      | none =>
        rw [hp] at granted
        cases granted
      | some p => rfl
    exact within.setPool here { a.pool host with granted := (a.pool host).granted.filter (· != t) }
  · split
    · exact within
    · exact within

theorem remove : (a.remove host).Within fun b => P b ∧ b ≠ host := by
  intro b hb
  rw [pool?_remove] at hb
  split at hb
  · cases hb
  · rename_i hne
    exact ⟨within b hb, hne⟩

omit within in
theorem removeAll : ∀ (gone : List Address) {P : Address → Prop} {a : Admission}, a.Within P →
    (gone.foldl Admission.remove a).Within fun b => P b ∧ b ∉ gone
  | [], _, _, within => fun b hb => ⟨within b hb, List.not_mem_nil⟩
  | host :: gone, _, _, within => fun b hb => by
    obtain ⟨⟨here, hne⟩, hgone⟩ := removeAll gone within.remove b hb
    exact ⟨here, fun hm => (List.mem_cons.1 hm).elim hne hgone⟩

end Within

end Admission

namespace Request

/-- There are pools at these addresses only, and every host that is up has such an address. -/
structure Pooled (P : Address → Prop) (s : Shared) : Prop where
  up : ∀ h, s.isUp h = true → P (s.host h).address
  pools : s.admission.Within P

/-- **No request makes a pool elsewhere**, as it asks at hosts that are up only. -/
theorem pooled_kept (P : Address → Prop) : Kept (Pooled P) where
  dropped p pooled := by
    cases p with
    | queued b a t => exact ⟨pooled.up, pooled.pools.cancel a t⟩
    | inFlight b a t => exact ⟨pooled.up, pooled.pools.release a t⟩
  asked pooled up := ⟨pooled.up, pooled.pools.acquire (pooled.up _ up)⟩
  looked a t pooled := ⟨pooled.up, pooled.pools.resume a t⟩
  stamped _ pooled := ⟨pooled.up, pooled.pools⟩

end Request

end CqlDispatch
