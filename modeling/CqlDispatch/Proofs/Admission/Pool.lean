import Mathlib.Data.List.Nodup
import CqlDispatch.Admission
import CqlDispatch.Proofs.Lookup
/-!
# Pools of slots

A pool keeps within its limits, and nobody waits in it while a slot is free (`Pool.Sound`).  Handing a
slot over leaves the tickets of a pool and their order as they are: those who hold a slot stand before
those who wait (`Pool.all`).

An operation on a host changes the pool of that host and of no other (`Admission.Changed`).
-/
namespace CqlDispatch

theorem filter_ne_of_not_mem {t : Ticket} {l : List Ticket} (ht : t ∉ l) : l.filter (· != t) = l :=
  List.filter_eq_self.2 fun t' ht' => by
    have hne : t' ≠ t := fun he => ht (he ▸ ht')
    simpa using hne

namespace Pool

/-- Everyone in a pool, in the order in which they came. -/
def all (p : Pool) : List Ticket := p.held ++ p.waiting

theorem all_handOver (limits : Limits) (p : Pool) : (p.handOver limits).all = p.all := by
  unfold handOver
  split
  · rfl
  · rename_i t rest hw
    split
    · unfold all
      rw [hw, List.append_assoc]
      rfl
    · rfl

/-- What the limits promise of a pool; nobody waits while a slot is free. -/
structure Sound (limits : Limits) (p : Pool) : Prop where
  nodup : p.all.Nodup
  granted : p.granted.Sublist p.held
  bound : p.held.length ≤ limits.maxInFlight
  full : p.waiting ≠ [] → p.held.length = limits.maxInFlight
  queue : p.queued ≤ limits.maxQueued

namespace Sound

variable {limits : Limits} {p : Pool} {t : Ticket}

theorem empty (limits : Limits) : Sound limits {} :=
  ⟨.nil, .slnil, Nat.zero_le _, fun h => absurd rfl h, Nat.zero_le _⟩

variable (s : Sound limits p)
include s

theorem held_nodup : p.held.Nodup := (List.nodup_append.1 s.nodup).1

theorem not_mem_waiting (ht : t ∈ p.held) : t ∉ p.waiting := fun hw =>
  (List.nodup_append.1 s.nodup).2.2 t ht t hw rfl

/-- Those who hold a slot came before those who wait. -/
theorem first : p.all.Pairwise fun t t' => t' ∈ p.held → t ∈ p.held := by
  obtain ⟨hheld, hwaiting, -⟩ := List.nodup_append.1 s.nodup
  refine List.pairwise_append.2 ⟨hheld.imp_of_mem fun ht _ _ _ => ht, ?_, fun t ht _ _ _ => ht⟩
  exact hwaiting.imp_of_mem fun _ ht' _ hm => absurd ht' (s.not_mem_waiting hm)

theorem waiting_nil (room : p.held.length < limits.maxInFlight) : p.waiting = [] := by
  by_contra hw
  exact absurd (s.full hw) (Nat.ne_of_lt room)

/-- A newcomer takes a free slot. -/
theorem take (new : t ∉ p.all) (room : p.held.length < limits.maxInFlight) :
    Sound limits { p with held := p.held ++ [t] } := by
  have hw := s.waiting_nil room
  have hall : p.held ++ [t] ++ p.waiting = p.all ++ [t] := by
    unfold all
    rw [hw, List.append_nil, List.append_nil]
  refine ⟨?_, s.granted.trans (List.sublist_append_left _ _), ?_, fun h => absurd hw h, s.queue⟩
  · show (p.held ++ [t] ++ p.waiting).Nodup
    rw [hall]
    exact List.nodup_append.2 ⟨s.nodup, List.nodup_singleton t, fun x hx y hy hxy =>
      new (List.mem_singleton.1 hy ▸ hxy ▸ hx)⟩
  · rw [List.length_append]
    exact room

/-- A newcomer waits behind the others. -/
theorem wait (new : t ∉ p.all) (full : ¬ p.held.length < limits.maxInFlight)
    (room : p.queued < limits.maxQueued) : Sound limits { p with waiting := p.waiting ++ [t] } := by
  refine ⟨?_, s.granted, s.bound, fun _ => Nat.le_antisymm s.bound (Nat.not_lt.1 full), ?_⟩
  · show (p.held ++ (p.waiting ++ [t])).Nodup
    rw [← List.append_assoc]
    exact List.nodup_append.2 ⟨s.nodup, List.nodup_singleton t, fun x hx y hy hxy =>
      new (List.mem_singleton.1 hy ▸ hxy ▸ hx)⟩
  · show (p.waiting ++ [t]).length + p.granted.length ≤ _
    unfold queued at room
    rw [List.length_append, List.length_singleton]
    omega

/-- A slot is given back, and goes to the one who has waited longest. -/
theorem free (ht : t ∈ p.held) : Sound limits (p.free limits t) := by
  have hlength : (p.held.filter (· != t)).length + 1 = p.held.length := by
    rw [← s.held_nodup.erase_eq_filter t, List.length_erase_of_mem ht]
    exact Nat.sub_one_add_one (Nat.ne_of_gt (List.length_pos_of_mem ht))
  have hgranted := List.length_filter_le (· != t) p.granted
  have hqueue := s.queue
  have hbound := s.bound
  have hnodup : (p.held.filter (· != t) ++ p.waiting).Nodup :=
    s.nodup.sublist (List.filter_sublist.append_right _)
  have hsub : (p.granted.filter (· != t)).Sublist (p.held.filter (· != t)) := s.granted.filter _
  unfold Pool.free handOver
  unfold queued at hqueue
  cases hw : p.waiting with
  | nil =>
    rw [hw] at hnodup hqueue
    refine ⟨hnodup, hsub, ?_, fun h => absurd rfl h, ?_⟩
    · show (p.held.filter (· != t)).length ≤ _
      omega
    · show [].length + (p.granted.filter (· != t)).length ≤ _
      omega
  | cons first rest =>
    have hfull := s.full (by rw [hw]; exact List.cons_ne_nil _ _)
    rw [hw, List.length_cons] at hqueue
    rw [hw] at hnodup
    simp only
    rw [if_pos (by omega)]
    refine ⟨?_, hsub.append (.refl [first]), ?_, fun _ => ?_, ?_⟩
    · show (p.held.filter (· != t) ++ [first] ++ rest).Nodup
      rw [List.append_assoc]
      exact hnodup
    · rw [List.length_append, List.length_singleton]
      omega
    · rw [List.length_append, List.length_singleton]
      omega
    · show rest.length + (p.granted.filter (· != t) ++ [first]).length ≤ _
      rw [List.length_append, List.length_singleton]
      omega

/-- One who was handed a slot notices it. -/
theorem notice (t : Ticket) : Sound limits { p with granted := p.granted.filter (· != t) } := by
  refine ⟨s.nodup, List.filter_sublist.trans s.granted, s.bound, s.full, Nat.le_trans ?_ s.queue⟩
  exact Nat.add_le_add_left (List.length_filter_le _ _) _

/-- One who waits goes away. -/
theorem leave (t : Ticket) : Sound limits { p with waiting := p.waiting.filter (· != t) } := by
  refine ⟨s.nodup.sublist (List.filter_sublist.append_left _), s.granted, s.bound, fun h => s.full ?_,
    Nat.le_trans ?_ s.queue⟩
  · intro hw
    rw [hw] at h
    exact h rfl
  · exact Nat.add_le_add_right (List.length_filter_le _ _) _

/-- One who holds a slot goes, and leaves the others in their order. -/
theorem all_free (ht : t ∈ p.held) : (p.free limits t).all = p.all.filter (· != t) := by
  have hw := filter_ne_of_not_mem (s.not_mem_waiting ht)
  unfold Pool.free
  rw [all_handOver]
  show p.held.filter (· != t) ++ p.waiting = (p.held ++ p.waiting).filter (· != t)
  rw [List.filter_append, hw]

end Sound

/-- A pool knows who of those in it still waits for word: all who wait for a slot, and the holders who
have not noticed that they have one. -/
structure Marks (p : Pool) (waits : Ticket → Prop) : Prop where
  granted : ∀ t, t ∈ p.granted ↔ t ∈ p.held ∧ waits t
  waiting : ∀ t ∈ p.waiting, waits t

namespace Marks

variable {limits : Limits} {p : Pool} {waits waits' : Ticket → Prop}

theorem empty (waits : Ticket → Prop) : Marks {} waits := by
  refine ⟨fun t => ?_, nofun⟩
  exact ⟨nofun, fun h => absurd h.1 List.not_mem_nil⟩

theorem mem_all (m : p.Marks waits) {t : Ticket} (hw : waits t) : t ∈ p.all ↔ t ∈ p.granted ∨ t ∈ p.waiting := by
  unfold all
  rw [List.mem_append, m.granted]
  simp [hw]

theorem congr (m : p.Marks waits) (same : ∀ t ∈ p.all, waits' t ↔ waits t) : p.Marks waits' := by
  refine ⟨fun t => (m.granted t).trans (and_congr_right fun ht => ?_), fun t ht => ?_⟩
  · exact (same t (List.mem_append_left _ ht)).symm
  · exact (same t (List.mem_append_right _ ht)).2 (m.waiting t ht)

theorem take (m : p.Marks waits) {t : Ticket} (hnot : ¬ waits t) : Marks { p with held := p.held ++ [t] } waits := by
  refine ⟨fun t' => ?_, m.waiting⟩
  show t' ∈ p.granted ↔ t' ∈ p.held ++ [t] ∧ waits t'
  rw [m.granted, List.mem_append, List.mem_singleton]
  exact ⟨fun h => ⟨.inl h.1, h.2⟩, fun h => ⟨h.1.resolve_right fun he => hnot (he ▸ h.2), h.2⟩⟩

theorem wait (m : p.Marks waits) {t : Ticket} (hw : waits t) : Marks { p with waiting := p.waiting ++ [t] } waits := by
  refine ⟨m.granted, fun t' ht' => ?_⟩
  rcases List.mem_append.1 ht' with ht' | ht'
  · exact m.waiting t' ht'
  · exact List.mem_singleton.1 ht' ▸ hw

theorem handOver (m : p.Marks waits) : (p.handOver limits).Marks waits := by
  unfold Pool.handOver
  split
  · exact m
  · rename_i first rest hw
    split
    · have hfirst : waits first := m.waiting first (by rw [hw]; exact List.mem_cons_self)
      refine ⟨fun t => ?_, fun t ht => m.waiting t (by rw [hw]; exact List.mem_cons_of_mem _ ht)⟩
      show t ∈ p.granted ++ [first] ↔ t ∈ p.held ++ [first] ∧ waits t
      rw [List.mem_append, List.mem_append, m.granted, List.mem_singleton, or_and_right]
      exact or_congr_right ⟨fun he => ⟨he, he ▸ hfirst⟩, And.left⟩
    · exact m

theorem free (m : p.Marks waits) {t : Ticket} (hw : t ∉ p.waiting) (same : ∀ t', t' ≠ t → (waits' t' ↔ waits t')) :
    (p.free limits t).Marks waits' := by
  refine handOver ⟨fun t' => ?_, fun t' ht' => (same t' fun he => hw (he ▸ ht')).2 (m.waiting t' ht')⟩
  show t' ∈ p.granted.filter (· != t) ↔ t' ∈ p.held.filter (· != t) ∧ waits' t'
  rw [List.mem_filter, List.mem_filter, m.granted]
  by_cases he : t' = t
  · simp [he]
  · simp [he, same t' he]

theorem leave (m : p.Marks waits) {t : Ticket} (hh : t ∉ p.held) (same : ∀ t', t' ≠ t → (waits' t' ↔ waits t')) :
    Marks { p with waiting := p.waiting.filter (· != t) } waits' := by
  refine ⟨fun t' => ?_, fun t' ht' => ?_⟩
  · show t' ∈ p.granted ↔ t' ∈ p.held ∧ waits' t'
    rw [m.granted]
    exact and_congr_right fun ht' => (same t' fun he => hh (he ▸ ht')).symm
  · obtain ⟨ht', hne⟩ := List.mem_filter.1 ht'
    exact (same t' (by simpa using hne)).2 (m.waiting t' ht')

theorem notice (m : p.Marks waits) {t : Ticket} (ht : t ∉ p.waiting) (noticed : ¬ waits' t)
    (same : ∀ t', t' ≠ t → (waits' t' ↔ waits t')) :
    Marks { p with granted := p.granted.filter (· != t) } waits' := by
  refine ⟨fun t' => ?_, fun t' ht' => (same t' fun he => ht (he ▸ ht')).2 (m.waiting t' ht')⟩
  show t' ∈ p.granted.filter (· != t) ↔ t' ∈ p.held ∧ waits' t'
  rw [List.mem_filter, m.granted]
  by_cases he : t' = t
  · simp [he, noticed]
  · simp [he, same t' he]

end Marks

end Pool

namespace Admission

/-- The same admission, but for the pool of a host. -/
structure Changed (a : Admission) (host : Address) (p : Pool) (a' : Admission) : Prop where
  limits : a'.limits = a.limits
  pool : ∀ b, a'.pool b = if b = host then p else a.pool b

theorem changed_setPool (a : Admission) (host : Address) (p : Pool) : Changed a host p (a.setPool host p) := by
  refine ⟨rfl, fun b => ?_⟩
  unfold pool pool? setPool
  rw [lookup_replaced]
  split <;> rfl

theorem changed_changePool (a : Admission) (host : Address) {f : Pool → Pool} (hf : f {} = {}) :
    Changed a host (f (a.pool host)) (a.changePool host f) := by
  unfold changePool
  cases hp : a.pool? host with
  | some p =>
    have hpool : a.pool host = p := by
      unfold pool
      rw [hp, Option.getD_some]
    rw [hpool]
    exact ⟨rfl, (changed_setPool a host (f p)).pool⟩
  | none =>
    have hpool : a.pool host = {} := by
      unfold pool
      rw [hp, Option.getD_none]
    refine ⟨rfl, fun b => ?_⟩
    by_cases hb : b = host
    · rw [if_pos hb, hb, hpool, hf]
    · rw [if_neg hb]

theorem nextTicket_changePool (a : Admission) (host : Address) (f : Pool → Pool) :
    (a.changePool host f).nextTicket = a.nextTicket := by
  unfold changePool
  split <;> rfl

theorem nextTicket_resume (a : Admission) (host : Address) (t : Ticket) :
    (a.resume host t).2.nextTicket = a.nextTicket := by
  unfold resume
  dsimp only
  split
  · rfl
  · split <;> rfl

/-- Where there can be a pool with so many slots, whoever asks gets a free slot, or else a free place in the queue,
or else is turned away. -/
theorem acquire_cases (a : Admission) (host : Address) :
    ∃ answer a', a.acquire host = (a.nextTicket, answer, a') ∧ a'.nextTicket = a.nextTicket + 1 ∧
      ((mostSlots < a.limits.maxInFlight ∧ answer = .overflow ∧ a' = { a with nextTicket := a.nextTicket + 1 }) ∨
        a.limits.maxInFlight ≤ mostSlots ∧
          ((a.inFlight host < a.limits.maxInFlight ∧ answer = .granted ∧
              Changed a host { a.pool host with held := (a.pool host).held ++ [a.nextTicket] } a') ∨
            (¬ a.inFlight host < a.limits.maxInFlight ∧ a.queued host < a.limits.maxQueued ∧ answer = .queued ∧
              Changed a host { a.pool host with waiting := (a.pool host).waiting ++ [a.nextTicket] } a') ∨
            (¬ a.inFlight host < a.limits.maxInFlight ∧ ¬ a.queued host < a.limits.maxQueued ∧
              answer = .turnedAway (a.busy host) ∧ Changed a host (a.pool host) a'))) := by
  unfold acquire
  dsimp only
  have hpool : ∀ n, pool { a with nextTicket := n } host = a.pool host := fun _ => rfl
  rw [hpool]
  split
  · rename_i hmany
    exact ⟨_, _, rfl, rfl, .inl ⟨hmany, rfl, rfl⟩⟩
  · rename_i hmany
    split
    · rename_i hroom
      exact ⟨_, _, rfl, rfl, .inr ⟨Nat.not_lt.1 hmany,
        .inl ⟨hroom, rfl, rfl, (changed_setPool a host _).pool⟩⟩⟩
    · rename_i hfull
      split
      · rename_i hroom
        exact ⟨_, _, rfl, rfl, .inr ⟨Nat.not_lt.1 hmany,
          .inr (.inl ⟨hfull, hroom, rfl, rfl, (changed_setPool a host _).pool⟩)⟩⟩
      · rename_i hcrowded
        exact ⟨_, _, rfl, rfl, .inr ⟨Nat.not_lt.1 hmany,
          .inr (.inr ⟨hfull, hcrowded, rfl, rfl, (changed_setPool a host _).pool⟩)⟩⟩

theorem release_changed (a : Admission) (host : Address) (t : Ticket) :
    Changed a host (if t ∈ (a.pool host).held then (a.pool host).free a.limits t else a.pool host)
      (a.release host t) :=
  changed_changePool a host (f := fun p => if t ∈ p.held then p.free a.limits t else p)
    (if_neg List.not_mem_nil)

theorem cancel_changed (a : Admission) (host : Address) (t : Ticket) :
    Changed a host (if t ∈ (a.pool host).granted then (a.pool host).free a.limits t
      else { a.pool host with waiting := (a.pool host).waiting.filter (· != t) }) (a.cancel host t) := by
  have h := changed_changePool a host (f := fun p => if t ∈ p.granted then p.free a.limits t
    else { p with waiting := p.waiting.filter (· != t) }) (if_neg List.not_mem_nil)
  exact ⟨h.limits, h.pool⟩

theorem remove_changed (a : Admission) (host : Address) : Changed a host {} (a.remove host) := by
  refine ⟨rfl, fun b => ?_⟩
  unfold pool pool? remove
  rw [lookup_filter_ne]
  split <;> rfl

/-- A waiting attempt that looks again has a slot, or still waits, or its pool is gone. -/
theorem resume_cases (a : Admission) (host : Address) (t : Ticket) :
    (t ∈ (a.pool host).granted ∧ (a.resume host t).1 = .granted ∧
      Changed a host { a.pool host with granted := (a.pool host).granted.filter (· != t) } (a.resume host t).2) ∨
    (t ∉ (a.pool host).granted ∧ t ∈ (a.pool host).waiting ∧ a.resume host t = (.waiting, a)) ∨
    (t ∉ (a.pool host).granted ∧ t ∉ (a.pool host).waiting ∧ (a.resume host t).1 = .closed (closed host) ∧
      Changed a host (a.pool host) (a.resume host t).2) := by
  unfold resume
  dsimp only
  split
  · rename_i hg
    have h := changed_setPool a host { a.pool host with granted := (a.pool host).granted.filter (· != t) }
    exact .inl ⟨hg, rfl, h.limits, h.pool⟩
  · rename_i hg
    split
    · rename_i hw
      exact .inr (.inl ⟨hg, hw, rfl⟩)
    · rename_i hw
      refine .inr (.inr ⟨hg, hw, rfl, rfl, fun b => ?_⟩)
      by_cases hb : b = host
      · rw [if_pos hb, hb]
        rfl
      · rw [if_neg hb]
        rfl

/-- Looking again changes nothing for one who still waits. -/
theorem resume_of_waiting {a : Admission} {host : Address} {t : Ticket} (waiting : (a.resume host t).1 = .waiting) :
    (a.resume host t).2 = a := by
  rcases resume_cases a host t with ⟨-, he, -⟩ | ⟨-, -, he⟩ | ⟨-, -, he, -⟩
  · rw [he] at waiting
    cases waiting
  · rw [he]
  · rw [he] at waiting
    cases waiting

end Admission

end CqlDispatch
