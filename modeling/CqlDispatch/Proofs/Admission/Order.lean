import CqlDispatch.Proofs.Admission.Pool
import CqlDispatch.Proofs.Admission.History
/-!
# Order in the queues

Whatever the users of an admission do, its pools tell of every host what the history of its users tells
(`Tallies`).
-/
namespace CqlDispatch
namespace Admission

/-! ## Runs -/

/-- What users do with an admission. -/
inductive Deed where
  | acquire (host : Address)
  | giveBack (host : Address) (t : Ticket)
  | resume (host : Address) (t : Ticket)
  | cancel (host : Address) (t : Ticket)
  | remove (host : Address)
  deriving DecidableEq, Repr

/-- One deed, and what its user sees of it.  Only one who waits looks again or goes away, and only one
who holds a slot gives it back. -/
def step? (s : Admission × List Use) : Deed → Option (Admission × List Use)
  | .acquire host =>
    let (t, answer, a) := s.1.acquire host
    some (a, .asked host t answer :: s.2)
  | .giveBack host t =>
    if Holds s.2 host t then some (s.1.release host t, .gaveBack host t :: s.2) else none
  | .resume host t =>
    if Waits s.2 host t then
      match s.1.resume host t with
      | (.granted, a) => some (a, .got host t :: s.2)
      | (.waiting, a) => some (a, s.2)
      | (.closed _, a) => some (a, .failed host t :: s.2)
    else none
  | .cancel host t =>
    if Waits s.2 host t then some (s.1.cancel host t, .left host t :: s.2) else none
  | .remove host => some (s.1.remove host, .removed host :: s.2)

def run? (s : Admission × List Use) (deeds : List Deed) : Option (Admission × List Use) := deeds.foldlM step? s

/-! ## Pools and histories -/

/-- The pools tell what the history tells: who is there, in which order, and who still waits for word. -/
structure Tallies (limits : Limits) (a : Admission) (h : List Use) : Prop where
  limits : a.limits = limits
  history : Consistent h a.nextTicket
  sound : ∀ host, (a.pool host).Sound a.limits
  all : ∀ host, (a.pool host).all = live h host
  marks : ∀ host, (a.pool host).Marks (Waits h host)
  /-- Nobody is let in where there cannot be a pool with so many slots. -/
  shut : mostSlots < a.limits.maxInFlight → ∀ host, arrived h host = []

namespace Tallies

theorem start (limits : Limits) : Tallies limits { limits := limits } [] :=
  ⟨rfl, .nil _, fun _ => .empty _, fun _ => rfl, fun _ => .empty _, fun _ _ => rfl⟩

variable {limits : Limits} {a a' : Admission} {h : List Use} (tallies : Tallies limits a h)
include tallies

/-- What happens on one host concerns no other. -/
theorem change {u : Use} {host : Address} {p : Pool} (changed : Changed a host p a') (about : u.host = host)
    (history : Consistent (u :: h) a'.nextTicket) (sound : p.Sound a.limits) (all : p.all = live (u :: h) host)
    (marks : p.Marks (Waits (u :: h) host)) (comes : (∀ b, u.arrival? b = none) ∨ a.limits.maxInFlight ≤ mostSlots) :
    Tallies limits a' (u :: h) := by
  refine ⟨changed.limits.trans tallies.limits, history, fun b => ?_, fun b => ?_, fun b => ?_, fun many b => ?shut⟩
  case shut =>
    rw [changed.limits] at many
    rw [arrived_cons, tallies.shut many b, comes.resolve_right (Nat.not_le.2 many) b]
    exact ite_self _
  all_goals
    rw [changed.pool]
    by_cases hb : b = host
    · subst hb
      rw [if_pos rfl]
      first | exact changed.limits ▸ sound | exact all | exact marks
    · rw [if_neg hb]
      have other : u.host ≠ b := fun he => hb (he.symm.trans about)
      first
        | exact changed.limits ▸ tallies.sound b
        | exact (tallies.all b).trans (live_cons_other other).symm
        | exact (tallies.marks b).congr fun t _ => waits_cons (.inl other)

theorem acquire (host : Address) {t : Ticket} {answer : Admittance} (he : a.acquire host = (t, answer, a')) :
    Tallies limits a' (.asked host t answer :: h) := by
  obtain ⟨answer', a'', he', hnext, hcases⟩ := acquire_cases a host
  rw [he] at he'
  cases he'
  have history := hnext ▸ tallies.history.asked host answer
  have new : a.nextTicket ∉ arrived h host := fun hm =>
    absurd (tallies.history.lt_of_arrived hm) (Nat.lt_irrefl _)
  have hall : a.nextTicket ∉ (a.pool host).all := fun hm =>
    new (List.mem_of_mem_filter (tallies.all host ▸ hm))
  have unseen : ∀ {u : Use}, u.ticket? = some a.nextTicket → u ∉ h := tallies.history.not_mem_of_fresh
  have marks : (a.pool host).Marks (Waits (.asked host a.nextTicket answer :: h) host) :=
    (tallies.marks host).congr fun t ht => waits_cons (.inr fun he => hall (Option.some.inj he ▸ ht))
  have sound := tallies.sound host
  -- Whoever got neither a slot nor a place leaves everyone where they were.
  have outside : ∀ {answer a'}, answer ≠ .granted → answer ≠ .queued → Changed a host (a.pool host) a' →
      a'.nextTicket = a.nextTicket + 1 → Tallies limits a' (.asked host a.nextTicket answer :: h) := by
    intro answer a' hgranted hqueued changed hnext
    have marks : (a.pool host).Marks (Waits (.asked host a.nextTicket answer :: h) host) :=
      (tallies.marks host).congr fun t ht => waits_cons (.inr fun he => hall (Option.some.inj he ▸ ht))
    have stranger : ∀ b, (Use.asked host a.nextTicket answer).arrival? b = none := fun b => by
      cases answer <;> first | rfl | contradiction
    refine tallies.change changed rfl (hnext ▸ tallies.history.asked host answer) sound ?_ marks (.inl stranger)
    rw [live_same Use.noConfusion (stranger host) fun t ht => ?_]
    · exact tallies.all host
    · have other : (Use.asked host a.nextTicket answer).ticket? ≠ some t := fun he =>
        new (Option.some.inj he ▸ ht)
      rw [waits_cons (.inr other), holds_cons (.inr other)]
  rcases hcases with ⟨-, rfl, rfl⟩ |
    ⟨few, ⟨hroom, rfl, changed⟩ | ⟨hfull, hroom, rfl, changed⟩ | ⟨-, -, rfl, changed⟩⟩
  · exact outside nofun nofun ⟨rfl, fun b => by split <;> simp_all [pool, pool?]⟩ hnext
  · have there : Holds (.asked host a.nextTicket .granted :: h) host a.nextTicket :=
      ⟨.inl List.mem_cons_self, by simpa using unseen rfl⟩
    have hnot : ¬ Waits (.asked host a.nextTicket .granted :: h) host a.nextTicket := fun hw =>
      unseen (u := .asked host a.nextTicket .queued) rfl (by simpa using hw.1)
    refine tallies.change changed rfl history (sound.take hall hroom) ?_ (marks.take hnot)
      (.inr few)
    rw [live_arrival (Use.arrival?_granted host _) new (.inr there), ← tallies.all host]
    unfold Pool.all
    rw [sound.waiting_nil hroom, List.append_nil, List.append_nil]
  · have there : Waits (.asked host a.nextTicket .queued :: h) host a.nextTicket :=
      ⟨List.mem_cons_self, by simpa using unseen rfl, by simpa using unseen rfl, by simpa using unseen rfl⟩
    refine tallies.change changed rfl history (sound.wait hall hfull hroom) ?_ (marks.wait there)
      (.inr few)
    rw [live_arrival (Use.arrival?_queued host _) new (.inl there), ← tallies.all host]
    exact (List.append_assoc ..).symm
  · exact outside nofun nofun changed hnext

theorem giveBack {host : Address} {t : Ticket} (hh : Holds h host t) :
    Tallies limits (a.release host t) (.gaveBack host t :: h) := by
  have history := tallies.history.cons (u := .gaveBack host t) hh
  have same : ∀ t', t' ≠ t → (Waits (.gaveBack host t :: h) host t' ↔ Waits h host t') := fun t' hne =>
    waits_cons (.inr fun he => hne (Option.some.inj he).symm)
  have hnot : ¬ Waits h host t := fun hw => tallies.history.not_holds hw hh
  have hwaiting : t ∉ (a.pool host).waiting := fun hw => hnot ((tallies.marks host).waiting t hw)
  have hlive : live (.gaveBack host t :: h) host = (a.pool host).all.filter (· != t) := by
    rw [tallies.all]
    refine live_over Use.noConfusion rfl rfl (fun hw => hnot ?_) fun hh' => hh'.2 List.mem_cons_self
    simpa [Waits] using hw
  have hnext : (a.release host t).nextTicket = a.nextTicket := nextTicket_changePool ..
  have changed := release_changed a host t
  by_cases hheld : t ∈ (a.pool host).held
  · rw [if_pos hheld] at changed
    refine tallies.change changed rfl (hnext ▸ history) ((tallies.sound host).free hheld) ?_
      ((tallies.marks host).free hwaiting same) (.inl fun _ => rfl)
    rw [hlive, (tallies.sound host).all_free hheld]
  · -- The pool it had its slot from is gone.
    have hall : t ∉ (a.pool host).all := fun hm => (List.mem_append.1 hm).elim hheld hwaiting
    rw [if_neg hheld] at changed
    refine tallies.change changed rfl (hnext ▸ history) (tallies.sound host) ?_
      ((tallies.marks host).congr fun t' ht' => same t' fun he => hall (he ▸ ht')) (.inl fun _ => rfl)
    rw [hlive, filter_ne_of_not_mem hall]

theorem cancel {host : Address} {t : Ticket} (hw : Waits h host t) :
    Tallies limits (a.cancel host t) (.left host t :: h) := by
  have history := tallies.history.cons (u := .left host t) hw
  have same : ∀ t', t' ≠ t → (Waits (.left host t :: h) host t' ↔ Waits h host t') := fun t' hne =>
    waits_cons (.inr fun he => hne (Option.some.inj he).symm)
  have hnot : ¬ Holds h host t := tallies.history.not_holds hw
  have hlive : live (.left host t :: h) host = (a.pool host).all.filter (· != t) := by
    rw [tallies.all]
    refine live_over Use.noConfusion rfl rfl (fun hw' => hw'.2.2.2 List.mem_cons_self) fun hh => hnot ?_
    simpa [Holds] using hh
  have hnext : (a.cancel host t).nextTicket = a.nextTicket := nextTicket_changePool ..
  have changed := cancel_changed a host t
  by_cases hgranted : t ∈ (a.pool host).granted
  · have hheld := ((tallies.marks host).granted t).1 hgranted
    have hwaiting := (tallies.sound host).not_mem_waiting hheld.1
    rw [if_pos hgranted] at changed
    refine tallies.change changed rfl (hnext ▸ history) ((tallies.sound host).free hheld.1) ?_
      ((tallies.marks host).free hwaiting same) (.inl fun _ => rfl)
    rw [hlive, (tallies.sound host).all_free hheld.1]
  · have hheld : t ∉ (a.pool host).held := fun hm => hgranted (((tallies.marks host).granted t).2 ⟨hm, hw⟩)
    rw [if_neg hgranted] at changed
    refine tallies.change changed rfl (hnext ▸ history) ((tallies.sound host).leave t) ?_
      ((tallies.marks host).leave hheld same) (.inl fun _ => rfl)
    rw [hlive]
    unfold Pool.all
    rw [List.filter_append, filter_ne_of_not_mem hheld]

theorem got {host : Address} {t : Ticket} (hw : Waits h host t) (hgranted : t ∈ (a.pool host).granted)
    (changed : Changed a host { a.pool host with granted := (a.pool host).granted.filter (· != t) } a')
    (hnext : a'.nextTicket = a.nextTicket) : Tallies limits a' (.got host t :: h) := by
  have history := tallies.history.cons (u := .got host t) hw
  have same : ∀ t', t' ≠ t → (Waits (.got host t :: h) host t' ↔ Waits h host t') := fun t' hne =>
    waits_cons (.inr fun he => hne (Option.some.inj he).symm)
  have hheld := (((tallies.marks host).granted t).1 hgranted).1
  have hwaiting := (tallies.sound host).not_mem_waiting hheld
  have hnot : ¬ Waits (.got host t :: h) host t := fun hw' => hw'.2.1 List.mem_cons_self
  have hholds : Holds (.got host t :: h) host t := by
    refine ⟨.inr List.mem_cons_self, fun hb => ?_⟩
    exact tallies.history.gaveBack (b := host) (t := t) (by simpa using hb) hw
  refine tallies.change changed rfl (hnext ▸ history) ((tallies.sound host).notice t) ?_
    ((tallies.marks host).notice hwaiting hnot same) (.inl fun _ => rfl)
  rw [live_same Use.noConfusion rfl fun t' _ => ?_]
  · exact tallies.all host
  · by_cases he : t' = t
    · subst he
      exact ⟨fun _ => .inl hw, fun _ => .inr hholds⟩
    · have other : (Use.got host t).ticket? ≠ some t' := fun ht' => he (Option.some.inj ht').symm
      rw [waits_cons (.inr other), holds_cons (.inr other)]

theorem failed {host : Address} {t : Ticket} (hw : Waits h host t) (hgranted : t ∉ (a.pool host).granted)
    (hwaiting : t ∉ (a.pool host).waiting) (changed : Changed a host (a.pool host) a')
    (hnext : a'.nextTicket = a.nextTicket) : Tallies limits a' (.failed host t :: h) := by
  have history := tallies.history.cons (u := .failed host t) hw
  have hall : t ∉ (a.pool host).all := fun hm =>
    ((tallies.marks host).mem_all hw).1 hm |>.elim hgranted hwaiting
  have hnot : ¬ Holds h host t := tallies.history.not_holds hw
  refine tallies.change changed rfl (hnext ▸ history) (tallies.sound host) ?_ ((tallies.marks host).congr ?_)
    (.inl fun _ => rfl)
  · rw [live_over Use.noConfusion rfl rfl (fun hw' => hw'.2.2.1 List.mem_cons_self) fun hh => hnot ?_,
      ← tallies.all, filter_ne_of_not_mem hall]
    simpa [Holds] using hh
  · exact fun t' ht' => waits_cons (.inr fun he => hall (Option.some.inj he ▸ ht'))

theorem remove (host : Address) : Tallies limits (a.remove host) (.removed host :: h) := by
  have hlive : live (.removed host :: h) host = [] := by
    unfold live
    rw [arrived_cons, if_pos rfl]
    rfl
  refine tallies.change (remove_changed a host) rfl (tallies.history.cons (u := .removed host) trivial)
    (.empty _) hlive.symm (.empty _) (.inl fun _ => rfl)

/-- **Whatever a user does, the pools still tell what the history tells.** -/
theorem step {d : Deed} {h' : List Use} (hs : step? (a, h) d = some (a', h')) : Tallies limits a' h' := by
  cases d with
  | acquire host =>
    cases hs
    exact tallies.acquire host rfl
  | giveBack host t =>
    simp only [step?] at hs
    split at hs
    · rename_i hh
      cases hs
      exact tallies.giveBack hh
    · cases hs
  | resume host t =>
    simp only [step?] at hs
    split at hs
    · rename_i hw
      have hnext := nextTicket_resume a host t
      have hcases := resume_cases a host t
      cases hr : a.resume host t with
      | mk result a'' =>
        rw [hr] at hs hnext hcases
        rcases hcases with ⟨hg, rfl, changed⟩ | ⟨-, -, he⟩ | ⟨hg, hq, rfl, changed⟩
        · cases hs
          exact tallies.got hw hg changed hnext
        · cases he
          cases hs
          exact tallies
        · cases hs
          exact tallies.failed hw hg hq changed hnext
    · cases hs
  | cancel host t =>
    simp only [step?] at hs
    split at hs
    · rename_i hw
      cases hs
      exact tallies.cancel hw
    · cases hs
  | remove host =>
    cases hs
    exact tallies.remove host

end Tallies

theorem Tallies.run {limits : Limits} : ∀ {deeds : List Deed} {a : Admission} {h : List Use}, Tallies limits a h →
    ∀ {a' h'}, run? (a, h) deeds = some (a', h') → Tallies limits a' h'
  | [], _, _, tallies, _, _, hr => by
    cases hr
    exact tallies
  | d :: deeds, a, h, tallies, _, _, hr => by
    obtain ⟨⟨a₁, h₁⟩, hs, hr⟩ := Option.bind_eq_some_iff.1 hr
    exact Tallies.run (tallies.step hs) hr

/-! ## What users can count on -/

/-- Holds a slot, perhaps one that was handed over and not noticed yet. -/
def Taken (a : Admission) (h : List Use) (host : Address) (t : Ticket) : Prop :=
  Holds h host t ∨ (a.resume host t).1 = .granted

instance (a : Admission) (h : List Use) (host : Address) (t : Ticket) : Decidable (Taken a h host t) :=
  inferInstanceAs (Decidable (_ ∨ _))

/-- What the users of a host can count on. -/
structure Orderly (limits : Limits) (a : Admission) (h : List Use) (host : Address) : Prop where
  inFlight : a.inFlight host = ((live h host).filter fun t => Taken a h host t).length
  inFlight_le : a.inFlight host ≤ limits.maxInFlight
  queued : a.queued host = (queue h host).length
  queued_le : a.queued host ≤ limits.maxQueued
  /-- Nobody can ask where there cannot be a pool with so many slots. -/
  overflow : (a.acquire host).2.1 = .overflow ↔ mostSlots < limits.maxInFlight
  turnedAway : ∀ f, (a.acquire host).2.1 = .turnedAway f ↔
    f = .busy host limits.maxInFlight ∧ a.inFlight host = limits.maxInFlight ∧ a.queued host = limits.maxQueued
  /-- Nobody is left waiting while a slot is free. -/
  waiting : ∀ t, Waits h host t → (a.resume host t).1 = .waiting → a.inFlight host = limits.maxInFlight
  /-- One who came later has no slot before those who came earlier have theirs. -/
  inOrder : (arrived h host).Pairwise fun t t' =>
    Waits h host t → Taken a h host t' → (a.resume host t).1 = .granted
  /-- The counts are those of a history in which one who went away never came. -/
  left : ∀ t, .left host t ∈ h →
    a.inFlight host = min limits.maxInFlight (live (without h t) host).length ∧
      a.queued host = (queue (without h t) host).length
  /-- Those are let down who asked before the host was last removed, and no others. -/
  closed : ∀ t, Waits h host t →
    ((a.resume host t).1 = .closed (closed host) ↔ .asked host t .queued ∉ since h host)

section

variable {limits : Limits} {a : Admission} {h : List Use} (tallies : Tallies limits a h) {host : Address} {t : Ticket}

theorem resume_granted_iff : (a.resume host t).1 = .granted ↔ t ∈ (a.pool host).granted := by
  rcases resume_cases a host t with ⟨hg, he, -⟩ | ⟨hg, -, he⟩ | ⟨hg, -, he, -⟩ <;> simp [hg, he]

theorem resume_waiting_iff :
    (a.resume host t).1 = .waiting ↔ t ∉ (a.pool host).granted ∧ t ∈ (a.pool host).waiting := by
  rcases resume_cases a host t with ⟨hg, he, -⟩ | ⟨hg, hw, he⟩ | ⟨hg, hw, he, -⟩ <;> simp [*]

theorem resume_closed_iff : (a.resume host t).1 = .closed (Admission.closed host) ↔
    t ∉ (a.pool host).granted ∧ t ∉ (a.pool host).waiting := by
  rcases resume_cases a host t with ⟨hg, he, -⟩ | ⟨hg, hw, he⟩ | ⟨hg, hw, he, -⟩ <;> simp [*]

include tallies

/-- Whoever still waits for word is in the pool of its host, unless it came before that pool. -/
theorem Tallies.mem_all_iff (hw : Waits h host t) : t ∈ (a.pool host).all ↔ .asked host t .queued ∈ since h host := by
  rw [tallies.all]
  unfold live
  rw [List.mem_filter, and_iff_left (by simp [hw]), mem_arrived_iff]
  refine or_iff_right fun hasked => ?_
  have hm := List.takeWhile_sublist _ |>.mem hasked
  exact absurd (tallies.history.once hm hw.1).2 (by decide)

theorem Tallies.taken_iff (ht : t ∈ (a.pool host).all) : Taken a h host t ↔ t ∈ (a.pool host).held := by
  unfold Taken
  rw [resume_granted_iff, (tallies.marks host).granted]
  constructor
  · rintro (hh | hg)
    · refine (List.mem_append.1 ht).resolve_right fun hw => ?_
      exact tallies.history.not_holds ((tallies.marks host).waiting t hw) hh
    · exact hg.1
  · intro hheld
    have hlive : t ∈ live h host := tallies.all host ▸ ht
    have hstatus : Waits h host t ∨ Holds h host t := by simpa using (List.mem_filter.1 hlive).2
    exact hstatus.elim (fun hw => .inr ⟨hheld, hw⟩) .inl

theorem Tallies.inFlight_eq : a.inFlight host = ((live h host).filter fun t => Taken a h host t).length := by
  have hheld : (a.pool host).held.filter (fun t => Taken a h host t) = (a.pool host).held :=
    List.filter_eq_self.2 fun t ht => by simpa using (tallies.taken_iff (List.mem_append_left _ ht)).2 ht
  have hwaiting : (a.pool host).waiting.filter (fun t => Taken a h host t) = [] :=
    List.filter_eq_nil_iff.2 fun t ht => by
      have hnot : t ∉ (a.pool host).held := fun hm => (tallies.sound host).not_mem_waiting hm ht
      simpa using fun htaken => hnot ((tallies.taken_iff (List.mem_append_right _ ht)).1 htaken)
  rw [← tallies.all]
  unfold Pool.all
  rw [List.filter_append, hheld, hwaiting, List.append_nil]
  rfl

/-- Slots are free only where nobody waits for one, so the count follows from how many there are. -/
theorem Tallies.inFlight_eq_min : a.inFlight host = min limits.maxInFlight (live h host).length := by
  have sound := tallies.limits ▸ tallies.sound host
  have hbound := sound.bound
  have hlength : (live h host).length = (a.pool host).held.length + (a.pool host).waiting.length := by
    rw [← tallies.all]
    exact List.length_append
  unfold inFlight
  by_cases hw : (a.pool host).waiting = []
  · rw [hw, List.length_nil] at hlength
    omega
  · have hfull := sound.full hw
    omega

theorem Tallies.queued_eq : a.queued host = (queue h host).length := by
  have sound := tallies.sound host
  have marks := tallies.marks host
  have hqueue : queue h host = (live h host).filter fun t => Waits h host t := by
    unfold queue live
    rw [List.filter_filter]
    exact List.filter_congr fun t _ => by by_cases hw : Waits h host t <;> simp [hw]
  have hwaiting : (a.pool host).waiting.filter (fun t => Waits h host t) = (a.pool host).waiting :=
    List.filter_eq_self.2 fun t ht => by simpa using marks.waiting t ht
  have hgranted : (a.pool host).granted.Perm ((a.pool host).held.filter fun t => Waits h host t) := by
    have hnodup := sound.held_nodup
    refine (List.perm_ext_iff_of_nodup (hnodup.sublist sound.granted) (hnodup.filter _)).2 fun t => ?_
    rw [marks.granted, List.mem_filter, decide_eq_true_iff]
  rw [hqueue, ← tallies.all]
  unfold Pool.all queued Pool.queued
  rw [List.filter_append, List.length_append, hwaiting, hgranted.length_eq, Nat.add_comm]

theorem Tallies.inOrder : (arrived h host).Pairwise fun t t' =>
    Waits h host t → Taken a h host t' → (a.resume host t).1 = .granted := by
  have marks := tallies.marks host
  have hlive : (live h host).Pairwise fun t t' =>
      Waits h host t → Taken a h host t' → (a.resume host t).1 = .granted := by
    rw [← tallies.all]
    refine (tallies.sound host).first.imp_of_mem fun {t t'} _ ht' hfirst hw htaken => ?_
    exact resume_granted_iff.2 ((marks.granted t).2 ⟨hfirst ((tallies.taken_iff ht').1 htaken), hw⟩)
  -- One who waits is there, and so is one who has a slot.
  refine (List.pairwise_filter.1 hlive).imp fun {t t'} hthere hw htaken => ?_
  have htaken' : Waits h host t' ∨ Holds h host t' :=
    htaken.symm.imp_left fun hg => ((marks.granted t').1 (resume_granted_iff.1 hg)).2
  exact hthere (by simp [hw]) (by simpa using htaken') hw htaken

theorem Tallies.orderly (host : Address) : Orderly limits a h host := by
  have hlimits := tallies.limits
  have sound := hlimits ▸ tallies.sound host
  refine ⟨tallies.inFlight_eq, sound.bound, tallies.queued_eq, sound.queue, ?_, fun f => ?_, fun t hw hr => ?_,
    tallies.inOrder, fun t hl => ?_, fun t hw => ?_⟩
  · obtain ⟨answer, a', he, -, ⟨many, rfl, -⟩ | ⟨few, hcases⟩⟩ := acquire_cases a host
    · rw [he]
      exact iff_of_true rfl (hlimits ▸ many)
    · rw [he]
      refine iff_of_false (fun ho => ?_) (Nat.not_lt.2 (hlimits ▸ few))
      rcases hcases with ⟨-, rfl, -⟩ | ⟨-, -, rfl, -⟩ | ⟨-, -, rfl, -⟩ <;> cases ho
  · have hbound : a.inFlight host ≤ limits.maxInFlight := sound.bound
    have hqueue : a.queued host ≤ limits.maxQueued := sound.queue
    obtain ⟨answer, a', he, -, hcases⟩ := acquire_cases a host
    rw [he]
    unfold busy at hcases
    rw [hlimits] at hcases
    rcases hcases with ⟨many, rfl, -⟩ |
      ⟨-, ⟨hroom, rfl, -⟩ | ⟨-, hroom, rfl, -⟩ | ⟨hfull, hcrowded, rfl, -⟩⟩
    · have hempty : a.inFlight host = 0 := by
        rw [tallies.inFlight_eq]
        unfold live
        rw [tallies.shut (hlimits ▸ many) host]
        rfl
      exact ⟨nofun, fun ⟨_, hfull, _⟩ => absurd (hempty.symm.trans hfull) (Nat.ne_of_lt (Nat.zero_lt_of_lt many))⟩
    · exact ⟨nofun, fun ⟨_, hfull, _⟩ => absurd hfull (Nat.ne_of_lt hroom)⟩
    · exact ⟨nofun, fun ⟨_, _, hcrowded⟩ => absurd hcrowded (Nat.ne_of_lt hroom)⟩
    · have hfull := Nat.le_antisymm hbound (Nat.not_lt.1 hfull)
      have hcrowded := Nat.le_antisymm hqueue (Nat.not_lt.1 hcrowded)
      exact ⟨fun hf => ⟨(Admittance.turnedAway.inj hf).symm, hfull, hcrowded⟩, fun ⟨hf, _⟩ => by rw [hf]⟩
  · exact sound.full (List.ne_nil_of_mem (resume_waiting_iff.1 hr).2)
  · have hgone : ¬ Waits h host t := fun hw => hw.2.2.2 hl
    rw [live_without hgone (tallies.history.left_not_holds hl), queue_without hgone]
    exact ⟨tallies.inFlight_eq_min, tallies.queued_eq⟩
  · rw [resume_closed_iff, ← tallies.mem_all_iff hw, (tallies.marks host).mem_all hw, not_or]

end

/-- **Every host gets its slots and its queue in order**, whatever the users of an admission do and under
any limits. -/
theorem hosts_orderly {limits : Limits} {deeds : List Deed} {a : Admission} {h : List Use}
    (run : run? ({ limits := limits }, []) deeds = some (a, h)) (host : Address) : Orderly limits a h host :=
  ((Tallies.start limits).run run).orderly host

/-- One slot and two places to wait on a host: of four who ask, one has the slot, two wait, one is turned
away.  The first to wait goes away, and the slot that is given back goes to the other. -/
def oneSlot : List Deed :=
  [.acquire ⟨.v4 1, 0⟩, .acquire ⟨.v4 1, 0⟩, .acquire ⟨.v4 1, 0⟩, .acquire ⟨.v4 1, 0⟩, .cancel ⟨.v4 1, 0⟩ 1,
    .giveBack ⟨.v4 1, 0⟩ 0]

theorem next_waiter_has_slot : ∃ a h,
    run? ({ limits := { maxInFlight := 1, maxQueued := 2 } }, []) oneSlot = some (a, h) ∧
      Waits h ⟨.v4 1, 0⟩ 2 ∧ (a.resume ⟨.v4 1, 0⟩ 2).1 = .granted ∧
      .asked ⟨.v4 1, 0⟩ 3 (.turnedAway (.busy ⟨.v4 1, 0⟩ 1)) ∈ h ∧
      Orderly { maxInFlight := 1, maxQueued := 2 } a h ⟨.v4 1, 0⟩ := by
  refine ⟨_, _, rfl, ?_, ?_, ?_, @hosts_orderly { maxInFlight := 1, maxQueued := 2 } oneSlot _ _ rfl _⟩
  · decide
  · decide
  · decide

end Admission

end CqlDispatch
