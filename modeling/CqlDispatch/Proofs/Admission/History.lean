import Mathlib.Data.List.Nodup
import CqlDispatch.Admission
/-!
# What happened to tickets

The history of an admission is what its users saw and did, the newest first: whoever asked and what
they were told, who found that their wait was over, who gave a slot back or went away, and which hosts
were removed.  It knows nothing of pools.  From it alone follow who waits, who holds a slot, and who
came in which order since the host was last removed.
-/
namespace CqlDispatch

/-- What a user of an admission saw or did. -/
inductive Use where
  | asked (host : Address) (t : Ticket) (answer : Admittance)
  /-- A waiter found that it has a slot. -/
  | got (host : Address) (t : Ticket)
  /-- A waiter found that its queue is gone. -/
  | failed (host : Address) (t : Ticket)
  /-- A waiter went away. -/
  | left (host : Address) (t : Ticket)
  | gaveBack (host : Address) (t : Ticket)
  | removed (host : Address)
  deriving DecidableEq, Repr

namespace Use

def host : Use → Address
  | asked host _ _ | got host _ | failed host _ | left host _ | gaveBack host _ | removed host => host

def ticket? : Use → Option Ticket
  | asked _ t _ | got _ t | failed _ t | left _ t | gaveBack _ t => some t
  | removed _ => none

/-- The ticket of one who was let in, to a slot or to the queue of a host. -/
def arrival? (host : Address) : Use → Option Ticket
  | asked b t .granted | asked b t .queued => if b = host then some t else none
  | _ => none

end Use

/-- Told to wait, and neither told otherwise nor gone since. -/
def Waits (h : List Use) (host : Address) (t : Ticket) : Prop :=
  .asked host t .queued ∈ h ∧ .got host t ∉ h ∧ .failed host t ∉ h ∧ .left host t ∉ h

/-- Told that it has a slot, and not given it back since. -/
def Holds (h : List Use) (host : Address) (t : Ticket) : Prop :=
  (.asked host t .granted ∈ h ∨ .got host t ∈ h) ∧ .gaveBack host t ∉ h

instance (h : List Use) (host : Address) (t : Ticket) : Decidable (Waits h host t) :=
  inferInstanceAs (Decidable (_ ∧ _))

instance (h : List Use) (host : Address) (t : Ticket) : Decidable (Holds h host t) :=
  inferInstanceAs (Decidable (_ ∧ _))

/-- What happened since a host was last removed. -/
def since (h : List Use) (host : Address) : List Use := h.takeWhile (· != .removed host)

/-- Those who were let in since the host was last removed, in the order in which they came. -/
def arrived (h : List Use) (host : Address) : List Ticket := (since h host).reverse.filterMap (·.arrival? host)

/-- Those of them who are still there. -/
def live (h : List Use) (host : Address) : List Ticket :=
  (arrived h host).filter fun t => Waits h host t ∨ Holds h host t

/-- Those of them who still wait. -/
def queue (h : List Use) (host : Address) : List Ticket := (arrived h host).filter fun t => Waits h host t

/-- A history from which one ticket is left out. -/
def without (h : List Use) (t : Ticket) : List Use := h.filter (·.ticket? != some t)

theorem mem_arrived_iff {h : List Use} {host : Address} {t : Ticket} :
    t ∈ arrived h host ↔ .asked host t .granted ∈ since h host ∨ .asked host t .queued ∈ since h host := by
  unfold arrived
  simp only [List.mem_filterMap, List.mem_reverse]
  constructor
  · rintro ⟨u, hu, ha⟩
    cases u with
    | asked b t' answer =>
      cases answer with
      | granted | queued =>
        have ha : (if b = host then some t' else none) = some t := ha
        split at ha
        · cases ha
          subst b
          first | exact .inl hu | exact .inr hu
        · cases ha
      | turnedAway | overflow => cases ha
    | got | failed | left | gaveBack | removed => cases ha
  · rintro (hu | hu)
    · exact ⟨_, hu, if_pos rfl⟩
    · exact ⟨_, hu, if_pos rfl⟩

/-! ## One more event -/

theorem arrived_cons (u : Use) (h : List Use) (host : Address) :
    arrived (u :: h) host = if u = .removed host then [] else arrived h host ++ (u.arrival? host).toList := by
  unfold arrived since
  rw [List.takeWhile_cons]
  by_cases hu : u = .removed host
  · rw [if_neg (by simp [hu]), if_pos hu]
    rfl
  · rw [if_pos (by simpa using hu), if_neg hu, List.reverse_cons, List.filterMap_append]
    cases ha : u.arrival? host <;> simp [ha]

theorem Use.arrival?_granted (host : Address) (t : Ticket) : (asked host t .granted).arrival? host = some t :=
  if_pos rfl

theorem Use.arrival?_queued (host : Address) (t : Ticket) : (asked host t .queued).arrival? host = some t :=
  if_pos rfl

theorem Use.arrival?_of_ne {u : Use} {host : Address} (hne : u.host ≠ host) : u.arrival? host = none := by
  cases u with
  | asked b t answer => cases answer <;> first | rfl | exact if_neg hne
  | got | failed | left | gaveBack | removed => rfl

theorem Use.ticket?_of_arrival? {u : Use} {host : Address} {t : Ticket} (ha : u.arrival? host = some t) :
    u.ticket? = some t := by
  cases u with
  | asked b t' answer =>
    cases answer with
    | granted | queued =>
      have ha : (if b = host then some t' else none) = some t := ha
      split at ha
      · exact ha
      · cases ha
    | turnedAway | overflow => cases ha
  | got | failed | left | gaveBack | removed => cases ha

/-- An event is about one ticket of one host. -/
theorem waits_cons {u : Use} {h : List Use} {host : Address} {t : Ticket}
    (other : u.host ≠ host ∨ u.ticket? ≠ some t) : Waits (u :: h) host t ↔ Waits h host t := by
  unfold Waits
  cases u <;> simp [Use.host, Use.ticket?] at other ⊢ <;> grind

theorem holds_cons {u : Use} {h : List Use} {host : Address} {t : Ticket}
    (other : u.host ≠ host ∨ u.ticket? ≠ some t) : Holds (u :: h) host t ↔ Holds h host t := by
  unfold Holds
  cases u <;> simp [Use.host, Use.ticket?] at other ⊢ <;> grind

theorem live_cons {u : Use} {h : List Use} {host : Address} (stays : u ≠ .removed host) :
    live (u :: h) host = (arrived h host ++ (u.arrival? host).toList).filter
      fun t => Waits (u :: h) host t ∨ Holds (u :: h) host t := by
  unfold live
  rw [arrived_cons, if_neg stays]

theorem live_cons_other {u : Use} {h : List Use} {host : Address} (other : u.host ≠ host) :
    live (u :: h) host = live h host := by
  have stays : u ≠ .removed host := fun hu => other (by rw [hu]; rfl)
  rw [live_cons stays, Use.arrival?_of_ne other, Option.toList_none, List.append_nil]
  exact List.filter_congr fun t _ => by simp only [waits_cons (.inl other), holds_cons (.inl other)]

/-- One more has come, and is there. -/
theorem live_arrival {u : Use} {h : List Use} {host : Address} {t : Ticket} (ha : u.arrival? host = some t)
    (new : t ∉ arrived h host) (there : Waits (u :: h) host t ∨ Holds (u :: h) host t) :
    live (u :: h) host = live h host ++ [t] := by
  have stays : u ≠ .removed host := by
    rintro rfl
    cases ha
  have hticket := Use.ticket?_of_arrival? ha
  have hothers : (arrived h host).filter (fun t => Waits (u :: h) host t ∨ Holds (u :: h) host t) = live h host :=
    List.filter_congr fun t' ht' => by
      have other : u.ticket? ≠ some t' := fun he => new (Option.some.inj (hticket.symm.trans he) ▸ ht')
      simp only [waits_cons (.inr other), holds_cons (.inr other)]
  rw [live_cons stays, ha, List.filter_append, hothers, Option.toList_some,
    List.filter_cons_of_pos (by simpa using there), List.filter_nil]

/-- Nobody has come, and whoever was there is still. -/
theorem live_same {u : Use} {h : List Use} {host : Address} (stays : u ≠ .removed host)
    (ha : u.arrival? host = none)
    (same : ∀ t ∈ arrived h host, Waits (u :: h) host t ∨ Holds (u :: h) host t ↔ Waits h host t ∨ Holds h host t) :
    live (u :: h) host = live h host := by
  rw [live_cons stays, ha, Option.toList_none, List.append_nil]
  exact List.filter_congr fun t ht => by simp only [same t ht]

/-- One is there no more. -/
theorem live_over {u : Use} {h : List Use} {host : Address} {t : Ticket} (stays : u ≠ .removed host)
    (ha : u.arrival? host = none) (ht : u.ticket? = some t) (gone : ¬ Waits (u :: h) host t)
    (gone' : ¬ Holds (u :: h) host t) : live (u :: h) host = (live h host).filter (· != t) := by
  rw [live_cons stays, ha, Option.toList_none, List.append_nil]
  unfold live
  rw [List.filter_filter]
  refine List.filter_congr fun t' _ => ?_
  by_cases he : t' = t
  · simp [he, gone, gone']
  · have other : u.ticket? ≠ some t' := fun ht' => he (Option.some.inj (ht'.symm.trans ht))
    simp [he, waits_cons (.inr other), holds_cons (.inr other)]

/-! ## One ticket less -/

theorem arrived_without (host : Address) (t : Ticket) : ∀ h : List Use,
    arrived (without h t) host = (arrived h host).filter (· != t)
  | [] => rfl
  | u :: h => by
    have ih := arrived_without host t h
    by_cases hu : u.ticket? = some t
    · have hwithout : without (u :: h) t = without h t := List.filter_cons_of_neg (by simp [hu])
      have stays : u ≠ .removed host := by
        rintro rfl
        cases hu
      rw [hwithout, ih, arrived_cons, if_neg stays, List.filter_append]
      cases ha : u.arrival? host with
      | none => simp
      | some t' =>
        have he : t' = t := Option.some.inj ((Use.ticket?_of_arrival? ha).symm.trans hu)
        simp [he]
    · have hwithout : without (u :: h) t = u :: without h t := List.filter_cons_of_pos (by simpa using hu)
      rw [hwithout, arrived_cons, arrived_cons]
      split
      · rfl
      · rw [ih, List.filter_append]
        cases ha : u.arrival? host with
        | none => simp
        | some t' =>
          have hne : t' ≠ t := fun he => hu (he ▸ Use.ticket?_of_arrival? ha)
          simp [hne]

theorem mem_without {h : List Use} {t t' : Ticket} (hne : t' ≠ t) (u : Use) (hu : u.ticket? = some t') :
    u ∈ without h t ↔ u ∈ h := by
  unfold without
  rw [List.mem_filter]
  exact and_iff_left (by simpa [hu] using hne)

theorem waits_without {h : List Use} {host : Address} {t t' : Ticket} (hne : t' ≠ t) :
    Waits (without h t) host t' ↔ Waits h host t' := by
  unfold Waits
  rw [mem_without hne _ rfl, mem_without hne _ rfl, mem_without hne _ rfl, mem_without hne _ rfl]

theorem holds_without {h : List Use} {host : Address} {t t' : Ticket} (hne : t' ≠ t) :
    Holds (without h t) host t' ↔ Holds h host t' := by
  unfold Holds
  rw [mem_without hne _ rfl, mem_without hne _ rfl, mem_without hne _ rfl]

/-- One who is there no more leaves no trace. -/
theorem live_without {h : List Use} {host : Address} {t : Ticket} (gone : ¬ Waits h host t)
    (gone' : ¬ Holds h host t) : live (without h t) host = live h host := by
  unfold live
  rw [arrived_without, List.filter_filter]
  refine List.filter_congr fun t' _ => ?_
  by_cases he : t' = t
  · simp [he, gone, gone']
  · simp [he, waits_without he, holds_without he]

theorem queue_without {h : List Use} {host : Address} {t : Ticket} (gone : ¬ Waits h host t) :
    queue (without h t) host = queue h host := by
  unfold queue
  rw [arrived_without, List.filter_filter]
  refine List.filter_congr fun t' _ => ?_
  by_cases he : t' = t
  · simp [he, gone]
  · simp [he, waits_without he]

/-! ## Histories that can happen -/

/-- What may happen next, but for new questions: only one who waits finds that the wait is over, or goes
away, and only one who holds a slot gives it back. -/
def Use.MayFollow (h : List Use) : Use → Prop
  | asked _ _ _ => False
  | got host t | failed host t | left host t => Waits h host t
  | gaveBack host t => Holds h host t
  | removed _ => True

/-- What every history obeys in which tickets are used once, only those wait who were told to, and only
those give a slot back who have it. -/
structure Consistent (h : List Use) (next : Ticket) : Prop where
  fresh : ∀ u ∈ h, ∀ t ∈ u.ticket?, t < next
  once : ∀ {b b' t x y}, .asked b t x ∈ h → .asked b' t y ∈ h → b = b' ∧ x = y
  got : ∀ {b t}, .got b t ∈ h → .asked b t .queued ∈ h
  left : ∀ {b t}, .left b t ∈ h → .asked b t .queued ∈ h ∧ .got b t ∉ h
  gaveBack : ∀ {b t}, .gaveBack b t ∈ h → ¬ Waits h b t

namespace Consistent

theorem nil (next : Ticket) : Consistent [] next := ⟨nofun, nofun, nofun, nofun, nofun⟩

variable {h : List Use} {next : Ticket} (c : Consistent h next)
include c

/-- Nobody holds a slot and waits for one. -/
theorem not_holds {host : Address} {t : Ticket} (hw : Waits h host t) : ¬ Holds h host t := by
  rintro ⟨hasked | hgot, -⟩
  · exact absurd (c.once hasked hw.1).2 (by decide)
  · exact hw.2.1 hgot

/-- Nor does one who went away. -/
theorem left_not_holds {host : Address} {t : Ticket} (hl : .left host t ∈ h) : ¬ Holds h host t := by
  rintro ⟨hasked | hgot, -⟩
  · exact absurd (c.once hasked (c.left hl).1).2 (by decide)
  · exact (c.left hl).2 hgot

theorem not_mem_of_fresh {u : Use} (hu : u.ticket? = some next) : u ∉ h := fun hm =>
  absurd (c.fresh u hm next hu) (Nat.lt_irrefl _)

theorem lt_of_arrived {host : Address} {t : Ticket} (ht : t ∈ arrived h host) : t < next := by
  obtain ⟨u, hu, ha⟩ := List.mem_filterMap.1 ht
  exact c.fresh u (List.takeWhile_sublist _ |>.mem (List.mem_reverse.1 hu)) t (Use.ticket?_of_arrival? ha)

theorem asked (host : Address) (answer : Admittance) : Consistent (.asked host next answer :: h) (next + 1) := by
  have new : ∀ {b x}, .asked b next x ∉ h := c.not_mem_of_fresh rfl
  have hother : ∀ {b t}, .gaveBack b t ∈ h → next ≠ t := fun hb hn =>
    c.not_mem_of_fresh (u := .gaveBack _ next) rfl (hn ▸ hb)
  refine ⟨fun u hu t ht => ?_, fun hx hy => ?_, fun hg => ?_, fun hl => ?_, fun {b t} hb => ?_⟩
  · rcases List.mem_cons.1 hu with rfl | hu
    · cases ht
      exact Nat.lt_succ_self _
    · exact Nat.lt_succ_of_lt (c.fresh u hu t ht)
  · rcases List.mem_cons.1 hx with hx | hx <;> rcases List.mem_cons.1 hy with hy | hy
    · cases hx
      cases hy
      exact ⟨rfl, rfl⟩
    · cases hx
      exact absurd hy new
    · cases hy
      exact absurd hx new
    · exact c.once hx hy
  · exact List.mem_cons_of_mem _ (c.got (by simpa using hg))
  · obtain ⟨hasked, hgot⟩ := c.left (by simpa using hl)
    exact ⟨List.mem_cons_of_mem _ hasked, by simpa using hgot⟩
  · have hb : .gaveBack b t ∈ h := by simpa using hb
    have hne : (Use.asked host next answer).ticket? ≠ some t := fun he => hother hb (Option.some.inj he)
    rw [waits_cons (.inr hne)]
    exact c.gaveBack hb

theorem cons {u : Use} (legal : u.MayFollow h) : Consistent (u :: h) next := by
  have hbefore : ∀ {b t}, Waits (u :: h) b t → Waits h b t := by
    cases u with
    | asked => exact legal.elim
    | got | failed | left | gaveBack | removed => simp +contextual [Waits]
  have hticket : ∀ t ∈ u.ticket?, t < next := by
    cases u with
    | asked => exact legal.elim
    | got b t | failed b t | left b t => exact fun t' ht' => Option.some.inj ht' ▸ c.fresh _ legal.1 t rfl
    | gaveBack b t =>
      refine fun t' ht' => Option.some.inj ht' ▸ ?_
      exact legal.1.elim (fun hasked => c.fresh _ hasked t rfl) fun hgot => c.fresh _ hgot t rfl
    | removed => exact nofun
  refine ⟨List.forall_mem_cons.2 ⟨hticket, c.fresh⟩, ?_, ?_, ?_, fun {b t} hb hw => ?_⟩
  · cases u <;> grind [c.once, Use.MayFollow]
  · cases u <;> grind [c.got, Use.MayFollow, Waits]
  · cases u <;> grind [c.left, Use.MayFollow, Waits]
  · rcases List.mem_cons.1 hb with rfl | hb
    · exact c.not_holds (hbefore hw) legal
    · exact c.gaveBack hb (hbefore hw)

end Consistent

end CqlDispatch
