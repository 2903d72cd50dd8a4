import CqlDispatch.Proofs.Admission.Order
import CqlDispatch.Request
/-!
# Who has the slots

The executions of requests are the users of an admission.  Each of them waits with a ticket of its own, in the
queue of an address or with a slot of it, and the phases of all executions tell of every ticket what its
history tells (`Accounts`).  So what the admission counts at an address are the executions that asked there
since the address was last removed (`Ledger.inFlight_eq`, `Ledger.queued_eq`).
-/
namespace CqlDispatch

namespace Phase

def host : Phase → HostId
  | queued b _ _ | inFlight b _ _ => b

def address : Phase → Address
  | queued _ a _ | inFlight _ a _ => a

def ticket : Phase → Ticket
  | queued _ _ t | inFlight _ _ t => t

def isInFlight : Phase → Bool
  | queued .. => false
  | inFlight .. => true

/-- The attempt was sent to this address, and is not answered yet. -/
def SentTo (host : Address) (p : Phase) : Prop := p.isInFlight ∧ p.address = host

instance (host : Address) (p : Phase) : Decidable (p.SentTo host) := inferInstanceAs (Decidable (_ ∧ _))

/-- It stands at this address, with a ticket that is current there. -/
def CountsAt (current : Address → Ticket → Prop) (host : Address) (p : Phase) : Prop :=
  p.address = host ∧ current host p.ticket

instance (current : Address → Ticket → Prop) [∀ host t, Decidable (current host t)] (host : Address) (p : Phase) :
    Decidable (p.CountsAt current host) :=
  inferInstanceAs (Decidable (_ ∧ _))

end Phase

namespace Admission

/-! ## Phases and histories -/

/-- Those who wait, and those who have a slot, are the executions in these phases. -/
structure Accounts (h : List Use) (phases : List Phase) : Prop where
  tickets : (phases.map (·.ticket)).Nodup
  waits : ∀ a t, Waits h a t ↔ ∃ b, .queued b a t ∈ phases
  holds : ∀ a t, Holds h a t ↔ ∃ b, .inFlight b a t ∈ phases

namespace Accounts

variable {h : List Use} {phases rest : List Phase}

theorem nil : Accounts [] [] := by
  refine ⟨.nil, fun a t => ⟨fun hw => absurd hw.1 List.not_mem_nil, fun ⟨_, hm⟩ => absurd hm List.not_mem_nil⟩,
    fun a t => ⟨fun hh => ?_, fun ⟨_, hm⟩ => absurd hm List.not_mem_nil⟩⟩
  exact hh.1.elim (absurd · List.not_mem_nil) (absurd · List.not_mem_nil)

theorem perm {phases' : List Phase} (accounts : Accounts h phases) (same : phases.Perm phases') :
    Accounts h phases' := by
  refine ⟨(same.map _).nodup_iff.1 accounts.tickets, fun a t => (accounts.waits a t).trans ?_,
    fun a t => (accounts.holds a t).trans ?_⟩
  · exact exists_congr fun b => same.mem_iff
  · exact exists_congr fun b => same.mem_iff

/-- No ticket is out that was not drawn. -/
theorem lt {next : Ticket} (accounts : Accounts h phases) (c : Consistent h next) {p : Phase} (hp : p ∈ phases) :
    p.ticket < next := by
  cases p with
  | queued b a t => exact c.fresh _ ((accounts.waits a t).2 ⟨b, hp⟩).1 t rfl
  | inFlight b a t =>
    exact ((accounts.holds a t).2 ⟨b, hp⟩).1.elim (c.fresh _ · t rfl) (c.fresh _ · t rfl)

/-- An execution stands where it waits or has a slot. -/
theorem stands (accounts : Accounts h phases) {p : Phase} (hp : p ∈ phases) :
    Waits h p.address p.ticket ∨ Holds h p.address p.ticket := by
  cases p with
  | queued b host t => exact .inl ((accounts.waits host t).2 ⟨b, hp⟩)
  | inFlight b host t => exact .inr ((accounts.holds host t).2 ⟨b, hp⟩)

theorem removed (accounts : Accounts h phases) (host : Address) : Accounts (.removed host :: h) phases := by
  have hother : ∀ t, (Use.removed host).ticket? ≠ some t := fun _ he => by cases he
  exact ⟨accounts.tickets, fun a t => (waits_cons (.inr (hother t))).trans (accounts.waits a t),
    fun a t => (holds_cons (.inr (hother t))).trans (accounts.holds a t)⟩

/-- An event is about one ticket: the execution that has it is in another phase then, or has begun or gone,
and the others are where they were. -/
theorem turn {u : Use} {host : Address} {t : Ticket} (old new : Option Phase)
    (accounts : Accounts h (old.toList ++ rest)) (about : u.host = host) (ticket : u.ticket? = some t)
    (before : ∀ p ∈ old, p.address = host ∧ p.ticket = t) (after : ∀ p ∈ new, p.address = host ∧ p.ticket = t)
    (alone : ∀ p ∈ rest, p.ticket ≠ t) (waits : Waits (u :: h) host t ↔ ∃ b, new = some (.queued b host t))
    (holds : Holds (u :: h) host t ↔ ∃ b, new = some (.inFlight b host t)) :
    Accounts (u :: h) (new.toList ++ rest) := by
  have others : ∀ {p : Phase}, p.address ≠ host ∨ p.ticket ≠ t →
      (p ∈ old.toList ++ rest ↔ p ∈ new.toList ++ rest) := fun {p} hp => by
    have unlike : ∀ q : Phase, q.address = host ∧ q.ticket = t → p ≠ q := by
      rintro q ⟨ha, ht⟩ rfl
      exact hp.elim (· ha) (· ht)
    have hold : p ∉ old.toList := fun hm => unlike p (before p (Option.mem_toList.1 hm)) rfl
    have hnew : p ∉ new.toList := fun hm => unlike p (after p (Option.mem_toList.1 hm)) rfl
    simp only [List.mem_append, hold, hnew]
  have own : ∀ {p : Phase}, p.ticket = t → (p ∈ new.toList ++ rest ↔ new = some p) := fun {p} hp => by
    have hrest : p ∉ rest := fun hm => alone p hm hp
    simp only [List.mem_append, hrest, or_false, Option.mem_toList]
  have elsewhere : ∀ {b : Address} {n : Ticket}, ¬ (b = host ∧ n = t) → u.host ≠ b ∨ u.ticket? ≠ some n := by
    intro b n hne
    by_cases hb : b = host
    · exact .inr fun hn => hne ⟨hb, Option.some.inj (hn.symm.trans ticket)⟩
    · exact .inl fun hb' => hb (hb'.symm.trans about)
  have unlike : ∀ {p : Phase}, ¬ (p.address = host ∧ p.ticket = t) → p.address ≠ host ∨ p.ticket ≠ t :=
    fun hp => (Decidable.em _).elim (fun ha => .inr fun ht => hp ⟨ha, ht⟩) .inl
  refine ⟨?_, fun b n => ?_, fun b n => ?_⟩
  · have hrest : (rest.map (·.ticket)).Nodup :=
      accounts.tickets.sublist ((List.sublist_append_right _ _).map _)
    cases new with
    | none => exact hrest
    | some p =>
      refine List.nodup_cons.2 ⟨fun hm => ?_, hrest⟩
      obtain ⟨q, hq, he⟩ := List.mem_map.1 hm
      exact alone q hq (he.trans (after p rfl).2)
  · by_cases hbn : b = host ∧ n = t
    · obtain ⟨rfl, rfl⟩ := hbn
      exact waits.trans (exists_congr fun _ => (own rfl).symm)
    · rw [waits_cons (elsewhere hbn), accounts.waits]
      exact exists_congr fun c => others (p := .queued c b n) (unlike hbn)
  · by_cases hbn : b = host ∧ n = t
    · obtain ⟨rfl, rfl⟩ := hbn
      exact holds.trans (exists_congr fun _ => (own rfl).symm)
    · rw [holds_cons (elsewhere hbn), accounts.holds]
      exact exists_congr fun c => others (p := .inFlight c b n) (unlike hbn)

/-- The execution with a ticket has gone. -/
theorem gone {u : Use} {p : Phase} {host : Address} {t : Ticket} (accounts : Accounts h (p :: rest))
    (hp : p.address = host ∧ p.ticket = t) (about : u.host = host) (ticket : u.ticket? = some t)
    (waits : ¬ Waits (u :: h) host t) (holds : ¬ Holds (u :: h) host t) : Accounts (u :: h) rest := by
  have hnodup := List.nodup_cons.1 accounts.tickets
  refine turn (some p) none accounts about ticket (fun q hq => ?_) nofun (fun q hq he => ?_)
    (iff_of_false waits nofun) (iff_of_false holds nofun)
  · exact Option.some.inj hq ▸ hp
  · exact hnodup.1 (List.mem_map.2 ⟨q, hq, he.trans hp.2.symm⟩)

/-- An execution with a new ticket has begun to wait. -/
theorem joined {next : Ticket} (accounts : Accounts h rest) (c : Consistent h next) {host : Address}
    {answer : Admittance} (new : Option Phase) (after : ∀ p ∈ new, p.address = host ∧ p.ticket = next)
    (waits : answer = .queued ↔ ∃ b, new = some (.queued b host next))
    (holds : answer = .granted ↔ ∃ b, new = some (.inFlight b host next)) :
    Accounts (.asked host next answer :: h) (new.toList ++ rest) := by
  have unseen : ∀ {u : Use}, u.ticket? = some next → u ∉ h := c.not_mem_of_fresh
  refine turn none new accounts rfl rfl nofun after (fun p hp he => ?_) (Iff.trans ?_ waits) (Iff.trans ?_ holds)
  · exact absurd (accounts.lt c hp) (by rw [he]; exact Nat.lt_irrefl _)
  · have h₁ := unseen (u := .asked host next .queued) rfl
    have h₂ := unseen (u := .got host next) rfl
    have h₃ := unseen (u := .failed host next) rfl
    have h₄ := unseen (u := .left host next) rfl
    simp [Waits, Use.host, h₁, h₂, h₃, h₄, eq_comm]
  · have h₁ := unseen (u := .asked host next .granted) rfl
    have h₂ := unseen (u := .got host next) rfl
    have h₃ := unseen (u := .gaveBack host next) rfl
    simp [Holds, Use.host, h₁, h₂, h₃, eq_comm]

end Accounts

/-! ## Tickets that count -/

/-- Among the tickets of a history these are the ones that were drawn since their host was last removed. -/
def Dates (current : Address → Ticket → Prop) (h : List Use) : Prop :=
  ∀ host t answer, .asked host t answer ∈ h → (.asked host t answer ∈ since h host ↔ current host t)

namespace Dates

variable {current : Address → Ticket → Prop} {h : List Use}

theorem nil : Dates current [] := fun _ _ _ hm => absurd hm List.not_mem_nil

theorem congr {current' : Address → Ticket → Prop} (dates : Dates current h)
    (same : ∀ host t, current' host t ↔ current host t) : Dates current' h := fun host t answer hm =>
  (dates host t answer hm).trans (same host t).symm

/-- An event of one ticket dates no other. -/
theorem cons {u : Use} (dates : Dates current h) (stays : u.ticket?.isSome)
    (asks : ∀ host t answer, u = .asked host t answer → current host t) : Dates current (u :: h) := by
  intro host t answer hm
  have hsince : since (u :: h) host = u :: since h host := by
    refine List.takeWhile_cons_of_pos ?_
    cases u with
    | removed => cases stays
    | _ => rfl
  rw [hsince, List.mem_cons]
  rcases List.mem_cons.1 hm with rfl | hm
  · exact iff_of_true (.inl rfl) (asks host t answer rfl)
  · refine ⟨fun he => he.elim (fun he => asks host t answer he.symm) (dates host t answer hm).1, fun hc => ?_⟩
    exact .inr ((dates host t answer hm).2 hc)

/-- What was drawn before a host is removed is of the past. -/
theorem removed {next : Ticket} (dates : Dates current h) (c : Consistent h next) (host : Address) :
    Dates (fun b t => current b t ∧ (b = host → next ≤ t)) (.removed host :: h) := by
  intro b t answer hm
  have hm : .asked b t answer ∈ h := (List.mem_cons.1 hm).resolve_left Use.noConfusion
  have hlt : t < next := c.fresh _ hm t rfl
  by_cases hb : b = host
  · subst hb
    have hsince : since (.removed b :: h) b = [] := List.takeWhile_cons_of_neg (by simp)
    rw [hsince]
    exact iff_of_false List.not_mem_nil fun hc => absurd (hc.2 rfl) (Nat.not_le.2 hlt)
  · have hsince : since (.removed host :: h) b = .removed host :: since h b :=
      List.takeWhile_cons_of_pos (by simpa using fun he => hb he.symm)
    rw [hsince, List.mem_cons, or_iff_right Use.noConfusion, dates b t answer hm]
    exact (and_iff_left fun he => absurd he hb).symm

/-- Whoever is there came since the host was last removed just in case its ticket is current. -/
theorem arrived_iff {next : Ticket} (dates : Dates current h) (c : Consistent h next)
    {host : Address} {t : Ticket} (there : Waits h host t ∨ Holds h host t) :
    t ∈ arrived h host ↔ current host t := by
  have hasked : .asked host t .granted ∈ h ∨ .asked host t .queued ∈ h := by
    rcases there with hw | ⟨hasked | hgot, -⟩
    · exact .inr hw.1
    · exact .inl hasked
    · exact .inr (c.got hgot)
  have hmem : ∀ {u}, u ∈ since h host → u ∈ h := (List.takeWhile_sublist _).mem
  rw [mem_arrived_iff]
  constructor
  · rintro (hm | hm)
    · exact (dates host t _ (hmem hm)).1 hm
    · exact (dates host t _ (hmem hm)).1 hm
  · exact fun hc => hasked.imp (fun hm => (dates host t _ hm).2 hc) fun hm => (dates host t _ hm).2 hc

end Dates

/-! ## The ledger -/

/-- The executions in these phases are the users of an admission.  At an address those count whose ticket
is current, and an attempt with another ticket is a stale one. -/
structure Ledger (limits : Limits) (current stale : Address → Ticket → Prop) (a : Admission)
    (phases : List Phase) : Prop where
  /-- Whoever asks next will count. -/
  fresh : ∀ host t, a.nextTicket ≤ t → current host t
  attempts : ∀ b host t, .inFlight b host t ∈ phases → current host t ∨ stale host t
  history : ∃ h, Tallies limits a h ∧ Accounts h phases ∧ Dates current h

namespace Ledger

variable {limits : Limits} {current stale : Address → Ticket → Prop} {a a' : Admission} {phases rest : List Phase}

theorem start (limits : Limits) (stale : Address → Ticket → Prop) :
    Ledger limits (fun _ _ => True) stale { limits := limits } [] :=
  ⟨fun _ _ _ => trivial, fun _ _ _ hm => absurd hm List.not_mem_nil, [], .start limits, .nil, .nil⟩

theorem perm {phases' : List Phase} (l : Ledger limits current stale a phases) (same : phases.Perm phases') :
    Ledger limits current stale a phases' := by
  obtain ⟨h, tallies, accounts, dates⟩ := l.history
  exact ⟨l.fresh, fun b host t hm => l.attempts b host t (same.mem_iff.2 hm), h, tallies, accounts.perm same, dates⟩

theorem congr {current' stale' : Address → Ticket → Prop} (l : Ledger limits current stale a phases)
    (same : ∀ host t, current' host t ↔ current host t) (more : ∀ host t, stale host t → stale' host t) :
    Ledger limits current' stale' a phases := by
  obtain ⟨h, tallies, accounts, dates⟩ := l.history
  refine ⟨fun host t ht => (same host t).2 (l.fresh host t ht), fun b host t hm => ?_, h, tallies, accounts,
    dates.congr same⟩
  exact (l.attempts b host t hm).imp (same host t).2 (more host t)

/-- An event of one ticket is entered. -/
theorem enter {u : Use} {h : List Use} (l : Ledger limits current stale a rest) (tallies : Tallies limits a' (u :: h))
    (accounts : Accounts (u :: h) phases) (dates : Dates current h) (later : a.nextTicket ≤ a'.nextTicket)
    (stays : u.ticket?.isSome) (asks : ∀ host t answer, u = .asked host t answer → a.nextTicket ≤ t)
    (attempts : ∀ b host t, .inFlight b host t ∈ phases → .inFlight b host t ∈ rest ∨ current host t) :
    Ledger limits current stale a' phases := by
  refine ⟨fun host t ht => l.fresh host t (Nat.le_trans later ht), fun b host t hm => ?_, u :: h, tallies, accounts,
    dates.cons stays fun host t answer he => l.fresh host t (asks host t answer he)⟩
  exact (attempts b host t hm).elim (l.attempts b host t) .inl

section Asking
variable {host : Address} {t : Ticket}

theorem asked {answer : Admittance} (l : Ledger limits current stale a rest) (new : Option Phase)
    (he : a.acquire host = (t, answer, a')) (after : ∀ p ∈ new, p.address = host ∧ p.ticket = t)
    (waits : answer = .queued ↔ ∃ b, new = some (.queued b host t))
    (holds : answer = .granted ↔ ∃ b, new = some (.inFlight b host t)) :
    Ledger limits current stale a' (new.toList ++ rest) := by
  obtain ⟨h, tallies, accounts, dates⟩ := l.history
  have htallies := tallies.acquire host he
  obtain ⟨_, _, he', hnext, -⟩ := acquire_cases a host
  cases he.symm.trans he'
  refine l.enter htallies (accounts.joined tallies.history new after waits holds) dates ?_ rfl ?_
    fun b host' t' hm => ?_
  · exact hnext ▸ Nat.le_succ _
  · rintro _ _ _ ⟨⟩
    exact Nat.le_refl _
  · refine (List.mem_append.1 hm).symm.imp_right fun hm => ?_
    obtain ⟨-, ht⟩ := after _ (Option.mem_toList.1 hm)
    exact l.fresh host' t' (Nat.le_of_eq ht.symm)

theorem granted (l : Ledger limits current stale a rest) (he : a.acquire host = (t, .granted, a')) (b : HostId) :
    Ledger limits current stale a' (.inFlight b host t :: rest) := by
  refine l.asked (some (.inFlight b host t)) he ?_ ?_ ?_
  · rintro _ ⟨⟩
    exact ⟨rfl, rfl⟩
  · exact iff_of_false nofun nofun
  · exact iff_of_true rfl ⟨b, rfl⟩

theorem queued (l : Ledger limits current stale a rest) (he : a.acquire host = (t, .queued, a')) (b : HostId) :
    Ledger limits current stale a' (.queued b host t :: rest) := by
  refine l.asked (some (.queued b host t)) he ?_ ?_ ?_
  · rintro _ ⟨⟩
    exact ⟨rfl, rfl⟩
  · exact iff_of_true rfl ⟨b, rfl⟩
  · exact iff_of_false nofun nofun

theorem turnedAway {f : Failure} (l : Ledger limits current stale a rest)
    (he : a.acquire host = (t, .turnedAway f, a')) : Ledger limits current stale a' rest :=
  l.asked none he nofun (iff_of_false nofun nofun) (iff_of_false nofun nofun)

/-- There can be no pool of the host. -/
theorem overflow (l : Ledger limits current stale a rest) (he : a.acquire host = (t, .overflow, a')) :
    Ledger limits current stale a' rest :=
  l.asked none he nofun (iff_of_false nofun nofun) (iff_of_false nofun nofun)

end Asking

section Leaving
variable {b : HostId} {host : Address} {t : Ticket}

/-- The attempt that has a slot was answered or dropped. -/
theorem release (l : Ledger limits current stale a (.inFlight b host t :: rest)) :
    Ledger limits current stale (a.release host t) rest := by
  obtain ⟨h, tallies, accounts, dates⟩ := l.history
  have hh : Holds h host t := (accounts.holds host t).2 ⟨b, List.mem_cons_self⟩
  have hwaits : ¬ Waits (.gaveBack host t :: h) host t := fun hw =>
    tallies.history.not_holds (by simpa [Waits] using hw) hh
  have hholds : ¬ Holds (.gaveBack host t :: h) host t := fun hh' => hh'.2 List.mem_cons_self
  exact l.enter (tallies.giveBack hh) (accounts.gone ⟨rfl, rfl⟩ rfl rfl hwaits hholds) dates
    (Nat.le_of_eq (nextTicket_changePool ..).symm) rfl (fun _ _ _ => Use.noConfusion)
    fun _ _ _ hm => .inl (List.mem_cons_of_mem _ hm)

/-- The execution that waits is dropped. -/
theorem cancel (l : Ledger limits current stale a (.queued b host t :: rest)) :
    Ledger limits current stale (a.cancel host t) rest := by
  obtain ⟨h, tallies, accounts, dates⟩ := l.history
  have hw : Waits h host t := (accounts.waits host t).2 ⟨b, List.mem_cons_self⟩
  have hwaits : ¬ Waits (.left host t :: h) host t := fun hw' => hw'.2.2.2 List.mem_cons_self
  have hholds : ¬ Holds (.left host t :: h) host t := fun hh =>
    tallies.history.not_holds hw (by simpa [Holds] using hh)
  exact l.enter (tallies.cancel hw) (accounts.gone ⟨rfl, rfl⟩ rfl rfl hwaits hholds) dates
    (Nat.le_of_eq (nextTicket_changePool ..).symm) rfl (fun _ _ _ => Use.noConfusion)
    fun _ _ _ hm => .inl (List.mem_cons_of_mem _ hm)

/-- The execution that waits finds that it was handed a slot. -/
theorem got (l : Ledger limits current stale a (.queued b host t :: rest)) (granted : (a.resume host t).1 = .granted)
    (b' : HostId) : Ledger limits current stale (a.resume host t).2 (.inFlight b' host t :: rest) := by
  obtain ⟨h, tallies, accounts, dates⟩ := l.history
  have hw : Waits h host t := (accounts.waits host t).2 ⟨b, List.mem_cons_self⟩
  have hnext := nextTicket_resume a host t
  rcases resume_cases a host t with ⟨hg, -, changed⟩ | ⟨-, -, he⟩ | ⟨-, -, he, -⟩
  · have htallies := tallies.got hw hg changed hnext
    have hnodup := List.nodup_cons.1 accounts.tickets
    have hheld := (((tallies.marks host).granted t).1 hg).1
    -- The slot is one of the pool that is there now, so the ticket was not drawn before.
    have hcurrent : current host t :=
      (dates host t _ hw.1).1 ((tallies.mem_all_iff hw).1 (List.mem_append_left _ hheld))
    have attempts : ∀ c host' t', .inFlight c host' t' ∈ .inFlight b' host t :: rest →
        .inFlight c host' t' ∈ .queued b host t :: rest ∨ current host' t' := fun c host' t' hm => by
      rcases List.mem_cons.1 hm with he | hm
      · cases he
        exact .inr hcurrent
      · exact .inl (List.mem_cons_of_mem _ hm)
    refine l.enter htallies ?_ dates (Nat.le_of_eq hnext.symm) rfl nofun attempts
    refine Accounts.turn (some (.queued b host t)) (some (.inFlight b' host t)) accounts rfl rfl ?_ ?_
      (fun p hp he => hnodup.1 (List.mem_map.2 ⟨p, hp, he⟩)) ?_ ?_
    · rintro _ ⟨⟩
      exact ⟨rfl, rfl⟩
    · rintro _ ⟨⟩
      exact ⟨rfl, rfl⟩
    · exact iff_of_false (fun hw' => hw'.2.1 List.mem_cons_self) nofun
    · refine iff_of_true ⟨.inr List.mem_cons_self, fun hb => ?_⟩ ⟨b', rfl⟩
      exact tallies.history.gaveBack (b := host) (t := t) (by simpa [Use.host] using hb) hw
  · rw [he] at granted
    cases granted
  · rw [he] at granted
    cases granted

/-- The execution that waits finds that its queue is gone. -/
theorem closed {f : Failure} (l : Ledger limits current stale a (.queued b host t :: rest))
    (closed : (a.resume host t).1 = .closed f) : Ledger limits current stale (a.resume host t).2 rest := by
  obtain ⟨h, tallies, accounts, dates⟩ := l.history
  have hw : Waits h host t := (accounts.waits host t).2 ⟨b, List.mem_cons_self⟩
  have hwaits : ¬ Waits (.failed host t :: h) host t := fun hw' => hw'.2.2.1 List.mem_cons_self
  have hholds : ¬ Holds (.failed host t :: h) host t := fun hh =>
    tallies.history.not_holds hw (by simpa [Holds] using hh)
  have hnext := nextTicket_resume a host t
  rcases resume_cases a host t with ⟨-, he, -⟩ | ⟨-, -, he⟩ | ⟨hg, hq, -, changed⟩
  · rw [he] at closed
    cases closed
  · rw [he] at closed
    cases closed
  · exact l.enter (tallies.failed hw hg hq changed hnext) (accounts.gone ⟨rfl, rfl⟩ rfl rfl hwaits hholds) dates
      (Nat.le_of_eq hnext.symm) rfl (fun _ _ _ => Use.noConfusion)
      fun _ _ _ hm => .inl (List.mem_cons_of_mem _ hm)

end Leaving

/-- A host is removed: its pool goes, those who asked there before count no more, and attempts among them are
stale. -/
theorem remove (l : Ledger limits current stale a phases) (host : Address) :
    Ledger limits (fun b t => current b t ∧ (b = host → a.nextTicket ≤ t))
      (fun b t => stale b t ∨ b = host ∧ ∃ c, .inFlight c b t ∈ phases) (a.remove host) phases := by
  obtain ⟨h, tallies, accounts, dates⟩ := l.history
  refine ⟨fun b t ht => ⟨l.fresh b t ht, fun _ => ht⟩, fun c b t hm => ?_, .removed host :: h, tallies.remove host,
    accounts.removed host, dates.removed tallies.history host⟩
  by_cases hb : b = host
  · exact .inr (.inr ⟨hb, c, hm⟩)
  · exact (l.attempts c b t hm).imp (fun hc => ⟨hc, fun he => absurd he hb⟩) .inl

/-- Hosts are removed one after the other. -/
theorem removeAll : ∀ (gone : List Address) {current stale : Address → Ticket → Prop} {a : Admission},
    Ledger limits current stale a phases →
      Ledger limits (fun b t => current b t ∧ (b ∈ gone → a.nextTicket ≤ t))
        (fun b t => stale b t ∨ b ∈ gone ∧ ∃ c, .inFlight c b t ∈ phases) (gone.foldl Admission.remove a) phases
  | [], _, _, _, l => l.congr (fun _ _ => and_iff_left fun hm => absurd hm List.not_mem_nil) fun _ _ => .inl
  | host :: gone, _, _, a, l => by
    have hnext : (a.remove host).nextTicket = a.nextTicket := rfl
    refine (removeAll gone (l.remove host)).congr (fun b t => ?_) fun b t hs => ?_
    · rw [hnext, List.mem_cons, or_imp, and_assoc]
    · rcases hs with (hs | ⟨hb, hm⟩) | ⟨hb, hm⟩
      · exact .inl hs
      · exact .inr ⟨List.mem_cons.2 (.inl hb), hm⟩
      · exact .inr ⟨List.mem_cons_of_mem _ hb, hm⟩

/-! ## Who is let down -/

theorem ticket_lt (l : Ledger limits current stale a phases) {p : Phase} (hp : p ∈ phases) : p.ticket < a.nextTicket := by
  obtain ⟨h, tallies, accounts, -⟩ := l.history
  exact accounts.lt tallies.history hp

/-- **An execution that waits finds its queue gone just in case its ticket is not current any more.** -/
theorem closed_iff (l : Ledger limits current stale a phases) {b : HostId} {host : Address} {t : Ticket}
    (hp : .queued b host t ∈ phases) : (a.resume host t).1 = .closed (Admission.closed host) ↔ ¬ current host t := by
  obtain ⟨h, tallies, accounts, dates⟩ := l.history
  have hw : Waits h host t := (accounts.waits host t).2 ⟨b, hp⟩
  rw [resume_closed_iff, ← not_or, ← (tallies.marks host).mem_all hw, tallies.mem_all_iff hw, dates host t _ hw.1]

/-! ## What the counts are -/

section Counts

variable [∀ host t, Decidable (current host t)] {h : List Use} (tallies : Tallies limits a h)
  (accounts : Accounts h phases) (dates : Dates current h) (host : Address)
include tallies accounts dates

/-- Those who are in the pool of a host are the executions that count there. -/
theorem live_perm : ((phases.filter (·.CountsAt current host)).map (·.ticket)).Perm (live h host) := by
  have hnodup : ((phases.filter (·.CountsAt current host)).map (·.ticket)).Nodup :=
    accounts.tickets.sublist (List.filter_sublist.map _)
  have hlive : (live h host).Nodup := tallies.all host ▸ (tallies.sound host).nodup
  have current_iff : ∀ {t}, Waits h host t ∨ Holds h host t → (t ∈ arrived h host ↔ current host t) := fun there =>
    dates.arrived_iff tallies.history there
  refine (List.perm_ext_iff_of_nodup hnodup hlive).2 fun t => ?_
  unfold live
  simp only [List.mem_map, List.mem_filter, decide_eq_true_eq]
  constructor
  · rintro ⟨p, ⟨hp, rfl, hc⟩, rfl⟩
    have there := accounts.stands hp
    exact ⟨(current_iff there).2 hc, there⟩
  · rintro ⟨hm, there⟩
    have hc := (current_iff there).1 hm
    rcases there with hw | hh
    · obtain ⟨b, hb⟩ := (accounts.waits host t).1 hw
      exact ⟨_, ⟨hb, rfl, hc⟩, rfl⟩
    · obtain ⟨b, hb⟩ := (accounts.holds host t).1 hh
      exact ⟨_, ⟨hb, rfl, hc⟩, rfl⟩

/-- As many are there of a kind as executions of that kind count. -/
theorem length_live {kind : Ticket → Prop} {kind' : Phase → Prop} [DecidablePred kind] [DecidablePred kind']
    (same : ∀ p ∈ phases, p.address = host → (kind p.ticket ↔ kind' p)) :
    ((live h host).filter kind).length =
      ((phases.filter (·.CountsAt current host)).filter kind').length := by
  have hperm := (live_perm tallies accounts dates host).filter fun t => decide (kind t)
  rw [← hperm.length_eq, List.filter_map, List.length_map]
  refine congrArg List.length (List.filter_congr fun p hp => ?_)
  obtain ⟨hp, hc⟩ := List.mem_filter.1 hp
  exact decide_eq_decide.2 (same p hp (of_decide_eq_true hc).1)

end Counts

section
variable [∀ host t, Decidable (current host t)] (l : Ledger limits current stale a phases) (host : Address)
include l

/-- **The slots of a host that are taken are those of the attempts that count there, and of the executions
that were handed one while they waited.** -/
theorem inFlight_eq : a.inFlight host = ((phases.filter (·.CountsAt current host)).filter
    fun p => p.isInFlight ∨ (a.resume host p.ticket).1 = .granted).length := by
  obtain ⟨h, tallies, accounts, dates⟩ := l.history
  rw [tallies.inFlight_eq]
  refine length_live tallies accounts dates host fun p hp hhost => or_congr_left ?_
  subst hhost
  cases p with
  | queued b host t =>
    have hw : Waits h host t := (accounts.waits host t).2 ⟨b, hp⟩
    exact iff_of_false (tallies.history.not_holds hw) Bool.false_ne_true
  | inFlight b host t => exact iff_of_true ((accounts.holds host t).2 ⟨b, hp⟩) rfl

/-- **The places in the queue of a host that are taken are those of the executions that wait there.** -/
theorem queued_eq : a.queued host = ((phases.filter (·.CountsAt current host)).filter
    fun p => p.isInFlight = false).length := by
  obtain ⟨h, tallies, accounts, dates⟩ := l.history
  have hqueue : queue h host = (live h host).filter fun t => Waits h host t := by
    unfold queue live
    rw [List.filter_filter]
    exact List.filter_congr fun t _ => by by_cases hw : Waits h host t <;> simp [hw]
  rw [tallies.queued_eq, hqueue]
  refine length_live tallies accounts dates host fun p hp hhost => ?_
  subst hhost
  cases p with
  | queued b host t => exact iff_of_true ((accounts.waits host t).2 ⟨b, hp⟩) rfl
  | inFlight b host t =>
    have hh : Holds h host t := (accounts.holds host t).2 ⟨b, hp⟩
    exact iff_of_false (fun hw => tallies.history.not_holds hw hh) (by simp [Phase.isInFlight])

/-- Each attempt that counts has one of the slots, and there are no more than that. -/
theorem sent_le : ((phases.filter (·.SentTo host)).filter fun p => current host p.ticket).length ≤
    limits.maxInFlight := by
  obtain ⟨h, tallies, accounts, dates⟩ := l.history
  have hbound : a.inFlight host ≤ limits.maxInFlight := tallies.limits ▸ (tallies.sound host).bound
  rw [l.inFlight_eq host] at hbound
  refine Nat.le_trans (List.Sublist.length_le ?_) hbound
  rw [List.filter_filter, List.filter_filter]
  refine List.monotone_filter_right _ fun p hp => ?_
  simp only [Bool.and_eq_true, decide_eq_true_eq] at hp ⊢
  exact ⟨.inl hp.2.1, hp.2.2, hp.1⟩

omit [∀ host t, Decidable (current host t)] in
/-- An attempt that does not count is stale. -/
theorem current_or_stale {p : Phase} (hp : p ∈ phases) (sent : p.SentTo host) :
    current host p.ticket ∨ stale host p.ticket := by
  obtain ⟨flying, rfl⟩ := sent
  cases p with
  | queued => cases flying
  | inFlight b a t => exact l.attempts b a t hp

end

end Ledger

end Admission

end CqlDispatch
