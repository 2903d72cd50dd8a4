import CqlDispatch.Proofs.Registry.Log
import CqlDispatch.Reconnector
/-!
# The series of a reconnector

Which hosts have a live series, and what a turn of the listener makes of it.  A turn that looks at
hosts starts a series for each of them that it does not decline (`hasSeries_spawn`,
`hasSeries_resync`); a turn over an event of another address leaves a host's series alone
(`hasSeries_handle_ne`).  That rests on books that are in order: a series stands under the address
of its host (`Tidy`).
-/
namespace CqlDispatch

/-- Neither over nor cancelled. -/
def Series.IsLive (s : Series) : Prop := s.phase ≠ .over ∧ s.cancelled = false

instance (s : Series) : Decidable s.IsLive := inferInstanceAs (Decidable (_ ∧ _))

namespace Reconnector

/-- Whether a host has a live series. -/
def HasSeries (w : Reconnector) (h : HostId) : Prop := ∃ s ∈ w.series, s.host = h ∧ s.IsLive

instance (w : Reconnector) (h : HostId) : Decidable (w.HasSeries h) :=
  inferInstanceAs (Decidable (∃ s ∈ w.series, _))

/-- No series is started for a host that is ignored or has one in the books. -/
def Declines (w : Reconnector) (r : Registry) (h : HostId) : Prop :=
  (r.host h).distance = .ignored ∨ (w.current.lookup (r.host h).address).isSome

instance (w : Reconnector) (r : Registry) (h : HostId) : Decidable (w.Declines r h) :=
  inferInstanceAs (Decidable (_ ∨ _))

/-- Every series stands under the address of its host, and so does every entry of the books. -/
structure Tidy (w : Reconnector) (r : Registry) : Prop where
  series : ∀ s ∈ w.series, s.host < r.hosts.length ∧ (r.host s.host).address = s.address
  current : ∀ m ∈ w.current, ∃ s, w.series? m.2 = some s ∧ s.address = m.1

/-! ## Single series -/

theorem mem_of_series? {w : Reconnector} {n : Nat} {s : Series} (found : w.series? n = some s) : s ∈ w.series :=
  List.mem_of_getElem? found

theorem modify_eq_set {w : Reconnector} {n : Nat} {s : Series} (found : w.series? n = some s)
    (f : Series → Series) : w.series.modify n f = w.series.set n (f s) := by
  have : Inhabited Series := ⟨s⟩
  rw [List.modify_eq_set, show w.series[n]? = some s from found]
  rfl

theorem change_eq_set {w : Reconnector} {n : Nat} {s : Series} (found : w.series? n = some s)
    (f : Series → Series) : w.change n f = { w with series := w.series.set n (f s) } := by
  unfold change
  rw [modify_eq_set found]

/-- A series that takes another's place is the only one that can be new. -/
theorem HasSeries.of_set {w : Reconnector} {n : Nat} {s' : Series} {h : HostId}
    (hs : { w with series := w.series.set n s' }.HasSeries h) : w.HasSeries h ∨ s'.host = h ∧ s'.IsLive := by
  obtain ⟨x, hx, hhost, hlive⟩ := hs
  rcases List.mem_or_eq_of_mem_set hx with hx | rfl
  · exact .inl ⟨x, hx, hhost, hlive⟩
  · exact .inr ⟨hhost, hlive⟩

/-- A series whose place is taken is the only one that can be lost. -/
theorem HasSeries.set {w : Reconnector} {n : Nat} {s s' : Series} {h : HostId} (found : w.series? n = some s)
    (hs : w.HasSeries h) : { w with series := w.series.set n s' }.HasSeries h ∨ s.host = h ∧ s.IsLive := by
  obtain ⟨x, hx, hhost, hlive⟩ := hs
  obtain ⟨i, hi⟩ := List.mem_iff_getElem?.1 hx
  by_cases hn : n = i
  · have hsx : s = x := Option.some.inj (found.symm.trans (hn ▸ hi))
    exact .inr (hsx ▸ ⟨hhost, hlive⟩)
  · refine .inl ⟨x, List.mem_of_getElem? (i := i) ?_, hhost, hlive⟩
    rw [List.getElem?_set_ne hn]
    exact hi

theorem hasSeries_set_self {w : Reconnector} {n : Nat} {s s' : Series} {h : HostId} (found : w.series? n = some s)
    (hhost : s'.host = h) (live : s'.IsLive) : { w with series := w.series.set n s' }.HasSeries h := by
  have hlt : n < w.series.length := (List.getElem?_eq_some_iff.1 found).1
  exact ⟨s', List.mem_of_getElem? (List.getElem?_set_self hlt), hhost, live⟩

/-! ## The books -/

theorem Tidy.extends {w : Reconnector} {r r' : Registry} (t : w.Tidy r) (he : r.Extends r') : w.Tidy r' where
  series s hs := by
    obtain ⟨hlt, ha⟩ := t.series s hs
    exact ⟨Nat.lt_of_lt_of_le hlt he.length, (he.address _ hlt).trans ha⟩
  current := t.current

theorem Tidy.set {w : Reconnector} {r : Registry} (t : w.Tidy r) {n : Nat} {s s' : Series}
    (found : w.series? n = some s) (hhost : s'.host = s.host) (ha : s'.address = s.address) :
    { w with series := w.series.set n s' }.Tidy r where
  series x hx := by
    rcases List.mem_or_eq_of_mem_set hx with hx | rfl
    · exact t.series x hx
    · rw [hhost, ha]
      exact t.series s (mem_of_series? found)
  current m hm := by
    obtain ⟨x, hx, hxa⟩ := t.current m hm
    by_cases hn : n = m.2
    · have hsx : s = x := Option.some.inj (found.symm.trans (hn ▸ hx))
      have hlt : n < w.series.length := (List.getElem?_eq_some_iff.1 found).1
      refine ⟨s', ?_, ?_⟩
      · show (w.series.set n s')[m.2]? = some s'
        rw [← hn, List.getElem?_set_self hlt]
      · rw [ha, hsx, hxa]
    · refine ⟨x, ?_, hxa⟩
      show (w.series.set n s')[m.2]? = some x
      rw [List.getElem?_set_ne hn]
      exact hx

theorem Tidy.forget {w : Reconnector} {r : Registry} (t : w.Tidy r) (a : Address) : (w.forget a).Tidy r where
  series := t.series
  current m hm := t.current m (List.mem_filter.1 hm).1

theorem Tidy.lookup {w : Reconnector} {r : Registry} (t : w.Tidy r) {a : Address} {n : Nat}
    (hl : w.current.lookup a = some n) : ∃ s, w.series? n = some s ∧ s.address = a := by
  obtain ⟨l, l', hs, -⟩ := List.lookup_eq_some_iff.1 hl
  exact t.current (a, n) (hs ▸ List.mem_append_right _ List.mem_cons_self)

/-! ## Starting series -/

/-- A series is started for a host that is not declined. -/
theorem spawn_cases (w : Reconnector) (b : Backoff) (r : Registry) (h : HostId) :
    w.Declines r h ∧ w.spawn b r h = w ∨
      ¬ w.Declines r h ∧ w.spawn b r h =
        { w with
          current := ((r.host h).address, w.series.length) :: w.current
          series := w.series ++
            [{ host := h, address := (r.host h).address, schedule := b.schedule w.series.length }] } := by
  unfold spawn Declines
  by_cases hd : (r.host h).distance = .ignored
  · exact .inl ⟨.inl hd, if_pos hd⟩
  · by_cases hl : (w.current.lookup (r.host h).address).isSome
    · exact .inl ⟨.inr hl, (if_neg hd).trans (if_pos hl)⟩
    · exact .inr ⟨fun hor => hor.elim hd hl, (if_neg hd).trans (if_neg hl)⟩

theorem Tidy.spawn {w : Reconnector} {r : Registry} (t : w.Tidy r) (b : Backoff) {h : HostId}
    (hlt : h < r.hosts.length) : (w.spawn b r h).Tidy r := by
  rcases spawn_cases w b r h with ⟨-, he⟩ | ⟨-, he⟩
  · rw [he]
    exact t
  · rw [he]
    refine ⟨fun s hs => ?_, fun m hm => ?_⟩
    · rcases List.mem_append.1 hs with hs | hs
      · exact t.series s hs
      · rw [List.mem_singleton.1 hs]
        exact ⟨hlt, rfl⟩
    · rcases List.mem_cons.1 hm with rfl | hm
      · exact ⟨_, List.getElem?_concat_length, rfl⟩
      · obtain ⟨s, hs, ha⟩ := t.current m hm
        have hlt : m.2 < w.series.length := (List.getElem?_eq_some_iff.1 hs).1
        exact ⟨s, (List.getElem?_append_left hlt).trans hs, ha⟩

theorem hasSeries_spawn {w : Reconnector} {b : Backoff} {r : Registry} {h k : HostId} :
    (w.spawn b r k).HasSeries h ↔ w.HasSeries h ∨ k = h ∧ ¬ w.Declines r h := by
  rcases spawn_cases w b r k with ⟨hd, he⟩ | ⟨hd, he⟩
  · rw [he]
    constructor
    · exact .inl
    · rintro (hs | ⟨rfl, hn⟩)
      · exact hs
      · exact absurd hd hn
  · rw [he]
    constructor
    · rintro ⟨s, hs, hhost, hlive⟩
      rcases List.mem_append.1 hs with hs | hs
      · exact .inl ⟨s, hs, hhost, hlive⟩
      · rw [List.mem_singleton.1 hs] at hhost
        exact .inr ⟨hhost, hhost ▸ hd⟩
    · rintro (⟨s, hs, hhost, hlive⟩ | ⟨rfl, -⟩)
      · exact ⟨s, List.mem_append_left _ hs, hhost, hlive⟩
      · exact ⟨_, List.mem_append_right _ (List.mem_singleton.2 rfl), rfl, SeriesPhase.noConfusion, rfl⟩

theorem declines_spawn_ne {w : Reconnector} {b : Backoff} {r : Registry} {h k : HostId}
    (hne : (r.host k).address ≠ (r.host h).address) : (w.spawn b r k).Declines r h ↔ w.Declines r h := by
  rcases spawn_cases w b r k with ⟨-, he⟩ | ⟨-, he⟩
  · rw [he]
  · rw [he]
    have hb : ((r.host h).address == (r.host k).address) = false := beq_false_of_ne hne.symm
    unfold Declines
    simp only [List.lookup_cons, hb]

/-- A host that is declined stays so while series are started. -/
theorem Declines.spawn {w : Reconnector} {r : Registry} {h : HostId} (declines : w.Declines r h) (b : Backoff)
    (k : HostId) : (w.spawn b r k).Declines r h := by
  rcases spawn_cases w b r k with ⟨-, he⟩ | ⟨-, he⟩ <;> rw [he]
  · exact declines
  · refine declines.imp_right fun listed => ?_
    rw [List.lookup_cons]
    split
    · rfl
    · exact listed

theorem hasSeries_foldl_spawn {b : Backoff} {r : Registry} {h : HostId} :
    ∀ {l : List HostId} {w : Reconnector}, (∀ k ∈ l, (r.host k).address = (r.host h).address → k = h) →
      ((l.foldl (fun w k => w.spawn b r k) w).HasSeries h ↔ w.HasSeries h ∨ h ∈ l ∧ ¬ w.Declines r h)
  | [], w, _ => by simp
  | k :: l, w, hl => by
    have hrest := hasSeries_foldl_spawn (b := b) (l := l) (w := w.spawn b r k)
      fun x hx => hl x (List.mem_cons_of_mem _ hx)
    rw [List.foldl_cons, hrest, hasSeries_spawn, List.mem_cons]
    by_cases hk : k = h
    · subst hk
      constructor
      · rintro ((hs | ⟨-, hn⟩) | ⟨-, hn⟩)
        · exact .inl hs
        · exact .inr ⟨.inl rfl, hn⟩
        · refine .inr ⟨.inl rfl, fun hd => hn ?_⟩
          rcases spawn_cases w b r k with ⟨-, he⟩ | ⟨hd', -⟩
          · rw [he]
            exact hd
          · exact absurd hd hd'
      · rintro (hs | ⟨-, hn⟩)
        · exact .inl (.inl hs)
        · exact .inl (.inr ⟨rfl, hn⟩)
    · have hne : (r.host k).address ≠ (r.host h).address := fun he => hk (hl k List.mem_cons_self he)
      rw [declines_spawn_ne hne]
      constructor
      · rintro ((hs | ⟨he, -⟩) | ⟨hm, hn⟩)
        · exact .inl hs
        · exact absurd he hk
        · exact .inr ⟨.inr hm, hn⟩
      · rintro (hs | ⟨he | hm, hn⟩)
        · exact .inl (.inl hs)
        · exact absurd he.symm hk
        · exact .inr ⟨hm, hn⟩

/-- **What is left of a look at the registry.** -/
theorem hasSeries_resync {w : Reconnector} {b : Backoff} {r : Registry} (wf : r.WellFormed) {h : HostId}
    (hm : h ∈ r.topology.ids) (hd : (r.host h).state = .down) :
    (w.resync b r).HasSeries h ↔ w.HasSeries h ∨ ¬ w.Declines r h := by
  have hlooked : h ∈ r.topology.ids.filter fun h => (r.host h).state == .down :=
    List.mem_filter.2 ⟨hm, by rw [hd]; rfl⟩
  unfold resync
  rw [hasSeries_foldl_spawn fun k hk he => wf.address_inj (List.mem_filter.1 hk).1 hm he]
  simp only [hlooked, true_and]

theorem Tidy.resync {w : Reconnector} {r : Registry} (t : w.Tidy r) (wf : r.WellFormed) (b : Backoff) :
    (w.resync b r).Tidy r := by
  have hfold : ∀ (l : List HostId) (w : Reconnector), (∀ h ∈ l, h < r.hosts.length) → w.Tidy r →
      (l.foldl (fun w h => w.spawn b r h) w).Tidy r := by
    intro l
    induction l with
    | nil => exact fun w _ t => t
    | cons h l ih =>
      exact fun w hl t => ih _ (fun k hk => hl k (List.mem_cons_of_mem _ hk))
        (t.spawn b (hl h List.mem_cons_self))
  exact hfold _ w (fun h hh => wf.lt_of_mem (List.mem_filter.1 hh).1) t

/-! ## Events -/

theorem cancelSeries_cases (w : Reconnector) (a : Address) :
    w.current.lookup a = none ∧ w.cancelSeries a = w ∨
      ∃ n, w.current.lookup a = some n ∧
        w.cancelSeries a = (w.change n ({ · with cancelled := true })).forget a := by
  unfold cancelSeries
  cases w.current.lookup a with
  | none => exact .inl ⟨rfl, rfl⟩
  | some n => exact .inr ⟨n, rfl, rfl⟩

theorem Tidy.cancelSeries {w : Reconnector} {r : Registry} (t : w.Tidy r) (a : Address) :
    (w.cancelSeries a).Tidy r := by
  rcases cancelSeries_cases w a with ⟨-, he⟩ | ⟨n, hl, he⟩
  · rw [he]
    exact t
  · obtain ⟨s, found, -⟩ := t.lookup hl
    have ht : { w with series := w.series.set n { s with cancelled := true } }.Tidy r := t.set found rfl rfl
    rw [he, change_eq_set found]
    exact ht.forget a

theorem hasSeries_cancelSeries_ne {w : Reconnector} {r : Registry} (t : w.Tidy r) {a : Address} {h : HostId}
    (hne : a ≠ (r.host h).address) : (w.cancelSeries a).HasSeries h ↔ w.HasSeries h := by
  rcases cancelSeries_cases w a with ⟨-, he⟩ | ⟨n, hl, he⟩
  · rw [he]
  · obtain ⟨s, found, ha⟩ := t.lookup hl
    have hother : s.host ≠ h := fun hh => hne (by rw [← ha, ← (t.series s (mem_of_series? found)).2, hh])
    rw [he, change_eq_set found]
    constructor
    · intro hs
      exact (HasSeries.of_set hs).elim id fun hn => absurd hn.1 hother
    · intro hs
      exact (hs.set found).elim id fun hn => absurd hn.1 hother

theorem Tidy.handle {w : Reconnector} {r : Registry} (t : w.Tidy r) (wf : r.WellFormed) (b : Backoff)
    (e : HostEvent) : (w.handle b r e).Tidy r := by
  cases e with
  | added a => exact t
  | reconnecting a => exact t
  | up a => exact ⟨(t.cancelSeries a).series, (t.cancelSeries a).current⟩
  | removed a => exact ⟨(t.cancelSeries a).series, (t.cancelSeries a).current⟩
  | down a reason =>
    unfold Reconnector.handle
    dsimp only
    split
    · exact t.forget a
    · split
      · rename_i h hf
        exact t.spawn b (wf.lt_of_mem (Registry.mem_ids_of_find? hf))
      · exact t

/-- **An event of another address leaves a host's series alone.** -/
theorem hasSeries_handle_ne {w : Reconnector} {r : Registry} (t : w.Tidy r) (wf : r.WellFormed) (b : Backoff)
    {e : HostEvent} {h : HostId} (hne : e.address ≠ (r.host h).address) :
    (w.handle b r e).HasSeries h ↔ w.HasSeries h := by
  cases e with
  | added a => exact .rfl
  | reconnecting a => exact .rfl
  | up a => exact hasSeries_cancelSeries_ne t hne
  | removed a => exact hasSeries_cancelSeries_ne t hne
  | down a reason =>
    unfold Reconnector.handle
    dsimp only
    split
    · exact .rfl
    · split
      · rename_i k hf
        have hk : k ≠ h := fun he => hne (by rw [← he, wf.find?_address hf]; rfl)
        rw [hasSeries_spawn]
        exact ⟨fun hs => hs.elim id fun hn => absurd hn.1 hk, .inl⟩
      · exact .rfl

/-- **What is left of a host that goes down**: it has a series, unless it is marked as exhausted or declined. -/
theorem hasSeries_handle_down {w : Reconnector} {r : Registry} (b : Backoff) {a : Address} {reason : String}
    {h : HostId} (hf : r.find? a = some h) :
    (w.handle b r (.down a reason)).HasSeries h ↔ w.HasSeries h ∨ a ∉ w.exhausted ∧ ¬ w.Declines r h := by
  unfold Reconnector.handle
  dsimp only
  by_cases hx : a ∈ w.exhausted
  · rw [if_pos hx]
    exact ⟨.inl, fun hs => hs.elim id fun hn => absurd hx hn.1⟩
  · rw [if_neg hx]
    simp only [hf]
    rw [hasSeries_spawn]
    simp only [hx, not_false_eq_true, true_and]

/-! ## Turns of the listener -/

/-- How far the listener is: the events taken in, whether it has run, and whether it was stopped. -/
def progress (w : Reconnector) : Nat × Bool × Bool := (w.heard, w.awake, w.stopped)

theorem progress_spawn (w : Reconnector) (b : Backoff) (r : Registry) (h : HostId) :
    (w.spawn b r h).progress = w.progress := by
  rcases spawn_cases w b r h with ⟨-, he⟩ | ⟨-, he⟩ <;> rw [he]
  rfl

theorem progress_resync (w : Reconnector) (b : Backoff) (r : Registry) :
    (w.resync b r).progress = w.progress := by
  have hfold : ∀ (l : List HostId) (w : Reconnector),
      (l.foldl (fun w h => w.spawn b r h) w).progress = w.progress := by
    intro l
    induction l with
    | nil => exact fun _ => rfl
    | cons h l ih => exact fun w => (ih _).trans (progress_spawn w b r h)
  exact hfold _ w

theorem progress_cancelSeries (w : Reconnector) (a : Address) : (w.cancelSeries a).progress = w.progress := by
  rcases cancelSeries_cases w a with ⟨-, he⟩ | ⟨n, -, he⟩ <;> rw [he]
  rfl

theorem progress_handle (w : Reconnector) (b : Backoff) (r : Registry) (e : HostEvent) :
    (w.handle b r e).progress = w.progress := by
  cases e with
  | added a => rfl
  | reconnecting a => rfl
  | up a => exact progress_cancelSeries w a
  | removed a => exact progress_cancelSeries w a
  | down a reason =>
    unfold handle
    dsimp only
    split
    · rfl
    · split
      · exact progress_spawn w b r _
      · rfl

/-- The events that the listener has not taken in, the newest first. -/
def unheard (w : Reconnector) (r : Registry) : List HostEvent := r.log.take (r.log.length - w.heard)

/-- New events are events that the listener has not taken in. -/
theorem unheard_append {w : Reconnector} {r r' : Registry} {new : List HostEvent} (hle : w.heard ≤ r.log.length)
    (hlog : r'.log = new ++ r.log) : w.unheard r' = new ++ w.unheard r := by
  have hcount : new.length + r.log.length - w.heard = new.length + (r.log.length - w.heard) := by omega
  unfold unheard
  rw [hlog, List.length_append, hcount]
  exact List.take_length_add_append _

theorem unheard_handle (w : Reconnector) (b : Backoff) (r : Registry) (e : HostEvent) :
    (w.handle b r e).unheard r = w.unheard r := by
  have hheard : (w.handle b r e).heard = w.heard := congrArg (·.1) (progress_handle w b r e)
  unfold unheard
  rw [hheard]

/-- The oldest event that the listener has not taken in, and the log around it. -/
theorem log_of_unheard {w : Reconnector} {r : Registry} {newer : List HostEvent} {e : HostEvent}
    (h : w.unheard r = newer ++ [e]) : r.log = newer ++ e :: r.log.drop (r.log.length - w.heard) := by
  rw [List.append_cons, ← h]
  exact (List.take_append_drop _ _).symm

theorem quiet_of_not_busy {w : Reconnector} {r : Registry} (idle : w.isBusy r = false) (running : w.stopped = false) :
    w.hasNews r = false := by
  unfold isBusy at idle
  rwa [running, Bool.and_false, Bool.not_false, Bool.and_true] at idle

/-- A listener with nothing to take in has heard everything. -/
theorem caught_up {w : Reconnector} {r : Registry} (quiet : w.hasNews r = false) :
    w.awake = true ∧ w.unheard r = [] := by
  unfold hasNews at quiet
  simp only [Bool.or_eq_false_iff, Bool.not_eq_false', decide_eq_false_iff_not, Nat.not_lt] at quiet
  unfold unheard
  rw [Nat.sub_eq_zero_of_le quiet.2]
  exact ⟨quiet.1, rfl⟩

/-- Whether the next turn of the listener looks at the registry: it is its first, or events were lost. -/
def resyncs (w : Reconnector) (r : Registry) : Bool := !w.awake || mailbox < r.log.length - w.heard

/-- **A turn of the listener** looks at the registry or takes in the oldest event that is left. -/
theorem hear_cases {w : Reconnector} {r : Registry} (b : Backoff) (news : w.hasNews r = true)
    (hle : w.heard ≤ r.log.length) :
    (w.resyncs r = true ∧ ∃ heard ≤ r.log.length,
      w.hear b r = { w with awake := true, heard := heard }.resync b r) ∨
    (w.resyncs r = false ∧ w.awake = true ∧ w.heard + 1 ≤ r.log.length ∧ ∃ e,
      w.unheard r = { w with heard := w.heard + 1 }.unheard r ++ [e] ∧
      w.hear b r = { w with heard := w.heard + 1 }.handle b r e) := by
  unfold hasNews at news
  simp only [Bool.or_eq_true, Bool.not_eq_true', decide_eq_true_eq] at news
  unfold hear resyncs
  cases hawake : w.awake with
  | false => exact .inl ⟨rfl, w.heard, hle, rfl⟩
  | true =>
    simp only [Bool.not_true, Bool.false_eq_true, if_false, Bool.false_or, decide_eq_true_eq, decide_eq_false_iff_not]
    have hlt : w.heard < r.log.length := by simpa [hawake] using news
    by_cases hlost : mailbox < r.log.length - w.heard
    · rw [if_pos hlost]
      exact .inl ⟨hlost, _, Nat.sub_le _ _, by rw [← hawake]⟩
    · rw [if_neg hlost, if_neg (by omega)]
      have hlast : r.log.length - w.heard - 1 < r.log.length := by omega
      rw [List.getElem?_eq_getElem hlast]
      refine .inr ⟨hlost, trivial, hlt, r.log[r.log.length - w.heard - 1], ?_, rfl⟩
      unfold unheard
      have hcount : r.log.length - w.heard = r.log.length - (w.heard + 1) + 1 := by omega
      simp only [hcount, Nat.add_sub_cancel]
      exact List.take_succ_eq_append_getElem _

/-- A turn keeps the books in order, and takes in no more events than there are. -/
theorem hear_keeps {w : Reconnector} {r : Registry} (t : w.Tidy r) (wf : r.WellFormed) (b : Backoff)
    (news : w.hasNews r = true) (hle : w.heard ≤ r.log.length) :
    (w.hear b r).Tidy r ∧ (w.hear b r).heard ≤ r.log.length ∧ (w.hear b r).stopped = w.stopped := by
  rcases hear_cases b news hle with ⟨-, heard, hheard, he⟩ | ⟨-, -, hlt, e, -, he⟩
  · have hp := progress_resync { w with awake := true, heard := heard } b r
    have ht : { w with awake := true, heard := heard }.Tidy r := ⟨t.series, t.current⟩
    rw [he]
    refine ⟨ht.resync wf b, ?_, congrArg (·.2.2) hp⟩
    rw [show (resync _ b r).heard = heard from congrArg (·.1) hp]
    exact hheard
  · have hp := progress_handle { w with heard := w.heard + 1 } b r e
    have ht : { w with heard := w.heard + 1 }.Tidy r := ⟨t.series, t.current⟩
    rw [he]
    refine ⟨ht.handle wf b e, ?_, congrArg (·.2.2) hp⟩
    rw [show (handle _ b r e).heard = w.heard + 1 from congrArg (·.1) hp]
    exact hlt

end Reconnector

end CqlDispatch
