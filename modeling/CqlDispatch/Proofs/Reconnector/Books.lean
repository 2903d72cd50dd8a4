import CqlDispatch.Proofs.Lookup
import CqlDispatch.Proofs.Reconnector.Series
/-!
# The books of a reconnector

A turn of the listener touches the series that exist in no other way than that it cancels some, and it gives
each new one the schedule of its number (`Listens`).  The books list a live series until the listener drops the
entry of its address, which it does only as it hears that the host went down while the address is marked
(`Listed.hear`).  So as long as they are listed, two live series are not of one address (`Listed.unique`), and an
event that settles the address cancels its series (`Listed.settled`).
-/
namespace CqlDispatch

/-- An event after which the series of an address has no more to do. -/
def HostEvent.settles (a : Address) : HostEvent → Bool
  | up b | removed b => b == a
  | _ => false

/-- An event that tells that the host of an address went down. -/
def HostEvent.fells (a : Address) : HostEvent → Bool
  | down b _ => b == a
  | _ => false

namespace Reconnector

theorem series?_change (w : Reconnector) (n m : Nat) (f : Series → Series) :
    (w.change n f).series? m = (w.series? m).map fun s => if n = m then f s else s :=
  List.getElem?_modify ..

/-- Where a series takes another's place, every series is itself or the one that takes it. -/
theorem series?_set {w : Reconnector} {n m : Nat} {s s' : Series} (found : w.series? n = some s) :
    { w with series := w.series.set n s' }.series? m = if n = m then some s' else w.series? m := by
  have hlt := (List.getElem?_eq_some_iff.1 found).1
  show (w.series.set n s')[m]? = _
  by_cases hn : n = m
  · rw [if_pos hn, ← hn, List.getElem?_set_self hlt]
  · rw [if_neg hn, List.getElem?_set_ne hn]
    rfl

/-- The series after a look at a host: those before it, and the one that it starts. -/
theorem series?_spawned {w : Reconnector} {t s : Series} {n : Nat}
    (hs : { w with series := w.series ++ [t] }.series? n = some s) :
    w.series? n = some s ∨ n = w.series.length ∧ s = t := by
  have hs : (w.series ++ [t])[n]? = some s := hs
  by_cases hn : n < w.series.length
  · exact .inl ((List.getElem?_append_left hn).symm.trans hs)
  · have hlt := (List.getElem?_eq_some_iff.1 hs).1
    rw [List.length_append, List.length_singleton] at hlt
    obtain rfl : n = w.series.length := by omega
    rw [List.getElem?_concat_length] at hs
    exact .inr ⟨rfl, (Option.some.inj hs).symm⟩

/-! ## What a turn leaves of the series -/

/-- The series that were there are as they were, but that some are cancelled, and new ones have not
begun the schedule that they were given. -/
structure Listens (b : Backoff) (w w' : Reconnector) : Prop where
  old : ∀ {n s}, w.series? n = some s →
    w'.series? n = some s ∨ w'.series? n = some { s with cancelled := true }
  new : ∀ {n s}, w'.series? n = some s → w.series? n = none → s.phase = .created ∧ s.schedule = b.schedule n

namespace Listens

variable {b : Backoff} {w w' w'' : Reconnector}

theorem of_same (h : w'.series = w.series) : Listens b w w' := by
  refine ⟨fun hs => .inl ?_, fun hs hn => ?_⟩
  · unfold series? at hs ⊢
    rwa [h]
  · unfold series? at hs hn
    rw [h, hn] at hs
    cases hs

theorem trans (h : Listens b w w') (h' : Listens b w' w'') : Listens b w w'' := by
  refine ⟨fun hs => ?_, fun {n s} hs hn => ?_⟩
  · rcases h.old hs with hs | hs <;> rcases h'.old hs with hs | hs
    · exact .inl hs
    · exact .inr hs
    · exact .inr hs
    · exact .inr hs
  · cases hw' : w'.series? n with
    | none => exact h'.new hs hw'
    | some s' =>
      obtain ⟨hphase, hschedule⟩ := h.new hw' hn
      rcases h'.old hw' with hs' | hs' <;> cases hs.symm.trans hs'
      · exact ⟨hphase, hschedule⟩
      · exact ⟨hphase, hschedule⟩

/-- A series that was there is live only if it was and nothing happened to it. -/
theorem isLive (h : Listens b w w') {n : Nat} {s s' : Series} (hs : w.series? n = some s)
    (hs' : w'.series? n = some s') (live : s'.IsLive) : s' = s := by
  rcases h.old hs with ho | ho <;> cases hs'.symm.trans ho
  · rfl
  · cases live.2

theorem spawn (w : Reconnector) (b : Backoff) (r : Registry) (h : HostId) : Listens b w (w.spawn b r h) := by
  rcases spawn_cases w b r h with ⟨-, he⟩ | ⟨-, he⟩ <;> rw [he]
  · exact of_same rfl
  · refine ⟨fun hs => .inl ?_, fun {n s} hs hn => ?_⟩
    · exact (List.getElem?_append_left (List.getElem?_eq_some_iff.1 hs).1).trans hs
    · rcases series?_spawned hs with hs | ⟨rfl, rfl⟩
      · cases hn.symm.trans hs
      · exact ⟨rfl, rfl⟩

theorem foldl_spawn (b : Backoff) (r : Registry) : ∀ (l : List HostId) (w : Reconnector),
    Listens b w (l.foldl (fun w h => w.spawn b r h) w)
  | [], _ => of_same rfl
  | h :: l, w => (spawn w b r h).trans (foldl_spawn b r l _)

theorem cancelSeries (w : Reconnector) (b : Backoff) (a : Address) : Listens b w (w.cancelSeries a) := by
  rcases cancelSeries_cases w a with ⟨-, he⟩ | ⟨n, -, he⟩ <;> rw [he]
  · exact of_same rfl
  · refine ⟨fun {m s} hs => ?_, fun {m s} hs hn => ?_⟩
    · have hget := series?_change w n m ({ · with cancelled := true })
      rw [hs, Option.map_some] at hget
      split at hget
      · exact .inr hget
      · exact .inl hget
    · have hget := series?_change w n m ({ · with cancelled := true })
      rw [hn, Option.map_none] at hget
      cases hs.symm.trans hget

theorem handle (w : Reconnector) (b : Backoff) (r : Registry) (e : HostEvent) : Listens b w (w.handle b r e) := by
  cases e with
  | added a | reconnecting a => exact of_same rfl
  | up a | removed a => exact (cancelSeries w b a).trans (of_same rfl)
  | down a reason =>
    unfold Reconnector.handle
    dsimp only
    split
    · exact of_same rfl
    · split
      · exact spawn w b r _
      · exact of_same rfl

theorem hear {r : Registry} (b : Backoff) (news : w.hasNews r = true) (hle : w.heard ≤ r.log.length) :
    Listens b w (w.hear b r) := by
  rcases hear_cases b news hle with ⟨-, heard, -, he⟩ | ⟨-, -, -, e, -, he⟩ <;> rw [he]
  · exact (of_same rfl : Listens b w { w with awake := true, heard := heard }).trans (foldl_spawn b r _ _)
  · exact (of_same rfl : Listens b w { w with heard := w.heard + 1 }).trans (handle _ b r e)

end Listens

/-! ## The books -/

theorem exhausted_spawn (w : Reconnector) (b : Backoff) (r : Registry) (h : HostId) :
    (w.spawn b r h).exhausted = w.exhausted := by
  rcases spawn_cases w b r h with ⟨-, he⟩ | ⟨-, he⟩ <;> rw [he]

theorem exhausted_foldl_spawn (b : Backoff) (r : Registry) : ∀ (l : List HostId) (w : Reconnector),
    (l.foldl (fun w h => w.spawn b r h) w).exhausted = w.exhausted
  | [], _ => rfl
  | h :: l, w => (exhausted_foldl_spawn b r l _).trans (exhausted_spawn w b r h)

/-- The series of this number, if it is live, is the one that the books list for its address. -/
def Listed (n : Nat) (w : Reconnector) : Prop :=
  ∀ s, w.series? n = some s → s.IsLive → w.current.lookup s.address = some n

namespace Listed

variable {n : Nat} {b : Backoff} {w : Reconnector} {r : Registry}

/-- **Of the live series of an address one at most is listed.** -/
theorem unique {m : Nat} (k : Listed m w) (k' : Listed n w) {s t : Series} (hs : w.series? m = some s)
    (ht : w.series? n = some t) (same : s.address = t.address) (live : s.IsLive) (live' : t.IsLive) : m = n :=
  Option.some.inj ((k s hs live).symm.trans (same ▸ k' t ht live'))

theorem spawn (k : Listed n w) (b : Backoff) (r : Registry) (h : HostId) : Listed n (w.spawn b r h) := by
  rcases spawn_cases w b r h with ⟨-, he⟩ | ⟨declines, he⟩ <;> rw [he]
  · exact k
  · intro s hs live
    show ((_, _) :: w.current).lookup s.address = some n
    rw [lookup_cons_if]
    rcases series?_spawned hs with hs | ⟨rfl, rfl⟩
    · -- The address of a series that is listed is not free.
      have listed := k s hs live
      rw [if_neg fun ha => declines (.inr (by rw [← ha, listed]; rfl))]
      exact listed
    · exact if_pos rfl

theorem foldl_spawn (b : Backoff) (r : Registry) : ∀ (l : List HostId) {w : Reconnector}, Listed n w →
    Listed n (l.foldl (fun w h => w.spawn b r h) w)
  | [], _, k => k
  | h :: l, _, k => foldl_spawn b r l (k.spawn b r h)

theorem forget (k : Listed n w) {a : Address} (other : ∀ s, w.series? n = some s → s.IsLive → s.address ≠ a) :
    Listed n (w.forget a) := by
  intro s hs live
  show (w.current.filter (·.1 != a)).lookup s.address = some n
  rw [lookup_filter_ne, if_neg (other s hs live)]
  exact k s hs live

/-- **An address whose series is cancelled has no live series left that was listed.** -/
theorem cancelSeries (k : Listed n w) (a : Address) : Listed n (w.cancelSeries a) ∧
    ∀ s, (w.cancelSeries a).series? n = some s → s.address = a → ¬ s.IsLive := by
  rcases cancelSeries_cases w a with ⟨free, he⟩ | ⟨m, hl, he⟩ <;> rw [he]
  · refine ⟨k, fun s hs ha live => ?_⟩
    cases free.symm.trans (ha ▸ k s hs live)
  · -- A series that is live after it is another than the one that is cancelled, and so of another address.
    have hget : ∀ s, (w.change m ({ · with cancelled := true })).series? n = some s → s.IsLive →
        w.series? n = some s ∧ m ≠ n := by
      intro s hs live
      rw [series?_change] at hs
      obtain ⟨s₀, hs₀, rfl⟩ := Option.map_eq_some_iff.1 hs
      by_cases hm : m = n
      · rw [if_pos hm] at live
        cases live.2
      · rw [if_neg hm]
        exact ⟨hs₀, hm⟩
    have hidle : ∀ s, (w.change m ({ · with cancelled := true })).series? n = some s → s.address = a →
        ¬ s.IsLive := by
      intro s hs ha live
      obtain ⟨hold, hm⟩ := hget s hs live
      exact hm (Option.some.inj (hl.symm.trans (ha ▸ k s hold live)))
    have k' : Listed n (w.change m ({ · with cancelled := true })) := fun s hs live => k s (hget s hs live).1 live
    exact ⟨k'.forget fun s hs live ha => hidle s hs ha live, hidle⟩

/-- An event leaves a live series listed, unless it tells that the host of a marked address went down. -/
theorem handle (k : Listed n w) (b : Backoff) (r : Registry) {e : HostEvent}
    (kept : ∀ s, w.series? n = some s → s.IsLive → e.fells s.address = true → s.address ∉ w.exhausted) :
    Listed n (w.handle b r e) := by
  cases e with
  | added x | reconnecting x => exact k
  | up x | removed x => exact (k.cancelSeries x).1
  | down x reason =>
    unfold Reconnector.handle
    dsimp only
    split
    · rename_i hx
      exact k.forget fun s hs live ha => kept s hs live (beq_iff_eq.2 ha.symm) (ha ▸ hx)
    · split
      · exact k.spawn b r _
      · exact k

/-- **An event that settles an address ends the life of a series of it that is listed.** -/
theorem settled (k : Listed n w) (b : Backoff) (r : Registry) {e : HostEvent} {a : Address}
    (settles : e.settles a = true) {s : Series} (hs : (w.handle b r e).series? n = some s) (ha : s.address = a) :
    ¬ s.IsLive := by
  cases e with
  | up x | removed x => exact (k.cancelSeries x).2 s hs (ha.trans (beq_iff_eq.1 settles).symm)
  | added | reconnecting | down => cases settles

/-- A series that takes another's place, or its own. -/
theorem set (k : Listed n w) {m : Nat} {s s' : Series} (found : w.series? m = some s) (address : s'.address = s.address)
    (live : s'.IsLive → s.IsLive) : Listed n { w with series := w.series.set m s' } := by
  intro x hx hlive
  rw [series?_set found] at hx
  split at hx
  · rename_i hm
    cases hx
    exact address ▸ k s (hm ▸ found) (live hlive)
  · exact k x hx hlive

end Listed

/-! ## Series that are started -/

/-- The series that a reconnector has and an earlier one had not. -/
def startedSince (w w' : Reconnector) : List Series := w'.series.drop w.series.length

theorem length_cancelSeries (w : Reconnector) (a : Address) : (w.cancelSeries a).series.length = w.series.length := by
  rcases cancelSeries_cases w a with ⟨-, he⟩ | ⟨n, -, he⟩ <;> rw [he]
  exact List.length_modify ..

theorem mem_startedSince {w w' : Reconnector} {s : Series} :
    s ∈ startedSince w w' ↔ ∃ n, w'.series? n = some s ∧ w.series? n = none := by
  constructor
  · intro hs
    obtain ⟨k, hk⟩ := List.mem_iff_getElem?.1 hs
    unfold startedSince at hk
    rw [List.getElem?_drop] at hk
    exact ⟨_, hk, List.getElem?_eq_none (Nat.le_add_right _ k)⟩
  · rintro ⟨n, found, new⟩
    refine List.mem_of_getElem? (i := n - w.series.length) ?_
    unfold startedSince
    rw [List.getElem?_drop, Nat.add_sub_cancel' (List.getElem?_eq_none_iff.1 new)]
    exact found

theorem not_new_of_length {w w' : Reconnector} (h : w'.series.length = w.series.length) {n : Nat} {s : Series}
    (found : w'.series? n = some s) : w.series? n ≠ none := by
  intro new
  have hlt := (List.getElem?_eq_some_iff.1 found).1
  exact absurd (List.getElem?_eq_none_iff.1 new) (Nat.not_le.2 (h ▸ hlt))

/-- A series that a look at a host starts is the host's, which was not declined. -/
theorem new_of_spawn {w : Reconnector} {b : Backoff} {r : Registry} {h : HostId} {n : Nat} {s : Series}
    (found : (w.spawn b r h).series? n = some s) (new : w.series? n = none) :
    s.host = h ∧ s.address = (r.host h).address ∧ ¬ w.Declines r h := by
  rcases spawn_cases w b r h with ⟨-, he⟩ | ⟨declines, he⟩ <;> rw [he] at found
  · cases new.symm.trans found
  · rcases series?_spawned found with found | ⟨-, rfl⟩
    · cases new.symm.trans found
    · exact ⟨rfl, rfl, declines⟩

theorem new_of_foldl_spawn {b : Backoff} {r : Registry} {n : Nat} {s : Series} :
    ∀ (l : List HostId) {w : Reconnector}, (l.foldl (fun w h => w.spawn b r h) w).series? n = some s →
      w.series? n = none → s.host ∈ l ∧ s.address = (r.host s.host).address ∧ ¬ w.Declines r s.host
  | [], w, found, new => by cases new.symm.trans found
  | h :: l, w, found, new => by
    cases hs : (w.spawn b r h).series? n with
    | none =>
      obtain ⟨hm, ha, declines⟩ := new_of_foldl_spawn l found hs
      exact ⟨List.mem_cons_of_mem _ hm, ha, fun hd => declines (hd.spawn b h)⟩
    | some s' =>
      obtain ⟨rfl, ha, declines⟩ := new_of_spawn hs new
      rcases (Listens.foldl_spawn b r l (w.spawn b r s'.host)).old hs with hl | hl <;> cases found.symm.trans hl
      · exact ⟨List.mem_cons_self, ha, declines⟩
      · exact ⟨List.mem_cons_self, ha, declines⟩

/-- A look at the registry starts series for hosts that are down. -/
theorem new_of_resync {w : Reconnector} {b : Backoff} {r : Registry} {n : Nat} {s : Series}
    (found : (w.resync b r).series? n = some s) (new : w.series? n = none) :
    s.host ∈ r.topology.ids ∧ (r.host s.host).state = .down ∧ s.address = (r.host s.host).address ∧
      ¬ w.Declines r s.host := by
  obtain ⟨hm, ha⟩ := new_of_foldl_spawn _ found new
  obtain ⟨hm, hdown⟩ := List.mem_filter.1 hm
  exact ⟨hm, beq_iff_eq.1 hdown, ha⟩

/-- A series is started as the listener hears that the host went down, unless its address is marked. -/
theorem new_of_handle {w : Reconnector} {b : Backoff} {r : Registry} (wf : r.WellFormed) {e : HostEvent} {n : Nat}
    {s : Series} (found : (w.handle b r e).series? n = some s) (new : w.series? n = none) :
    s.address ∉ w.exhausted ∧ (∃ reason, e = .down s.address reason) ∧ r.find? s.address = some s.host ∧
      ¬ w.Declines r s.host := by
  cases e with
  | added a | reconnecting a => cases new.symm.trans found
  | up a | removed a => exact absurd new (not_new_of_length (length_cancelSeries w a) found)
  | down a reason =>
    unfold handle at found
    dsimp only at found
    split at found
    · cases new.symm.trans found
    · split at found
      · rename_i ha _ h hf
        obtain ⟨rfl, hsa, declines⟩ := new_of_spawn found new
        rw [hsa, wf.find?_address hf]
        exact ⟨ha, ⟨reason, rfl⟩, hf, declines⟩
      · cases new.symm.trans found

/-- **A look starts a series for each host that is not declined.** -/
theorem startedSince_foldl_spawn {b : Backoff} {r : Registry} {h : HostId} :
    ∀ {l : List HostId} {w : Reconnector}, h ∈ l → (∀ k ∈ l, (r.host k).address = (r.host h).address → k = h) →
      ¬ w.Declines r h → ∃ s ∈ startedSince w (l.foldl (fun w k => w.spawn b r k) w), s.address = (r.host h).address
  | k :: l, w, hm, alone, undeclined => by
    rw [List.foldl_cons]
    by_cases hk : k = h
    · subst hk
      rcases spawn_cases w b r k with ⟨declines, -⟩ | ⟨-, he⟩
      · exact absurd declines undeclined
      · have started : (w.spawn b r k).series? w.series.length =
            some { host := k, address := (r.host k).address, schedule := b.schedule w.series.length } := by
          rw [he]
          exact List.getElem?_concat_length
        rcases (Listens.foldl_spawn b r l (w.spawn b r k)).old started with hs | hs
        · exact ⟨_, mem_startedSince.2 ⟨_, hs, List.getElem?_eq_none (Nat.le_refl _)⟩, rfl⟩
        · exact ⟨_, mem_startedSince.2 ⟨_, hs, List.getElem?_eq_none (Nat.le_refl _)⟩, rfl⟩
    · have hne : (r.host k).address ≠ (r.host h).address := fun he => hk (alone k List.mem_cons_self he)
      obtain ⟨s, hs, ha⟩ := startedSince_foldl_spawn (b := b) ((List.mem_cons.1 hm).resolve_left (Ne.symm hk))
        (fun x hx => alone x (List.mem_cons_of_mem _ hx)) (fun hd => undeclined ((declines_spawn_ne hne).1 hd))
      obtain ⟨n, found, new⟩ := mem_startedSince.1 hs
      refine ⟨s, mem_startedSince.2 ⟨n, found, ?_⟩, ha⟩
      cases hw : w.series? n with
      | none => rfl
      | some s' => rcases (Listens.spawn w b r k).old hw with ho | ho <;> cases new.symm.trans ho

/-! ## Addresses whose schedule ran out -/

theorem exhausted_cancelSeries (w : Reconnector) (a : Address) : (w.cancelSeries a).exhausted = w.exhausted := by
  rcases cancelSeries_cases w a with ⟨-, he⟩ | ⟨n, -, he⟩ <;> rw [he]
  rfl

theorem mem_exhausted_of_handle {w : Reconnector} {b : Backoff} {r : Registry} {e : HostEvent} {a : Address}
    (marked : a ∈ (w.handle b r e).exhausted) : a ∈ w.exhausted := by
  cases e with
  | added x | reconnecting x => exact marked
  | up x | removed x => exact exhausted_cancelSeries w x ▸ (List.mem_filter.1 marked).1
  | down x reason =>
    unfold handle at marked
    dsimp only at marked
    split at marked
    · exact marked
    · split at marked
      · rwa [exhausted_spawn] at marked
      · exact marked

/-- An address stays marked until an event settles it. -/
theorem mem_exhausted_handle {w : Reconnector} {b : Backoff} {r : Registry} {e : HostEvent} {a : Address}
    (marked : a ∈ w.exhausted) (open' : e.settles a = false) : a ∈ (w.handle b r e).exhausted := by
  cases e with
  | added x | reconnecting x => exact marked
  | up x | removed x =>
    refine List.mem_filter.2 ⟨(exhausted_cancelSeries w x).symm ▸ marked, ?_⟩
    have hne : x ≠ a := by simpa [HostEvent.settles] using open'
    simpa using hne.symm
  | down x reason =>
    unfold handle
    dsimp only
    split
    · exact marked
    · split
      · rwa [exhausted_spawn]
      · exact marked

end Reconnector

end CqlDispatch
