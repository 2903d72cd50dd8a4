import CqlDispatch.Proofs.Registry.Change
/-!
# What the log of a registry tells

A host changes its state only together with an event that tells it.  So the newest event about an
address gives the state of the host that is registered there (`Told`), and a host that is down, and
of which the newer events tell nothing, was down before them (`Continues`).
-/
namespace CqlDispatch

/-- These events tell nothing about the state of the host at an address. -/
def Silent (a : Address) (events : List HostEvent) : Prop := ∀ e ∈ events, e.address = a → e.tells = none

theorem silent_nil (a : Address) : Silent a [] := fun _ he => absurd he List.not_mem_nil

theorem silent_append {a : Address} {l l' : List HostEvent} : Silent a (l ++ l') ↔ Silent a l ∧ Silent a l' :=
  List.forall_mem_append

/-- The state that a log, the newest event first, last told of an address. -/
def lastTold (a : Address) (log : List HostEvent) : Option HostState :=
  log.findSome? fun e => if e.address = a then e.tells else none

theorem lastTold_cons {a : Address} {e : HostEvent} {log : List HostEvent} {s : HostState}
    (ha : e.address = a) (hs : e.tells = some s) : lastTold a (e :: log) = some s := by
  unfold lastTold
  rw [List.findSome?_cons, if_pos ha, hs]

theorem lastTold_cons_ne {a : Address} {e : HostEvent} {log : List HostEvent}
    (hn : e.address = a → e.tells = none) : lastTold a (e :: log) = lastTold a log := by
  unfold lastTold
  rw [List.findSome?_cons]
  by_cases ha : e.address = a
  · rw [if_pos ha, hn ha]
  · rw [if_neg ha]

theorem lastTold_append {a : Address} {log : List HostEvent} :
    ∀ {new : List HostEvent}, Silent a new → lastTold a (new ++ log) = lastTold a log
  | [], _ => rfl
  | e :: new, h => by
    rw [List.cons_append, lastTold_cons_ne (h e List.mem_cons_self)]
    exact lastTold_append fun e' he' => h e' (List.mem_cons_of_mem _ he')

namespace Registry

/-! ## The newest event -/

/-- A registered host is in the state that was last told of its address; of a host that is up
nothing need have been told. -/
def Told (r : Registry) : Prop :=
  ∀ h ∈ r.topology.ids, (r.host h).state = .up ∨
    lastTold (r.host h).address r.log = some (r.host h).state

theorem told_empty (id : Nat) : Told { id := id } := fun _ h => absurd h List.not_mem_nil

theorem Told.of_same {r r' : Registry} (t : r.Told) (hlog : r'.log = r.log)
    (hids : ∀ h ∈ r'.topology.ids, h ∈ r.topology.ids ∧ (r'.host h).address = (r.host h).address ∧
      (r'.host h).state = (r.host h).state) : r'.Told := by
  intro h hm
  obtain ⟨hm, ha, hs⟩ := hids h hm
  rw [hlog, ha, hs]
  exact t h hm

theorem Told.emit {r : Registry} (t : r.Told) {e : HostEvent}
    (hn : ∀ h ∈ r.topology.ids, e.address = (r.host h).address → e.tells = none) : (r.emit e).Told := by
  intro h hm
  have hlast : lastTold (r.host h).address (e :: r.log) = lastTold (r.host h).address r.log :=
    lastTold_cons_ne (hn h hm)
  rcases t h hm with hup | ht
  · exact .inl hup
  · exact .inr (hlast.trans ht)

/-- **The newest event about an address gives the state of its host.** -/
theorem Told.change {r r' : Registry} (w : r.WellFormed) (t : r.Told) (hc : r.Change r') : r'.Told := by
  cases hc with
  | @enrolled a m free =>
    intro h hm
    rcases (mem_ids_enroll free).1 hm with rfl | hm
    · rw [host_enroll_new]
      exact .inl rfl
    · rw [host_enroll_old (w.lt_of_mem hm)]
      exact t h hm
  | @struck a k known =>
    refine t.of_same (log_strike r a k) fun h hm => ?_
    obtain ⟨hm, hne⟩ := (w.mem_ids_strike known).1 hm
    rw [w.host_strike known hne]
    exact ⟨hm, rfl, rfl⟩
  | @adopted k m known bare =>
    have ha : ∀ x : Host, ({ x with metadata := some m } : Host).address = x.address := fun _ => rfl
    have hs : ∀ x : Host, ({ x with metadata := some m } : Host).state = x.state := fun _ => rfl
    exact t.of_same rfl fun h hm => ⟨hm, host_modify_keeps ha h, host_modify_keeps hs h⟩
  | @ranked k d known =>
    have ha : ∀ x : Host, ({ x with distance := d } : Host).address = x.address := fun _ => rfl
    have hs : ∀ x : Host, ({ x with distance := d } : Host).state = x.state := fun _ => rfl
    exact t.of_same rfl fun h hm => ⟨hm, host_modify_keeps ha h, host_modify_keeps hs h⟩
  | @moved a k target q e known legal about tells stays =>
    obtain ⟨-, rfl⟩ := move?_eq_some legal
    have ha := w.find?_address known
    intro h hm
    by_cases hk : k = h
    · subst hk
      have hself := host_modify_self (r := r) (fun x => { x with state := target }) (w.lt_of_mem hm)
      refine .inr ?_
      show lastTold ((r.modify k _).host k).address (e :: r.log) = some ((r.modify k _).host k).state
      rw [hself]
      exact lastTold_cons (about.trans ha.symm) tells
    · have hne : e.address ≠ (r.host h).address := by
        intro he
        rw [about, ← ha] at he
        exact hk (w.address_inj (mem_ids_of_find? known) hm he)
      show ((r.modify k _).host h).state = .up ∨
        lastTold ((r.modify k _).host h).address (e :: r.log) = some ((r.modify k _).host h).state
      rw [host_modify_ne r _ hk, lastTold_cons_ne fun he => absurd he hne]
      exact t h hm
  | joined => exact t.emit fun _ _ _ => rfl
  | @left a gone =>
    refine t.emit fun h hm he => ?_
    have hfound := w.mem_ids_iff.1 hm
    rw [← he] at hfound
    exact absurd (gone.symm.trans hfound) (by simp)
  | remembered => exact t.of_same rfl fun h hm => ⟨hm, rfl, rfl⟩
  | replicated => exact t.of_same rfl fun h hm => ⟨hm, rfl, rfl⟩

/-! ## Hosts that are down -/

/-- A later state of a registry, as its log tells it: a registered host that is down, and of which
the newer events tell nothing, was registered and down before. -/
def Continues (r r' : Registry) : Prop :=
  ∃ new, r'.log = new ++ r.log ∧ ∀ h ∈ r'.topology.ids, (r'.host h).state = .down →
    Silent (r'.host h).address new → h ∈ r.topology.ids ∧ (r.host h).state = .down

theorem Continues.refl (r : Registry) : Continues r r := ⟨[], rfl, fun _ hm hd _ => ⟨hm, hd⟩⟩

theorem Continues.trans {r r' r'' : Registry} (w : r'.WellFormed) (hext : r'.Extends r'')
    (h : Continues r r') (h' : Continues r' r'') : Continues r r'' := by
  obtain ⟨new, hlog, hdown⟩ := h
  obtain ⟨new', hlog', hdown'⟩ := h'
  refine ⟨new' ++ new, by rw [hlog', hlog, List.append_assoc], fun k hm hd hs => ?_⟩
  obtain ⟨hsilent', hsilent⟩ := silent_append.1 hs
  obtain ⟨hm', hd'⟩ := hdown' k hm hd hsilent'
  rw [hext.address k (w.lt_of_mem hm')] at hsilent
  exact hdown k hm' hd' hsilent

theorem Continues.of_same {r r' : Registry} (hlog : r'.log = r.log)
    (hids : ∀ h ∈ r'.topology.ids, (r'.host h).state = .down →
      h ∈ r.topology.ids ∧ (r'.host h).state = (r.host h).state) : Continues r r' := by
  refine ⟨[], hlog, fun h hm hd _ => ?_⟩
  obtain ⟨hm, hs⟩ := hids h hm hd
  exact ⟨hm, hs ▸ hd⟩

theorem Continues.of_change {r r' : Registry} (w : r.WellFormed) (hc : r.Change r') : Continues r r' := by
  cases hc with
  | @enrolled a m free =>
    refine .of_same rfl fun h hm hd => ?_
    rcases (mem_ids_enroll free).1 hm with rfl | hm
    · rw [host_enroll_new] at hd
      cases hd
    · exact ⟨hm, by rw [host_enroll_old (w.lt_of_mem hm)]⟩
  | @struck a k known =>
    refine .of_same (log_strike r a k) fun h hm _ => ?_
    obtain ⟨hm, hne⟩ := (w.mem_ids_strike known).1 hm
    exact ⟨hm, by rw [w.host_strike known hne]⟩
  | @adopted k m known bare =>
    have hs : ∀ x : Host, ({ x with metadata := some m } : Host).state = x.state := fun _ => rfl
    exact .of_same rfl fun h hm _ => ⟨hm, host_modify_keeps hs h⟩
  | @ranked k d known =>
    have hs : ∀ x : Host, ({ x with distance := d } : Host).state = x.state := fun _ => rfl
    exact .of_same rfl fun h hm _ => ⟨hm, host_modify_keeps hs h⟩
  | @moved a k target q e known legal about tells stays =>
    obtain ⟨-, rfl⟩ := move?_eq_some legal
    refine ⟨[e], rfl, fun h hm hd hs => ⟨hm, ?_⟩⟩
    by_cases hk : k = h
    · subst hk
      have hkeeps : ∀ x : Host, ({ x with state := target } : Host).address = x.address := fun _ => rfl
      have ha := host_modify_keeps (r := r) (h := k) hkeeps k
      have hnone := hs e List.mem_cons_self (about.trans ((w.find?_address known).symm.trans ha.symm))
      rw [tells] at hnone
      cases hnone
    · have hsame := host_modify_ne r (fun x => { x with state := target }) hk
      exact hsame ▸ hd
  | joined => exact ⟨[_], rfl, fun h hm hd _ => ⟨hm, hd⟩⟩
  | left gone => exact ⟨[_], rfl, fun h hm hd _ => ⟨hm, hd⟩⟩
  | remembered => exact .of_same rfl fun h hm _ => ⟨hm, rfl⟩
  | replicated => exact .of_same rfl fun h hm _ => ⟨hm, rfl⟩

end Registry

end CqlDispatch
