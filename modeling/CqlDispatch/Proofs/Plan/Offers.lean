import CqlDispatch.Proofs.Plan.Pull
import CqlDispatch.Proofs.Registry.Change
/-!
# What a plan still offers

The hosts a plan has left, wherever its layers keep them: behind it, or put aside.  A step takes at
most one of them away, and it is the host yielded or one that is down (`offers_step`); so is every
host that a pull takes away (`offers_pull`).  The order is lost here on purpose: it is nobody's
promise.
-/
namespace CqlDispatch
namespace Plan

/-- The hosts that a plan has left.  Addresses are read from the registry of its making; they stay. -/
def offers (r : Registry) : Plan → List HostId
  | listed hosts => hosts
  | walk hosts => hosts
  | among allowed inner => (offers r inner).filter fun h => (r.host h).address ∈ allowed
  | replicasFirst _ deferred inner => deferred ++ offers r inner

/-- Every host is one of the first `n`, and is asked whether it is up. -/
def Careful (n : Nat) : Plan → Prop
  | listed hosts => hosts = []
  | walk hosts => ∀ h ∈ hosts, h < n
  | among _ inner => Careful n inner
  | replicasFirst _ deferred inner => (∀ h ∈ deferred, h < n) ∧ Careful n inner

theorem offers_of_size (r : Registry) : ∀ {p : Plan}, p.size = 0 → p.offers r = []
  | listed hosts, h => List.length_eq_zero_iff.1 h
  | walk hosts, h => List.length_eq_zero_iff.1 h
  | among allowed inner, h => by
    rw [offers, offers_of_size r (p := inner) h]
    rfl
  | replicasFirst pending deferred inner, h => by
    unfold size at h
    have hd : deferred.length = 0 := by omega
    have hi : inner.size = 0 := by omega
    rw [offers, offers_of_size r hi, List.length_eq_zero_iff.1 hd]
    rfl

/-- What becomes of what a plan offers: some of it is passed over, all of that down, at most one
host is found, which is up, and the rest is still offered. -/
structure Offered (made now : Registry) (before : List HostId) (found : Option HostId) (after : Plan) :
    Prop where
  careful : after.Careful made.hosts.length
  up : ∀ h ∈ found, now.isUp h = true
  known : ∀ h ∈ found, h < made.hosts.length
  split : ∃ passed, (∀ h ∈ passed, now.isUp h = false) ∧
    before.Perm (passed ++ (found.toList ++ after.offers made))

theorem ifUp_cases (r : Registry) (h : HostId) :
    r.isUp h = true ∧ ifUp r h = some h ∨ r.isUp h = false ∧ ifUp r h = none := by
  unfold ifUp
  cases r.isUp h
  · exact .inr ⟨rfl, rfl⟩
  · exact .inl ⟨rfl, rfl⟩

theorem offered_ifUp {made now : Registry} {h : HostId} {rest : List HostId} {after : Plan}
    (hh : h < made.hosts.length) (hc : after.Careful made.hosts.length) (ho : after.offers made = rest) :
    Offered made now (h :: rest) (ifUp now h) after := by
  rcases ifUp_cases now h with ⟨hup, hf⟩ | ⟨hdown, hf⟩
  · rw [hf]
    refine ⟨hc, fun x hx => Option.some.inj hx ▸ hup, fun x hx => Option.some.inj hx ▸ hh, [], by simp, ?_⟩
    rw [ho]
    exact .refl _
  · rw [hf]
    refine ⟨hc, fun _ hx => (by cases hx), fun _ hx => (by cases hx), [h], by simpa using hdown, ?_⟩
    rw [ho]
    exact .refl _

/-- **A step takes away the host it yields, or one that is down, or nothing.** -/
theorem offers_step {made now : Registry} (hext : made.Extends now) :
    ∀ {p q : Plan} {found : Option HostId}, p.Careful made.hosts.length → p.step now = some (found, q) →
      Offered made now (p.offers made) found q
  | listed hosts, q, found, hc, hs => by
    rw [hc] at hs
    cases hs
  | walk [], q, found, _, hs => by cases hs
  | walk (h :: rest), q, found, hc, hs => by
    cases hs
    exact offered_ifUp (hc h List.mem_cons_self) (fun x hx => hc x (List.mem_cons_of_mem _ hx)) rfl
  | among allowed inner, q, found, hc, hs => by
    unfold step at hs
    cases hi : inner.step now with
    | none => rw [hi] at hs; cases hs
    | some out =>
      obtain ⟨met, rest⟩ := out
      rw [hi] at hs
      cases hs
      obtain ⟨hcare, hup, hknown, passed, hdown, hperm⟩ := offers_step hext (p := inner) hc hi
      refine ⟨hcare, fun x hx => hup x ?_, fun x hx => hknown x ?_,
        passed.filter fun h => (made.host h).address ∈ allowed,
        fun x hx => hdown x (List.mem_filter.1 hx).1, ?_⟩
      · exact (Option.mem_filter_iff.1 hx).1
      · exact (Option.mem_filter_iff.1 hx).1
      · have hf := hperm.filter fun h => decide ((made.host h).address ∈ allowed)
        rw [List.filter_append, List.filter_append] at hf
        refine hf.trans (.of_eq ?_)
        congr 2
        cases met with
        | none => rfl
        | some x =>
          rw [Option.filter_some, hext.address x (hknown x rfl), Option.toList_some, List.filter_cons]
          split <;> rfl
  | replicasFirst [] (h :: deferred) inner, q, found, ⟨hd, hi⟩, hs => by
    cases hs
    exact offered_ifUp (hd h List.mem_cons_self) ⟨fun x hx => hd x (List.mem_cons_of_mem _ hx), hi⟩ rfl
  | replicasFirst [] [] inner, q, found, ⟨hd, hc⟩, hs => by
    unfold step at hs
    cases hi : inner.step now with
    | none => rw [hi] at hs; cases hs
    | some out =>
      rw [hi] at hs
      cases hs
      obtain ⟨hcare, hup, hknown, hsplit⟩ := offers_step hext hc hi
      exact ⟨⟨hd, hcare⟩, hup, hknown, hsplit⟩
  | replicasFirst (a :: pending) deferred inner, q, found, ⟨hd, hc⟩, hs => by
    unfold step at hs
    cases hi : inner.step now with
    | none =>
      rw [hi] at hs
      cases hs
      exact ⟨⟨hd, hc⟩, fun _ hx => (by cases hx), fun _ hx => (by cases hx), [], by simp, .refl _⟩
    | some out =>
      obtain ⟨met, rest⟩ := out
      rw [hi] at hs
      obtain ⟨hcare, hup, hknown, passed, hdown, hperm⟩ := offers_step hext hc hi
      have hbehind : (deferred ++ inner.offers made).Perm
          (passed ++ (deferred ++ (met.toList ++ rest.offers made))) :=
        (hperm.append_left deferred).trans (List.perm_append_comm_assoc ..)
      cases met with
      | none =>
        cases hs
        exact ⟨⟨hd, hcare⟩, hup, hknown, passed, hdown, hbehind⟩
      | some h =>
        simp only at hs
        split at hs
        · cases hs
          exact ⟨⟨hd, hcare⟩, hup, hknown, passed, hdown,
            hbehind.trans ((List.perm_append_comm_assoc ..).append_left passed)⟩
        · cases hs
          refine ⟨⟨fun x hx => ?_, hcare⟩, fun _ hx => (by cases hx), fun _ hx => (by cases hx), passed, hdown,
            hbehind.trans (.of_eq ?_)⟩
          · rcases List.mem_append.1 hx with hx | hx
            · exact hd x hx
            · exact hknown x (by simp [List.mem_singleton.1 hx])
          · rw [offers, List.append_assoc]
            rfl

theorem Offered.step {made now : Registry} (hext : made.Extends now) {before : List HostId} {p q : Plan}
    {found : Option HostId} (h : Offered made now before none p) (hs : p.step now = some (found, q)) :
    Offered made now before found q := by
  obtain ⟨hcare, -, -, passed, hdown, hperm⟩ := h
  obtain ⟨hcare', hup, hknown, more, hmore, hperm'⟩ := offers_step hext hcare hs
  refine ⟨hcare', hup, hknown, passed ++ more, fun x hx => ?_, ?_⟩
  · exact (List.mem_append.1 hx).elim (hdown x) (hmore x)
  · rw [List.append_assoc]
    exact hperm.trans (hperm'.append_left passed)

/-- **A pull takes away the host it yields and hosts that are down**, and nothing is left where it
yields none. -/
theorem offers_pull {made now : Registry} (hext : made.Extends now) {p : Plan}
    (hc : p.Careful made.hosts.length) :
    Offered made now (p.offers made) (p.pull now).1 (p.pull now).2 ∧
      ((p.pull now).1 = none → (p.pull now).2.offers made = []) := by
  refine pull_rule (I := fun q => Offered made now (p.offers made) none q)
    (Q := fun out => Offered made now (p.offers made) out.1 out.2 ∧ (out.1 = none → out.2.offers made = []))
    ?pass ?found ?dry ?start
  case pass => exact fun h hs => h.step hext hs
  case found => exact fun h hs => ⟨h.step hext hs, fun hn => by cases hn⟩
  case dry => exact fun h hs => ⟨h, fun _ => offers_of_size made (step_eq_none_iff.1 hs)⟩
  case start => exact ⟨hc, fun _ hx => (by cases hx), fun _ hx => (by cases hx), [], by simp, .refl _⟩

theorem drain_perm {made now : Registry} (hext : made.Extends now) : ∀ (n : Nat) {p : Plan},
    p.Careful made.hosts.length → p.size ≤ n → (p.drain now n).Perm ((p.offers made).filter now.isUp)
  | 0, p, _, hn => by
    rw [offers_of_size made (Nat.le_zero.1 hn)]
    exact .refl _
  | n + 1, p, hc, hn => by
    obtain ⟨⟨hcare, hup, -, passed, hdown, hperm⟩, hend⟩ := offers_pull hext hc
    have hpassed : passed.filter now.isUp = [] := List.filter_eq_nil_iff.2 fun h hh => by simp [hdown h hh]
    refine .trans ?_ (hperm.filter now.isUp).symm
    rw [List.filter_append, hpassed, List.nil_append]
    unfold drain
    cases hp : p.pull now with
    | mk found q =>
      rw [hp] at hcare hup hend
      cases found with
      | none =>
        simp only [hend rfl]
        exact .refl _
      | some h =>
        have hq := size_pull hp
        rw [Option.toList_some, List.singleton_append, List.filter_cons_of_pos (hup h rfl)]
        exact (drain_perm hext n (p := q) hcare (by omega)).cons h

/-- **All that a plan yields while nothing else happens**: the hosts that it offers and that are up. -/
theorem toList_perm {made now : Registry} (hext : made.Extends now) {p : Plan}
    (hc : p.Careful made.hosts.length) : (p.toList now).Perm ((p.offers made).filter now.isUp) :=
  drain_perm hext p.size hc (Nat.le_refl _)

end Plan

end CqlDispatch
