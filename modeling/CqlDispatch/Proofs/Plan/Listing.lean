import CqlDispatch.Proofs.Plan.Offers
/-!
# The list of a plan

While nothing happens to the hosts, a plan is a list: the hosts that it yields, in order (`Lists`).
`Plan.toList` is that list (`lists_toList`), so what is proved of the steps of a plan holds of what it
yields when it is read to its end.

The plan with the replicas in front passes other hosts over until no replica is pending, puts them
aside, and comes back to them.  Read to its end it is the list of the plan behind it in two parts, the
pending hosts and the others, each in the order they had (`Lists.replicasFirst`).
-/
namespace CqlDispatch
namespace Plan

/-- The hosts that a plan yields from here to its end. -/
inductive Lists (r : Registry) : Plan → List HostId → Prop
  | ended {p} (dry : p.step r = none) : Lists r p []
  | step {p q found l} (taken : p.step r = some (found, q)) (rest : Lists r q l) : Lists r p (found.toList ++ l)

variable {r : Registry}

theorem exists_lists (r : Registry) (p : Plan) : ∃ l, Lists r p l := by
  cases hs : p.step r with
  | none => exact ⟨[], .ended hs⟩
  | some out =>
    obtain ⟨found, q⟩ := out
    have := size_step hs
    obtain ⟨l, hl⟩ := exists_lists r q
    exact ⟨found.toList ++ l, .step hs hl⟩
termination_by p.size

/-- A pull takes the first host off the list. -/
theorem Lists.pull {p : Plan} {l : List HostId} (h : Lists r p l) :
    (p.pull r).1 = l.head? ∧ Lists r (p.pull r).2 l.tail := by
  refine pull_rule (I := fun q => Lists r q l) (Q := fun out => out.1 = l.head? ∧ Lists r out.2 l.tail)
    ?pass ?found ?dry h
  case pass =>
    intro p q hl hs
    cases hl with
    | ended dry => rw [hs] at dry; cases dry
    | step taken rest => rw [hs] at taken; cases taken; exact rest
  case found =>
    intro p q x hl hs
    cases hl with
    | ended dry => rw [hs] at dry; cases dry
    | step taken rest => rw [hs] at taken; cases taken; exact ⟨rfl, rest⟩
  case dry =>
    intro p hl hs
    cases hl with
    | ended dry => exact ⟨rfl, .ended dry⟩
    | step taken rest => rw [hs] at taken; cases taken

theorem Lists.drain_eq : ∀ (n : Nat) {p : Plan} {l : List HostId}, Lists r p l → p.size ≤ n → p.drain r n = l
  | 0, p, l, h, hn => by
    cases h with
    | ended => rfl
    | step taken rest =>
      rw [step_eq_none_iff.2 (Nat.le_zero.1 hn)] at taken
      cases taken
  | n + 1, p, l, h, hn => by
    obtain ⟨hhead, htail⟩ := h.pull
    unfold Plan.drain
    cases hp : p.pull r with
    | mk found q =>
      rw [hp] at hhead htail
      cases l with
      | nil =>
        rw [show found = none from hhead]
      | cons x l =>
        have hfound : found = some x := hhead
        subst hfound
        have := size_pull hp
        exact congrArg (x :: ·) (Lists.drain_eq n htail (by omega))

/-- **A plan yields its list.** -/
theorem lists_toList (r : Registry) (p : Plan) : Lists r p (p.toList r) := by
  obtain ⟨l, hl⟩ := exists_lists r p
  have heq : p.toList r = l := hl.drain_eq p.size (Nat.le_refl _)
  exact heq ▸ hl

theorem Lists.toList_eq {p : Plan} {l : List HostId} (h : Lists r p l) : p.toList r = l :=
  h.drain_eq p.size (Nat.le_refl _)

/-! ## Walks -/

theorem toList_ifUp (r : Registry) (h : HostId) : (ifUp r h).toList = [h].filter r.isUp := by
  rcases ifUp_cases r h with ⟨hup, hf⟩ | ⟨hdown, hf⟩
  · rw [hf, List.filter_cons_of_pos hup]
    rfl
  · rw [hf, List.filter_cons_of_neg (by simp [hdown])]
    rfl

theorem lists_walk (r : Registry) : ∀ l : List HostId, Lists r (walk l) (l.filter r.isUp)
  | [] => .ended rfl
  | x :: l => by
    have hs : (walk (x :: l)).step r = some (ifUp r x, walk l) := rfl
    have hlist := Lists.step hs (lists_walk r l)
    rwa [toList_ifUp, ← List.filter_append] at hlist

/-- A pull of a walk passes over hosts that are down and takes the next one. -/
theorem pull_walk (r : Registry) (l : List HostId) : ∃ passed rest,
    l = passed ++ (((walk l).pull r).1.toList ++ rest) ∧ ((walk l).pull r).2 = walk rest ∧
      ∀ h ∈ passed, r.isUp h = false := by
  refine pull_rule
    (I := fun q => ∃ passed rest, l = passed ++ rest ∧ q = walk rest ∧ ∀ h ∈ passed, r.isUp h = false)
    (Q := fun out => ∃ passed rest, l = passed ++ (out.1.toList ++ rest) ∧ out.2 = walk rest ∧
      ∀ h ∈ passed, r.isUp h = false)
    ?pass ?found ?dry ⟨[], l, rfl, rfl, fun _ h => absurd h List.not_mem_nil⟩
  case pass =>
    rintro _ q ⟨passed, rest, hl, rfl, hdown⟩ hs
    cases rest with
    | nil => cases hs
    | cons x rest =>
      obtain ⟨hx, rfl⟩ := Prod.mk.inj (Option.some.inj hs)
      rcases ifUp_cases r x with ⟨-, hf⟩ | ⟨hxdown, -⟩
      · rw [hf] at hx
        cases hx
      · refine ⟨passed ++ [x], rest, by rw [hl, List.append_assoc]; rfl, rfl, fun h hh => ?_⟩
        rcases List.mem_append.1 hh with hh | hh
        · exact hdown h hh
        · rwa [List.mem_singleton.1 hh]
  case found =>
    rintro _ q x ⟨passed, rest, hl, rfl, hdown⟩ hs
    cases rest with
    | nil => cases hs
    | cons y rest =>
      obtain ⟨hy, rfl⟩ := Prod.mk.inj (Option.some.inj hs)
      rcases ifUp_cases r y with ⟨-, hf⟩ | ⟨-, hf⟩
      · rw [hf] at hy
        cases hy
        exact ⟨passed, rest, hl, rfl, hdown⟩
      · rw [hf] at hy
        cases hy
  case dry =>
    rintro _ ⟨passed, rest, hl, rfl, hdown⟩ -
    exact ⟨passed, rest, hl, rfl, hdown⟩

/-! ## Replicas first -/

/-- With no replica pending, the hosts put aside come first, those that are up. -/
theorem Lists.deferred {inner : Plan} {l : List HostId} (h : Lists r inner l) :
    ∀ deferred : List HostId, Lists r (replicasFirst [] deferred inner) (deferred.filter r.isUp ++ l)
  | [] => by
    induction h with
    | @ended p dry => exact .ended (by rw [Plan.step, dry])
    | @step p q found l taken _ ih =>
      have hs : (replicasFirst [] [] p).step r = some (found, replicasFirst [] [] q) := by
        rw [Plan.step, taken]
      exact .step hs ih
  | x :: deferred => by
    have hs : (replicasFirst [] (x :: deferred) inner).step r =
        some (ifUp r x, replicasFirst [] deferred inner) := by
      rw [Plan.step]
    have hlist := Lists.step hs (h.deferred deferred)
    rwa [toList_ifUp, ← List.append_assoc, ← List.filter_append] at hlist

/-- A host that is pending is yielded, and pending no longer. -/
theorem Lists.foremost {p q : Plan} {x : HostId} {pending : List Address} {deferred l : List HostId}
    (taken : p.step r = some (some x, q)) (ha : (r.host x).address ∈ pending)
    (rest : Lists r (.replicasFirst (pending.filter (· != (r.host x).address)) deferred q) l) :
    Lists r (.replicasFirst pending deferred p) (x :: l) := by
  cases pending with
  | nil => cases ha
  | cons a pending =>
    have hs : (Plan.replicasFirst (a :: pending) deferred p).step r =
        some (some x, .replicasFirst ((a :: pending).filter (· != (r.host x).address)) deferred q) := by
      rw [Plan.step, taken]
      exact if_pos ha
    exact .step hs rest

/-- A host that is not pending is put aside, as long as one is. -/
theorem Lists.aside {p q : Plan} {found : Option HostId} {a : Address} {pending : List Address}
    {deferred l : List HostId} (taken : p.step r = some (found, q))
    (other : ∀ x ∈ found, (r.host x).address ∉ a :: pending)
    (rest : Lists r (.replicasFirst (a :: pending) (deferred ++ found.toList) q) l) :
    Lists r (.replicasFirst (a :: pending) deferred p) l := by
  have hs : (Plan.replicasFirst (a :: pending) deferred p).step r =
      some (none, .replicasFirst (a :: pending) (deferred ++ found.toList) q) := by
    rw [Plan.step, taken]
    cases found with
    | none => simp
    | some x => exact if_neg (other x rfl)
  exact .step hs rest

/-- **Replicas come first, and all else stays in order.**  The plan behind lists hosts that are up, each
address once. -/
theorem Lists.replicasFirst {inner : Plan} {l : List HostId} (h : Lists r inner l)
    (up : ∀ x ∈ l, r.isUp x = true) (distinct : l.Pairwise fun x y => (r.host x).address ≠ (r.host y).address) :
    ∀ (pending : List Address) (deferred : List HostId),
      Lists r (.replicasFirst pending deferred inner)
        (l.filter (fun x => (r.host x).address ∈ pending) ++
          (deferred.filter r.isUp ++ l.filter (fun x => (r.host x).address ∉ pending))) := by
  induction h with
  | @ended p dry =>
    intro pending deferred
    have hdeferred : ∀ deferred, Lists r (.replicasFirst [] deferred p) _ := Lists.deferred (.ended dry)
    cases pending with
    | nil => exact hdeferred deferred
    | cons a pending =>
      have hs : (Plan.replicasFirst (a :: pending) deferred p).step r =
          some (none, .replicasFirst [] deferred p) := by
        rw [Plan.step, dry]
      exact .step hs (hdeferred deferred)
  | @step p q found l taken rest ih =>
    intro pending deferred
    cases pending with
    | nil =>
      have hnone : (found.toList ++ l).filter (fun x => (r.host x).address ∈ ([] : List Address)) = [] :=
        List.filter_eq_nil_iff.2 fun x _ => by simp
      have hall : (found.toList ++ l).filter (fun x => (r.host x).address ∉ ([] : List Address)) = _ :=
        List.filter_eq_self.2 fun x _ => by simp
      rw [hnone, hall]
      exact Lists.deferred (.step taken rest) deferred
    | cons a pending =>
      cases found with
      | none =>
        refine Lists.aside taken (fun x hx => by cases hx) ?_
        rw [Option.toList_none, List.append_nil]
        exact ih up distinct (a :: pending) deferred
      | some x =>
        obtain ⟨hx, hdistinct⟩ := List.pairwise_cons.1 distinct
        have hup : ∀ y ∈ l, r.isUp y = true := fun y hy => up y (List.mem_cons_of_mem _ hy)
        rw [Option.toList_some, List.singleton_append]
        by_cases ha : (r.host x).address ∈ a :: pending
        · -- No later host has this address, so it is not missed among the pending.
          have hsame : ∀ y ∈ l, (r.host y).address ∈ (a :: pending).filter (· != (r.host x).address) ↔
              (r.host y).address ∈ a :: pending := fun y hy => by
            rw [List.mem_filter]
            exact and_iff_left (by simpa using (hx y hy).symm)
          have hlist := ih hup hdistinct ((a :: pending).filter (· != (r.host x).address)) deferred
          rw [List.filter_congr fun y hy => decide_eq_decide.2 (hsame y hy),
            List.filter_congr fun y hy => decide_eq_decide.2 (not_congr (hsame y hy))] at hlist
          have hin : (x :: l).filter (fun y => (r.host y).address ∈ a :: pending) = x :: l.filter _ :=
            List.filter_cons_of_pos (decide_eq_true ha)
          have hout : (x :: l).filter (fun y => (r.host y).address ∉ a :: pending) = l.filter _ :=
            List.filter_cons_of_neg fun hn => of_decide_eq_true hn ha
          rw [hin, hout]
          exact Lists.foremost taken ha hlist
        · have hlist := ih hup hdistinct (a :: pending) (deferred ++ [x])
          rw [List.filter_append, List.filter_cons_of_pos (up x List.mem_cons_self), List.filter_nil,
            List.append_assoc] at hlist
          have hin : (x :: l).filter (fun y => (r.host y).address ∈ a :: pending) = l.filter _ :=
            List.filter_cons_of_neg fun hp => ha (of_decide_eq_true hp)
          have hout : (x :: l).filter (fun y => (r.host y).address ∉ a :: pending) = x :: l.filter _ :=
            List.filter_cons_of_pos (decide_eq_true ha)
          rw [hin, hout]
          refine Lists.aside taken (fun y hy => ?_) hlist
          rwa [← Option.some.inj hy]

end Plan

end CqlDispatch
