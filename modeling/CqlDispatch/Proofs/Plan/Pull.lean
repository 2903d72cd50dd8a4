import CqlDispatch.Plan
/-!
# Pulls

A pull takes steps until a host is yielded or the plan is at its end.  `pull_rule` is the induction
over these steps; the bound on their number never shows, because a plan has steps left exactly as
long as it has a size (`step_eq_none_iff`).
-/
namespace CqlDispatch
namespace Plan

theorem step_eq_none_iff {r : Registry} : ∀ {p : Plan}, p.step r = none ↔ p.size = 0
  | listed [] => by simp [step, size]
  | listed (_ :: _) => by simp [step, size]
  | walk [] => by simp [step, size]
  | walk (_ :: _) => by simp [step, size]
  | among allowed inner => by
    have ih := step_eq_none_iff (r := r) (p := inner)
    rw [size, ← ih]
    cases hs : inner.step r <;> simp [step, hs]
  | replicasFirst [] (_ :: _) inner => by simp [step, size]
  | replicasFirst [] [] inner => by
    have ih := step_eq_none_iff (r := r) (p := inner)
    cases hs : inner.step r with
    | none => simp [step, hs, size, ih.1 hs]
    | some out =>
      have hne : inner.size ≠ 0 := fun h0 => by rw [ih.2 h0] at hs; cases hs
      simp only [step, hs, size, reduceCtorEq, List.isEmpty_nil, if_true, List.length_nil, false_iff]
      omega
  | replicasFirst (a :: pending) deferred inner => by
    have hsize : (replicasFirst (a :: pending) deferred inner).size ≠ 0 := by
      simp only [size, List.isEmpty_cons, Bool.false_eq_true, if_false]
      omega
    refine ⟨fun h => ?_, fun h => absurd h hsize⟩
    cases hs : inner.step r with
    | none => simp [step, hs] at h
    | some out =>
      obtain ⟨found, rest⟩ := out
      cases found with
      | none => simp [step, hs] at h
      | some x =>
        simp only [step, hs] at h
        split at h <;> cases h

/-- **What holds after a pull**: the last step yielded a host or there was none left, and every
step before it passed over a host. -/
theorem pull_rule {r : Registry} {I : Plan → Prop} {Q : Option HostId × Plan → Prop}
    (pass : ∀ {p q}, I p → p.step r = some (none, q) → I q)
    (found : ∀ {p q h}, I p → p.step r = some (some h, q) → Q (some h, q))
    (dry : ∀ {p}, I p → p.step r = none → Q (none, p)) {p : Plan} (hp : I p) : Q (p.pull r) := by
  have within : ∀ (n : Nat) (p : Plan), p.size ≤ n → I p → Q (pullWithin r n p) := by
    intro n
    induction n with
    | zero =>
      intro p hn hI
      exact dry hI (step_eq_none_iff.2 (by omega))
    | succ n ih =>
      intro p hn hI
      unfold pullWithin
      cases hs : p.step r with
      | none => exact dry hI hs
      | some out =>
        obtain ⟨met, q⟩ := out
        have hq := size_step hs
        cases met with
        | none => exact ih q (by omega) (pass hI hs)
        | some h => exact found hI hs
  exact within p.size p (Nat.le_refl _) hp

/-- A pull that yields a host takes a step at least. -/
theorem size_pull_le {r : Registry} {p q : Plan} {found : Option HostId} (hp : p.pull r = (found, q)) :
    found.toList.length + q.size ≤ p.size := by
  have key : (p.pull r).1.toList.length + (p.pull r).2.size ≤ p.size := by
    refine pull_rule (I := fun q => q.size ≤ p.size) (Q := fun out => out.1.toList.length + out.2.size ≤ p.size)
      ?pass ?found ?dry (Nat.le_refl _)
    case pass => exact fun hI hs => Nat.le_of_lt (Nat.lt_of_lt_of_le (size_step hs) hI)
    case found =>
      intro q rest h hI hs
      have hlt : rest.size < p.size := Nat.lt_of_lt_of_le (size_step hs) hI
      show 1 + rest.size ≤ p.size
      omega
    case dry => exact fun hI _ => Nat.le_trans (Nat.le_of_eq (Nat.zero_add _)) hI
  rwa [hp] at key

theorem size_pull {r : Registry} {p q : Plan} {h : HostId} (hp : p.pull r = (some h, q)) :
    q.size < p.size := by
  have hle := size_pull_le hp
  rw [Option.toList_some, List.length_singleton] at hle
  omega

/-- A plan has yielded these hosts, the newest first, to pulls on whatever registries, and this is left of it. -/
inductive Yields (p : Plan) : List HostId → Plan → Prop
  | start : Yields p [] p
  | pull {hosts q} (before : Yields p hosts q) (r : Registry) :
    Yields p ((q.pull r).1.toList ++ hosts) (q.pull r).2

/-- Whatever happens to the hosts, a plan yields no more than this many. -/
def YieldsAtMost (p : Plan) (n : Nat) : Prop := ∀ {hosts q}, p.Yields hosts q → hosts.length ≤ n

theorem Yields.pulled {p q rest : Plan} {r : Registry} {hosts : List HostId} {found : Option HostId}
    (before : Yields p hosts q) (hp : q.pull r = (found, rest)) : Yields p (found.toList ++ hosts) rest := by
  have hpull := before.pull r
  rwa [hp] at hpull

theorem Yields.length_le {p q : Plan} {hosts : List HostId} (h : Yields p hosts q) :
    hosts.length + q.size ≤ p.size := by
  induction h with
  | start => exact Nat.le_of_eq (Nat.zero_add _)
  | @pull hosts q _ r ih =>
    have hle : (q.pull r).1.toList.length + (q.pull r).2.size ≤ q.size := size_pull_le rfl
    rw [List.length_append]
    omega

/-- A plan yields no more hosts than it has steps. -/
theorem yieldsAtMost_size (p : Plan) : p.YieldsAtMost p.size :=
  fun h => Nat.le_of_add_right_le h.length_le

/-- A plan is at its end: whatever happens to the hosts, it yields none any more. -/
def Ended (p : Plan) : Prop := ∀ r, (p.pull r).1 = none

theorem ended_of_size {p : Plan} (h : p.size = 0) : p.Ended := by
  intro r
  cases hp : p.pull r with
  | mk found q =>
    cases found with
    | none => rfl
    | some x => have := size_pull hp; omega

theorem ended_of_pull {r : Registry} {p q : Plan} (hp : p.pull r = (none, q)) : q.Ended := by
  have key : (p.pull r).1 = none → (p.pull r).2.size = 0 :=
    pull_rule (I := fun _ => True) (Q := fun out => out.1 = none → out.2.size = 0)
      (fun _ _ => trivial) (fun _ _ h => by cases h) (fun _ hs _ => step_eq_none_iff.1 hs) trivial
  rw [hp] at key
  exact ended_of_size (key rfl)

end Plan

end CqlDispatch
