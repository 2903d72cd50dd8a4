import CqlDispatch.Proofs.Balancer.Bound
/-!
# Initialization, layer by layer

A balancer is initialized from the outside in, and every layer that reads hosts is bound on the way.  That succeeds
exactly where no layer is bound to another registry (`init_ok_iff`).  Otherwise the first such layer refuses, and the
layers outside it stay bound (`bindings_init`).  So a balancer around one that was initialized before can end up with
layers of two registries, and then neither will do (`init_again_iff`).  Nothing else comes of a refusal, and nothing at
all where the layers outside were bound before (`refused_init_eq_iff`): ranks are as they were, and so are the plans of
requests without a routing key (`refused_init_keeps`).
-/
namespace CqlDispatch

/-- Whether a layer is open or bound to this registry. -/
def fits (r : Registry) (binding : Option Nat) : Bool := binding.all (· == r.id)

theorem fits_iff {r : Registry} {binding : Option Nat} : fits r binding = true ↔ ∀ id ∈ binding, id = r.id := by
  cases binding <;> simp [fits]

theorem bind_of_fits {r : Registry} {binding : Option Nat} (h : fits r binding = true) :
    bind binding r = .ok (some r.id) := by
  cases binding with
  | none => rfl
  | some id => rw [beq_iff_eq.1 (show (id == r.id) = true from h), Balancer.bind_self]

theorem bind_of_not_fits {r : Registry} {binding : Option Nat} (h : fits r binding = false) :
    ∃ e, bind binding r = .error e := by
  cases binding with
  | none => cases h
  | some id => exact ⟨_, if_neg (beq_eq_false_iff_ne.1 (show (id == r.id) = false from h))⟩

theorem DcAware.binding_resolve (d : DcAware) (r : Registry) : (d.resolve r).binding = d.binding := by
  unfold resolve
  split <;> rfl

namespace Balancer

/-- What the layers are bound to, from the outside in. -/
def bindings : Balancer → List (Option Nat)
  | roundRobin binding _ => [binding]
  | everyHost binding => [binding]
  | dcAware d => [d.binding]
  | tokenAware binding child => binding :: child.bindings
  | allowList _ child => child.bindings

/-- The bindings after an initialization: those of the layers before the first that is bound elsewhere are to the
registry, the others as before. -/
def boundUpTo (r : Registry) (bindings : List (Option Nat)) : List (Option Nat) :=
  (bindings.takeWhile (fits r)).map (fun _ => some r.id) ++ bindings.dropWhile (fits r)

variable {r q : Registry}

theorem boundUpTo_of_fits {binding : Option Nat} (h : fits r binding = true) (l : List (Option Nat)) :
    boundUpTo r (binding :: l) = some r.id :: boundUpTo r l := by
  unfold boundUpTo
  rw [List.takeWhile_cons_of_pos h, List.dropWhile_cons_of_pos h, List.map_cons, List.cons_append]

theorem boundUpTo_of_not_fits {binding : Option Nat} (h : fits r binding = false) (l : List (Option Nat)) :
    boundUpTo r (binding :: l) = binding :: l := by
  unfold boundUpTo
  rw [List.takeWhile_cons_of_neg (by simp [h]), List.dropWhile_cons_of_neg (by simp [h]), List.map_nil, List.nil_append]

/-- What initialization comes to, and what it does with the bindings. -/
def Binds (r : Registry) (b : Balancer) : Prop :=
  ((b.init r).1 = .ok () ↔ ∀ binding ∈ b.bindings, fits r binding = true) ∧
    (b.init r).2.bindings = boundUpTo r b.bindings

/-- A layer without another inside. -/
theorem binds_of_single {b : Balancer} {binding : Option Nat} (hb : b.bindings = [binding])
    (ok : bind binding r = .ok (some r.id) → (b.init r).1 = .ok () ∧ (b.init r).2.bindings = [some r.id])
    (refused : ∀ e, bind binding r = .error e → (b.init r).1 = .error e ∧ (b.init r).2.bindings = [binding]) :
    b.Binds r := by
  unfold Binds
  rw [hb]
  cases h : fits r binding with
  | true =>
    rw [boundUpTo_of_fits h]
    simp [ok (bind_of_fits h), h, boundUpTo]
  | false =>
    obtain ⟨e, he⟩ := bind_of_not_fits h
    rw [boundUpTo_of_not_fits h]
    simp [refused e he, h]

theorem binds_init (r : Registry) : ∀ b : Balancer, b.Binds r
  | roundRobin binding turn => binds_of_single rfl (fun h => by simp [init, h, bindings]) fun e h => by
      simp [init, h, bindings]
  | everyHost binding => binds_of_single rfl (fun h => by simp [init, h, bindings]) fun e h => by
      simp [init, h, bindings]
  | dcAware d => binds_of_single rfl (fun h => by simp [init, d.binding_resolve, h, bindings]) fun e h => by
      simp [init, d.binding_resolve, h, bindings]
  | tokenAware binding child => by
    obtain ⟨hok, hbindings⟩ := binds_init r child
    unfold Binds bindings
    cases h : fits r binding with
    | true =>
      rw [boundUpTo_of_fits h]
      simp [init, bind_of_fits h, hok, hbindings, h]
    | false =>
      obtain ⟨e, he⟩ := bind_of_not_fits h
      rw [boundUpTo_of_not_fits h]
      simp [init, he, h]
  | allowList allowed child => binds_init r child

/-- **A balancer can be initialized where no layer is bound to another registry.** -/
theorem init_ok_iff (b : Balancer) (r : Registry) :
    (b.init r).1 = .ok () ↔ ∀ binding ∈ b.bindings, ∀ id ∈ binding, id = r.id := by
  rw [(binds_init r b).1]
  exact forall₂_congr fun _ _ => fits_iff

/-- **The layers before the first that is bound elsewhere are bound all the same.** -/
theorem bindings_init (b : Balancer) (r : Registry) : (b.init r).2.bindings = boundUpTo r b.bindings :=
  (binds_init r b).2

/-- **Once a registry was tried, another one will do only if no layer was bound to the first**, and then if it would
have done before. -/
theorem init_again_iff (b : Balancer) (other : q.id ≠ r.id) :
    ((b.init r).2.init q).1 = .ok () ↔ b.bindings.takeWhile (fits r) = [] ∧ (b.init q).1 = .ok () := by
  rw [(binds_init q _).1, (binds_init q b).1, bindings_init, boundUpTo]
  have hsplit := List.takeWhile_append_dropWhile (p := fits r) (l := b.bindings)
  cases htried : b.bindings.takeWhile (fits r) with
  | nil =>
    rw [htried, List.nil_append] at hsplit
    simp [hsplit]
  | cons binding rest =>
    refine iff_of_false (fun h => ?_) fun h => List.cons_ne_nil _ _ h.1
    have hfits := h (some r.id) (by simp)
    exact other (fits_iff.1 hfits r.id rfl).symm

-- Around a balancer that was initialized before, on registry 1: neither registry will do any more.
example : ((tokenAware none (roundRobin (some 1) 0)).init { id := 2 }).2 = tokenAware (some 2) (roundRobin (some 1) 0) ∧
    ((tokenAware (some 2) (roundRobin (some 1) 0)).init { id := 1 }).1 ≠ .ok () :=
  ⟨rfl, nofun⟩

/-! ## What a refusal leaves as it was -/

/-- The same balancer, but that layers around the innermost one that were open may be bound to the registry. -/
inductive Rebound (r : Registry) : Balancer → Balancer → Prop
  | same (b : Balancer) : Rebound r b b
  | opened {child child' : Balancer} (inner : Rebound r child child') :
      Rebound r (tokenAware none child) (tokenAware (some r.id) child')
  | tokenAware {binding : Option Nat} {child child' : Balancer} (inner : Rebound r child child') :
      Rebound r (tokenAware binding child) (tokenAware binding child')
  | allowList {allowed : List Address} {child child' : Balancer} (inner : Rebound r child child') :
      Rebound r (allowList allowed child) (allowList allowed child')

/-- Where a layer for datacenters is bound, it knows the local one. -/
def Resolved : Balancer → Prop
  | dcAware d => d.binding.isSome → d.localDc.isSome
  | tokenAware _ child | allowList _ child => child.Resolved
  | roundRobin _ _ | everyHost _ => True

theorem Resolved.init : ∀ {b : Balancer}, b.Resolved → (b.init r).2.Resolved
  | roundRobin binding turn, _ => by
    unfold Balancer.init
    split <;> trivial
  | everyHost binding, _ => by
    unfold Balancer.init
    split <;> trivial
  | dcAware d, _ => by
    have hknown : (d.resolve r).localDc.isSome = true := by
      unfold DcAware.resolve
      cases h : d.localDc with
      | none => rfl
      | some dc => simp [h]
    unfold Balancer.init
    dsimp only
    split <;> exact fun _ => hknown
  | tokenAware binding child, h => by
    unfold Balancer.init
    split
    · exact Resolved.init (b := child) h
    · exact h
  | allowList allowed child, h => Resolved.init (b := child) h

theorem rebound_of_refused : ∀ {b : Balancer}, b.Resolved → (b.init r).1 ≠ .ok () → Rebound r b (b.init r).2
  | roundRobin binding turn, _, h => by
    cases hfits : fits r binding with
    | true => exact absurd (by simp [init, bind_of_fits hfits]) h
    | false =>
      obtain ⟨e, he⟩ := bind_of_not_fits hfits
      unfold Balancer.init
      rw [he]
      exact .same _
  | everyHost binding, _, h => by
    cases hfits : fits r binding with
    | true => exact absurd (by simp [init, bind_of_fits hfits]) h
    | false =>
      obtain ⟨e, he⟩ := bind_of_not_fits hfits
      unfold Balancer.init
      rw [he]
      exact .same _
  | dcAware d, hd, h => by
    cases hfits : fits r d.binding with
    | true => exact absurd (by simp [init, d.binding_resolve, bind_of_fits hfits]) h
    | false =>
      -- a layer that refuses is bound, so there is nothing left to resolve
      have hbound : d.binding.isSome = true := by
        cases hb : d.binding with
        | none => rw [hb] at hfits; cases hfits
        | some id => rfl
      obtain ⟨e, he⟩ := bind_of_not_fits hfits
      unfold Balancer.init
      rw [DcAware.resolve_of_known (hd hbound)]
      dsimp only
      rw [he]
      exact .same _
  | tokenAware binding child, hc, h => by
    unfold Balancer.init at h ⊢
    cases hfits : fits r binding with
    | false =>
      obtain ⟨e, he⟩ := bind_of_not_fits hfits
      rw [he]
      exact .same _
    | true =>
      rw [bind_of_fits hfits] at h ⊢
      cases binding with
      | none => exact .opened (rebound_of_refused hc h)
      | some id =>
        obtain rfl := fits_iff.1 hfits id rfl
        exact .tokenAware (rebound_of_refused hc h)
  | allowList allowed child, hc, h => .allowList (rebound_of_refused (b := child) hc h)

theorem Rebound.eq_of_bindings {b b' : Balancer} (h : Rebound r b b') (same : b'.bindings = b.bindings) : b' = b := by
  induction h with
  | same b => rfl
  | opened _ _ => cases (List.cons.inj same).1
  | tokenAware _ ih => rw [ih (List.cons.inj same).2]
  | allowList _ ih => rw [ih same]

theorem boundUpTo_eq_iff : ∀ l : List (Option Nat), boundUpTo r l = l ↔ none ∉ l.takeWhile (fits r)
  | [] => by simp [boundUpTo]
  | binding :: l => by
    cases hfits : fits r binding with
    | true =>
      rw [boundUpTo_of_fits hfits, List.takeWhile_cons_of_pos hfits, List.cons.injEq, boundUpTo_eq_iff l,
        List.mem_cons, not_or]
      refine and_congr_left fun _ => ?_
      cases binding with
      | none => simp
      | some id => simp [fits_iff.1 hfits id rfl]
    | false => simp [boundUpTo_of_not_fits hfits, hfits]

/-- **A refused initialization changes nothing but where an open layer stands outside the one that refuses.** -/
theorem refused_init_eq_iff {b : Balancer} (resolved : b.Resolved) (refused : (b.init r).1 ≠ .ok ()) :
    (b.init r).2 = b ↔ none ∉ b.bindings.takeWhile (fits r) := by
  rw [← boundUpTo_eq_iff, ← bindings_init]
  exact ⟨congrArg bindings, (rebound_of_refused resolved refused).eq_of_bindings⟩

theorem Rebound.distance {b b' : Balancer} (h : Rebound r b b') (q : Registry) (x : Host) :
    (b'.distance q x).1 = (b.distance q x).1 := by
  induction h with
  | same b => rfl
  | opened _ ih => exact ih
  | tokenAware _ ih => exact ih
  | allowList _ ih =>
    unfold Balancer.distance
    split
    · exact ih
    · rfl

theorem Rebound.plan {b b' : Balancer} (h : Rebound r b b') (q : Registry) (keyspace : Option String)
    {options : ExecutionOptions} (unrouted : options.routingKey = none) :
    (b'.plan q keyspace options).1 = (b.plan q keyspace options).1 := by
  induction h with
  | same b => rfl
  | opened _ ih =>
    unfold Balancer.plan
    simp only [unrouted]
    exact ih
  | tokenAware _ ih =>
    unfold Balancer.plan
    simp only [unrouted]
    exact ih
  | @allowList allowed _ _ _ ih =>
    unfold Balancer.plan
    exact congrArg (Plan.among allowed) ih

/-- **A refused initialization changes no rank, and no plan of a request without a routing key.** -/
theorem refused_init_keeps {b : Balancer} (resolved : b.Resolved) (refused : (b.init r).1 ≠ .ok ()) (q : Registry) :
    (∀ x, ((b.init r).2.distance q x).1 = (b.distance q x).1) ∧
      ∀ keyspace (options : ExecutionOptions), options.routingKey = none →
        ((b.init r).2.plan q keyspace options).1 = (b.plan q keyspace options).1 :=
  have h := rebound_of_refused resolved refused
  ⟨h.distance q, fun keyspace _ unrouted => h.plan q keyspace unrouted⟩

end Balancer

end CqlDispatch
