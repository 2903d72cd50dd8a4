import CqlDispatch.Proofs.Balancer.Plans
import CqlDispatch.Proofs.Cluster.Change
/-!
# The course of a plan

A plan is made once and pulled many times, and between two pulls hosts change, come and go.  What
it yields is told by what it still offers: every pull takes some of it away, and never more than
what is down and the host it yields (`plan_course`).
-/
namespace CqlDispatch
namespace Cluster

/-- A cluster as operations leave it, once its balancer was initialized. -/
def Reached (b : Balancer) (c : Cluster) : Prop :=
  ∃ id ops, .initBalancer ∈ ops ∧ c = performAll { registry := { id := id }, balancer := b } ops

inductive Turn where
  | operate (o : Operation)
  | pull

/-- Every pull of a plan, with the registry as it is then. -/
def course (c : Cluster) (p : Plan) : List Turn → List (Registry × Option HostId)
  | [] => []
  | .operate o :: turns => course (c.perform o) p turns
  | .pull :: turns => (c.registry, (p.pull c.registry).1) :: course c (p.pull c.registry).2 turns

def yields (pulls : List (Registry × Option HostId)) : List HostId := pulls.filterMap (·.2)

/-! ## Reached clusters -/

/-- The balancer is bound to the registry. -/
structure Settled (c : Cluster) : Prop where
  wellFormed : c.registry.WellFormed
  bound : c.balancer.Bound c.registry

theorem Settled.change {c c' : Cluster} (h : c.Settled) (hc : c.Change c') : c'.Settled := by
  obtain ⟨w, hb⟩ := h
  cases hc with
  | registry hr => exact ⟨w.change hr, hb.change w hr⟩
  | classified => exact ⟨w, hb⟩
  | initialized => exact ⟨w, hb.init⟩
  | planned => exact ⟨w, hb.plan _ _⟩
  | measured => exact ⟨w, hb.distance _⟩

theorem Settled.perform {c : Cluster} (h : c.Settled) (o : Operation) : (c.perform o).Settled :=
  (perform_changes c o).keeps (fun h hc => h.change hc) h

/-- Before the balancer is initialized, nothing that is asked of it leaves a trace. -/
structure Unsettled (c : Cluster) : Prop where
  wellFormed : c.registry.WellFormed
  fresh : c.balancer.Fresh

theorem fresh_distance (r : Registry) (x : Host) : ∀ {b : Balancer}, b.Fresh → (b.distance r x).2.Fresh
  | .roundRobin _ _, h => h
  | .dcAware d, h => by
    have hsame : (d.distance r x).2 = d := by
      unfold DcAware.distance
      rw [h.1]
      split <;> rfl
    show Balancer.Fresh (.dcAware (d.distance r x).2)
    rw [hsame]
    exact h
  | .tokenAware _ _, ⟨hb, hc⟩ => ⟨hb, fresh_distance r x hc⟩
  | .allowList allowed child, h => by
    unfold Balancer.distance
    split
    · exact fresh_distance r x (b := child) h
    · exact h

theorem fresh_plan (r : Registry) (keyspace : Option String) (options : ExecutionOptions) :
    ∀ {b : Balancer}, b.Fresh → (b.plan r keyspace options).2.Fresh
  | .roundRobin binding _, h => by
    rw [show binding = none from h]
    exact rfl
  | .dcAware d, ⟨hb, hl, hc⟩ => by
    unfold Balancer.plan DcAware.plan
    rw [hb]
    exact ⟨hb, hl, hc⟩
  | .tokenAware binding child, ⟨hb, hc⟩ => by
    unfold Balancer.plan
    rw [hb]
    simp only [boundTo]
    split
    · rename_i hnone
      cases hnone
    · exact ⟨rfl, fresh_plan r keyspace options hc⟩
  | .allowList _ child, h => fresh_plan r keyspace options (b := child) h

theorem Unsettled.change {c c' : Cluster} (h : c.Unsettled ∨ c.Settled) (hc : c.Change c') :
    c'.Unsettled ∨ c'.Settled := by
  rcases h with ⟨w, hf⟩ | h
  · cases hc with
    | registry hr => exact .inl ⟨w.change hr, hf⟩
    | classified => exact .inl ⟨w, hf⟩
    | initialized => exact .inr ⟨w, hf.init⟩
    | planned => exact .inl ⟨w, fresh_plan _ _ _ hf⟩
    | measured => exact .inl ⟨w, fresh_distance _ _ hf⟩
  · exact .inr (h.change hc)

theorem settled_performAll : ∀ (ops : List Operation) {c : Cluster}, c.Unsettled ∨ c.Settled →
    (.initBalancer ∈ ops ∨ c.Settled) → (c.performAll ops).Settled
  | [], _, _, hinit => hinit.resolve_left List.not_mem_nil
  | o :: ops, c, h, hinit => by
    have hnext : (c.perform o).Unsettled ∨ (c.perform o).Settled :=
      (perform_changes c o).keeps (I := fun c => c.Unsettled ∨ c.Settled) (fun h hc => Unsettled.change h hc) h
    refine settled_performAll ops hnext ?_
    rcases hinit with hm | hs
    · rcases List.mem_cons.1 hm with rfl | hm
      · rcases h with ⟨w, hf⟩ | hs
        · exact .inr ⟨w, hf.init⟩
        · exact .inr (hs.perform _)
      · exact .inl hm
    · exact .inr (hs.perform o)

theorem Reached.settled {b : Balancer} {c : Cluster} (hb : b.Fresh) (h : Reached b c) : c.Settled := by
  obtain ⟨id, ops, hinit, rfl⟩ := h
  exact settled_performAll ops (.inl ⟨Registry.wellFormed_empty id, hb⟩) (.inl hinit)

/-! ## Pulls -/

theorem yields_cons (x : Registry × Option HostId) (pulls : List (Registry × Option HostId)) :
    yields (x :: pulls) = x.2.toList ++ yields pulls := by
  unfold yields
  rw [List.filterMap_cons]
  cases x.2 <;> rfl

/-- A plan and the cluster, any time after the plan was made on a registry. -/
structure UnderWay (made : Registry) (c : Cluster) (p : Plan) : Prop where
  wellFormed : c.registry.WellFormed
  later : made.Extends c.registry
  careful : p.Careful made.hosts.length

variable {made : Registry} {c : Cluster} {p : Plan}

theorem UnderWay.operate (u : UnderWay made c p) (o : Operation) : UnderWay made (c.perform o) p :=
  ⟨(perform_changes c o).wellFormed u.wellFormed,
    u.later.trans ((perform_changes c o).extends u.wellFormed), u.careful⟩

theorem UnderWay.offered (u : UnderWay made c p) :
    Plan.Offered made c.registry (p.offers made) (p.pull c.registry).1 (p.pull c.registry).2 :=
  (Plan.offers_pull u.later u.careful).1

theorem UnderWay.pulled (u : UnderWay made c p) : UnderWay made c (p.pull c.registry).2 :=
  ⟨u.wellFormed, u.later, u.offered.careful⟩

/-- What a course yields was on offer, each host once. -/
theorem course_offers : ∀ (turns : List Turn) {c : Cluster} {p : Plan}, UnderWay made c p →
    ∃ rest, (p.offers made).Perm (yields (course c p turns) ++ rest)
  | [], _, p, _ => ⟨p.offers made, .refl _⟩
  | .operate o :: turns, _, _, u => course_offers turns (u.operate o)
  | .pull :: turns, c, p, u => by
    obtain ⟨-, -, -, passed, -, hperm⟩ := u.offered
    obtain ⟨rest, hrest⟩ := course_offers turns u.pulled
    refine ⟨passed ++ rest, hperm.trans ?_⟩
    rw [course, yields_cons, List.append_assoc]
    refine (List.perm_append_comm_assoc ..).trans (List.Perm.append_left _ ?_)
    exact (hrest.append_left passed).trans (List.perm_append_comm_assoc ..)

theorem course_up : ∀ (turns : List Turn) {c : Cluster} {p : Plan}, UnderWay made c p →
    ∀ x ∈ course c p turns, ∀ h ∈ x.2, x.1.isUp h = true
  | [], _, _, _, _, hx => absurd hx List.not_mem_nil
  | .operate o :: turns, _, _, u, x, hx => course_up turns (u.operate o) x hx
  | .pull :: turns, _, _, u, x, hx => by
    rcases List.mem_cons.1 hx with rfl | hx
    · exact u.offered.up
    · exact course_up turns u.pulled x hx

/-- A host on offer that is up at every pull is yielded before the plan is at its end. -/
theorem course_complete {h : HostId} : ∀ (turns : List Turn) {c : Cluster} {p : Plan}, UnderWay made c p →
    h ∈ p.offers made → ∀ pre x post, course c p turns = pre ++ x :: post → x.2 = none →
      (∀ y ∈ pre ++ [x], y.1.isUp h = true) → h ∈ yields pre
  | [], _, _, _, _, pre, x, post, hs, _, _ => by simp [course] at hs
  | .operate o :: turns, _, _, u, hm, pre, x, post, hs, hx, hup =>
    course_complete turns (u.operate o) hm pre x post hs hx hup
  | .pull :: turns, c, p, u, hm, pre, x, post, hs, hx, hup => by
    obtain ⟨-, -, -, passed, hdown, hperm⟩ := u.offered
    have hplace := hperm.mem_iff.1 hm
    rw [List.mem_append, List.mem_append] at hplace
    cases pre with
    | nil =>
      rw [List.nil_append] at hs hup
      obtain ⟨rfl, -⟩ := List.cons.inj hs
      have hend := (Plan.offers_pull u.later u.careful).2 hx
      rcases hplace with hpassed | hfound | hleft
      · have hhere := hup _ List.mem_cons_self
        rw [hdown h hpassed] at hhere
        cases hhere
      · rw [show (p.pull c.registry).1 = none from hx] at hfound
        cases hfound
      · rw [hend] at hleft
        cases hleft
    | cons y pre =>
      rw [List.cons_append] at hs
      obtain ⟨rfl, htail⟩ := List.cons.inj hs
      rw [yields_cons, List.mem_append]
      rcases hplace with hpassed | hfound | hleft
      · have hhere := hup _ List.mem_cons_self
        rw [hdown h hpassed] at hhere
        cases hhere
      · exact .inl hfound
      · exact .inr (course_complete turns u.pulled hleft pre x post htail hx
          fun y hy => hup y (List.mem_cons_of_mem _ hy))

theorem course_ended : ∀ (turns : List Turn) {c : Cluster} {p : Plan}, UnderWay made c p →
    ∀ pre x post, course c p turns = pre ++ x :: post → x.2 = none → ∀ y ∈ post, y.2 = none
  | [], _, _, _, pre, x, post, hs, _ => by simp [course] at hs
  | .operate o :: turns, _, _, u, pre, x, post, hs, hx => course_ended turns (u.operate o) pre x post hs hx
  | .pull :: turns, c, p, u, pre, x, post, hs, hx => by
    cases pre with
    | nil =>
      rw [List.nil_append] at hs
      obtain ⟨rfl, rfl⟩ := List.cons.inj hs
      obtain ⟨rest, hperm⟩ := course_offers turns u.pulled
      rw [(Plan.offers_pull u.later u.careful).2 hx] at hperm
      have hnone := (List.append_eq_nil_iff.1 hperm.nil_eq.symm).1
      exact fun y hy => List.filterMap_eq_nil_iff.1 hnone y hy
    | cons z pre =>
      rw [List.cons_append] at hs
      obtain ⟨-, htail⟩ := List.cons.inj hs
      exact course_ended turns u.pulled pre x post htail hx

theorem length_yields : ∀ {pulls : List (Registry × Option HostId)}, (∀ x ∈ pulls, x.2 ≠ none) →
    (yields pulls).length = pulls.length
  | [], _ => rfl
  | x :: pulls, h => by
    rw [yields_cons, List.length_append, length_yields fun y hy => h y (List.mem_cons_of_mem _ hy)]
    cases hx : x.2 with
    | none => exact absurd hx (h x List.mem_cons_self)
    | some host =>
      rw [Option.toList_some, List.length_cons, List.length_cons, List.length_nil]
      omega

/-- A plan yields no more often than it offers hosts: all pulls up to one that yields have yielded. -/
theorem course_bounded (turns : List Turn) (u : UnderWay made c p)
    (pre : List (Registry × Option HostId)) (x : Registry × Option HostId)
    (post : List (Registry × Option HostId)) (hs : course c p turns = pre ++ x :: post)
    (hlen : (p.offers made).length ≤ pre.length) : x.2 = none := by
  by_contra hx
  have hyield : ∀ y ∈ pre ++ [x], y.2 ≠ none := by
    intro y hy hnone
    rcases List.mem_append.1 hy with hy | hy
    · obtain ⟨before, after, rfl⟩ := List.append_of_mem hy
      have hcut : course c p turns = before ++ y :: (after ++ x :: post) := by simp [hs]
      exact hx (course_ended turns u before y _ hcut hnone x (by simp))
    · rw [List.mem_singleton.1 hy] at hnone
      exact hx hnone
  have hcount := length_yields hyield
  obtain ⟨rest, hrest⟩ := course_offers turns u
  have hle := hrest.length_eq
  have hcut : course c p turns = (pre ++ [x]) ++ post := by simp [hs]
  rw [hcut] at hle
  unfold yields at hle hcount
  rw [List.filterMap_append, List.length_append, List.length_append, hcount, List.length_append,
    List.length_singleton] at hle
  omega

/-- **A plan yields the hosts its balancer did not ignore, as long as they are up.**  The balancer is
any stack of layers that was initialized; the plan is made on what operations have left, and pulled
while operations go on.  Then it yields no more hosts than were registered, and none after its end;
each host it yields was registered and not ignored when the plan was made, and is up; no host is
yielded twice; and a host that was registered and not ignored, and is up at every pull until the end,
is yielded. -/
theorem plan_course {b : Balancer} (hb : b.Fresh) {c : Cluster} (hc : Reached b c)
    (keyspace : Option String) (options : ExecutionOptions) {p : Plan} {c' : Cluster}
    (hp : c.plan keyspace options = (p, c')) (turns : List Turn) :
    (∀ pre x post, course c' p turns = pre ++ x :: post →
      (c.registry.size ≤ pre.length → x.2 = none) ∧ (x.2 = none → ∀ y ∈ post, y.2 = none)) ∧
    (∀ x ∈ course c' p turns, ∀ h ∈ x.2, h ∈ c.registry.topology.ids ∧
      (c.balancer.distance c.registry (c.registry.host h)).1 ≠ .ignored ∧ x.1.isUp h = true) ∧
    (yields (course c' p turns)).Nodup ∧
    (∀ h ∈ c.registry.topology.ids, (c.balancer.distance c.registry (c.registry.host h)).1 ≠ .ignored →
      ∀ pre x post, course c' p turns = pre ++ x :: post → x.2 = none →
        (∀ y ∈ pre ++ [x], y.1.isUp h = true) → h ∈ yields pre) := by
  have hs := hc.settled hb
  have hplan : p = (c.balancer.plan c.registry keyspace options).1 := (congrArg Prod.fst hp).symm
  have hsame : c'.registry = c.registry := (congrArg (·.2.registry) hp).symm
  obtain ⟨hcare, hperm⟩ := Balancer.plan_offers hs.wellFormed keyspace options hs.bound
  rw [← hplan] at hcare hperm
  have u : UnderWay c.registry c' p := by
    refine ⟨?_, ?_, hcare⟩
    · rw [hsame]
      exact hs.wellFormed
    · rw [hsame]
      exact .refl _
  obtain ⟨rest, hrest⟩ := course_offers turns u
  have hall := hperm.symm.trans hrest
  have hnodup : (yields (course c' p turns) ++ rest).Nodup :=
    hall.nodup_iff.1 (hs.wellFormed.ids_nodup.filter _)
  refine ⟨?_, ?_, (List.nodup_append.1 hnodup).1, ?_⟩
  · intro pre x post hsplit
    refine ⟨fun hlen => course_bounded turns u pre x post hsplit ?_, course_ended turns u pre x post hsplit⟩
    have hoffers : (p.offers c.registry).length ≤ c.registry.topology.ids.length := by
      rw [hperm.length_eq]
      exact List.length_filter_le _ _
    have hsize : c.registry.topology.ids.length = c.registry.size := List.length_map ..
    omega
  · intro x hx h hh
    have hm : h ∈ yields (course c' p turns) := List.mem_filterMap.2 ⟨x, hx, hh⟩
    have helig := Balancer.mem_eligible.1 (hall.mem_iff.2 (List.mem_append_left _ hm))
    exact ⟨helig.1, helig.2, course_up turns u x hx h hh⟩
  · intro h hid hd
    exact course_complete turns u (hperm.mem_iff.2 (Balancer.mem_eligible.2 ⟨hid, hd⟩))

/-- Three layers, not initialized. -/
def layered : Balancer := .tokenAware none (.allowList [⟨.v4 1, 0⟩, ⟨.v4 2, 0⟩] (.dcAware {}))

/-- Three hosts, of which the balancer allows two. -/
def threeHosts : List Operation :=
  [.add ⟨.v4 1, 0⟩ none, .add ⟨.v4 2, 0⟩ none, .add ⟨.v4 3, 0⟩ none, .initBalancer]

/-- The second host goes down after the first pull. -/
def downBetweenPulls : List Turn := [.pull, .operate (.report (.hostDown ⟨.v4 2, 0⟩ "reset")), .pull, .pull]

theorem layered_plan_passes_over_down_host :
    ∃ c p c', Reached layered c ∧ c.plan none ({} : QueryDefaults).options = (p, c') ∧
      yields (course c' p downBetweenPulls) = [0] ∧ (yields (course c' p downBetweenPulls)).Nodup ∧
      (∀ x ∈ course c' p downBetweenPulls, ∀ h ∈ x.2, h ∈ c.registry.topology.ids ∧
        (c.balancer.distance c.registry (c.registry.host h)).1 ≠ .ignored ∧ x.1.isUp h = true) := by
  have hfresh : layered.Fresh := ⟨rfl, rfl, rfl, rfl⟩
  have hreached : Reached layered (performAll { registry := {}, balancer := layered } threeHosts) :=
    ⟨0, threeHosts, by simp [threeHosts], rfl⟩
  have hcourse := plan_course hfresh hreached none ({} : QueryDefaults).options rfl downBetweenPulls
  exact ⟨_, _, _, hreached, rfl, by rfl, hcourse.2.2.1, hcourse.2.1⟩

end Cluster

end CqlDispatch
