import CqlDispatch.Proofs.Balancer.Anew
import CqlDispatch.Proofs.Cluster.Course
import CqlDispatch.Proofs.Cluster.Effect
/-!
# What a load balancer answers

While operations go on, a datacenter-aware balancer is asked for plans and for distances, between them and
within them.  What it keeps makes no difference: it answers as one that splits the hosts of the registry for
every question (`answers_anew`).  The invariant is that it is bound (`Settled`); an operation that is no
question changes no more of it than what it keeps (`SamePolicy`).
-/
namespace CqlDispatch
namespace Cluster

/-- The same classifier, and the same balancer but for what it keeps. -/
structure SamePolicy (c c' : Cluster) : Prop where
  classifier : c'.classifier = c.classifier
  balancer : c'.balancer.forget = c.balancer.forget

namespace SamePolicy

theorem refl (c : Cluster) : SamePolicy c c := ⟨rfl, rfl⟩

theorem trans {c c' c'' : Cluster} (h : SamePolicy c c') (h' : SamePolicy c' c'') : SamePolicy c c'' :=
  ⟨h'.classifier.trans h.classifier, h'.balancer.trans h.balancer⟩

/-- The policy does not stand in the registry. -/
theorem within {c c' : Cluster} {r : Registry} (h : SamePolicy { c with registry := r } c') (r' : Registry) :
    SamePolicy c { c' with registry := r' } :=
  ⟨h.classifier, h.balancer⟩

end SamePolicy

/-! ## Operations that ask for distances at most -/

theorem rankOne_samePolicy (k : Classifier) (c : Cluster) (h : HostId) : SamePolicy c (rankOne k c h) := by
  cases k with
  | rule f => exact ⟨rfl, rfl⟩
  | balancer => exact ⟨rfl, Balancer.forget_distance _ _ _⟩

theorem refreshDistances_samePolicy (k : Classifier) (c : Cluster) : SamePolicy c (c.refreshDistances k) :=
  List.foldlRecOn (motive := SamePolicy c) _ (rankOne k) (.refl c)
    fun _ same h _ => same.trans (rankOne_samePolicy k _ h)

theorem reclassify_samePolicy (c : Cluster) : SamePolicy c c.reclassify := by
  unfold reclassify
  split
  · exact .refl c
  · exact refreshDistances_samePolicy _ c

theorem add_samePolicy (c : Cluster) (x : Host) : SamePolicy c (c.add x).2 := by
  unfold add
  split
  · exact .refl c
  · exact (reclassify_samePolicy { c with registry := c.registry.enroll x }).within _

theorem remove_samePolicy (c : Cluster) (a : Address) : SamePolicy c (c.remove a).2 := by
  unfold remove
  split
  · exact .refl c
  · rename_i h _
    exact (reclassify_samePolicy { c with registry := c.registry.strike a h }).within _

theorem transition_samePolicy (c : Cluster) (a : Address) (target : HostState) (e : HostEvent) :
    SamePolicy c (c.transition a target e).2 := by
  rcases transition_cases c a target e with he | ⟨h, -, -, he⟩ <;> rw [he]
  · exact .refl c
  · exact ⟨rfl, rfl⟩

theorem adopt_samePolicy (c : Cluster) (h : HostId) (m : Metadata) : SamePolicy c (c.adopt h m) := by
  unfold adopt
  split
  · exact .refl c
  · exact (reclassify_samePolicy { c with registry :=
      (c.registry.modify h ({ · with metadata := some m })).rebuild c.registry.topology.members }).within _

theorem takePeer_samePolicy (s : Reconciling) (p : Translated) :
    SamePolicy s.cluster (takePeer s p).cluster := by
  rcases takePeer_cases s p with ⟨f, -, hc, -⟩ | ⟨a, -, -, ⟨-, -, hc⟩ | ⟨h, -, -, hc⟩⟩ <;> rw [hc]
  · exact .refl _
  · exact (add_samePolicy (s.cluster.remember p.advertised a) _).within _
  · exact (adopt_samePolicy (s.cluster.remember p.advertised a) h _).within _

theorem removeAll_samePolicy : ∀ (stale : List Address) (c : Cluster), SamePolicy c (c.removeAll stale).2
  | [], c => .refl c
  | a :: stale, c => (remove_samePolicy c a).trans (removeAll_samePolicy stale _)

theorem applyTopology_samePolicy (c : Cluster) (report : List Translated) :
    SamePolicy c (c.applyTopology report).2 := by
  unfold applyTopology
  split
  · exact .refl c
  · refine SamePolicy.trans ?_ (removeAll_samePolicy _ _)
    refine List.foldlRecOn (motive := fun s : Reconciling => SamePolicy c s.cluster) report takePeer ?_ ?_
    · exact .refl c
    · exact fun _ same p _ => same.trans (takePeer_samePolicy _ p)

/-! ## Questions -/

inductive Question where
  | plan (keyspace : Option String) (options : ExecutionOptions)
  | distance (h : Host)

inductive Answer where
  | plan (p : Plan)
  | distance (d : Distance)
  deriving DecidableEq

def Operation.question? : Operation → Option Question
  | .plan keyspace options => some (.plan keyspace options)
  | .distance h => some (.distance h)
  | _ => none

def answer (c : Cluster) : Question → Answer
  | .plan keyspace options => .plan (c.plan keyspace options).1
  | .distance h => .distance (c.distance h).1

/-- The questions among operations, each with the registry it was asked about and what was answered. -/
def calls (c : Cluster) : List Operation → List ((Registry × Question) × Answer)
  | [] => []
  | o :: ops => (o.question?.toList.map fun q => ((c.registry, q), c.answer q)) ++ calls (c.perform o) ops

/-- **What is no question leaves the balancer as it was**, but for what it keeps, unless it sets it up. -/
theorem forget_perform {c : Cluster} {o : Operation} (ready : o = .initBalancer → c.Settled) (plain : o.question? = none) :
    (c.perform o).balancer.forget = c.balancer.forget := by
  cases o with
  | add a m => exact (add_samePolicy c _).balancer
  | report e =>
    cases e with
    | hostUp a | hostDown a reason => exact (transition_samePolicy c a _ _).balancer
    | hostRemoved a => exact (remove_samePolicy c a).balancer
  | startReconnecting a => exact (transition_samePolicy c a _ _).balancer
  | refresh report => exact (applyTopology_samePolicy c report).balancer
  | refreshDistances k => exact (refreshDistances_samePolicy k c).balancer
  | classifyBy k => exact (reclassify_samePolicy { c with classifier := some k }).balancer
  | setReplicationFactor keyspace factor => rfl
  | initBalancer => exact congrArg Balancer.forget (ready rfl).bound.init_eq
  | plan | distance => cases plain

end Cluster

namespace DcAware

open Cluster (Question Answer)

/-- The answer of a balancer that keeps nothing. -/
def answerAnew (d : DcAware) (r : Registry) : Question → Answer × DcAware
  | .plan _ _ => (.plan (d.planAnew r).1, (d.planAnew r).2)
  | .distance h => (.distance (d.distanceAnew r h), d)

def answersAnew (d : DcAware) : List (Registry × Question) → List Answer
  | [] => []
  | (r, q) :: rest => (d.answerAnew r q).1 :: answersAnew (d.answerAnew r q).2 rest

end DcAware

namespace Cluster

/-- A datacenter-aware balancer stays one. -/
theorem Changes.dcAware {c c' : Cluster} (hc : Changes c c') (h : ∃ d, c.balancer = .dcAware d) :
    ∃ d, c'.balancer = .dcAware d := by
  refine hc.keeps (I := fun c => ∃ d, c.balancer = .dcAware d) ?_ h
  rintro ⟨r, b, k⟩ _ ⟨d, rfl⟩ hstep
  cases hstep with
  | registry | classified => exact ⟨d, rfl⟩
  | initialized =>
    show ∃ d', ((Balancer.dcAware d).init r).2 = .dcAware d'
    unfold Balancer.init
    dsimp only
    split <;> exact ⟨_, rfl⟩
  | planned => exact ⟨_, rfl⟩
  | measured => exact ⟨_, rfl⟩

theorem exists_of_forget {b : Balancer} {d : DcAware} (h : b.forget = .dcAware d) :
    ∃ d', b = .dcAware d' ∧ d'.forget = d := by
  cases b with
  | dcAware d' => exact ⟨d', rfl, Balancer.dcAware.inj h⟩
  | roundRobin | everyHost | tokenAware | allowList => cases h

/-- One question: the answer is the one worked out anew, and so is the balancer afterwards. -/
theorem Settled.answer_anew {c : Cluster} (settled : c.Settled) {d : DcAware} (hb : c.balancer = .dcAware d)
    {o : Operation} {q : Question} (asks : o.question? = some q) :
    c.answer q = (d.forget.answerAnew c.registry q).1 ∧
      (c.perform o).balancer.forget = .dcAware (d.forget.answerAnew c.registry q).2 := by
  have bound := settled.bound
  rw [hb] at bound
  cases o with
  | plan keyspace options =>
    cases asks
    have hplan : c.balancer.plan c.registry keyspace options = ((d.plan c.registry).1, .dcAware (d.plan c.registry).2) := by
      rw [hb]
      rfl
    obtain ⟨hfirst, hnext⟩ := bound.plan_anew
    refine ⟨congrArg Answer.plan ?_, ?_⟩
    · show (c.balancer.plan c.registry keyspace options).1 = _
      rw [hplan]
      exact hfirst
    · show (c.balancer.plan c.registry keyspace options).2.forget = _
      rw [hplan]
      exact congrArg Balancer.dcAware hnext
  | distance h =>
    cases asks
    refine ⟨congrArg Answer.distance ?_, ?_⟩
    · show (c.balancer.distance c.registry h).1 = _
      rw [hb]
      exact bound.distance_anew h
    · show (c.balancer.distance c.registry h).2.forget = _
      rw [Balancer.forget_distance, hb]
      rfl
  | add | report | startReconnecting | refresh | refreshDistances | classifyBy | setReplicationFactor
    | initBalancer => cases asks

theorem Settled.calls_anew : ∀ (ops : List Operation) {c : Cluster} {d : DcAware}, c.Settled →
    c.balancer = .dcAware d → (calls c ops).map (·.2) = d.forget.answersAnew ((calls c ops).map (·.1))
  | [], _, _, _, _ => rfl
  | o :: ops, c, d, settled, hb => by
    have hnext := settled.perform o
    unfold calls
    cases hq : o.question? with
    | none =>
      have hkept := forget_perform (fun _ => settled) hq
      rw [hb] at hkept
      obtain ⟨d', hb', hd'⟩ := exists_of_forget hkept
      have ih := hnext.calls_anew ops hb'
      rw [hd'] at ih
      exact ih
    | some q =>
      obtain ⟨hanswer, hforget⟩ := settled.answer_anew hb hq
      obtain ⟨d', hb', hd'⟩ := exists_of_forget hforget
      have ih := hnext.calls_anew ops hb'
      rw [hd'] at ih
      simp only [Option.toList_some, List.map_cons, List.map_nil, List.cons_append, List.nil_append,
        DcAware.answersAnew]
      rw [hanswer, ih]

/-- **A datacenter-aware balancer answers as if it kept nothing.**  After any operations, one of which
initialized it, whatever operations follow: every plan and every distance that is asked for among them is the
one that a balancer works out which splits the hosts of the registry, as it is then, for every question.  The
reference starts from what the balancer is (`forget`) and carries no more from one question to the next than
whose turn it is. -/
theorem answers_anew {d₀ : DcAware} (fresh : (Balancer.dcAware d₀).Fresh) {c : Cluster}
    (reached : Reached (.dcAware d₀) c) (ops : List Operation) :
    ∃ d, c.balancer = .dcAware d ∧
      (calls c ops).map (·.2) = d.forget.answersAnew ((calls c ops).map (·.1)) := by
  have settled := reached.settled fresh
  obtain ⟨id, before, -, rfl⟩ := reached
  obtain ⟨d, hb⟩ := (performAll_changes before
    { registry := { id := id }, balancer := .dcAware d₀ }).dcAware ⟨d₀, rfl⟩
  exact ⟨d, hb, settled.calls_anew ops hb⟩

/-- Local hosts first, and one host of every other datacenter. -/
def oneRemote : DcAware := { configured := some "dc1", perRemoteDc := 1 }

/-- A host of the local datacenter and one of another. -/
def twoDatacenters : List Operation :=
  [.add ⟨.v4 1, 0⟩ (some { datacenter := some "dc1" }), .add ⟨.v4 3, 0⟩ (some { datacenter := some "dc2" }),
    .initBalancer]

/-- A host joins the other datacenter, before the one that is there; later it leaves. -/
def askedAroundNewcomer : List Operation :=
  let third : Host := { address := ⟨.v4 3, 0⟩, metadata := some { datacenter := some "dc2" } }
  [.plan none ({} : QueryDefaults).options, .distance third,
    .add ⟨.v4 2, 0⟩ (some { datacenter := some "dc2" }), .distance third,
    .plan none ({} : QueryDefaults).options, .report (.hostRemoved ⟨.v4 2, 0⟩), .distance third]

theorem newcomer_answered_anew :
    let c := performAll { balancer := .dcAware oneRemote } twoDatacenters
    (calls c askedAroundNewcomer).map (·.2) = [.plan (.walk [0, 1]), .distance .remote, .distance .ignored,
      .plan (.walk [0, 2]), .distance .remote] ∧
    ∃ d, c.balancer = .dcAware d ∧ (calls c askedAroundNewcomer).map (·.2) =
      d.forget.answersAnew ((calls c askedAroundNewcomer).map (·.1)) := by
  intro c
  have reached : Reached (.dcAware oneRemote) c := ⟨0, twoDatacenters, by simp [twoDatacenters], rfl⟩
  exact ⟨by decide +kernel, answers_anew ⟨rfl, rfl, rfl⟩ reached askedAroundNewcomer⟩

end Cluster

end CqlDispatch
