import Mathlib.Data.List.Induction
import CqlDispatch.Proofs.Cluster.Ranking
/-!
# Plans that outlive their ranks

A plan is ranked as it is made, and never again: a pull asks whether a host is up, not what distance it has by
then (`pull_reranked`).  So a host that the balancer has come to ignore in the meantime is yielded all the same.
It takes an operation that demotes the host under a new version, after the plan was made and with no promotion
behind it, and nothing else can bring it about (`yielded_ignored_iff_demoted`).
-/
namespace CqlDispatch

namespace Plan

open Registry (Reranked)

theorem step_reranked {r r' : Registry} (k : Reranked r r') : ∀ p : Plan, p.step r' = p.step r
  | listed [] | listed (_ :: _) | walk [] => rfl
  | walk (h :: rest) | replicasFirst [] (h :: _) _ => by
    unfold step ifUp
    rw [k.isUp]
  | among allowed inner => by
    unfold step
    rw [step_reranked k inner]
    simp only [k.address]
  | replicasFirst [] [] inner => by
    unfold step
    rw [step_reranked k inner]
  | replicasFirst (a :: pending) deferred inner => by
    unfold step
    rw [step_reranked k inner]
    simp only [k.address]

/-- **A pull does not read distances.** -/
theorem pull_reranked {r r' : Registry} (k : Reranked r r') (p : Plan) : p.pull r' = p.pull r := by
  have within : ∀ (n : Nat) (p : Plan), pullWithin r' n p = pullWithin r n p := by
    intro n
    induction n with
    | zero => exact fun _ => rfl
    | succ n ih =>
      intro p
      unfold pullWithin
      rw [step_reranked k]
      simp only [ih]
  exact within p.size p

end Plan

namespace Cluster

/-! ## Where turns lead to -/

def Turn.operation? : Turn → Option Operation
  | .operate o => some o
  | .pull => none

def operations (turns : List Turn) : List Operation := turns.filterMap Turn.operation?

/-- The cluster after turns, and what is left of the plan. -/
def reach (c : Cluster) (p : Plan) : List Turn → Cluster × Plan
  | [] => (c, p)
  | .operate o :: turns => reach (c.perform o) p turns
  | .pull :: turns => reach c (p.pull c.registry).2 turns

theorem reach_fst : ∀ (turns : List Turn) (c : Cluster) (p : Plan),
    (reach c p turns).1 = c.performAll (operations turns)
  | [], _, _ => rfl
  | .operate o :: turns, c, _ => reach_fst turns (c.perform o) _
  | .pull :: turns, c, _ => reach_fst turns c _

theorem UnderWay.reach {made : Registry} : ∀ (turns : List Turn) {c : Cluster} {p : Plan}, UnderWay made c p →
    UnderWay made (reach c p turns).1 (reach c p turns).2
  | [], _, _, u => u
  | .operate o :: turns, _, _, u => UnderWay.reach turns (u.operate o)
  | .pull :: turns, _, _, u => UnderWay.reach turns u.pulled

/-- What a plan still offers after turns was on offer before. -/
theorem UnderWay.offers_reach {made : Registry} {h : HostId} : ∀ (turns : List Turn) {c : Cluster} {p : Plan},
    UnderWay made c p → h ∈ (Cluster.reach c p turns).2.offers made → h ∈ p.offers made
  | [], _, _, _, hm => hm
  | .operate o :: turns, _, _, u, hm => offers_reach turns (u.operate o) hm
  | .pull :: turns, _, _, u, hm => by
    obtain ⟨-, -, -, passed, -, hperm⟩ := u.offered
    have hleft := offers_reach turns u.pulled hm
    exact hperm.mem_iff.2 (List.mem_append_right _ (List.mem_append_right _ hleft))

/-- A plan that was just made is under way, and offers what its balancer does not ignore. -/
theorem Settled.underWay {c c' : Cluster} (settled : c.Settled) {keyspace : Option String}
    {options : ExecutionOptions} {p : Plan} (hp : c.plan keyspace options = (p, c')) :
    UnderWay c.registry c' p ∧ (p.offers c.registry).Perm (c.balancer.eligible c.registry) := by
  have hplan : p = (c.balancer.plan c.registry keyspace options).1 := (congrArg Prod.fst hp).symm
  have hsame : c'.registry = c.registry := (congrArg (·.2.registry) hp).symm
  obtain ⟨hcare, hperm⟩ := Balancer.plan_offers settled.wellFormed keyspace options settled.bound
  rw [← hplan] at hcare hperm
  refine ⟨⟨?_, ?_, hcare⟩, hperm⟩
  · rw [hsame]
    exact settled.wellFormed
  · rw [hsame]
    exact .refl _

/-! ## Demotions -/

/-- **A registered host changes its rank under a new version only.** -/
theorem version_of_rank_ne {c c' : Cluster} (hc : Changes c c') (settled : c.Settled) (ranked : c.Ranked)
    (ranked' : c'.Ranked) {h : HostId} (hm : h ∈ c.registry.topology.ids) (hm' : h ∈ c'.registry.topology.ids)
    (hne : (c'.registry.host h).distance ≠ (c.registry.host h).distance) :
    c.registry.topology.version < c'.registry.topology.version := by
  by_contra hlt
  have same := (hc.topology_cases settled.wellFormed).resolve_left hlt
  refine hne ?_
  rw [(settled.changes hc).ranked_iff.1 ranked' h hm', settled.ranked_iff.1 ranked h hm]
  exact hc.rank_eq settled (congrArg Topology.version same.1) h

/-- A host that is up is registered, and was so ever since it was first. -/
theorem mem_ids_of_up {c c' : Cluster} (hc : Changes c c') (w : c.registry.WellFormed)
    (accounted : c'.registry.Accounted) {h : HostId} (known : h < c.registry.hosts.length)
    (up : c'.registry.isUp h = true) : h ∈ c.registry.topology.ids := by
  by_contra gone
  have departed := (hc.keeps_registry (I := fun r => r.Departed h) (fun w gone hstep => gone.change w hstep) w
    ⟨known, gone⟩).2
  have removed := (accounted h departed.1).resolve_left departed.2
  unfold Registry.isUp Host.isUp at up
  rw [removed] at up
  cases up

/-- The operation demotes the host: from a rank that plans count to one that they ignore, under a new version. -/
structure Demotes (c : Cluster) (o : Operation) (h : HostId) : Prop where
  counted : (c.registry.host h).distance ≠ .ignored
  ignored : ((c.perform o).registry.host h).distance = .ignored
  version : c.registry.topology.version < (c.perform o).registry.topology.version

/-- One of the operations demotes the host, and none that follows promotes it again. -/
def DemotedIn (c : Cluster) (ops : List Operation) (h : HostId) : Prop :=
  ∃ before o after, ops = before ++ o :: after ∧ Demotes (c.performAll before) o h ∧
    ∀ pre, pre <+: after → ((c.performAll (before ++ o :: pre)).registry.host h).distance = .ignored

/-- **A host that counted, and is ignored at the end, was demoted on the way**: by the last operation before which
it counted. -/
theorem demotedIn_of_ignored {c : Cluster} (ranking : c.Ranking) (ranked : c.Ranked) {h : HostId}
    (counted : (c.registry.host h).distance ≠ .ignored) : ∀ ops : List Operation,
    (∀ o ∈ ops, o.leavesRanking = true) → (∀ pre, pre <+: ops → h ∈ (c.performAll pre).registry.topology.ids) →
      ((c.performAll ops).registry.host h).distance = .ignored → DemotedIn c ops h := by
  intro ops
  induction ops using List.reverseRecOn with
  | nil => exact fun _ _ ignored => absurd ignored counted
  | append_singleton ops o ih =>
    intro leaves known ignored
    have earlier : ∀ o' ∈ ops, o'.leavesRanking = true := fun o' ho' => leaves o' (List.mem_append_left _ ho')
    by_cases hbefore : ((c.performAll ops).registry.host h).distance = .ignored
    · obtain ⟨before, o₁, after, rfl, demotes, stays⟩ := ih earlier
        (fun pre hpre => known pre (hpre.trans (List.prefix_append _ _))) hbefore
      refine ⟨before, o₁, after ++ [o], by simp, demotes, fun pre hpre => ?_⟩
      rcases List.prefix_concat_iff.1 hpre with rfl | hpre
      · rw [← List.cons_append, ← List.append_assoc]
        exact ignored
      · exact stays pre hpre
    · have run := Ranking.performAll ops ranking earlier
      have last : c.performAll (ops ++ [o]) = (c.performAll ops).perform o := performAll_append c ops [o]
      have step := run.ranking.perform (leaves o (by simp))
      have hfirst := run.ranked ranking.settled ranked
      have hm := known ops (List.prefix_append _ _)
      have hm' := known (ops ++ [o]) List.prefix_rfl
      rw [last] at ignored hm'
      refine ⟨ops, o, [], rfl, ⟨hbefore, ignored, ?_⟩, fun pre hpre => ?_⟩
      · exact version_of_rank_ne step.changes run.ranking.settled hfirst (step.ranked run.ranking.settled hfirst) hm
          hm' fun he => hbefore (he ▸ ignored)
      · rw [List.prefix_nil.1 hpre, last]
        exact ignored

/-! ## What a pull yields -/

/-- A cluster whose hosts were ranked by its balancer, as operations have left it that did not rank them by a rule
of their own. -/
def Classified (b : Balancer) (c : Cluster) : Prop :=
  ∃ c₀ o later, Reached b c₀ ∧ c₀.AsksAll o ∧ (∀ o' ∈ later, o'.leavesRanking = true) ∧
    c = (c₀.perform o).performAll later

theorem Reached.classified {b : Balancer} {c : Cluster} (reached : Reached b c) {o : Operation}
    (asks : c.AsksAll o) : Classified b (c.perform o) := by
  refine ⟨c, o, [], reached, asks, fun _ hm => ?_, ?_⟩
  · cases hm
  · exact rfl

theorem Classified.ranked {b : Balancer} (fresh : b.Fresh) {c : Cluster} (classified : Classified b c) :
    c.Ranking ∧ c.Ranked ∧ Built c := by
  obtain ⟨c₀, o, later, reached, asks, leaves, rfl⟩ := classified
  obtain ⟨start, ranked⟩ := asks.ranked (reached.settled fresh)
  have run := Ranking.performAll later start leaves
  obtain ⟨id, ops, -, rfl⟩ := reached
  exact ⟨run.ranking, run.ranked start.settled ranked, ((Built.empty.performAll ops).perform o).performAll later⟩

/-- **A pull yields an ignored host exactly where the plan was made before the host was demoted.**  The balancer is
any stack of layers that was initialized and has ranked the hosts; a plan is made, and pulled while operations go
on that leave the ranks to the balancer.  Then a host that a pull yields counted when the plan was made, and is
registered.  It is ignored at the pull if and only if an operation since then has demoted it, under a new version
of the topology, and none has promoted it again.  And the pull cannot tell: it yields the same, and leaves the same
of the plan, whatever the distances of the hosts are. -/
theorem yielded_ignored_iff_demoted {b : Balancer} (fresh : b.Fresh) {c : Cluster} (classified : Classified b c)
    (keyspace : Option String) (options : ExecutionOptions) {p : Plan} {c' : Cluster}
    (hp : c.plan keyspace options = (p, c')) (turns : List Turn)
    (leaves : ∀ o ∈ operations turns, o.leavesRanking = true) {d : Cluster} {q : Plan}
    (hd : reach c' p turns = (d, q)) {h : HostId} (yielded : (q.pull d.registry).1 = some h) :
    (c.registry.host h).distance ≠ .ignored ∧ h ∈ d.registry.topology.ids ∧
      ((d.registry.host h).distance = .ignored ↔ DemotedIn c' (operations turns) h) ∧
      ∀ r, Registry.Reranked d.registry r → q.pull r = q.pull d.registry := by
  obtain ⟨ranking, ranked, built⟩ := classified.ranked fresh
  have settled := ranking.settled
  have hc' : c' = c.perform (.plan keyspace options) := (congrArg Prod.snd hp).symm
  have planned : Keeps c c' := hc' ▸ ranking.perform rfl
  have same : c'.registry = c.registry := hc' ▸ rfl
  obtain ⟨u, offers⟩ := settled.underWay hp
  have hrun : d = c'.performAll (operations turns) := by
    rw [← reach_fst turns c' p, hd]
  have now := u.reach turns
  rw [hd] at now
  obtain ⟨-, up, -, passed, -, hperm⟩ := now.offered
  have offered : h ∈ p.offers c.registry := by
    refine u.offers_reach turns ?_
    rw [hd]
    exact hperm.mem_iff.2 (List.mem_append_right _ (List.mem_append_left _ (by simp [yielded])))
  obtain ⟨member, rank⟩ := Balancer.mem_eligible.1 (offers.mem_iff.1 offered)
  have counted : (c.registry.host h).distance ≠ .ignored := ranked h member ▸ rank
  have accounted : d.registry.Accounted := by
    rw [hrun, hc']
    exact ((built.perform _).performAll _).accounted
  -- Up to the pull the host was registered, for it is up, and who leaves does not come back.
  have known : ∀ pre, pre <+: operations turns → h ∈ (c'.performAll pre).registry.topology.ids := by
    rintro pre ⟨post, hsplit⟩
    have hpast := performAll_changes pre c'
    have hfuture : Changes (c'.performAll pre) d := by
      rw [hrun, ← hsplit, performAll_append]
      exact performAll_changes post _
    have w := hpast.wellFormed planned.ranking.settled.wellFormed
    have hlt : h < (c'.performAll pre).registry.hosts.length :=
      Nat.lt_of_lt_of_le (same ▸ settled.wellFormed.lt_of_mem member)
        (hpast.extends planned.ranking.settled.wellFormed).length
    exact mem_ids_of_up hfuture w accounted hlt (up h yielded)
  refine ⟨counted, hrun ▸ known _ List.prefix_rfl, ⟨fun ignored => ?_, ?_⟩, fun r k => Plan.pull_reranked k q⟩
  · rw [hrun] at ignored
    exact demotedIn_of_ignored planned.ranking (planned.ranked settled ranked) (same ▸ counted) _ leaves known ignored
  · rintro ⟨before, o, after, hsplit, -, stays⟩
    rw [hrun, hsplit]
    exact stays after List.prefix_rfl

/-- A host joins a datacenter, before the one host of it that the plan has, and the plan is pulled once. -/
def overtaken : List Turn := [.operate (.add ⟨.v4 2, 0⟩ (some { datacenter := some "dc2" })), .pull]

/-- Two datacenters, the hosts ranked by the balancer. -/
def twoRanked : Cluster :=
  (performAll { balancer := .dcAware oneRemote } twoDatacenters).perform (.classifyBy .balancer)

theorem twoRanked_classified : Classified (.dcAware oneRemote) twoRanked := by
  have reached : Reached (.dcAware oneRemote) (performAll { balancer := .dcAware oneRemote } twoDatacenters) :=
    ⟨0, twoDatacenters, by simp [twoDatacenters], rfl⟩
  exact reached.classified (.inl rfl)

theorem overtaken_host_demoted :
    let made := twoRanked.plan none ({} : QueryDefaults).options
    let there := reach made.2 made.1 overtaken
    (there.2.pull there.1.registry).1 = some 1 ∧ (there.1.registry.host 1).distance = .ignored ∧
      DemotedIn made.2 (operations overtaken) 1 := by
  intro made there
  have yielded : (there.2.pull there.1.registry).1 = some 1 := by decide +kernel
  have ignored : (there.1.registry.host 1).distance = .ignored := by decide +kernel
  have fresh : (Balancer.dcAware oneRemote).Fresh := ⟨rfl, rfl, rfl⟩
  have hmade : twoRanked.plan none ({} : QueryDefaults).options = (made.1, made.2) := rfl
  have hthere : reach made.2 made.1 overtaken = (there.1, there.2) := rfl
  obtain ⟨-, -, demoted, -⟩ := yielded_ignored_iff_demoted fresh twoRanked_classified none
    ({} : QueryDefaults).options hmade overtaken (by decide) hthere yielded
  exact ⟨yielded, ignored, demoted.1 ignored⟩

theorem ignored_host_yielded : ¬ ∀ (b : Balancer) (c : Cluster) (keyspace : Option String)
    (options : ExecutionOptions) (turns : List Turn), b.Fresh → Classified b c →
      (∀ o ∈ operations turns, o.leavesRanking = true) →
        let made := c.plan keyspace options
        let there := reach made.2 made.1 turns
        ∀ h, (there.2.pull there.1.registry).1 = some h → (there.1.registry.host h).distance ≠ .ignored := by
  intro never
  exact never (.dcAware oneRemote) twoRanked none ({} : QueryDefaults).options overtaken ⟨rfl, rfl, rfl⟩
    twoRanked_classified (by decide) 1 (by decide +kernel) (by decide +kernel)

end Cluster

end CqlDispatch
