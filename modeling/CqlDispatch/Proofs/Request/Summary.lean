import Mathlib.Data.List.Dedup
import CqlDispatch.Proofs.Request.Attempts
import CqlDispatch.Proofs.Request.Outcome
/-!
# The summary of a failure

A request that finds no host available, after it sent an attempt at least, fails with its mishaps, the failed
attempts and refused slots, in their order.  As a summary by host this is right if no host let
it down twice, and then only (`summarized_iff_none_twice`): each mishap is kept, where the last of each host was meant
to be, and the message counts them as hosts.
-/
namespace CqlDispatch
namespace Request

/-! ## What ends a request -/

/-- The request ran out of time or was given up. -/
def CutShort (r : Request) : Prop :=
  (∃ limit, r.outcome = some (.failure (.requestTimedOut limit))) ∨ r.outcome = some (.failure .cancelled)

theorem stands_or_cut_move {p : Policies} {s : Shared} {r : Request} {m : Move} {out : Shared × Request}
    (h : Stands r ∨ CutShort r) (hm : r.move? p s m = some out) : Stands out.2 ∨ CutShort out.2 := by
  have live := isLive_of_move hm
  have stands : Stands r := by
    refine h.resolve_right ?_
    rintro (⟨limit, ho⟩ | ho) <;>
    · rw [isLive, ho] at live
      cases live
  cases m with
  | expire =>
    unfold move? at hm
    simp only [live, if_true, Option.ite_none_right_eq_some, Option.some.injEq] at hm
    obtain ⟨-, rfl⟩ := hm
    exact .inr (.inl ⟨_, rfl⟩)
  | cancel =>
    unfold move? at hm
    simp only [live, if_true, Option.some.injEq] at hm
    subst hm
    exact .inr (.inr rfl)
  | answer | resume | speculate => exact .inl (stands_move ⟨Move.noConfusion, Move.noConfusion⟩ stands hm)

/-! ## The summary -/

/-- The hosts that let a request down, each as often as it did. -/
def letDownBy (events : List RequestEvent) : List Address := (mishaps events).map (·.1)

/-- What was last seen to go wrong on a host. -/
def lastMishap? (a : Address) (events : List RequestEvent) : Option String :=
  ((mishaps events).filter (·.1 = a)).getLast?.map (·.2)

/-- One entry for each host that let the request down, with the last that was seen there, and the message counts these
hosts. -/
structure Summarizes (errors : List (Address × String)) (events : List RequestEvent) : Prop where
  once : (errors.map (·.1)).Nodup
  complete : ∀ a, a ∈ errors.map (·.1) ↔ a ∈ letDownBy events
  last : ∀ x ∈ errors, lastMishap? x.1 events = some x.2
  counted : Failure.noHostReason errors = "all " ++ Nat.repr (letDownBy events).dedup.length ++ " tried hosts failed"

theorem filter_of_nodup_keys {x : Address × String} : ∀ {l : List (Address × String)}, (l.map (·.1)).Nodup → x ∈ l →
    l.filter (·.1 = x.1) = [x]
  | y :: l, hn, hx => by
    obtain ⟨hy, hn⟩ := List.nodup_cons.1 hn
    rcases List.mem_cons.1 hx with rfl | hx
    · have none : l.filter (·.1 = x.1) = [] := List.filter_eq_nil_iff.2 fun z hz he =>
        hy (List.mem_map.2 ⟨z, hz, of_decide_eq_true he⟩)
      rw [List.filter_cons_of_pos (by simp), none]
    · have hne : ¬ y.1 = x.1 := fun he => hy (List.mem_map.2 ⟨x, hx, he.symm⟩)
      rw [List.filter_cons_of_neg (by simpa using hne)]
      exact filter_of_nodup_keys hn hx

/-- **All mishaps are a summary of them where no host let down twice, and only there.** -/
theorem mishaps_summarize_iff {events : List RequestEvent} (failed : mishaps events ≠ []) :
    Summarizes (mishaps events) events ↔ (letDownBy events).Nodup := by
  refine ⟨fun h => h.once, fun hn => ⟨hn, fun _ => Iff.rfl, fun x hx => ?_, ?_⟩⟩
  · unfold lastMishap?
    rw [filter_of_nodup_keys hn hx]
    rfl
  · have hempty : (mishaps events).isEmpty = false := by simpa using failed
    have hlength : (letDownBy events).length = (mishaps events).length := List.length_map _
    unfold Failure.noHostReason
    rw [hn.dedup, hlength, hempty, if_neg Bool.false_ne_true]

theorem mem_mishaps {events : List RequestEvent} {x : Address × String} :
    x ∈ mishaps events ↔ ∃ e ∈ events, mishap? e = some x := by
  unfold mishaps
  rw [List.mem_filterMap]
  simp only [List.mem_reverse]

theorem sent_of_mem_attempts {a : Attempt} : ∀ {events : List RequestEvent}, a ∈ attempts events →
    ∃ later earlier, events = later ++ .sent a :: earlier
  | .sent b :: earlier, h => by
    rcases List.mem_cons.1 h with rfl | h
    · exact ⟨[], earlier, rfl⟩
    · obtain ⟨later, earlier, rfl⟩ := sent_of_mem_attempts h
      exact ⟨_ :: later, earlier, rfl⟩
  | .pulled _ _ :: l, h | .ranDry :: l, h | .refused _ _ _ :: l, h | .answered _ _ _ :: l, h | .decided _ _ _ :: l, h
  | .speculated _ :: l, h | .ended _ _ :: l, h => by
    obtain ⟨later, earlier, he⟩ := sent_of_mem_attempts (show a ∈ attempts l from h)
    exact ⟨_ :: later, earlier, congrArg _ he⟩

/-! ## Runs -/

/-- A request that found no host left was told of every failure, or was answered by this one. -/
theorem noHost_cases {r : Request} (h : Stands r ∨ CutShort r) {errors : List (Address × String)}
    (ended : r.outcome = some (.failure (.noHostAvailable errors))) (sent : attempts r.events ≠ []) :
    (∃ i a, .answered i a (.error (.noHostAvailable errors)) ∈ r.events) ∨
      errors = mishaps r.events ∧ mishaps r.events ≠ [] := by
  have stands : Stands r := by
    refine h.resolve_right ?_
    rintro (⟨limit, ho⟩ | ho) <;>
    · rw [ended] at ho
      cases ho
  rcases stands with ⟨-, pending⟩ | ⟨o, latency, history, ho, hev, -, ⟨hv, -⟩ | ⟨rfl, left⟩⟩ | ⟨undecided, -⟩
  · have live := pending.live
    rw [isLive, ended] at live
    cases live
  · obtain rfl := Option.some.inj (ended.symm.trans ho)
    -- A verdict with this failure is an answer with it.
    generalize hw : (Outcome.failure (.noHostAvailable errors)).result = w at hv
    rw [hev]
    cases hv with
    | succeeded | ignored => cases hw
    | hopeless =>
      cases hw
      exact .inl ⟨_, _, List.mem_cons_of_mem _ List.mem_cons_self⟩
    | rethrown =>
      cases hw
      exact .inl ⟨_, _, List.mem_cons_of_mem _ (List.mem_cons_of_mem _ List.mem_cons_self)⟩
  · cases ended.symm.trans ho
    have same : mishaps r.events = mishaps history := by
      rw [hev, mishaps_cons]
      exact List.append_nil _
    refine .inr ⟨same.symm, ?_⟩
    obtain ⟨a, ha⟩ := List.exists_mem_of_ne_nil _ sent
    rw [hev] at ha
    obtain ⟨later, earlier, hs⟩ := sent_of_mem_attempts (show a ∈ attempts history from ha)
    obtain ⟨f, hf⟩ : ∃ f, .answered a.execution a.address (.error f) ∈ history := by
      obtain ⟨newer, between, f, -, ⟨-, rfl⟩ | ⟨level, sameHost, rfl⟩⟩ := left.turnedBack later a earlier hs
      · exact ⟨f, by simp [hs]⟩
      · exact ⟨f, by simp [hs]⟩
    rw [same]
    exact List.ne_nil_of_mem (mem_mishaps.2 ⟨_, hf, rfl⟩)
  · rw [ended] at undecided
    cases undecided

/-- **A request that finds no host left fails with all its mishaps, in their order.**  They are one entry for each host
that let it down, with the last that was seen there and the right count, exactly where no host let it down twice. -/
theorem summarized_iff_none_twice {p : Policies} {s : Shared} {statement : Statement} {options : ExecutionOptions}
    {plan : Plan} {moves : List (Shared × Move)} {r : Request} {errors : List (Address × String)}
    (ran : (startOn p s statement options plan).2.run? p moves = some r)
    (ended : r.outcome = some (.failure (.noHostAvailable errors))) (sent : attempts r.events ≠ []) :
    (∃ i a, .answered i a (.error (.noHostAvailable errors)) ∈ r.events) ∨
      errors = mishaps r.events ∧ (Summarizes errors r.events ↔ (letDownBy r.events).Nodup) := by
  have kept : Stands r ∨ CutShort r := run?_keeps (I := fun r => Stands r ∨ CutShort r) (A := fun _ => True)
    (fun _ h hm => stands_or_cut_move h hm) (fun _ _ => trivial) (.inl (stands_start p s statement options plan)) ran
  refine (noHost_cases kept ended sent).imp_right ?_
  rintro ⟨rfl, failed⟩
  exact ⟨rfl, mishaps_summarize_iff failed⟩

/-- The connection breaks under the first attempt, and under the second to the other host. -/
def bothLost : List (Shared × Move) :=
  [(twoHosts, .answer 0 (.error (.connection "reset"))), (twoHosts, .answer 0 (.error (.connection "refused")))]

/-- An attempt came back with the news that no host was available. -/
def saysNoHost : RequestEvent → Bool
  | .answered _ _ (.error (.noHostAvailable _)) => true
  | _ => false

theorem both_hosts_summarized : ∃ r errors,
    (startOn { balancer := .roundRobin none 0 } twoHosts { query := "SELECT" } ({} : QueryDefaults).options
      (.listed [0, 1])).2.run? { balancer := .roundRobin none 0 } bothLost = some r ∧
    r.outcome = some (.failure (.noHostAvailable errors)) ∧ attempts r.events ≠ [] ∧
    errors.map (·.1) = [⟨.v4 1, 0⟩, ⟨.v4 2, 0⟩] ∧ Summarizes errors r.events := by
  obtain ⟨r, errors, ran, ended, sent, hosts, once, others⟩ : ∃ r errors,
      (startOn { balancer := .roundRobin none 0 } twoHosts { query := "SELECT" } ({} : QueryDefaults).options
        (.listed [0, 1])).2.run? { balancer := .roundRobin none 0 } bothLost = some r ∧
      r.outcome = some (.failure (.noHostAvailable errors)) ∧ attempts r.events ≠ [] ∧
      errors.map (·.1) = [⟨.v4 1, 0⟩, ⟨.v4 2, 0⟩] ∧ (letDownBy r.events).Nodup ∧
      ∀ e ∈ r.events, saysNoHost e = false := by
    refine ⟨_, _, rfl, rfl, ?_⟩
    exact ⟨List.cons_ne_nil _ _, rfl, by decide +kernel, by decide +kernel⟩
  refine ⟨r, errors, ran, ended, sent, hosts, ?_⟩
  rcases summarized_iff_none_twice ran ended sent with ⟨i, a, hm⟩ | ⟨-, iff⟩
  · cases others _ hm
  · exact iff.2 once

/-- A read times out and is tried again on the only host, where the connection breaks. -/
def lostTwice : List (Shared × Move) :=
  [(oneHost, .answer 0 (.error (.readTimeout .one 1 1 false))), (oneHost, .answer 0 (.error (.connection "reset")))]

theorem retried_host_listed_twice : ¬ ∀ (p : Policies) (s : Shared) (statement : Statement)
    (options : ExecutionOptions) (plan : Plan) (moves : List (Shared × Move)) (r : Request)
    (errors : List (Address × String)), (startOn p s statement options plan).2.run? p moves = some r →
      r.outcome = some (.failure (.noHostAvailable errors)) → attempts r.events ≠ [] → Summarizes errors r.events := by
  intro claim
  have summarizes := claim { balancer := .roundRobin none 0 } oneHost { query := "SELECT" }
    ({} : QueryDefaults).options (.listed [0]) lostTwice _ _ rfl rfl (List.cons_ne_nil _ _)
  exact absurd summarizes.once (by decide)

end Request

end CqlDispatch
