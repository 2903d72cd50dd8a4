import CqlDispatch.Proofs.Client.Ended
import CqlDispatch.Proofs.Request.Calls
/-!
# Meters of a running client

What a client calls its meters for is what its requests report, and how many hosts are up (`Counted.calls`).  Every
request reports its end once, and each decision and each further execution as the step takes place that brings it, so
the meters after a run reconcile with the requests and with the steps of the run (`meters_reconcile`).
-/
namespace CqlDispatch
namespace Client

/-! ## Steps -/

/-- What the retry policy decides in a step, if it is asked. -/
def decision? (c : Client) (act : Action) : Option Decision := do
  let (n, m) ← act.move?
  let r ← c.request? n
  r.decision? c.policies m

/-- A further execution of a request is started in a step. -/
def startsCopy (c : Client) (act : Action) : Bool :=
  match act.move? with
  | some (n, m) => (c.request? n).any fun r => r.startsCopy c.registry m
  | none => false

def Action.isSubmit : Action → Bool
  | .submit _ _ => true
  | _ => false

/-- The labels of the decisions of a run, the newest first. -/
def decisions (past : List (Client × Action)) : List String :=
  (past.filterMap fun x => x.1.decision? x.2).map (·.label)

/-- How many further executions were started in a run. -/
def copies (past : List (Client × Action)) : Nat := past.countP fun x => x.1.startsCopy x.2

/-- How many requests were made in a run. -/
def submitted (past : List (Client × Action)) : Nat := past.countP fun x => x.2.isSubmit

section Step

variable {past : List (Client × Action)} {c : Client} {act : Action}

theorem decisions_cons :
    decisions ((c, act) :: past) = ((c.decision? act).map (·.label)).toList ++ decisions past := by
  unfold decisions
  rw [List.filterMap_cons]
  cases c.decision? act <;> rfl

theorem copies_cons : copies ((c, act) :: past) = copies past + (c.startsCopy act).toNat := by
  unfold copies
  rw [List.countP_cons]
  cases c.startsCopy act <;> rfl

theorem submitted_cons : submitted ((c, act) :: past) = submitted past + act.isSubmit.toNat := by
  unfold submitted
  rw [List.countP_cons]
  cases act.isSubmit <;> rfl

theorem decision?_of_move {n : Nat} {m : Request.Move} {r : Request} (hmove : act.move? = some (n, m))
    (found : c.request? n = some r) : c.decision? act = r.decision? c.policies m := by
  show (act.move?.bind fun x => (c.request? x.1).bind fun r => r.decision? c.policies x.2) = _
  rw [hmove]
  show ((c.request? n).bind fun r => r.decision? c.policies m) = _
  rw [found]
  rfl

theorem startsCopy_of_move {n : Nat} {m : Request.Move} {r : Request} (hmove : act.move? = some (n, m))
    (found : c.request? n = some r) : c.startsCopy act = r.startsCopy c.registry m := by
  unfold startsCopy
  rw [hmove]
  show ((c.request? n).any fun r => r.startsCopy c.registry m) = _
  rw [found]
  rfl

theorem decision?_of_apart (hmove : act.move? = none) : c.decision? act = none := by
  show (act.move?.bind fun x => (c.request? x.1).bind fun r => r.decision? c.policies x.2) = none
  rw [hmove]
  rfl

theorem startsCopy_of_apart (hmove : act.move? = none) : c.startsCopy act = false := by
  unfold startsCopy
  rw [hmove]

end Step

/-! ## What is counted -/

/-- The calls of a client are those of its requests, and how many hosts are up; the decisions and the further
executions that the requests report are those of the past. -/
structure Counted (past : List (Client × Action)) (c : Client) : Prop where
  reports : ∀ r ∈ c.requests, ∃ labels number, r.Reports labels number
  calls : ∃ gauges : List MetricCall, (∀ x ∈ gauges, ∃ n, x = .hostsUp n) ∧
    (c.journal.filterMap (·.event.metric?)).Perm (gauges ++ c.requests.flatMap (·.calls))
  decisions : (c.requests.flatMap fun r => r.calls.filterMap (·.decision?)).Perm (decisions past)
  copies : (c.requests.map (·.speculated)).sum = copies past
  submitted : c.requests.length = submitted past

namespace Counted

variable {past : List (Client × Action)} {c c' : Client} {act : Action}

/-- No request took a step. -/
theorem quiet (k : Counted past c) (hmove : act.move? = none) (old : act.isSubmit = false)
    (requests : c'.requests = c.requests) {new : List (Moment ClientEvent)} (journal : c'.journal = new ++ c.journal)
    (hnew : ∀ x ∈ new, ∀ n e, x.event ≠ .request n e) : Counted ((c, act) :: past) c' := by
  obtain ⟨gauges, hgauges, hcalls⟩ := k.calls
  refine ⟨requests ▸ k.reports, ⟨new.filterMap (·.event.metric?) ++ gauges, fun x hx => ?_, ?_⟩, ?_, ?_, ?_⟩
  · rcases List.mem_append.1 hx with hx | hx
    · obtain ⟨m, hm, he⟩ := List.mem_filterMap.1 hx
      cases hevent : m.event with
      | request n e => exact absurd hevent (hnew m hm n e)
      | probe n a =>
        rw [hevent] at he
        cases he
      | hostsUp n =>
        rw [hevent] at he
        cases he
        exact ⟨n, rfl⟩
    · exact hgauges x hx
  · rw [journal, requests, List.filterMap_append, List.append_assoc]
    exact hcalls.append_left _
  · rw [requests, decisions_cons, decision?_of_apart hmove]
    exact k.decisions
  · rw [requests, copies_cons, startsCopy_of_apart hmove]
    exact k.copies
  · rw [requests, submitted_cons, old]
    exact k.submitted

/-- The calls that are noted of a request. -/
theorem metric_of_request (n : Nat) (fresh : List (Moment RequestEvent)) :
    ((fresh.map fun m => (⟨m.time, .request n m.event⟩ : Moment ClientEvent)).filterMap (·.event.metric?)) =
      fresh.filterMap (·.event.metric?) := List.filterMap_map

/-- A request makes a move. -/
theorem moved (k : Counted past c) {n : Nat} {m : Request.Move} {r : Request} {out : Shared × Request}
    (hmove : act.move? = some (n, m)) (old : act.isSubmit = false) (found : c.request? n = some r)
    (hout : r.move? c.policies c.shared m = some out) :
    Counted ((c, act) :: past) (c.putBack n r.trace.length out) := by
  obtain ⟨hlt, hr⟩ := List.getElem?_eq_some_iff.1 found
  obtain ⟨gauges, hgauges, hcalls⟩ := k.calls
  obtain ⟨labels, number, reports⟩ := k.reports r (List.mem_of_getElem? found)
  have after := reports.move hout
  obtain ⟨fresh, hfresh⟩ := Request.trace_move hout
  have out_calls : out.2.calls = fresh.filterMap (·.event.metric?) ++ r.calls := by
    unfold Request.calls
    rw [hfresh, List.filterMap_append]
  -- The others stay as they are.
  have before : c.requests.Perm (r :: c.requests.eraseIdx n) := hr ▸ (List.getElem_cons_eraseIdx_perm hlt).symm
  have later : (c.putBack n r.trace.length out).requests.Perm (out.2 :: c.requests.eraseIdx n) :=
    List.set_perm_cons_eraseIdx hlt out.2
  refine ⟨fun q hq => ?_, ⟨gauges, hgauges, ?_⟩, ?_, ?_, ?_⟩
  · rcases List.mem_or_eq_of_mem_set hq with hq | rfl
    · exact k.reports q hq
    · exact ⟨_, _, after⟩
  · rw [journal_putBack fresh hfresh, List.filterMap_append, metric_of_request]
    have hbefore := before.flatMap_right Request.calls
    have hlater := later.flatMap_right Request.calls
    rw [List.flatMap_cons] at hbefore hlater
    rw [out_calls, List.append_assoc] at hlater
    refine (hcalls.append_left _).trans ?_
    refine List.Perm.trans ?_ (hlater.symm.append_left gauges)
    rw [← List.append_assoc, ← List.append_assoc]
    exact List.perm_append_comm.append hbefore
  · have hbefore := before.flatMap_right fun r => r.calls.filterMap (·.decision?)
    have hlater := later.flatMap_right fun r => r.calls.filterMap (·.decision?)
    rw [List.flatMap_cons] at hbefore hlater
    rw [reports.decisions] at hbefore
    rw [after.decisions, List.append_assoc] at hlater
    rw [decisions_cons, decision?_of_move hmove found]
    exact hlater.trans ((hbefore.symm.trans k.decisions).append_left _)
  · have hbefore := (before.map (·.speculated)).sum_nat
    have hlater := (later.map (·.speculated)).sum_nat
    have hcopies := k.copies
    rw [List.map_cons, List.sum_cons] at hbefore hlater
    rw [reports.speculated] at hbefore
    rw [after.speculated] at hlater
    have hcopy : r.startsCopy c.shared.cluster.registry m = c.startsCopy act := (startsCopy_of_move hmove found).symm
    rw [copies_cons, hlater, hcopy]
    omega
  · rw [submitted_cons, old]
    exact (List.length_set ..).trans k.submitted

/-- A request is made. -/
theorem submit (k : Counted past c) (statement : Statement) (options : ExecutionOptions) :
    Counted ((c, .submit statement options) :: past) (c.submit statement options) := by
  have reports : Request.Reports [] 0 (Request.start c.policies c.shared statement options).2 :=
    Request.reports_start _ _ _ _
  have requests := requests_submit c statement options
  obtain ⟨gauges, hgauges, hcalls⟩ := k.calls
  refine ⟨fun q hq => ?_, ⟨gauges, hgauges, ?_⟩, ?_, ?_, ?_⟩
  · rw [requests, List.mem_append, List.mem_singleton] at hq
    rcases hq with hq | rfl
    · exact k.reports q hq
    · exact ⟨_, _, reports⟩
  · have hfresh : freshTrace 0 (Request.start c.policies c.shared statement options).2 =
        (Request.start c.policies c.shared statement options).2.trace := List.take_length
    have journal : (c.submit statement options).journal =
        (freshTrace 0 (Request.start c.policies c.shared statement options).2).map
          (fun m => ⟨m.time, .request c.requests.length m.event⟩) ++ c.journal := rfl
    rw [journal, hfresh, requests, List.filterMap_append, metric_of_request, List.flatMap_append,
      List.flatMap_singleton, ← List.append_assoc]
    exact (hcalls.append_left _).trans List.perm_append_comm
  · rw [requests, List.flatMap_append, List.flatMap_singleton, reports.decisions, List.append_nil, decisions_cons]
    exact k.decisions
  · rw [requests, List.map_append, List.sum_append, copies_cons]
    exact congrArg₂ (· + ·) k.copies reports.speculated
  · rw [requests, List.length_append, submitted_cons]
    exact congrArg (· + 1) k.submitted

/-- **Every step is counted.** -/
theorem step (k : Counted past c) (h : c.step? act = some c') : Counted ((c, act) :: past) c' := by
  have moved : ∀ {n m}, act.move? = some (n, m) → act.isSubmit = false → Counted ((c, act) :: past) c' := by
    intro n m hmove old
    obtain ⟨r, out, found, -, hout, rfl⟩ := step?_move hmove h
    exact k.moved hmove old found hout
  cases act with
  | submit statement options =>
    cases h
    exact k.submit statement options
  | answer | resume | speculate | expire | cancel => exact moved rfl rfl
  | _ =>
    obtain ⟨requests, new, journal, hnew⟩ := step?_quiet rfl (fun _ _ => Action.noConfusion) h
    exact k.quiet rfl rfl requests journal hnew

end Counted

theorem counted_connect {policies : Policies} {defaults : QueryDefaults} {limits : Limits} {contacts : List Address}
    {report : Except Failure (List Translated)} {c : Client} (h : connect policies defaults limits contacts report = .ok c) :
    Counted [] c := by
  rw [connect_eq h]
  refine ⟨fun r hr => absurd hr List.not_mem_nil, ⟨[.hostsUp _], fun x hx => ?_, .refl _⟩, .nil, rfl, rfl⟩
  exact ⟨_, List.mem_singleton.1 hx⟩

/-! ## What the meters show -/

/-- What the meters of a client show after a run. -/
structure Reading (past : List (Client × Action)) (c : Client) (m : Meters) : Prop where
  /-- The requests that ended so, with a result or with an error. -/
  requests : ∀ outcome, (m.requests.find? outcome).getD 0 =
    (c.requests.filterMap (·.outcome.map (·.name))).count outcome
  /-- All that have ended. -/
  ended : Meters.total m.requests = c.requests.countP (·.outcome.isSome)
  /-- All that were made, once each has ended. -/
  made : (∀ r ∈ c.requests, r.outcome.isSome) → Meters.total m.requests = submitted past
  /-- The histogram of an outcome has counted as many latencies, and so its last bucket and its count show. -/
  latencies : ∀ outcome h, (outcome, h) ∈ m.durations → m.requests.find? outcome = some h.count ∧
    { suffix := "_bucket", labels := [("outcome", outcome), ("le", "+Inf")], value := Exposition.countText h.count } ∈
        Exposition.histogramSamples outcome h ∧
      { suffix := "_count", labels := [("outcome", outcome)], value := Exposition.countText h.count } ∈
        Exposition.histogramSamples outcome h
  histograms : m.durations.map (·.1) = m.requests.map (·.1)
  /-- The requests that ended with an error of this kind. -/
  errors : ∀ kind, (m.errors.find? kind).getD 0 = (c.requests.filterMap (·.outcome.bind (·.kind?))).count kind
  failed : Meters.total m.errors = (m.requests.find? "error").getD 0
  /-- The decisions of the retry policy with this label. -/
  retries : ∀ label, (m.retries.find? label).getD 0 = (decisions past).count label
  /-- The further executions that were started, of all requests together. -/
  speculative : m.speculative = copies past ∧ m.speculative = (c.requests.map (·.speculated)).sum

namespace Counted

variable {past : List (Client × Action)} {c : Client}

theorem metrics_perm (k : Counted past c) : ∃ gauges : List MetricCall, (∀ x ∈ gauges, ∃ n, x = .hostsUp n) ∧
    c.metrics.Perm (gauges ++ c.requests.flatMap (·.calls)) := by
  obtain ⟨gauges, hgauges, hcalls⟩ := k.calls
  refine ⟨gauges, hgauges, ?_⟩
  unfold metrics
  rw [List.filterMap_reverse]
  exact (List.reverse_perm _).trans hcalls

/-- What the calls of a client name is what its requests report. -/
theorem named (k : Counted past c) {f : MetricCall → Option String} (ungauged : ∀ n, f (.hostsUp n) = none) :
    (c.metrics.filterMap f).Perm (c.requests.flatMap fun r => r.calls.filterMap f) := by
  obtain ⟨gauges, hgauges, hmetrics⟩ := k.metrics_perm
  have hnone : gauges.filterMap f = [] := List.filterMap_eq_nil_iff.2 fun x hx => by
    obtain ⟨n, rfl⟩ := hgauges x hx
    exact ungauged n
  have hnamed := hmetrics.filterMap f
  rwa [List.filterMap_append, hnone, List.nil_append, List.filterMap_flatMap] at hnamed

/-- What each request reports of its end is what it ended with. -/
theorem flatMap_ends (k : Counted past c) {f : MetricCall → Option String} {g : Request → Option String}
    (ends : ∀ {r labels number}, Request.Reports labels number r → r.calls.filterMap f = (g r).toList) :
    (c.requests.flatMap fun r => r.calls.filterMap f) = c.requests.filterMap g := by
  rw [List.filterMap_eq_flatMap_toList]
  refine List.flatMap_congr fun r hr => ?_
  obtain ⟨labels, number, reports⟩ := k.reports r hr
  exact ends reports

theorem ends (k : Counted past c) :
    (c.metrics.filterMap (·.outcome?)).Perm (c.requests.filterMap fun r => r.outcome.map (·.name)) :=
  k.flatMap_ends (fun reports => reports.outcomes) ▸ k.named fun _ => rfl

theorem kinds (k : Counted past c) :
    (c.metrics.filterMap (·.kind?)).Perm (c.requests.filterMap fun r => r.outcome.bind (·.kind?)) :=
  k.flatMap_ends (fun reports => reports.kinds) ▸ k.named fun _ => rfl

theorem started (k : Counted past c) :
    c.metrics.countP (·.isSpeculative) = (c.requests.map (·.speculated)).sum := by
  obtain ⟨gauges, hgauges, hmetrics⟩ := k.metrics_perm
  have hnone : gauges.countP (·.isSpeculative) = 0 := List.countP_eq_zero.2 fun x hx => by
    obtain ⟨n, rfl⟩ := hgauges x hx
    exact Bool.false_ne_true
  rw [hmetrics.countP_eq, List.countP_append, hnone, Nat.zero_add, List.countP_flatMap]
  refine congrArg List.sum (List.map_congr_left fun r hr => ?_)
  obtain ⟨labels, number, reports⟩ := k.reports r hr
  exact reports.copies.trans reports.speculated.symm

/-- **The meters show what was counted.** -/
theorem reading (k : Counted past c) : Reading past c (Meters.ofCalls c.metrics) := by
  have tallied := Meters.tallied_ofCalls c.metrics
  have ended : Meters.total (Meters.ofCalls c.metrics).requests = c.requests.countP (·.outcome.isSome) := by
    rw [tallied.requests, Meters.total_tally, k.ends.length_eq, List.length_filterMap_eq_countP]
    exact List.countP_congr fun r _ => by rw [Option.isSome_map]
  refine ⟨fun outcome => ?_, ended, fun done => ?_, fun outcome h hm => ?_, ?_, fun kind => ?_, tallied.failed,
    fun label => ?_, ?_, ?_⟩
  · rw [tallied.requests, Meters.count_tally, k.ends.count_eq]
  · rw [ended, List.countP_eq_length.2 done]
    exact k.submitted
  · exact ⟨tallied.count_eq hm, Exposition.mem_histogramSamples outcome h⟩
  · rw [← tallied.durations, Meters.counts, List.map_map]
    rfl
  · rw [tallied.errors, Meters.count_tally, k.kinds.count_eq]
  · rw [tallied.retries, Meters.count_tally, ((k.named fun _ => rfl).trans k.decisions).count_eq]
  · rw [tallied.speculative, k.started]
    exact k.copies
  · rw [tallied.speculative, k.started]

end Counted

/-- **Meters reconcile with the requests and the steps of a run.**  After every run of a client its meters show how the
requests ended, each once, what the retry policy decided, and which further executions were started. -/
theorem meters_reconcile {policies : Policies} {defaults : QueryDefaults} {limits : Limits} {contacts : List Address}
    {report : Except Failure (List Translated)} {c₀ c : Client} {actions : List Action}
    (connected : connect policies defaults limits contacts report = .ok c₀) (ran : c₀.run? actions = some c) :
    Reading (c₀.past actions) c (Meters.ofCalls c.metrics) := by
  have k : Counted (c₀.past actions ++ []) c :=
    run?_keeps (I := Counted) (A := fun _ => True) (fun _ k h => k.step h) (fun _ _ => trivial)
      (counted_connect connected) ran
  rw [List.append_nil] at k
  exact k.reading

/-- The hosts take turns, and a further execution starts after five milliseconds. -/
def hedged : Policies := { inTurn with speculation := .constant (.ofMillis 5) 1 }

/-- The first request succeeds on its second host; the second one is given up with two attempts under way. -/
def retriedAndHedged : List Action :=
  [read, .answer 0 0 (.error (.connection "reset")), .answer 0 0 (.ok .empty),
    .submit { query := "SELECT" } { ({} : QueryDefaults).options with idempotent := true }, .elapse 5, .speculate 1,
    .cancel 1]

theorem retried_and_hedged_reconcile : ∃ c₀ c, connect hedged {} {} [] (.ok twoPeers) = .ok c₀ ∧
    c₀.run? retriedAndHedged = some c ∧ (∀ r ∈ c.requests, r.outcome.isSome) ∧
      submitted (c₀.past retriedAndHedged) = 2 ∧ decisions (c₀.past retriedAndHedged) = ["retry_next_host"] ∧
      copies (c₀.past retriedAndHedged) = 1 ∧
      Reading (c₀.past retriedAndHedged) c (Meters.ofCalls c.metrics) := by
  have run : ∃ c₀ ∈ (connect hedged {} {} [] (.ok twoPeers)).toOption, ∃ c ∈ c₀.run? retriedAndHedged,
      (∀ r ∈ c.requests, r.outcome.isSome) ∧ submitted (c₀.past retriedAndHedged) = 2 ∧
        decisions (c₀.past retriedAndHedged) = ["retry_next_host"] ∧ copies (c₀.past retriedAndHedged) = 1 := by
    decide +kernel
  obtain ⟨c₀, connected, c, ran, done, made, decided, started⟩ := run
  exact ⟨c₀, c, connect_of_mem connected, ran, done, made, decided, started,
    meters_reconcile (connect_of_mem connected) ran⟩

end Client

end CqlDispatch
