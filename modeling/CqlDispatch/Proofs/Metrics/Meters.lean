import CqlDispatch.Metrics.Meters
import CqlDispatch.Proofs.NameMap
/-!
# What meters count

Every counter tallies one thing that calls name (`tally`): how requests ended, of which kind their errors were, what
was decided.  So counters tell of a list of calls how often each name stands in it, and in whatever order the calls
came.  The histogram of an outcome has counted what the counter of that outcome has (`durations_ofCalls`).
-/
namespace CqlDispatch

namespace MetricCall

/-- How a request ended. -/
def outcome? : MetricCall → Option String
  | success _ => some "success"
  | error _ _ => some "error"
  | _ => none

/-- Of which kind the error was that a request ended with. -/
def kind? : MetricCall → Option String
  | error kind _ => some kind
  | _ => none

/-- What the retry policy decided. -/
def decision? : MetricCall → Option String
  | retry decision => some decision
  | _ => none

def isSpeculative : MetricCall → Bool
  | speculative => true
  | _ => false

end MetricCall

namespace Meters

open NameMap (find?)

/-! ## Counters -/

/-- Counts names. -/
def tally (names : List String) (m : NameMap Nat) : NameMap Nat := names.foldl (fun m name => increment name m) m

theorem sorted_tally : ∀ (names : List String) {m : NameMap Nat}, m.Pairwise (·.1 < ·.1) →
    (tally names m).Pairwise (·.1 < ·.1)
  | [], _, sorted => sorted
  | _ :: names, _, sorted => sorted_tally names (NameMap.sorted_insert sorted)

/-- **A counter shows how often its name was counted.** -/
theorem find?_tally (name : String) : ∀ (names : List String) (m : NameMap Nat),
    ((tally names m).find? name).getD 0 = (m.find? name).getD 0 + names.count name
  | [], m => rfl
  | other :: names, m => by
    show ((tally names (increment other m)).find? name).getD 0 = _
    rw [find?_tally name names, increment, NameMap.find?_insert, List.count_cons]
    by_cases he : name = other
    · subst he
      rw [if_pos rfl, if_pos BEq.rfl, Option.getD_some]
      omega
    · rw [if_neg he, if_neg (by simpa using Ne.symm he)]
      omega

theorem count_tally (names : List String) (name : String) : ((tally names []).find? name).getD 0 = names.count name :=
  (find?_tally name names []).trans (Nat.zero_add _)

/-- What all counters of a family show together. -/
def total (m : NameMap Nat) : Nat := (m.map (·.2)).sum

/-- **All counters together show how many names were counted.** -/
theorem sum_tally : ∀ (names : List String) {m : NameMap Nat}, m.Pairwise (·.1 < ·.1) →
    ((tally names m).map (·.2)).sum = (m.map (·.2)).sum + names.length
  | [], m, _ => rfl
  | name :: names, m, sorted => by
    have hsum : ((increment name m).map (·.2)).sum + _ = _ := NameMap.sum_insert sorted
    have hrest : ((tally names (increment name m)).map (·.2)).sum = _ := sum_tally names (NameMap.sorted_insert sorted)
    show ((tally names (increment name m)).map (·.2)).sum = _
    rw [hrest, List.length_cons]
    omega

theorem total_tally (names : List String) : total (tally names []) = names.length :=
  (sum_tally names .nil).trans (Nat.zero_add _)

/-! ## Calls -/

/-- A counter that every call with a name increments tallies the names. -/
theorem counter_foldl {counter : Meters → NameMap Nat} {name? : MetricCall → Option String}
    (counts : ∀ m x, counter (record m x) = tally (name? x).toList (counter m)) :
    ∀ (calls : List MetricCall) (m : Meters), counter (calls.foldl record m) = tally (calls.filterMap name?) (counter m)
  | [], _ => rfl
  | x :: calls, m => by
    rw [List.foldl_cons, counter_foldl counts calls, counts, List.filterMap_cons]
    cases name? x <;> rfl

theorem speculative_foldl : ∀ (calls : List MetricCall) (m : Meters),
    (calls.foldl record m).speculative = m.speculative + calls.countP (·.isSpeculative)
  | [], _ => rfl
  | x :: calls, m => by
    rw [List.foldl_cons, speculative_foldl calls, List.countP_cons]
    cases x with
    | speculative =>
      show m.speculative + 1 + _ = _ + (_ + 1)
      omega
    | success | error | retry | hostsUp => rfl

/-! ## Histograms -/

/-- How many latencies each histogram has counted. -/
def counts (durations : NameMap Histogram) : NameMap Nat := durations.map fun e => (e.1, e.2.count)

theorem counts_observe {m : Meters} (same : counts m.durations = m.requests) (outcome : String) (latency : Span) :
    counts (m.observe outcome latency).durations = (m.observe outcome latency).requests := by
  have before : ((m.durations.find? outcome).getD {}).count = (m.requests.find? outcome).getD 0 := by
    rw [← same, counts, NameMap.find?_map]
    cases m.durations.find? outcome <;> rfl
  show (NameMap.insert outcome _ m.durations).map _ = increment outcome m.requests
  rw [NameMap.map_insert]
  show NameMap.insert outcome (_ + 1) (counts m.durations) = _
  rw [before, same]
  rfl

/-- **Every histogram has counted what the counter of its outcome has.** -/
theorem counts_foldl : ∀ (calls : List MetricCall) {m : Meters}, counts m.durations = m.requests →
    counts (calls.foldl record m).durations = (calls.foldl record m).requests
  | [], _, same => same
  | x :: calls, m, same => by
    refine counts_foldl calls ?_
    cases x with
    | success latency => exact counts_observe same "success" latency
    | error kind latency => exact counts_observe same "error" latency
    | retry | speculative | hostsUp => exact same

/-- **The meters after these calls**: counters tally what the calls name, and each histogram has counted what the
counter of its outcome has. -/
structure Tallied (calls : List MetricCall) (m : Meters) : Prop where
  requests : m.requests = tally (calls.filterMap (·.outcome?)) []
  errors : m.errors = tally (calls.filterMap (·.kind?)) []
  retries : m.retries = tally (calls.filterMap (·.decision?)) []
  speculative : m.speculative = calls.countP (·.isSpeculative)
  durations : counts m.durations = m.requests

theorem tallied_ofCalls (calls : List MetricCall) : Tallied calls (ofCalls calls) := by
  refine ⟨?_, ?_, ?_, (speculative_foldl calls {}).trans (Nat.zero_add _), counts_foldl calls rfl⟩
  · exact counter_foldl (fun _ x => by cases x <;> rfl) calls {}
  · exact counter_foldl (fun _ x => by cases x <;> rfl) calls {}
  · exact counter_foldl (fun _ x => by cases x <;> rfl) calls {}

namespace Tallied

variable {calls : List MetricCall} {m : Meters} (tallied : Tallied calls m)
include tallied

/-- **Requests that fail are counted by kind as well.** -/
theorem failed : total m.errors = (m.requests.find? "error").getD 0 := by
  have hcount : ∀ calls : List MetricCall,
      (calls.filterMap (·.kind?)).length = (calls.filterMap (·.outcome?)).count "error" := by
    intro calls
    rw [List.length_filterMap_eq_countP, List.count_filterMap]
    refine List.countP_congr fun x _ => ?_
    cases x <;> simp [MetricCall.kind?, MetricCall.outcome?]
  rw [tallied.errors, tallied.requests, total_tally, count_tally, hcount]

/-- The histogram of an outcome and its counter show the same. -/
theorem count_eq {outcome : String} {h : Histogram} (hm : (outcome, h) ∈ m.durations) :
    m.requests.find? outcome = some h.count := by
  have sorted : m.requests.Pairwise (·.1 < ·.1) := by
    rw [tallied.requests]
    exact sorted_tally _ .nil
  refine (lookup_eq_some_iff_mem (NameMap.distinct_of_sorted sorted)).2 ?_
  rw [← tallied.durations]
  exact List.mem_map.2 ⟨_, hm, rfl⟩

end Tallied

end Meters

/-- The last bucket of a histogram shows as many latencies as it has counted, and so does its count. -/
theorem Exposition.mem_histogramSamples (outcome : String) (h : Histogram) :
    { suffix := "_bucket", labels := [("outcome", outcome), ("le", "+Inf")], value := countText h.count } ∈
        histogramSamples outcome h ∧
      { suffix := "_count", labels := [("outcome", outcome)], value := countText h.count } ∈
        histogramSamples outcome h := by
  unfold histogramSamples
  exact ⟨List.mem_append_right _ List.mem_cons_self,
    List.mem_append_right _ (List.mem_cons_of_mem _ (List.mem_cons_of_mem _ List.mem_cons_self))⟩

end CqlDispatch
