import CqlDispatch.Metrics
import CqlDispatch.NameMap
import CqlDispatch.Value.Text
/-!
# Meters

Counters that are kept from the calls a client makes, and their exposition as text for a scraper:
families of series in the order of their names, the series in the order of their labels, a family
without series left out.  Latencies go into a histogram of seconds whose buckets are cumulative.

All names start with a prefix of the client's, which must make them proper names.
-/
namespace CqlDispatch

def bucketBounds : List Float :=
  [0.001, 0.005, 0.01, 0.025, 0.05, 0.1, 0.25, 0.5, 1.0, 2.5, 5.0, 10.0]

structure Histogram where
  /-- Observations up to each bound, beside the bound. -/
  buckets : List (Float × Nat) := bucketBounds.map (·, 0)
  sum : Float := 0.0
  count : Nat := 0

namespace Histogram

def observe (h : Histogram) (seconds : Float) : Histogram where
  buckets := h.buckets.map fun (bound, n) => (bound, if seconds ≤ bound then n + 1 else n)
  sum := h.sum + seconds
  count := h.count + 1

end Histogram

def Span.toSeconds (s : Span) : Float :=
  (UInt64.ofNat s.seconds).toFloat + (UInt64.ofNat (s.nanos % 1000000000)).toFloat / 1000000000.0

structure Meters where
  requests : NameMap Nat := []
  durations : NameMap Histogram := []
  retries : NameMap Nat := []
  speculative : Nat := 0
  errors : NameMap Nat := []
  hostsUp : Nat := 0

namespace Meters

def increment (name : String) (m : NameMap Nat) : NameMap Nat :=
  m.insert name ((m.find? name).getD 0 + 1)

def observe (m : Meters) (outcome : String) (latency : Span) : Meters :=
  let h := (m.durations.find? outcome).getD {}
  { m with
    requests := increment outcome m.requests
    durations := m.durations.insert outcome (h.observe latency.toSeconds) }

/-- The greatest number of hosts that the gauge can show. -/
def gaugeLimit : Nat := 9223372036854775807

def record (m : Meters) : MetricCall → Meters
  | .success latency => m.observe "success" latency
  | .error kind latency =>
    let m := m.observe "error" latency
    { m with errors := increment kind m.errors }
  | .retry decision => { m with retries := increment decision m.retries }
  | .speculative => { m with speculative := m.speculative + 1 }
  | .hostsUp count => { m with hostsUp := min count gaugeLimit }

def ofCalls (calls : List MetricCall) : Meters := calls.foldl record {}

def describe (m : Meters) : String :=
  "PrometheusMetrics \x7b hosts_up: " ++ Nat.repr m.hostsUp ++ ", .. \x7d"

end Meters

/-! ## Exposition -/

structure Sample where
  suffix : String := ""
  labels : List (String × String) := []
  value : String

structure Family where
  name : String
  help : String
  type : String
  samples : List Sample

namespace Exposition

def floatText (x : Float) : String := Binary64.text ⟨x.toBits⟩

/-- Counts are shown as floating-point numbers. -/
def countText (n : Nat) : String := floatText (UInt64.ofNat n).toFloat

/-- How a character stands in the value of a label. -/
def labelChar : Char → List Char
  | '\\' => ['\\', '\\']
  | '"' => ['\\', '"']
  | '\n' => ['\\', 'n']
  | c => [c]

def labelText (l : String × String) : String :=
  l.1 ++ "=\"" ++ String.ofList (l.2.toList.flatMap labelChar) ++ "\""

def Sample.line (family : String) (s : Sample) : String :=
  let labels :=
    if s.labels.isEmpty then ""
    else "\x7b" ++ String.intercalate "," (s.labels.map labelText) ++ "\x7d"
  family ++ s.suffix ++ labels ++ " " ++ s.value ++ "\n"

/-- The lines of a family behind its help and its type. -/
def familyText (f : Family) : String :=
  "# HELP " ++ f.name ++ " " ++ f.help ++ "\n# TYPE " ++ f.name ++ " " ++ f.type ++ "\n" ++
    String.join (f.samples.map (Sample.line f.name))

def series (label : String) (m : NameMap Nat) : List Sample :=
  m.map fun (name, n) => { labels := [(label, name)], value := countText n }

def histogramSamples (outcome : String) (h : Histogram) : List Sample :=
  let own := ("outcome", outcome)
  (h.buckets.map fun (bound, n) =>
      { suffix := "_bucket", labels := [own, ("le", floatText bound)], value := countText n }) ++
    [{ suffix := "_bucket", labels := [own, ("le", "+Inf")], value := countText h.count },
      { suffix := "_sum", labels := [own], value := floatText h.sum },
      { suffix := "_count", labels := [own], value := countText h.count }]

/-- All families in the order of their names, which does not depend on the prefix. -/
def allFamilies (stem : String) (m : Meters) : List Family :=
  [⟨stem ++ "_errors_total", "Failed requests by error kind", "counter",
      series "kind" m.errors⟩,
    ⟨stem ++ "_hosts_up", "Hosts currently up", "gauge", [{ value := countText m.hostsUp }]⟩,
    ⟨stem ++ "_request_duration_seconds", "Request duration in seconds by outcome",
      "histogram", m.durations.flatMap fun (outcome, h) => histogramSamples outcome h⟩,
    ⟨stem ++ "_requests_total", "Total number of requests by outcome", "counter",
      series "outcome" m.requests⟩,
    ⟨stem ++ "_retries_total", "Retry policy decisions by kind", "counter",
      series "decision" m.retries⟩,
    ⟨stem ++ "_speculative_executions_total", "Speculative executions started", "counter",
      [{ value := countText m.speculative }]⟩]

def families (stem : String) (m : Meters) : List Family :=
  (allFamilies stem m).filter (!·.samples.isEmpty)

def text (stem : String) (m : Meters) : String :=
  String.join ((families stem m).map familyText)

def isNameStart (c : Char) : Bool := c.isAlpha || c = '_' || c = ':'

/-- A letter, an underscore or a colon, and then digits as well. -/
def isName (s : String) : Bool :=
  match s.toList with
  | [] => false
  | c :: rest => isNameStart c && rest.all fun c => isNameStart c || c.isDigit

/-- Why there are no meters under a prefix. -/
structure BadName where
  name : String
  deriving DecidableEq, Repr

def BadName.message (e : BadName) : String :=
  "metrics error: Error: '" ++ e.name ++ "' is not a valid metric name"

/-- Refuses a prefix that makes no proper names.  All names are proper if one is. -/
def checkStem (stem : String) : Except BadName Unit :=
  let name := stem ++ "_requests_total"
  if isName name then .ok () else .error ⟨name⟩

end Exposition

end CqlDispatch
