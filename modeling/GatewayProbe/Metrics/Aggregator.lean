import GatewayProbe.Clock
import GatewayProbe.Metrics.Histogram

/-!
# Latencies by name

Samples are kept under names in ascending order, each name with a histogram and a
count of failures. Once frozen, the window of time that rates refer to does not grow
any more. A report is a copy of all buckets with the frozen window.
-/

namespace GatewayProbe.Metrics

/-- One measured latency. -/
structure Sample where
  name : String
  /-- The latency in milliseconds. -/
  millis : Float
  success : Bool

namespace Sample

/-- A sample of a duration. -/
def ofDuration (name : String) (elapsed : Duration) (success : Bool) : Sample :=
  ⟨name, elapsed.seconds * 1000.0, success⟩

/-- The latency in whole microseconds, the nearest ones. -/
def micros (s : Sample) : Nat := Decimal.halfUp (s.millis * 1000.0)

end Sample

/-- The samples of one name. -/
structure Bucket where
  histogram : Histogram := .empty
  failures : Nat := 0
  deriving DecidableEq, Repr, Inhabited

/-- Count a latency some number of times. -/
def Bucket.record (b : Bucket) (micros : Nat) (success : Bool) (times : Nat) : Bucket :=
  { histogram := b.histogram.record micros times
    failures := if success then b.failures else b.failures + times }

/-- Buckets under names in ascending order. -/
abbrev Buckets := List (String × Bucket)

namespace Buckets

/-- The bucket of a name. -/
def find? (name : String) : Buckets → Option Bucket
  | [] => none
  | (n, b) :: rest => if n = name then some b else find? name rest

/-- Change the bucket of a name, which is put in its place if there is none yet. -/
def update (name : String) (f : Bucket → Bucket) : Buckets → Buckets
  | [] => [(name, f {})]
  | (n, b) :: rest =>
    if name < n then (name, f {}) :: (n, b) :: rest
    else if name = n then (n, f b) :: rest
    else (n, b) :: update name f rest

/-- All names. -/
def names (bs : Buckets) : List String := bs.map (·.1)

end Buckets

/-- The latencies at fixed quantiles, with the rate of the samples. -/
structure Percentiles where
  p50 : Float
  p90 : Float
  p95 : Float
  p99 : Float
  count : Nat
  /-- Samples for each second. -/
  rate : Float
  failures : Nat

/-- The percentiles of a bucket over a window of time, if it has samples. -/
def Bucket.percentiles (b : Bucket) (window : Duration) : Option Percentiles := do
  let h := b.histogram
  let seconds := window.seconds
  return {
    p50 := ← h.quantileMillis 0.50
    p90 := ← h.quantileMillis 0.90
    p95 := ← h.quantileMillis 0.95
    p99 := ← h.quantileMillis 0.99
    count := h.count
    rate := if seconds > 0.0 then Decimal.ofNat h.count / seconds else 0.0
    failures := b.failures }

/-- A frozen copy of all samples. -/
structure Report where
  window : Duration
  buckets : Buckets
  deriving Inhabited

namespace Report

/-- The percentiles of a name. -/
def percentiles (r : Report) (name : String) : Option Percentiles :=
  (r.buckets.find? name).bind (·.percentiles r.window)

/-- The latency of a name at a quantile, in milliseconds. -/
def quantileMillis (r : Report) (name : String) (q : Float) : Option Float :=
  (r.buckets.find? name).bind (·.histogram.quantileMillis q)

/-- The percentiles of every name that has samples. -/
def endpoints (r : Report) : List (String × Percentiles) :=
  r.buckets.names.filterMap fun name => (r.percentiles name).map fun p => (name, p)

/-- How many samples there are under all names. -/
def totalRequests (r : Report) : Nat :=
  min ((r.buckets.map fun b => b.2.histogram.count).sum) (2 ^ 64 - 1)

end Report

/-- Samples being collected. -/
structure Aggregator where
  started : Nat
  /-- The moment at which the window was frozen. -/
  frozen : Option Nat
  buckets : Buckets
  deriving Inhabited

namespace Aggregator

/-- An aggregator without samples. -/
def create (now : Nat) : Aggregator := ⟨now, none, []⟩

/-- Record a latency some number of times. -/
def recordMicros (a : Aggregator) (name : String) (micros : Nat) (success : Bool)
    (times : Nat) : Aggregator :=
  if times = 0 then a
  else { a with buckets := a.buckets.update name fun b => b.record micros success times }

/-- Record a sample. -/
def record (a : Aggregator) (s : Sample) : Aggregator :=
  a.recordMicros s.name s.micros s.success 1

/-- The window of time that rates refer to. -/
def window (a : Aggregator) (now : Nat) : Duration :=
  Clock.since a.started (a.frozen.getD now)

/-- The percentiles of a name. -/
def percentiles (a : Aggregator) (now : Nat) (name : String) : Option Percentiles :=
  (a.buckets.find? name).bind (·.percentiles (a.window now))

/-- The latency of a name at a quantile, in milliseconds. -/
def quantileMillis (a : Aggregator) (name : String) (q : Float) : Option Float :=
  (a.buckets.find? name).bind (·.histogram.quantileMillis q)

/-- Freeze the window, if it is not frozen yet. -/
def freeze (a : Aggregator) (now : Nat) : Aggregator :=
  { a with frozen := some (a.frozen.getD now) }

/-- The report on the samples recorded so far. -/
def report (a : Aggregator) (now : Nat) : Report := ⟨a.window now, a.buckets⟩

end Aggregator

end GatewayProbe.Metrics
