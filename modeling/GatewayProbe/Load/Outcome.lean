import GatewayProbe.Gateway.Call
import GatewayProbe.Metrics.Aggregator
import GatewayProbe.Metrics.Tally
import GatewayProbe.Slo.Outcome

/-!
# What a load run leaves behind

A finished run is known by how many users took part, what they did, the latencies and
the failures. Its targets are those that were asked for; if none were, every name that
stands for a kind of request gets the usual target. The time of whole tasks is no
request and is judged only when asked for.
-/

namespace GatewayProbe.Load

/-- A finished load run. -/
structure Outcome where
  usersStarted : Nat
  iterations : Nat
  /-- The iterations that were to look at a task when none had been submitted. -/
  idleChecks : Nat
  report : Metrics.Report
  tally : Metrics.Tally
  deriving Inhabited

/-- The names in a report that stand for requests. -/
def requestNames (r : Metrics.Report) : List String :=
  r.buckets.names.filter fun name => name ≠ Gateway.completionName

/-- The targets of a report for which none were asked. -/
def standardThresholds (r : Metrics.Report) : List Slo.Threshold :=
  (requestNames r).map .standard

/-- The targets that apply to a report. -/
def thresholdsFor (asked : List Slo.Threshold) (r : Metrics.Report) : List Slo.Threshold :=
  if asked.isEmpty then standardThresholds r else asked

/-- How the targets of a run came out. -/
def Outcome.judged (o : Outcome) (asked : List Slo.Threshold) : List Slo.Outcome :=
  Slo.evaluate o.report.quantileMillis (thresholdsFor asked o.report)

end GatewayProbe.Load
