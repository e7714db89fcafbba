import GatewayProbe.Json.Document
import GatewayProbe.Load.Outcome

/-!
# The report of a load run

The report holds what the summary says, as a document for other programs: a record with
its members in a fixed order, written over lines and closed by a line break.
-/

namespace GatewayProbe.Load

open GatewayProbe.Json

/-- The percentiles of a name. -/
def endpointDocument (name : String) (p : Metrics.Percentiles) : Document :=
  .record [("name", .text name), ("p50", .real p.p50), ("p90", .real p.p90),
    ("p95", .real p.p95), ("p99", .real p.p99), ("count", .count p.count), ("rps", .real p.rate),
    ("failures", .count p.failures)]

/-- The failures by kind. -/
def tallyDocument (t : Metrics.Tally) : Document :=
  .record [("transport", .count t.transport), ("malformed", .count t.malformed),
    ("unknown_status", .count t.unknownStatus), ("poll_timeout", .count t.pollTimeout),
    ("task_failed", .count t.taskFailed)]

/-- The report of a run that was started at a given time of day. -/
def reportDocument (startedAt : String) (o : Outcome) (targets : List Slo.Outcome) : Document :=
  .record [("started_at", .text startedAt), ("window_secs", .real o.report.window.seconds),
    ("users_started", .count o.usersStarted), ("iterations", .count o.iterations),
    ("idle_status_checks", .count o.idleChecks),
    ("total_requests", .count o.report.totalRequests),
    ("endpoints", .list (o.report.endpoints.map fun e => endpointDocument e.1 e.2)),
    ("errors", tallyDocument o.tally), ("slos", .list (targets.map (·.document)))]

/-- The text of the report. -/
def reportText (startedAt : String) (o : Outcome) (targets : List Slo.Outcome) : String :=
  (reportDocument startedAt o targets).pretty ++ "\n"

end GatewayProbe.Load
