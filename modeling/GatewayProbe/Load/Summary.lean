import GatewayProbe.Load.Outcome
import GatewayProbe.Text.Column

/-!
# The summary of a load run

The summary is a list of lines for a reader: the window, a table with a row for each
name, the failures by kind, and the targets.
-/

namespace GatewayProbe.Load

open GatewayProbe.Text

/-- The title of the table: the name at the left edge, everything else at the right. -/
def titleRow : String :=
  " ".intercalate [alignLeft 32 "Endpoint", alignRight 8 "Requests", alignRight 8 "Failures",
    alignRight 9 "p50 ms", alignRight 9 "p90 ms", alignRight 9 "p95 ms", alignRight 9 "p99 ms",
    alignRight 8 "RPS"]

/-- The row of a name. -/
def tableRow (name : String) (p : Metrics.Percentiles) : String :=
  let millis (x : Float) : String := alignRight 9 (Decimal.fixed 1 x)
  " ".intercalate [alignLeft 32 name, alignRight 8 (toString p.count),
    alignRight 8 (toString p.failures), millis p.p50, millis p.p90, millis p.p95, millis p.p99,
    alignRight 8 (Decimal.fixed 2 p.rate)]

/-- The table of latencies. -/
def tableLines (r : Metrics.Report) : List String :=
  match r.endpoints with
  | [] => ["No requests recorded."]
  | rows =>
    titleRow :: rows.map (fun row => tableRow row.1 row.2) ++
      ["Total requests: " ++ toString r.totalRequests]

/-- The failures by kind. -/
def tallyLines (t : Metrics.Tally) : List String :=
  if t.total = 0 then ["Errors: none"]
  else
    ["Errors: " ++ toString t.total,
     "  Transport: " ++ toString t.transport,
     "  Malformed response: " ++ toString t.malformed,
     "  Unknown status: " ++ toString t.unknownStatus,
     "  Poll timeout: " ++ toString t.pollTimeout,
     "  Task failed: " ++ toString t.taskFailed]

/-- The first lines: the window and what the users did in it. -/
def headLines (o : Outcome) : List String :=
  let window := "Window: " ++ Decimal.fixed 1 o.report.window.seconds ++ "s, users started: " ++
    toString o.usersStarted ++ ", iterations: " ++ toString o.iterations
  if o.idleChecks = 0 then [window]
  else [window, "Status checks skipped (no task seen yet): " ++ toString o.idleChecks]

/-- The summary of a run and its targets. -/
def summaryLines (o : Outcome) (targets : List Slo.Outcome) : List String :=
  headLines o ++ tableLines o.report ++ tallyLines o.tally ++ targets.map (·.line)

end GatewayProbe.Load
