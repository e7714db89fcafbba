import GatewayProbe.Gateway.Web
import GatewayProbe.Load.Enforce
import GatewayProbe.Load.Export
import GatewayProbe.Load.Preflight
import GatewayProbe.Load.Schedule
import GatewayProbe.Load.Summary
import GatewayProbe.Settings.Load
import GatewayProbe.World

/-!
# The command for load runs

While the server runs, the health of the gateway is checked and then the load run is done.
Its summary is printed, its report is written where one is asked for, and its targets are
enforced. Nobody listens for a shutdown before the run has begun: one that comes earlier
has no effect.
-/

namespace GatewayProbe.Load

open GatewayProbe.Gateway
open GatewayProbe.Server

variable {σ : Type}

/-- The message about a load run that is about to start. -/
def starting (plan : Plan) (url : String) : Message :=
  information ("Starting load: " ++ toString plan.users ++ " users at " ++ Decimal.text plan.rate ++
    " it/s each for " ++ plan.duration.text ++ " against " ++ url)

/-- The shutdown as a run sees it that begins at a moment. -/
def shutdownSeen (shutdown : Option Nat) (begun : Nat) : Option Nat :=
  shutdown.filter fun moment => begun < moment

/-- The failure for which nothing is run. -/
def haltFailure : Halt → Failure
  | .fault fault => .gateway fault
  | .interrupted => .check .interrupted

/-- A conversation with the run added that was made in its course. -/
def joinRun (c : Conversation σ) (run : Run) (gateway : σ) : Conversation σ :=
  { c with
    gateway
    now := run.now
    log := run.messages.reverse ++ c.log }

/-- Check the health of the gateway and do the run. -/
def work (service : Service σ) (plan : Plan) (entropy : Nat → Random.Stream)
    (c : Conversation σ) : Except Failure Run × Conversation σ :=
  match preflight service { c with shutdown := none } with
  | (.error halt, after) => (.error (haltFailure halt), { after with shutdown := c.shutdown })
  | (.ok _, after) =>
    let after := { after with shutdown := c.shutdown }
    match Run.begin plan after.now entropy with
    | .error fault => (.error (.invalid fault), after)
    | .ok run =>
      let (run, gateway) :=
        run.carriedOut service after.gateway (shutdownSeen c.shutdown after.now)
      (.ok run, joinRun after run gateway)

/-- Write the report where one is asked for. -/
def exportWhereAsked (path : Option String) (o : Outcome) (targets : List Slo.Outcome)
    (w : World σ) : Except Failure Unit × World σ :=
  match path with
  | none => (.ok (), w)
  | some path =>
    match exportReport w.files path (reportText w.timeOfDay o targets) with
    | .error fault => (.error (.report fault), w)
    | .ok files => (.ok (), { w with files }.tell (information ("Wrote JSON report to " ++ path)))

/-- Print, export and enforce what a run has come to. -/
def conclude (s : Settings.LoadSettings) (o : Outcome) (w : World σ) :
    Except Failure Unit × World σ :=
  let targets := o.judged s.slos
  match exportWhereAsked s.exportJson o targets (w.print (summaryLines o targets)) with
  | (.error failure, w) => (.error failure, w)
  | (.ok _, w) =>
    let (result, messages) := enforce targets s.failOnSlo
    (result, messages.foldl World.tell w)

/-- Carry out a plan. -/
def carryOut (service : Service σ) (launch : Launcher) (s : Settings.LoadSettings) (plan : Plan)
    (w : World σ) : Except Failure Unit × World σ :=
  let work := World.converse (work service plan w.entropy)
  match withOptionalServer (World.handling launch) s.gateway.serverSpec work w with
  | (.error failure, w) => (.error failure, w)
  | (.ok run, w) => conclude s run.outcome w

/-- Carry out the command. -/
def command (web : Web σ) (launch : Launcher) (s : Settings.LoadSettings) (w : World σ) :
    Except Failure Unit × World σ :=
  match s.plan with
  | .error fault => (.error (.invalid fault), w)
  | .ok plan =>
    match Routes.ofBase s.gateway.url with
    | .error fault => (.error (.invalid (.base fault)), w)
    | .ok routes =>
      carryOut (routes.service web s.gateway.requestTimeout) launch s plan
        (w.tell (starting plan s.gateway.url))

end GatewayProbe.Load
