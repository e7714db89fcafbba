import GatewayProbe.Check.Run
import GatewayProbe.Check.Workspace
import GatewayProbe.Gateway.Web
import GatewayProbe.Settings.Check
import GatewayProbe.World

/-!
# The command for the check

The directory is prepared first, then the check is done while the server runs. A check
that succeeds is printed as one line.
-/

namespace GatewayProbe.Check

open GatewayProbe.Gateway
open GatewayProbe.Server

variable {σ : Type}

/-- The plan of the check of a directory. -/
def planOf (s : Settings.CheckSettings) (directory : String) : Plan :=
  ⟨directory, s.poll, s.gateway.commandTimeout⟩

/-- The line about a check that has succeeded. -/
def passedLine (taskId directory : String) : String :=
  "Check passed: task " ++ taskId ++ " listed " ++ ", ".intercalate fixtureNames
    ++ " in " ++ directory

/-- Do the check in a directory that is prepared. -/
def carryOut (service : Service σ) (launch : Launcher) (s : Settings.CheckSettings)
    (workspace : Workspace) (w : World σ) : Except Failure Unit × World σ :=
  let work := World.converse (Check.run service (planOf s workspace.path))
  match withOptionalServer (World.handling launch) s.gateway.serverSpec work w with
  | (.error failure, w) => (.error failure, w)
  | (.ok info, w) => (.ok (), w.print [passedLine info.taskId workspace.path])

/-- Where a temporary directory is made. -/
def temporaryPath : String := "/tmp/" ++ temporaryMark ++ "0"

/-- Carry out the command. -/
def command (web : Web σ) (launch : Launcher) (s : Settings.CheckSettings) (w : World σ) :
    Except Failure Unit × World σ :=
  match Routes.ofBase s.gateway.url with
  | .error fault => (.error (.invalid (.base fault)), w)
  | .ok routes =>
    match prepare w.files temporaryPath s.workspace with
    | .error fault => (.error (.check fault), w)
    | .ok (workspace, files) =>
      carryOut (routes.service web s.gateway.requestTimeout) launch s workspace { w with files }

end GatewayProbe.Check
