import GatewayProbe.Gateway.Body
import GatewayProbe.SystemError

/-!
# The listing of a directory

The check lets the gateway list a directory of three files. The listing is right if
the task is completed and its output mentions all three.
-/

namespace GatewayProbe.Check

open GatewayProbe.Gateway

/-- Why a check fails on its own account. -/
inductive Fault where
  | unhealthy (status : String)
  | notCompleted (taskId : String) (status : TaskStatus) (exitCode : Option Int) (stderr : String)
  | missingOutput (taskId : String) (expected : String)
  | interrupted
  | fixture (path : String) (cause : SystemError)
  deriving DecidableEq, Repr

/-- An exit code in words. -/
def exitCodeText : Option Int → String
  | none => "None"
  | some n => "Some(" ++ toString n ++ ")"

/-- The wording of each fault. -/
def Fault.message : Fault → String
  | .unhealthy status => s!"Health check reported '{status}'"
  | .notCompleted taskId status exitCode stderr =>
    "Task " ++ taskId ++ " finished as " ++ status.name ++ " instead of COMPLETED (exit code " ++
      exitCodeText exitCode ++ ", stderr: " ++ stderr ++ ")"
  | .missingOutput taskId expected => s!"Task {taskId} stdout does not mention '{expected}'"
  | .interrupted => "Check interrupted by shutdown signal"
  | .fixture path cause =>
    "Failed to prepare workspace fixture '" ++ path ++ "': " ++ cause.message

/-- The files that the listing has to mention. -/
def fixtureNames : List String := ["file1.txt", "file2.txt", "file3.txt"]

/-- What a file of the fixture holds. -/
def fixtureContent (name : String) : String := "Content of " ++ name

/-- Accept the listing of a finished task. -/
def verify (info : TaskInfo) : Except Fault Unit :=
  if info.status = .completed then
    match fixtureNames.find? fun name => !Text.holdsText name info.stdout with
    | some missing => .error (.missingOutput info.taskId missing)
    | none => .ok ()
  else
    .error (.notCompleted info.taskId info.status (info.result.bind (·.exitCode))
      ((info.result.map (·.stderr)).getD ""))

/-- The command that lists a directory. -/
def listCommand (directory : String) (timeout : Duration) : Command :=
  ⟨"ls", ["-la", directory], timeout⟩

end GatewayProbe.Check
