import GatewayProbe.Duration
import GatewayProbe.SystemError

/-!
# What can go wrong with a server process
-/

namespace GatewayProbe.Server

/-- Why a server is not started, not ready or not stopped. -/
inductive Fault where
  | spawn (command : String) (cause : SystemError)
  | startupTimeout (pattern : String) (timeout : Duration)
  | exitedBeforeReady (pattern : String)
  | invalidPid (pid : Nat)
  | signal (pid : Nat) (cause : SystemError)
  | wait (cause : SystemError)
  | kill (cause : SystemError)
  deriving DecidableEq, Repr

/-- The wording of each fault. -/
def Fault.message : Fault → String
  | .spawn command cause => "Failed to spawn '" ++ command ++ "': " ++ cause.message
  | .startupTimeout pattern timeout =>
    "Readiness marker '" ++ pattern ++ "' not seen within " ++ timeout.text
  | .exitedBeforeReady pattern =>
    s!"Server exited before printing readiness marker '{pattern}'"
  | .invalidPid pid =>
    "Server pid " ++ toString pid ++ " does not fit the platform pid type."
  | .signal pid cause =>
    "Failed to signal server pid " ++ toString pid ++ ": " ++ cause.message
  | .wait cause => "Failed waiting for server exit: " ++ cause.message
  | .kill cause => "Failed to kill server: " ++ cause.message

end GatewayProbe.Server
