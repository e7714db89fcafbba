import GatewayProbe.Check.Listing
import GatewayProbe.Duration.Reading
import GatewayProbe.Gateway.Routes
import GatewayProbe.Load.Mix
import GatewayProbe.Server.Fault
import GatewayProbe.Settings.CommandText
import GatewayProbe.Slo.Threshold

/-!
# All ways to fail

A failure of the program is an invalid value, a fault of the settings, the gateway,
the server or the check, or an error of the system. Its wording names the part that
failed and then says why.
-/

namespace GatewayProbe

/-- A value that is not allowed. -/
inductive Invalid where
  | duration (fault : Duration.Fault)
  | count (fault : Settings.CountFault)
  | rate (value : String)
  | weights (fault : Load.WeightsFault)
  | slo (fault : Slo.Fault)
  | base (fault : Gateway.BaseFault)
  | emptyCommand
  | noCommands
  | violated (targets : Nat)
  deriving DecidableEq, Repr

/-- The wording of each invalid value. -/
def Invalid.message : Invalid → String
  | .duration fault => fault.message
  | .count fault => fault.message
  | .rate value =>
    s!"Invalid rate '{value}'. Expected a positive number of iterations per second."
  | .weights fault => fault.message
  | .slo fault => fault.message
  | .base fault => fault.message
  | .emptyCommand => "Command must not be empty."
  | .noCommands => "Load test needs at least one command to execute."
  | .violated targets => toString targets ++ " SLO threshold(s) violated."

/-- What is wrong with a settings file. -/
inductive SettingsFault where
  | unreadable (path : String) (cause : Option SystemError)
  | notToml (path : String)
  | notJson (path : String)
  | unsupportedExtension (ext : String)
  | missingExtension
  | mustBePositive (field : String)
  | duration (field : String) (fault : Duration.Fault)
  | rate (value : String)
  | weights (fault : Load.WeightsFault)
  | slo (index : Nat) (fault : Slo.Fault)
  | emptyCommand (index : Nat)
  deriving DecidableEq, Repr

/-- The wording of each fault; what the readers of file formats say is left out. -/
def SettingsFault.message : SettingsFault → String
  | .unreadable path cause =>
    "Failed to read config '" ++ path ++ "': " ++
      cause.elim "stream did not contain valid UTF-8" SystemError.message
  | .notToml path => s!"Failed to parse TOML config '{path}'"
  | .notJson path => s!"Failed to parse JSON config '{path}'"
  | .unsupportedExtension ext => s!"Unsupported config extension '{ext}'. Use .toml or .json."
  | .missingExtension => "Config file must have .toml or .json extension."
  | .mustBePositive field =>
    "Config '" ++ field ++ "' must be >= 1: " ++ Settings.CountFault.tooSmall.message
  | .duration field fault =>
    "Config '" ++ field ++ "' has an invalid duration: " ++ fault.message
  | .rate value => "Config 'load.user_rate' is invalid: " ++ (Invalid.rate value).message
  | .weights fault => "Config 'load.weights' is invalid: " ++ fault.message
  | .slo index fault =>
    "Config 'load.slos' entry " ++ toString index ++ " is invalid: " ++ fault.message
  | .emptyCommand index =>
    "Config 'load.commands' entry " ++ toString index ++ " has an empty command."

/-- A report that cannot be written. -/
structure ReportFault where
  path : String
  cause : SystemError
  deriving DecidableEq, Repr

/-- The wording of the fault. -/
def ReportFault.message (f : ReportFault) : String :=
  "Failed to write report '" ++ f.path ++ "': " ++ f.cause.message

/-- Why the program fails. -/
inductive Failure where
  | io (cause : SystemError)
  | invalid (fault : Invalid)
  | settings (fault : SettingsFault)
  | gateway (fault : Gateway.Fault)
  | server (fault : Server.Fault)
  | check (fault : Check.Fault)
  | report (fault : ReportFault)
  deriving DecidableEq, Repr

/-- The wording of each failure. -/
def Failure.message : Failure → String
  | .io cause => "I/O error: " ++ cause.message
  | .invalid fault => "Validation error: " ++ fault.message
  | .settings fault => "Configuration error: " ++ fault.message
  | .gateway fault => "Gateway error: " ++ fault.message
  | .server fault => "Server lifecycle error: " ++ fault.message
  | .check fault => "Check failed: " ++ fault.message
  | .report fault => "Metrics error: " ++ fault.message

end GatewayProbe
