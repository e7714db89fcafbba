import GatewayProbe.Gateway.Task
import GatewayProbe.Text.Integer

/-!
# Single settings as text

A command line is a program with its arguments, separated by blanks; quotes have no
meaning. A count is a positive number. Both come from the command line or from a file.
-/

namespace GatewayProbe.Settings

open GatewayProbe.Text

/-- A command to be executed, with a timeout of its own perhaps. -/
structure CommandText where
  program : String
  arguments : List String
  timeout : Option Duration
  deriving DecidableEq, Repr, Inhabited

/-- The command that a text gives, if it has any words. -/
def CommandText.parse? (s : String) : Option CommandText :=
  match wordsOf s with
  | [] => none
  | program :: arguments => some ⟨program, arguments, none⟩

/-- The command for the gateway, where `timeout` is used if the command has none. -/
def CommandText.command (c : CommandText) (timeout : Duration) : Gateway.Command :=
  ⟨c.program, c.arguments, c.timeout.getD timeout⟩

/-- Why a text is no count. -/
inductive CountFault where
  | tooSmall
  | number (cause : IntegerError)
  deriving DecidableEq, Repr

/-- The wording of each fault. -/
def CountFault.message : CountFault → String
  | .tooSmall => "Value must be >= 1."
  | .number cause => "Invalid value: " ++ cause.message

/-- Refuse the number zero. -/
def requirePositive (n : Nat) : Except CountFault Nat :=
  if n = 0 then .error .tooSmall else .ok n

/-- Read a positive number. -/
def parseCount (s : String) : Except CountFault Nat :=
  match readUnsigned max64 s.toList with
  | .error cause => .error (.number cause)
  | .ok n => requirePositive n

end GatewayProbe.Settings
