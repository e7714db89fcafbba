import GatewayProbe.Clock
import GatewayProbe.Text.Ascii
import GatewayProbe.Text.Blank

/-!
# Commands, tasks and their states

A gateway runs commands as tasks. A task is known by its id and is pending, running
or in one of three final states. On the wire each state has several names, with or
without a leading mark, in any case of ASCII letters; a name outside this vocabulary
has no state.
-/

namespace GatewayProbe.Gateway

open GatewayProbe.Text

/-- A command line for the gateway and the time it may take. -/
structure Command where
  program : String
  arguments : List String
  timeout : Duration
  deriving DecidableEq, Repr, Inhabited

/-- The commands that are run when none are given. -/
def Command.standardMix (timeout : Duration) : List Command :=
  [⟨"ls", ["-la", "/workspace"], timeout⟩,
   ⟨"cat", ["/etc/passwd"], timeout⟩,
   ⟨"find", ["/workspace", "-type", "f", "-name", "*.txt"], timeout⟩,
   ⟨"echo", ["Hello, World!"], timeout⟩,
   ⟨"grep", ["-i", "root", "/etc/passwd"], timeout⟩]

/-- The states of a task. -/
inductive TaskStatus where
  | pending
  | running
  | completed
  | failed
  | error
  deriving DecidableEq, Repr, Inhabited

namespace TaskStatus

/-- The states that a task does not leave. -/
def isTerminal : TaskStatus → Bool
  | .pending | .running => false
  | .completed | .failed | .error => true

/-- The place of a state on the way of a task. -/
def rank : TaskStatus → Nat
  | .pending => 0
  | .running => 1
  | .completed | .failed | .error => 2

/-- The name of a state. -/
def name : TaskStatus → String
  | .pending => "PENDING"
  | .running => "RUNNING"
  | .completed => "COMPLETED"
  | .failed => "FAILED"
  | .error => "ERROR"

/-- All states. -/
def all : List TaskStatus := [.pending, .running, .completed, .failed, .error]

/-- The state with exactly the given name. -/
def ofName? (s : String) : Option TaskStatus := all.find? fun st => st.name = s

/-- The names that a state has on the wire, without the leading mark. -/
def wireNames : TaskStatus → List String
  | .pending => ["PENDING", "CREATED", "QUEUED"]
  | .running => ["RUNNING"]
  | .completed => ["COMPLETED"]
  | .failed => ["FAILED"]
  | .error => ["ERROR", "CANCELLED", "CANCELED", "TIMED_OUT", "TIMEDOUT"]

/-- The mark that may stand in front of a name on the wire. -/
def wireMark : List Char := "TASK_".toList

/-- A wire name without blanks around it, in upper case and without the mark. -/
def normalized (s : String) : List Char :=
  let name := upper (trim s.toList)
  (afterStart wireMark name).getD name

/-- The state that a text on the wire names. -/
def ofWire? (s : String) : Option TaskStatus :=
  all.find? fun st => isOneOf st.wireNames (normalized s)

end TaskStatus

/-- What a finished task leaves behind. -/
structure TaskResult where
  stdout : String
  stderr : String
  exitCode : Option Int
  deriving DecidableEq, Repr, Inhabited

/-- What the gateway says about a task. -/
structure TaskInfo where
  taskId : String
  status : TaskStatus
  result : Option TaskResult
  deriving DecidableEq, Repr, Inhabited

/-- The output of a task, empty if there is no result. -/
def TaskInfo.stdout (info : TaskInfo) : String := (info.result.map (·.stdout)).getD ""

/-- An accepted submission. -/
structure Handle where
  taskId : String
  /-- When the request was sent. -/
  submittedAt : Nat
  deriving DecidableEq, Repr, Inhabited

/-- Whether a health text reports a gateway in service. -/
def isHealthy (status : String) : Bool :=
  let name := lower (trim status.toList)
  name = "healthy".toList || (afterStart "ok".toList name).isSome

end GatewayProbe.Gateway
