import GatewayProbe.Gateway.Task

/-!
# Calls, replies and their faults

There are three calls: a health check, the submission of a command, and the query of
a task. A reply comes after some time; it is a body, a refusal with a status code, or
none because the gateway was not reached. Latencies are kept under names: one for each
place that calls the gateway, one for each program executed, and one for the whole
time of a task.
-/

namespace GatewayProbe.Gateway

/-- A call to the gateway. -/
inductive Call where
  | health
  | execute (command : Command)
  | status (taskId : String)
  deriving DecidableEq, Repr, Inhabited

/-- The three endpoints of a gateway. -/
inductive Endpoint where
  | health
  | execute
  | status
  deriving DecidableEq, Repr

/-- The name of an endpoint. -/
def Endpoint.name : Endpoint → String
  | .health => "Health Check"
  | .execute => "Execute"
  | .status => "Get Task Status"

/-- The endpoint of a call. -/
def Call.endpoint : Call → Endpoint
  | .health => .health
  | .execute _ => .execute
  | .status _ => .status

/-- The name under which status queries of a poll are measured. -/
def pollName : String := "Poll Task Status"

/-- The name under which the time from submission to a final state is measured. -/
def completionName : String := "Task Completion"

/-- The name under which submissions of a program are measured. -/
def executeName (program : String) : String := Endpoint.execute.name ++ " " ++ program

/-- What is wrong with the body of a reply. -/
inductive BodyFault where
  | notJson
  | emptyTaskId
  | missingTaskId
  | missingStatus
  | missingTaskStatus (taskId : String)
  deriving DecidableEq, Repr

/-- The wording of each fault of a body. -/
def BodyFault.message : BodyFault → String
  | .notJson => "invalid JSON"
  | .emptyTaskId => "empty task_id"
  | .missingTaskId => "missing task_id"
  | .missingStatus => "missing status"
  | .missingTaskStatus taskId => s!"missing status for task {taskId}"

/-- Why a call did not give what was asked for. -/
inductive Fault where
  /-- The gateway was not reached. -/
  | transport (endpoint : Endpoint) (elapsed : Duration)
  /-- The gateway refused with a status code. -/
  | unexpectedStatus (endpoint : Endpoint) (status : Nat) (elapsed : Duration) (body : String)
  /-- The body is not what it should be. -/
  | malformed (endpoint : Endpoint) (fault : BodyFault)
  /-- The state of the task is outside the vocabulary. -/
  | unknownStatus (taskId : String) (value : String)
  /-- The task was not seen to finish in time. -/
  | pollTimeout (taskId : String) (elapsed maxWait : Duration) (last : TaskStatus)
  deriving DecidableEq, Repr

/-- The wording of each fault. -/
def Fault.message : Fault → String
  | .transport endpoint elapsed =>
    "Transport failure calling " ++ endpoint.name ++ " after " ++ elapsed.text
  | .unexpectedStatus endpoint status elapsed body =>
    endpoint.name ++ " returned HTTP " ++ toString status ++ " after " ++ elapsed.text
      ++ ": " ++ body
  | .malformed endpoint fault =>
    "Malformed response from " ++ endpoint.name ++ ": " ++ fault.message
  | .unknownStatus taskId value => s!"Task {taskId} reported unknown status '{value}'"
  | .pollTimeout taskId elapsed maxWait last =>
    "Task " ++ taskId ++ " not terminal after " ++ elapsed.text ++ " (max wait " ++
      maxWait.text ++ ", last status " ++ last.name ++ ")"

/-- What a gateway answers to a call. -/
inductive Answer where
  /-- A body with a status code of success. -/
  | body (bytes : List UInt8)
  /-- Any other status code, with its body as text. -/
  | refused (status : Nat) (body : String)
  /-- No answer at all. -/
  | unreachable
  deriving DecidableEq, Repr, Inhabited

/-- An answer and the time it takes. -/
structure Reply where
  latency : Duration
  answer : Answer
  deriving DecidableEq, Repr, Inhabited

/-- The body of an answer that took some time, or the fault it is for the caller. -/
def Answer.body? (endpoint : Endpoint) (elapsed : Duration) : Answer → Except Fault (List UInt8)
  | .body bytes => .ok bytes
  | .refused status text => .error (.unexpectedStatus endpoint status elapsed text)
  | .unreachable => .error (.transport endpoint elapsed)

end GatewayProbe.Gateway
