import GatewayProbe.Gateway.Call
import GatewayProbe.Json.Document
import GatewayProbe.Json.Field

/-!
# Request and reply bodies

Bodies are JSON. A submission has the program, its arguments and a timeout in whole
seconds, at least one. A reply to it has the id of the new task. A status reply has
the state at the top or inside the task information, and possibly a result; the one
at the top decides.
-/

namespace GatewayProbe.Gateway

open GatewayProbe.Json GatewayProbe.Text

/-- The timeout of a command on the wire, in whole seconds and at least one. -/
def Command.wireSeconds (c : Command) : Nat := max c.timeout.wholeSeconds 1

/-- The body of a submission. -/
def Command.document (c : Command) : Document :=
  .record [("command", .text c.program), ("args", .list (c.arguments.map .text)),
    ("timeout", .count c.wireSeconds)]

/-- The text of the body of a submission. -/
def Command.requestText (c : Command) : String := c.document.compact

/-- The state that a JSON value is: its name, or a record with nothing under that name. -/
def TaskStatus.ofDocument? : Value → Option TaskStatus
  | .string spelling => (spelledText? spelling).bind ofName?
  | .record [(spelling, .null)] => (spelledText? spelling).bind ofName?
  | _ => none

/-- The id of a new task as its reply holds it. -/
def taskIdField? (v : Value) : Option (Option String) :=
  match v.fields? ["task_id"] with
  | some [id] => optional? Value.text? id
  | _ => none

/-- The id of the task that a reply to a submission announces. -/
def readTaskId (body : List UInt8) : Except Fault String :=
  match (parse body).bind taskIdField? with
  | none => .error (.malformed .execute .notJson)
  | some none => .error (.malformed .execute .missingTaskId)
  | some (some id) =>
    if isAllBlank id then .error (.malformed .execute .emptyTaskId) else .ok id

/-- The only field of a record that holds a status. -/
def statusField? (v : Value) : Option (Option String) :=
  match v.fields? ["status"] with
  | some [status] => optional? Value.text? status
  | _ => none

/-- The status text of a health reply. -/
def readHealth (body : List UInt8) : Except Fault String :=
  match (parse body).bind statusField? with
  | none => .error (.malformed .health .notJson)
  | some none => .error (.malformed .health .missingStatus)
  | some (some status) => .ok status

/-- The result of a task, where what is absent is empty. -/
def result? (v : Value) : Option TaskResult :=
  match v.fields? ["stdout", "stderr", "exit_code"] with
  | some [out, err, code] => do
    let out ← optional? Value.text? out
    let err ← optional? Value.text? err
    let code ← optional? (Value.integer? (-(2 ^ 31)) (2 ^ 31 - 1)) code
    return ⟨out.getD "", err.getD "", code⟩
  | _ => none

/-- What a status reply holds: the two places of the state and the result. -/
structure StatusBody where
  flat : Option String
  nested : Option String
  result : Option TaskResult
  deriving DecidableEq, Repr

/-- Read the parts of a status reply. -/
def statusBody? (v : Value) : Option StatusBody :=
  match v.fields? ["status", "task_info", "result"] with
  | some [status, info, result] => do
    let flat ← optional? Value.text? status
    let nested ← optional? statusField? info
    let result ← optional? result? result
    return ⟨flat, nested.join, result⟩
  | _ => none

/-- The state text that decides. -/
def StatusBody.deciding? (b : StatusBody) : Option String := b.flat.or b.nested

/-- What the parts of a status reply say about a task. -/
def StatusBody.info (taskId : String) (b : StatusBody) : Except Fault TaskInfo :=
  match b.deciding? with
  | none => .error (.malformed .status (.missingTaskStatus taskId))
  | some text =>
    match TaskStatus.ofWire? text with
    | none => .error (.unknownStatus taskId text)
    | some status => .ok ⟨taskId, status, b.result⟩

/-- What a status reply says about a task. -/
def readTaskInfo (taskId : String) (body : List UInt8) : Except Fault TaskInfo :=
  match (parse body).bind statusBody? with
  | none => .error (.malformed .status .notJson)
  | some b => b.info taskId

/-- The health text that an answer gives. -/
def Answer.health (elapsed : Duration) (a : Answer) : Except Fault String :=
  a.body? .health elapsed >>= readHealth

/-- The new task that an answer to a submission gives. -/
def Answer.taskId (elapsed : Duration) (a : Answer) : Except Fault String :=
  a.body? .execute elapsed >>= readTaskId

/-- The state of a task that an answer gives. -/
def Answer.taskInfo (taskId : String) (elapsed : Duration) (a : Answer) : Except Fault TaskInfo :=
  a.body? .status elapsed >>= readTaskInfo taskId

end GatewayProbe.Gateway
