import GatewayProbe.Gateway.Body
import GatewayProbe.Url.Address

/-!
# Where the gateway is reached

The gateway lives under a base address of the web. Its three resources lie below the
path of the base, whether or not that ends in a slash, and a task lies below the
resource of tasks as one more segment. A request is the method, the target and,
for a submission, a body.
-/

namespace GatewayProbe.Gateway

open GatewayProbe.Url

/-- Why there is no gateway under a base address. -/
inductive BaseFault where
  | invalid (url : String) (cause : Url.Fault)
  | unsupported (url : String)
  deriving DecidableEq, Repr

/-- The wording of each fault. -/
def BaseFault.message : BaseFault → String
  | .invalid url cause => "Invalid URL '" ++ url ++ "': " ++ cause.message
  | .unsupported url =>
    s!"Unsupported gateway URL '{url}'. Use an http:// or https:// base URL."

/-- The addresses of the resources of a gateway. -/
structure Routes where
  health : Address
  execute : Address
  tasks : Address
  deriving DecidableEq, Repr

namespace Routes

/-- Whether a text ends in a slash. -/
def endsInSlash (text : String) : Bool := text.toList.getLast? = some '/'

/-- The base with a slash at the end of its path. -/
def rooted (base : Address) : Address :=
  if endsInSlash base.path.text then base else base.withPath (base.path.text ++ "/")

/-- The resources below a base whose path ends in a slash. -/
def below (base : Address) : Routes :=
  { health := base.join "health"
    execute := base.join "v1/execute"
    tasks := base.join "v1/tasks/" }

/-- The resources below the base address that a text gives. -/
def ofBase (text : String) : Except BaseFault Routes :=
  match Address.parse text with
  | .error cause => .error (.invalid text cause)
  | .ok base =>
    match base.path with
    | .plain _ => .error (.unsupported text)
    | .segments _ =>
      if base.scheme = "http" ∨ base.scheme = "https" then .ok (below (rooted base))
      else .error (.unsupported text)

/-- The address of a task. -/
def task (r : Routes) (taskId : String) : Address :=
  match r.tasks.path with
  | .segments names => { r.tasks with path := .segments (pushText (opened names) taskId) }
  | .plain _ => r.tasks

end Routes

/-- A request of the web. -/
structure Request where
  method : String
  /-- Path and query. -/
  target : String
  contentType : Option String
  body : String
  deriving DecidableEq, Repr

/-- The path and the query of an address. -/
def target (a : Address) : String :=
  a.path.text ++ (a.query.elim "" fun q => "?" ++ q)

/-- The request that a call is. -/
def Routes.request (r : Routes) : Call → Request
  | .health => ⟨"GET", target r.health, none, ""⟩
  | .execute command => ⟨"POST", target r.execute, some "application/json", command.requestText⟩
  | .status taskId => ⟨"GET", target (r.task taskId), none, ""⟩

/-- The longest beginning of a refusal that is kept, in characters. -/
def excerptLength : Nat := 512

/-- What the caller sees of a reply: a late one is no answer, and only the beginning of a
refusal is kept. -/
def Reply.received (timeout : Duration) (r : Reply) : Reply :=
  if timeout.nanos < r.latency.nanos then ⟨timeout, .unreachable⟩
  else
    match r.answer with
    | .refused status body =>
      { r with answer := .refused status (String.ofList (body.toList.take excerptLength)) }
    | _ => r

end GatewayProbe.Gateway
