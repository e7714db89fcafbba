import GatewayProbe.Gateway.Body
import GatewayProbe.Load.Plan
import GatewayProbe.Metrics.Aggregator
import GatewayProbe.Metrics.Tally

/-!
# Virtual users

A virtual user waits to be released, and then does one iteration after the other until
the deadline or a shutdown. An iteration checks the health of the gateway, submits a
command and polls its task to the end, or looks at a task submitted before. Between
what a user does it waits: for an answer, for the next query of a poll, for the slot of
its next iteration. What it does at once, when such a wait is over, is one step.
-/

namespace GatewayProbe.Load

open GatewayProbe.Gateway

/-- What a step of a user adds to the records of a run. -/
inductive Effect where
  | sample (s : Metrics.Sample)
  | failure (kind : Metrics.FailureKind)
  | message (m : Message)

/-- What a user decides to do in an iteration. -/
inductive Choice where
  | health
  /-- Execute the command at a place of the plan. -/
  | execute (place : Nat)
  /-- Look at the task at a place among those seen. -/
  | status (place : Nat)
  /-- Look at a task when none has been seen. -/
  | idle
  deriving DecidableEq, Repr

/-- A submitted task on its way to the end. -/
structure Work where
  program : String
  submittedAt : Nat
  poll : Poll
  deriving DecidableEq, Repr

/-- What the answer to a call is wanted for. -/
inductive Purpose where
  | health
  | submission (command : Command)
  | statusCheck (taskId : String)
  | query (work : Work)
  deriving DecidableEq, Repr

/-- The call that serves a purpose. -/
def Purpose.call : Purpose → Call
  | .health => .health
  | .submission command => .execute command
  | .statusCheck taskId => .status taskId
  | .query work => .status work.poll.taskId

/-- Where a user stands between two steps. -/
inductive Stage where
  /-- It is not released yet. -/
  | waiting
  /-- A call made at a moment is under way. -/
  | calling (purpose : Purpose) (sent : Nat)
  /-- The next query of a poll is due at a moment. -/
  | resting (work : Work) (due : Nat)
  /-- The next iteration is due at a moment. -/
  | pacing (due : Nat)
  /-- It has stopped. -/
  | finished
  /-- It has gone without having been released. -/
  | gone
  deriving DecidableEq, Repr

/-- What a user does that others can see. -/
inductive Deed where
  | start
  | iteration (choice : Choice)
  | call (q : Call)
  | accepted (taskId : String)
  /-- The iteration has come to its end. -/
  | ended
  deriving DecidableEq, Repr

/-- A virtual user. -/
structure User where
  stream : Random.Stream
  stage : Stage := .waiting
  /-- When it was released. -/
  startedAt : Nat := 0
  /-- The ids of its accepted submissions, in order. -/
  seen : Array String := #[]
  iterations : Nat := 0
  idleChecks : Nat := 0
  /-- What it did and when, the latest first. -/
  diary : List (Nat × Deed) := []
  deriving Inhabited

namespace User

/-- Note a deed. -/
def note (u : User) (now : Nat) (d : Deed) : User := { u with diary := (now, d) :: u.diary }

/-- Make a call. -/
def ask (u : User) (now : Nat) (purpose : Purpose) : User :=
  { u.note now (.call purpose.call) with stage := .calling purpose now }

/-- Stop. -/
def finish (u : User) : User := { u with stage := .finished }

/-- Wait for the slot of the next iteration, if there is one before the deadline. -/
def awaitSlot (deadline : Nat) (u : User) (now : Nat) : Option Nat → User
  | none => u.finish
  | some slot =>
    if deadline ≤ slot then u.finish else { u with stage := .pacing (max now (Clock.wake slot)) }

/-- Finish an iteration; the next one is due at its slot, if that lies before the deadline. -/
def endIteration (plan : Plan) (deadline : Nat) (u : User) (now : Nat) : User :=
  let done := u.iterations + 1
  { u.note now .ended with iterations := done }.awaitSlot deadline now
    (slot? u.startedAt plan.rate done)

/-- Execute a command of the plan. -/
def beginExecute (plan : Plan) (deadline : Nat) (u : User) (now : Nat) : User :=
  let (place, stream) := Random.drawIndex plan.commands.length u.stream
  match plan.commands[place]? with
  | none => u.endIteration plan deadline now
  | some command =>
    ({ u with stream }.note now (.iteration (.execute place))).ask now (.submission command)

/-- Look at a task seen before, if there is one. -/
def beginStatus (plan : Plan) (deadline : Nat) (u : User) (now : Nat) : User :=
  if u.seen.isEmpty then
    { u.note now (.iteration .idle) with idleChecks := u.idleChecks + 1 }.endIteration
      plan deadline now
  else
    let (place, stream) := Random.drawIndex u.seen.size u.stream
    match u.seen[place]? with
    | none => u.endIteration plan deadline now
    | some taskId =>
      ({ u with stream }.note now (.iteration (.status place))).ask now (.statusCheck taskId)

/-- Begin an iteration of a chosen kind. -/
def beginKind (plan : Plan) (deadline : Nat) (u : User) (now : Nat) : TaskKind → User
  | .health => (u.note now (.iteration .health)).ask now .health
  | .execute => u.beginExecute plan deadline now
  | .status => u.beginStatus plan deadline now

/-- Begin the next iteration, unless the run is over. -/
def beginIteration (plan : Plan) (deadline : Nat) (stopped : Bool) (u : User) (now : Nat) : User :=
  if deadline ≤ now || stopped then u.finish
  else
    let (kind, stream) := plan.mix.pick u.stream
    { u with stream }.beginKind plan deadline now kind

/-- Be released. -/
def start (plan : Plan) (deadline : Nat) (stopped : Bool) (u : User) (now : Nat) : User :=
  { u with startedAt := now }.note now .start |>.beginIteration plan deadline stopped now

/-- What a fault adds to the records. -/
def faultEffects (f : Fault) : List Effect :=
  [.failure (.ofFault f), .message (warning f.message)]

/-- What the outcome of a call measured under a name adds to the records. -/
def callEffects {α : Type} (name : String) (elapsed : Duration) : Except Fault α → List Effect
  | .ok _ => [.sample (.ofDuration name elapsed true)]
  | .error f => .sample (.ofDuration name elapsed false) :: faultEffects f

/-- What the end of a task adds to the records. -/
def completionEffects (work : Work) (now : Nat) (status : TaskStatus) : List Effect :=
  let total := Clock.since work.submittedAt now
  if status = .completed then [.sample (.ofDuration completionName total true)]
  else
    [.sample (.ofDuration completionName total false), .failure .taskFailed,
      .message (warning ("Task finished as " ++ status.name))]

/-- Go on after the answer to a submission. -/
def receiveTaskId (plan : Plan) (deadline : Nat) (u : User) (now sent : Nat) (program : String) :
    Except Fault String → User
  | .error _ => u.endIteration plan deadline now
  | .ok taskId =>
    ({ u with seen := u.seen.push taskId }.note now (.accepted taskId)).ask now
      (.query ⟨program, sent, .begin taskId now⟩)

/-- Go on after the answer to a query of a poll. -/
def receiveInfo (plan : Plan) (deadline : Nat) (u : User) (now : Nat) (work : Work)
    (outcome : Except Fault TaskInfo) : User × List Effect :=
  match work.poll.receive plan.poll now outcome with
  | .finished (.ok info) =>
    (u.endIteration plan deadline now, completionEffects work now info.status)
  | .finished (.error f) => (u.endIteration plan deadline now, faultEffects f)
  | .sleep length poll =>
    ({ u with stage := .resting { work with poll } (Clock.wake (Clock.after now length)) }, [])

/-- What a query of a poll adds to the records whatever follows from it. -/
def queryEffects (work : Work) (elapsed : Duration) (outcome : Except Fault TaskInfo) :
    List Effect :=
  .sample (.ofDuration pollName elapsed outcome.isOk) ::
    (work.poll.backwards? outcome).elim [] fun m => [.message m]

/-- Go on after an answer that was wanted for a purpose. -/
def receiveFor (plan : Plan) (deadline : Nat) (u : User) (now sent : Nat) (answer : Answer) :
    Purpose → User × List Effect
  | .health =>
    let elapsed := Clock.since sent now
    (u.endIteration plan deadline now,
      callEffects Endpoint.health.name elapsed (answer.health elapsed))
  | .submission command =>
    let elapsed := Clock.since sent now
    let outcome := answer.taskId elapsed
    (u.receiveTaskId plan deadline now sent command.program outcome,
      callEffects (executeName command.program) elapsed outcome)
  | .statusCheck taskId =>
    let elapsed := Clock.since sent now
    (u.endIteration plan deadline now,
      callEffects Endpoint.status.name elapsed (answer.taskInfo taskId elapsed))
  | .query work =>
    let elapsed := Clock.since sent now
    let outcome := answer.taskInfo work.poll.taskId elapsed
    let (u, effects) := u.receiveInfo plan deadline now work outcome
    (u, queryEffects work elapsed outcome ++ effects)

/-- Go on after the answer to the call under way; there is no such step without one. -/
def receive? (plan : Plan) (deadline : Nat) (u : User) (now : Nat) (answer : Answer) :
    Option (User × List Effect) :=
  match u.stage with
  | .calling purpose sent => some (u.receiveFor plan deadline now sent answer purpose)
  | _ => none

/-- Go on when the wait for a query or for a slot is over. Others may keep the user from
going on at once. -/
def wake? (plan : Plan) (deadline : Nat) (stopped : Bool) (u : User) (now : Nat) : Option User :=
  match u.stage with
  | .resting work due => if due ≤ now then some (u.ask now (.query work)) else none
  | .pacing due =>
    if due ≤ now then some (u.beginIteration plan deadline stopped now) else none
  | _ => none

/-- Whether a user has been released at some time. -/
def hasStarted (u : User) : Bool :=
  match u.stage with
  | .waiting | .gone => false
  | _ => true

/-- Whether a user does nothing any more. -/
def isOver (u : User) : Bool :=
  match u.stage with
  | .finished | .gone => true
  | _ => false

/-- The calls of a user, the latest first. -/
def calls (u : User) : List Call :=
  u.diary.filterMap fun entry =>
    match entry.2 with
    | .call q => some q
    | _ => none

end User

end GatewayProbe.Load
