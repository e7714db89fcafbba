import GatewayProbe.Load.Outcome
import GatewayProbe.Load.User

/-!
# Load runs as sequences of events

A run is a state that changes by events. Users are released by permits, which a user
gives back when it stops; every user works for itself, and all share the records. An
event happens at a moment, and moments do not go back. Which of the possible events
comes next is left open, and so is every answer of the gateway: all runs there can be
are the sequences of events that can be replayed.
-/

namespace GatewayProbe.Load

open GatewayProbe.Gateway

/-- What can happen in a run. -/
inductive Event where
  /-- Permits are given out. -/
  | release
  /-- No more permits will be given out. -/
  | endRelease
  /-- The shutdown is announced, perhaps once more. -/
  | shutdown
  /-- A user gets a permit and starts. -/
  | start (user : Nat)
  /-- A user that waits for a permit goes away. -/
  | leave (user : Nat)
  /-- The call of a user is answered. -/
  | answer (user : Nat) (answer : Answer)
  /-- The wait of a user is over. -/
  | wake (user : Nat)
  /-- A user stops for the shutdown while it waits for its next slot. -/
  | stop (user : Nat)
  deriving DecidableEq, Repr

/-- A load run. -/
structure Run where
  plan : Plan
  started : Nat
  deadline : Nat
  now : Nat
  users : Array User
  /-- The permits that no user holds. -/
  permits : Nat := 0
  /-- How often permits have been given out. -/
  releases : Nat := 0
  /-- For how many users permits have been given out. -/
  released : Nat := 0
  /-- Whether more permits may be given out. -/
  releasing : Bool := true
  /-- Whether the shutdown has been announced. -/
  stopped : Bool := false
  aggregator : Metrics.Aggregator
  tally : Metrics.Tally := {}
  /-- The messages, the latest first. -/
  log : List Message := []
  deriving Inhabited

namespace Run

/-- The run of a plan before its first event. Users without a seed draw from the streams that
the system gives them. -/
def ofPlan (plan : Plan) (started deadline : Nat) (entropy : Nat → Random.Stream) : Run :=
  { plan, started, deadline, now := started
    users := ((List.range plan.users).map fun id => { stream := plan.stream entropy id }).toArray
    aggregator := .create started }

/-- Begin a run, if the plan leaves something to do and its end is a moment. -/
def begin (plan : Plan) (started : Nat)
    (entropy : Nat → Random.Stream := Random.Stream.numbered) : Except Invalid Run := do
  plan.validate
  match plan.deadline? started with
  | none => .error (.duration .overflow)
  | some deadline => .ok (ofPlan plan started deadline entropy)

/-- Where a user stands. -/
def stage? (r : Run) (user : Nat) : Option Stage := r.users[user]?.map (·.stage)

/-- Add to the records. -/
def apply (r : Run) : Effect → Run
  | .sample s => { r with aggregator := r.aggregator.record s }
  | .failure kind => { r with tally := r.tally.record kind }
  | .message m => { r with log := m :: r.log }

/-- Change a user. A permit comes back when the user stops. -/
def put (r : Run) (user : Nat) (u : User) : Run :=
  { r with
    users := r.users.setIfInBounds user u
    permits := if u.stage = .finished then r.permits + 1 else r.permits }

/-- When permits are given out next. -/
def nextRelease (r : Run) : Nat := r.started + r.releases * r.plan.spawnInterval.nanos

/-- Give out permits. -/
def release (r : Run) : Run :=
  let n := min r.plan.spawnRate (r.plan.users - r.released)
  let r := { r with
    permits := r.permits + n
    releases := r.releases + 1
    released := r.released + n }
  if r.released = r.plan.users then
    { r with
      releasing := false
      log := information ("All " ++ toString r.plan.users ++ " virtual users released") :: r.log }
  else r

/-- Whether users that wait for a permit may go away at a moment. -/
def isClosing (r : Run) (moment : Nat) : Bool := r.stopped || r.deadline ≤ moment

/-- The state after an event that happens now, if it can happen. -/
def happen (r : Run) : Event → Option Run
  | .release => if r.releasing && r.nextRelease ≤ r.now then some r.release else none
  | .endRelease =>
    if r.releasing && r.isClosing r.now then some { r with releasing := false } else none
  | .shutdown => some { r with stopped := true }
  | .start user => do
    let u ← r.users[user]?
    if u.stage = .waiting ∧ 0 < r.permits then
      some ({ r with permits := r.permits - 1 }.put user
        (u.start r.plan r.deadline r.stopped r.now))
    else none
  | .leave user => do
    let u ← r.users[user]?
    if u.stage = .waiting && r.isClosing r.now then some (r.put user { u with stage := .gone })
    else none
  | .answer user answer => do
    let u ← r.users[user]?
    let (u, effects) ← u.receive? r.plan r.deadline r.now answer
    some (effects.foldl apply (r.put user u))
  | .wake user => do
    let u ← r.users[user]?
    let u ← u.wake? r.plan r.deadline r.stopped r.now
    some (r.put user u)
  | .stop user => do
    let u ← r.users[user]?
    match u.stage with
    | .pacing _ => if r.stopped then some (r.put user u.finish) else none
    | _ => none

/-- The state after an event at a moment, if it can happen then. -/
def step (r : Run) (moment : Nat) (e : Event) : Option Run :=
  if r.now ≤ moment then { r with now := moment }.happen e else none

/-- The state after a sequence of events, if all of them can happen. -/
def replay : List (Nat × Event) → Run → Option Run
  | [], r => some r
  | (moment, e) :: rest, r => (r.step moment e).bind (replay rest)

/-- Whether nothing more can happen: all permits are given out and all users are over. -/
def isOver (r : Run) : Bool := !r.releasing && r.users.all User.isOver

/-- What a run leaves behind when it ends now. -/
def outcome (r : Run) : Outcome :=
  { usersStarted := r.users.toList.countP User.hasStarted
    iterations := (r.users.toList.map User.iterations).sum
    idleChecks := (r.users.toList.map User.idleChecks).sum
    report := (r.aggregator.freeze r.now).report r.now
    tally := r.tally }

/-- The message about a run that has ended. -/
def closing (o : Outcome) : Message :=
  information ("Load finished: " ++ toString o.usersStarted ++ " users, " ++
    toString o.iterations ++ " iterations in " ++ o.report.window.text)

/-- All messages in order, with the closing one. -/
def messages (r : Run) : List Message := r.log.reverse ++ [closing r.outcome]

/-- All calls made in a run, user by user in order. -/
def calls (r : Run) : List Call := r.users.toList.flatMap fun u => u.calls.reverse

end Run

end GatewayProbe.Load
