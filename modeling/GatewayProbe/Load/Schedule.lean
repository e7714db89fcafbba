import GatewayProbe.Gateway.Conversation
import GatewayProbe.Load.Run

/-!
# The order in which a run happens

A schedule carries a run through its events against a gateway. Who can go on takes a
turn, in the order in which the turns became possible, and goes on until it has to wait
for something. When nobody can go on, the time jumps to the first timer. Timers set for
the same moment go off in the order in which they were set, and the releasing of users
comes before everything else at that moment. Permits go to the users in the order in
which they began to wait.

A schedule only ever changes its run by events that can happen, so its run is one of
the runs there can be.
-/

namespace GatewayProbe.Load

open GatewayProbe.Gateway

/-- A turn: what goes on now. -/
inductive Turn where
  /-- The shutdown is announced. -/
  | shutdown
  /-- A user asks for a permit. -/
  | arrive (user : Nat)
  /-- A user takes the permit that has been kept for it. -/
  | enter (user : Nat)
  /-- The call of a user is answered. -/
  | answer (user : Nat) (answer : Answer)
  /-- The wait of a user is over. -/
  | wake (user : Nat)
  /-- The deadline or the shutdown reaches a user that waits. -/
  | quit (user : Nat)
  deriving Inhabited

/-- What a timer is set for. -/
inductive Alarm where
  /-- The next release of users, or the end of all releases. -/
  | releases
  | turn (t : Turn)
  deriving Inhabited

/-- A run on its way against a gateway whose state is in `σ`. -/
structure Schedule (σ : Type) where
  run : Run
  gateway : σ
  now : Nat
  /-- The timers by moment, of one moment the first set first. -/
  timers : List (Nat × Alarm) := []
  /-- The turns that are possible, in order. -/
  ready : List Turn := []
  /-- The users that wait for a permit, in order. -/
  queue : List Nat := []
  /-- How many permits are kept for users that have not taken them yet. -/
  kept : Nat := 0

namespace Schedule

variable {σ : Type}

/-- Put a timer behind all that go off no later. -/
def insertTimer (moment : Nat) (a : Alarm) : List (Nat × Alarm) → List (Nat × Alarm)
  | [] => [(moment, a)]
  | t :: rest => if moment < t.1 then (moment, a) :: t :: rest else t :: insertTimer moment a rest

/-- Set a timer. -/
def setTimer (s : Schedule σ) (moment : Nat) (a : Alarm) : Schedule σ :=
  { s with timers := insertTimer moment a s.timers }

/-- Let an event happen now; one that cannot happen is passed over. -/
def fire (s : Schedule σ) (e : Event) : Schedule σ :=
  { s with run := (s.run.step s.now e).getD s.run }

/-- A turn that is taken next. -/
def goOn (s : Schedule σ) (t : Turn) : Schedule σ := { s with ready := t :: s.ready }

/-- A turn that is taken after all others. -/
def lineUp (s : Schedule σ) (t : Turn) : Schedule σ := { s with ready := s.ready ++ [t] }

/-- Keep free permits for the users that wait for one. -/
def grant (s : Schedule σ) : Schedule σ :=
  let free := s.run.permits - s.kept
  let lucky := s.queue.take free
  { s with
    queue := s.queue.drop free
    kept := s.kept + lucky.length
    ready := s.ready ++ lucky.map .enter }

/-- Go on at a moment, now or when a timer goes off. -/
def goOnAt (s : Schedule σ) (moment : Nat) (t : Turn) : Schedule σ :=
  if moment ≤ s.now then s.goOn t else s.setTimer moment (.turn t)

/-- Go on with a user after one of its steps. -/
def follow (service : Service σ) (s : Schedule σ) (user : Nat) : Schedule σ :=
  match s.run.stage? user with
  | some (.calling purpose sent) =>
    let (reply, gateway) := service s.gateway s.now purpose.call
    { s with gateway }.goOnAt (Conversation.arrival sent reply.latency) (.answer user reply.answer)
  | some (.resting _ due) => s.goOnAt due (.wake user)
  | some (.pacing due) => if s.run.stopped then s.goOn (.quit user) else s.goOnAt due (.wake user)
  | some .finished => s.grant
  | _ => s

/-- The users that an announced shutdown reaches: those that wait for a permit or a slot. -/
def reached (r : Run) : List Nat :=
  (List.range r.users.size).filter fun user =>
    match r.stage? user with
    | some .waiting | some (.pacing _) => true
    | _ => false

/-- Stop a user that waits for a permit or for its slot. -/
def quit (s : Schedule σ) (user : Nat) : Schedule σ :=
  match s.run.stage? user with
  | some .waiting =>
    let isQueued := s.queue.contains user
    { s with
      queue := s.queue.filter (· ≠ user)
      kept := if isQueued then s.kept else s.kept - 1 }.fire (.leave user) |>.grant
  | some (.pacing _) => (s.fire (.stop user)).grant
  | _ => s

/-- Take a turn. -/
def take (service : Service σ) (s : Schedule σ) : Turn → Schedule σ
  | .shutdown =>
    let s := (s.fire .shutdown).fire .endRelease
    { s with ready := s.ready ++ (reached s.run).map .quit }
  | .arrive user =>
    if s.run.stopped then s.fire (.leave user)
    else if s.kept < s.run.permits then (s.fire (.start user)).follow service user
    else
      { s with queue := s.queue ++ [user] }.setTimer (Clock.wake s.run.deadline)
        (.turn (.quit user))
  | .enter user =>
    match s.run.stage? user with
    | some .waiting =>
      if s.run.isClosing s.now then s.quit user
      else { s with kept := s.kept - 1 }.fire (.start user) |>.follow service user
    | _ => s
  | .answer user answer => (s.fire (.answer user answer)).follow service user
  | .wake user => (s.fire (.wake user)).follow service user
  | .quit user => s.quit user

/-- Release users as often as it is time to, and set the timer for the next time. -/
def release : Nat → Schedule σ → Schedule σ
  | 0, s => s
  | times + 1, s =>
    if !s.run.releasing then s
    else if s.run.deadline ≤ s.now then s.fire .endRelease
    else if Clock.wake s.run.nextRelease ≤ s.now then release times (s.fire .release).grant
    else
      s.setTimer (min (Clock.wake s.run.nextRelease) (Clock.wake s.run.deadline)) .releases

/-- Let the time jump to the first timer, and take in all that go off then. -/
def jump (s : Schedule σ) : Schedule σ :=
  match s.timers with
  | [] => s
  | (moment, _) :: _ =>
    let due := s.timers.takeWhile fun t => t.1 = moment
    let turns := due.filterMap fun t =>
      match t.2 with
      | .turn t => some t
      | .releases => none
    release s.run.plan.eventLimit
      { s with
        now := max s.now moment
        timers := s.timers.dropWhile fun t => t.1 = moment
        ready := s.ready ++ turns }

/-- Carry a run on until it is over. -/
def carry (service : Service σ) : Nat → Schedule σ → Schedule σ
  | 0, s => s
  | steps + 1, s =>
    match s.ready with
    | t :: rest => carry service steps ({ s with ready := rest }.take service t)
    | [] => if s.run.isOver || s.timers.isEmpty then s else carry service steps s.jump

/-- The first turns of a run with a shutdown at a moment, perhaps. -/
def ofRun (run : Run) (gateway : σ) (shutdown : Option Nat) : Schedule σ :=
  let s : Schedule σ := release run.plan.eventLimit { run, gateway, now := run.now }
  let arrivals := (List.range run.users.size).map Turn.arrive
  match shutdown with
  | none => { s with ready := s.ready ++ arrivals }
  | some moment =>
    if moment ≤ run.now then { s with ready := s.ready ++ .shutdown :: arrivals }
    else { s with ready := s.ready ++ arrivals }.setTimer moment (.turn .shutdown)

end Schedule

/-- Carry out a run against a gateway, with a shutdown at a moment, perhaps. -/
def Run.carriedOut {σ : Type} (service : Service σ) (run : Run) (gateway : σ)
    (shutdown : Option Nat) : Run × σ :=
  let s := (Schedule.ofRun run gateway shutdown).carry service (4 * run.plan.eventLimit)
  (s.run, s.gateway)

end GatewayProbe.Load
