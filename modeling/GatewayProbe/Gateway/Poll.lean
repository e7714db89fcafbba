import GatewayProbe.Gateway.Call
import GatewayProbe.Log

/-!
# Polling a task to its end

A poll asks for the state of a task again and again. It ends with the first query
that fails, that sees a final state, or that sees none when the waiting time is
spent; otherwise it sleeps for the interval, but not beyond the waiting time. The
rule is stated for one query, and a poll over a whole sequence of outcomes follows
from it.
-/

namespace GatewayProbe.Gateway

/-- How a task is polled. -/
structure PollSettings where
  /-- The sleep between two queries. -/
  interval : Duration
  /-- The time from the first query after which an unfinished task is given up. -/
  maxWait : Duration
  deriving DecidableEq, Repr, Inhabited

/-- The settings when none are given. -/
def PollSettings.standard : PollSettings := ⟨.ofMillis 500, .ofSeconds 10⟩

/-- A poll under way. -/
structure Poll where
  taskId : String
  /-- When the first query began. -/
  started : Nat
  /-- The state that the last query saw. -/
  last : Option TaskStatus
  deriving DecidableEq, Repr, Inhabited

/-- A poll that is about to begin. -/
def Poll.begin (taskId : String) (now : Nat) : Poll := ⟨taskId, now, none⟩

/-- What a poll does after a query. -/
inductive Poll.Next where
  /-- It ends with a result. -/
  | finished (result : Except Fault TaskInfo)
  /-- It goes on with a query after a sleep. -/
  | sleep (length : Duration) (poll : Poll)

/-- What a poll does after a query that succeeded. -/
def Poll.observe (settings : PollSettings) (p : Poll) (now : Nat) (info : TaskInfo) : Poll.Next :=
  if info.status.isTerminal then .finished (.ok info)
  else
    let elapsed := Clock.since p.started now
    if settings.maxWait.nanos ≤ elapsed.nanos then
      .finished (.error (.pollTimeout p.taskId elapsed settings.maxWait info.status))
    else
      let remaining := settings.maxWait.nanos - elapsed.nanos
      .sleep ⟨min settings.interval.nanos remaining⟩ { p with last := some info.status }

/-- What a poll does after a query. -/
def Poll.receive (settings : PollSettings) (p : Poll) (now : Nat) :
    Except Fault TaskInfo → Poll.Next
  | .error fault => .finished (.error fault)
  | .ok info => p.observe settings now info

/-- The warning that a state lies before the one seen last. -/
def Poll.backwards? (p : Poll) : Except Fault TaskInfo → Option Message
  | .error _ => none
  | .ok info =>
    match p.last with
    | none => none
    | some previous =>
      if info.status.rank < previous.rank then
        some (warning ("Task " ++ p.taskId ++ " status went backwards: " ++ previous.name ++
          " -> " ++ info.status.name))
      else none

end GatewayProbe.Gateway
