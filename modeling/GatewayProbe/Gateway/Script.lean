import GatewayProbe.Clock
import GatewayProbe.Gateway.Call
import GatewayProbe.Text.Utf8
import Std.Data.HashMap

/-!
# A gateway that follows a script

For each kind of call the script lists the replies to the first, the second and
further calls; the last one repeats. Queries are counted for each task on its own.
Where the script is silent the gateway is healthy, numbers its tasks and has them
completed at once. A reply that is delayed is sent when the gateway wakes, on a tick of
its timer.
-/

namespace GatewayProbe.Gateway

/-- One reply of a script; what it leaves out has a default. -/
structure ScriptedReply where
  body : Option (List UInt8) := none
  status : Nat := 200
  latencyMillis : Option Nat := none
  unreachable : Bool := false
  deriving Inhabited

/-- The replies of a gateway. -/
structure Script where
  /-- The time of a reply that does not state its own. -/
  latencyMillis : Nat := 0
  health : List ScriptedReply := []
  execute : List ScriptedReply := []
  status : List ScriptedReply := []
  deriving Inhabited

/-- How many calls of each kind a gateway has received. -/
structure Script.Counts where
  health : Nat := 0
  execute : Nat := 0
  status : Std.HashMap String Nat := {}
  deriving Inhabited

/-- The reply to the call after `n` others of its kind. -/
def Script.pick (replies : List ScriptedReply) (n : Nat) : ScriptedReply :=
  (replies[n]?.or replies.getLast?).getD {}

/-- The body of a reply that states none. -/
def Script.standardBody (executed : Nat) : Endpoint → String
  | .health => "\x7b\"status\":\"ok\"\x7d"
  | .execute => "\x7b\"task_id\":\"task-" ++ toString executed ++ "\"\x7d"
  | .status => "\x7b\"status\":\"COMPLETED\"\x7d"

/-- How long a reply takes to a call made at a moment, when the gateway delays it. -/
def Script.latency (now : Nat) (delay : Duration) : Duration :=
  if delay.isZero then delay else Clock.since now (Clock.wake (Clock.after now delay))

/-- A scripted reply to a call at an endpoint, made at a moment after a number of submissions. -/
def Script.reply (s : Script) (endpoint : Endpoint) (executed now : Nat) (r : ScriptedReply) :
    Reply :=
  let body := r.body.getD (Text.bytesOf (standardBody executed endpoint))
  { latency := latency now (.ofMillis (r.latencyMillis.getD s.latencyMillis))
    answer :=
      if r.unreachable then .unreachable
      else if 200 ≤ r.status ∧ r.status ≤ 299 then .body body
      else .refused r.status (Text.stringOf body) }

/-- The reply to a call made at a moment, and the counts after it. -/
def Script.answer (s : Script) (counts : Script.Counts) (now : Nat) : Call → Reply × Script.Counts
  | .health =>
    (s.reply .health counts.execute now (pick s.health counts.health),
      { counts with health := counts.health + 1 })
  | .execute _ =>
    (s.reply .execute counts.execute now (pick s.execute counts.execute),
      { counts with execute := counts.execute + 1 })
  | .status taskId =>
    let n := counts.status.getD taskId 0
    (s.reply .status counts.execute now (pick s.status n),
      { counts with status := counts.status.insert taskId (n + 1) })

end GatewayProbe.Gateway
