import GatewayProbe.Failure
import GatewayProbe.Gateway.Poll
import GatewayProbe.Load.Pacing

/-!
# Plans of load runs

A plan says how many users there are, how they are released, how fast they work, for
how long, and what they do. It has to leave something to do: commands to execute, a
rate, users, and times that are not empty.
-/

namespace GatewayProbe.Load

open GatewayProbe.Gateway

/-- The plan of a load run. -/
structure Plan where
  users : Nat
  /-- Iterations of each user in a second. -/
  rate : Float
  duration : Duration
  /-- Users released at a time. -/
  spawnRate : Nat
  /-- The time between two releases. -/
  spawnInterval : Duration
  poll : PollSettings
  mix : Mix
  commands : List Command
  /-- The number from which the choices of all users follow, where they are to be the same in
  every run. -/
  seed : Option Nat
  deriving Inhabited

namespace Plan

/-- Refuse a plan that leaves nothing to do. -/
def validate (p : Plan) : Except Invalid Unit :=
  if p.commands.isEmpty then .error .noCommands
  else if !isRate p.rate then .error (.rate (Decimal.text p.rate))
  else if p.users = 0 ∨ p.spawnRate = 0 then .error (.count .tooSmall)
  else if p.duration.isZero || p.spawnInterval.isZero then .error (.duration .zero)
  else .ok ()

/-- The moment at which a run of the plan is over, unless it is beyond all moments. -/
def deadline? (p : Plan) (started : Nat) : Option Nat :=
  let moment := Clock.after started p.duration
  if moment < Duration.secondsBound * 1000000000 then some moment else none

/-- The stream from which a user makes its choices: it follows from the seed of the plan, and
without one it is what the system gives to the user. -/
def stream (p : Plan) (entropy : Nat → Random.Stream) (id : Nat) : Random.Stream :=
  match p.seed with
  | some seed => .ofSeed (UInt64.ofNat (seed + id))
  | none => entropy id

/-- More iterations than a user of the plan can have. -/
def iterationLimit (p : Plan) : Nat :=
  Decimal.ceiling (p.rate * p.duration.seconds) + 2

/-- More events than a run of the plan can have. -/
def eventLimit (p : Plan) : Nat :=
  (p.users + 1) * (p.iterationLimit + 1) * (2 * p.poll.maxWait.nanos + 16) +
    p.duration.nanos / p.spawnInterval.nanos + p.users

end Plan

end GatewayProbe.Load
