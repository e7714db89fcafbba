import GatewayProbe.Failure
import GatewayProbe.Gateway.Conversation

/-!
# The check

The check asks for the health of the gateway, lets it list a directory, polls the task
to its end and verifies the listing. The first stage that fails decides, and a shutdown
ends the check where it waits, or before its first call.
-/

namespace GatewayProbe.Check

open GatewayProbe.Gateway

/-- What is checked, and how long that may take. -/
structure Plan where
  directory : String
  poll : PollSettings
  commandTimeout : Duration
  deriving DecidableEq, Repr, Inhabited

variable {σ : Type}

/-- The warning of a check that was interrupted. -/
def interruption : Message := warning "Check interrupted by shutdown signal"

/-- The failure for which a stage of the check ends. -/
def stopped {α : Type} : Halt → Conversation σ → Except Failure α × Conversation σ
  | .fault fault, c => (.error (.gateway fault), c)
  | .interrupted, c => (.error (.check .interrupted), c.tell interruption)

/-- The last stage: poll the task and verify its listing. -/
def verifyTask (service : Service σ) (plan : Plan) (taskId : String) (c : Conversation σ) :
    Except Failure TaskInfo × Conversation σ :=
  match c.poll service plan.poll taskId with
  | (.error halt, c) => stopped halt c
  | (.ok info, c) => (((verify info).mapError .check).map fun _ => info, c)

/-- The second stage: submit the listing. -/
def listDirectory (service : Service σ) (plan : Plan) (c : Conversation σ) :
    Except Failure TaskInfo × Conversation σ :=
  match c.submit service (listCommand plan.directory plan.commandTimeout) with
  | (.error halt, c) => stopped halt c
  | (.ok handle, c) =>
    verifyTask service plan handle.taskId
      (c.tell (information ("Submitted task " ++ handle.taskId)))

/-- The first stage: ask for the health of the gateway. -/
def examine (service : Service σ) (plan : Plan) (c : Conversation σ) :
    Except Failure TaskInfo × Conversation σ :=
  match c.health service with
  | (.error halt, c) => stopped halt c
  | (.ok status, c) =>
    if isHealthy status then
      listDirectory service plan (c.tell (information s!"Health check passed ('{status}')"))
    else (.error (.check (.unhealthy status)), c)

/-- The whole check. A shutdown that has come before it may be noticed at once. -/
def run (service : Service σ) (plan : Plan) (c : Conversation σ) :
    Except Failure TaskInfo × Conversation σ :=
  match c.waitUntil c.now with
  | (.error halt, c) => stopped halt c
  | (.ok _, c) => examine service plan c

end GatewayProbe.Check
