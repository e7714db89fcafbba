import GatewayProbe.Failure
import GatewayProbe.Gateway.Conversation

/-!
# Before a load run

The gateway has to answer a health check before a load run begins; what it reports is
only told.
-/

namespace GatewayProbe.Load

open GatewayProbe.Gateway

/-- The message about a reported health. -/
def healthMessage (status : String) : Message :=
  if isHealthy status then information s!"Gateway reports '{status}'"
  else warning s!"Gateway reports '{status}', continuing with the load run"

/-- Check the health of the gateway and tell what it reports. -/
def preflight {σ : Type} (service : Service σ) (c : Conversation σ) :
    Except Halt Unit × Conversation σ :=
  match c.health service with
  | (.error halt, c) => (.error halt, c)
  | (.ok status, c) => (.ok (), c.tell (healthMessage status))

end GatewayProbe.Load
