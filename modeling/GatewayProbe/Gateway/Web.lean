import GatewayProbe.Gateway.Conversation
import GatewayProbe.Gateway.Routes

/-!
# Gateways on the web

A call is made as a request to the web. Whoever answers there sees the request only; the
caller sees of the reply what comes in time.
-/

namespace GatewayProbe.Gateway

/-- The web: in a state of its own, it gives a reply to each request made at a moment. -/
abbrev Web (σ : Type) : Type := σ → Nat → Request → Reply × σ

/-- The gateway that is reached over the web, with a time limit for its replies. -/
def Routes.service {σ : Type} (routes : Routes) (web : Web σ) (timeout : Duration) : Service σ :=
  fun state now call =>
    let (reply, state) := web state now (routes.request call)
    (reply.received timeout, state)

end GatewayProbe.Gateway
