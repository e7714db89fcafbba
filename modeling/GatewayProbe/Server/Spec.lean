import GatewayProbe.Duration

/-!
# How a server is handled

A server is a command with arguments. It is ready when it has written a line that holds a
pattern, for which there is a time limit, and it has a time of grace to end in.
-/

namespace GatewayProbe.Server

/-- How a server process is to be handled. -/
structure Spec where
  command : String
  arguments : List String
  /-- What a line holds that says that the server is ready. -/
  pattern : String
  readyTimeout : Duration
  stopGrace : Duration
  deriving DecidableEq, Repr, Inhabited

end GatewayProbe.Server
