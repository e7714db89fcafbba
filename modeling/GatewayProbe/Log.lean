/-!
# Messages for the operator

Besides its results the program tells what it does, in messages of five levels.
-/

namespace GatewayProbe

/-- How much a message matters, from the most to the least. -/
inductive Level where
  | error
  | warn
  | info
  | debug
  | trace
  deriving DecidableEq, Repr

/-- How much detail a level stands for. -/
def Level.detail : Level → Nat
  | .error => 1
  | .warn => 2
  | .info => 3
  | .debug => 4
  | .trace => 5

/-- The name of a level in a log. -/
def Level.name : Level → String
  | .error => "ERROR"
  | .warn => "WARN"
  | .info => "INFO"
  | .debug => "DEBUG"
  | .trace => "TRACE"

/-- One message. -/
structure Message where
  level : Level
  text : String
  deriving DecidableEq, Repr

/-- A message that something is wrong. -/
def warning (text : String) : Message := ⟨.warn, text⟩

/-- A message for those who look closely. -/
def detail (text : String) : Message := ⟨.debug, text⟩

/-- A message that something has happened. -/
def information (text : String) : Message := ⟨.info, text⟩

end GatewayProbe
