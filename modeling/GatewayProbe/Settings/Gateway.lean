import GatewayProbe.Server.Spec
import GatewayProbe.Settings.File
import GatewayProbe.Settings.Keyed

/-!
# Settings of the gateway and its server

Both commands reach a gateway under a base address, and may start a server process
before they do so.
-/

namespace GatewayProbe.Settings

/-- Where the gateway is, and the server process that goes with it. -/
structure GatewaySettings where
  url : String := "http://localhost:8081"
  serverCommand : Option String := none
  serverArguments : List String := []
  readyPattern : String := "Server listening"
  readyTimeout : Duration := .ofSeconds 15
  stopGrace : Duration := .ofSeconds 5
  requestTimeout : Duration := .ofSeconds 10
  commandTimeout : Duration := .ofSeconds 30
  deriving DecidableEq, Repr, Inhabited

/-- The server process that goes with the gateway, if there is one. -/
def GatewaySettings.serverSpec (s : GatewaySettings) : Option Server.Spec :=
  s.serverCommand.map fun command =>
    ⟨command, s.serverArguments, s.readyPattern, s.readyTimeout, s.stopGrace⟩

/-- The keys of these settings. -/
inductive GatewayKey where
  | url
  | serverCommand
  | serverArguments
  | readyPattern
  | readyTimeout
  | stopGrace
  | requestTimeout
  | commandTimeout
  deriving DecidableEq, Repr

namespace GatewayKey

/-- The values of a key. -/
abbrev Value : GatewayKey → Type
  | .url | .readyPattern => String
  | .serverCommand => Option String
  | .serverArguments => List String
  | .readyTimeout | .stopGrace | .requestTimeout | .commandTimeout => Duration

/-- Take out a value. -/
def get (s : GatewaySettings) : (k : GatewayKey) → k.Value
  | .url => s.url
  | .serverCommand => s.serverCommand
  | .serverArguments => s.serverArguments
  | .readyPattern => s.readyPattern
  | .readyTimeout => s.readyTimeout
  | .stopGrace => s.stopGrace
  | .requestTimeout => s.requestTimeout
  | .commandTimeout => s.commandTimeout

/-- Put in a value. -/
def set (s : GatewaySettings) : (k : GatewayKey) → k.Value → GatewaySettings
  | .url, v => { s with url := v }
  | .serverCommand, v => { s with serverCommand := v }
  | .serverArguments, v => { s with serverArguments := v }
  | .readyPattern, v => { s with readyPattern := v }
  | .readyTimeout, v => { s with readyTimeout := v }
  | .stopGrace, v => { s with stopGrace := v }
  | .requestTimeout, v => { s with requestTimeout := v }
  | .commandTimeout, v => { s with commandTimeout := v }

/-- The order in which a settings file is merged. -/
def mergeOrder : List GatewayKey :=
  [.url, .requestTimeout, .commandTimeout, .serverCommand, .serverArguments, .readyPattern,
    .readyTimeout, .stopGrace]

/-- The value that a settings file has for a key. -/
def inFile (f : File) : (k : GatewayKey) → Option (Except SettingsFault k.Value)
  | .url => f.url.map .ok
  | .requestTimeout => f.requestTimeout.map (·.durationOf "request_timeout")
  | .commandTimeout => f.commandTimeout.map (·.durationOf "command_timeout")
  | .serverCommand => f.server.bind fun s => s.command.map fun c => .ok (some c)
  | .serverArguments => f.server.bind fun s => s.arguments.map .ok
  | .readyPattern => f.server.bind fun s => s.readyPattern.map .ok
  | .readyTimeout => f.server.bind fun s => s.readyTimeout.map (·.durationOf "server.ready_timeout")
  | .stopGrace => f.server.bind fun s => s.stopGrace.map (·.durationOf "server.stop_grace")

end GatewayKey

end GatewayProbe.Settings
