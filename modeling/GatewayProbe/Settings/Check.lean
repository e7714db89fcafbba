import GatewayProbe.Gateway.Poll
import GatewayProbe.Settings.Gateway

/-!
# Settings of the check
-/

namespace GatewayProbe.Settings

/-- The settings of the check. -/
structure CheckSettings where
  gateway : GatewaySettings := {}
  /-- The directory to list; a temporary one if there is none. -/
  workspace : Option String := none
  pollInterval : Duration := .ofSeconds 1
  pollMaxWait : Duration := .ofSeconds 10
  deriving DecidableEq, Repr, Inhabited

/-- The keys of these settings. -/
inductive CheckKey where
  | gateway (k : GatewayKey)
  | workspace
  | pollInterval
  | pollMaxWait
  deriving DecidableEq, Repr

namespace CheckKey

/-- The values of a key. -/
abbrev Value : CheckKey → Type
  | .gateway k => k.Value
  | .workspace => Option String
  | .pollInterval | .pollMaxWait => Duration

/-- Take out a value. -/
def get (s : CheckSettings) : (k : CheckKey) → k.Value
  | .gateway k => k.get s.gateway
  | .workspace => s.workspace
  | .pollInterval => s.pollInterval
  | .pollMaxWait => s.pollMaxWait

/-- Put in a value. -/
def set (s : CheckSettings) : (k : CheckKey) → k.Value → CheckSettings
  | .gateway k, v => { s with gateway := GatewayKey.set s.gateway k v }
  | .workspace, v => { s with workspace := v }
  | .pollInterval, v => { s with pollInterval := v }
  | .pollMaxWait, v => { s with pollMaxWait := v }

/-- The order in which a settings file is merged. -/
def mergeOrder : List CheckKey :=
  GatewayKey.mergeOrder.map .gateway ++ [.workspace, .pollInterval, .pollMaxWait]

/-- The value that the section about the check has for a key. -/
def inSection (s : CheckSection) : (k : CheckKey) → Option (Except SettingsFault k.Value)
  | .gateway _ => none
  | .workspace => s.workspace.map fun path => .ok (some path)
  | .pollInterval => s.pollInterval.map (·.durationOf "check.poll_interval")
  | .pollMaxWait => s.pollMaxWait.map (·.durationOf "check.poll_max_wait")

/-- The value that a settings file has for a key. -/
def inFile (f : File) : (k : CheckKey) → Option (Except SettingsFault k.Value)
  | .gateway k => GatewayKey.inFile f k
  | k => f.check.bind fun s => inSection s k

end CheckKey

instance : Keyed CheckSettings where
  Key := CheckKey
  Value := CheckKey.Value
  get := CheckKey.get
  set := CheckKey.set

namespace CheckSettings

/-- The settings with those of a file where none are given. -/
def merge (given : CheckKey → Bool) (f : File) (s : CheckSettings) :
    Except SettingsFault CheckSettings :=
  mergeKeys given (CheckKey.inFile f) CheckKey.mergeOrder s

/-- How the task is polled. -/
def poll (s : CheckSettings) : Gateway.PollSettings := ⟨s.pollInterval, s.pollMaxWait⟩

end CheckSettings

end GatewayProbe.Settings
