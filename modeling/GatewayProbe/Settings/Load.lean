import GatewayProbe.Load.Plan
import GatewayProbe.Settings.Gateway

/-!
# Settings of load runs
-/

namespace GatewayProbe.Settings

/-- The settings of a load run. -/
structure LoadSettings where
  gateway : GatewaySettings := {}
  users : Nat := 20
  userRate : Float := 5.0
  duration : Duration := .ofSeconds 300
  /-- Users released at a time; all of them if there is none. -/
  spawnRate : Option Nat := none
  spawnInterval : Duration := .ofSeconds 1
  pollInterval : Duration := .ofMillis 500
  pollMaxWait : Duration := .ofSeconds 10
  weights : Load.Weights := .standard
  /-- The commands to execute; the usual ones if there are none. -/
  commands : List CommandText := []
  slos : List Slo.Threshold := []
  exportJson : Option String := none
  failOnSlo : Bool := false
  seed : Option Nat := none
  deriving Inhabited

/-- The keys of these settings. -/
inductive LoadKey where
  | gateway (k : GatewayKey)
  | users
  | userRate
  | duration
  | spawnRate
  | spawnInterval
  | pollInterval
  | pollMaxWait
  | weights
  | commands
  | slos
  | exportJson
  | failOnSlo
  | seed
  deriving DecidableEq, Repr

namespace LoadKey

/-- The values of a key. -/
abbrev Value : LoadKey → Type
  | .gateway k => k.Value
  | .users => Nat
  | .userRate => Float
  | .duration | .spawnInterval | .pollInterval | .pollMaxWait => Duration
  | .spawnRate | .seed => Option Nat
  | .weights => Load.Weights
  | .commands => List CommandText
  | .slos => List Slo.Threshold
  | .exportJson => Option String
  | .failOnSlo => Bool

/-- Take out a value. -/
def get (s : LoadSettings) : (k : LoadKey) → k.Value
  | .gateway k => k.get s.gateway
  | .users => s.users
  | .userRate => s.userRate
  | .duration => s.duration
  | .spawnRate => s.spawnRate
  | .spawnInterval => s.spawnInterval
  | .pollInterval => s.pollInterval
  | .pollMaxWait => s.pollMaxWait
  | .weights => s.weights
  | .commands => s.commands
  | .slos => s.slos
  | .exportJson => s.exportJson
  | .failOnSlo => s.failOnSlo
  | .seed => s.seed

/-- Put in a value. -/
def set (s : LoadSettings) : (k : LoadKey) → k.Value → LoadSettings
  | .gateway k, v => { s with gateway := GatewayKey.set s.gateway k v }
  | .users, v => { s with users := v }
  | .userRate, v => { s with userRate := v }
  | .duration, v => { s with duration := v }
  | .spawnRate, v => { s with spawnRate := v }
  | .spawnInterval, v => { s with spawnInterval := v }
  | .pollInterval, v => { s with pollInterval := v }
  | .pollMaxWait, v => { s with pollMaxWait := v }
  | .weights, v => { s with weights := v }
  | .commands, v => { s with commands := v }
  | .slos, v => { s with slos := v }
  | .exportJson, v => { s with exportJson := v }
  | .failOnSlo, v => { s with failOnSlo := v }
  | .seed, v => { s with seed := v }

/-- The order in which a settings file is merged. -/
def mergeOrder : List LoadKey :=
  GatewayKey.mergeOrder.map .gateway ++
    [.users, .userRate, .duration, .spawnRate, .spawnInterval, .pollInterval, .pollMaxWait,
      .weights, .commands, .slos, .exportJson, .failOnSlo, .seed]

/-- The positive count of a named field. -/
def countOf (field : String) (n : Nat) : Except SettingsFault Nat :=
  (requirePositive n).mapError fun _ => .mustBePositive field

/-- The rate of a settings file. -/
def rateOf (rate : Float) : Except SettingsFault Float :=
  if Load.isRate rate then .ok rate else .error (.rate (Decimal.text rate))

/-- The value that the section about load runs has for a key. -/
def inSection (s : LoadSection) : (k : LoadKey) → Option (Except SettingsFault k.Value)
  | .gateway _ => none
  | .users => s.users.map (countOf "load.users")
  | .userRate => s.userRate.map rateOf
  | .duration => s.duration.map (·.durationOf "load.duration")
  | .spawnRate => s.spawnRate.map fun n => (countOf "load.spawn_rate" n).map some
  | .spawnInterval => s.spawnInterval.map (·.durationOf "load.spawn_interval")
  | .pollInterval => s.pollInterval.map (·.durationOf "load.poll_interval")
  | .pollMaxWait => s.pollMaxWait.map (·.durationOf "load.poll_max_wait")
  | .weights => s.weights.map (·.weights)
  | .commands => s.commands.map (forPlaces CommandEntry.command 0)
  | .slos => s.slos.map (forPlaces SloEntry.threshold 0)
  | .exportJson => s.exportJson.map fun path => .ok (some path)
  | .failOnSlo => s.failOnSlo.map .ok
  | .seed => s.seed.map fun n => .ok (some n)

/-- The value that a settings file has for a key. -/
def inFile (f : File) : (k : LoadKey) → Option (Except SettingsFault k.Value)
  | .gateway k => GatewayKey.inFile f k
  | k => f.load.bind fun s => inSection s k

end LoadKey

instance : Keyed LoadSettings where
  Key := LoadKey
  Value := LoadKey.Value
  get := LoadKey.get
  set := LoadKey.set

namespace LoadSettings

/-- The settings with those of a file where none are given. -/
def merge (given : LoadKey → Bool) (f : File) (s : LoadSettings) :
    Except SettingsFault LoadSettings :=
  mergeKeys given (LoadKey.inFile f) LoadKey.mergeOrder s

/-- The commands to execute. -/
def gatewayCommands (s : LoadSettings) : List Gateway.Command :=
  if s.commands.isEmpty then Gateway.Command.standardMix s.gateway.commandTimeout
  else s.commands.map fun c => c.command s.gateway.commandTimeout

/-- How tasks are polled. -/
def poll (s : LoadSettings) : Gateway.PollSettings := ⟨s.pollInterval, s.pollMaxWait⟩

/-- The plan of the load run. -/
def plan (s : LoadSettings) : Except Invalid Load.Plan := do
  let mix ← s.weights.mix.mapError .weights
  return {
    users := s.users
    rate := s.userRate
    duration := s.duration
    spawnRate := s.spawnRate.getD s.users
    spawnInterval := s.spawnInterval
    poll := s.poll
    mix
    commands := s.gatewayCommands
    seed := s.seed }

end LoadSettings

end GatewayProbe.Settings
