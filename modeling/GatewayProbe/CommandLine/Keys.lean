import GatewayProbe.CommandLine.Option
import GatewayProbe.Settings.Check
import GatewayProbe.Settings.Load

/-!
# The options of each kind of settings

Every key has one option, named after it. Values are read by the same rules wherever
they come from; the first value of a repeated option replaces the usual ones, and every
further one is added.
-/

namespace GatewayProbe.CommandLine

open GatewayProbe.Settings

/-- Settings that do not depend on the command. -/
structure Globals where
  verbose : Bool := false
  noColor : Bool := false
  /-- The settings file that is named. -/
  config : Option String := none
  deriving DecidableEq, Repr, Inhabited

/-- The keys of these settings. -/
inductive GlobalKey where
  | verbose
  | noColor
  | config
  deriving DecidableEq, Repr

/-- The values of a key. -/
abbrev GlobalKey.Value : GlobalKey → Type
  | .verbose | .noColor => Bool
  | .config => Option String

instance : Keyed Globals where
  Key := GlobalKey
  Value := GlobalKey.Value
  get s
    | .verbose => s.verbose
    | .noColor => s.noColor
    | .config => s.config
  set s
    | .verbose, v => { s with verbose := v }
    | .noColor, v => { s with noColor := v }
    | .config, v => { s with config := v }

/-- A duration on the command line. -/
def readDuration (s : String) : Except ValueFault Duration :=
  (Duration.parse s).mapError fun fault => .invalid (.duration fault)

/-- A positive count on the command line. -/
def readCount (s : String) : Except ValueFault Nat :=
  (parseCount s).mapError fun fault => .invalid (.count fault)

/-- A rate on the command line. -/
def readRate (s : String) : Except ValueFault Float :=
  (Load.readRate? s).elim (.error (.invalid (.rate s))) .ok

/-- A weight table on the command line. -/
def readWeights (s : String) : Except ValueFault Load.Weights :=
  (Load.Weights.parse s >>= Load.Weights.requireSome).mapError fun fault =>
    .invalid (.weights fault)

/-- A command on the command line. -/
def readCommand (s : String) : Except ValueFault CommandText :=
  (CommandText.parse? s).elim (.error (.invalid .emptyCommand)) .ok

/-- A latency target on the command line. -/
def readSlo (s : String) : Except ValueFault Slo.Threshold :=
  (Slo.Threshold.parse s).mapError fun fault => .invalid (.slo fault)

/-- A path on the command line. -/
def readPath (s : String) : Except ValueFault String :=
  if s.isEmpty then .error .empty else .ok s

/-- A seed on the command line. -/
def readSeed (s : String) : Except ValueFault Nat :=
  (Text.readUnsigned Text.max64 s.toList).mapError .integer

instance : Options Globals where
  keys := [GlobalKey.verbose, GlobalKey.noColor, GlobalKey.config]
  shape
    | GlobalKey.verbose => .flag "verbose" (some 'v')
    | GlobalKey.noColor => .flag "no-color"
    | GlobalKey.config => .single "config" "CONFIG"
  accept
    | GlobalKey.verbose, _, _ => .ok true
    | GlobalKey.noColor, _, _ => .ok true
    | GlobalKey.config, _, s => .ok (some s)
  sameKey := inferInstanceAs (DecidableEq GlobalKey)

/-- The options of the gateway and its server. -/
def gatewayShape : GatewayKey → Shape
  | .url => .single "url" "URL" (some 'u')
  | .serverCommand => .single "server-cmd" "SERVER_CMD"
  | .serverArguments => .repeated "server-arg" "SERVER_ARGS" .repeatedVerbatim
  | .readyPattern => .single "ready-pattern" "READY_PATTERN"
  | .readyTimeout => .single "ready-timeout" "READY_TIMEOUT"
  | .stopGrace => .single "stop-grace" "STOP_GRACE"
  | .requestTimeout => .single "request-timeout" "REQUEST_TIMEOUT"
  | .commandTimeout => .single "command-timeout" "COMMAND_TIMEOUT"

/-- Take in a value for the gateway or its server. -/
def acceptGateway : (k : GatewayKey) → k.Value → String → Except ValueFault k.Value
  | .url, _, s => .ok s
  | .serverCommand, _, s => .ok (some s)
  | .serverArguments, old, s => .ok (old ++ [s])
  | .readyPattern, _, s => .ok s
  | .readyTimeout, _, s => readDuration s
  | .stopGrace, _, s => readDuration s
  | .requestTimeout, _, s => readDuration s
  | .commandTimeout, _, s => readDuration s

/-- All keys of the gateway and its server. -/
def gatewayKeys : List GatewayKey :=
  [.url, .serverCommand, .serverArguments, .readyPattern, .readyTimeout, .stopGrace,
    .requestTimeout, .commandTimeout]

/-- The options of a load run. -/
def loadShape : LoadKey → Shape
  | .gateway k => gatewayShape k
  | .users => .single "users" "USERS"
  | .userRate => .single "user-rate" "USER_RATE"
  | .duration => .single "duration" "DURATION" (some 't')
  | .spawnRate => .single "spawn-rate" "SPAWN_RATE"
  | .spawnInterval => .single "spawn-interval" "SPAWN_INTERVAL"
  | .pollInterval => .single "poll-interval" "POLL_INTERVAL"
  | .pollMaxWait => .single "poll-max-wait" "POLL_MAX_WAIT"
  | .weights => .single "weights" "WEIGHTS"
  | .commands => .repeated "exec" "COMMANDS"
  | .slos => .repeated "slo" "SLOS"
  | .exportJson => .single "export-json" "EXPORT_JSON"
  | .failOnSlo => .flag "fail-on-slo"
  | .seed => .single "seed" "SEED"

/-- Take in a value for a load run. -/
def acceptLoad : (k : LoadKey) → k.Value → String → Except ValueFault k.Value
  | .gateway k, old, s => acceptGateway k old s
  | .users, _, s => readCount s
  | .userRate, _, s => readRate s
  | .duration, _, s => readDuration s
  | .spawnRate, _, s => (readCount s).map some
  | .spawnInterval, _, s => readDuration s
  | .pollInterval, _, s => readDuration s
  | .pollMaxWait, _, s => readDuration s
  | .weights, _, s => readWeights s
  | .commands, old, s => (readCommand s).map fun c => old ++ [c]
  | .slos, old, s => (readSlo s).map fun t => old ++ [t]
  | .exportJson, _, s => .ok (some s)
  | .failOnSlo, _, _ => .ok true
  | .seed, _, s => (readSeed s).map some

instance : Options LoadSettings where
  keys := gatewayKeys.map LoadKey.gateway ++
    [LoadKey.users, LoadKey.userRate, LoadKey.duration, LoadKey.spawnRate, LoadKey.spawnInterval,
      LoadKey.pollInterval, LoadKey.pollMaxWait, LoadKey.weights, LoadKey.commands, LoadKey.slos,
      LoadKey.exportJson, LoadKey.failOnSlo, LoadKey.seed]
  shape := loadShape
  accept := acceptLoad
  sameKey := inferInstanceAs (DecidableEq LoadKey)

/-- The options of the check. -/
def checkShape : CheckKey → Shape
  | .gateway k => gatewayShape k
  | .workspace => .single "workspace" "WORKSPACE"
  | .pollInterval => .single "poll-interval" "POLL_INTERVAL"
  | .pollMaxWait => .single "poll-max-wait" "POLL_MAX_WAIT"

/-- Take in a value for the check. -/
def acceptCheck : (k : CheckKey) → k.Value → String → Except ValueFault k.Value
  | .gateway k, old, s => acceptGateway k old s
  | .workspace, _, s => (readPath s).map some
  | .pollInterval, _, s => readDuration s
  | .pollMaxWait, _, s => readDuration s

instance : Options CheckSettings where
  keys := gatewayKeys.map CheckKey.gateway ++
    [CheckKey.workspace, CheckKey.pollInterval, CheckKey.pollMaxWait]
  shape := checkShape
  accept := acceptCheck
  sameKey := inferInstanceAs (DecidableEq CheckKey)

end GatewayProbe.CommandLine
