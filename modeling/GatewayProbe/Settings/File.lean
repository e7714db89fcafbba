import GatewayProbe.FileTree
import GatewayProbe.Settings.Entry
import GatewayProbe.Toml.Document

/-!
# Settings files

A settings file is a TOML or a JSON text, as the end of its name says. Its top has the
settings of the gateway and three sections; everything in it may be absent, and what it
does not know is passed over.
-/

namespace GatewayProbe.Settings

open GatewayProbe.Text

/-- The section about the server process. -/
structure ServerSection where
  command : Option String := none
  arguments : Option (List String) := none
  readyPattern : Option String := none
  readyTimeout : Option DurationEntry := none
  stopGrace : Option DurationEntry := none

/-- The section about load runs. -/
structure LoadSection where
  users : Option Nat := none
  userRate : Option Float := none
  duration : Option DurationEntry := none
  spawnRate : Option Nat := none
  spawnInterval : Option DurationEntry := none
  pollInterval : Option DurationEntry := none
  pollMaxWait : Option DurationEntry := none
  weights : Option WeightTable := none
  commands : Option (List CommandEntry) := none
  slos : Option (List SloEntry) := none
  exportJson : Option String := none
  failOnSlo : Option Bool := none
  seed : Option Nat := none

/-- The section about the check. -/
structure CheckSection where
  workspace : Option String := none
  pollInterval : Option DurationEntry := none
  pollMaxWait : Option DurationEntry := none

/-- A settings file. -/
structure File where
  url : Option String := none
  requestTimeout : Option DurationEntry := none
  commandTimeout : Option DurationEntry := none
  server : Option ServerSection := none
  load : Option LoadSection := none
  check : Option CheckSection := none

/-- A duration entry that may be absent. -/
def duration? : Option Data → Option (Option DurationEntry) := Data.optional? DurationEntry.read?

/-- Read the section about the server process. -/
def ServerSection.read? (surplus : Data.Surplus) (d : Data) : Option ServerSection :=
  match d.fields? surplus ["command", "args", "ready_pattern", "ready_timeout", "stop_grace"] with
  | some [command, arguments, pattern, timeout, grace] => do
    return {
      command := ← Data.optional? Data.text? command
      arguments := ← Data.optional? Data.texts? arguments
      readyPattern := ← Data.optional? Data.text? pattern
      readyTimeout := ← duration? timeout
      stopGrace := ← duration? grace }
  | _ => none

/-- Read the section about load runs. -/
def LoadSection.read? (surplus : Data.Surplus) (d : Data) : Option LoadSection :=
  match d.fields? surplus ["users", "user_rate", "duration", "spawn_rate", "spawn_interval",
    "poll_interval", "poll_max_wait", "weights", "commands", "slos", "export_json", "fail_on_slo",
    "seed"] with
  | some [users, rate, duration, spawnRate, spawnInterval, interval, maxWait, weights, commands,
      slos, path, failing, seed] => do
    return {
      users := ← Data.optional? (Data.count? max64) users
      userRate := ← Data.optional? Data.real? rate
      duration := ← duration? duration
      spawnRate := ← Data.optional? (Data.count? max64) spawnRate
      spawnInterval := ← duration? spawnInterval
      pollInterval := ← duration? interval
      pollMaxWait := ← duration? maxWait
      weights := ← Data.optional? WeightTable.read? weights
      commands := ← Data.optional? (Data.list? CommandEntry.read?) commands
      slos := ← Data.optional? (Data.list? (SloEntry.read? surplus)) slos
      exportJson := ← Data.optional? Data.text? path
      failOnSlo := ← Data.optional? Data.bool? failing
      seed := ← Data.optional? (Data.count? max64) seed }
  | _ => none

/-- Read the section about the check. -/
def CheckSection.read? (surplus : Data.Surplus) (d : Data) : Option CheckSection :=
  match d.fields? surplus ["workspace", "poll_interval", "poll_max_wait"] with
  | some [workspace, interval, maxWait] => do
    return {
      workspace := ← Data.optional? Data.text? workspace
      pollInterval := ← duration? interval
      pollMaxWait := ← duration? maxWait }
  | _ => none

/-- Read the data of a settings file. -/
def File.read? (surplus : Data.Surplus) (d : Data) : Option File :=
  match d.fields? surplus ["url", "request_timeout", "command_timeout", "server", "load",
    "check"] with
  | some [url, request, command, server, load, check] => do
    return {
      url := ← Data.optional? Data.text? url
      requestTimeout := ← duration? request
      commandTimeout := ← duration? command
      server := ← Data.optional? (ServerSection.read? surplus) server
      load := ← Data.optional? (LoadSection.read? surplus) load
      check := ← Data.optional? (CheckSection.read? surplus) check }
  | _ => none

/-- Read a settings file in TOML. -/
def File.ofToml? (s : String) : Option File := (Toml.parse? s).bind (read? .ignored)

/-- Read a settings file in JSON. -/
def File.ofJson? (s : String) : Option File := (Data.ofJsonText? s).bind (read? .refused)

/-- The text of a file. -/
def readText (files : FileTree) (path : String) : Except SettingsFault String :=
  match files.read path with
  | .error cause => .error (.unreadable path (some cause))
  | .ok content =>
    match stringOf? content with
    | none => .error (.unreadable path none)
    | some s => .ok s

/-- The settings that a text under a path gives. -/
def File.ofText (path s : String) : Except SettingsFault File :=
  match FileTree.extension? path with
  | none => .error .missingExtension
  | some ext =>
    if ext = "toml" then (File.ofToml? s).elim (.error (.notToml path)) .ok
    else if ext = "json" then (File.ofJson? s).elim (.error (.notJson path)) .ok
    else .error (.unsupportedExtension ext)

/-- Read the settings file under a path. -/
def File.readAt (files : FileTree) (path : String) : Except SettingsFault File := do
  File.ofText path (← readText files path)

/-- The files that are looked for when none is named, in order. -/
def standardPaths : List String := ["gateprobe.toml", "gateprobe.json"]

/-- The first of the usual files that is there. -/
def usualPath? (files : FileTree) : Option String := standardPaths.find? files.holds

/-- Read the settings file that is named, or the first of the usual ones that is there. -/
def File.find (files : FileTree) (named : Option String) : Except SettingsFault (Option File) :=
  match named with
  | some path => (File.readAt files path).map some
  | none =>
    match usualPath? files with
    | some path => (File.readAt files path).map some
    | none => .ok none

end GatewayProbe.Settings
