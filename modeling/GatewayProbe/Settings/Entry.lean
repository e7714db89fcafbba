import GatewayProbe.Data
import GatewayProbe.Failure

/-!
# Entries of settings files

Some settings have more than one form in a file. A duration is a number of seconds or a
text. A command is a text of words, or a table with a program, its arguments and a
timeout. A weight table gives a weight to each name, and is taken in the order of the
names. A latency target is a table of its three parts.
-/

namespace GatewayProbe.Settings

open GatewayProbe.Text

/-- A duration in a settings file. -/
inductive DurationEntry where
  | seconds (n : Nat)
  | text (s : String)
  deriving DecidableEq, Repr

/-- Read a duration entry. -/
def DurationEntry.read? : Data → Option DurationEntry
  | .text s => some (.text s)
  | d => (d.count? max64).map .seconds

/-- The duration of an entry; a number is read like its digits. -/
def DurationEntry.duration : DurationEntry → Except Duration.Fault Duration
  | .seconds n => Duration.parse (toString n)
  | .text s => Duration.parse s

/-- The duration of an entry in a named field. -/
def DurationEntry.durationOf (field : String) (e : DurationEntry) : Except SettingsFault Duration :=
  e.duration.mapError (.duration field)

/-- A command in a settings file. -/
inductive CommandEntry where
  | line (s : String)
  | parts (program : String) (arguments : List String) (timeout : Option DurationEntry)
  deriving DecidableEq, Repr

/-- Read the arguments of a command, which may be absent. -/
def readArguments? : Option Data → Option (List String)
  | none => some []
  | some d => d.texts?

/-- Read a command entry, all parts of which have to be readable. -/
def CommandEntry.read? (d : Data) : Option CommandEntry :=
  if !d.isReadable then none
  else
    match d with
    | .text s => some (.line s)
    | .table _ =>
      match d.fields? .refused ["command", "args", "timeout"] with
      | some [some program, arguments, timeout] => do
        return .parts (← program.text?) (← readArguments? arguments)
          (← Data.optional? DurationEntry.read? timeout)
      | _ => none
    | _ => none

/-- The command of the entry at a place of the list of commands. -/
def CommandEntry.command (place : Nat) : CommandEntry → Except SettingsFault CommandText
  | .line s =>
    match CommandText.parse? s with
    | none => .error (.emptyCommand place)
    | some c => .ok c
  | .parts program arguments timeout =>
    if isAllBlank program then .error (.emptyCommand place)
    else do
      let field := "load.commands[" ++ toString place ++ "].timeout"
      let timeout ← timeout.mapM (·.durationOf field)
      return ⟨trimmed program, arguments, timeout⟩

/-- A latency target in a settings file. -/
structure SloEntry where
  endpoint : String
  /-- A quantile, or a percentage above one. -/
  percentile : Float
  maxMillis : Float

/-- Read an entry for a latency target. -/
def SloEntry.read? (surplus : Data.Surplus) (d : Data) : Option SloEntry :=
  match d.fields? surplus ["endpoint", "percentile", "max_ms"] with
  | some [some endpoint, some percentile, some limit] => do
    return ⟨← endpoint.text?, ← percentile.real?, ← limit.real?⟩
  | _ => none

/-- The latency target of the entry at a place of the list of targets. -/
def SloEntry.threshold (place : Nat) (e : SloEntry) : Except SettingsFault Slo.Threshold :=
  (Slo.Threshold.create (trimmed e.endpoint) (Slo.quantileOf e.percentile false)
    e.maxMillis).mapError (.slo place)

/-- Names with weights in ascending order of the names. -/
abbrev WeightTable := List (String × Nat)

/-- Give a weight to a name, in place of an earlier one. -/
def WeightTable.put (name : String) (weight : Nat) : WeightTable → WeightTable
  | [] => [(name, weight)]
  | (n, w) :: rest =>
    if name < n then (name, weight) :: (n, w) :: rest
    else if name = n then (name, weight) :: rest
    else (n, w) :: put name weight rest

/-- Read a weight table. -/
def WeightTable.read? : Data → Option WeightTable
  | .table members =>
    members.foldlM
      (fun (table : WeightTable) m => (m.2.count? max32).map fun w => table.put m.1 w) []
  | _ => none

/-- The weights of a table. -/
def WeightTable.weights (table : WeightTable) : Except SettingsFault Load.Weights := do
  let ws ← table.foldlM (fun (ws : Load.Weights) entry =>
    match Load.TaskKind.parse entry.1 with
    | .ok kind => Except.ok (ws.set kind entry.2)
    | .error fault => .error (SettingsFault.weights fault)) []
  ws.requireSome.mapError .weights

/-- Take a function over the items of a list with their places. -/
def forPlaces {α β ε : Type} (f : Nat → α → Except ε β) : Nat → List α → Except ε (List β)
  | _, [] => .ok []
  | place, a :: rest => do
    let b ← f place a
    let bs ← forPlaces f (place + 1) rest
    return b :: bs

end GatewayProbe.Settings
