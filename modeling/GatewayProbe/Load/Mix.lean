import GatewayProbe.Random.Choice
import GatewayProbe.Text.Ascii
import GatewayProbe.Text.Blank
import GatewayProbe.Text.Integer

/-!
# The mix of tasks

A virtual user checks the health of the gateway, executes a command or looks at a
task seen before. How often it does each is given by weights. A table of weights is
written as names with numbers; the last weight of a kind counts, and the kinds stand
in the order of these last weights. A number below the sum of all weights chooses the
entry whose share it falls into. Such a number is a 32-bit word, so a table whose weights
sum to more makes no mix, and neither does one without any weight.
-/

namespace GatewayProbe.Load

open GatewayProbe.Text

/-- What a virtual user can do in one iteration. -/
inductive TaskKind where
  | health
  | execute
  | status
  deriving DecidableEq, Repr, Inhabited

/-- The name of a kind. -/
def TaskKind.name : TaskKind → String
  | .health => "health"
  | .execute => "execute"
  | .status => "status"

/-- All names under which a kind is known. -/
def TaskKind.aliases : TaskKind → List String
  | .health => ["health", "healthcheck", "health_check"]
  | .execute => ["execute", "exec"]
  | .status => ["status", "statuscheck", "status_check"]

/-- Why a text gives no weights. -/
inductive WeightsFault where
  | form (value : String)
  | unknownKind (value : String)
  | weight (pair : String) (cause : IntegerError)
  | allZero
  deriving DecidableEq, Repr

/-- The wording of each fault. -/
def WeightsFault.message : WeightsFault → String
  | .form value =>
    s!"Invalid task weights '{value}'. Expected 'health=10,execute=60,status=30'."
  | .unknownKind value => s!"Unknown task type '{value}'. Use health, execute, or status."
  | .weight pair cause => "Invalid weight in '" ++ pair ++ "': " ++ cause.message
  | .allZero => "Task weights must not all be zero."

/-- The kind that a text names, in any case of ASCII letters and with blanks around. -/
def TaskKind.parse (value : String) : Except WeightsFault TaskKind :=
  let name := lower (trim value.toList)
  match [TaskKind.health, .execute, .status].find? fun k => isOneOf k.aliases name with
  | some kind => .ok kind
  | none => .error (.unknownKind value)

/-- Kinds with their weights, in order. -/
abbrev Weights := List (TaskKind × Nat)

namespace Weights

/-- The table when none is given. -/
def standard : Weights := [(.health, 10), (.execute, 60), (.status, 30)]

/-- The table with the weight of a kind put at its end, in place of an earlier one. -/
def set (ws : Weights) (kind : TaskKind) (weight : Nat) : Weights :=
  ws.filter (fun entry => entry.1 ≠ kind) ++ [(kind, weight)]

/-- The sum of all weights. -/
def total (ws : Weights) : Nat := (ws.map (·.2)).sum

/-- Whether no entry has a weight. -/
def isNull (ws : Weights) : Bool := ws.all fun entry => entry.2 = 0

/-- Read one entry of a table given as `whole`. -/
def readPair (whole : String) (pair : List Char) : Except WeightsFault (TaskKind × Nat) :=
  match splitFirst '=' pair with
  | none => .error (.form whole)
  | some (name, weight) => do
    let kind ← TaskKind.parse (String.ofList name)
    match readUnsigned max32 (trim weight) with
    | .ok w => .ok (kind, w)
    | .error cause => .error (.weight (String.ofList pair) cause)

/-- The pieces of a table that are not blank, without the blanks around them. -/
def pieces (s : List Char) : List (List Char) :=
  ((splitWhere (· = ',') s).map trim).filter fun piece => !piece.isEmpty

/-- Read a table. -/
def parse (value : String) : Except WeightsFault Weights := do
  let ws ← (pieces value.toList).foldlM (fun ws pair => do
    let (kind, weight) ← readPair value pair
    return set ws kind weight) []
  if ws.isEmpty then .error (.form value) else .ok ws

/-- Refuse a table without any weight. -/
def requireSome (ws : Weights) : Except WeightsFault Weights :=
  if ws.isNull then .error .allZero else .ok ws

/-- The entry whose share of the sum a number falls into. -/
def at? : Weights → Nat → Option TaskKind
  | [], _ => none
  | (kind, weight) :: rest, x => if x < weight then some kind else at? rest (x - weight)

/-- Choose a kind. -/
def pick (ws : Weights) (s : Random.Stream) : TaskKind × Random.Stream :=
  let (x, s) := Random.drawWeight ws.total s
  ((ws.at? x).getD .health, s)

/-- Choose some kinds in a row. -/
def picks (ws : Weights) : Nat → Random.Stream → List TaskKind
  | 0, _ => []
  | n + 1, s =>
    let (kind, s) := ws.pick s
    kind :: picks ws n s

end Weights

/-- A table that kinds can be drawn from: some kind has a weight, and the sum of all weights is a
32-bit number. -/
structure Mix where
  weights : Weights
  pos : 0 < weights.total
  le_max : weights.total ≤ max32

/-- The mix when no table is given. -/
def Mix.standard : Mix := ⟨.standard, by decide, by decide⟩

instance : Inhabited Mix := ⟨.standard⟩

/-- Choose a kind. -/
def Mix.pick (m : Mix) (s : Random.Stream) : TaskKind × Random.Stream := m.weights.pick s

/-- The mix that a table makes. -/
def Weights.mix (ws : Weights) : Except WeightsFault Mix :=
  if h : 0 < ws.total ∧ ws.total ≤ max32 then .ok ⟨ws, h.1, h.2⟩ else .error .allZero

/-- The mix that a table makes, and the usual one where it makes none. -/
def Weights.mixOrStandard (ws : Weights) : Mix := ws.mix.toOption.getD .standard

instance : Coe Weights Mix := ⟨Weights.mixOrStandard⟩

end GatewayProbe.Load
