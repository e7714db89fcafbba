import GatewayProbe.Json.Document
import GatewayProbe.Slo.Threshold

/-!
# Targets and what was observed

A target is met if the latency observed at its quantile does not exceed it, violated
if it does, and not judged where nothing was observed.
-/

namespace GatewayProbe.Slo

/-- How a target came out. -/
inductive Verdict where
  | met
  | violated
  | noData
  deriving DecidableEq, Repr

/-- The name of a verdict. -/
def Verdict.name : Verdict → String
  | .met => "SLO_MET"
  | .violated => "SLO_VIOLATED"
  | .noData => "NO_DATA"

/-- The verdict with a given name. -/
def Verdict.ofName? (s : String) : Option Verdict :=
  [Verdict.met, .violated, .noData].find? fun v => v.name = s

/-- A target with what was observed and the verdict. -/
structure Outcome where
  endpoint : String
  quantile : Float
  observedMillis : Option Float
  maxMillis : Float
  verdict : Verdict

/-- The verdict on an observation. -/
def judge (observed : Option Float) (maxMillis : Float) : Verdict :=
  match observed with
  | none => .noData
  | some x => if x ≤ maxMillis then .met else .violated

/-- The outcome of each target, where `observe` gives the latency of a name at a quantile. -/
def evaluate (observe : String → Float → Option Float) (targets : List Threshold) : List Outcome :=
  targets.map fun t =>
    let observed := observe t.endpoint t.quantile
    ⟨t.endpoint, t.quantile, observed, t.maxMillis, judge observed t.maxMillis⟩

namespace Outcome

/-- Whether a target is violated. -/
def isViolation (o : Outcome) : Bool := o.verdict = .violated

/-- An outcome in words. -/
def line (o : Outcome) : String :=
  let name := o.endpoint ++ " " ++ percentileLabel o.quantile
  let limit := Decimal.text o.maxMillis ++ "ms"
  match o.verdict, o.observedMillis with
  | .met, some x => "SUCCESS: " ++ name ++ " " ++ Decimal.fixed 1 x ++ "ms <= " ++ limit
  | .violated, some x =>
    "WARNING: " ++ name ++ " " ++ Decimal.fixed 1 x ++ "ms exceeds the " ++ limit ++ " target"
  | _, _ => "WARNING: " ++ name ++ " has no samples (" ++ limit ++ " target not evaluated)"

/-- An outcome as a document. -/
def document (o : Outcome) : Json.Document :=
  .record [("endpoint_name", .text o.endpoint), ("percentile", .real o.quantile),
    ("observed_ms", o.observedMillis.elim .null .real), ("max_ms", .real o.maxMillis),
    ("verdict", .text o.verdict.name)]

end Outcome

/-- How many targets are violated. -/
def violations (outcomes : List Outcome) : Nat := outcomes.countP Outcome.isViolation

end GatewayProbe.Slo
