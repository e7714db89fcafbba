import GatewayProbe.Decimal.Layout
import GatewayProbe.Decimal.Reading
import GatewayProbe.Text.Blank

/-!
# Latency targets

A target names an endpoint, a quantile and the largest latency allowed there. It is
written with colons between the three; the name may hold colons of its own, because
the other two are split off from the right. A quantile may be given as a fraction or
as a percentage, with or without a leading mark.
-/

namespace GatewayProbe.Slo

open GatewayProbe.Text

/-- A latency target. -/
structure Threshold where
  endpoint : String
  /-- The quantile, above zero and at most one. -/
  quantile : Float
  /-- The largest latency allowed, in milliseconds. -/
  maxMillis : Float

/-- Why there is no such target. -/
inductive Fault where
  | form (value : String)
  | percentile (value : String)
  | maxMillis (value : String)
  deriving DecidableEq, Repr

/-- The wording of each fault. -/
def Fault.message : Fault → String
  | .form value => s!"Invalid SLO '{value}'. Expected '<endpoint>:<percentile>:<max_ms>'."
  | .percentile value => s!"Invalid SLO percentile '{value}'. Use p95, 95, or 0.95."
  | .maxMillis value =>
    s!"Invalid SLO max_ms '{value}'. Expected a positive number of milliseconds."

/-- A double that is a quantile. -/
def isQuantile (q : Float) : Bool := 0.0 < q && q ≤ 1.0

/-- A double that is a latency above zero. -/
def isLimit (m : Float) : Bool := m.isFinite && 0.0 < m

namespace Threshold

/-- The target of an endpoint, if name, quantile and latency are allowed. -/
def create (endpoint : String) (quantile maxMillis : Float) : Except Fault Threshold :=
  if isAllBlank endpoint then .error (.form endpoint)
  else if !isQuantile quantile then .error (.percentile (Decimal.text quantile))
  else if !isLimit maxMillis then .error (.maxMillis (Decimal.text maxMillis))
  else .ok ⟨endpoint, quantile, maxMillis⟩

end Threshold

/-- The quantile in per cent with one decimal place, after a mark. -/
def percentileLabel (q : Float) : String :=
  "p" ++ Decimal.text (Decimal.nearestWhole (q * 1000.0) / 10.0)

/-- The target in words. -/
def Threshold.text (t : Threshold) : String :=
  t.endpoint ++ " " ++ percentileLabel t.quantile ++ " <= " ++ Decimal.text t.maxMillis ++ "ms"

/-- The digits after the mark of a percentile, and whether there is a mark. -/
def unmark : List Char → List Char × Bool
  | 'p' :: rest | 'P' :: rest => (rest, true)
  | other => (other, false)

/-- The quantile that a number stands for: a percentage if it is above one or marked so. -/
def quantileOf (number : Float) (isMarked : Bool) : Float :=
  if 1.0 < number || isMarked then number / 100.0 else number

/-- Read a quantile. -/
def readQuantile (value : List Char) : Except Fault Float :=
  let invalid : Except Fault Float := .error (.percentile (String.ofList value))
  let (digits, isMarked) := unmark (trim value)
  match Decimal.parse digits with
  | none => invalid
  | some number =>
    let q := quantileOf number isMarked
    if isQuantile q then .ok q else invalid

/-- The text without the unit at its end, however often it stands there. -/
def dropUnit (s : List Char) : List Char :=
  let rec go : List Char → List Char
    | 's' :: 'm' :: rest => go rest
    | other => other
  (go s.reverse).reverse

/-- Read a latency in milliseconds. -/
def readLimit (value : List Char) : Except Fault Float :=
  match Decimal.parse (dropUnit (trim value)) with
  | none => .error (.maxMillis (String.ofList value))
  | some m => .ok m

/-- The three parts of a target, the last two split off from the right. -/
def parts? (s : List Char) : Option (List Char × List Char × List Char) := do
  let (rest, limit) ← splitLast ':' s
  let (endpoint, percentile) ← splitLast ':' rest
  return (endpoint, percentile, limit)

/-- Read a target. -/
def Threshold.parse (value : String) : Except Fault Threshold :=
  match parts? value.toList with
  | none => .error (.form value)
  | some (endpoint, percentile, limit) =>
    let name := trim endpoint
    if name.isEmpty then .error (.form value)
    else do
      let limit ← readLimit limit
      let quantile ← readQuantile percentile
      Threshold.create (String.ofList name) quantile limit

/-- The target of an endpoint for which none is given. -/
def Threshold.standard (endpoint : String) : Threshold := ⟨endpoint, 0.95, 400.0⟩

end GatewayProbe.Slo
