import GatewayProbe.Decimal.Binary

/-!
# Histograms of latencies

A histogram counts values in cells. Values below 2048 have a cell each; above, a cell
is as wide as the power of two that leaves eleven binary digits of the value, so a
cell is narrower than a thousandth of its values. A quantile is the upper end of the
cell that holds the value of its rank, but not more than the largest value counted.
-/

namespace GatewayProbe.Metrics

/-- The width of the cell of a value. -/
def cellWidth (v : Nat) : Nat := 2 ^ (v.log2 + 1 - 11)

/-- The least value in the cell of a value. -/
def cellLow (v : Nat) : Nat := v - v % cellWidth v

/-- The greatest value in the cell of a value. -/
def cellHigh (v : Nat) : Nat := cellLow v + (cellWidth v - 1)

/-- The largest value that is counted. -/
def greatestValue : Nat := 2 ^ 64 - 1

/-- Counts of values by cell. -/
structure Histogram where
  /-- The least value and the count of each cell that holds any, in ascending order. -/
  cells : List (Nat × Nat) := []
  /-- The largest value counted. -/
  largest : Nat := 0
  deriving DecidableEq, Repr, Inhabited

namespace Histogram

/-- The histogram without a value. -/
def empty : Histogram := {}

/-- Add to the count of one cell. -/
def addTo (low times : Nat) : List (Nat × Nat) → List (Nat × Nat)
  | [] => [(low, times)]
  | (l, n) :: rest =>
    if low < l then (low, times) :: (l, n) :: rest
    else if low = l then (l, n + times) :: rest
    else (l, n) :: addTo low times rest

/-- Count a number of microseconds; none at all counts as one. -/
def record (h : Histogram) (micros : Nat) (times : Nat) : Histogram :=
  let v := min (max micros 1) greatestValue
  if times = 0 then h
  else { cells := addTo (cellLow v) times h.cells, largest := max h.largest v }

/-- How many values are counted. -/
def count (h : Histogram) : Nat := (h.cells.map (·.2)).sum

/-- A double between zero and one, and no number if it is none. -/
def clampUnit (q : Float) : Float := if q < 0.0 then 0.0 else if 1.0 < q then 1.0 else q

/-- The rank of a quantile among `n` values, at least one. -/
def rank (q : Float) (n : Nat) : Nat := max (Decimal.ceiling (q * Decimal.ofNat n)) 1

/-- The least value of the first cell at which the counts so far reach a rank. -/
def cellAt (rank : Nat) : Nat → List (Nat × Nat) → Option Nat
  | _, [] => none
  | seen, (low, n) :: rest => if rank ≤ seen + n then some low else cellAt rank (seen + n) rest

/-- The value that stands for a quantile, in microseconds. The quantile zero is given by the
lower end of its cell, every other one by the upper end. -/
def quantileMicros (h : Histogram) (q : Float) : Option Nat :=
  if h.cells.isEmpty then none
  else
    let q := clampUnit q
    let value :=
      match cellAt (rank q h.count) 0 h.cells with
      | none => 0
      | some low => if q == 0.0 then low else cellHigh low
    some (min value h.largest)

/-- The value that stands for a quantile, in milliseconds. -/
def quantileMillis (h : Histogram) (q : Float) : Option Float :=
  (h.quantileMicros q).map fun v => Decimal.ofNat v / 1000.0

end Histogram

end GatewayProbe.Metrics
