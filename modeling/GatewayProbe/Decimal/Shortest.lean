import GatewayProbe.Decimal.Binary

/-!
# The fewest decimal digits that read back

Every double is the nearest one to all numbers of an interval around it. Of the
decimal grids that meet this interval the coarsest is taken, and on it the point
nearest to the double. If a point of a grid lies in the interval, so does one of
the two grid points next to the double itself, so only these two are tried.
-/

namespace GatewayProbe.Decimal

/-- Which of two grid points equally near is taken. -/
inductive Tie where
  /-- The one with an even last digit. -/
  | toEven
  /-- The larger one. -/
  | up
  deriving DecidableEq, Repr

/-- The decimal number `digits * 10 ^ exponent`. -/
structure Scaled where
  /-- The digits as one number. -/
  digits : Nat
  /-- The power of ten by which they are scaled. -/
  exponent : Int
  deriving DecidableEq, Repr

/-- A value with the ends of its rounding interval, all over one denominator. -/
structure Interval where
  value : Nat
  low : Nat
  high : Nat
  denominator : Nat
  closed : Bool

/-- The interval of numbers that round to a magnitude. -/
def Binary.interval (b : Binary) : Interval :=
  let below := if b.narrowBelow then 1 else 2
  let (num, den) := scaleBy 1 4 b.exponent
  { value := 4 * b.mantissa * num
    low := (4 * b.mantissa - below) * num
    high := (4 * b.mantissa + 2) * num
    denominator := den
    closed := b.mantissa % 2 = 0 }

/-- A number `n / d` that rounds to the value. -/
def Interval.has (i : Interval) (n d : Nat) : Bool :=
  let point := n * i.denominator
  if i.closed then i.low * d ≤ point && point ≤ i.high * d
  else i.low * d < point && point < i.high * d

/-- The power of ten as a quotient. -/
def powerOfTen : Int → Nat × Nat
  | .ofNat k => (10 ^ k, 1)
  | .negSucc k => (1, 10 ^ (k + 1))

/-- Whether the grid point above is nearer than the one below, where the value lies
`rest / cell` of the way between them. -/
def nearerAbove (tie : Tie) (floor rest cell : Nat) : Bool :=
  if 2 * rest = cell then
    match tie with
    | .toEven => floor % 2 == 1
    | .up => true
  else cell < 2 * rest

/-- The point of the grid of the given power of ten that is taken for the value, if the
grid meets the interval. -/
def Interval.onGrid (tie : Tie) (i : Interval) (exponent : Int) : Option Scaled :=
  let (num, den) := powerOfTen exponent
  let cell := i.denominator * num
  let floor := i.value * den / cell
  let rest := i.value * den % cell
  let lower := i.has (floor * num) den
  let upper := i.has ((floor + 1) * num) den
  if upper && (!lower || nearerAbove tie floor rest cell) then some ⟨floor + 1, exponent⟩
  else if lower then some ⟨floor, exponent⟩
  else none

/-- The first grid that meets the interval, going from coarse to fine. -/
def Interval.search (tie : Tie) (i : Interval) : Nat → Int → Scaled
  | 0, _ => ⟨0, 0⟩
  | grids + 1, exponent =>
    match i.onGrid tie exponent with
    | some s => if s.digits = 0 then i.search tie grids (exponent - 1) else s
    | none => i.search tie grids (exponent - 1)

/-- A power of ten no finer than the first digit of a magnitude. -/
def Binary.coarsest (b : Binary) : Int :=
  let bits : Int := (b.mantissa.log2 : Int) + b.exponent + 1
  bits * 30103 / 100000 + 1

/-- Remove the zeros at the end of the digits, at most `fuel` of them. -/
def Scaled.stripped : Nat → Scaled → Scaled
  | 0, s => s
  | fuel + 1, s =>
    if s.digits ≠ 0 ∧ s.digits % 10 = 0 then
      Scaled.stripped fuel ⟨s.digits / 10, s.exponent + 1⟩
    else s

/-- The fewest digits that read back as the magnitude. -/
def Binary.shortest (tie : Tie) (b : Binary) : Scaled :=
  if b.mantissa = 0 then ⟨0, 0⟩
  else (b.interval.search tie 24 b.coarsest).stripped 24

/-- The magnitude rounded to a number of decimal places, in units of the last place. -/
def Binary.inPlaces (places : Nat) (b : Binary) : Nat :=
  let (num, den) := b.quotient (10 ^ places)
  roundQuotient num den

end GatewayProbe.Decimal
