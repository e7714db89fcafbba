import GatewayProbe.Decimal.Binary
import GatewayProbe.Decimal.Layout

/-!
# Lengths of time

A duration is a whole number of nanoseconds. It is written in the largest unit of
which it holds at least one, with the fraction that the rest makes.
-/

namespace GatewayProbe

/-- A length of time. -/
structure Duration where
  /-- Its count of nanoseconds. -/
  nanos : Nat
  deriving DecidableEq, Repr, Inhabited, Ord

namespace Duration

/-- No time at all. -/
def zero : Duration := ⟨0⟩

/-- A number of milliseconds. -/
def ofMillis (n : Nat) : Duration := ⟨n * 1000000⟩

/-- A number of seconds. -/
def ofSeconds (n : Nat) : Duration := ⟨n * 1000000000⟩

/-- The whole seconds of a duration. -/
def wholeSeconds (d : Duration) : Nat := d.nanos / 1000000000

/-- A duration of no length. -/
def isZero (d : Duration) : Bool := d.nanos = 0

/-- The seconds of a duration as a double: whole seconds and the rest are added as doubles. -/
def seconds (d : Duration) : Float :=
  Decimal.ofNat d.wholeSeconds + Decimal.ofNat (d.nanos % 1000000000) / 1000000000.0

/-- The durations are below this count of seconds. -/
def secondsBound : Nat := 2 ^ 63

/-- The duration nearest to a number of seconds, ties to the even nanosecond. A negative
number, no number and one at or above the bound have none. -/
def ofSecondsFloat (x : Float) : Option Duration :=
  match Decimal.read x with
  | .nan => none
  | .infinite _ => none
  | .finite negative b =>
    let (num, den) := b.quotient 1000000000
    let n := Decimal.roundQuotient num den
    if negative && b.mantissa ≠ 0 then none
    else if n < secondsBound * 1000000000 then some ⟨n⟩
    else none

/-- A count of `1 / 10 ^ places` parts of a unit, without the zeros at its end. -/
private def inUnit (places n : Nat) (unit : String) : String :=
  let whole := String.ofList (Text.decimalDigits (n / 10 ^ places))
  let part := Text.decimalDigits (n % 10 ^ places)
  let filled := List.replicate (places - part.length) '0' ++ part
  let kept := (filled.reverse.dropWhile (· = '0')).reverse
  let fraction := if n % 10 ^ places = 0 then "" else "." ++ String.ofList kept
  whole ++ fraction ++ unit

/-- A duration in the largest unit of which it holds at least one. -/
def text (d : Duration) : String :=
  if 1000000000 ≤ d.nanos then inUnit 9 d.nanos "s"
  else if 1000000 ≤ d.nanos then inUnit 6 d.nanos "ms"
  else if 1000 ≤ d.nanos then inUnit 3 d.nanos "µs"
  else inUnit 0 d.nanos "ns"

end Duration

end GatewayProbe
