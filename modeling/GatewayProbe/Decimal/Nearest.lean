import GatewayProbe.Arithmetic

/-!
# Rounding exact quotients

An exact quotient of natural numbers is rounded to the nearest integer, and a tie
goes to the even one. The same rule gives the double nearest to a quotient: the
quotient is scaled by the power of two that leaves fifty-three binary digits, or
by the least power a double has.
-/

namespace GatewayProbe.Decimal

/-- The integer nearest to `num / den`, the even one of two. -/
def roundQuotient (num den : Nat) : Nat :=
  let q := num / den
  let r := num % den
  if 2 * r < den then q
  else if den < 2 * r then q + 1
  else if q % 2 = 0 then q else q + 1

/-- The quotient scaled by a power of two, `num / den * 2 ^ shift`, as a new pair. -/
def scaleBy (num den : Nat) (shift : Int) : Nat × Nat :=
  match shift with
  | .ofNat k => (num * 2 ^ k, den)
  | .negSucc k => (num, den * 2 ^ (k + 1))

/-- The least binary exponent of a double. -/
def leastExponent : Int := -1074

/-- The exponent of the last binary digit that a double near `num / den` keeps. -/
def unitExponent (num den : Nat) : Int :=
  let guess : Int := (num.log2 : Int) - (den.log2 : Int) - 52
  let scaled := scaleBy num den (-guess)
  let e := if scaled.1 < scaled.2 * 2 ^ 52 then guess - 1 else guess
  max e leastExponent

/-- The bits of a positive double with digits at an exponent; too large a one is infinite. -/
def packedBits (e : Int) (digits : Nat) : Nat :=
  min ((e - leastExponent).toNat * 2 ^ 52 + digits) (2047 * 2 ^ 52)

/-- The bits of the positive double nearest to a positive quotient. -/
def nearestBits (num den : Nat) : Nat :=
  let e := unitExponent num den
  let scaled := scaleBy num den (-e)
  packedBits e (roundQuotient scaled.1 scaled.2)

/-- The double nearest to `num / den`. -/
def nearest (num den : Nat) : Float :=
  if num = 0 then 0.0 else Float.ofBits (UInt64.ofNat (nearestBits num den))

/-- The double nearest to `digits * 10 ^ exponent`. A power far outside the range of the
doubles is not computed. -/
def nearestScaled (digits : Nat) (exponent : Int) : Float :=
  let size : Int := (Nat.toDigits 10 digits).length
  if digits = 0 then 0.0
  else if 400 < exponent + size then Float.ofBits 0x7FF0000000000000
  else if exponent + size < -400 then 0.0
  else
    match exponent with
    | .ofNat k => nearest (digits * 10 ^ k) 1
    | .negSucc k => nearest digits (10 ^ (k + 1))

end GatewayProbe.Decimal
