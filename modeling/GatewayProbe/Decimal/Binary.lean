import GatewayProbe.Decimal.Nearest

/-!
# The exact value of a double

A finite double is a sign and a natural number times a power of two.
-/

namespace GatewayProbe.Decimal

/-- The magnitude `mantissa * 2 ^ exponent` of a finite double. -/
structure Binary where
  /-- The binary digits as one number. -/
  mantissa : Nat
  /-- The power of two by which they are scaled. -/
  exponent : Int
  /-- Whether the next smaller double is only half as far away as the next larger one. -/
  narrowBelow : Bool
  deriving DecidableEq, Repr

/-- What a double stands for. -/
inductive Reading where
  /-- It stands for no number. -/
  | nan
  /-- It stands for an infinity of the given sign. -/
  | infinite (negative : Bool)
  /-- It stands for a number of the given sign and magnitude. -/
  | finite (negative : Bool) (magnitude : Binary)
  deriving DecidableEq, Repr

/-- Take the bits of a double apart. -/
def readBits (bits : Nat) : Reading :=
  let negative : Bool := bits / 2 ^ 63 % 2 = 1
  let biased : Nat := bits / 2 ^ 52 % 2 ^ 11
  let fraction : Nat := bits % 2 ^ 52
  if biased = 2047 then
    if fraction = 0 then .infinite negative else .nan
  else if biased = 0 then .finite negative ⟨fraction, leastExponent, false⟩
  else .finite negative
    ⟨2 ^ 52 + fraction, leastExponent + ((biased : Int) - 1), fraction = 0 && 1 < biased⟩

/-- What a double stands for. -/
def read (x : Float) : Reading := readBits x.toBits.toNat

/-- The magnitude times `factor` as a quotient of natural numbers. -/
def Binary.quotient (b : Binary) (factor : Nat) : Nat × Nat :=
  scaleBy (b.mantissa * factor) 1 b.exponent

/-- The largest natural number of 64 binary digits. -/
def greatestWord : Nat := 2 ^ 64 - 1

/-- A double as a natural number of 64 binary digits, where `divide` says what becomes of a
fraction. A number below zero and no number give zero, and too large a number the greatest. -/
def toWord (divide : Nat → Nat → Nat) (x : Float) : Nat :=
  match read x with
  | .nan => 0
  | .infinite negative => if negative then 0 else greatestWord
  | .finite negative b =>
    let (num, den) := b.quotient 1
    if negative then 0 else min (divide num den) greatestWord

/-- The least natural number that is not below a double. -/
def ceiling : Float → Nat := toWord fun num den => (num + (den - 1)) / den

/-- The natural number nearest to a double, the larger one of two. -/
def halfUp : Float → Nat := toWord fun num den => (2 * num + den) / (2 * den)

/-- The double nearest to a natural number. -/
def ofNat (n : Nat) : Float := nearest n 1

/-- The whole number nearest to a double, of two the one farther from zero. What is no finite
number stays as it is. -/
def nearestWhole (x : Float) : Float :=
  match read x with
  | .finite negative b =>
    let (num, den) := b.quotient 1
    let whole := ofNat ((2 * num + den) / (2 * den))
    if negative then -whole else whole
  | _ => x

end GatewayProbe.Decimal
