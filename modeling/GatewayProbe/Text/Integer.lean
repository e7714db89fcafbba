import GatewayProbe.Arithmetic

/-!
# Reading bounded integers

An unsigned integer is an optional plus sign and one or more decimal digits, of a
value not above a bound. Reading goes from left to right and stops at the first
fault, so a foreign character wins over an overflow that would come after it.
-/

namespace GatewayProbe.Text

/-- Why a text is not an integer in range. -/
inductive IntegerError where
  /-- There is no text at all. -/
  | empty
  /-- A character is not a decimal digit, or a sign stands alone. -/
  | invalidDigit
  /-- The digits read so far exceed the bound. -/
  | tooLarge
  deriving DecidableEq, Repr

/-- The wording of each fault. -/
def IntegerError.message : IntegerError → String
  | .empty => "cannot parse integer from empty string"
  | .invalidDigit => "invalid digit found in string"
  | .tooLarge => "number too large to fit in target type"

/-- Extend a value by decimal digits while it stays within the bound. -/
def readDigits (bound : Nat) : Nat → List Char → Except IntegerError Nat
  | value, [] => .ok value
  | value, c :: rest =>
    if c.isDigit then
      let next := value * 10 + (c.toNat - 48)
      if next ≤ bound then readDigits bound next rest else .error .tooLarge
    else .error .invalidDigit

/-- Read an unsigned integer not above the bound. -/
def readUnsigned (bound : Nat) : List Char → Except IntegerError Nat
  | [] => .error .empty
  | ['+'] => .error .invalidDigit
  | '+' :: digits => readDigits bound 0 digits
  | digits => readDigits bound 0 digits

/-- The largest value of a 32-bit word. -/
def max32 : Nat := 2 ^ 32 - 1

/-- The largest value of a 64-bit word. -/
def max64 : Nat := 2 ^ 64 - 1

/-- The decimal digits of a number. -/
def decimalDigits (n : Nat) : List Char := Nat.toDigits 10 n

end GatewayProbe.Text
