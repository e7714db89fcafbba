import GatewayProbe.Decimal.Nearest
import GatewayProbe.Text.Ascii

/-!
# Reading doubles

A number is an optional sign, digits with at most one point among or beside them,
and an optional exponent; or a word for an infinity or for no number, in any case
of letters. The number read is the double nearest to the exact decimal value.
-/

namespace GatewayProbe.Decimal

open GatewayProbe.Text (lower)

/-- The value of a run of decimal digits. -/
def digitsValue (s : List Char) : Nat :=
  s.foldl (fun n c => n * 10 + (c.toNat - 48)) 0

/-- The leading digits of a text and what follows them. -/
def spanDigits (s : List Char) : List Char × List Char :=
  (s.takeWhile Char.isDigit, s.dropWhile Char.isDigit)

/-- The number after an exponent mark: an optional sign and at least one digit, to the end. -/
def readExponent (s : List Char) : Option Int :=
  let magnitude (digits : List Char) : Option Int :=
    if !digits.isEmpty && digits.all Char.isDigit then some (digitsValue digits) else none
  match s with
  | '-' :: digits => (magnitude digits).map (-·)
  | '+' :: digits => magnitude digits
  | digits => magnitude digits

/-- The digits of an unsigned decimal and the power of ten that scales them. -/
def readScaled (s : List Char) : Option (Nat × Int) :=
  let (whole, rest) := spanDigits s
  let (fraction, rest) :=
    match rest with
    | '.' :: more => spanDigits more
    | other => ([], other)
  if whole.isEmpty && fraction.isEmpty then none
  else
    let digits := digitsValue (whole ++ fraction)
    let places : Int := fraction.length
    match rest with
    | [] => some (digits, -places)
    | c :: more =>
      if c = 'e' || c = 'E' then (readExponent more).map fun e => (digits, e - places)
      else none

/-- A positive double from an unsigned decimal or a word. -/
def readUnsigned (s : List Char) : Option Float :=
  let word := String.ofList (lower s)
  if word = "inf" || word = "infinity" then some (1.0 / 0.0)
  else if word = "nan" then some (0.0 / 0.0)
  else (readScaled s).map fun (digits, exponent) => nearestScaled digits exponent

/-- Read a double from a text without blanks. -/
def parse (s : List Char) : Option Float :=
  match s with
  | '-' :: rest => (readUnsigned rest).map (-·)
  | '+' :: rest => readUnsigned rest
  | other => readUnsigned other

/-- Read a double from a string. -/
def parse? (s : String) : Option Float := parse s.toList

end GatewayProbe.Decimal
