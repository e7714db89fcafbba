/-!
# ASCII case and hexadecimal digits

Case is folded for the twenty-six Latin letters and for nothing else, so a letter
outside ASCII keeps its form.
-/

namespace GatewayProbe.Text

/-- The text with its ASCII letters in upper case. -/
def upper (s : List Char) : List Char := s.map Char.toUpper

/-- The text with its ASCII letters in lower case. -/
def lower (s : List Char) : List Char := s.map Char.toLower

/-- A string with its ASCII letters in lower case. -/
def lowered (s : String) : String := String.ofList (lower s.toList)

/-- The value of a hexadecimal digit in either case. -/
def hexValue (c : Char) : Option Nat :=
  if c.isDigit then some (c.toNat - 48)
  else if 'a' ≤ c ∧ c ≤ 'f' then some (c.toNat - 87)
  else if 'A' ≤ c ∧ c ≤ 'F' then some (c.toNat - 55)
  else none

/-- The value of a digit in a base up to sixteen. -/
def baseDigitValue (base : Nat) (c : Char) : Option Nat :=
  (hexValue c).filter (· < base)

/-- The lower-case hexadecimal digit of a number below sixteen. -/
def hexDigit (n : Nat) : Char := Nat.digitChar n

/-- The upper-case hexadecimal digit of a number below sixteen. -/
def hexDigitUpper (n : Nat) : Char := (Nat.digitChar n).toUpper

/-- A number in lower-case hexadecimal, filled with zeros to a width. -/
def hexPadded (width n : Nat) : String :=
  let digits := Nat.toDigits 16 n
  String.ofList (List.replicate (width - digits.length) '0' ++ digits)

end GatewayProbe.Text
