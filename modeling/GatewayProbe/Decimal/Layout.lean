import GatewayProbe.Decimal.Shortest
import GatewayProbe.Text.Integer

/-!
# Writing doubles

A layout fixes how the shortest digits are set: which exponents are written
positionally, whether a whole number keeps a fractional zero, how a tie between
two shortest spellings is broken. Two layouts are in use, one for running text
and one for documents, and next to them stands the writing to a fixed number of
places.
-/

namespace GatewayProbe.Decimal

open GatewayProbe.Text (decimalDigits)

/-- The decisions of a format for doubles. -/
structure Layout where
  /-- The least exponent of the first digit that is written positionally. -/
  least : Option Int
  /-- The greatest exponent of the first digit that is written positionally. -/
  greatest : Option Int
  /-- Whether a whole number is written with one zero after the point. -/
  keepsPoint : Bool
  /-- Which of two equally near shortest spellings is taken. -/
  tie : Tie

/-- Running text is always positional, and a whole number has no point. -/
def Layout.plain : Layout := ⟨none, none, false, .up⟩

/-- Documents are positional from the fifth place after the point to sixteen digits
before it, and a whole number has a point and a zero. -/
def Layout.document : Layout := ⟨some (-5), some 15, true, .toEven⟩

/-- Digits with a point before the last `places` of them, filled with zeros on the left. -/
def pointed (places digits : Nat) : List Char :=
  let shown := decimalDigits digits
  let filled := List.replicate (places + 1 - shown.length) '0' ++ shown
  let whole := filled.length - places
  if places = 0 then filled else filled.take whole ++ '.' :: filled.drop whole

/-- A decimal number set without an exponent. -/
def Scaled.positional (keepsPoint : Bool) (s : Scaled) : List Char :=
  match s.exponent with
  | .ofNat k =>
    let whole := decimalDigits (s.digits * 10 ^ k)
    if keepsPoint then whole ++ ['.', '0'] else whole
  | .negSucc k => pointed (k + 1) s.digits

/-- A decimal number with one digit before the point and an exponent. -/
def Scaled.scientific (s : Scaled) : List Char :=
  let shown := decimalDigits s.digits
  let e : Int := s.exponent + (shown.length : Int) - 1
  let mantissa := if shown.length = 1 then shown else shown.take 1 ++ '.' :: shown.drop 1
  let sign := if e < 0 then '-' else '+'
  mantissa ++ 'e' :: sign :: decimalDigits e.natAbs

/-- The exponent of the first digit. -/
def Scaled.lead (s : Scaled) : Int :=
  s.exponent + ((decimalDigits s.digits).length : Int) - 1

/-- Whether a layout sets a decimal number without an exponent. -/
def Layout.isPositional (l : Layout) (s : Scaled) : Bool :=
  s.digits = 0 || ((l.least.all fun e => e ≤ s.lead) && (l.greatest.all fun e => s.lead ≤ e))

/-- A sign in front of a negative number. -/
def signed (negative : Bool) (text : List Char) : List Char :=
  if negative then '-' :: text else text

/-- A double in a layout. -/
def Layout.write (l : Layout) (x : Float) : String :=
  match read x with
  | .nan => "NaN"
  | .infinite negative => String.ofList (signed negative ['i', 'n', 'f'])
  | .finite negative b =>
    let s := b.shortest l.tie
    String.ofList (signed negative
      (if l.isPositional s then s.positional l.keepsPoint else s.scientific))

/-- A double in running text. -/
def text (x : Float) : String := Layout.plain.write x

/-- A double with a fixed number of decimal places, its exact value rounded with ties to even. -/
def fixed (places : Nat) (x : Float) : String :=
  match read x with
  | .nan => "NaN"
  | .infinite negative => String.ofList (signed negative ['i', 'n', 'f'])
  | .finite negative b => String.ofList (signed negative (pointed places (b.inPlaces places)))

end GatewayProbe.Decimal
