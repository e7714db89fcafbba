import GatewayProbe.Text.Ascii
import GatewayProbe.Text.Utf8

/-!
# Percent encoding

A character outside ASCII, a control character and any other character of a given
set is written as its bytes, each one as a percent sign and two hexadecimal digits.
-/

namespace GatewayProbe.Url

open GatewayProbe.Text

/-- A byte as a percent sign and two digits. -/
def percentByte (b : UInt8) : List Char :=
  ['%', hexDigitUpper (b.toNat / 16), hexDigitUpper (b.toNat % 16)]

/-- Characters that are encoded everywhere. -/
def isControlSet (c : Char) : Bool := c.toNat < 0x20 || 0x7F ≤ c.toNat

/-- Characters that are encoded in a fragment. -/
def isFragmentSet (c : Char) : Bool :=
  isControlSet c || c = ' ' || c = '"' || c = '<' || c = '>' || c.toNat = 0x60

/-- Characters that are encoded in the query of a web address. -/
def isQuerySet (c : Char) : Bool :=
  isControlSet c || c = ' ' || c = '"' || c = '#' || c = '<' || c = '>' || c.toNat = 0x27

/-- Characters that are encoded in a path. -/
def isPathSet (c : Char) : Bool :=
  isFragmentSet c || c = '#' || c = '?' || c = '\x7b' || c = '\x7d'

/-- Characters that are encoded in a name or password. -/
def isUserSet (c : Char) : Bool :=
  isPathSet c || c = '/' || c = ':' || c = ';' || c = '=' || c = '@' || c = '[' ||
    c = '\\' || c = ']' || c = '^' || c = '|'

/-- Characters that are encoded in a single segment of a path, so that it stays one. -/
def isSegmentSet (c : Char) : Bool :=
  isPathSet c || c = '/' || c = '%' || c = '\\'

/-- A text with the characters of a set encoded. -/
def percentEncode (inSet : Char → Bool) (s : List Char) : List Char :=
  s.flatMap fun c => if inSet c then (encode [c]).flatMap percentByte else [c]

/-- The bytes of a text in which a percent sign with two digits stands for a byte. -/
def percentDecode : List Char → List UInt8
  | '%' :: a :: b :: rest =>
    match hexValue a, hexValue b with
    | some x, some y => UInt8.ofNat (x * 16 + y) :: percentDecode rest
    | _, _ => encode ['%'] ++ percentDecode (a :: b :: rest)
  | c :: rest => encode [c] ++ percentDecode rest
  | [] => []

end GatewayProbe.Url
