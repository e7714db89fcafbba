import GatewayProbe.Decimal.Layout
import GatewayProbe.Text.Ascii

/-!
# Writing JSON

A document is a JSON value to be written, with the members of a record in order. It
is written on one line without blanks, or over lines with two spaces for each level.
-/

namespace GatewayProbe.Json

open GatewayProbe.Text

/-- A JSON value to be written. -/
inductive Document where
  | null
  | bool (b : Bool)
  | count (n : Nat)
  | integer (n : Int)
  | real (x : Float)
  | text (s : String)
  | list (items : List Document)
  | record (members : List (String × Document))

/-- The spelling of a character inside a string. -/
def escaped (c : Char) : List Char :=
  if c = '"' then ['\\', '"']
  else if c = '\\' then ['\\', '\\']
  else if c = '\n' then ['\\', 'n']
  else if c = '\r' then ['\\', 'r']
  else if c = '\t' then ['\\', 't']
  else if c.toNat = 8 then ['\\', 'b']
  else if c.toNat = 12 then ['\\', 'f']
  else if c.toNat < 0x20 then
    ['\\', 'u', '0', '0', hexDigit (c.toNat / 16), hexDigit (c.toNat % 16)]
  else [c]

/-- A text between quotes. -/
def quoted (s : String) : List Char := '"' :: s.toList.flatMap escaped ++ ['"']

/-- A double; one that is not finite is null. -/
def writeReal (x : Float) : List Char :=
  if x.isFinite then (Decimal.Layout.document.write x).toList else ['n', 'u', 'l', 'l']

/-- A value that holds no others. -/
def Document.scalar : Document → List Char
  | .bool true => ['t', 'r', 'u', 'e']
  | .bool false => ['f', 'a', 'l', 's', 'e']
  | .count n => decimalDigits n
  | .integer n => if n < 0 then '-' :: decimalDigits n.natAbs else decimalDigits n.natAbs
  | .real x => writeReal x
  | .text s => quoted s
  | _ => ['n', 'u', 'l', 'l']

mutual

/-- A document on one line without blanks. -/
def Document.line : Document → List Char
  | .list items => '[' :: lineItems items ++ [']']
  | .record members => '\x7b' :: lineMembers members ++ ['\x7d']
  | other => other.scalar

/-- The items of a list with commas between them. -/
def lineItems : List Document → List Char
  | [] => []
  | [d] => d.line
  | d :: e :: rest => d.line ++ ',' :: lineItems (e :: rest)

/-- The members of a record with commas between them. -/
def lineMembers : List (String × Document) → List Char
  | [] => []
  | [(name, d)] => quoted name ++ ':' :: d.line
  | (name, d) :: m :: rest => quoted name ++ ':' :: d.line ++ ',' :: lineMembers (m :: rest)

end

/-- A new line at a level. -/
def newLine (level : Nat) : List Char := '\n' :: List.replicate (2 * level) ' '

mutual

/-- A document over lines, its first one continuing a line of the given level. -/
def Document.block (level : Nat) : Document → List Char
  | .list [] => ['[', ']']
  | .list (d :: rest) => '[' :: blockItems (level + 1) (d :: rest) ++ newLine level ++ [']']
  | .record [] => ['\x7b', '\x7d']
  | .record (m :: rest) =>
    '\x7b' :: blockMembers (level + 1) (m :: rest) ++ newLine level ++ ['\x7d']
  | other => other.scalar

/-- The items of a list, one to a line. -/
def blockItems (level : Nat) : List Document → List Char
  | [] => []
  | [d] => newLine level ++ d.block level
  | d :: e :: rest => newLine level ++ d.block level ++ ',' :: blockItems level (e :: rest)

/-- The members of a record, one to a line. -/
def blockMembers (level : Nat) : List (String × Document) → List Char
  | [] => []
  | [(name, d)] => newLine level ++ quoted name ++ ':' :: ' ' :: d.block level
  | (name, d) :: m :: rest =>
    newLine level ++ quoted name ++ ':' :: ' ' :: d.block level ++ ',' ::
      blockMembers level (m :: rest)

end

/-- A document on one line. -/
def Document.compact (d : Document) : String := String.ofList d.line

/-- A document over lines. -/
def Document.pretty (d : Document) : String := String.ofList (d.block 0)

end GatewayProbe.Json
