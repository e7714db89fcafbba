import GatewayProbe.Json.Token
import GatewayProbe.Decimal.Reading
import GatewayProbe.Text.Integer

/-!
# JSON values

A value is built from the tokens of a text by a machine with a stack of unfinished
lists and records, so nesting is not bounded. Strings and numbers stay as they are
spelled. A record keeps all its members in order, repeated names among them.
-/

namespace GatewayProbe.Json

open GatewayProbe.Text

/-- A JSON value with its strings and numbers as they are spelled. -/
inductive Value where
  | null
  | bool (b : Bool)
  | number (spelling : List Char)
  | string (spelling : List Piece)
  | list (items : List Value)
  | record (members : List (List Piece × Value))
  deriving Repr, Inhabited

/-- The text after a fraction and an exponent, both optional, if they are well formed. -/
def afterFraction (s : List Char) : Option (List Char) :=
  match s with
  | '.' :: rest =>
    if (rest.takeWhile Char.isDigit).isEmpty then none else some (rest.dropWhile Char.isDigit)
  | other => some other

/-- Whether a text is an optional exponent. -/
def isExponentPart : List Char → Bool
  | [] => true
  | c :: rest => (c = 'e' || c = 'E') && (Decimal.readExponent rest).isSome

/-- A number without its minus sign: digits that do not begin with a superfluous zero, then an
optional fraction and an optional exponent. -/
def isMagnitude (s : List Char) : Bool :=
  let whole := s.takeWhile Char.isDigit
  let leading : Bool := whole.length = 1 || whole.head? ≠ some '0'
  !whole.isEmpty && leading &&
    (afterFraction (s.dropWhile Char.isDigit)).any isExponentPart

/-- Whether a word spells a number. -/
def isNumber : List Char → Bool
  | '-' :: rest => isMagnitude rest
  | other => isMagnitude other

/-- The value that a word spells. -/
def Value.ofWord? (w : List Char) : Option Value :=
  match w with
  | ['n', 'u', 'l', 'l'] => some .null
  | ['t', 'r', 'u', 'e'] => some (.bool true)
  | ['f', 'a', 'l', 's', 'e'] => some (.bool false)
  | other => if isNumber other then some (.number other) else none

/-- A list or record of which some items are known, in reverse. -/
inductive Frame where
  | list (items : List Value)
  | record (members : List (List Piece × Value)) (name : List Piece)

/-- What the machine expects next. -/
inductive Mode where
  /-- A value. -/
  | value
  /-- The first item of a list, or its end. -/
  | firstItem
  /-- The first name of a record, or its end. -/
  | firstName
  /-- A further name of a record, of which the members so far are given in reverse. -/
  | name (members : List (List Piece × Value))
  /-- The colon after a name. -/
  | colon (members : List (List Piece × Value)) (name : List Piece)
  /-- Whatever may follow a finished value. -/
  | done (v : Value)

/-- Run the machine over tokens. -/
def build : Mode → List Frame → List Token → Option Value
  | .done v, [], [] => some v
  | _, _, [] => none
  | .value, stack, t :: rest =>
    match t with
    | .openList => build .firstItem stack rest
    | .openRecord => build .firstName stack rest
    | .string s => build (.done (.string s)) stack rest
    | .word w =>
      match Value.ofWord? w with
      | some v => build (.done v) stack rest
      | none => none
    | _ => none
  | .firstItem, stack, t :: rest =>
    match t with
    | .closeList => build (.done (.list [])) stack rest
    | .openList => build .firstItem (.list [] :: stack) rest
    | .openRecord => build .firstName (.list [] :: stack) rest
    | .string s => build (.done (.string s)) (.list [] :: stack) rest
    | .word w =>
      match Value.ofWord? w with
      | some v => build (.done v) (.list [] :: stack) rest
      | none => none
    | _ => none
  | .firstName, stack, t :: rest =>
    match t with
    | .closeRecord => build (.done (.record [])) stack rest
    | .string s => build (.colon [] s) stack rest
    | _ => none
  | .name members, stack, t :: rest =>
    match t with
    | .string s => build (.colon members s) stack rest
    | _ => none
  | .colon members name, stack, t :: rest =>
    match t with
    | .colon => build .value (.record members name :: stack) rest
    | _ => none
  | .done v, frame :: stack, t :: rest =>
    match frame, t with
    | .list items, .comma => build .value (.list (v :: items) :: stack) rest
    | .list items, .closeList => build (.done (.list (v :: items).reverse)) stack rest
    | .record members name, .comma => build (.name ((name, v) :: members)) stack rest
    | .record members name, .closeRecord =>
      build (.done (.record ((name, v) :: members).reverse)) stack rest
    | _, _ => none
  | .done _, [], _ :: _ => none

/-- The value that tokens spell. -/
def Value.ofTokens? (tokens : List Token) : Option Value := build .value [] tokens

/-- Read the one value of a JSON text. -/
def parse (bytes : List UInt8) : Option Value := (lex bytes).bind Value.ofTokens?

/-- Read the one value of a JSON string. -/
def parse? (s : String) : Option Value := parse (bytesOf s)

/-- What the spelling of a number stands for. -/
inductive Amount where
  /-- A whole number without a sign, within 64 bits. -/
  | unsigned (n : Nat)
  /-- A negative whole number within 64 bits. -/
  | negative (n : Int)
  /-- Any other number, as the nearest double. -/
  | real (x : Float)
  deriving Repr

/-- The amount that a number spells. A whole number too large for 64 bits and a zero with a
sign are doubles. A number beyond all doubles has no amount. -/
def amount? (spelling : List Char) : Option Amount :=
  let real : Option Amount :=
    (Decimal.parse spelling).bind fun x => if x.isFinite then some (.real x) else none
  match spelling with
  | '-' :: digits =>
    if digits.all Char.isDigit then
      match readUnsigned (2 ^ 63) digits with
      | .ok n => if n = 0 then real else some (.negative (-(n : Int)))
      | .error _ => real
    else real
  | digits =>
    if digits.all Char.isDigit then
      match readUnsigned max64 digits with
      | .ok n => some (.unsigned n)
      | .error _ => real
    else real

end GatewayProbe.Json
