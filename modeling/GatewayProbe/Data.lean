import GatewayProbe.Decimal.Binary
import GatewayProbe.Json.Field

/-!
# Data of settings files

A settings file holds data of a few kinds, whatever the format it is written in. A
table keeps all its members in order. Data that could not be read is kept as such: it
does no harm where nobody asks for it. A table of known fields is a table that has each
of them at most once, among any others, or a list of the fields in their order.
-/

namespace GatewayProbe

/-- Data of a settings file. -/
inductive Data where
  | null
  | bool (b : Bool)
  | integer (n : Int)
  | real (x : Float)
  | text (s : String)
  /-- A date or a time of day. -/
  | date
  | list (items : List Data)
  | table (members : List (String × Data))
  /-- What cannot be read. -/
  | unreadable
  deriving Inhabited

namespace Data

/-- The number that a JSON spelling stands for. -/
def ofAmount : Option Json.Amount → Data
  | some (.unsigned n) => .integer n
  | some (.negative n) => .integer n
  | some (.real x) => .real x
  | none => .unreadable

/-- The data that a JSON value is, if lists and tables are nested no deeper than allowed. -/
def ofJson : Nat → Json.Value → Data
  | _, .null => .null
  | _, .bool b => .bool b
  | _, .number spelling => ofAmount (Json.amount? spelling)
  | _, .string spelling => (Json.spelledText? spelling).elim .unreadable .text
  | 0, .list _ => .unreadable
  | 0, .record _ => .unreadable
  | depth + 1, .list items => .list (items.map (ofJson depth))
  | depth + 1, .record members =>
    match Json.namedMembers? members with
    | some named => .table (named.map fun m => (m.1, ofJson depth m.2))
    | none => .unreadable

/-- How deep lists and tables of a JSON text may be nested where they are read. -/
def jsonDepth : Nat := 127

/-- The data of a JSON text. -/
def ofJsonText? (s : String) : Option Data := (Json.parse? s).map (ofJson jsonDepth)

mutual

/-- Whether all parts can be read. -/
def isReadable : Data → Bool
  | .unreadable => false
  | .list items => areReadable items
  | .table members => membersReadable members
  | _ => true

/-- Whether all parts of all items can be read. -/
def areReadable : List Data → Bool
  | [] => true
  | d :: rest => d.isReadable && areReadable rest

/-- Whether all parts of all members can be read. -/
def membersReadable : List (String × Data) → Bool
  | [] => true
  | (_, d) :: rest => d.isReadable && membersReadable rest

end

/-- Whether a list may hold more items than there are fields. -/
inductive Surplus where
  | refused
  | ignored
  deriving DecidableEq, Repr

/-- The values of the members with a given name. -/
def valuesOf (name : String) (members : List (String × Data)) : List Data :=
  (members.filter fun m => m.1 = name).map (·.2)

/-- The value of each known field, if there is one. A date has none of them. -/
def fields? (surplus : Surplus) (names : List String) : Data → Option (List (Option Data))
  | .table members =>
    names.mapM fun name =>
      match valuesOf name members with
      | [] => some none
      | [d] => some (some d)
      | _ => none
  | .list items =>
    if items.length = names.length ∨ (surplus = .ignored ∧ names.length ≤ items.length) then
      some ((items.take names.length).map some)
    else none
  | .date => some (names.map fun _ => none)
  | _ => none

/-- Read the value of a field that may be absent or null. -/
def optional? {α : Type} (read : Data → Option α) : Option Data → Option (Option α)
  | none | some .null => some none
  | some d => (read d).map some

/-- A text. -/
def text? : Data → Option String
  | .text s => some s
  | _ => none

/-- A truth value. -/
def bool? : Data → Option Bool
  | .bool b => some b
  | _ => none

/-- A whole number from zero to a bound. -/
def count? (bound : Nat) : Data → Option Nat
  | .integer n => if 0 ≤ n ∧ n ≤ bound then some n.toNat else none
  | _ => none

/-- A number as a double. -/
def real? : Data → Option Float
  | .real x => some x
  | .integer n =>
    some (if n < 0 then -(Decimal.ofNat n.natAbs) else Decimal.ofNat n.natAbs)
  | _ => none

/-- A list, each item of which can be read. -/
def list? {α : Type} (read : Data → Option α) : Data → Option (List α)
  | .list items => items.mapM read
  | _ => none

/-- A list of texts. -/
def texts? : Data → Option (List String) := list? text?

end Data

end GatewayProbe
