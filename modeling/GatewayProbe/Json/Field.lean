import GatewayProbe.Json.Value

/-!
# Reading values with known fields

A value with known fields is a record that has each of them at most once, among any
others, or a list of exactly the fields in their order. A field that is absent or
null has no value.
-/

namespace GatewayProbe.Json

/-- The text of a string. -/
def Value.text? : Value → Option String
  | .string spelling => spelledText? spelling
  | _ => none

/-- The names of members as texts, with the values. -/
def namedMembers? (members : List (List Piece × Value)) : Option (List (String × Value)) :=
  members.mapM fun (name, v) => (spelledText? name).map fun n => (n, v)

/-- The values of the members with a given name. -/
def valuesOf (name : String) (members : List (String × Value)) : List Value :=
  (members.filter fun m => m.1 = name).map (·.2)

/-- The only value there is, if there is one; of several values none is chosen. -/
def atMostOne? : List Value → Option (Option Value)
  | [] => some none
  | [v] => some (some v)
  | _ => none

/-- The value of each known field, if there is one. -/
def Value.fields? (names : List String) : Value → Option (List (Option Value))
  | .record members => do
    let named ← namedMembers? members
    names.mapM fun name => atMostOne? (valuesOf name named)
  | .list items => if items.length = names.length then some (items.map some) else none
  | _ => none

/-- Read the value of a field that may be absent or null. -/
def optional? {α : Type} (read : Value → Option α) : Option Value → Option (Option α)
  | none | some .null => some none
  | some v => (read v).map some

/-- Read the value of a field that has to be there. -/
def required? {α : Type} (read : Value → Option α) : Option Value → Option α
  | none => none
  | some v => read v

/-- Read a whole number not below `least` and not above `greatest`. -/
def Value.integer? (least greatest : Int) : Value → Option Int
  | .number spelling =>
    match amount? spelling with
    | some (.unsigned n) => if (n : Int) ≤ greatest then some n else none
    | some (.negative n) => if least ≤ n then some n else none
    | _ => none
  | _ => none

/-- Read a list of texts. -/
def Value.texts? : Value → Option (List String)
  | .list items => items.mapM Value.text?
  | _ => none

end GatewayProbe.Json
