import GatewayProbe.Duration
import GatewayProbe.Text.Blank
import GatewayProbe.Text.Integer

/-!
# Durations as text

A duration is written as decimal digits and a unit, milliseconds, seconds, minutes
or hours; without a unit the digits count seconds. Blanks may stand around the
whole and before the unit. A duration of no length is refused.
-/

namespace GatewayProbe.Duration

open GatewayProbe.Text

/-- Why a text is not a duration. -/
inductive Fault where
  /-- There is nothing but blanks. -/
  | empty
  /-- The text does not begin with a digit. -/
  | form (value : String)
  /-- The digits make no 64-bit number. -/
  | number (value : String) (cause : IntegerError)
  /-- The count of seconds is no 64-bit number. -/
  | overflow
  /-- There is no such unit. -/
  | unit (name : String)
  /-- The duration has no length. -/
  | zero
  deriving DecidableEq, Repr

/-- The wording of each fault. -/
def Fault.message : Fault → String
  | .empty => "Duration must not be empty."
  | .form value => s!"Invalid duration '{value}'."
  | .number value cause => "Invalid duration '" ++ value ++ "': " ++ cause.message
  | .overflow => "Duration overflow."
  | .unit name => s!"Invalid duration unit '{name}'."
  | .zero => "Duration must be > 0."

/-- The units a duration is given in. -/
inductive TimeUnit where
  | milliseconds
  | seconds
  | minutes
  | hours
  deriving DecidableEq, Repr

/-- The unit with a given name; no name means seconds. -/
def TimeUnit.ofName? : List Char → Option TimeUnit
  | ['m', 's'] => some .milliseconds
  | [] | ['s'] => some .seconds
  | ['m'] => some .minutes
  | ['h'] => some .hours
  | _ => none

/-- A number of units as a duration, if its seconds fit a 64-bit word. -/
def TimeUnit.times? (unit : TimeUnit) (n : Nat) : Option Duration :=
  match unit with
  | .milliseconds => some (ofMillis n)
  | .seconds => some (ofSeconds n)
  | .minutes => if n * 60 ≤ max64 then some (ofSeconds (n * 60)) else none
  | .hours => if n * 3600 ≤ max64 then some (ofSeconds (n * 3600)) else none

/-- The duration of a number of units that a name stands for. -/
def ofCount (n : Nat) (name : List Char) : Except Fault Duration :=
  match TimeUnit.ofName? name with
  | none => .error (.unit (String.ofList name))
  | some unit =>
    match unit.times? n with
    | none => .error .overflow
    | some d => if d.isZero then .error .zero else .ok d

/-- Read a duration from a text without blanks at its ends. -/
def readTrimmed (value : List Char) : Except Fault Duration :=
  let digits := value.takeWhile Char.isDigit
  if value.isEmpty then .error .empty
  else if digits.isEmpty then .error (.form (String.ofList value))
  else
    match readUnsigned max64 digits with
    | .error cause => .error (.number (String.ofList value) cause)
    | .ok n => ofCount n (trim (value.dropWhile Char.isDigit))

/-- Read a duration from a text. -/
def parse (s : String) : Except Fault Duration := readTrimmed (trim s.toList)

end GatewayProbe.Duration
