import GatewayProbe.Settings.Keyed

/-!
# Options of a command line

Settings can be given by options. An option has a long name and sometimes a short one.
It is a flag, or it takes a value; what takes a value may be given once, or any number
of times. A value is accepted or refused as soon as nothing more can follow for it.
-/

namespace GatewayProbe.CommandLine

open GatewayProbe.Settings

/-- Why the value of an option is refused. -/
inductive ValueFault where
  /-- It is empty where it may not be. -/
  | empty
  | invalid (fault : Invalid)
  | integer (cause : Text.IntegerError)
  deriving DecidableEq, Repr

/-- The wording of each fault. -/
def ValueFault.message : ValueFault → String
  | .empty => ""
  | .invalid fault => (Failure.invalid fault).message
  | .integer cause => cause.message

/-- How an option is given. -/
inductive Form where
  /-- Without a value, at most once. -/
  | flag
  /-- With a value, at most once. -/
  | single
  /-- With a value, any number of times. -/
  | repeated
  /-- With a value that may look like an option, any number of times. -/
  | repeatedVerbatim
  deriving DecidableEq, Repr

/-- How an option looks. -/
structure Shape where
  long : String
  short : Option Char := none
  /-- What stands for its value where the option is described. -/
  valueName : String := ""
  form : Form := .single
  deriving DecidableEq, Repr

namespace Shape

/-- A flag of a name. -/
def flag (long : String) (short : Option Char := none) : Shape := ⟨long, short, "", .flag⟩

/-- An option with a value, at most once. -/
def single (long valueName : String) (short : Option Char := none) : Shape :=
  ⟨long, short, valueName, .single⟩

/-- An option with a value, any number of times. -/
def repeated (long valueName : String) (form : Form := .repeated) : Shape :=
  ⟨long, none, valueName, form⟩

/-- An option as it is described. -/
def text (s : Shape) : String :=
  if s.form = .flag then "--" ++ s.long else "--" ++ s.long ++ " <" ++ s.valueName ++ ">"

/-- Whether an option may be given several times. -/
def isRepeatable (s : Shape) : Bool := s.form = .repeated || s.form = .repeatedVerbatim

end Shape

/-- Settings that can be given by options. -/
class Options (S : Type) [Keyed S] where
  /-- All keys that have an option. -/
  keys : List (Keyed.Key S)
  shape : Keyed.Key S → Shape
  /-- The value of a key after the value of an option has been taken in. -/
  accept : (k : Keyed.Key S) → Keyed.Value k → String → Except ValueFault (Keyed.Value k)
  sameKey : DecidableEq (Keyed.Key S)

/-- Two records of settings are one. -/
instance {A B : Type} [Keyed A] [Keyed B] : Keyed (A × B) where
  Key := Keyed.Key A ⊕ Keyed.Key B
  Value := Sum.elim Keyed.Value Keyed.Value
  get s
    | .inl k => Keyed.get s.1 k
    | .inr k => Keyed.get s.2 k
  set s
    | .inl k, v => (Keyed.set s.1 k v, s.2)
    | .inr k, v => (s.1, Keyed.set s.2 k v)

instance {A B : Type} [Keyed A] [Keyed B] [Options A] [Options B] : Options (A × B) where
  keys := (Options.keys (S := A)).map Sum.inl ++ (Options.keys (S := B)).map Sum.inr
  shape := Sum.elim Options.shape Options.shape
  accept
    | .inl k, v, s => Options.accept k v s
    | .inr k, v, s => Options.accept k v s
  sameKey :=
    have := Options.sameKey (S := A)
    have := Options.sameKey (S := B)
    instDecidableEqSum

end GatewayProbe.CommandLine
