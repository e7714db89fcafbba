import GatewayProbe.Log
import GatewayProbe.Text.Ascii
import GatewayProbe.Text.Blank

/-!
# Which messages are shown

A filter is a list of directives, each of which states the least important level that is
shown, for all messages or for those of one part of the program. Of the directives for this
program the one with the longest name decides. Without any directive only errors are shown.
-/

namespace GatewayProbe.Log

/-- A directive: down to which level messages of a part are shown; no level hides them all. -/
structure Directive where
  part : Option String
  level : Option Level
  deriving DecidableEq, Repr

/-- A filter of messages. -/
structure Filter where
  directives : List Directive
  deriving DecidableEq, Repr

/-- The name under which the program tells what it does. -/
def programName : String := "gateprobe"

/-- The levels by their names. -/
def levelNames : List (String × Option Level) :=
  [("off", none), ("0", none), ("error", some .error), ("1", some .error), ("warn", some .warn),
    ("2", some .warn), ("info", some .info), ("3", some .info), ("debug", some .debug),
    ("4", some .debug), ("trace", some .trace), ("5", some .trace)]

/-- The level with a name in any case. -/
def level? (name : String) : Option (Option Level) :=
  (levelNames.find? fun p => p.1 = Text.lowered name).map (·.2)

/-- Whether a directive may begin with a character. -/
def isOpening (c : Char) : Bool := c.isAlphanum || c = '-' || c = ':' || c = '_'

/-- The directive that a text is. -/
def Directive.parse? (s : String) : Option Directive :=
  match Text.trim s.toList with
  | [] => none
  | c :: rest =>
    if !isOpening c then none
    else
      match Text.splitFirst '=' (c :: rest) with
      | none =>
        let name := String.ofList (c :: rest)
        match level? name with
        | some level => some ⟨none, level⟩
        | none => some ⟨some name, some .trace⟩
      | some (part, []) => some ⟨some (String.ofList part), some .trace⟩
      | some (part, level) =>
        (level? (String.ofList level)).map fun level => ⟨some (String.ofList part), level⟩

/-- The filter that a text is, with its directives between commas. -/
def Filter.parse? (s : String) : Option Filter := do
  let parts := (Text.splitWhere (· = ',') s.toList).filter fun p => !p.isEmpty
  let directives ← parts.mapM fun p => Directive.parse? (String.ofList p)
  return ⟨if directives.isEmpty then [⟨none, some .error⟩] else directives⟩

/-- The filter down to a level. -/
def Filter.downTo (level : Level) : Filter := ⟨[⟨none, some level⟩]⟩

/-- How closely a directive fits this program, if it is meant for it. -/
def Directive.fit? (d : Directive) : Option Nat :=
  match d.part with
  | none => some 0
  | some part => if programName.startsWith part then some (part.length + 1) else none

/-- The later one of two directives that fit equally well, or else the one that fits better. -/
def closer (a b : Nat × Directive) : Nat × Directive := if a.1 ≤ b.1 then b else a

/-- The directive that decides about this program. -/
def Filter.deciding? (f : Filter) : Option Directive :=
  match f.directives.filterMap fun d => d.fit?.map fun n => (n, d) with
  | [] => none
  | d :: rest => some (rest.foldl closer d).2

/-- Whether a filter shows messages of a level. -/
def Filter.shows (f : Filter) (level : Level) : Bool :=
  (f.deciding?.bind (·.level)).any fun least => level.detail ≤ least.detail

/-- The filter that the surroundings ask for: by a setting for the program, by one for all
programs, or else by whether the program is to be talkative. -/
def Filter.chosen (own common : Option String) (isVerbose : Bool) : Filter :=
  match own.or common with
  | some text => (Filter.parse? text).getD (.downTo .info)
  | none => .downTo (if isVerbose then .debug else .info)

/-- What is said when messages are already taken care of by someone else. -/
def takenText : String :=
  "Failed to set global default subscriber: "
    ++ "a global default trace dispatcher has already been set\n"

end GatewayProbe.Log
