import GatewayProbe.CommandLine.Option
import GatewayProbe.Text.Blank

/-!
# Reading the words of a command line

A command line is read in levels: the program itself, and the command that one of its
words names. The words of a level are options and their values. A value may follow its
option in the same word, or be the next word; in the second case it waits until the
next option or the end of the level, and only then is it looked at. What is wrong with
a word that is no option is found at once, before the value that waits.
-/

namespace GatewayProbe.CommandLine

open GatewayProbe.Settings

/-- What is wrong with a command line, or what it asks for instead of a run. -/
inductive Fault where
  /-- The text that describes the program. -/
  | help
  /-- The same, because the command line is empty. -/
  | helpForEmpty
  | version
  | missingCommand
  | unknownCommand
  | unknownWord (word : String)
  | missingValue (option : String)
  | needlessValue (option value : String)
  | repeatedOption (option : String)
  | refusedValue (option value : String) (fault : ValueFault)
  deriving DecidableEq, Repr

/-- A level while it is read. -/
structure Reading (S : Type) [Keyed S] where
  settings : S
  /-- The keys that have been given, the latest first. -/
  given : List (Keyed.Key S) := []
  /-- The option that waits to be looked at, with its value if that has been read. -/
  pending : Option (Keyed.Key S × Option String) := none

/-- Where the words of a level end. -/
inductive Ending where
  | words
  | command (name : String) (rest : List String)
  deriving DecidableEq, Repr

/-- What kind of level is read. -/
structure Grammar where
  /-- The commands that a word may name. -/
  commands : List String := []
  /-- Whether the version may be asked for. -/
  hasVersion : Bool := false
  deriving DecidableEq, Repr

/-- The word that asks for the description of a command. -/
def helpCommand : String := "help"

/-- Whether a word names a command. -/
def Grammar.names (g : Grammar) (word : String) : Bool :=
  !g.commands.isEmpty && (word = helpCommand || g.commands.contains word)

/-- What an option of a level is. -/
inductive Meaning (S : Type) [Keyed S] where
  | help
  | version
  | key (k : Keyed.Key S)

namespace Reading

variable {S : Type} [Keyed S] [Options S]

/-- Whether a key has been given. -/
def has (r : Reading S) (k : Keyed.Key S) : Bool :=
  have := Options.sameKey (S := S)
  r.given.contains k

/-- Take an option with its value, which is empty for a flag. -/
def take (r : Reading S) (k : Keyed.Key S) (value : String) : Except Fault (Reading S) :=
  let shape := Options.shape k
  if !shape.isRepeatable && r.has k then .error (.repeatedOption shape.text)
  else
    match Options.accept k (Keyed.get r.settings k) value with
    | .error .empty => .error (.missingValue shape.text)
    | .error fault => .error (.refusedValue shape.text value fault)
    | .ok v => .ok { r with settings := Keyed.set r.settings k v, given := k :: r.given }

/-- Look at the option that waits. -/
def resolve (r : Reading S) : Except Fault (Reading S) :=
  match r.pending with
  | none => .ok r
  | some (k, none) => .error (.missingValue (Options.shape k).text)
  | some (k, some value) => { r with pending := none }.take k value

/-- Whether the next word is a value of the option that waits, and may look like an option. -/
def waits (r : Reading S) : Bool × Bool :=
  match r.pending with
  | some (k, none) => (true, (Options.shape k).form = .repeatedVerbatim)
  | _ => (false, false)

/-- Take a word as the value of the option that waits. -/
def fill (r : Reading S) (word : String) : Reading S :=
  { r with pending := r.pending.map fun p => (p.1, some word) }

/-- Do what an option without a value asks for. -/
def flag (r : Reading S) : Meaning S → Except Fault (Reading S)
  | .help => r.resolve.bind fun _ => .error .help
  | .version => r.resolve.bind fun _ => .error .version
  | .key k => r.resolve.bind fun r => r.take k ""

/-- Take an option that takes a value: the rest of its word, or else the next word. -/
def begin (r : Reading S) (k : Keyed.Key S) : Option String → Except Fault (Reading S)
  | some value => r.resolve.bind fun r => r.take k value
  | none => r.resolve.map fun r => { r with pending := some (k, none) }

end Reading

section

variable {S : Type} [Keyed S] [Options S]

/-- The option with a long name. -/
def longMeaning? (g : Grammar) (name : String) : Option (Meaning S) :=
  if name = "help" then some .help
  else if name = "version" ∧ g.hasVersion then some .version
  else ((Options.keys (S := S)).find? fun k => (Options.shape k).long = name).map .key

/-- The option with a short name. -/
def shortMeaning? (g : Grammar) (c : Char) : Option (Meaning S) :=
  if c = 'h' then some .help
  else if c = 'V' ∧ g.hasVersion then some .version
  else ((Options.keys (S := S)).find? fun k => (Options.shape k).short = some c).map .key

/-- The description of an option. -/
def Meaning.text : Meaning S → String
  | .help => "--help"
  | .version => "--version"
  | .key k => (Options.shape k).text

/-- Whether an option takes a value. -/
def Meaning.takesValue : Meaning S → Bool
  | .key k => (Options.shape k).form ≠ .flag
  | _ => false

/-- The name and the value in a word after its two dashes. -/
def nameAndValue (word : List Char) : String × Option String :=
  match Text.splitFirst '=' word with
  | none => (String.ofList word, none)
  | some (name, value) => (String.ofList name, some (String.ofList value))

/-- Read a word that begins with two dashes. -/
def readLong (g : Grammar) (r : Reading S) (word : List Char) : Except Fault (Reading S) :=
  let (name, value) := nameAndValue word
  match longMeaning? (S := S) g name with
  | none => .error (.unknownWord ("--" ++ name))
  | some m =>
    match m, value with
    | .key k, _ =>
      if m.takesValue then r.begin k value
      else value.elim (r.flag m) fun v => .error (.needlessValue m.text v)
    | _, some v => .error (.needlessValue m.text v)
    | _, none => r.flag m

/-- The value that follows a short option in its word. -/
def attached : List Char → Option String
  | [] => none
  | '=' :: value => some (String.ofList value)
  | value => some (String.ofList value)

/-- Read the short options of a word. -/
def readShorts (g : Grammar) (r : Reading S) : List Char → Except Fault (Reading S)
  | [] => .ok r
  | c :: rest =>
    match shortMeaning? (S := S) g c with
    | none => .error (.unknownWord (String.ofList ['-', c]))
    | some (.key k) =>
      if (Meaning.key k).takesValue then r.begin k (attached rest)
      else (r.flag (.key k)).bind fun r => readShorts g r rest
    | some m => (r.flag m).bind fun r => readShorts g r rest

/-- What is wrong with a word that is no option, no value and no command in its place. -/
def unexpected (g : Grammar) (afterDashes : Bool) (word : String) : Fault :=
  if g.commands.isEmpty || (afterDashes && g.names word) then .unknownWord word
  else .unknownCommand

/-- The answer to a request for the description of a command. -/
def helpFor (g : Grammar) : List String → Fault
  | [] => .help
  | [word] => if g.names word then .help else .unknownCommand
  | _ => .unknownCommand

/-- Read the words of a level up to its end. -/
def readWords (g : Grammar) (r : Reading S) :
    List String → Except Fault (Reading S × Ending)
  | [] => .ok (r, .words)
  | word :: rest =>
    let (isWaiting, isVerbatim) := r.waits
    if isVerbatim then readWords g (r.fill word) rest
    else if !isWaiting && g.names word then
      if word = helpCommand then .error (helpFor g rest) else .ok (r, .command word rest)
    else
      match word.toList with
      | ['-', '-'] =>
        match rest with
        | [] => .ok (r, .words)
        | next :: _ => .error (unexpected g true next)
      | '-' :: '-' :: name => (readLong g r name).bind fun r => readWords g r rest
      | '-' :: c :: name => (readShorts g r (c :: name)).bind fun r => readWords g r rest
      | _ =>
        if isWaiting then readWords g (r.fill word) rest else .error (unexpected g false word)

end

end GatewayProbe.CommandLine
