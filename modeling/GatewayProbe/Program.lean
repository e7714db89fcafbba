import GatewayProbe.Check.Command
import GatewayProbe.CommandLine.Invocation
import GatewayProbe.Load.Command
import GatewayProbe.Log.Filter

/-!
# The program

The words of the command line are read first, then the settings file, and then the command
is carried out. A signal asks it to shut down. The program ends in one of three ways: it
has described itself, the command line was refused, or the command was carried out, with
success or not.
-/

namespace GatewayProbe.Program

open GatewayProbe.CommandLine
open GatewayProbe.Gateway

/-- A signal that asks the program to shut down. -/
inductive Signal where
  | interrupt
  | terminate
  deriving DecidableEq, Repr

/-- What is told about a signal. -/
def Signal.message : Signal → Message
  | .interrupt => information "Interrupt received, letting in-flight iterations finish"
  | .terminate => information "SIGTERM received, letting in-flight iterations finish"

/-- The signal with a number. -/
def Signal.ofNumber (number : Nat) : Signal :=
  if number = Server.interruptSignal then .interrupt else .terminate

/-- What the program meets with while it runs. -/
structure Circumstances (σ : Type) where
  web : Web σ
  launch : Launcher
  /-- The signal that comes, and when. -/
  signal : Option (Nat × Signal) := none

/-- How the program has ended. -/
inductive Result (σ : Type) where
  /-- It has described itself. -/
  | described
  /-- The command line was refused, or asked for something else than a command. -/
  | refused (fault : CommandLine.Fault)
  /-- The command of an invocation has been carried out. -/
  | finished (invocation : Invocation) (outcome : Except Failure Unit) (world : World σ)

variable {σ : Type}

/-- Carry out a command. -/
def carryOut (c : Circumstances σ) (command : CommandLine.Command) (w : World σ) :
    Except Failure Unit × World σ :=
  match command with
  | .load settings _ => Load.command c.web c.launch settings w
  | .check settings _ => Check.command c.web c.launch settings w

/-- The first of the signals that come, from outside or from the server. -/
def firstSignal (signal : Option (Nat × Signal)) (w : World σ) : Option (Nat × Signal) :=
  signal.merge (fun a b => if a.1 ≤ b.1 then a else b)
    (w.summons.map fun s => (s.1, .ofNumber s.2))

/-- Tell about a signal that has come. -/
def announced (signal : Option (Nat × Signal)) (w : World σ) : World σ :=
  match firstSignal signal w with
  | some (moment, signal) => if moment ≤ w.conversation.now then w.tell signal.message else w
  | none => w

/-- Carry out a command with a signal on its way. -/
def carryOutUntil (c : Circumstances σ) (command : CommandLine.Command) (w : World σ) :
    Except Failure Unit × World σ :=
  let conversation := { w.conversation with shutdown := c.signal.map (·.1) }
  let (outcome, w) := carryOut c command { w with conversation }
  (outcome, announced c.signal w)

/-- What is told about the settings file that nobody has named. -/
def usualFile? (i : Invocation) (files : FileTree) : Option Message :=
  if i.globals.config.isSome then none
  else (Settings.usualPath? files).map fun path => detail ("Using config file " ++ path)

/-- Carry out an invocation with its settings file. -/
def invoke (c : Circumstances σ) (i : Invocation) (w : World σ) : Result σ :=
  let w := (usualFile? i w.files).elim w w.tell
  match i.configured w.files with
  | .error fault => .finished i (.error (.settings fault)) w
  | .ok i =>
    let (outcome, w) := carryOutUntil c i.command w
    .finished i outcome w

/-- Run the program on the words of a command line; the base address of the gateway may be set in
the surroundings. -/
def run (c : Circumstances σ) (url : Option String) (words : List String) (w : World σ) :
    Result σ :=
  if isBare words then .described
  else
    match read url words with
    | .error fault => .refused fault
    | .ok i => invoke c i w

namespace Result

/-- Whether the program describes itself on its output. -/
def isDescription : Result σ → Bool
  | .described | .refused .help => true
  | _ => false

/-- The exit code. -/
def exitCode : Result σ → Nat
  | .described | .refused .help | .refused .version => 0
  | .refused _ => 2
  | .finished _ (.ok _) _ => 0
  | .finished _ (.error _) _ => 1

/-- The lines that are printed, besides a description. -/
def lines : Result σ → List String
  | .refused .version => [Text.trimmed versionText]
  | .finished _ _ w => w.output.reverse
  | _ => []

/-- The messages that a filter lets through. -/
def messages (f : Log.Filter) : Result σ → List Message
  | .finished _ _ w => w.conversation.log.reverse.filter fun m => f.shows m.level
  | _ => []

/-- The messages that are shown where filters may be set for the program or for all programs. -/
def shown (own common : Option String) (r : Result σ) : List Message :=
  match r with
  | .finished i _ _ => r.messages (.chosen own common i.globals.verbose)
  | _ => []

/-- Whether messages that are shown are coloured. -/
def isColoured : Result σ → Bool
  | .finished i _ _ => !i.globals.noColor
  | _ => false

/-- What the program complains about at its end. -/
def complaint? : Result σ → Option String
  | .finished _ (.error failure) _ => some failure.message
  | .refused .help | .refused .version => none
  | .refused _ => some "The command line was not understood. Try '--help'."
  | _ => none

/-- The files afterwards. -/
def files (before : FileTree) : Result σ → FileTree
  | .finished _ _ w => w.files
  | _ => before

end Result

end GatewayProbe.Program
