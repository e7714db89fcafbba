import GatewayProbe.FileTree
import GatewayProbe.Gateway.Conversation
import GatewayProbe.Random.Stream
import GatewayProbe.Server.Bracket
import GatewayProbe.Server.Process

/-!
# The surroundings of the program

The program talks to a gateway, reads and writes files, runs a server and prints lines. What
it draws without a seed comes from the system.
A server is started by whoever can start commands; while it runs, time passes for it as
for the conversation with the gateway.
-/

namespace GatewayProbe

open GatewayProbe.Gateway
open GatewayProbe.Server

/-- Who can start commands: a process that runs from a moment on, or an error of the system. -/
abbrev Launcher : Type := String → List String → Nat → Except SystemError Process

/-- The surroundings of the program, with a gateway whose state is in `σ`. -/
structure World (σ : Type) where
  conversation : Conversation σ
  files : FileTree := .empty
  /-- The server that runs. -/
  server : Option Process := none
  /-- The signal by which a server asks the program to shut down, and when it comes. -/
  summons : Option (Nat × Nat) := none
  /-- The lines printed, the latest first. -/
  output : List String := []
  /-- The time of day, as reports give it. -/
  timeOfDay : String := ""
  /-- The streams that the system gives to users without a seed. -/
  entropy : Nat → Random.Stream := Random.Stream.numbered

namespace World

variable {σ α : Type}

/-- Tell something. -/
def tell (w : World σ) (m : Message) : World σ := { w with conversation := w.conversation.tell m }

/-- Print lines. -/
def print (w : World σ) (lines : List String) : World σ :=
  { w with output := lines.reverse ++ w.output }

/-- Do a part of the work that is a conversation only. -/
def converse (work : Conversation σ → Except Failure α × Conversation σ) (w : World σ) :
    Except Failure α × World σ :=
  let (result, conversation) := work w.conversation
  (result, { w with conversation })

/-- Have a server running, which may ask the program to shut down. -/
def withProcess (w : World σ) (process : Process) : World σ :=
  let summons := process.alone.summons?
  { w with
    server := some process
    summons
    conversation := w.conversation.expect (summons.map (·.1)) }

/-- Start the server. -/
def startServer (launch : Launcher) (spec : Spec) (w : World σ) :
    Except Server.Fault Unit × World σ :=
  match launch spec.command spec.arguments w.conversation.now with
  | .error cause => (.error (.spawn spec.command cause), w)
  | .ok process =>
    (.ok (), (w.withProcess process).tell
      (information ("Started server '" ++ spec.command ++ "'")))

/-- Wait until the server is ready. -/
def awaitServer (spec : Spec) (w : World σ) : Except Server.Fault Unit × World σ :=
  match w.server with
  | none => (.ok (), w)
  | some process =>
    let (result, now) :=
      process.alone.awaitReady spec.pattern spec.readyTimeout w.conversation.now
    (result, { w with conversation := { w.conversation with now } })

/-- Files with what a process has written into them. -/
def withNotes (files : FileTree) (notes : List Note) : FileTree :=
  notes.foldl (fun files n => (files.write n.path n.content).toOption.getD files) files

/-- What a server has said by a moment. -/
def saidBy (course : Course) (now : Nat) : List Message :=
  (course.readLines.filter fun l => l.moment ≤ now).map fun l => detail l.text

/-- Stop the server. -/
def stopServer (spec : Spec) (w : World σ) : Except Server.Fault Unit × World σ :=
  match w.server with
  | none => (.ok (), w)
  | some process =>
    let ending := process.stop spec.stopGrace w.conversation.now
    let said := saidBy ending.course ending.moment
    (.ok (), { w with
      server := none
      files := withNotes w.files (ending.course.notesBy ending.moment)
      conversation :=
        { w.conversation with
          now := ending.moment
          log := ending.log.reverse ++ said.reverse ++ w.conversation.log } })

/-- How the server is handled. -/
def handling (launch : Launcher) : Handling (World σ) where
  start := startServer launch
  awaitReady := awaitServer
  stop := stopServer
  tell m w := w.tell m

end World

end GatewayProbe
