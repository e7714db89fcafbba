import GatewayProbe.Log
import GatewayProbe.Server.Fault
import GatewayProbe.Server.Output

/-!
# Server processes

A server process writes to its streams and to files, and may end by itself. It takes one
course when it is left alone and another one when it is asked to terminate. It is ready
when one of its lines holds a pattern. To stop it, it is asked to terminate; if it has not
ended within a time of grace, it is killed.
-/

namespace GatewayProbe.Server

/-- How a process has ended. -/
inductive ExitStatus where
  | code (n : Nat)
  | signal (n : Nat)
  deriving DecidableEq, Repr, Inhabited

/-- The signal that asks a process to terminate. -/
def terminateSignal : Nat := 15

/-- The signal of an interruption, which asks for the same. -/
def interruptSignal : Nat := 2

/-- The signal that kills a process. -/
def killSignal : Nat := 9

/-- The signal for one who writes to a stream that nobody reads. -/
def pipeSignal : Nat := 13

/-- Something written into a file. -/
structure Note where
  moment : Nat
  path : String
  content : List UInt8
  deriving DecidableEq, Repr

/-- The course of a process, with all moments counted from the start of the clock. -/
structure Course where
  stdout : Outflow := {}
  stderr : Outflow := {}
  /-- What it writes into files, in order. -/
  notes : List Note := []
  /-- The signals it sends to whoever has started it, with their moments, in order. -/
  signals : List (Nat × Nat) := []
  /-- When and how it ends, if it does. -/
  ends : Option (Nat × ExitStatus) := none
  deriving DecidableEq, Repr, Inhabited

/-- A process: the course it takes when it is left alone, and the one it takes when it is asked to
terminate at a moment. -/
structure Process where
  alone : Course
  asked : Nat → Course

/-- How a process has been stopped. -/
inductive Stopped where
  | gracefully (status : ExitStatus)
  | killed (status : ExitStatus)
  | alreadyExited (status : ExitStatus)
  deriving DecidableEq, Repr

namespace Course

/-- The lines that the readers of both streams take. -/
def readLines (c : Course) : List Line := c.stdout.readLines ++ c.stderr.readLines

/-- The moments at which lines that hold a pattern are there. -/
def sightings (c : Course) (pattern : String) : List Nat :=
  (c.readLines.filter (·.shows pattern)).map (·.moment)

/-- When the readers of both streams have ended, if they do. -/
def silence? (c : Course) : Option Nat := do
  return max (← c.stdout.readerEnd?) (← c.stderr.readerEnd?)

/-- Wait for a line that holds a pattern. The result comes with the moment at which it is there. -/
def awaitReady (c : Course) (pattern : String) (timeout : Duration) (now : Nat) :
    Except Fault Unit × Nat :=
  let deadline := Clock.after now timeout
  match (c.sightings pattern).min? with
  | some moment =>
    if moment ≤ deadline then (.ok (), max now moment)
    else (.error (.startupTimeout pattern timeout), Clock.wake deadline)
  | none =>
    match c.silence? with
    | some moment =>
      if moment ≤ deadline then (.error (.exitedBeforeReady pattern), max now moment)
      else (.error (.startupTimeout pattern timeout), Clock.wake deadline)
    | none => (.error (.startupTimeout pattern timeout), Clock.wake deadline)

/-- How the process has ended, if it has at a moment. -/
def status? (c : Course) (now : Nat) : Option ExitStatus :=
  c.ends.bind fun e => if e.1 ≤ now then some e.2 else none

/-- When a process is ended because it writes to a stream whose reader has ended. -/
def brokenAt? (c : Course) : Option Nat :=
  match c.stdout.brokenAt?, c.stderr.brokenAt? with
  | some a, some b => some (min a b)
  | a, b => a.or b

/-- The course as it goes while the streams are read: writing to one whose reader has ended is the
end of the process. -/
def whileRead (c : Course) : Course :=
  match c.brokenAt? with
  | none => c
  | some moment =>
    { stdout := c.stdout.cutAt moment
      stderr := c.stderr.cutAt moment
      notes := c.notes.filter fun n => n.moment < moment
      signals := c.signals.filter fun s => s.1 < moment
      ends := some (moment, .signal pipeSignal) }

/-- The part of the notes that is written by a moment. -/
def notesBy (c : Course) (now : Nat) : List Note := c.notes.filter fun n => n.moment ≤ now

/-- The first signal by which the process asks whoever has started it to shut down. -/
def summons? (c : Course) : Option (Nat × Nat) :=
  c.signals.find? fun s => s.2 = terminateSignal || s.2 = interruptSignal

end Course

/-- What comes of a process that is stopped. -/
structure Ending where
  stopped : Stopped
  /-- When it has ended. -/
  moment : Nat
  /-- The course it has taken up to then. -/
  course : Course
  log : List Message

namespace Process

/-- The warning that a process has to be killed. -/
def killing (grace : Duration) : Message :=
  warning ("Server ignored SIGTERM for " ++ grace.text ++ "; killing it")

/-- Stop a process. -/
def stop (p : Process) (grace : Duration) (now : Nat) : Ending :=
  match p.alone.status? now with
  | some status =>
    ⟨.alreadyExited status, now, p.alone, [information "Server had already exited"]⟩
  | none =>
    let deadline := Clock.after now grace
    let course := p.asked now
    match course.ends with
    | some (moment, status) =>
      if moment ≤ deadline then
        ⟨.gracefully status, max now moment, course, [information "Server stopped"]⟩
      else killed course deadline
    | none => killed course deadline
where
  /-- The ending of a process that has to be killed. -/
  killed (course : Course) (deadline : Nat) : Ending :=
    ⟨.killed (.signal killSignal), Clock.wake deadline, course, [killing grace]⟩

end Process

end GatewayProbe.Server
