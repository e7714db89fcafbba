import GatewayProbe.Decimal.Reading
import GatewayProbe.Server.Process
import GatewayProbe.Server.Shell.Statement
import GatewayProbe.Text.Integer

/-!
# What a shell does with a script

A shell carries out one statement after the other. Only sleeping takes time. A request
to terminate ends the shell, unless the script has it ignored or answered by statements of
its own; those are carried out when the command that is under way is over. What is written
is kept with its moment.
-/

namespace GatewayProbe.Server.Shell

/-- Where a stream of a command leads to. -/
inductive Sink where
  | stdout
  | stderr
  | file (path : String)
  | nowhere
  deriving DecidableEq, Repr, Inhabited

/-- How a shell answers to being asked to terminate. -/
inductive Answer where
  | dies
  | ignores
  | carriesOut (body : List Statement)
  deriving Inhabited

/-- A shell at work. -/
structure State where
  now : Nat
  /-- When it is asked to terminate, if that has not been answered. -/
  request : Option Nat
  answer : Answer := .dies
  /-- The status of the last command. -/
  status : Nat := 0
  /-- Where the two streams of a command lead to. -/
  out : Sink := .stdout
  err : Sink := .stderr
  /-- The pieces written to the streams, the latest first. -/
  stdout : List (Nat × List UInt8) := []
  stderr : List (Nat × List UInt8) := []
  /-- What was written into files, the latest first. -/
  notes : List Note := []
  /-- The signals sent to whoever has started the shell, the latest first. -/
  signals : List (Nat × Nat) := []
  /-- The values of variables, the latest first. -/
  settings : List (String × String) := []
  /-- How long processes beside this one hold the streams. -/
  held : Nat := 0
  /-- When the streams were given up, if they were. -/
  stdoutLeft : Option Nat := none
  stderrLeft : Option Nat := none
  /-- When and how it has ended. -/
  ended : Option (Nat × ExitStatus) := none
  /-- Whether it goes on beyond all that is looked at. -/
  isEndless : Bool := false
  deriving Inhabited

namespace State

/-- Whether nothing more is carried out. -/
def isOver (s : State) : Bool := s.ended.isSome || s.isEndless

/-- End in some way. -/
def finish (s : State) (status : ExitStatus) : State := { s with ended := some (s.now, status) }

/-- Be done with a command. -/
def done (s : State) (status : Nat) : State := { s with status }

/-- The value of a variable. What stands for a process is its sign in the script. -/
def value (s : State) (name : String) : String :=
  if name = "?" then toString s.status else ((s.settings.find? fun v => v.1 = name).map (·.2)).getD
    (if name = "$" then "$" else if name = "PPID" then "$PPID" else "")

/-- Set a variable. -/
def setVariable (s : State) (name value : String) : State :=
  { s with settings := (name, value) :: s.settings }

/-- The text of a word. -/
def expand (s : State) (w : Word) : String :=
  String.ofList (w.pieces.flatMap fun p =>
    match p with
    | .text t => t
    | .variable name => (s.value name).toList)

/-- What has been written into a file. -/
def contentOf (s : State) (path : String) : List UInt8 :=
  ((s.notes.find? fun n => n.path = path).map (·.content)).getD []

/-- Write into a file. -/
def putNote (s : State) (path : String) (content : List UInt8) : State :=
  { s with notes := ⟨s.now, path, content⟩ :: s.notes }

/-- Write to a sink. -/
def write (s : State) (sink : Sink) (bytes : List UInt8) : State :=
  if bytes.isEmpty then s
  else
    match sink with
    | .stdout => { s with stdout := (s.now, bytes) :: s.stdout }
    | .stderr => { s with stderr := (s.now, bytes) :: s.stderr }
    | .file path => s.putNote path (s.contentOf path ++ bytes)
    | .nowhere => s

/-- Turn a stream. -/
def turn (s : State) (r : Redirection) : State :=
  let target := s.expand r.target
  let (sink, s) : Sink × State :=
    match r.turning with
    | .stream =>
      (if target = "1" then s.out else if target = "2" then s.err else .nowhere, s)
    | .file => if target = "/dev/null" then (.nowhere, s) else (.file target, s.putNote target [])
    | .append =>
      if target = "/dev/null" then (.nowhere, s)
      else (.file target, s.putNote target (s.contentOf target))
    | .input => (.nowhere, s)
  if r.turning = .input then s
  else if r.stream = 1 then { s with out := sink }
  else if r.stream = 2 then { s with err := sink }
  else s

/-- Note which streams no sink leads to any more. -/
def leave (s : State) : State :=
  let isLeft (sink : Sink) : Bool := s.out ≠ sink && s.err ≠ sink
  { s with
    stdoutLeft := if isLeft .stdout then s.stdoutLeft.or (some s.now) else none
    stderrLeft := if isLeft .stderr then s.stderrLeft.or (some s.now) else none }

/-- Let time pass. A request to terminate may end the shell meanwhile. -/
def pass (s : State) (moment : Nat) : State :=
  match s.request, s.answer with
  | some asked, .dies =>
    if asked ≤ moment then { s with now := max s.now asked }.finish (.signal terminateSignal)
    else { s with now := moment }
  | _, _ => { s with now := moment }

/-- The request that waits to be answered, as statements. -/
def request? (s : State) : Option (List Statement) :=
  match s.request, s.answer with
  | some asked, .carriesOut body => if asked ≤ s.now then some body else none
  | _, _ => none

/-- The file that a stream leads to when the command is over. -/
def restored (s before : State) : State := { s with out := before.out, err := before.err }

end State

/-- The bytes that a text with escapes stands for. -/
def unescape : Nat → List Char → List UInt8
  | 0, _ => []
  | _ + 1, [] => []
  | n + 1, c :: rest =>
    if c ≠ '\\' then Text.encode [c] ++ unescape n rest
    else
      match rest with
      | 'n' :: rest => 0x0A :: unescape n rest
      | 'r' :: rest => 0x0D :: unescape n rest
      | 't' :: rest => 0x09 :: unescape n rest
      | '\\' :: rest => 0x5C :: unescape n rest
      | d :: more =>
        let digits := (rest.takeWhile fun c => '0' ≤ c && c ≤ '7').take 3
        if digits.isEmpty then 0x5C :: Text.encode [d] ++ unescape n more
        else
          let value := digits.foldl (fun v c => v * 8 + (c.toNat - '0'.toNat)) 0
          UInt8.ofNat value :: unescape n (rest.drop digits.length)
      | [] => [0x5C]

/-- The bytes of a text with escapes. -/
def bytesOf (s : String) : List UInt8 := unescape (s.length + 1) s.toList

/-- The bytes that a format makes of arguments. -/
def format : Nat → List Char → List String → List UInt8
  | 0, _, _ => []
  | _ + 1, [], _ => []
  | n + 1, '%' :: '%' :: rest, args => 0x25 :: format n rest args
  | n + 1, '%' :: 's' :: rest, args => Text.bytesOf (args.headD "") ++ format n rest (args.drop 1)
  | n + 1, '%' :: 'd' :: rest, args => Text.bytesOf (args.headD "0") ++ format n rest (args.drop 1)
  | n + 1, '%' :: 'b' :: rest, args => bytesOf (args.headD "") ++ format n rest (args.drop 1)
  | n + 1, c :: rest, args =>
    let plain := c :: rest.takeWhile (· ≠ '%')
    unescape (plain.length + 1) plain ++ format n (rest.dropWhile (· ≠ '%')) args

/-- The nanoseconds that a length of sleep stands for. -/
def sleepLength? (s : String) : Option Nat :=
  if s = "infinity" then some (10 ^ 18)
  else
    let (number, unit) : List Char × Float :=
      match s.toList.getLast? with
      | some 's' => (s.toList.dropLast, 1.0)
      | some 'm' => (s.toList.dropLast, 60.0)
      | some 'h' => (s.toList.dropLast, 3600.0)
      | _ => (s.toList, 1.0)
    (Decimal.parse number).map fun x => (x * unit * 1e9).round.toUInt64.toNat

/-- The number of a signal with a name. -/
def signalNumber? (name : String) : Option Nat :=
  let names := [("HUP", 1), ("INT", 2), ("QUIT", 3), ("ABRT", 6), ("KILL", 9), ("USR1", 10),
    ("SEGV", 11), ("USR2", 12), ("PIPE", 13), ("ALRM", 14), ("TERM", 15)]
  let bare := if name.startsWith "SIG" then String.ofList (name.toList.drop 3) else name
  ((names.find? fun p => p.1 = bare || toString p.2 = name)).map (·.2)

/-- Send the shell a signal of its own. -/
def State.signalled (s : State) (signal : Nat) : State :=
  if signal = terminateSignal then
    match s.answer with
    | .dies => s.finish (.signal terminateSignal)
    | .ignores => s
    | .carriesOut _ => { s with request := some s.now }
  else s.finish (.signal signal)

/-- Send a signal to whoever has started the shell. -/
def State.signalStarter (s : State) (signal : Nat) : State :=
  { s with signals := (s.now, signal) :: s.signals }

/-- The signal to be sent and the process it is for. -/
def killed? : List String → Option (Option Nat × String)
  | ["-s", name, target] => some (signalNumber? name, target)
  | [flag, target] => some (signalNumber? (String.ofList (flag.toList.drop 1)), target)
  | [target] => some (some terminateSignal, target)
  | _ => none

/-- Have requests answered in a new way. -/
def State.trap (s : State) (action : String) (signals : List String) : State :=
  if signals.any fun name => signalNumber? name = some terminateSignal then
    let answer : Answer :=
      if action = "-" then .dies
      else if action.isEmpty then .ignores
      else .carriesOut (statements action.toList)
    { s with answer }
  else s

/-- The lines of the numbers from one to another. -/
def countingLines (first last : Nat) : List UInt8 :=
  (List.range (last + 1 - first)).flatMap fun i => Text.bytesOf (toString (first + i) ++ "\n")

/-- A command that there is not. -/
def State.notFound (s : State) (name : String) : State :=
  (s.write s.err (Text.bytesOf ("sh: 1: " ++ name ++ ": not found\n"))).done 127

/-- A command that is no part of the shell's own grammar. -/
def State.execute (s : State) (name : String) (args : List String) : State :=
  match name, args with
  | ":", _ | "true", _ => s.done 0
  | "false", _ => s.done 1
  | "echo", "-n" :: args => (s.write s.out (bytesOf (" ".intercalate args))).done 0
  | "echo", args => (s.write s.out (bytesOf (" ".intercalate args) ++ [0x0A])).done 0
  | "printf", pattern :: args =>
    (s.write s.out (format (pattern.length + 1) pattern.toList args)).done 0
  | "sleep", length :: _ =>
    match sleepLength? length with
    | some d => (s.pass (s.now + d)).done 0
    | none => s.done 1
  | "seq", [last] => (s.write s.out (countingLines 1 (last.toNat?.getD 0))).done 0
  | "seq", [first, last] =>
    (s.write s.out (countingLines (first.toNat?.getD 0) (last.toNat?.getD 0))).done 0
  | "touch", paths => (paths.foldl (fun s p => s.putNote p (s.contentOf p)) s).done 0
  | "exit", [] => s.finish (.code s.status)
  | "exit", n :: _ => s.finish (.code (n.toNat?.getD 2 % 256))
  | "trap", action :: signals => (s.trap action signals).done 0
  | "kill", args =>
    match killed? args with
    | some (signal, "$") => (signal.elim s s.signalled).done 0
    | some (signal, "$PPID") => (signal.elim s s.signalStarter).done 0
    | _ => s.notFound "kill"
  | "wait", _ => (s.pass (min s.held (s.request.getD s.held))).done 0
  | "cd", _ | "set", _ | "export", _ | "umask", _ | "cat", [] => s.done 0
  | "read", _ => s.done 1
  | _, _ => s.notFound name

/-- The name and the value of an assignment. -/
def assignment? (w : Word) : Option (String × Word) :=
  match w.pieces with
  | .text first :: _ =>
    let texts := w.pieces.takeWhile fun p => p.text?.isSome
    let text := (texts.filterMap Piece.text?).flatten
    match Text.splitFirst '=' text with
    | some (name, value) =>
      if !name.isEmpty && name.all isNameChar && !(first.headD '0').isDigit then
        some (String.ofList name,
          ⟨.text value :: w.pieces.drop texts.length, w.isQuoted⟩)
      else none
    | none => none
  | _ => none

/-- A command with its words. -/
def State.command (s : State) (words : List Word) (turned : List Redirection) : State :=
  let inside := turned.foldl State.turn s
  let assigned := words.filterMap assignment?
  match words with
  | [] => inside.restored s
  | first :: _ =>
    if assigned.length = words.length then
      (assigned.foldl (fun s a => s.setVariable a.1 (s.expand a.2)) inside).restored s |>.done 0
    else
      match s.expand first, (words.drop 1).map s.expand with
      | "exec", [] => (inside.done 0).leave
      | "exec", name :: args =>
        let answer : Answer :=
          match s.answer with
          | .ignores => .ignores
          | _ => .dies
        let s := ({ inside with answer }.leave).execute name args
        if s.isOver then s else s.finish (.code s.status)
      | name, args => (inside.execute name args).restored s

/-- Take over what a process beside this one has written. -/
def State.joined (s other : State) : State :=
  { s with
    stdout := other.stdout
    stderr := other.stderr
    notes := other.notes
    signals := other.signals
    held := max s.held ((other.ended.map (·.1)).getD other.now) }

/-- Carry out statements. The number bounds the steps that are looked at. -/
def carryOut : Nat → List Statement → State → State
  | 0, _, s => { s with isEndless := true }
  | n + 1, todo, s =>
    if s.isOver then s
    else
      match s.request? with
      | some body => carryOut n (body ++ todo) { s with request := none }
      | none =>
        match todo with
        | [] => s
        | .command words turned :: rest => carryOut n rest (s.command words turned)
        | .group isApart body turned :: rest =>
          let inside := carryOut n body (turned.foldl State.turn s)
          match isApart, inside.ended with
          | true, some (_, .code status) =>
            carryOut n rest ({ inside with ended := none, status }.restored s)
          | _, _ => carryOut n rest (inside.restored s)
        | .chain onSuccess first second :: rest =>
          let s := carryOut n [first] s
          if (s.status = 0) = onSuccess then carryOut n (second :: rest) s else carryOut n rest s
        | .repetition onSuccess condition body :: rest =>
          let s := carryOut n condition s
          if (s.status = 0) = onSuccess then
            carryOut n (body ++ .repetition onSuccess condition body :: rest) s
          else carryOut n rest (s.done 0)
        | .forEach name values body :: rest =>
          match values with
          | [] => carryOut n rest s
          | v :: more =>
            carryOut n (body ++ .forEach name more body :: rest)
              (s.setVariable name (s.expand v))
        | .branch condition success failure :: rest =>
          let s := carryOut n condition s
          carryOut n ((if s.status = 0 then success else failure) ++ rest) s
        | .beside body :: rest =>
          carryOut n rest (s.joined (carryOut n [body] { s with request := none }))

/-- The steps of a script that are looked at. -/
def stepLimit : Nat := 20000

/-- Put pieces in the order of their moments. -/
def inOrder {α : Type} (moment : α → Nat) (latestFirst : List α) : List α :=
  latestFirst.reverse.mergeSort fun a b => moment a ≤ moment b

/-- The end of a shell that has carried out all statements or goes on for ever. -/
def State.closed (s : State) : State :=
  if s.ended.isSome then s
  else if !s.isEndless then s.finish (.code s.status)
  else
    match s.request, s.answer with
    | some asked, .dies => { s with now := max s.now asked }.finish (.signal terminateSignal)
    | _, _ => s

/-- The course of a shell. -/
def State.course (s : State) : Course :=
  let s := s.closed
  let closing := s.ended.map fun e => max e.1 s.held
  { stdout := ⟨inOrder (·.1) s.stdout, (s.stdoutLeft.map (max s.held)).or closing⟩
    stderr := ⟨inOrder (·.1) s.stderr, (s.stderrLeft.map (max s.held)).or closing⟩
    notes := inOrder (·.moment) s.notes
    signals := inOrder (·.1) s.signals
    ends := s.ended : Course }.whileRead

/-- A process that carries out statements from a moment on. -/
def process (body : List Statement) (now : Nat) : Process :=
  { alone := (carryOut stepLimit body { now, request := none }).course
    asked := fun moment => (carryOut stepLimit body { now, request := some moment }).course }

/-- The names of shells. -/
def shellNames : List String :=
  ["sh", "/bin/sh", "/usr/bin/sh", "dash", "/bin/dash", "bash", "/bin/bash"]

/-- The commands that can be started without a shell. -/
def commandNames : List String :=
  ["true", "false", "echo", "printf", "sleep", "seq", "touch", "cat"]

/-- The places where commands are. -/
def commandPlaces : List String := ["", "/bin/", "/usr/bin/"]

/-- What every system has and what is no command. -/
def otherPlaces : List String :=
  [".", "..", "/", "/bin", "/dev", "/dev/null", "/etc", "/etc/hosts", "/etc/passwd", "/home",
   "/proc", "/root", "/tmp", "/usr", "/usr/bin", "/var"]

/-- Start a command at a moment. -/
def launch (command : String) (arguments : List String) (now : Nat) : Except SystemError Process :=
  if !(command :: arguments).all SystemError.isPlain then .error .brokenCommand
  else if shellNames.contains command then
    match arguments with
    | "-c" :: script :: _ => .ok (process (statements script.toList) now)
    | [] => .ok (process [] now)
    | _ => .ok (process (statements "exit 2".toList) now)
  else if otherPlaces.any fun p => command = p || command = p ++ "/" then .error .denied
  else
    match commandNames.find? fun name => commandPlaces.any fun place => place ++ name = command with
    | some name =>
      let word (s : String) : Word := ⟨[.text s.toList], true⟩
      .ok (process [.command ((["exec", name] ++ arguments).map word) []] now)
    | none => .error .notFound

end GatewayProbe.Server.Shell
