import GatewayProbe.CommandLine.Description
import GatewayProbe.Program

/-!
# The command line

The outer layer takes the words and the surroundings of the process, lets the program run,
and shows what it has to show. There is no network and no starting of processes in this
layer: a gateway is never reached, and a server is never started.
-/

open GatewayProbe

/-- The web without a network. -/
def silentWeb : Gateway.Web Unit := fun state _ _ => (⟨.zero, .unreachable⟩, state)

/-- Nobody can start commands. -/
def noLauncher : Launcher := fun _ _ _ => .error .notSupported

/-- The files under some paths, as far as they are there. -/
def readFiles (paths : List String) : IO FileTree := do
  let mut files : FileTree := .empty
  for path in paths do
    let content ← (some <$> IO.FS.readBinFile path) <|> pure none
    if let some bytes := content then
      files := FileTree.withFile files path bytes.toList
  return files

/-- Write the files that have changed. -/
def writeFiles (before after : FileTree) : IO Unit := do
  for (path, content) in after.filesUnder "" do
    if (before.read path).toOption ≠ some content then
      unless (FileTree.folder path).isEmpty do
        IO.FS.createDirAll (FileTree.folder path)
      IO.FS.writeBinFile path ⟨content.toArray⟩

/-- The settings file that the words name. -/
def namedFile (words : List String) : List String :=
  ((CommandLine.read none words).toOption.bind (·.globals.config)).toList

/-- Show what the program has to show. -/
def present (own common : Option String) (result : Program.Result Unit) : IO Unit := do
  let lines := if result.isDescription then CommandLine.description else result.lines
  for line in lines do
    IO.println line
  for message in result.shown own common do
    IO.eprintln (message.level.name ++ " " ++ message.text)
  match result.complaint? with
  | some text => IO.eprintln ("Error: " ++ text)
  | none => pure ()

/-- Run the program on the words of the command line. -/
def main (words : List String) : IO UInt32 := do
  let before ← readFiles (Settings.standardPaths ++ namedFile words)
  let result := Program.run ⟨silentWeb, noLauncher, none⟩ (← IO.getEnv "GATEPROBE_URL") words
    { conversation := { gateway := () }, files := before }
  writeFiles before (result.files before)
  present (← IO.getEnv "GATEPROBE_LOG") (← IO.getEnv "RUST_LOG") result
  return UInt32.ofNat result.exitCode
