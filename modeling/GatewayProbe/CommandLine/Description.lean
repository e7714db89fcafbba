import GatewayProbe.CommandLine.Keys

/-!
# The description of the program

The description names the commands and the options of each of them.
-/

namespace GatewayProbe.CommandLine

open GatewayProbe.Settings

/-- The line about an option. -/
def optionLine (s : Shape) : String :=
  let short := s.short.elim "    " fun c => String.ofList ['-', c, ',', ' ']
  "  " ++ short ++ s.text

/-- The lines about the options of some settings. -/
def optionLines (S : Type) [Keyed S] [Options S] : List String :=
  (Options.keys (S := S)).map fun k => optionLine (Options.shape k)

/-- The description of the program, line by line. -/
def description : List String :=
  ["Correctness checks and weighted load tests for asynchronous command-execution gateways.", "",
    "Usage: gateprobe [OPTIONS] <COMMAND>", "", "Options:"] ++
  optionLines Globals ++
  ["", "load: run weighted virtual users against the gateway and evaluate latency targets"] ++
  optionLines LoadSettings ++
  ["", "check: execute a listing of a prepared directory and verify the output"] ++
  optionLines CheckSettings

end GatewayProbe.CommandLine
