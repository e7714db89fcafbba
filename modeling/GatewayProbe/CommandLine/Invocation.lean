import GatewayProbe.CommandLine.Keys
import GatewayProbe.CommandLine.Level

/-!
# Invocations

A command line names one of two commands. The options of the program may stand before
it and after it, and the later place wins. The base address of the gateway may also come
from the environment; then it counts as given.
-/

namespace GatewayProbe.CommandLine

open GatewayProbe.Settings

/-- A command with its settings and the keys that have been given. -/
inductive Command where
  | load (settings : LoadSettings) (given : List LoadKey)
  | check (settings : CheckSettings) (given : List CheckKey)
  deriving Inhabited

/-- A command line that was understood. -/
structure Invocation where
  globals : Globals
  command : Command
  deriving Inhabited

/-- The version of the program. -/
def versionText : String := "gateprobe 0.1.0\n"

/-- The grammar of the words before the command. -/
def topGrammar : Grammar := ⟨["load", "check"], true⟩

/-- The global settings of two levels: what the inner one gives wins. -/
def joinGlobals (outer : Reading Globals) (inner : Globals) (given : List GlobalKey) : Globals :=
  let chosen {α : Type} (k : GlobalKey) (get : Globals → α) : α :=
    if given.contains k || !outer.has k then get inner else get outer.settings
  ⟨chosen .verbose (·.verbose), chosen .noColor (·.noColor), chosen .config (·.config)⟩

/-- The keys of the program among the keys of a level. -/
def globalKeys {K : Type} (given : List (GlobalKey ⊕ K)) : List GlobalKey :=
  given.filterMap Sum.getLeft?

/-- The keys of the command among the keys of a level. -/
def commandKeys {K : Type} (given : List (GlobalKey ⊕ K)) : List K :=
  given.filterMap Sum.getRight?

/-- Read the words after a command: the global settings, those of the command, and the keys
given. -/
def readCommandWords {S : Type} [Keyed S] [Options S] (standard : S) (words : List String) :
    Except Fault (Reading (Globals × S)) := do
  let (r, _) ← readWords {} { settings := (({} : Globals), standard) } words
  r.resolve

/-- Settings of the gateway with the base address of the environment, if none is given. -/
def withUrl (url : Option String) (isGiven : Bool) (g : GatewaySettings) : GatewaySettings :=
  if isGiven then g else { g with url := url.getD g.url }

/-- The keys given, with that of the base address if it comes from the environment. -/
def withUrlKey {K : Type} (url : Option String) (key : K) (given : List K) : List K :=
  if url.isSome then key :: given else given

/-- Read the words after the command for load runs. -/
def readLoad (url : Option String) (words : List String) :
    Except Fault (Globals × List GlobalKey × Command) := do
  let r ← readCommandWords (({} : LoadSettings)) words
  let given : List LoadKey := commandKeys r.given
  let s := r.settings.2
  let s := { s with gateway := withUrl url (given.contains (.gateway .url)) s.gateway }
  return (r.settings.1, globalKeys r.given, .load s (withUrlKey url (.gateway .url) given))

/-- Read the words after the command for the check. -/
def readCheck (url : Option String) (words : List String) :
    Except Fault (Globals × List GlobalKey × Command) := do
  let r ← readCommandWords (({} : CheckSettings)) words
  let given : List CheckKey := commandKeys r.given
  let s := r.settings.2
  let s := { s with gateway := withUrl url (given.contains (.gateway .url)) s.gateway }
  return (r.settings.1, globalKeys r.given, .check s (withUrlKey url (.gateway .url) given))

/-- Read a command line, its words without the name of the program. -/
def read (url : Option String) (words : List String) : Except Fault Invocation := do
  let (outer, ending) ← readWords topGrammar { settings := ({} : Globals) } words
  match ending with
  | .words =>
    let outer ← outer.resolve
    .error (if outer.given.isEmpty then .helpForEmpty else .missingCommand)
  | .command name rest =>
    let (inner, given, command) ← if name = "load" then readLoad url rest else readCheck url rest
    let outer ← outer.resolve
    return ⟨joinGlobals outer inner given, command⟩

/-- Whether a command line is so bare that the program is described. -/
def isBare (words : List String) : Bool := words.isEmpty || words = ["--"]

/-- The invocation with the settings of a file where none are given. -/
def Invocation.merge (i : Invocation) (f : File) : Except SettingsFault Invocation :=
  match i.command with
  | .load s given =>
    (s.merge given.contains f).map fun s => { i with command := .load s given }
  | .check s given =>
    (s.merge given.contains f).map fun s => { i with command := .check s given }

/-- The invocation with the settings of its file, or of the usual one. -/
def Invocation.configured (files : FileTree) (i : Invocation) : Except SettingsFault Invocation :=
  match File.find files i.globals.config with
  | .error fault => .error fault
  | .ok none => .ok i
  | .ok (some f) => i.merge f

end GatewayProbe.CommandLine
