import GatewayProbe.Check.Listing
import GatewayProbe.FileTree

/-!
# The directory that a check lists

The check lists a directory that is asked for, which is made if it is not there, or a
temporary one, which goes away when the check is over. Either way the files of the
fixture are written into it.
-/

namespace GatewayProbe.Check

/-- The directory that a check lists. -/
structure Workspace where
  path : String
  /-- What a temporary directory holds. -/
  temporary : Option FileTree

/-- What the names of temporary directories begin with. -/
def temporaryMark : String := "gateprobe-check-"

/-- Write the files of the fixture into the directory under a path. -/
def writeFixture (path : String) : List String → FileTree → Except Fault FileTree
  | [], files => .ok files
  | name :: rest, files =>
    let file := FileTree.join path name
    match files.write file (Text.bytesOf (fixtureContent name)) with
    | .error cause => .error (.fixture file cause)
    | .ok files => writeFixture path rest files

/-- Prepare the directory under a path. -/
def prepareAt (files : FileTree) (path : String) : Except Fault (Workspace × FileTree) :=
  match files.makeDirectory path with
  | .error cause => .error (.fixture path cause)
  | .ok files => (writeFixture path fixtureNames files).map fun files => (⟨path, none⟩, files)

/-- Prepare the directory that is asked for, or else a temporary one. -/
def prepare (files : FileTree) (temporaryPath : String) :
    Option String → Except Fault (Workspace × FileTree)
  | some path => prepareAt files path
  | none =>
    (writeFixture "" fixtureNames .empty).map fun inside => (⟨temporaryPath, some inside⟩, files)

/-- The entries of the directory, each with its text if it has one. -/
def Workspace.listing (w : Workspace) (files : FileTree) : List (String × Option String) :=
  let entries :=
    match w.temporary with
    | some inside => inside.entries "."
    | none => files.entries w.path
  entries.map fun entry => (entry.1, entry.2.content?)

end GatewayProbe.Check
