import GatewayProbe.SystemError
import GatewayProbe.Text.Blank
import GatewayProbe.Text.Utf8

/-!
# Directories and files

A directory holds files and directories under names. A path leads from a directory to
one of them, by names between slashes; a single dot stays where it is and two dots go
back. What keeps a path from being followed, a file from being read or written, or a
directory from being made, is one of a few errors of the system.
-/

namespace GatewayProbe

/-- A file with its content, or a directory. -/
inductive FileTree where
  | file (content : List UInt8)
  | directory (entries : List (String × FileTree))
  deriving Inhabited

namespace FileTree

/-- A directory without entries. -/
def empty : FileTree := .directory []

/-- The longest name, in bytes. -/
def nameLimit : Nat := 255

/-- The names of a path, without those that stay in place. -/
def steps (path : String) : List String :=
  ((Text.splitWhere (· = '/') path.toList).map String.ofList).filter fun s => s ≠ "" ∧ s ≠ "."

/-- Whether a path can only lead to a directory. -/
def isDirectoryPath (path : String) : Bool :=
  match (Text.splitWhere (· = '/') path.toList).getLast? with
  | some last => last = [] || last = ['.']
  | none => false

/-- The entry under a name. -/
def child? (name : String) : List (String × FileTree) → Option FileTree
  | [] => none
  | (n, t) :: rest => if n = name then some t else child? name rest

/-- The entries with the one under a name replaced, or with a new one. -/
def putEntry (name : String) (t : FileTree) : List (String × FileTree) → List (String × FileTree)
  | [] => [(name, t)]
  | (n, old) :: rest => if n = name then (n, t) :: rest else (n, old) :: putEntry name t rest

/-- What lies under names, none of which goes back. -/
def at? : List String → FileTree → Except SystemError FileTree
  | [], t => .ok t
  | _ :: _, .file _ => .error .notDirectory
  | name :: rest, .directory entries =>
    if nameLimit < name.utf8ByteSize then .error .nameTooLong
    else
      match child? name entries with
      | none => .error .notFound
      | some t => at? rest t

/-- The names that lead to the same place without going back; each directory that is left again
has to be there. -/
def straight (root : FileTree) : List String → List String → Except SystemError (List String)
  | done, [] => .ok done
  | done, name :: rest =>
    if name = ".." then
      match root.at? done with
      | .error e => .error e
      | .ok (.file _) => .error .notDirectory
      | .ok (.directory _) => straight root done.dropLast rest
    else straight root (done ++ [name]) rest

/-- The names that a path leads along from the directory in which it is followed. -/
def names (root : FileTree) (path : String) : Except SystemError (List String) :=
  if path.isEmpty then .error .notFound
  else if SystemError.isPlain path then straight root [] (steps path)
  else .error .brokenPath

/-- What lies under a path. -/
def find (root : FileTree) (path : String) : Except SystemError FileTree := do
  let t ← root.at? (← root.names path)
  match t with
  | .file _ => if isDirectoryPath path then .error .notDirectory else .ok t
  | .directory _ => .ok t

/-- Whether there is anything under a path. -/
def holds (root : FileTree) (path : String) : Bool := (root.find path).isOk

/-- The content of the file under a path. -/
def read (root : FileTree) (path : String) : Except SystemError (List UInt8) := do
  match ← root.find path with
  | .file content => .ok content
  | .directory _ => .error .isDirectory

/-- The tree with something put under names whose directories are there. -/
def putAt (new : FileTree) : List String → FileTree → FileTree
  | [], _ => new
  | name :: rest, .directory entries =>
    .directory (putEntry name (putAt new rest ((child? name entries).getD empty)) entries)
  | _ :: _, t => t

/-- Write a file; the directory that is to hold it has to be there. -/
def write (root : FileTree) (path : String) (content : List UInt8) :
    Except SystemError FileTree := do
  let names ← root.names path
  match root.at? names with
  | .ok (.directory _) => .error .isDirectory
  | .ok (.file _) =>
    if isDirectoryPath path then .error .notDirectory else .ok (putAt (.file content) names root)
  | .error e =>
    match root.at? names.dropLast with
    | .ok (.directory _) =>
      if e = .notFound then
        if isDirectoryPath path then .error .isDirectory
        else .ok (putAt (.file content) names root)
      else .error e
    | _ => .error e

/-- Make the directories along names, as far as they are not there. -/
def makeAlong : List String → FileTree → Except SystemError FileTree
  | [], .directory entries => .ok (.directory entries)
  | [], .file _ => .error .alreadyThere
  | _ :: _, .file _ => .error .notDirectory
  | name :: rest, .directory entries =>
    if nameLimit < name.utf8ByteSize then .error .nameTooLong
    else
      (makeAlong rest ((child? name entries).getD empty)).map fun t =>
        .directory (putEntry name t entries)

/-- Make the directories along the steps of a path, after those that lead to a place; a directory
that is left again is made too. -/
def makeAll (root : FileTree) (done : List String) : List String → Except SystemError FileTree
  | [] => makeAlong done root
  | name :: rest =>
    if name = ".." then
      match makeAlong done root with
      | .error e => .error (if e = .alreadyThere then .notDirectory else e)
      | .ok root => makeAll root done.dropLast rest
    else makeAll root (done ++ [name]) rest

/-- Whether a path ends by staying where it is. -/
def endsInPlace (path : String) : Bool :=
  let parts := Text.splitWhere (· = '/') path.toList
  (parts.filter (· ≠ [])).getLast? = some ['.']

/-- Make the directory under a path, with all that are to hold it. Staying in a place is no way to
make it. -/
def makeDirectory (root : FileTree) (path : String) : Except SystemError FileTree :=
  if path.isEmpty then .ok root
  else if !SystemError.isPlain path then .error .brokenPath
  else if endsInPlace path then (root.find path).map fun _ => root
  else makeAll root [] (steps path)

/-- The path to a name in the directory under a path. -/
def join (path name : String) : String :=
  if path.isEmpty || path.endsWith "/" then path ++ name else path ++ "/" ++ name

/-- The tree with a file under a path, and the directories that are to hold it. -/
def withFile (root : FileTree) (path : String) (content : List UInt8) : FileTree :=
  let names := steps path
  putAt (.file content) names ((makeAlong names.dropLast root).toOption.getD root)

/-- A tree of files with texts under paths. -/
def ofTexts (files : List (String × String)) : FileTree :=
  files.foldl (fun root file => root.withFile file.1 (Text.bytesOf file.2)) empty

/-- The path of the directory that holds what lies under a path. -/
def folder (path : String) : String :=
  ((Text.splitLast '/' path.toList).map fun parts => String.ofList parts.1).getD ""

/-- The text of the file under a path. -/
def text? (root : FileTree) (path : String) : Option String :=
  (root.read path).toOption.bind Text.stringOf?

/-- The entries of the directory under a path. -/
def entries (root : FileTree) (path : String) : List (String × FileTree) :=
  match root.find path with
  | .ok (.directory entries) => entries
  | _ => []

mutual

/-- All files of a tree that lies under a path, with their paths. -/
def filesUnder (path : String) : FileTree → List (String × List UInt8)
  | .file content => [(path, content)]
  | .directory entries => filesAmong path entries

/-- All files of the entries of a directory under a path, with their paths. -/
def filesAmong (path : String) : List (String × FileTree) → List (String × List UInt8)
  | [] => []
  | (name, t) :: rest => filesUnder (join path name) t ++ filesAmong path rest

end

/-- The text of a file; other things have none. -/
def content? : FileTree → Option String
  | .file content => Text.stringOf? content
  | .directory _ => none

/-- The end of a path that counts for its format: what follows the last dot of the last name,
unless the name begins with that dot. -/
def extension? (path : String) : Option String :=
  match (steps path).getLast? with
  | none => none
  | some name =>
    if name = ".." then none
    else
      match Text.splitLast '.' name.toList with
      | none | some ([], _) => none
      | some (_, ext) => some (String.ofList ext)

end FileTree

end GatewayProbe
