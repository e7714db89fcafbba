import GatewayProbe.Toml.Scalar
import GatewayProbe.Toml.Tree

/-!
# TOML documents

A document is a sequence of lines: headers of tables and of items of lists of tables,
and keys with values. A key may be dotted. A value may be a list, over several lines,
or a table between braces, on one line. Lists and tables are nested to a fixed depth.
-/

namespace GatewayProbe.Toml

/-- Lists and braces may be nested, and keys divided by dots, fewer times than this. -/
def nestingLimit : Nat := 80

/-- The characters of a key without quotes. -/
def isKeyChar (c : Char) : Bool := c.isAlphanum || c = '_' || c = '-'

/-- One part of a key. -/
def simpleKey? (s : List Char) : Option (String × List Char) :=
  match s with
  | '"' :: _ | '\'' :: _ => (lineString? s).map fun (text, rest) => (String.ofList text, rest)
  | _ =>
    let name := s.takeWhile isKeyChar
    if name.isEmpty then none else some (String.ofList name, s.dropWhile isKeyChar)

/-- A key: its parts, and the text after the blanks behind it. -/
def keyParts? : Nat → List Char → Option (List String × List Char)
  | 0, _ => none
  | dots + 1, s => do
    let (name, rest) ← simpleKey? (skipGaps s)
    match skipGaps rest with
    | '.' :: rest => (keyParts? dots rest).map fun (names, rest) => (name :: names, rest)
    | rest => return ([name], rest)

/-- A key as the path to a table and the name in it. -/
structure Key where
  path : List String
  name : String

/-- The key with given parts. -/
def Key.ofParts? (parts : List String) : Option Key :=
  parts.getLast?.map fun name => ⟨parts.dropLast, name⟩

/-- A key and the text after it. -/
def key? (s : List Char) : Option (Key × List Char) := do
  let (parts, rest) ← keyParts? (nestingLimit - 1) s
  let key ← Key.ofParts? parts
  return (key, rest)

/-- A reader of values. -/
abbrev ValueReader := List Char → Option (Node × List Char)

/-- The items of a list up to its end; `size` is at least their number. -/
def items? (value : ValueReader) : Nat → List Char → Option (List Data × List Char)
  | 0, _ => none
  | size + 1, s =>
    match skipAllLines s with
    | ']' :: rest => some ([], rest)
    | s => do
      let (node, rest) ← value s
      match skipAllLines rest with
      | ',' :: rest =>
        (items? value size rest).map fun (items, rest) => (node.data :: items, rest)
      | ']' :: rest => return ([node.data], rest)
      | _ => none

/-- The members of a table between braces up to its end, added to those before; `size` is at
least their number. -/
def braced? (value : ValueReader) : Nat → Members → List Char → Option (Members × List Char)
  | 0, _, _ => none
  | size + 1, ms, s => do
    let (key, rest) ← key? s
    let rest ← after? '=' rest
    let (node, rest) ← value (skipGaps rest)
    let ms ← ms.add .inBraces key.path key.name node .braces
    match skipGaps rest with
    | ',' :: rest => braced? value size ms rest
    | '\x7d' :: rest => return (ms, rest)
    | _ => none

/-- A value in which lists and braces are nested fewer than a number of times. -/
def value? : Nat → ValueReader
  | 0, _ => none
  | depth + 1, s =>
    match s with
    | '[' :: rest =>
      if depth = 0 then none
      else
        (items? (value? depth) (rest.length + 1) rest).map fun (items, rest) =>
          (.leaf (.list items), rest)
    | '\x7b' :: rest =>
      if depth = 0 then none
      else
        match skipGaps rest with
        | '\x7d' :: rest => some (.table .braces [], rest)
        | rest =>
          (braced? (value? depth) (rest.length + 1) [] rest).map fun (ms, rest) =>
            (.table .braces ms, rest)
    | _ => (scalar? s).map fun (d, rest) => (.leaf d, rest)

/-- What is known of a document while it is read: its tables and the header in force. -/
structure Progress where
  root : Members := []
  current : List String := []

/-- Read a header after its first bracket. -/
def header? (p : Progress) (s : List Char) : Option (Progress × List Char) :=
  match s with
  | '[' :: rest => do
    let (key, rest) ← key? rest
    let rest ← after? ']' rest
    let rest ← after? ']' rest
    let root ← p.root.openItem key.path key.name
    let rest ← afterLine? rest
    return (⟨root, key.path ++ [key.name]⟩, rest)
  | _ => do
    let (key, rest) ← key? s
    let rest ← after? ']' rest
    let root ← p.root.openTable key.path key.name
    let rest ← afterLine? rest
    return (⟨root, key.path ++ [key.name]⟩, rest)

/-- Read a key with its value. -/
def member? (p : Progress) (s : List Char) : Option (Progress × List Char) := do
  let (key, rest) ← key? s
  let rest ← after? '=' rest
  let (node, rest) ← value? nestingLimit (skipGaps rest)
  let rest ← afterLine? rest
  let root ← p.root.addBelow p.current key.path key.name node
  return ({ p with root }, rest)

/-- Read the lines of a document; `lines` is at least their number. -/
def lines? : Nat → Progress → List Char → Option Progress
  | 0, _, _ => none
  | lines + 1, p, s =>
    match skipAllLines s with
    | [] => some p
    | '#' :: rest => if (rest.dropWhile isPrintable).isEmpty then some p else none
    | '[' :: rest => (header? p rest).bind fun (p, rest) => lines? lines p rest
    | rest => (member? p rest).bind fun (p, rest) => lines? lines p rest

/-- The text without the mark of its byte order. -/
def withoutMark : List Char → List Char
  | '\ufeff' :: rest => rest
  | s => s

/-- The data of a document. -/
def parse? (s : String) : Option Data :=
  let text := withoutMark s.toList
  (lines? (text.length + 1) {} text).map fun p => .table (Node.dataOfMembers p.root)

end GatewayProbe.Toml
