import GatewayProbe.Data

/-!
# The tables of a TOML document

A document builds a tree of tables. Each table remembers how it came about, because
this decides who may add to it: a header may open a table that so far was only implied
by longer headers, a dotted key may add to tables made by dotted keys, and a table
between braces is complete. A list of tables stands for its last one.
-/

namespace GatewayProbe.Toml

/-- How a table came about. -/
inductive Origin where
  /-- By a header, or it is the table of the whole document. -/
  | header
  /-- By a longer header. -/
  | implied
  /-- By a dotted key. -/
  | dotted
  /-- By braces. -/
  | braces
  /-- By a dotted key between braces. -/
  | dottedInBraces
  deriving DecidableEq, Repr

/-- A part of the tree. -/
inductive Node where
  | leaf (d : Data)
  | table (origin : Origin) (members : List (String × Node))
  | tables (items : List (List (String × Node)))
  deriving Inhabited

/-- The members of a table in order. -/
abbrev Members := List (String × Node)

namespace Node

mutual

/-- The data of a part. -/
def data : Node → Data
  | .leaf d => d
  | .table _ members => .table (dataOfMembers members)
  | .tables items => .list (dataOfItems items)

/-- The data of the members of a table. -/
def dataOfMembers : List (String × Node) → List (String × Data)
  | [] => []
  | (name, node) :: rest => (name, node.data) :: dataOfMembers rest

/-- The data of a list of tables. -/
def dataOfItems : List (List (String × Node)) → List Data
  | [] => []
  | members :: rest => .table (dataOfMembers members) :: dataOfItems rest

end

end Node

/-- The way in which tables are reached. -/
inductive Access where
  | byHeader
  | byDottedKey
  | inBraces
  deriving DecidableEq, Repr

/-- How a table comes about that is reached and not there yet. -/
def Access.origin : Access → Origin
  | .byHeader => .implied
  | .byDottedKey => .dotted
  | .inBraces => .dottedInBraces

/-- Whether a table may be passed on a way. -/
def Access.passes : Access → Origin → Bool
  | .byHeader, .header | .byHeader, .implied | .byHeader, .dotted => true
  | .byDottedKey, .implied | .byDottedKey, .dotted => true
  | .inBraces, .braces | .inBraces, .dottedInBraces => true
  | _, _ => false

namespace Members

/-- The member with a name. -/
def named? (name : String) (ms : Members) : Option Node :=
  (ms.find? fun m => m.1 = name).map (·.2)

/-- The members with the one of a name replaced, or with a new one at the end. -/
def put (name : String) (node : Node) : Members → Members
  | [] => [(name, node)]
  | m :: rest => if m.1 = name then (name, node) :: rest else m :: put name node rest

/-- Change the table at the end of a path; tables on the way that are not there are made. -/
def change (access : Access) (f : Origin → Members → Option Members) :
    List String → Origin → Members → Option Members
  | [], origin, ms => f origin ms
  | name :: path, _, ms =>
    match named? name ms with
    | none =>
      (change access f path access.origin []).map fun inner =>
        ms ++ [(name, .table access.origin inner)]
    | some (.leaf _) => none
    | some (.table origin inner) =>
      if access.passes origin then
        (change access f path origin inner).map fun inner => put name (.table origin inner) ms
      else none
    | some (.tables items) =>
      match items.getLast? with
      | none => none
      | some last =>
        if access = .inBraces then none
        else
          (change access f path .header last).map fun last =>
            put name (.tables (items.dropLast ++ [last])) ms

/-- Add a member to a table reached by a path. The name has to be new, and a table reached by
more than no names has to be one that dotted keys made. -/
def add (access : Access) (path : List String) (name : String) (node : Node) (origin : Origin)
    (ms : Members) : Option Members :=
  change access (fun reached ms =>
    if path.isEmpty || reached = access.origin then
      match named? name ms with
      | none => some (ms ++ [(name, node)])
      | some _ => none
    else none) path origin ms

/-- Open the table of a header. -/
def openTable (path : List String) (name : String) (ms : Members) : Option Members :=
  change .byHeader (fun _ ms =>
    match named? name ms with
    | none => some (ms ++ [(name, .table .header [])])
    | some (.table .implied inner) => some (put name (.table .header inner) ms)
    | some _ => none) path .header ms

/-- Add a table to the list of tables of a header. -/
def openItem (path : List String) (name : String) (ms : Members) : Option Members :=
  change .byHeader (fun _ ms =>
    match named? name ms with
    | none => some (ms ++ [(name, .tables [[]])])
    | some (.tables items) => some (put name (.tables (items ++ [[]])) ms)
    | some _ => none) path .header ms

/-- Add a member by a key in the table that a header has opened. -/
def addBelow (current path : List String) (name : String) (node : Node) (ms : Members) :
    Option Members :=
  change .byHeader (fun _ ms => add .byDottedKey path name node .header ms) current .header ms

end Members

end GatewayProbe.Toml
