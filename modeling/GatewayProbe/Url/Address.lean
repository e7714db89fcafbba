import GatewayProbe.Url.Host

/-!
# Addresses of resources

An address has a scheme, possibly a user, a host and a port, and a path with a query
and a fragment. A path is a list of segments; segments that mean the same or the
containing directory are carried out while it is read. Addresses without any segments
keep their rest as one text. A few schemes are special: they need a host, have a
standard port, and let a backslash stand for a slash.
-/

namespace GatewayProbe.Url

open GatewayProbe.Text

/-- The part of an address after scheme and authority. -/
inductive Path where
  | segments (names : List String)
  /-- The rest of an address that has no hierarchy. -/
  | plain (text : String)
  deriving DecidableEq, Repr

/-- The address of a resource. -/
structure Address where
  scheme : String
  username : String := ""
  password : Option String := none
  host : Option Host := none
  port : Option Nat := none
  path : Path
  query : Option String := none
  fragment : Option String := none
  deriving DecidableEq, Repr

/-- The special schemes with their standard ports. -/
def specialSchemes : List (String × Option Nat) :=
  [("http", some 80), ("https", some 443), ("ws", some 80), ("wss", some 443),
   ("ftp", some 21), ("file", none)]

/-- Whether a scheme is special. -/
def isSpecial (scheme : String) : Bool := (specialSchemes.lookup scheme).isSome

/-- The standard port of a scheme. -/
def standardPort? (scheme : String) : Option Nat := (specialSchemes.lookup scheme).join

/-- A segment that means the directory it stands in. -/
def isSameDirectory (name : String) : Bool :=
  lowered name = "." || lowered name = "%2e"

/-- A segment that means the directory above. -/
def isUpperDirectory (name : String) : Bool :=
  [".." , ".%2e", "%2e.", "%2e%2e"].contains (lowered name)

/-- A path extended by one segment, which is the last one or has a slash behind it. -/
def addSegment (names : List String) (name : String) (isLast : Bool) : List String :=
  if isUpperDirectory name then names.dropLast ++ (if isLast then [""] else [])
  else if isSameDirectory name then names ++ (if isLast then [""] else [])
  else names ++ [name]

/-- A path extended by segments, the last one without a slash behind it. -/
def addSegments (names : List String) : List String → List String
  | [] => names
  | [name] => addSegment names name true
  | name :: rest => addSegments (addSegment names name false) rest

/-- The path of segments as text. -/
def segmentsText (names : List String) : String :=
  String.join (names.map fun name => "/" ++ name)

/-- A path as text. -/
def Path.text : Path → String
  | .segments names => segmentsText names
  | .plain text => text

/-- The characters that separate segments. -/
def isSlash (special : Bool) (c : Char) : Bool := c = '/' || (special && c = '\\')

/-- The segments of a text, with the characters of a path encoded. -/
def readSegments (special : Bool) (s : List Char) : List String :=
  (splitWhere (isSlash special) s).map fun name => String.ofList (percentEncode isPathSet name)

/-- Characters that readers of addresses skip. -/
def isSkipped (c : Char) : Bool := c = '\t' || c = '\n' || c = '\r'

/-- The scheme in front of a colon, in lower case, and the rest of the text. -/
def readScheme (s : List Char) : Option (List Char × List Char) :=
  match s with
  | [] => none
  | c :: _ =>
    let isSchemeChar (c : Char) : Bool := c.isAlphanum || c = '+' || c = '-' || c = '.'
    match s.dropWhile isSchemeChar with
    | ':' :: rest => if c.isAlpha then some (lower (s.takeWhile isSchemeChar), rest) else none
    | _ => none

/-- The text up to the path, query or fragment, and the rest. -/
def spanAuthority (special : Bool) (s : List Char) : List Char × List Char :=
  let isEnd (c : Char) : Bool := isSlash special c || c = '?' || c = '#'
  (s.takeWhile (fun c => !isEnd c), s.dropWhile (fun c => !isEnd c))

/-- Name and password in front of an at sign. -/
def readUser (s : List Char) : String × Option String :=
  let part (s : List Char) : String := String.ofList (percentEncode isUserSet s)
  match splitFirst ':' s with
  | none => (part s, none)
  | some (name, word) => (part name, if word.isEmpty then none else some (part word))

/-- The host text before the colon of a port that is not inside brackets, and the rest. -/
def spanHost : Bool → List Char → List Char × List Char
  | _, [] => ([], [])
  | inside, c :: rest =>
    if c = ':' && !inside then ([], c :: rest)
    else
      let inside := if c = '[' then true else if c = ']' then false else inside
      let (host, rest) := spanHost inside rest
      (c :: host, rest)

/-- Read a port: decimal digits up to the end. No digit or the standard port give none. -/
def readPort (scheme : String) (s : List Char) : Except Fault (Option Nat) :=
  if s.isEmpty then .ok none
  else
    match readDigits 65535 0 s with
    | .error _ => .error .port
    | .ok n => .ok (if standardPort? scheme = some n then none else some n)

/-- Read the authority of an address: user, host and port. -/
def readAuthority (scheme : String) (s : List Char) :
    Except Fault (String × Option String × Option Host × Option Nat) := do
  let special := isSpecial scheme
  let (user, rest) :=
    match splitLast '@' s with
    | some (user, rest) => (some user, rest)
    | none => (none, s)
  let (name, word) := readUser (user.getD [])
  let hasUser := !name.isEmpty || word.isSome
  let (host, rest) := spanHost false rest
  if host.isEmpty && (special || hasUser || !rest.isEmpty) then throw .emptyHost
  let host ← if special then some <$> readHost host
    else if host.isEmpty then pure none
    else some <$> readOtherHost host
  let port ← readPort scheme (rest.drop 1)
  return (name, word, host, port)

/-- Query and fragment at the end of an address. -/
def readTail (special : Bool) (s : List Char) : Option String × Option String :=
  let (front, fragment) :=
    match splitFirst '#' s with
    | some (front, fragment) =>
      (front, some (String.ofList (percentEncode isFragmentSet fragment)))
    | none => (s, none)
  match front with
  | '?' :: query =>
    let inSet (c : Char) : Bool := isQuerySet c && (special || c.toNat ≠ 0x27)
    (some (String.ofList (percentEncode inSet query)), fragment)
  | _ => (none, fragment)

/-- The path of an address after its authority; a special one has a path always. -/
def readPath (special : Bool) (s : List Char) : List String :=
  match s with
  | [] => if special then [""] else []
  | c :: rest => if isSlash special c then addSegments [] (readSegments special rest)
    else addSegments [] (readSegments special s)

/-- Path, query and fragment of an address. -/
def readRest (special : Bool) (s : List Char) :
    List String × Option String × Option String :=
  let isEnd (c : Char) : Bool := c = '?' || c = '#'
  let (query, fragment) := readTail special (s.dropWhile fun c => !isEnd c)
  (readPath special (s.takeWhile fun c => !isEnd c), query, fragment)

/-- An address with an authority. -/
def readHierarchy (scheme : String) (s : List Char) : Except Fault Address := do
  let special := isSpecial scheme
  let (authority, rest) := spanAuthority special s
  if authority = ['@'] && !rest.isEmpty then throw .emptyHost
  let (username, password, host, port) ← readAuthority scheme authority
  let (names, query, fragment) := readRest special rest
  return { scheme, username, password, host, port, path := .segments names, query, fragment }

/-- The letter of a drive with a colon or a bar. -/
def isDriveLetter : List Char → Bool
  | [c, d] => c.isAlpha && (d = ':' || d = '|')
  | _ => false

/-- The address of a file, with a host if two slashes stand in front. -/
def readFile (s : List Char) : Except Fault Address := do
  let rest (host : Option Host) (s : List Char) : Address :=
    let (names, query, fragment) := readRest true s
    { scheme := "file", host, path := .segments names, query, fragment }
  match s with
  | a :: b :: more =>
    if isSlash true a && isSlash true b then
      let (name, after) := spanAuthority true more
      if name.isEmpty || isDriveLetter name then return rest none more
      let host ← readHost name
      return rest (if host = .domain "localhost" then none else some host) after
    else return rest none s
  | _ => return rest none s

/-- An address outside the web, whose path may lack a hierarchy. -/
def readOther (scheme : String) (s : List Char) : Except Fault Address :=
  match s with
  | '/' :: '/' :: rest => readHierarchy scheme rest
  | '/' :: rest =>
    let (names, query, fragment) := readRest false ('/' :: rest)
    .ok { scheme, path := .segments names, query, fragment }
  | other =>
    let isEnd (c : Char) : Bool := c = '?' || c = '#'
    let text := percentEncode isControlSet (other.takeWhile fun c => !isEnd c)
    let (query, fragment) := readTail false (other.dropWhile fun c => !isEnd c)
    .ok { scheme, path := .plain (String.ofList text), query, fragment }

/-- Read an address. Controls and spaces around it and breaks inside of it do not count. -/
def Address.parse (text : String) : Except Fault Address :=
  let isOuter (c : Char) : Bool := c.toNat ≤ 0x20
  let inner := dropEndWhile isOuter (text.toList.dropWhile isOuter)
  match readScheme (inner.filter fun c => !isSkipped c) with
  | none => .error .noBase
  | some (scheme, rest) =>
    let scheme := String.ofList scheme
    if scheme = "file" then readFile rest
    else if isSpecial scheme then readHierarchy scheme (rest.dropWhile (isSlash true))
    else readOther scheme rest

/-- The address with another path, which is read from a text. -/
def Address.withPath (a : Address) (text : String) : Address :=
  let kept := text.toList.filter fun c => !isSkipped c
  { a with path := .segments (readPath (isSpecial a.scheme) kept) }

/-- The address of what a text stands for beside the resource at the end of a path. The text begins
with the name of a resource or of a directory. -/
def Address.join (a : Address) (text : String) : Address :=
  match a.path with
  | .segments base =>
    let special := isSpecial a.scheme
    let isEnd (c : Char) : Bool := c = '?' || c = '#'
    let names := readSegments special (text.toList.takeWhile fun c => !isEnd c)
    let (query, fragment) := readTail special (text.toList.dropWhile fun c => !isEnd c)
    { a with path := .segments (addSegments base.dropLast names), query, fragment }
  | .plain _ => { a with query := none, fragment := none }

/-- The path without an empty segment at its end, unless it is the only one. -/
def opened (names : List String) : List String :=
  if 1 < names.length && names.getLast? = some "" then names.dropLast else names

/-- The path with a text as one more segment. A text that stands for a directory adds
nothing, and an only segment that is empty is replaced. -/
def pushText (names : List String) (text : String) : List String :=
  if text = "." || text = ".." then names
  else
    let kept := text.toList.filter fun c => !isSkipped c
    let segment := String.ofList (percentEncode isSegmentSet kept)
    addSegment (if names = [""] then [] else names) segment true

end GatewayProbe.Url
