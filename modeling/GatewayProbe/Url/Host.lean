import GatewayProbe.Url.Domain
import GatewayProbe.Url.Percent

/-!
# Hosts

A host is a name or an address of four or sixteen bytes. An address of four bytes is
given by one to four numbers, of which the last fills the bytes that are left; one of
sixteen bytes stands in brackets. A name whose last label looks like a number has to
be an address.
-/

namespace GatewayProbe.Url

open GatewayProbe.Text

/-- Why a text is no address of a resource. -/
inductive Fault where
  | emptyHost
  | domain
  | port
  | address4
  | address6
  | noBase
  | character
  deriving DecidableEq, Repr

/-- The wording of each fault. -/
def Fault.message : Fault → String
  | .emptyHost => "empty host"
  | .domain => "invalid international domain name"
  | .port => "invalid port number"
  | .address4 => "invalid IPv4 address"
  | .address6 => "invalid IPv6 address"
  | .noBase => "relative URL without a base"
  | .character => "invalid domain character"

/-- A host. -/
inductive Host where
  | domain (name : String)
  /-- An address of four bytes as one number. -/
  | address4 (n : Nat)
  /-- An address of sixteen bytes as eight numbers. -/
  | address6 (pieces : List Nat)
  deriving DecidableEq, Repr

/-- The number of an address that a label spells; `some none` if it is too large. -/
def readAddressNumber (s : List Char) : Option (Option Nat) :=
  let (base, digits) :=
    match s with
    | '0' :: 'x' :: rest | '0' :: 'X' :: rest => (16, rest)
    | '0' :: c :: rest => (8, c :: rest)
    | other => (10, other)
  if s.isEmpty then none
  else
    (digits.mapM (baseDigitValue base)).map fun values =>
      let n := values.foldl (fun n d => n * base + d) 0
      if n ≤ max32 then some n else none

/-- The labels of a name without an empty one at the end. -/
def addressLabels (name : List Char) : List (List Char) :=
  let labels := splitWhere (· = '.') name
  if labels.getLast? = some [] then labels.dropLast else labels

/-- Whether the last label looks like a number. -/
def endsInNumber (name : List Char) : Bool :=
  if name.isEmpty then false
  else
    match (addressLabels name).getLast? with
    | none => false
    | some last =>
      (!last.isEmpty && last.all Char.isDigit) || (readAddressNumber last).isSome

/-- Read an address of four bytes. -/
def readAddress4 (name : List Char) : Except Fault Nat :=
  let labels := addressLabels name
  match (labels.mapM readAddressNumber).bind fun ns => ns.mapM id with
  | none => .error .address4
  | some numbers =>
    let leading := numbers.dropLast
    let last := numbers.getLastD 0
    let room := 4 - leading.length
    if 4 < labels.length || leading.any (255 < ·) || 256 ^ room ≤ last then .error .address4
    else
      let front := leading.foldl (fun n x => n * 256 + x) 0
      .ok (front * 256 ^ room + last)

/-- The four bytes of an address. -/
def address4Text (n : Nat) : String :=
  let part (k : Nat) : String := toString (n / 256 ^ k % 256)
  part 3 ++ "." ++ part 2 ++ "." ++ part 1 ++ "." ++ part 0

/-- One to four hexadecimal digits as a number, and the rest. -/
def readPiece (s : List Char) : Nat × Nat × List Char :=
  let digits := (s.take 4).takeWhile fun c => (hexValue c).isSome
  (digits.foldl (fun n c => n * 16 + (hexValue c).getD 0) 0, digits.length, s.drop digits.length)

/-- A decimal byte without a superfluous zero. -/
def readByte (s : List Char) : Option Nat :=
  if s.isEmpty || 3 < s.length || !s.all Char.isDigit || (s.head? = some '0' && 1 < s.length) then
    none
  else
    let n := s.foldl (fun n c => n * 10 + (c.toNat - 48)) 0
    if n ≤ 255 then some n else none

/-- The last four bytes of an address in decimal, as two numbers. -/
def readDottedTail (s : List Char) : Option (List Nat) := do
  match ← (splitWhere (· = '.') s).mapM readByte with
  | [a, b, c, d] => some [a * 256 + b, c * 256 + d]
  | _ => none

/-- Read the numbers of an address up to its end, at most `fuel` of them, after those given in
reverse; also how many of them stand before the gap, if there is one. The gap fills the place
of one number at least. -/
def readPieces : Nat → List Nat → Option Nat → List Char → Option (List Nat × Option Nat)
  | _, seen, gap, [] => some (seen.reverse, gap)
  | 0, _, _, _ :: _ => none
  | fuel + 1, seen, gap, c :: s =>
    let filled := seen.length + gap.toList.length
    if 8 ≤ filled then none
    else if c = ':' then
      match gap with
      | some _ => none
      | none => readPieces fuel seen (some seen.length) s
    else
      let (n, length, rest) := readPiece (c :: s)
      match rest with
      | '.' :: _ =>
        if length = 0 || 6 < filled then none
        else (readDottedTail (c :: s)).map fun tail => (seen.reverse ++ tail, gap)
      | ':' :: [] => none
      | ':' :: more => if length = 0 then none else readPieces fuel (n :: seen) gap more
      | [] => if length = 0 then none else some ((n :: seen).reverse, gap)
      | _ => none

/-- Read an address of sixteen bytes without its brackets. -/
def readAddress6 (s : List Char) : Except Fault (List Nat) :=
  let start : Option (List Char × Option Nat) :=
    match s with
    | ':' :: ':' :: rest => some (rest, some 0)
    | ':' :: _ => none
    | other => some (other, none)
  match start.bind fun (rest, gap) => readPieces 20 [] gap rest with
  | none => .error .address6
  | some (pieces, none) => if pieces.length = 8 then .ok pieces else .error .address6
  | some (pieces, some at_) =>
    if pieces.length < 8 then
      .ok (pieces.take at_ ++ List.replicate (8 - pieces.length) 0 ++ pieces.drop at_)
    else .error .address6

/-- The start and the length of the first longest run of zeros, if it has two at least. -/
def longestZeros (pieces : List Nat) : Nat × Nat :=
  let run (i : Nat) : Nat := ((pieces.drop i).takeWhile (· = 0)).length
  let best := (List.range pieces.length).foldl
    (fun (b : Nat × Nat) i => if b.2 < run i then (i, run i) else b) (0, 0)
  if best.2 < 2 then (0, 0) else best

/-- The eight numbers of an address, the first longest run of zeros left out. -/
def address6Text (pieces : List Nat) : String :=
  let part (ps : List Nat) : String := String.intercalate ":" (ps.map (hexPadded 1))
  match longestZeros pieces with
  | (_, 0) => part pieces
  | (start, length) => part (pieces.take start) ++ "::" ++ part (pieces.drop (start + length))

/-- A host as text, an address without brackets. -/
def Host.text : Host → String
  | .domain name => name
  | .address4 n => address4Text n
  | .address6 pieces => address6Text pieces

/-- The text between brackets, if a host begins with one. -/
def bracketed? (s : List Char) : Option (Except Fault (List Char)) :=
  match s with
  | '[' :: rest =>
    if rest.getLast? = some ']' then some (.ok rest.dropLast) else some (.error .address6)
  | _ => none

/-- Read the host of a web address. -/
def readHost (s : List Char) : Except Fault Host :=
  match bracketed? s with
  | some inner => do return .address6 (← readAddress6 (← inner))
  | none =>
    match (decodeStrict (percentDecode s)).bind domainToAscii with
    | none => .error .domain
    | some name =>
      if name.isEmpty then .error .emptyHost
      else if endsInNumber name then (readAddress4 name).map .address4
      else .ok (.domain (String.ofList name))

/-- Characters that may not occur in the host of other addresses. -/
def isForbiddenInHost (c : Char) : Bool :=
  c.toNat = 0 || "\t\n\r #/:<>?@[\\]^|".toList.contains c

/-- Read the host of an address that is not one of the web. -/
def readOtherHost (s : List Char) : Except Fault Host :=
  match bracketed? s with
  | some inner => do return .address6 (← readAddress6 (← inner))
  | none =>
    if s.any isForbiddenInHost then .error .character
    else .ok (.domain (String.ofList (percentEncode isControlSet s)))

end GatewayProbe.Url
