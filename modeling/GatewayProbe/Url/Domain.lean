import GatewayProbe.Text.Blank
import GatewayProbe.Text.Integer
import GatewayProbe.Url.Composition
import GatewayProbe.Url.Punycode

/-!
# Host names

A host name is brought into the letters, digits and signs that may occur in an
address. Characters are replaced by the ones they stand for, pairs are composed, and
each label with characters outside ASCII is written in letters and digits. A name
with a character that may not occur has no such form.
-/

namespace GatewayProbe.Url

open GatewayProbe.Text

/-- What becomes of a character of a range. -/
inductive CharRule where
  | ignored
  | forbidden
  | shifted (distance : Int)
  /-- Every second character is shifted, beginning with the first. -/
  | alternating (distance : Int)
  | replaced (by_ : List Char)
  deriving Inhabited

/-- A range of characters and its rule. -/
structure CharRange where
  low : Nat
  high : Nat
  rule : CharRule
  deriving Inhabited

/-- The rule that a row of the third table states. -/
def readMapped (row : List Char) : CharRange :=
  let ends := row.takeWhile fun c => (hexValue c).isSome || c = '-'
  let (low, high) := readRange ends
  let rule :=
    match row.dropWhile fun c => (hexValue c).isSome || c = '-' with
    | '+' :: d => CharRule.shifted (hexNumber d)
    | '~' :: d => .shifted (-(hexNumber d : Int))
    | '!' :: d => .alternating (hexNumber d)
    | '?' :: d => .alternating (-(hexNumber d : Int))
    | '=' :: cs => .replaced ((splitWhere (· = '.') cs).map fun c => Char.ofNat (hexNumber c))
    | _ => .forbidden
  ⟨low, high, rule⟩

/-- The rules for the characters of a name. -/
structure NameRules where
  ranges : List CharRange
  composition : CompositionRules

/-- All rules of the tables for single characters. -/
def charRules (_ : Unit) : List CharRange :=
  let plain (rule : CharRule) (lines : List String) : List CharRange :=
    (tableWords lines).map fun row =>
      let (low, high) := readRange row
      ⟨low, high, rule⟩
  plain .ignored DomainTable.ignored ++ plain .forbidden DomainTable.forbidden ++
    (tableWords DomainTable.mapped).map readMapped

/-- All rules of the tables. -/
def nameRules (_ : Unit) : NameRules := ⟨charRules (), .ofTables ()⟩

/-- A character shifted by a distance. -/
def shiftChar (c : Char) (distance : Int) : Char := Char.ofNat ((c.toNat : Int) + distance).toNat

/-- Characters that belong to no script and may not occur in any name. -/
def isPrivate (c : Char) : Bool :=
  let n := c.toNat
  (0xE000 ≤ n && n ≤ 0xF8FF) || 0xE0000 ≤ n || n % 0x10000 ≥ 0xFFFE

/-- What stands for a character of a name, unless it may not occur. -/
def mapChar (rules : NameRules) (c : Char) : Option (List Char) :=
  if c.toNat < 0x80 then some [c.toLower]
  else if isPrivate c then none
  else
    match rules.ranges.find? fun r => r.low ≤ c.toNat && c.toNat ≤ r.high with
    | none => some [c]
    | some r =>
      match r.rule with
      | .ignored => some []
      | .forbidden => none
      | .shifted d => some [shiftChar c d]
      | .alternating d => some [if (c.toNat - r.low) % 2 = 0 then shiftChar c d else c]
      | .replaced cs => some cs

/-- A text of ASCII characters alone. -/
def isAsciiText (s : List Char) : Bool := s.all fun c => c.toNat < 0x80

/-- The beginning of a label that is written in letters and digits. -/
def letterMark : List Char := ['x', 'n', '-', '-']

/-- A label outside ASCII that may occur: it is its own form and well formed in its script. -/
def isLabel (rules : NameRules) (label : List Char) : Bool :=
  isScripted label && rules.composition.compose label = label &&
    label.all fun c => mapChar rules c = some [c]

/-- A label in ASCII, with the label that it stands for. -/
def labelToAscii (rules : NameRules) (label : List Char) : Option (List Char × List Char) :=
  if isAsciiText label then
    match afterStart letterMark label with
    | none => some (label, label)
    | some digits =>
      match Punycode.decode digits with
      | none => none
      | some full =>
        if !isAsciiText full && isLabel rules full && Punycode.encode full = digits then
          some (label, full)
        else none
  else if (afterStart letterMark label).isNone && isLabel rules label then
    some (letterMark ++ Punycode.encode label, label)
  else none

/-- The labels of a name in ASCII, if they may stand together. -/
def labelsToAscii (rules : NameRules) (labels : List (List Char)) :
    Option (List (List Char)) :=
  match labels.mapM (labelToAscii rules) with
  | none => none
  | some pairs => if areDirected (pairs.map (·.2)) then some (pairs.map (·.1)) else none

/-- Characters that may not occur in a host name. -/
def isForbiddenInDomain (c : Char) : Bool :=
  c.toNat ≤ 0x20 || 0x7F ≤ c.toNat || "%#/:<>?@[\\]^|".toList.contains c

/-- A host name in ASCII. -/
def domainToAscii (s : List Char) : Option (List Char) :=
  let ascii :=
    if isAsciiText s && !(holds letterMark (lower s)) then some (lower s)
    else
      let rules := nameRules ()
      (s.mapM (mapChar rules)).bind fun mapped =>
        let text := rules.composition.compose mapped.flatten
        (labelsToAscii rules (splitWhere (· = '.') text)).map fun labels =>
          (labels.intersperse ['.']).flatten
  ascii.filter fun name => !name.any isForbiddenInDomain

end GatewayProbe.Url
