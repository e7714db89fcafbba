import GatewayProbe.Text.Ascii
import GatewayProbe.Text.Blank
import GatewayProbe.Url.ScriptTable

/-!
# Labels in the scripts of the world

A label of a host name begins with no mark. The two signs that join letters or keep them
apart stand only where the script needs them. Where a name has a letter that is written
from right to left, each of its labels has one direction throughout.
-/

namespace GatewayProbe.Url

open GatewayProbe.Text

/-- A set of characters as ranges of their numbers. -/
abbrev CharSet : Type := List (Nat × Nat)

/-- The number that hexadecimal digits spell. -/
def hexNumber (s : List Char) : Nat := s.foldl (fun n c => n * 16 + (hexValue c).getD 0) 0

/-- The ends of a range as the tables write it. -/
def readRange (s : List Char) : Nat × Nat :=
  match splitFirst '-' s with
  | some (low, high) => (hexNumber low, hexNumber high)
  | none => (hexNumber s, hexNumber s)

/-- The words of the lines of a table. -/
def tableWords (lines : List String) : List (List Char) := lines.flatMap fun l => words l.toList

/-- The set that a table lists. -/
def CharSet.ofTable (lines : List String) : CharSet := (tableWords lines).map readRange

/-- Whether a character is in a set. -/
def CharSet.has (s : CharSet) (c : Char) : Bool :=
  s.any fun range => range.1 ≤ c.toNat && c.toNat ≤ range.2

/-- The direction in which a character is written, or what it is instead of a letter. -/
inductive Direction where
  | leftToRight
  | rightToLeft
  | europeanNumber
  | arabicNumber
  | neutral
  | nonspacing
  deriving DecidableEq, Repr

/-- The direction of a character. -/
def directionOf (c : Char) : Direction :=
  if c.toNat < 0x80 then
    if c.isDigit then .europeanNumber else if c.isAlpha then .leftToRight else .neutral
  else if (CharSet.ofTable ScriptTable.rightToLeft).has c then .rightToLeft
  else if (CharSet.ofTable ScriptTable.arabicNumber).has c then .arabicNumber
  else if (CharSet.ofTable ScriptTable.europeanNumber).has c then .europeanNumber
  else if (CharSet.ofTable ScriptTable.nonspacing).has c then .nonspacing
  else if (CharSet.ofTable ScriptTable.neutral).has c then .neutral
  else .leftToRight

/-- Whether a character makes the direction of a name matter. -/
def needsDirection (c : Char) : Bool :=
  let d := directionOf c
  d = .rightToLeft || d = .arabicNumber

/-- The last direction of a label that is not that of a mark. -/
def lastDirection? (ds : List Direction) : Option Direction :=
  (ds.filter (· ≠ .nonspacing)).getLast?

/-- Whether a label goes in one direction throughout. -/
def isDirected (label : List Char) : Bool :=
  let ds := label.map directionOf
  match ds with
  | [] => true
  | .leftToRight :: _ =>
    !ds.contains .rightToLeft && !ds.contains .arabicNumber &&
      [some .leftToRight, some .europeanNumber].contains (lastDirection? ds)
  | .rightToLeft :: _ =>
    !ds.contains .leftToRight && !(ds.contains .europeanNumber && ds.contains .arabicNumber) &&
      [some .rightToLeft, some .europeanNumber, some .arabicNumber].contains (lastDirection? ds)
  | _ => false

/-- The labels of a name may stand together. -/
def areDirected (labels : List (List Char)) : Bool :=
  !(labels.any fun l => l.any needsDirection) || labels.all isDirected

/-- A mark that can only stand behind another character. -/
def isMark (c : Char) : Bool :=
  0x80 ≤ c.toNat &&
    ((CharSet.ofTable ScriptTable.nonspacing).has c || (CharSet.ofTable ScriptTable.spacing).has c)

/-- The sign that joins letters. -/
def joiner : Char := Char.ofNat 0x200D

/-- The sign that keeps letters apart. -/
def nonJoiner : Char := Char.ofNat 0x200C

/-- The first character of a text that is no mark. -/
def firstLetter? (s : List Char) : Option Char :=
  s.find? fun c => !(CharSet.ofTable ScriptTable.nonspacing).has c

/-- Whether the letters around a place would be joined; the text before it is given in reverse. -/
def wouldJoin (before after : List Char) : Bool :=
  let both := CharSet.ofTable ScriptTable.joiningBoth
  ((firstLetter? before).any fun c =>
    both.has c || (CharSet.ofTable ScriptTable.joiningAfter).has c) &&
  ((firstLetter? after).any fun c =>
    both.has c || (CharSet.ofTable ScriptTable.joiningBefore).has c)

/-- Whether the signs of joining in a label stand where they are needed; the part of the label
before is given in reverse. -/
def hasJoinersInPlace : List Char → List Char → Bool
  | _, [] => true
  | before, c :: rest =>
    let followsVirama := (before.head?).any (CharSet.ofTable ScriptTable.virama).has
    let isInPlace :=
      if c = joiner then followsVirama
      else if c = nonJoiner then followsVirama || wouldJoin before rest
      else true
    isInPlace && hasJoinersInPlace (c :: before) rest

/-- Whether a label outside ASCII is well formed in its script. -/
def isScripted (label : List Char) : Bool :=
  !(label.head?.any isMark) && hasJoinersInPlace [] label

end GatewayProbe.Url
