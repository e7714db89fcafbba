import GatewayProbe.Url.DomainTable
import GatewayProbe.Url.Script

/-!
# Composed text

The same text can be written with single characters or with marks behind them. In composed
text all pairs that have a single character are written with it, and marks stand in the
order of their classes. A text is composed by taking all characters apart, putting the marks
in order and writing pairs as one again. Korean syllables are taken apart and composed by a
formula.
-/

namespace GatewayProbe.Url

open GatewayProbe.Text

/-- The pairs of characters that are written as one, and the classes of marks. -/
structure CompositionRules where
  /-- The two parts and the character that they are written as. -/
  pairs : List (Nat × Nat × Nat)
  /-- The ends of ranges of marks with their class. -/
  classes : List (Nat × Nat × Nat)

namespace CompositionRules

/-- The rules of the tables. -/
def ofTables (_ : Unit) : CompositionRules where
  pairs := (tableWords DomainTable.composed).filterMap fun row =>
    match (splitWhere (· = '.') row).map hexNumber with
    | [a, b, both] => some (a, b, both)
    | _ => none
  classes := (tableWords ScriptTable.classes).filterMap fun row =>
    (splitFirst '=' row).map fun (ends, number) =>
      let (low, high) := readRange ends
      (low, high, hexNumber number)

/-- The class of a character; only marks have one other than zero. -/
def classOf (r : CompositionRules) (c : Nat) : Nat :=
  ((r.classes.find? fun row => row.1 ≤ c && c ≤ row.2.1).map (·.2.2)).getD 0

/-- The first Korean syllable. -/
def syllableBase : Nat := 0xAC00

/-- The first Korean letter of each of the three places in a syllable; at the last place the one
before it stands for nothing. -/
def leadBase : Nat := 0x1100

/-- See `leadBase`. -/
def vowelBase : Nat := 0x1161

/-- See `leadBase`. -/
def tailBase : Nat := 0x11A7

/-- The parts of a Korean syllable. -/
def syllableParts (c : Nat) : List Nat :=
  let n := c - syllableBase
  let tail := n % 28
  [leadBase + n / 588, vowelBase + n % 588 / 28] ++ if tail = 0 then [] else [tailBase + tail]

/-- Whether a character is a Korean syllable. -/
def isSyllable (c : Nat) : Bool := syllableBase ≤ c && c < syllableBase + 11172

/-- The Korean syllable that two parts are written as. -/
def syllable? (a b : Nat) : Option Nat :=
  if leadBase ≤ a && a < leadBase + 19 && vowelBase ≤ b && b < vowelBase + 21 then
    some (syllableBase + ((a - leadBase) * 21 + (b - vowelBase)) * 28)
  else if isSyllable a && (a - syllableBase) % 28 = 0 && tailBase < b && b < tailBase + 28 then
    some (a + (b - tailBase))
  else none

/-- The character that two are written as. -/
def pair? (r : CompositionRules) (a b : Nat) : Option Nat :=
  (syllable? a b).or ((r.pairs.find? fun p => p.1 = a && p.2.1 = b).map (·.2.2))

/-- The parts of a character, which is taken apart a number of times at most. -/
def partsOf (r : CompositionRules) : Nat → Nat → List Nat
  | 0, c => [c]
  | depth + 1, c =>
    if isSyllable c then syllableParts c
    else
      match r.pairs.find? fun p => p.2.2 = c with
      | some (a, b, _) => partsOf r depth a ++ [b]
      | none => [c]

/-- No character has to be taken apart more often. -/
def partsDepth : Nat := 8

/-- Put a character behind all that stand before it in the order of classes; the text is in
reverse. -/
def insertMark (r : CompositionRules) (c : Nat) : List Nat → List Nat
  | [] => [c]
  | d :: rest =>
    let isAfter := r.classOf c ≠ 0 && r.classOf c < r.classOf d
    if isAfter then d :: insertMark r c rest else c :: d :: rest

/-- A text with its marks in order. -/
def ordered (r : CompositionRules) (s : List Nat) : List Nat :=
  (s.foldl (fun seen c => insertMark r c seen) []).reverse

/-- Compose the rest of a text: after the last character that is no mark, if there was one, the
marks that could not be composed with it, in reverse, and all that stands before, in reverse. -/
def composeFrom (r : CompositionRules) (before : List Nat) (base : Option Nat) (marks : List Nat) :
    List Nat → List Nat
  | [] => (marks ++ base.toList ++ before).reverse
  | c :: rest =>
    let isBlocked := marks.head?.any fun m => r.classOf c ≤ r.classOf m
    match if isBlocked then none else base.bind fun b => r.pair? b c with
    | some both => composeFrom r before (some both) marks rest
    | none =>
      if r.classOf c = 0 then composeFrom r (marks ++ base.toList ++ before) (some c) [] rest
      else composeFrom r before base (c :: marks) rest

/-- Composed text. -/
def compose (r : CompositionRules) (s : List Char) : List Char :=
  let parts := s.flatMap fun c => if c.toNat < 0x80 then [c.toNat] else r.partsOf partsDepth c.toNat
  (r.composeFrom [] none [] (r.ordered parts)).map Char.ofNat

end CompositionRules

end GatewayProbe.Url
