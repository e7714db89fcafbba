import GatewayProbe.Text.Ascii

/-!
# Labels in letters and digits

A label with characters outside ASCII is written with letters and digits alone: its
ASCII characters, then for the others, in ascending order, how far each one lies from
the one before. The distances are numbers of variable length in base thirty-six,
whose digit limits follow a bias that adapts to the distances seen.
-/

namespace GatewayProbe.Url.Punycode

/-- The digit with a value below thirty-six. -/
def digitOf (n : Nat) : Char := if n < 26 then Char.ofNat (97 + n) else Char.ofNat (22 + n)

/-- The value of a digit. -/
def valueOf (c : Char) : Option Nat :=
  let n := c.toNat
  if 97 ≤ n ∧ n ≤ 122 then some (n - 97)
  else if 65 ≤ n ∧ n ≤ 90 then some (n - 65)
  else if 48 ≤ n ∧ n ≤ 57 then some (n - 22)
  else none

/-- The limit of the digit at a place. -/
def limit (place bias : Nat) : Nat :=
  if place ≤ bias then 1 else if bias + 26 ≤ place then 26 else place - bias

private theorem limit_pos (place bias : Nat) : 1 ≤ limit place bias := by
  unfold limit
  split
  · omega
  · split <;> omega

private theorem limit_le (place bias : Nat) : limit place bias ≤ 26 := by
  unfold limit
  split
  · omega
  · split <;> omega

/-- How often a distance is divided by thirty-five until it is small, and what is left. -/
def shrink (delta steps : Nat) : Nat × Nat :=
  if 455 < delta then shrink (delta / 35) (steps + 36) else (delta, steps)
termination_by delta
decreasing_by omega

/-- The bias after a distance, where `count` characters are placed. -/
def adapt (delta count : Nat) (first : Bool) : Nat :=
  let d := if first then delta / 700 else delta / 2
  let (d, steps) := shrink (d + d / count) 0
  steps + 36 * d / (d + 38)

/-- The digits of a distance, from a place on. -/
def distanceDigits (q place bias : Nat) : List Char :=
  let t := limit place bias
  if q < t then [digitOf q]
  else digitOf (t + (q - t) % (36 - t)) :: distanceDigits ((q - t) / (36 - t)) (place + 36) bias
termination_by q
decreasing_by
  have h₁ := limit_pos place bias
  have h₂ := limit_le place bias
  have : (q - limit place bias) / (36 - limit place bias) ≤ q - limit place bias :=
    Nat.div_le_self _ _
  omega

/-- The state of encoding: characters placed, bias, distance so far, digits in reverse. -/
structure Encoding where
  placed : Nat
  bias : Nat
  delta : Nat
  digits : List Char

/-- Take one character of the label while the characters equal to `n` are placed. -/
def Encoding.take (n basic : Nat) (e : Encoding) (c : Char) : Encoding :=
  if c.toNat < n then { e with delta := e.delta + 1 }
  else if c.toNat = n then
    { placed := e.placed + 1
      bias := adapt e.delta (e.placed + 1) (e.placed = basic)
      delta := 0
      digits := (distanceDigits e.delta 36 e.bias).reverse ++ e.digits }
  else e

/-- Place the characters from `n` on, at most `fuel` different ones. -/
def Encoding.run (label : List Char) (basic : Nat) : Nat → Nat → Encoding → Encoding
  | 0, _, e => e
  | fuel + 1, n, e =>
    match ((label.map Char.toNat).filter (n ≤ ·)).min? with
    | none => e
    | some m =>
      let e := { e with delta := e.delta + (m - n) * (e.placed + 1) }
      let e := label.foldl (Encoding.take m basic) e
      Encoding.run label basic fuel (m + 1) { e with delta := e.delta + 1 }

/-- A label in letters and digits. -/
def encode (label : List Char) : List Char :=
  let basic := label.filter fun c => c.toNat < 128
  let e := Encoding.run label basic.length label.length 128 ⟨basic.length, 72, 0, []⟩
  basic ++ (if basic.isEmpty then [] else ['-']) ++ e.digits.reverse

/-- Read one distance: its value added to `i`, and the rest of the digits. -/
def readDistance (bias : Nat) : Nat → Nat → Nat → List Char → Option (Nat × List Char)
  | _, _, _, [] => none
  | i, weight, place, c :: rest =>
    match valueOf c with
    | none => none
    | some d =>
      let i := i + d * weight
      let t := limit place bias
      if d < t then some (i, rest) else readDistance bias i (weight * (36 - t)) (place + 36) rest

/-- A label being read: the last character placed, where the next one is sought, and the bias. -/
structure Decoding where
  last : Nat
  position : Nat
  bias : Nat
  first : Bool
  label : List Char

/-- Place one character a distance further on. -/
def Decoding.insert? (d : Decoding) (sum : Nat) : Option Decoding :=
  let count := d.label.length + 1
  let n := d.last + sum / count
  let position := sum % count
  if 0x10FFFF < n ∨ (0xD800 ≤ n ∧ n < 0xE000) then none
  else some
    { last := n
      position := position + 1
      bias := adapt (sum - d.position) count d.first
      first := false
      label := d.label.take position ++ Char.ofNat n :: d.label.drop position }

/-- Place the characters given by digits, at most `fuel` of them. -/
def Decoding.run : Nat → Decoding → List Char → Option (List Char)
  | _, d, [] => some d.label
  | 0, _, _ :: _ => none
  | fuel + 1, d, digits =>
    match readDistance d.bias d.position 1 36 digits with
    | none => none
    | some (sum, rest) => (d.insert? sum).bind fun d => Decoding.run fuel d rest

/-- The label that letters and digits stand for. -/
def decode (s : List Char) : Option (List Char) :=
  let digits := (s.reverse.takeWhile (· ≠ '-')).reverse
  let basic := ((s.reverse.dropWhile (· ≠ '-')).drop 1).reverse
  if basic.all fun c => c.toNat < 128 then Decoding.run s.length ⟨128, 0, 72, true, basic⟩ digits
  else none

end GatewayProbe.Url.Punycode
