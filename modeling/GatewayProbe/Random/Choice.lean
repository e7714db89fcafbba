import GatewayProbe.Random.Stream

/-!
# Unbiased choices

A number below a bound is the high half of the product of the bound with a random
word. Products with a low half above a limit are drawn again; the limit makes every
number equally likely. Two limits are in use: the largest that is fair, and one that
is cheaper to find.
-/

namespace GatewayProbe.Random

/-- The largest fair limit of the low half for a bound. -/
def exactLimit (bound : Nat) : Nat := 2 ^ 32 - 1 - (2 ^ 32 - bound) % bound

/-- How many zero bits a 32-bit word has in front. -/
def leadingZeros (n : Nat) : Nat := if n = 0 then 32 else 31 - n.log2

/-- The fair limit of the low half that is found by a shift. -/
def shiftLimit (bound : Nat) : Nat := (bound * 2 ^ leadingZeros bound + 2 ^ 32 - 1) % 2 ^ 32

/-- Draw a number below a bound, giving up fairness after `tries` draws. -/
def drawBelow (bound limit : Nat) : Nat → Stream → Nat × Stream
  | 0, s => (0, s)
  | tries + 1, s =>
    let (w, s) := s.next
    let product := w.toNat * bound
    if product % 2 ^ 32 ≤ limit then (product / 2 ^ 32, s) else drawBelow bound limit tries s

/-- Every number drawn below a bound lies below it. -/
theorem drawBelow_lt {bound : Nat} (h : 0 < bound) (limit tries : Nat) (s : Stream) :
    (drawBelow bound limit tries s).1 < bound := by
  induction tries generalizing s with
  | zero => exact h
  | succ tries ih =>
    simp only [drawBelow]
    split
    · have hw : s.next.1.toNat < 2 ^ 32 := s.next.1.toNat_lt
      exact Nat.div_lt_of_lt_mul (Nat.mul_lt_mul_of_pos_right hw h)
    · exact ih _

/-- The draws that are made before a choice is given up; every second one succeeds at least. -/
def patience : Nat := 1000000

/-- Choose a place below the sum of some weights. -/
def drawWeight (total : Nat) (s : Stream) : Nat × Stream :=
  drawBelow total (exactLimit total) patience s

/-- Choose a place in a list of the given length. -/
def drawIndex (length : Nat) (s : Stream) : Nat × Stream :=
  drawBelow length (shiftLimit length) patience s

end GatewayProbe.Random
