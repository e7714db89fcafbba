import GatewayProbe.Arithmetic

/-!
# A reproducible stream of random words

The stream is that of a block cipher in counter mode: each block of sixteen words is
made from a key of eight words, a block counter and a zero nonce by six double
rounds. A key is stretched from a 64-bit seed by a linear congruential generator
whose states are permuted before output.
-/

namespace GatewayProbe.Random

/-- A word turned to the left by a number of bits between one and thirty-one. -/
def rotateLeft (x : UInt32) (n : UInt32) : UInt32 := (x <<< n) ||| (x >>> (32 - n))

/-- A word turned to the right by a number of bits below thirty-two. -/
def rotateRight (x : UInt32) (n : UInt32) : UInt32 :=
  if n = 0 then x else (x >>> n) ||| (x <<< (32 - n))

/-- Four words mixed with each other. -/
def quarter (a b c d : UInt32) : UInt32 × UInt32 × UInt32 × UInt32 :=
  let a := a + b
  let d := rotateLeft (d ^^^ a) 16
  let c := c + d
  let b := rotateLeft (b ^^^ c) 12
  let a := a + b
  let d := rotateLeft (d ^^^ a) 8
  let c := c + d
  let b := rotateLeft (b ^^^ c) 7
  (a, b, c, d)

/-- The words at four places of a block mixed with each other. -/
def mixAt (block : Array UInt32) (i j k l : Nat) : Array UInt32 :=
  let (a, b, c, d) := quarter (block.getD i 0) (block.getD j 0) (block.getD k 0) (block.getD l 0)
  (((block.setIfInBounds i a).setIfInBounds j b).setIfInBounds k c).setIfInBounds l d

/-- All columns of a block mixed, then all diagonals. -/
def doubleRound (block : Array UInt32) : Array UInt32 :=
  let block := mixAt (mixAt (mixAt (mixAt block 0 4 8 12) 1 5 9 13) 2 6 10 14) 3 7 11 15
  mixAt (mixAt (mixAt (mixAt block 0 5 10 15) 1 6 11 12) 2 7 8 13) 3 4 9 14

/-- The block that the rounds start from. -/
def startBlock (key : Array UInt32) (counter : Nat) : Array UInt32 :=
  #[0x61707865, 0x3320646e, 0x79622d32, 0x6b206574] ++ key ++
    #[UInt32.ofNat counter, UInt32.ofNat (counter / 2 ^ 32), 0, 0]

/-- The block of output words for a counter. -/
def outputBlock (key : Array UInt32) (counter : Nat) : Array UInt32 :=
  let start := startBlock key counter
  Array.zipWith (· + ·) (Nat.repeat doubleRound 6 start) start

/-- The state after another one in the stretching of a seed. -/
def nextSeedState (state : UInt64) : UInt64 := state * 6364136223846793005 + 11634580027462260723

/-- The word that a state of the stretching gives. -/
def seedWord (state : UInt64) : UInt32 :=
  rotateRight (((state >>> 18) ^^^ state) >>> 27).toUInt32 (state >>> 59).toUInt32

/-- The next words of a key. -/
def keyWords : Nat → UInt64 → List UInt32
  | 0, _ => []
  | n + 1, state => seedWord (nextSeedState state) :: keyWords n (nextSeedState state)

/-- The key that a seed is stretched to. -/
def keyOfSeed (seed : UInt64) : Array UInt32 := (keyWords 8 seed).toArray

/-- A stream of words of which some are taken. -/
structure Stream where
  key : Array UInt32
  /-- The block that the next word lies in. -/
  block : Array UInt32
  /-- The counter of the block after it. -/
  counter : Nat
  /-- The place of the next word in its block. -/
  position : Nat
  deriving Inhabited

/-- The stream that belongs to a seed. -/
def Stream.ofSeed (seed : UInt64) : Stream :=
  let key := keyOfSeed seed
  ⟨key, outputBlock key 0, 1, 0⟩

/-- Streams that belong to numbers. -/
def Stream.numbered (n : Nat) : Stream := .ofSeed (UInt64.ofNat n)

/-- Take one word. -/
def Stream.next (s : Stream) : UInt32 × Stream :=
  match s.block[s.position]? with
  | some w => (w, { s with position := s.position + 1 })
  | none =>
    let block := outputBlock s.key s.counter
    (block.getD 0 0, { s with block, counter := s.counter + 1, position := 1 })

end GatewayProbe.Random
