/-!
# Bytes and characters

UTF-8 is read one character at a time. Where the bytes are no character, the
longest beginning that could still have become one is set aside as a single
fault. Strict reading refuses a fault, and tolerant reading puts the replacement
character in its place.
-/

namespace GatewayProbe.Text

/-- A byte that continues a character, within narrower bounds for some first bytes. -/
def within (low high : UInt8) : List UInt8 → Bool
  | [] => false
  | b :: _ => low ≤ b && b ≤ high

/-- The six low bits of a continuation byte. -/
def lowBits (b : UInt8) : Nat := b.toNat % 64

/-- Two, three or four bytes read as one character, with the count of bytes used after
the first; a fault also says how many bytes after the first belong to it. -/
def continued (first : Nat) (low high : UInt8) (more : Nat) (rest : List UInt8) :
    Option Char × Nat :=
  if within low high rest then
    match more, rest with
    | 0, b :: _ => (some (Char.ofNat (first * 64 + lowBits b)), 1)
    | 1, b :: rest₁ =>
      match rest₁ with
      | c :: _ =>
        if within 0x80 0xBF rest₁ then
          (some (Char.ofNat ((first * 64 + lowBits b) * 64 + lowBits c)), 2)
        else (none, 1)
      | [] => (none, 1)
    | _, b :: rest₁ =>
      match rest₁ with
      | c :: rest₂ =>
        if within 0x80 0xBF rest₁ then
          match rest₂ with
          | d :: _ =>
            if within 0x80 0xBF rest₂ then
              (some (Char.ofNat
                (((first * 64 + lowBits b) * 64 + lowBits c) * 64 + lowBits d)), 3)
            else (none, 2)
          | [] => (none, 2)
        else (none, 1)
      | [] => (none, 1)
    | _, [] => (none, 0)
  else (none, 0)

/-- The character that starts with the byte `b`, or a fault, and how many of the
following bytes belong to it. -/
def readChar (b : UInt8) (rest : List UInt8) : Option Char × Nat :=
  if b < 0x80 then (some (Char.ofNat b.toNat), 0)
  else if b < 0xC2 then (none, 0)
  else if b < 0xE0 then continued (b.toNat - 0xC0) 0x80 0xBF 0 rest
  else if b = 0xE0 then continued 0 0xA0 0xBF 1 rest
  else if b = 0xED then continued 13 0x80 0x9F 1 rest
  else if b < 0xF0 then continued (b.toNat - 0xE0) 0x80 0xBF 1 rest
  else if b = 0xF0 then continued 0 0x90 0xBF 2 rest
  else if b < 0xF4 then continued (b.toNat - 0xF0) 0x80 0xBF 2 rest
  else if b = 0xF4 then continued 4 0x80 0x8F 2 rest
  else (none, 0)

/-- The characters of a byte string, a fault standing as `none`, put in reverse on `seen`. -/
def readCharsOnto (seen : List (Option Char)) : List UInt8 → List (Option Char)
  | [] => seen
  | b :: rest =>
    let (c, used) := readChar b rest
    readCharsOnto (c :: seen) (rest.drop used)
termination_by bytes => bytes.length
decreasing_by simp only [List.length_drop, List.length_cons]; omega

/-- The characters of a byte string in order, a fault standing as `none`. -/
def readChars (bytes : List UInt8) : List (Option Char) :=
  (readCharsOnto [] bytes).reverse

/-- The replacement character. -/
def replacement : Char := Char.ofNat 0xFFFD

/-- The text of well-formed bytes. -/
def decodeStrict (bytes : List UInt8) : Option (List Char) :=
  (readChars bytes).mapM id

/-- The text of any bytes, with the replacement character for each fault. -/
def decodeTolerant (bytes : List UInt8) : List Char :=
  (readChars bytes).map fun c => c.getD replacement

/-- The bytes of a text. -/
def encode (s : List Char) : List UInt8 := s.flatMap String.utf8EncodeChar

/-- The bytes of a string. -/
def bytesOf (s : String) : List UInt8 := encode s.toList

/-- The string of well-formed bytes. -/
def stringOf? (bytes : List UInt8) : Option String := (decodeStrict bytes).map String.ofList

/-- The string of any bytes, with the replacement character for each fault. -/
def stringOf (bytes : List UInt8) : String := String.ofList (decodeTolerant bytes)

end GatewayProbe.Text
