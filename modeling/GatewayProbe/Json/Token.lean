import GatewayProbe.Text.Ascii
import GatewayProbe.Text.Utf8

/-!
# The tokens of a JSON text

A JSON text is a sequence of bytes. Outside of strings it falls into brackets,
separators and words, and blanks between these mean nothing. A string is kept as it
is spelled: a list of bytes and of code units given by escapes. Whether it stands
for a text is only asked when its text is wanted, so a string that nobody reads may
hold bytes that are no text.
-/

namespace GatewayProbe.Json

open GatewayProbe.Text

/-- One part of the spelling of a string. -/
inductive Piece where
  /-- A byte that stands for itself, or the character of a short escape. -/
  | byte (b : UInt8)
  /-- A sixteen-bit code unit given by its number. -/
  | codeUnit (n : Nat)
  deriving DecidableEq, Repr

/-- The smallest parts of a JSON text. -/
inductive Token where
  | openList
  | closeList
  | openRecord
  | closeRecord
  | colon
  | comma
  /-- A string as it is spelled. -/
  | string (spelling : List Piece)
  /-- A literal or a number as it is spelled. -/
  | word (spelling : List Char)
  deriving DecidableEq, Repr

/-- The four blanks of JSON. -/
def isSpace (b : UInt8) : Bool := b = 0x20 || b = 0x0A || b = 0x0D || b = 0x09

/-- The token that a byte is on its own. -/
def punctuation? (b : UInt8) : Option Token :=
  if b = 0x5B then some .openList
  else if b = 0x5D then some .closeList
  else if b = 0x7B then some .openRecord
  else if b = 0x7D then some .closeRecord
  else if b = 0x3A then some .colon
  else if b = 0x2C then some .comma
  else none

/-- The bytes of literals and numbers. -/
def isWordByte (b : UInt8) : Bool :=
  (0x30 ≤ b && b ≤ 0x39) || (0x61 ≤ b && b ≤ 0x7A) || (0x41 ≤ b && b ≤ 0x5A) ||
    b = 0x2B || b = 0x2D || b = 0x2E

/-- The character of a short escape. -/
def shortEscape? (b : UInt8) : Option UInt8 :=
  if b = 0x22 || b = 0x5C || b = 0x2F then some b
  else if b = 0x62 then some 0x08
  else if b = 0x66 then some 0x0C
  else if b = 0x6E then some 0x0A
  else if b = 0x72 then some 0x0D
  else if b = 0x74 then some 0x09
  else none

/-- The code unit written by four hexadecimal digits. -/
def codeUnit? (a b c d : UInt8) : Option Nat := do
  let w ← hexValue (Char.ofNat a.toNat)
  let x ← hexValue (Char.ofNat b.toNat)
  let y ← hexValue (Char.ofNat c.toNat)
  let z ← hexValue (Char.ofNat d.toNat)
  return ((w * 16 + x) * 16 + y) * 16 + z

/-- The piece that an escape after its backslash stands for, and the rest of the bytes. -/
def readEscape? : List UInt8 → Option (Piece × List UInt8)
  | [] => none
  | e :: rest =>
    if e = 0x75 then
      match rest with
      | a :: b :: c :: d :: rest => (codeUnit? a b c d).map fun n => (.codeUnit n, rest)
      | _ => none
    else (shortEscape? e).map fun b => (.byte b, rest)

private theorem length_readEscape? {bytes rest : List UInt8} {p : Piece}
    (h : readEscape? bytes = some (p, rest)) : rest.length < bytes.length := by
  cases bytes with
  | nil => simp [readEscape?] at h
  | cons e more =>
    simp only [readEscape?] at h
    split at h
    · split at h
      · simp only [Option.map_eq_some_iff, Prod.mk.injEq] at h
        obtain ⟨_, _, _, rfl⟩ := h
        simp only [List.length_cons]
        omega
      · simp at h
    · simp only [Option.map_eq_some_iff, Prod.mk.injEq] at h
      obtain ⟨_, _, _, rfl⟩ := h
      simp

/-- The pieces up to the closing quote, put in reverse on `seen`, and the bytes after it. -/
def readStringOnto (seen : List Piece) : List UInt8 → Option (List Piece × List UInt8)
  | [] => none
  | b :: rest =>
    if b = 0x22 then some (seen.reverse, rest)
    else if b < 0x20 then none
    else if b = 0x5C then
      match _read : readEscape? rest with
      | none => none
      | some (p, after) => readStringOnto (p :: seen) after
    else readStringOnto (.byte b :: seen) rest
termination_by bytes => bytes.length
decreasing_by
  · have := length_readEscape? _read
    simp only [List.length_cons]
    omega
  · simp

private theorem length_readStringOnto {seen spelling : List Piece} {bytes rest : List UInt8}
    (h : readStringOnto seen bytes = some (spelling, rest)) : rest.length < bytes.length := by
  fun_induction readStringOnto seen bytes with
  | case1 => simp at h
  | case2 => simp_all
  | case3 => simp at h
  | case4 => simp at h
  | case5 seen more p after he _ _ ih =>
    have := ih h
    have := length_readEscape? he
    simp only [List.length_cons]
    omega
  | case6 seen b more _ _ _ ih =>
    have := ih h
    simp only [List.length_cons]
    omega

private theorem length_dropWhile_le {α : Type} (p : α → Bool) (l : List α) :
    (l.dropWhile p).length ≤ l.length := (List.dropWhile_sublist p).length_le

/-- The tokens of a JSON text, put in reverse on `seen`; there are none if a byte begins
no token or a string is not closed. -/
def lexOnto (seen : List Token) : List UInt8 → Option (List Token)
  | [] => some seen.reverse
  | b :: rest =>
    if isSpace b then lexOnto seen rest
    else
      match punctuation? b with
      | some t => lexOnto (t :: seen) rest
      | none =>
        if b = 0x22 then
          match _read : readStringOnto [] rest with
          | none => none
          | some (spelling, after) => lexOnto (.string spelling :: seen) after
        else if isWordByte b then
          let spelling := (b :: rest.takeWhile isWordByte).map fun x => Char.ofNat x.toNat
          lexOnto (.word spelling :: seen) (rest.dropWhile isWordByte)
        else none
termination_by bytes => bytes.length
decreasing_by
  · simp
  · simp
  · have := length_readStringOnto _read
    simp only [List.length_cons]
    omega
  · have := length_dropWhile_le isWordByte rest
    simp only [List.length_cons]
    omega

/-- The tokens of a JSON text. -/
def lex (bytes : List UInt8) : Option (List Token) := lexOnto [] bytes

/-- The bytes of the text that a spelling stands for. A high surrogate has to be followed
by a low one, and a low one may not stand alone. -/
def textBytes? : List Piece → Option (List UInt8)
  | [] => some []
  | .byte b :: rest => (textBytes? rest).map (b :: ·)
  | .codeUnit n :: rest =>
    if 0xD800 ≤ n ∧ n < 0xDC00 then
      match rest with
      | .codeUnit m :: rest =>
        if 0xDC00 ≤ m ∧ m < 0xE000 then
          let c := Char.ofNat (0x10000 + (n - 0xD800) * 0x400 + (m - 0xDC00))
          (textBytes? rest).map (encode [c] ++ ·)
        else none
      | _ => none
    else if 0xDC00 ≤ n ∧ n < 0xE000 then none
    else (textBytes? rest).map (encode [Char.ofNat n] ++ ·)

/-- The text that a spelling stands for. -/
def spelledText? (spelling : List Piece) : Option String :=
  (textBytes? spelling).bind stringOf?

end GatewayProbe.Json
