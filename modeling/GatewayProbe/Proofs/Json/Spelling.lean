import GatewayProbe.Json.Token
import GatewayProbe.Proofs.Text.Utf8

/-!
# The spellings of texts

A character of a text is spelled in a string by its bytes, by the code unit with its number, or
by a high and a low surrogate that make up its number. The spellings that stand for a text are
those in which every character is spelled in one of these ways.
-/

namespace GatewayProbe.Json

open GatewayProbe.Text

/-- The spellings of a text. -/
inductive Spells : List Piece → List Char → Prop
  | nil : Spells [] []
  | bytes {ps : List Piece} {s : List Char} (c : Char) (h : Spells ps s) :
      Spells ((String.utf8EncodeChar c).map .byte ++ ps) (c :: s)
  | codeUnit {ps : List Piece} {s : List Char} {n : Nat} (hn : ¬ (0xD800 ≤ n ∧ n < 0xE000))
      (h : Spells ps s) : Spells (.codeUnit n :: ps) (Char.ofNat n :: s)
  | surrogates {ps : List Piece} {s : List Char} {high low : Nat}
      (hhigh : 0xD800 ≤ high ∧ high < 0xDC00) (hlow : 0xDC00 ≤ low ∧ low < 0xE000)
      (h : Spells ps s) :
      Spells (.codeUnit high :: .codeUnit low :: ps)
        (Char.ofNat (0x10000 + (high - 0xD800) * 0x400 + (low - 0xDC00)) :: s)

/-- The spelling of a text by its own bytes. -/
def plain (text : String) : List Piece := (bytesOf text).map .byte

/-- A text written without escapes spells itself. -/
theorem spells_plain (text : String) : Spells (plain text) text.toList := by
  rw [plain, bytesOf]
  induction text.toList with
  | nil => exact .nil
  | cons c s ih =>
    rw [encode_cons, List.map_append]
    exact .bytes c ih

private theorem textBytes?_bytes (bs : List UInt8) (ps : List Piece) :
    textBytes? (bs.map .byte ++ ps) = (textBytes? ps).map (bs ++ ·) := by
  induction bs with
  | nil => simp
  | cons b bs ih => simp [textBytes?, ih, Function.comp_def]

/-- Pieces that spell a text have its bytes. -/
theorem textBytes?_of_spells {ps : List Piece} {s : List Char} (h : Spells ps s) :
    textBytes? ps = some (encode s) := by
  induction h with
  | nil => simp [textBytes?]
  | bytes c _ ih => simp [textBytes?_bytes, ih]
  | @codeUnit ps s n hn _ ih =>
    have hhigh : ¬ (0xD800 ≤ n ∧ n < 0xDC00) := by omega
    have hlow : ¬ (0xDC00 ≤ n ∧ n < 0xE000) := by omega
    unfold textBytes?
    simp [hhigh, hlow, ih]
  | surrogates hhigh hlow _ ih => simp [textBytes?, hhigh, hlow, ih]

/-- No byte of a character but its first one can be the first of a character. -/
theorem not_isUTF8FirstByte_of_mem {c : Char} {b : UInt8} {more : List UInt8}
    (h : String.utf8EncodeChar c = b :: more) : ∀ x ∈ more, ¬ x.IsUTF8FirstByte := by
  intro x hx
  obtain ⟨front, rest, rfl⟩ := List.append_of_mem hx
  exact not_isUTF8FirstByte_of_utf8EncodeChar_eq (by simpa using h) (List.cons_ne_nil b front)

/-- A character that is spelled by a number does not go on with one begun in bytes. -/
theorem eq_nil_of_encode_append {c : Char} {more front : List UInt8} {s : List Char}
    (hfront : ∀ x ∈ front, ¬ x.IsUTF8FirstByte)
    (h : encode [c] ++ more = front ++ encode s) :
    front = [] ∧ ∃ rest, s = c :: rest ∧ more = encode rest := by
  obtain ⟨b, bs, hbytes⟩ := List.exists_cons_of_ne_nil (String.utf8EncodeChar_ne_nil (c := c))
  have hencode : encode [c] = b :: bs := by simp [hbytes]
  have hnil : front = [] := by
    cases front with
    | nil => rfl
    | cons x front =>
      rw [hencode, List.cons_append, List.cons_append, List.cons.injEq] at h
      exact absurd (isUTF8FirstByte_of_encode_eq_cons hencode) (h.1 ▸ hfront x List.mem_cons_self)
  subst hnil
  cases s with
  | nil => simp [hencode] at h
  | cons d s =>
    have hsame : String.utf8EncodeChar c ++ more = String.utf8EncodeChar d ++ encode s := by
      simpa using h
    obtain ⟨rfl, hmore⟩ := utf8EncodeChar_append_inj hsame
    exact ⟨rfl, s, rfl, hmore⟩

/-- Pieces whose bytes are the rest of a character and a text are the rest of the character,
byte by byte, and a spelling of the text. -/
theorem spells_of_textBytes? {ps : List Piece} {front : List UInt8} {s : List Char}
    (hfront : ∀ x ∈ front, ¬ x.IsUTF8FirstByte) (h : textBytes? ps = some (front ++ encode s)) :
    ∃ rest, ps = front.map .byte ++ rest ∧ Spells rest s := by
  fun_induction textBytes? ps generalizing front s with
  | case1 =>
    obtain ⟨rfl, hs⟩ := List.append_eq_nil_iff.mp (Option.some.inj h).symm
    obtain rfl : s = [] := encode_injective hs
    exact ⟨[], rfl, .nil⟩
  | case2 b ps ih =>
    obtain ⟨more, hmore, heq⟩ := Option.map_eq_some_iff.mp h
    cases front with
    | cons x front =>
      obtain ⟨rfl, rfl⟩ := List.cons.inj heq
      obtain ⟨rest, rfl, hrest⟩ := ih (List.forall_mem_cons.mp hfront).2 hmore
      exact ⟨rest, rfl, hrest⟩
    | nil =>
      cases s with
      | nil => simp at heq
      | cons c s =>
        obtain ⟨x, bs, hbytes⟩ := List.exists_cons_of_ne_nil (String.utf8EncodeChar_ne_nil (c := c))
        rw [List.nil_append, encode_cons, hbytes, List.cons_append] at heq
        obtain ⟨rfl, rfl⟩ := List.cons.inj heq
        obtain ⟨rest, rfl, hrest⟩ := ih (not_isUTF8FirstByte_of_mem hbytes) hmore
        exact ⟨_, rfl, by simpa [hbytes] using Spells.bytes c hrest⟩
  | case3 high hhigh low ps hlow =>
    rename_i ih
    obtain ⟨more, hmore, heq⟩ := Option.map_eq_some_iff.mp h
    obtain ⟨rfl, s, rfl, rfl⟩ := eq_nil_of_encode_append hfront heq
    obtain ⟨rest, rfl, hrest⟩ := ih hfront (by simpa using hmore)
    exact ⟨_, rfl, .surrogates hhigh hlow hrest⟩
  | case4 => simp at h
  | case5 => simp at h
  | case6 => simp at h
  | case7 n ps hhigh hlow ih =>
    obtain ⟨more, hmore, heq⟩ := Option.map_eq_some_iff.mp h
    obtain ⟨rfl, s, rfl, rfl⟩ := eq_nil_of_encode_append hfront heq
    obtain ⟨rest, rfl, hrest⟩ := ih hfront (by simpa using hmore)
    exact ⟨_, rfl, .codeUnit (by omega) hrest⟩

/-- The text read from a spelling is the one that it spells. -/
theorem spelledText?_eq_some_iff {ps : List Piece} {text : String} :
    spelledText? ps = some text ↔ Spells ps text.toList := by
  rw [spelledText?, Option.bind_eq_some_iff]
  constructor
  · rintro ⟨bytes, hbytes, htext⟩
    rw [stringOf?_eq_some_iff] at htext
    have hnone : ∀ x ∈ ([] : List UInt8), ¬ x.IsUTF8FirstByte := by simp
    obtain ⟨rest, rfl, hrest⟩ := spells_of_textBytes? hnone (htext ▸ hbytes)
    exact hrest
  · intro h
    exact ⟨_, textBytes?_of_spells h, stringOf?_eq_some_iff.mpr rfl⟩

@[simp] theorem spelledText?_plain (text : String) : spelledText? (plain text) = some text :=
  spelledText?_eq_some_iff.mpr (spells_plain text)

end GatewayProbe.Json
