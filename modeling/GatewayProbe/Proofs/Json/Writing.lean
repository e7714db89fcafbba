import GatewayProbe.Json.Document
import GatewayProbe.Proofs.Json.Fields

/-!
# Documents are written as JSON

A text is written in one of its spellings: a control character is given by a short escape or by its
number, a quote and a backslash by a short escape, and every other character by its bytes. So a
document of texts, counts, lists and records is a written form of a value, and of one only.
-/

namespace GatewayProbe.Json

open GatewayProbe.Text

/-! ### Texts -/

/-- Pieces are written one after the other. -/
theorem PiecesWritten.append {ps qs : List Piece} {text rest : List UInt8}
    (hp : PiecesWritten ps text) (hq : PiecesWritten qs rest) :
    PiecesWritten (ps ++ qs) (text ++ rest) := by
  induction hp with
  | nil => exact hq
  | cons hp _ ih =>
    rw [List.cons_append, List.append_assoc]
    exact .cons hp ih

/-- Bytes that stand for themselves. -/
theorem piecesWritten_plain {bytes : List UInt8}
    (h : ∀ b ∈ bytes, ¬ b < 0x20 ∧ b ≠ 0x22 ∧ b ≠ 0x5C) :
    PiecesWritten (bytes.map .byte) bytes := by
  induction bytes with
  | nil => exact .nil
  | cons b bytes ih =>
    obtain ⟨⟨hlow, hquote, hslash⟩, hbytes⟩ := List.forall_mem_cons.mp h
    exact .cons (.plain hlow hquote hslash) (ih hbytes)

/-- A character that is written as itself. -/
def IsUnescaped (c : Char) : Prop := 0x20 ≤ c.toNat ∧ c ≠ '"' ∧ c ≠ '\\'

/-- The pieces in which a character is written. -/
def writtenPieces (c : Char) : List Piece :=
  if c.toNat < 0x20 ∧ c ∉ ['\n', '\r', '\t', Char.ofNat 8, Char.ofNat 12] then
    [.codeUnit c.toNat]
  else (String.utf8EncodeChar c).map .byte

/-- The spelling in which a text is written. -/
def writtenSpelling (s : String) : List Piece := s.toList.flatMap writtenPieces

/-- What is written for a character spells it. -/
theorem spells_writtenPieces (c : Char) {ps : List Piece} {s : List Char} (h : Spells ps s) :
    Spells (writtenPieces c ++ ps) (c :: s) := by
  unfold writtenPieces
  split
  · rename_i hcontrol
    have hc := Spells.codeUnit (n := c.toNat) (by omega) h
    rwa [Char.ofNat_toNat] at hc
  · exact .bytes c h

/-- A string is written in pieces that spell it. -/
theorem spells_writtenSpelling (s : String) : Spells (writtenSpelling s) s.toList := by
  rw [writtenSpelling]
  induction s.toList with
  | nil => exact .nil
  | cons c s ih => exact spells_writtenPieces c ih

/-- The bytes of an unescaped character stand for themselves. -/
theorem IsUnescaped.plain {c : Char} (h : IsUnescaped c) :
    ∀ b ∈ String.utf8EncodeChar c, ¬ b < 0x20 ∧ b ≠ 0x22 ∧ b ≠ 0x5C := by
  obtain ⟨hlow, hquote, hslash⟩ := h
  have hquote' : c.toNat ≠ 0x22 := fun heq => hquote (Char.toNat_inj.mp heq)
  have hslash' : c.toNat ≠ 0x5C := fun heq => hslash (Char.toNat_inj.mp heq)
  have hlt := toNat_lt c
  have hbyte {n : Nat} (hn : n < 0x100) (hlow : 0x20 ≤ n) (hquote : n ≠ 0x22) (hslash : n ≠ 0x5C) :
      ¬ UInt8.ofNat n < 0x20 ∧ UInt8.ofNat n ≠ 0x22 ∧ UInt8.ofNat n ≠ 0x5C := by
    have hnat : (UInt8.ofNat n).toNat = n := UInt8.toNat_ofNat_of_lt' hn
    simp only [ne_eq, ← UInt8.toNat_inj, UInt8.lt_iff_toNat_lt, hnat, UInt8.reduceToNat]
    omega
  by_cases h₁ : c.toNat < 0x80
  · simpa [utf8EncodeChar_one h₁] using hbyte (by omega) hlow hquote' hslash'
  -- No byte of a longer character is one of ASCII.
  have hlarge {n : Nat} (hn : n < 0x100) (hlow : 0x80 ≤ n) :=
    hbyte hn (by omega) (by omega) (by omega)
  by_cases h₂ : c.toNat < 0x800
  · rw [utf8EncodeChar_two (by omega) h₂]
    simp only [List.forall_mem_cons]
    exact ⟨hlarge (by omega) (by omega), hlarge (by omega) (by omega), nofun⟩
  by_cases h₃ : c.toNat < 0x10000
  · rw [utf8EncodeChar_three (by omega) h₃]
    simp only [List.forall_mem_cons]
    exact ⟨hlarge (by omega) (by omega), hlarge (by omega) (by omega),
      hlarge (by omega) (by omega), nofun⟩
  · rw [utf8EncodeChar_four (by omega)]
    simp only [List.forall_mem_cons]
    exact ⟨hlarge (by omega) (by omega), hlarge (by omega) (by omega),
      hlarge (by omega) (by omega), hlarge (by omega) (by omega), nofun⟩

private theorem piecesWritten_short {e b : UInt8} (h : shortEscape? e = some b) :
    PiecesWritten [.byte b] [0x5C, e] := .cons (.short h) .nil

/-- The byte of a hexadecimal digit. -/
def hexByte (n : Nat) : UInt8 := UInt8.ofNat (hexDigit n).toNat

/-- A control character is given by its number. -/
theorem piecesWritten_codeUnit {n : Nat} (h : n < 0x20) :
    PiecesWritten [.codeUnit n]
      (encode ['\\', 'u', '0', '0', hexDigit (n / 16), hexDigit (n % 16)]) := by
  have hdigits : ∀ n < 0x20,
      codeUnit? 0x30 0x30 (hexByte (n / 16)) (hexByte (n % 16)) = some n ∧
      encode ['\\', 'u', '0', '0', hexDigit (n / 16), hexDigit (n % 16)] =
        [0x5C, 0x75, 0x30, 0x30, hexByte (n / 16), hexByte (n % 16)] := by
    decide
  obtain ⟨hunit, hbytes⟩ := hdigits n h
  rw [hbytes]
  exact .cons (.codeUnit hunit) .nil

/-- A character is written in its pieces. -/
theorem piecesWritten_escaped (c : Char) :
    PiecesWritten (writtenPieces c) (encode (escaped c)) := by
  unfold escaped
  split_ifs with hquote hslash hline hreturn htab hback hfeed hcontrol
  · subst hquote
    exact piecesWritten_short (e := 0x22) rfl
  · subst hslash
    exact piecesWritten_short (e := 0x5C) rfl
  · subst hline
    exact piecesWritten_short (e := 0x6E) rfl
  · subst hreturn
    exact piecesWritten_short (e := 0x72) rfl
  · subst htab
    exact piecesWritten_short (e := 0x74) rfl
  · obtain rfl : c = Char.ofNat 8 := Char.toNat_inj.mp hback
    exact piecesWritten_short (e := 0x62) rfl
  · obtain rfl : c = Char.ofNat 12 := Char.toNat_inj.mp hfeed
    exact piecesWritten_short (e := 0x66) rfl
  · have hpieces : writtenPieces c = [.codeUnit c.toNat] := by
      refine if_pos ⟨hcontrol, ?_⟩
      simp only [List.mem_cons, List.not_mem_nil, or_false, not_or]
      exact ⟨hline, hreturn, htab, fun heq => hback (heq ▸ rfl), fun heq => hfeed (heq ▸ rfl)⟩
    rw [hpieces]
    exact piecesWritten_codeUnit hcontrol
  · have hpieces : writtenPieces c = (String.utf8EncodeChar c).map .byte :=
      if_neg fun h => hcontrol h.1
    rw [hpieces, encode_cons, encode_nil, List.append_nil]
    exact piecesWritten_plain (IsUnescaped.plain ⟨Nat.not_lt.mp hcontrol, hquote, hslash⟩)

private theorem piecesWritten_flatMap (s : List Char) :
    PiecesWritten (s.flatMap writtenPieces) (encode (s.flatMap escaped)) := by
  induction s with
  | nil => exact .nil
  | cons c s ih =>
    rw [List.flatMap_cons, List.flatMap_cons, encode_append]
    exact (piecesWritten_escaped c).append ih

/-- A text between quotes is a string in the spelling of the text. -/
theorem written_quoted (s : String) :
    (Token.string (writtenSpelling s)).Written (encode (quoted s)) := by
  have hquote : encode ['"'] = [0x22] := rfl
  rw [quoted, encode_append, encode_cons, hquote]
  exact .string (piecesWritten_flatMap s.toList)

/-- A text without control characters is spelled by its own bytes. -/
theorem writtenSpelling_eq_plain {s : String} (h : ∀ c ∈ s.toList, 0x20 ≤ c.toNat) :
    writtenSpelling s = plain s := by
  have hpieces {c : Char} (hc : 0x20 ≤ c.toNat) :
      writtenPieces c = (String.utf8EncodeChar c).map .byte := if_neg fun hcontrol => by omega
  rw [writtenSpelling, plain, bytesOf]
  generalize s.toList = chars at h ⊢
  induction chars with
  | nil => rfl
  | cons c chars ih =>
    obtain ⟨hc, hs⟩ := List.forall_mem_cons.mp h
    rw [List.flatMap_cons, ih hs, hpieces hc, encode_cons, List.map_append]

/-! ### Documents -/

/-- Tokens are written one after the other. -/
theorem Spaced.append {tokens more : List Token} {bytes rest : List UInt8}
    (h : Spaced tokens bytes) (hmore : Spaced more rest) :
    Spaced (tokens ++ more) (bytes ++ rest) := by
  induction h with
  | nil => exact hmore
  | blank hb _ ih => exact .blank hb ih
  | token ht _ ih =>
    rw [List.append_assoc]
    exact .token ht ih

/-- One token and nothing else. -/
theorem spaced_singleton {t : Token} {text : List UInt8} (h : t.Written text) :
    Spaced [t] text := by
  simpa using Spaced.token h .nil

/-- A token that is one character. -/
theorem Spaced.punctuation {t : Token} {tokens : List Token} {c : Char} {s : List Char}
    (ht : ∃ b, punctuation? b = some t ∧ String.utf8EncodeChar c = [b])
    (h : Spaced tokens (encode s)) : Spaced (t :: tokens) (encode (c :: s)) := by
  obtain ⟨b, hb, hc⟩ := ht
  rw [encode_cons, hc]
  exact .token (.punctuation hb) h

private theorem spaced_comma {tokens : List Token} {s : List Char} (h : Spaced tokens (encode s)) :
    Spaced (.comma :: tokens) (encode (',' :: s)) := .punctuation ⟨0x2C, rfl, rfl⟩ h

/-- Parts that are written one by one are written with a comma before each. -/
theorem spaced_withCommasBefore {α β : Type} {f : α → List Token} {write : β → List Char}
    {parts : List α} {written : List β}
    (h : List.Forall₂ (fun b a => Spaced (f a) (encode (write b))) written parts) :
    Spaced (withCommasBefore f parts) (encode (written.flatMap fun b => ',' :: write b)) := by
  induction h with
  | nil => exact .nil
  | cons hab _ ih =>
    rw [withCommasBefore_cons, List.flatMap_cons, List.cons_append]
    exact spaced_comma (encode_append _ _ ▸ hab.append ih)

private theorem lineItems_cons (d : Document) (items : List Document) :
    lineItems (d :: items) = d.line ++ items.flatMap fun e => ',' :: e.line := by
  induction items generalizing d with
  | nil => simp [lineItems]
  | cons e items ih => rw [lineItems, ih, List.flatMap_cons, List.cons_append]

/-- A member of a record on one line. -/
def memberLine (m : String × Document) : List Char := quoted m.1 ++ ':' :: m.2.line

/-- A document is written as a value. -/
def Document.Writes (d : Document) (v : Value) : Prop := v.Written (encode d.line)

/-- A member is written as its name and its value with a colon between them. -/
theorem spaced_member {m : List Piece × Value} {n : String × Document}
    (h : m.1 = writtenSpelling n.1 ∧ n.2.Writes m.2) :
    Spaced (memberTokens m) (encode (memberLine n)) := by
  rw [memberTokens, memberLine, h.1, encode_append]
  exact .token (written_quoted n.1) (.punctuation ⟨0x3A, rfl, rfl⟩ h.2.2)

private theorem lineMembers_cons (m : String × Document) (members : List (String × Document)) :
    lineMembers (m :: members) = memberLine m ++ members.flatMap fun n => ',' :: memberLine n := by
  induction members generalizing m with
  | nil => simp [lineMembers, memberLine]
  | cons n members ih => simp [lineMembers, memberLine, ih]

/-- A text is written as a string that spells it. -/
theorem writes_text (s : String) :
    (Document.text s).Writes (.string (writtenSpelling s)) := by
  refine ⟨.string _, ?_⟩
  simpa [Value.tokens, Document.line, Document.scalar] using spaced_singleton (written_quoted s)

/-- A positive number is spelled without a zero in front. -/
theorem head?_toDigits {n : Nat} (h : 0 < n) : (Nat.toDigits 10 n).head? ≠ some '0' := by
  induction n using Nat.strong_induction_on with
  | _ n ih =>
    by_cases hlt : n < 10
    · have hdigit : ∀ d < 10, 0 < d → Nat.digitChar d ≠ '0' := by decide
      rw [Nat.toDigits_of_lt_base hlt]
      simpa using hdigit n hlt h
    · have hpos : 0 < n / 10 := by omega
      have hsplit :=
        Nat.toDigits_append_toDigits (by decide : 1 < 10) hpos (Nat.mod_lt n (by decide))
      rw [Nat.div_add_mod] at hsplit
      rw [← hsplit, List.head?_append_of_ne_nil _ Nat.toDigits_ne_nil]
      exact ih (n / 10) (by omega) hpos

private theorem isWhole_toDigits (n : Nat) : IsWhole (Nat.toDigits 10 n) := by
  obtain rfl | hpos := Nat.eq_zero_or_pos n
  · exact .inl rfl
  · exact .inr ⟨⟨Nat.toDigits_ne_nil, isDigit_of_mem_toDigits⟩, head?_toDigits hpos⟩

/-- The digits of a number spell a number. -/
theorem spellsNumber_toDigits (n : Nat) : SpellsNumber (Nat.toDigits 10 n) := by
  simpa using SpellsNumber.unsigned (IsUnsigned.mk (isWhole_toDigits n) .none .none)

/-- A digit is one byte, which can stand in a word. -/
theorem byte_of_isDigit {c : Char} (h : c.isDigit = true) :
    ∃ b, String.utf8EncodeChar c = [b] ∧ isWordByte b = true ∧ Char.ofNat b.toNat = c := by
  have hrange : 48 ≤ c.toNat ∧ c.toNat ≤ 57 := by
    simpa [Char.isDigit, UInt32.le_iff_toNat_le] using h
  have hnat : (UInt8.ofNat c.toNat).toNat = c.toNat :=
    UInt8.toNat_ofNat_of_lt' (show _ < 256 by omega)
  refine ⟨_, utf8EncodeChar_one (by omega), ?_, by rw [hnat, Char.ofNat_toNat]⟩
  simp only [isWordByte, Bool.or_eq_true, Bool.and_eq_true, decide_eq_true_eq,
    UInt8.le_iff_toNat_le, hnat, UInt8.reduceToNat]
  omega

/-- Digits are written as a word. -/
theorem written_digits {s : List Char} (h : IsDigits s) : (Token.word s).Written (encode s) := by
  have hword {s : List Char} (h : ∀ c ∈ s, c.isDigit = true) :
      (∀ b ∈ encode s, isWordByte b = true) ∧ (encode s).map (fun b => Char.ofNat b.toNat) = s := by
    induction s with
    | nil => exact ⟨nofun, rfl⟩
    | cons c s ih =>
      obtain ⟨hc, hs⟩ := List.forall_mem_cons.mp h
      obtain ⟨b, hbytes, hb, hchar⟩ := byte_of_isDigit hc
      obtain ⟨hall, hchars⟩ := ih hs
      rw [encode_cons, hbytes, List.singleton_append, List.map_cons, hchar, hchars]
      exact ⟨List.forall_mem_cons.mpr ⟨hb, hall⟩, rfl⟩
  obtain ⟨hne, hdigits⟩ := h
  obtain ⟨hall, hchars⟩ := hword hdigits
  cases hbytes : encode s with
  | nil => exact absurd (by simpa [hbytes] using hchars) (Ne.symm hne)
  | cons b rest =>
    rw [hbytes] at hall hchars
    obtain ⟨hb, hrest⟩ := List.forall_mem_cons.mp hall
    exact hchars ▸ .word hb hrest

/-- A count is written as its digits. -/
theorem writes_count (n : Nat) : (Document.count n).Writes (.number (Nat.toDigits 10 n)) :=
  ⟨.number (spellsNumber_toDigits n), by
    simpa [Value.tokens, Document.line, Document.scalar, decimalDigits] using
      spaced_singleton (written_digits (isWhole_toDigits n).isDigits)⟩

/-- Parts that are written one by one are written with a comma between two of them. -/
theorem spaced_parts {α β : Type} {f : α → List Token} {write : β → List Char} {a : α} {b : β}
    {parts : List α} {written : List β} (hfirst : Spaced (f a) (encode (write b)))
    (h : List.Forall₂ (fun b a => Spaced (f a) (encode (write b))) written parts)
    {t : Token} {close : Char}
    (hclose : ∃ b, punctuation? b = some t ∧ String.utf8EncodeChar close = [b]) :
    Spaced (f a ++ (withCommasBefore f parts ++ [t]))
      (encode (write b ++ written.flatMap (fun b => ',' :: write b) ++ [close])) := by
  rw [encode_append, encode_append, List.append_assoc]
  exact hfirst.append ((spaced_withCommasBefore h).append (.punctuation hclose .nil))

/-- A list is written as the list of what its items are written as. -/
theorem writes_list {items : List Document} {values : List Value}
    (h : List.Forall₂ Document.Writes items values) :
    (Document.list items).Writes (.list values) := by
  have hopen : ∃ b, punctuation? b = some .openList ∧ String.utf8EncodeChar '[' = [b] :=
    ⟨0x5B, rfl, rfl⟩
  have hclose : ∃ b, punctuation? b = some .closeList ∧ String.utf8EncodeChar ']' = [b] :=
    ⟨0x5D, rfl, rfl⟩
  cases h with
  | nil =>
    refine ⟨.list nofun, ?_⟩
    rw [Value.tokens, Document.line, lineItems]
    exact .punctuation hopen (.punctuation hclose .nil)
  | @cons d v items values hd hitems =>
    refine ⟨.list (List.forall_mem_cons.mpr ⟨hd.1, fun v hv => ?_⟩), ?_⟩
    · obtain ⟨d, -, hd⟩ := exists_of_mem_right hitems hv
      exact hd.1
    · rw [tokens_list_cons, Document.line, lineItems_cons]
      exact .punctuation hopen (spaced_parts hd.2 (hitems.imp fun _ _ h => h.2) hclose)

/-- A record is written as the record of what its members are written as. -/
theorem writes_record {members : List (String × Document)} {values : List (List Piece × Value)}
    (h : List.Forall₂ (fun n m => m.1 = writtenSpelling n.1 ∧ n.2.Writes m.2) members values) :
    (Document.record members).Writes (.record values) := by
  have hopen : ∃ b, punctuation? b = some .openRecord ∧ String.utf8EncodeChar '\x7b' = [b] :=
    ⟨0x7B, rfl, rfl⟩
  have hclose : ∃ b, punctuation? b = some .closeRecord ∧ String.utf8EncodeChar '\x7d' = [b] :=
    ⟨0x7D, rfl, rfl⟩
  cases h with
  | nil =>
    refine ⟨.record nofun, ?_⟩
    rw [Value.tokens, Document.line, lineMembers]
    exact .punctuation hopen (.punctuation hclose .nil)
  | @cons n m members values hn hmembers =>
    refine ⟨.record (List.forall_mem_cons.mpr ⟨hn.2.1, fun m hm => ?_⟩), ?_⟩
    · obtain ⟨n, -, hn⟩ := exists_of_mem_right hmembers hm
      exact hn.2.1
    · rw [tokens_record_cons, Document.line, lineMembers_cons]
      have hmore := hmembers.imp fun _ _ h => spaced_member h
      exact .punctuation hopen (spaced_parts (spaced_member hn) hmore hclose)

end GatewayProbe.Json
