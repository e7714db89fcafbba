import GatewayProbe.Text.Utf8
import Mathlib.Data.List.Infix

/-!
# Texts and their bytes

A character is told by its first byte and what follows it, and only the first byte of a
character can be such a first byte. So the bytes of a text tell the text, a text is a part of
another one exactly when its bytes are a part of the other's bytes, and strict reading gives
back the text whose bytes are read, where there is one.
-/

namespace GatewayProbe.Text

@[simp] theorem encode_nil : encode [] = [] := rfl

@[simp] theorem encode_cons (c : Char) (s : List Char) :
    encode (c :: s) = String.utf8EncodeChar c ++ encode s := rfl

/-- Texts are encoded one after the other. -/
@[simp] theorem encode_append (s t : List Char) : encode (s ++ t) = encode s ++ encode t :=
  List.flatMap_append

/-! ### What the bytes of a text tell -/

/-- The bytes of a character tell which one it is and where it ends. -/
theorem utf8EncodeChar_append_inj {c d : Char} {rest more : List UInt8}
    (h : String.utf8EncodeChar c ++ rest = String.utf8EncodeChar d ++ more) :
    c = d ∧ rest = more := by
  have hread (c : Char) (rest : List UInt8) :
      (String.utf8EncodeChar c ++ rest).toByteArray.utf8DecodeChar? 0 = some c := by
    rw [List.toByteArray_append]
    exact ByteArray.utf8DecodeChar?_utf8EncodeChar_append
  have hchar : c = d := by
    have hfirst := hread c rest
    rw [h, hread d more] at hfirst
    exact (Option.some.inj hfirst).symm
  subst hchar
  exact ⟨rfl, List.append_cancel_left h⟩

/-- A text begins with another one exactly when its bytes do. -/
theorem encode_prefix_iff {start text : List Char} :
    encode start <+: encode text ↔ start <+: text := by
  constructor
  · rintro ⟨rest, hrest⟩
    induction start generalizing text with
    | nil => exact List.nil_prefix
    | cons c start ih =>
      cases text with
      | nil => simp at hrest
      | cons d text =>
        rw [encode_cons, encode_cons, List.append_assoc] at hrest
        obtain ⟨rfl, htail⟩ := utf8EncodeChar_append_inj hrest
        exact (List.prefix_cons_inj c).mpr (ih htail)
  · rintro ⟨rest, rfl⟩
    exact ⟨encode rest, (encode_append start rest).symm⟩

/-- Different texts have different bytes. -/
theorem encode_injective : Function.Injective encode := by
  intro s t h
  have hst : s <+: t := encode_prefix_iff.mp (h ▸ List.prefix_rfl)
  have hts : t <+: s := encode_prefix_iff.mp (h ▸ List.prefix_rfl)
  exact hst.eq_of_length_le hts.length_le

/-- The first byte of a text is the first one of a character. -/
theorem isUTF8FirstByte_of_encode_eq_cons {s : List Char} {b : UInt8} {rest : List UInt8}
    (h : encode s = b :: rest) : b.IsUTF8FirstByte := by
  cases s with
  | nil => simp at h
  | cons c s =>
    have hfirst := @UInt8.isUTF8FirstByte_getElem_zero_utf8EncodeChar c
    cases hbytes : String.utf8EncodeChar c with
    | nil => exact absurd hbytes String.utf8EncodeChar_ne_nil
    | cons a more =>
      simp only [encode_cons, hbytes, List.cons_append, List.cons.injEq] at h
      simpa [hbytes, h.1] using hfirst

/-- The bytes after the first one of a character are no first bytes. -/
theorem not_isUTF8FirstByte_of_utf8EncodeChar_eq {c : Char} {front rest : List UInt8} {b : UInt8}
    (h : String.utf8EncodeChar c = front ++ b :: rest) (hfront : front ≠ []) :
    ¬ b.IsUTF8FirstByte := by
  have hat : front.length < (String.utf8EncodeChar c).length := by simp [h]
  have hbyte : (String.utf8EncodeChar c)[front.length] = b := by simp [h]
  rw [← hbyte, UInt8.isUTF8FirstByte_getElem_utf8EncodeChar]
  simpa using hfront

/-- The bytes of a text are a part of the bytes of another one exactly when the text is a part of
the other: they cannot begin inside of a character. -/
theorem encode_infix_iff {part text : List Char} :
    encode part <:+: encode text ↔ part <:+: text := by
  constructor
  · intro h
    cases part with
    | nil => exact List.nil_infix
    | cons p part =>
      induction text with
      | nil => simp at h
      | cons c text ih =>
        obtain ⟨front, rest, hparts⟩ := h
        rw [encode_cons c, List.append_assoc] at hparts
        rcases List.append_eq_append_iff.mp hparts with ⟨mid, hchar, hmid⟩ | ⟨mid, hfront, hmid⟩
        · cases mid with
          | nil =>
            exact (ih ⟨[], rest, by simpa using hmid⟩).trans (List.suffix_cons c text).isInfix
          | cons b mid =>
            -- The part begins with this byte, which is no first byte inside of a character.
            have hfirst : b.IsUTF8FirstByte := by
              cases hbytes : encode (p :: part) with
              | nil =>
                exact absurd (List.append_eq_nil_iff.mp hbytes).1 String.utf8EncodeChar_ne_nil
              | cons a more =>
                rw [hbytes, List.cons_append, List.cons_append, List.cons.injEq] at hmid
                exact hmid.1 ▸ isUTF8FirstByte_of_encode_eq_cons hbytes
            have hnil : front = [] :=
              Decidable.byContradiction fun hne =>
                not_isUTF8FirstByte_of_utf8EncodeChar_eq hchar hne hfirst
            subst hnil
            refine List.IsPrefix.isInfix (encode_prefix_iff.mp ⟨rest, ?_⟩)
            rw [encode_cons c, ← hparts, List.nil_append]
        · exact (ih ⟨mid, rest, by rw [List.append_assoc, hmid]⟩).trans
            (List.suffix_cons c text).isInfix
  · rintro ⟨front, rest, rfl⟩
    exact ⟨encode front, encode rest, by simp⟩

/-! ### Reading one character -/

/-- All characters lie below the end of Unicode. -/
theorem toNat_lt (c : Char) : c.toNat < 0x110000 := by
  have hvalid : c.toNat < 0xD800 ∨ 0xDFFF < c.toNat ∧ c.toNat < 0x110000 := c.valid
  omega

/-- The byte of a character of ASCII. -/
theorem utf8EncodeChar_one {c : Char} (h : c.toNat < 0x80) :
    String.utf8EncodeChar c = [UInt8.ofNat c.toNat] := by
  have hval : c.val.toNat = c.toNat := rfl
  rw [String.utf8EncodeChar, hval, if_pos (by omega)]

/-- The bytes of a character with a number of up to eleven bits. -/
theorem utf8EncodeChar_two {c : Char} (h : 0x80 ≤ c.toNat) (hlt : c.toNat < 0x800) :
    String.utf8EncodeChar c =
      [UInt8.ofNat (c.toNat / 64 + 0xC0), UInt8.ofNat (c.toNat % 64 + 0x80)] := by
  have hval : c.val.toNat = c.toNat := rfl
  have hmod : c.toNat / 64 % 32 = c.toNat / 64 := Nat.mod_eq_of_lt (by omega)
  simp only [String.utf8EncodeChar, hval, hmod]
  rw [if_neg (by omega), if_pos (by omega)]

/-- The bytes of a character with a number of up to sixteen bits. -/
theorem utf8EncodeChar_three {c : Char} (h : 0x800 ≤ c.toNat) (hlt : c.toNat < 0x10000) :
    String.utf8EncodeChar c =
      [UInt8.ofNat (c.toNat / 4096 + 0xE0), UInt8.ofNat (c.toNat / 64 % 64 + 0x80),
        UInt8.ofNat (c.toNat % 64 + 0x80)] := by
  have hval : c.val.toNat = c.toNat := rfl
  have hmod : c.toNat / 4096 % 16 = c.toNat / 4096 := Nat.mod_eq_of_lt (by omega)
  simp only [String.utf8EncodeChar, hval, hmod]
  rw [if_neg (by omega), if_neg (by omega), if_pos (by omega)]

/-- The bytes of any other character. -/
theorem utf8EncodeChar_four {c : Char} (h : 0x10000 ≤ c.toNat) :
    String.utf8EncodeChar c =
      [UInt8.ofNat (c.toNat / 262144 + 0xF0), UInt8.ofNat (c.toNat / 4096 % 64 + 0x80),
        UInt8.ofNat (c.toNat / 64 % 64 + 0x80), UInt8.ofNat (c.toNat % 64 + 0x80)] := by
  have hval : c.val.toNat = c.toNat := rfl
  have hlt := toNat_lt c
  have hmod : c.toNat / 262144 % 8 = c.toNat / 262144 := Nat.mod_eq_of_lt (by omega)
  simp only [String.utf8EncodeChar, hval, hmod]
  rw [if_neg (by omega), if_neg (by omega), if_neg (by omega)]

/-- The least byte that may come second after a first byte. -/
def leastSecond (b : UInt8) : UInt8 :=
  if b = 0xE0 then 0xA0 else if b = 0xF0 then 0x90 else 0x80

/-- The greatest byte that may come second after a first byte. -/
def greatestSecond (b : UInt8) : UInt8 :=
  if b = 0xED then 0x9F else if b = 0xF4 then 0x8F else 0xBF

/-- Reading by the range of the first byte. -/
theorem readChar_eq (b : UInt8) (rest : List UInt8) :
    readChar b rest =
      if b.toNat < 0x80 then (some (Char.ofNat b.toNat), 0)
      else if b.toNat < 0xC2 then (none, 0)
      else if b.toNat < 0xE0 then
        continued (b.toNat - 0xC0) (leastSecond b) (greatestSecond b) 0 rest
      else if b.toNat < 0xF0 then
        continued (b.toNat - 0xE0) (leastSecond b) (greatestSecond b) 1 rest
      else if b.toNat < 0xF5 then
        continued (b.toNat - 0xF0) (leastSecond b) (greatestSecond b) 2 rest
      else (none, 0) := by
  -- The four first bytes with a range of their own for the second byte come one by one.
  by_cases hE0 : b = 0xE0
  · subst hE0; rfl
  by_cases hED : b = 0xED
  · subst hED; rfl
  by_cases hF0 : b = 0xF0
  · subst hF0; rfl
  by_cases hF4 : b = 0xF4
  · subst hF4; rfl
  have hF4' : b.toNat ≠ 0xF4 := fun h => hF4 (UInt8.toNat_inj.mp h)
  simp only [readChar, leastSecond, greatestSecond, hE0, hED, hF0, hF4, if_false,
    UInt8.lt_iff_toNat_lt, UInt8.reduceToNat]
  split_ifs <;> first | omega | rfl

/-- Whether a byte continues a character. -/
def IsFollower (b : UInt8) : Prop := 0x80 ≤ b ∧ b ≤ 0xBF

/-- Reading goes on under a condition, or ends with a fault. -/
theorem ite_fault_eq_some {p : Prop} [Decidable p] {r : Option Char × Nat} {n used : Nat}
    {c : Char} : (if p then r else (none, n)) = (some c, used) ↔ p ∧ r = (some c, used) := by
  by_cases hp : p <;> simp [hp]

private theorem continued_zero_eq_some {first used : Nat} {low high : UInt8} {rest : List UInt8}
    {c : Char} :
    continued first low high 0 rest = (some c, used) ↔
      ∃ x more, rest = x :: more ∧ (low ≤ x ∧ x ≤ high) ∧
        Char.ofNat (first * 64 + lowBits x) = c ∧ 1 = used := by
  cases rest <;> simp [continued, within, ite_fault_eq_some]

private theorem continued_one_eq_some {first used : Nat} {low high : UInt8} {rest : List UInt8}
    {c : Char} :
    continued first low high 1 rest = (some c, used) ↔
      ∃ x y more, rest = x :: y :: more ∧ (low ≤ x ∧ x ≤ high) ∧ IsFollower y ∧
        Char.ofNat ((first * 64 + lowBits x) * 64 + lowBits y) = c ∧ 2 = used := by
  match rest with
  | [] | [_] | _ :: _ :: _ => simp [continued, within, ite_fault_eq_some, IsFollower]

private theorem continued_two_eq_some {first used : Nat} {low high : UInt8} {rest : List UInt8}
    {c : Char} :
    continued first low high 2 rest = (some c, used) ↔
      ∃ x y z more, rest = x :: y :: z :: more ∧ (low ≤ x ∧ x ≤ high) ∧ IsFollower y ∧
        IsFollower z ∧
        Char.ofNat (((first * 64 + lowBits x) * 64 + lowBits y) * 64 + lowBits z) = c ∧
        3 = used := by
  match rest with
  | [] | [_] | [_, _] | _ :: _ :: _ :: _ =>
    simp [continued, within, ite_fault_eq_some, IsFollower]

private theorem isFollower_iff {b : UInt8} :
    IsFollower b ↔ 0x80 ≤ b.toNat ∧ b.toNat ≤ 0xBF := Iff.rfl

/-- The range of the second byte is that of all later ones, but for four first bytes. -/
theorem second_iff {b x : UInt8} :
    leastSecond b ≤ x ∧ x ≤ greatestSecond b ↔
      IsFollower x ∧ (b.toNat = 0xE0 → 0xA0 ≤ x.toNat) ∧ (b.toNat = 0xF0 → 0x90 ≤ x.toNat) ∧
        (b.toNat = 0xED → x.toNat ≤ 0x9F) ∧ (b.toNat = 0xF4 → x.toNat ≤ 0x8F) := by
  simp only [leastSecond, greatestSecond, isFollower_iff, ← UInt8.toNat_inj, UInt8.reduceToNat,
    UInt8.le_iff_toNat_le]
  split_ifs <;> simp only [UInt8.reduceToNat] <;> omega

/-- The number of a character that is made of a number. -/
theorem toNat_charOfNat {v : Nat} (h : v < 0xD800 ∨ 0xDFFF < v ∧ v < 0x110000) :
    (Char.ofNat v).toNat = v := by
  rw [Char.ofNat, dif_pos h]
  rfl

/-- A byte is told by its number. -/
theorem byteOfNat_eq {n : Nat} {b : UInt8} (h : n = b.toNat) : UInt8.ofNat n = b := by
  rw [h, UInt8.ofNat_toNat]

/-- Reading takes bytes that are those of the character that is read. -/
theorem utf8EncodeChar_of_readChar {b : UInt8} {rest : List UInt8} {c : Char} {used : Nat}
    (h : readChar b rest = (some c, used)) :
    String.utf8EncodeChar c = b :: rest.take used := by
  rw [readChar_eq] at h
  split_ifs at h with h₁ h₂ h₃ h₄ h₅
  · simp only [Prod.mk.injEq, Option.some.injEq] at h
    obtain ⟨rfl, rfl⟩ := h
    have hv := toNat_charOfNat (v := b.toNat) (by omega)
    rw [utf8EncodeChar_one (by omega), hv, UInt8.ofNat_toNat, List.take_zero]
  · simp at h
  · obtain ⟨x, more, rfl, hx, rfl, rfl⟩ := continued_zero_eq_some.mp h
    simp only [second_iff, isFollower_iff] at hx
    simp only [lowBits]
    have hv := toNat_charOfNat (v := (b.toNat - 0xC0) * 64 + x.toNat % 64) (by omega)
    rw [utf8EncodeChar_two (by omega) (by omega), hv, byteOfNat_eq (b := b) (by omega),
      byteOfNat_eq (b := x) (by omega)]
    rfl
  · obtain ⟨x, y, more, rfl, hx, hy, rfl, rfl⟩ := continued_one_eq_some.mp h
    simp only [second_iff, isFollower_iff] at hx hy
    simp only [lowBits]
    have hv := toNat_charOfNat
      (v := ((b.toNat - 0xE0) * 64 + x.toNat % 64) * 64 + y.toNat % 64) (by omega)
    rw [utf8EncodeChar_three (by omega) (by omega), hv, byteOfNat_eq (b := b) (by omega),
      byteOfNat_eq (b := x) (by omega), byteOfNat_eq (b := y) (by omega)]
    rfl
  · obtain ⟨x, y, z, more, rfl, hx, hy, hz, rfl, rfl⟩ := continued_two_eq_some.mp h
    simp only [second_iff, isFollower_iff] at hx hy hz
    simp only [lowBits]
    have hv := toNat_charOfNat
      (v := (((b.toNat - 0xF0) * 64 + x.toNat % 64) * 64 + y.toNat % 64) * 64 + z.toNat % 64)
      (by omega)
    rw [utf8EncodeChar_four (by omega), hv, byteOfNat_eq (b := b) (by omega),
      byteOfNat_eq (b := x) (by omega), byteOfNat_eq (b := y) (by omega),
      byteOfNat_eq (b := z) (by omega)]
    rfl
  · simp at h

/-- Reading takes the character whose bytes stand in front. -/
theorem readChar_of_utf8EncodeChar {c : Char} {b : UInt8} {more : List UInt8}
    (h : String.utf8EncodeChar c = b :: more) (rest : List UInt8) :
    readChar b (more ++ rest) = (some c, more.length) := by
  have hvalid : c.toNat < 0xD800 ∨ 0xDFFF < c.toNat ∧ c.toNat < 0x110000 := c.valid
  have hmade {v : Nat} (hv : v = c.toNat) : Char.ofNat v = c := by rw [hv, Char.ofNat_toNat]
  have hlow : (UInt8.ofNat (c.toNat % 64 + 0x80)).toNat = c.toNat % 64 + 0x80 :=
    UInt8.toNat_ofNat_of_lt' (show _ < 256 by omega)
  have hmid : (UInt8.ofNat (c.toNat / 64 % 64 + 0x80)).toNat = c.toNat / 64 % 64 + 0x80 :=
    UInt8.toNat_ofNat_of_lt' (show _ < 256 by omega)
  rw [readChar_eq]
  by_cases h₁ : c.toNat < 0x80
  · obtain ⟨rfl, rfl⟩ := List.cons.inj (h.symm.trans (utf8EncodeChar_one h₁))
    have hb : (UInt8.ofNat c.toNat).toNat = c.toNat :=
      UInt8.toNat_ofNat_of_lt' (show _ < 256 by omega)
    rw [if_pos (by omega), hmade hb]
    rfl
  by_cases h₂ : c.toNat < 0x800
  · obtain ⟨rfl, rfl⟩ := List.cons.inj (h.symm.trans (utf8EncodeChar_two (by omega) h₂))
    have hb : (UInt8.ofNat (c.toNat / 64 + 0xC0)).toNat = c.toNat / 64 + 0xC0 :=
      UInt8.toNat_ofNat_of_lt' (show _ < 256 by omega)
    rw [if_neg (by omega), if_neg (by omega), if_pos (by omega)]
    refine continued_zero_eq_some.mpr ⟨_, _, rfl, second_iff.mpr ?_, hmade ?_, rfl⟩
    · rw [isFollower_iff]
      omega
    · rw [lowBits]
      omega
  by_cases h₃ : c.toNat < 0x10000
  · obtain ⟨rfl, rfl⟩ := List.cons.inj (h.symm.trans (utf8EncodeChar_three (by omega) h₃))
    have hb : (UInt8.ofNat (c.toNat / 4096 + 0xE0)).toNat = c.toNat / 4096 + 0xE0 :=
      UInt8.toNat_ofNat_of_lt' (show _ < 256 by omega)
    rw [if_neg (by omega), if_neg (by omega), if_neg (by omega), if_pos (by omega)]
    refine continued_one_eq_some.mpr
      ⟨_, _, _, rfl, second_iff.mpr ?_, isFollower_iff.mpr ?_, hmade ?_, rfl⟩
    · rw [isFollower_iff]
      omega
    · omega
    · simp only [lowBits]
      omega
  · obtain ⟨rfl, rfl⟩ := List.cons.inj (h.symm.trans (utf8EncodeChar_four (by omega)))
    have hb : (UInt8.ofNat (c.toNat / 262144 + 0xF0)).toNat = c.toNat / 262144 + 0xF0 :=
      UInt8.toNat_ofNat_of_lt' (show _ < 256 by omega)
    have hsecond : (UInt8.ofNat (c.toNat / 4096 % 64 + 0x80)).toNat = c.toNat / 4096 % 64 + 0x80 :=
      UInt8.toNat_ofNat_of_lt' (show _ < 256 by omega)
    rw [if_neg (by omega), if_neg (by omega), if_neg (by omega), if_neg (by omega),
      if_pos (by omega)]
    refine continued_two_eq_some.mpr
      ⟨_, _, _, _, rfl, second_iff.mpr ?_, isFollower_iff.mpr ?_, isFollower_iff.mpr ?_, hmade ?_,
        rfl⟩
    · rw [isFollower_iff]
      omega
    · omega
    · omega
    · simp only [lowBits]
      omega

/-! ### Reading a text -/

private theorem readCharsOnto_cons (seen : List (Option Char)) (b : UInt8) (rest : List UInt8) :
    readCharsOnto seen (b :: rest) =
      readCharsOnto ((readChar b rest).1 :: seen) (rest.drop (readChar b rest).2) := by
  rw [readCharsOnto]

/-- What has been read stays behind what is read. -/
theorem readCharsOnto_append (seen done : List (Option Char)) (bytes : List UInt8) :
    readCharsOnto (seen ++ done) bytes = readCharsOnto seen bytes ++ done := by
  fun_induction readCharsOnto seen bytes with
  | case1 seen => rw [readCharsOnto]
  | case2 seen b rest c used hread ih =>
    rw [readCharsOnto_cons, hread]
    exact ih

@[simp] theorem readChars_nil : readChars [] = [] := by
  rw [readChars, readCharsOnto, List.reverse_nil]

private theorem readChars_cons (b : UInt8) (rest : List UInt8) :
    readChars (b :: rest) =
      (readChar b rest).1 :: readChars (rest.drop (readChar b rest).2) := by
  rw [readChars, readCharsOnto_cons, ← List.nil_append [(readChar b rest).1],
    readCharsOnto_append, List.reverse_append, readChars]
  rfl

@[simp] theorem decodeStrict_nil : decodeStrict [] = some [] := by
  rw [decodeStrict, readChars_nil, List.mapM_nil]
  rfl

private theorem decodeStrict_cons (b : UInt8) (rest : List UInt8) :
    decodeStrict (b :: rest) =
      (readChar b rest).1.bind fun c =>
        (decodeStrict (rest.drop (readChar b rest).2)).map (c :: ·) := by
  rw [decodeStrict, readChars_cons, List.mapM_cons, decodeStrict]
  cases (readChar b rest).1 with
  | none => rfl
  | some c => cases List.mapM id (readChars (rest.drop (readChar b rest).2)) <;> rfl

/-- Strict reading gives a text exactly when the bytes are those of the text. -/
theorem decodeStrict_eq_some_iff {bytes : List UInt8} {s : List Char} :
    decodeStrict bytes = some s ↔ encode s = bytes := by
  constructor
  · intro h
    induction hlength : bytes.length using Nat.strong_induction_on generalizing bytes s with
    | _ n ih =>
      cases bytes with
      | nil =>
        rw [decodeStrict_nil, Option.some.injEq] at h
        rw [← h, encode_nil]
      | cons b rest =>
        rw [decodeStrict_cons] at h
        obtain ⟨c, hc, h⟩ := Option.bind_eq_some_iff.mp h
        obtain ⟨t, ht, rfl⟩ := Option.map_eq_some_iff.mp h
        have hchar : String.utf8EncodeChar c = b :: rest.take (readChar b rest).2 :=
          utf8EncodeChar_of_readChar (Prod.ext hc rfl)
        have hrest : encode t = rest.drop (readChar b rest).2 := by
          refine ih _ ?_ ht rfl
          rw [← hlength, List.length_drop, List.length_cons]
          omega
        rw [encode_cons, hchar, hrest, List.cons_append, List.take_append_drop]
  · rintro rfl
    induction s with
    | nil => exact decodeStrict_nil
    | cons c s ih =>
      cases hbytes : String.utf8EncodeChar c with
      | nil => exact absurd hbytes String.utf8EncodeChar_ne_nil
      | cons b more =>
        rw [encode_cons, hbytes, List.cons_append, decodeStrict_cons,
          readChar_of_utf8EncodeChar hbytes, List.drop_left, ih]
        rfl

/-- The string of bytes is there exactly when they are its bytes. -/
theorem stringOf?_eq_some_iff {bytes : List UInt8} {s : String} :
    stringOf? bytes = some s ↔ bytesOf s = bytes := by
  rw [stringOf?, Option.map_eq_some_iff, bytesOf]
  constructor
  · rintro ⟨chars, hchars, rfl⟩
    rw [String.toList_ofList]
    exact decodeStrict_eq_some_iff.mp hchars
  · intro h
    exact ⟨s.toList, decodeStrict_eq_some_iff.mpr h, String.ofList_toList⟩

end GatewayProbe.Text
