import GatewayProbe.Proofs.Text.Joining
import GatewayProbe.Proofs.Text.Utf8
import GatewayProbe.Url.Address

/-!
# Texts as segments of a path

A text is one segment of a path when the characters that would end it or be read as something
else are encoded. What is encoded is read back: the bytes of the segment are those of the text.
A segment means a directory only when its bytes are one point or two points, and then the text
was just that.
-/

namespace GatewayProbe.Url

open GatewayProbe.Text

/-! ### Reading back what is encoded -/

/-- A hexadecimal digit has its value. -/
theorem hexValue_hexDigitUpper {n : Nat} (h : n < 16) : hexValue (hexDigitUpper n) = some n := by
  have hall : ∀ n < 16, hexValue (hexDigitUpper n) = some n := by decide
  exact hall n h

private theorem percentDecode_cons {c : Char} (h : c ≠ '%') (rest : List Char) :
    percentDecode (c :: rest) = String.utf8EncodeChar c ++ percentDecode rest := by
  rw [percentDecode.eq_def]
  split
  · simp_all
  · simp_all [encode]
  · simp_all

/-- The three characters that stand for a byte are read as that byte. -/
theorem percentDecode_percentByte (b : UInt8) (rest : List Char) :
    percentDecode (percentByte b ++ rest) = b :: percentDecode rest := by
  have hsize : b.toNat < 256 := b.toNat_lt
  have hhigh : hexValue (hexDigitUpper (b.toNat / 16)) = some (b.toNat / 16) :=
    hexValue_hexDigitUpper (by omega)
  have hlow : hexValue (hexDigitUpper (b.toNat % 16)) = some (b.toNat % 16) :=
    hexValue_hexDigitUpper (by omega)
  simp only [percentByte, List.cons_append, List.nil_append, percentDecode, hhigh, hlow,
    Nat.div_add_mod', UInt8.ofNat_toNat]

private theorem percentDecode_flatMap_percentByte (bytes : List UInt8) (rest : List Char) :
    percentDecode (bytes.flatMap percentByte ++ rest) = bytes ++ percentDecode rest := by
  induction bytes with
  | nil => rfl
  | cons b bytes ih =>
    rw [List.flatMap_cons, List.append_assoc, percentDecode_percentByte, ih, List.cons_append]

/-- A text is encoded character by character. -/
theorem percentEncode_cons (inSet : Char → Bool) (c : Char) (s : List Char) :
    percentEncode inSet (c :: s) =
      (if inSet c then (String.utf8EncodeChar c).flatMap percentByte else [c]) ++
        percentEncode inSet s := by
  simp [percentEncode]

/-- A text that is encoded, percent signs included, is read back as its bytes. -/
theorem percentDecode_percentEncode {inSet : Char → Bool} (hpercent : inSet '%' = true)
    (s : List Char) : percentDecode (percentEncode inSet s) = encode s := by
  induction s with
  | nil => rfl
  | cons c s ih =>
    rw [percentEncode_cons, encode_cons, ← ih]
    by_cases hset : inSet c = true
    · rw [if_pos hset, percentDecode_flatMap_percentByte]
    · have hne : c ≠ '%' := fun h => hset (h ▸ hpercent)
      rw [if_neg hset]
      exact percentDecode_cons hne _

/-- Different texts are different when they are encoded. -/
theorem percentEncode_injective {inSet : Char → Bool} (hpercent : inSet '%' = true) :
    Function.Injective (percentEncode inSet) := by
  intro s t h
  apply encode_injective
  rw [← percentDecode_percentEncode hpercent, h, percentDecode_percentEncode hpercent]

/-! ### The characters of a segment -/

private theorem mem_percentByte {b : UInt8} {c : Char} (h : c ∈ percentByte b) :
    c = '%' ∨ ∃ n < 16, c = hexDigitUpper n := by
  have hsize : b.toNat < 256 := b.toNat_lt
  simp only [percentByte, List.mem_cons, List.not_mem_nil, or_false] at h
  rcases h with h | h | h
  · exact .inl h
  · exact .inr ⟨b.toNat / 16, by omega, h⟩
  · exact .inr ⟨b.toNat % 16, by omega, h⟩

/-- What is encoded has characters of the text that are outside of the set, percent signs and
digits. -/
theorem mem_percentEncode {inSet : Char → Bool} {s : List Char} {c : Char}
    (h : c ∈ percentEncode inSet s) :
    (c ∈ s ∧ inSet c = false) ∨ c = '%' ∨ ∃ n < 16, c = hexDigitUpper n := by
  obtain ⟨d, hmem, hd⟩ := List.mem_flatMap.mp h
  by_cases hset : inSet d = true
  · rw [if_pos hset] at hd
    obtain ⟨b, -, hb⟩ := List.mem_flatMap.mp hd
    exact .inr (mem_percentByte hb)
  · rw [if_neg hset, List.mem_singleton] at hd
    subst hd
    exact .inl ⟨hmem, Bool.eq_false_iff.mpr hset⟩

/-- Whether a character can stand inside of a segment: it does not end the segment or the path
and is written as it is. -/
def IsSegmentChar (c : Char) : Prop := isPathSet c = false ∧ c ≠ '/' ∧ c ≠ '\\'

/-- What is encoded stays inside of a segment, if the characters that are not encoded do. -/
theorem isSegmentChar_of_mem_percentEncode {inSet : Char → Bool} {s : List Char}
    (hs : ∀ c ∈ s, inSet c = false → IsSegmentChar c) {c : Char}
    (h : c ∈ percentEncode inSet s) : IsSegmentChar c := by
  have hdigits : ∀ n < 16, isPathSet (hexDigitUpper n) = false ∧ hexDigitUpper n ≠ '/' ∧
      hexDigitUpper n ≠ '\\' := by decide
  rcases mem_percentEncode h with ⟨hmem, hset⟩ | rfl | ⟨n, hn, rfl⟩
  · exact hs c hmem hset
  · exact ⟨by decide, by decide, by decide⟩
  · exact hdigits n hn

/-! ### Segments that mean a directory -/

/-- A character whose form in lower case is no letter is that form. -/
theorem eq_of_toLower_eq {c d : Char} (h : c.toLower = d) (hd : d.toNat < 97) : c = d := by
  rcases toLower_cases c with hsame | ⟨hlow, -, hlower⟩
  · exact hsame.symm.trans h
  · rw [h] at hlower
    omega

private theorem toLower_eq_e {c : Char} (h : c.toLower = 'e') : c = 'e' ∨ c = 'E' := by
  rcases toLower_cases c with hsame | ⟨-, -, hlower⟩
  · exact .inl (hsame.symm.trans h)
  · have hnat : c.toNat = 'E'.toNat := by
      rw [h] at hlower
      exact Nat.add_right_cancel (hlower.symm.trans rfl)
    exact .inr (Char.toNat_inj.mp hnat)

/-- A point, written as it is or encoded in either case, is read as one. -/
theorem percentDecode_of_point {s rest : List Char}
    (h : lower s = '.' :: rest ∨ lower s = '%' :: '2' :: 'e' :: rest) :
    ∃ more, lower more = rest ∧ percentDecode s = encode ['.'] ++ percentDecode more := by
  rcases h with h | h
  · obtain ⟨c, more, rfl, hc, hrest⟩ := List.map_eq_cons_iff.mp h
    have hpoint : c = '.' := eq_of_toLower_eq hc (by decide)
    exact ⟨more, hrest, by rw [hpoint, percentDecode_cons (by decide)]; rfl⟩
  · obtain ⟨c, s₁, rfl, hc, h⟩ := List.map_eq_cons_iff.mp h
    obtain ⟨d, s₂, rfl, hd, h⟩ := List.map_eq_cons_iff.mp h
    obtain ⟨e, more, rfl, he, hrest⟩ := List.map_eq_cons_iff.mp h
    have hpercent : c = '%' := eq_of_toLower_eq hc (by decide)
    have htwo : d = '2' := eq_of_toLower_eq hd (by decide)
    refine ⟨more, hrest, ?_⟩
    rw [hpercent, htwo]
    rcases toLower_eq_e he with rfl | rfl <;> rfl

/-- The letters of a string that is a given one in lower case. -/
theorem lower_toList_of_lowered_eq {name word : String} (h : lowered name = word) :
    lower name.toList = word.toList := by
  rw [← h, lowered, String.toList_ofList]

/-- A segment that means the directory it stands in has one point as its bytes. -/
theorem percentDecode_of_isSameDirectory {name : String} (h : isSameDirectory name = true) :
    percentDecode name.toList = encode ['.'] := by
  simp only [isSameDirectory, Bool.or_eq_true, decide_eq_true_eq] at h
  obtain ⟨more, hmore, hbytes⟩ := percentDecode_of_point
    (h.imp lower_toList_of_lowered_eq lower_toList_of_lowered_eq)
  rw [hbytes, List.map_eq_nil_iff.mp hmore]
  rfl

/-- A segment that means the directory above has two points as its bytes. -/
theorem percentDecode_of_isUpperDirectory {name : String} (h : isUpperDirectory name = true) :
    percentDecode name.toList = encode ['.', '.'] := by
  obtain ⟨rest, hfirst, hsecond⟩ : ∃ rest,
      (lower name.toList = '.' :: rest ∨ lower name.toList = '%' :: '2' :: 'e' :: rest) ∧
        (rest = ['.'] ∨ rest = ['%', '2', 'e']) := by
    simp only [isUpperDirectory, List.contains_eq_mem, decide_eq_true_eq, List.mem_cons,
      List.not_mem_nil, or_false] at h
    rcases h with h | h | h | h
    · exact ⟨['.'], .inl (lower_toList_of_lowered_eq h), .inl rfl⟩
    · exact ⟨['%', '2', 'e'], .inl (lower_toList_of_lowered_eq h), .inr rfl⟩
    · exact ⟨['.'], .inr (lower_toList_of_lowered_eq h), .inl rfl⟩
    · exact ⟨['%', '2', 'e'], .inr (lower_toList_of_lowered_eq h), .inr rfl⟩
  obtain ⟨more, rfl, hbytes⟩ := percentDecode_of_point hfirst
  obtain ⟨none, hnone, hmore⟩ := percentDecode_of_point hsecond
  rw [hbytes, hmore, List.map_eq_nil_iff.mp hnone]
  rfl

/-! ### One more segment of a path -/

/-- The segment of a text. -/
def segmentOf (text : String) : String :=
  String.ofList (percentEncode isSegmentSet text.toList)

private theorem percentDecode_segmentOf (text : String) :
    percentDecode (segmentOf text).toList = bytesOf text := by
  rw [segmentOf, String.toList_ofList, percentDecode_percentEncode rfl, bytesOf]

/-- What is read back from the segment of a text is the text. -/
theorem stringOf?_percentDecode_segmentOf (text : String) :
    stringOf? (percentDecode (segmentOf text).toList) = some text :=
  stringOf?_eq_some_iff.mpr (percentDecode_segmentOf text).symm

/-- Different texts have different segments. -/
theorem segmentOf_injective : Function.Injective segmentOf := fun _ _ h =>
  String.toList_inj.mp (percentEncode_injective rfl (String.ofList_inj.mp h))

/-- Only the empty text has an empty segment. -/
theorem segmentOf_ne_empty {text : String} (h : text ≠ "") : segmentOf text ≠ "" := fun heq =>
  h (segmentOf_injective (heq.trans rfl))

/-- All characters of a segment can stand inside of one. -/
theorem isSegmentChar_of_mem_segmentOf {text : String} :
    ∀ c ∈ (segmentOf text).toList, IsSegmentChar c := by
  intro c hc
  rw [segmentOf, String.toList_ofList] at hc
  refine isSegmentChar_of_mem_percentEncode (fun d _ hset => ?_) hc
  simp only [isSegmentSet, Bool.or_eq_false_iff, decide_eq_false_iff_not] at hset
  exact ⟨hset.1.1.1, hset.1.1.2, hset.2⟩

private theorem eq_of_percentDecode_segmentOf_eq {text word : String}
    (h : percentDecode (segmentOf text).toList = bytesOf word) : text = word := by
  rw [percentDecode_segmentOf] at h
  exact String.toList_inj.mp (encode_injective h)

/-- The segment of a text means the directory it stands in when the text is one point. -/
theorem isSameDirectory_segmentOf {text : String} :
    isSameDirectory (segmentOf text) = true ↔ text = "." := by
  constructor
  · intro h
    exact eq_of_percentDecode_segmentOf_eq (percentDecode_of_isSameDirectory h)
  · rintro rfl
    decide

/-- The segment of a text means the directory above when the text is two points. -/
theorem isUpperDirectory_segmentOf {text : String} :
    isUpperDirectory (segmentOf text) = true ↔ text = ".." := by
  constructor
  · intro h
    exact eq_of_percentDecode_segmentOf_eq (percentDecode_of_isUpperDirectory h)
  · rintro rfl
    decide

/-- A segment that means no directory is one more of a path. -/
theorem addSegment_eq (names : List String) (name : String) (isLast : Bool)
    (hupper : ¬ isUpperDirectory name = true) (hsame : ¬ isSameDirectory name = true) :
    addSegment names name isLast = names ++ [name] := by
  rw [addSegment, if_neg hupper, if_neg hsame]

/-- The letters of a path of segments, a slash in front of each one. -/
theorem toList_segmentsText (names : List String) :
    (segmentsText names).toList = names.flatMap fun name => '/' :: name.toList := by
  rw [segmentsText, String.toList_join, List.flatMap_map]
  simp only [String.toList_append]
  rfl

/-! ### The place of an address -/

/-- An address with the scheme and the authority of another one, and with neither a query nor a
fragment. -/
structure Address.LiesAt (a base : Address) : Prop where
  scheme : a.scheme = base.scheme
  username : a.username = base.username
  password : a.password = base.password
  host : a.host = base.host
  port : a.port = base.port
  query : a.query = none
  fragment : a.fragment = none

end GatewayProbe.Url
