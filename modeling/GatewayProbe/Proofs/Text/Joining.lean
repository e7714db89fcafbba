import GatewayProbe.Text.Ascii
import GatewayProbe.Text.Blank
import GatewayProbe.Text.Integer
import Mathlib.Data.List.DropRight

/-!
# Texts that are read back

What has been joined is found again. A text is split where it was put together, as long as its
pieces do not hold the separator; trimming leaves a text alone that has no blanks at its ends; and
the digits of a number are read as that number if it is within the bound.
-/

namespace GatewayProbe.Text

/-! ## Splitting what was joined -/

section

variable {sep : Char} {before after piece : List Char} {p : Char → Bool}

/-- The first separator is the one after a text without any. -/
theorem splitFirst_append (h : sep ∉ before) (after : List Char) :
    splitFirst sep (before ++ sep :: after) = some (before, after) := by
  induction before with
  | nil => simp [splitFirst]
  | cons c before ih =>
    obtain ⟨hc, hrest⟩ := not_or.mp (mt List.mem_cons.mpr h)
    simp [splitFirst, Ne.symm hc, ih hrest]

/-- A text without a separator is not split. -/
theorem splitFirst_eq_none (h : sep ∉ before) : splitFirst sep before = none := by
  induction before with
  | nil => rfl
  | cons c before ih =>
    obtain ⟨hc, hrest⟩ := not_or.mp (mt List.mem_cons.mpr h)
    simp [splitFirst, Ne.symm hc, ih hrest]

/-- The last separator is the one before a text without any. -/
theorem splitLast_append (before : List Char) (h : sep ∉ after) :
    splitLast sep (before ++ sep :: after) = some (before, after) := by
  have hreverse : (before ++ sep :: after).reverse = after.reverse ++ sep :: before.reverse := by
    simp
  rw [splitLast, hreverse, splitFirst_append (mt List.mem_reverse.mp h)]
  simp

/-- A character that splits nothing belongs to the first piece. -/
theorem splitWhere_cons_of_not {c : Char} (hc : p c = false) (rest : List Char) :
    ∃ piece pieces, splitWhere p rest = piece :: pieces ∧
      splitWhere p (c :: rest) = (c :: piece) :: pieces := by
  cases hrest : splitWhere p rest with
  | nil => exact absurd hrest (splitWhere_ne_nil p rest)
  | cons piece pieces => exact ⟨piece, pieces, rfl, by simp [splitWhere, hc, hrest]⟩

/-- No piece has a character of the class. -/
theorem not_of_mem_splitWhere {s : List Char} (h : piece ∈ splitWhere p s) :
    ∀ c ∈ piece, p c = false := by
  induction s generalizing piece with
  | nil =>
    obtain rfl := List.mem_singleton.mp h
    exact nofun
  | cons c rest ih =>
    cases hc : p c with
    | true =>
      simp only [splitWhere, hc, if_true] at h
      obtain rfl | hrest := List.mem_cons.mp h
      · exact nofun
      · exact ih hrest
    | false =>
      obtain ⟨first, others, hrest, hall⟩ := splitWhere_cons_of_not hc rest
      rw [hrest] at ih
      rw [hall] at h
      obtain rfl | hothers := List.mem_cons.mp h
      · exact List.forall_mem_cons.mpr ⟨hc, ih List.mem_cons_self⟩
      · exact ih (List.mem_cons_of_mem _ hothers)

/-- The first piece ends at the first character of the class. -/
theorem splitWhere_append (h : ∀ c ∈ piece, p c = false) (hsep : p sep = true)
    (rest : List Char) : splitWhere p (piece ++ sep :: rest) = piece :: splitWhere p rest := by
  induction piece with
  | nil => simp [splitWhere, hsep]
  | cons c piece ih =>
    obtain ⟨hc, hpiece⟩ := List.forall_mem_cons.mp h
    obtain ⟨first, others, hrest, hall⟩ := splitWhere_cons_of_not hc (piece ++ sep :: rest)
    rw [ih hpiece] at hrest
    obtain ⟨rfl, rfl⟩ := List.cons.inj hrest
    exact hall

/-- A text without a character of the class is one piece. -/
theorem splitWhere_eq_singleton (h : ∀ c ∈ piece, p c = false) : splitWhere p piece = [piece] := by
  induction piece with
  | nil => rfl
  | cons c piece ih =>
    obtain ⟨hc, hpiece⟩ := List.forall_mem_cons.mp h
    obtain ⟨first, others, hrest, hall⟩ := splitWhere_cons_of_not hc piece
    rw [ih hpiece] at hrest
    obtain ⟨rfl, rfl⟩ := List.cons.inj hrest
    exact hall

/-- The pieces of a text are those it has been joined from. -/
theorem splitWhere_intercalate {pieces : List (List Char)} (hne : pieces ≠ [])
    (h : ∀ piece ∈ pieces, ∀ c ∈ piece, p c = false) (hsep : p sep = true) :
    splitWhere p ([sep].intercalate pieces) = pieces := by
  induction pieces with
  | nil => exact absurd rfl hne
  | cons piece rest ih =>
    obtain ⟨hpiece, hrest⟩ := List.forall_mem_cons.mp h
    cases rest with
    | nil => simpa using splitWhere_eq_singleton hpiece
    | cons next rest =>
      rw [List.intercalate_cons_cons, List.append_assoc, List.singleton_append,
        splitWhere_append hpiece hsep, ih (List.cons_ne_nil _ _) hrest]

end

/-! ## Blanks -/

/-- The printed characters of ASCII are not blank. -/
theorem isBlank_eq_false_of_le {c : Char} (hlow : 33 ≤ c.toNat) (hhigh : c.toNat ≤ 126) :
    isBlank c = false := by
  simp [isBlank]
  omega

/-- A character is in lower case already, or is a Latin capital and its form in lower case is
thirty-two further on. -/
theorem toLower_cases (c : Char) :
    c.toLower = c ∨ 65 ≤ c.toNat ∧ c.toNat ≤ 90 ∧ c.toLower.toNat = c.toNat + 32 := by
  by_cases hupper : c.val ≥ 'A'.val ∧ c.val ≤ 'Z'.val
  · have hrange : 65 ≤ c.toNat ∧ c.toNat ≤ 90 := by
      simpa [UInt32.le_iff_toNat_le] using hupper
    have hval : c.toLower.val = c.val + ('a'.val - 'A'.val) := congrArg Char.val (dif_pos hupper)
    refine .inr ⟨hrange.1, hrange.2, ?_⟩
    rw [← Char.toNat_val, hval, UInt32.toNat_add, Char.toNat_val]
    exact Nat.mod_eq_of_lt (by simp; omega)
  · exact .inl (dif_neg hupper)

/-- Of two characters that differ only in case, both are blank or none is. -/
theorem isBlank_toLower (c : Char) : isBlank c.toLower = isBlank c := by
  rcases toLower_cases c with hsame | ⟨hlow, hhigh, hlower⟩
  · rw [hsame]
  · rw [isBlank_eq_false_of_le (c := c) (by omega) (by omega)]
    exact isBlank_eq_false_of_le (by omega) (by omega)

/-- A character is in upper case already, or is a small Latin letter and its form in upper case is
thirty-two before it. -/
theorem toUpper_cases (c : Char) :
    c.toUpper = c ∨ 97 ≤ c.toNat ∧ c.toNat ≤ 122 ∧ c.toUpper.toNat + 32 = c.toNat := by
  by_cases hlower : 'a'.val ≤ c.val ∧ c.val ≤ 'z'.val
  · have hrange : 97 ≤ c.toNat ∧ c.toNat ≤ 122 := by
      simpa [UInt32.le_iff_toNat_le] using hlower
    have hform : c.toUpper = ⟨c.val + ('A'.val - 'a'.val), _⟩ := dif_pos hlower
    refine .inr ⟨hrange.1, hrange.2, ?_⟩
    have hval : c.toUpper.toNat = (c.val + ('A'.val - 'a'.val)).toNat := by rw [hform]; rfl
    have hshift : ('A'.val - 'a'.val).toNat = 2 ^ 32 - 32 := by decide
    rw [hval, UInt32.toNat_add, Char.toNat_val, hshift]
    omega
  · exact .inl (dif_neg hlower)

/-- Of two characters that differ only in case, both are blank or none is. -/
theorem isBlank_toUpper (c : Char) : isBlank c.toUpper = isBlank c := by
  rcases toUpper_cases c with hsame | ⟨hlow, hhigh, hupper⟩
  · rw [hsame]
  · rw [isBlank_eq_false_of_le (c := c) (by omega) (by omega)]
    exact isBlank_eq_false_of_le (by omega) (by omega)

private theorem mem_dropWhile_or {p : Char → Bool} {c : Char} {s : List Char} (h : c ∈ s) :
    c ∈ s.dropWhile p ∨ p c = true := by
  rw [← List.takeWhile_append_dropWhile (p := p) (l := s)] at h
  exact (List.mem_append.mp h).symm.imp_right List.mem_takeWhile_imp

/-- Trimming takes nothing away but blanks. -/
theorem mem_trim_or {c : Char} {s : List Char} (h : c ∈ s) : c ∈ trim s ∨ isBlank c = true := by
  obtain hmem | hblank := mem_dropWhile_or (p := isBlank) h
  · rw [trim, dropEndWhile, List.mem_reverse]
    exact mem_dropWhile_or (List.mem_reverse.mpr hmem)
  · exact Or.inr hblank

/-- What is blank without the blanks at its ends is blank with them. -/
theorem allBlank_of_trim {s : List Char} (h : allBlank (trim s) = true) : allBlank s = true := by
  refine List.all_eq_true.mpr fun c hc => ?_
  obtain htrim | hblank := mem_trim_or hc
  · exact List.all_eq_true.mp h c htrim
  · exact hblank

/-- A string that is not blank has a character that is not. -/
theorem isAllBlank_eq_false_iff {s : String} :
    isAllBlank s = false ↔ ∃ c ∈ s.toList, isBlank c = false := by
  simp [isAllBlank, allBlank]

/-- Nothing is left of a text exactly if it is blank. -/
theorem trim_eq_nil_iff {s : List Char} : trim s = [] ↔ allBlank s = true := by
  constructor
  · intro h
    exact allBlank_of_trim (h ▸ rfl)
  · intro h
    have hnone : s.dropWhile isBlank = [] := List.dropWhile_eq_nil_iff.mpr (List.all_eq_true.mp h)
    rw [trim, hnone]
    rfl

/-- A word is not blank. -/
theorem allBlank_of_mem_words {s w : List Char} (h : w ∈ words s) : allBlank w = false := by
  obtain ⟨hpiece, hne⟩ := List.mem_filter.mp h
  obtain ⟨c, rest, rfl⟩ := List.exists_cons_of_ne_nil (by simpa using hne)
  simp [allBlank, not_of_mem_splitWhere hpiece c List.mem_cons_self]

/-- Nothing is dropped from an end that is not of the class. -/
theorem dropEndWhile_append {p : Char → Bool} {last : List Char} (hne : last ≠ [])
    (h : ∀ c ∈ last, p c = false) (s : List Char) : dropEndWhile p (s ++ last) = s ++ last := by
  obtain ⟨c, rest, hlast⟩ := List.exists_cons_of_ne_nil (mt List.reverse_eq_nil_iff.mp hne)
  have hc : p c = false := h c (List.mem_reverse.mp (hlast ▸ List.mem_cons_self))
  rw [dropEndWhile, List.reverse_append, hlast, List.cons_append,
    List.dropWhile_cons_of_neg (by simp [hc]), ← List.cons_append, ← hlast,
    ← List.reverse_append, List.reverse_reverse]

private theorem dropWhile_append_cons {p : Char → Bool} {c : Char} (hc : p c = false)
    (s rest : List Char) : (s ++ c :: rest).dropWhile p = s.dropWhile p ++ c :: rest := by
  rw [List.dropWhile_append]
  split
  · rename_i hempty
    simp [List.isEmpty_iff.mp hempty, hc]
  · rfl

/-- A trimmed text does not begin with a blank. -/
theorem isBlank_of_head?_trim {s : List Char} : ∀ c ∈ (trim s).head?, isBlank c = false := by
  intro c hc
  obtain ⟨rest, hrest⟩ : trim s <+: s.dropWhile isBlank := List.rdropWhile_prefix isBlank _
  have hhead : (s.dropWhile isBlank).head? = some c := by
    rw [← hrest, List.head?_append, Option.mem_def.mp hc, Option.some_or]
  have hnot := List.head?_dropWhile_not isBlank s
  rwa [hhead] at hnot

/-- A trimmed text does not end with a blank. -/
theorem isBlank_of_getLast?_trim {s : List Char} : ∀ c ∈ (trim s).getLast?, isBlank c = false := by
  intro c hc
  have hne : trim s ≠ [] := List.ne_nil_of_mem (List.mem_of_mem_getLast? hc)
  have hnot := List.rdropWhile_last_not isBlank _ hne
  rw [← List.getLast_of_mem_getLast? hc]
  exact Bool.eq_false_iff.mpr hnot

/-- A text stays as it is exactly if it neither begins nor ends with a blank. -/
theorem trim_eq_self_iff {s : List Char} :
    trim s = s ↔ (∀ c ∈ s.head?, isBlank c = false) ∧ ∀ c ∈ s.getLast?, isBlank c = false := by
  constructor
  · intro h
    rw [← h]
    exact ⟨isBlank_of_head?_trim, isBlank_of_getLast?_trim⟩
  · rintro ⟨hhead, hlast⟩
    have hbegin : s.dropWhile isBlank = s := by
      refine List.dropWhile_eq_self_iff.mpr fun hpos => ?_
      rw [hhead s[0] (List.head?_eq_getElem? ▸ List.getElem?_eq_getElem hpos)]
      exact Bool.false_ne_true
    rw [trim, hbegin]
    refine List.rdropWhile_eq_self_iff.mpr fun hne => ?_
    rw [hlast _ (List.getLast_mem_getLast? hne)]
    exact Bool.false_ne_true

/-- A trimmed text stays as it is. -/
theorem trim_trim (s : List Char) : trim (trim s) = trim s :=
  trim_eq_self_iff.mpr ⟨isBlank_of_head?_trim, isBlank_of_getLast?_trim⟩

/-- A text without blanks stays as it is. -/
theorem trim_eq_self {s : List Char} (h : ∀ c ∈ s, isBlank c = false) : trim s = s :=
  trim_eq_self_iff.mpr ⟨fun c hc => h c (List.mem_of_mem_head? hc),
    fun c hc => h c (List.mem_of_mem_getLast? hc)⟩

/-- A text that ends without blanks is trimmed at its beginning alone. -/
theorem trim_append_cons {c : Char} {rest : List Char} (hc : isBlank c = false)
    (hrest : ∀ d ∈ rest, isBlank d = false) (s : List Char) :
    trim (s ++ c :: rest) = s.dropWhile isBlank ++ c :: rest := by
  rw [trim, dropWhile_append_cons hc]
  exact dropEndWhile_append (List.cons_ne_nil c rest) (List.forall_mem_cons.mpr ⟨hc, hrest⟩) _

/-- What is left of a text without the blanks around it. -/
structure Trims (s core : List Char) : Prop where
  around : ∃ before after, allBlank before = true ∧ allBlank after = true ∧
    s = before ++ core ++ after
  head : ∀ c ∈ core.head?, isBlank c = false
  last : ∀ c ∈ core.getLast?, isBlank c = false

/-- A text is what trimming leaves and blanks around it. -/
theorem exists_eq_trim (s : List Char) : ∃ before after, allBlank before = true ∧
    allBlank after = true ∧ s = before ++ trim s ++ after := by
  have hfront := List.takeWhile_append_dropWhile (p := isBlank) (l := s)
  have hback := List.takeWhile_append_dropWhile (p := isBlank) (l := (s.dropWhile isBlank).reverse)
  refine ⟨s.takeWhile isBlank, ((s.dropWhile isBlank).reverse.takeWhile isBlank).reverse,
    List.all_eq_true.mpr fun c hc => List.mem_takeWhile_imp hc,
    List.all_eq_true.mpr fun c hc => List.mem_takeWhile_imp (List.mem_reverse.mp hc), ?_⟩
  rw [trim, dropEndWhile, List.append_assoc, ← List.reverse_append, hback, List.reverse_reverse,
    hfront]

/-- Blanks in front are trimmed away. -/
theorem trim_append_left {before : List Char} (h : allBlank before = true) (s : List Char) :
    trim (before ++ s) = trim s := by
  rw [trim, List.dropWhile_append_of_pos (List.all_eq_true.mp h), trim]

/-- Blanks behind are trimmed away. -/
theorem trim_append_right {after : List Char} (h : allBlank after = true) (s : List Char) :
    trim (s ++ after) = trim s := by
  have hall : ∀ c ∈ after.reverse, isBlank c = true := fun c hc =>
    List.all_eq_true.mp h c (List.mem_reverse.mp hc)
  rw [trim, trim, dropEndWhile, dropEndWhile, List.dropWhile_append]
  split
  · rename_i hblank
    have hnone : after.dropWhile isBlank = [] :=
      List.dropWhile_eq_nil_iff.mpr (List.all_eq_true.mp h)
    rw [hnone, List.isEmpty_iff.mp hblank]
  · rw [List.reverse_append, List.dropWhile_append_of_pos hall]

/-- Trimming leaves what neither begins nor ends with a blank and has blanks alone around it. -/
theorem trim_eq_iff {s core : List Char} : trim s = core ↔ Trims s core := by
  constructor
  · rintro rfl
    exact ⟨exists_eq_trim s, isBlank_of_head?_trim, isBlank_of_getLast?_trim⟩
  · rintro ⟨⟨before, after, hbefore, hafter, rfl⟩, hhead, hlast⟩
    rw [trim_append_right hafter, trim_append_left hbefore]
    exact trim_eq_self_iff.mpr ⟨hhead, hlast⟩

/-- It does not matter whether the blanks at the beginning are dropped before. -/
theorem trim_dropWhile (s : List Char) : trim (s.dropWhile isBlank) = trim s := by
  rw [trim, trim, List.dropWhile_idempotent]

/-- Trimming and upper case do not depend on each other. -/
theorem trim_upper (s : List Char) : trim (upper s) = upper (trim s) := by
  have hblank : isBlank ∘ Char.toUpper = isBlank := funext isBlank_toUpper
  rw [trim, trim, upper, upper, dropEndWhile, dropEndWhile, List.dropWhile_map, hblank,
    ← List.map_reverse, List.dropWhile_map, hblank, List.map_reverse]

/-- Trimming leaves a text blank that is, and no other one. -/
theorem allBlank_trim (s : List Char) : allBlank (trim s) = allBlank s := by
  rw [Bool.eq_iff_iff, ← trim_eq_nil_iff, trim_trim, trim_eq_nil_iff]

/-- A text is blank exactly when it is without the blanks around it. -/
theorem isAllBlank_trimmed (s : String) : isAllBlank (trimmed s) = isAllBlank s := by
  rw [isAllBlank, trimmed, String.toList_ofList, allBlank_trim, isAllBlank]

/-! ## The digits of a number -/

/-- No digit is blank. -/
theorem isBlank_of_isDigit {c : Char} (h : c.isDigit = true) : isBlank c = false := by
  have hrange : 48 ≤ c.toNat ∧ c.toNat ≤ 57 := by
    simpa [Char.isDigit, UInt32.le_iff_toNat_le] using h
  exact isBlank_eq_false_of_le (by omega) (by omega)

/-- A number is written in digits. -/
theorem isDigit_of_mem_toDigits {n : Nat} : ∀ c ∈ Nat.toDigits 10 n, c.isDigit = true :=
  fun _ hc => Nat.isDigit_of_mem_toDigits (by decide) (by decide) hc

theorem isBlank_of_mem_toDigits {n : Nat} : ∀ c ∈ Nat.toDigits 10 n, isBlank c = false :=
  fun c hc => isBlank_of_isDigit (isDigit_of_mem_toDigits c hc)

/-- The number that digits stand for does not get smaller with more of them. -/
theorem le_ofDigitChars (digits : List Char) (value : Nat) :
    value ≤ Nat.ofDigitChars 10 digits value := by
  induction digits generalizing value with
  | nil => exact Nat.le_refl value
  | cons c rest ih =>
    have hrest := ih (10 * value + (c.toNat - '0'.toNat))
    rw [Nat.ofDigitChars_cons]
    omega

/-- Digits within the bound are read, and then what stands behind them. -/
theorem readDigits_append {bound value : Nat} {digits : List Char}
    (hdigits : ∀ c ∈ digits, c.isDigit = true)
    (hbound : Nat.ofDigitChars 10 digits value ≤ bound) (rest : List Char) :
    readDigits bound value (digits ++ rest) =
      readDigits bound (Nat.ofDigitChars 10 digits value) rest := by
  induction digits generalizing value with
  | nil => rfl
  | cons c digits ih =>
    obtain ⟨hc, hdigits⟩ := List.forall_mem_cons.mp hdigits
    rw [Nat.ofDigitChars_cons, Nat.mul_comm] at hbound ⊢
    have hnext := Nat.le_trans (le_ofDigitChars digits _) hbound
    rw [List.cons_append, readDigits, if_pos hc]
    exact (if_pos hnext).trans (ih hdigits hbound)

/-- Digits are read as what they stand for if that is within the bound. -/
theorem readDigits_eq_ok {bound value : Nat} {digits : List Char}
    (hdigits : ∀ c ∈ digits, c.isDigit = true)
    (hbound : Nat.ofDigitChars 10 digits value ≤ bound) :
    readDigits bound value digits = .ok (Nat.ofDigitChars 10 digits value) := by
  have hread := readDigits_append hdigits hbound []
  rwa [List.append_nil] at hread

/-- Nothing but digits is read, and as nothing but what they stand for. -/
theorem readDigits_eq_ok_iff {bound value n : Nat} {digits : List Char} (hvalue : value ≤ bound) :
    readDigits bound value digits = .ok n ↔
      (∀ c ∈ digits, c.isDigit = true) ∧ Nat.ofDigitChars 10 digits value = n ∧ n ≤ bound := by
  constructor
  · intro h
    induction digits generalizing value with
    | nil =>
      obtain rfl := Except.ok.inj h
      exact ⟨nofun, rfl, hvalue⟩
    | cons c rest ih =>
      rw [readDigits] at h
      split at h
      · rename_i hc
        dsimp only at h
        split at h
        · rename_i hnext
          obtain ⟨hrest, hn, hbound⟩ := ih hnext h
          rw [Nat.ofDigitChars_cons, Nat.mul_comm]
          exact ⟨List.forall_mem_cons.mpr ⟨hc, hrest⟩, hn, hbound⟩
        · cases h
      · cases h
  · rintro ⟨hdigits, rfl, hbound⟩
    exact readDigits_eq_ok hdigits hbound

/-- Digits are refused if what they stand for is not within the bound, whatever stands behind
them. -/
theorem readDigits_eq_error {bound value : Nat} {digits : List Char} (hvalue : value ≤ bound)
    (hdigits : ∀ c ∈ digits, c.isDigit = true)
    (hbound : bound < Nat.ofDigitChars 10 digits value) (rest : List Char) :
    readDigits bound value (digits ++ rest) = .error .tooLarge := by
  induction digits generalizing value with
  | nil => exact absurd hbound (Nat.not_lt.mpr hvalue)
  | cons c digits ih =>
    obtain ⟨hc, hdigits⟩ := List.forall_mem_cons.mp hdigits
    rw [Nat.ofDigitChars_cons, Nat.mul_comm] at hbound
    rw [List.cons_append, readDigits, if_pos hc]
    by_cases hnext : value * 10 + (c.toNat - 48) ≤ bound
    · exact (if_pos hnext).trans (ih hnext hdigits hbound)
    · exact if_neg hnext

/-- Why digits are refused. Behind some that are within the bound stands another character, or the
first of them are not within it. -/
inductive RefusesDigits (bound : Nat) : List Char → IntegerError → Prop
  | foreign {digits rest : List Char} {c : Char} (hdigits : ∀ d ∈ digits, d.isDigit = true)
      (hbound : Nat.ofDigitChars 10 digits 0 ≤ bound) (hc : c.isDigit = false) :
      RefusesDigits bound (digits ++ c :: rest) .invalidDigit
  | large {digits rest : List Char} (hdigits : ∀ d ∈ digits, d.isDigit = true)
      (hbound : bound < Nat.ofDigitChars 10 digits 0) :
      RefusesDigits bound (digits ++ rest) .tooLarge

private theorem readDigits_eq_error_iff {bound : Nat} {s : List Char} {cause : IntegerError} :
    readDigits bound 0 s = .error cause ↔ RefusesDigits bound s cause := by
  constructor
  · intro h
    have hdigits : ∀ d ∈ s.takeWhile Char.isDigit, d.isDigit = true :=
      fun d hd => List.mem_takeWhile_imp hd
    rw [← List.takeWhile_append_dropWhile (p := Char.isDigit) (l := s)] at h ⊢
    by_cases hbound : Nat.ofDigitChars 10 (s.takeWhile Char.isDigit) 0 ≤ bound
    · rw [readDigits_append hdigits hbound] at h
      cases hrest : s.dropWhile Char.isDigit with
      | nil =>
        rw [hrest] at h
        cases h
      | cons c rest =>
        have hc : c.isDigit = false := by
          have hhead := List.head?_dropWhile_not Char.isDigit s
          rwa [hrest] at hhead
        rw [hrest, readDigits, if_neg (Bool.eq_false_iff.mp hc)] at h
        obtain rfl := Except.error.inj h
        exact .foreign hdigits hbound hc
    · rw [readDigits_eq_error (Nat.zero_le bound) hdigits (Nat.lt_of_not_le hbound)] at h
      obtain rfl := Except.error.inj h
      exact .large hdigits (Nat.lt_of_not_le hbound)
  · intro h
    cases h with
    | foreign hdigits hbound hc =>
      rw [readDigits_append hdigits hbound, readDigits, if_neg (Bool.eq_false_iff.mp hc)]
    | large hdigits hbound => exact readDigits_eq_error (Nat.zero_le bound) hdigits hbound _

/-- A sign is read apart, and digits begin with none. -/
theorem readUnsigned_of_isDigit {bound : Nat} {digits : List Char} (hne : digits ≠ [])
    (hdigits : ∀ c ∈ digits, c.isDigit = true) :
    readUnsigned bound digits = readDigits bound 0 digits := by
  obtain ⟨c, rest, rfl⟩ := List.exists_cons_of_ne_nil hne
  have hc : c ≠ '+' := by
    rintro rfl
    exact absurd (hdigits '+' List.mem_cons_self) (by decide)
  rw [readUnsigned]
  · exact List.cons_ne_nil c rest
  · exact fun h => hc (List.cons.inj h).1
  · exact fun _ h => hc (List.cons.inj h).1

/-- Digits, perhaps behind a plus sign, that stand for a number. -/
def SpellsCount (s : List Char) (n : Nat) : Prop :=
  ∃ digits, (s = digits ∨ s = '+' :: digits) ∧ digits ≠ [] ∧
    (∀ c ∈ digits, c.isDigit = true) ∧ Nat.ofDigitChars 10 digits 0 = n

/-- A number within the bound is read from its digits, and from nothing else. -/
theorem readUnsigned_eq_ok_iff_spellsCount {bound n : Nat} {s : List Char} :
    readUnsigned bound s = .ok n ↔ SpellsCount s n ∧ n ≤ bound := by
  constructor
  · intro h
    unfold readUnsigned at h
    split at h
    · cases h
    · cases h
    · rename_i digits hne
      obtain ⟨hdigits, hn, hbound⟩ := (readDigits_eq_ok_iff (Nat.zero_le bound)).mp h
      exact ⟨⟨digits, .inr rfl, fun hnil => hne (by rw [hnil]), hdigits, hn⟩, hbound⟩
    · rename_i hne _ _
      obtain ⟨hdigits, hn, hbound⟩ := (readDigits_eq_ok_iff (Nat.zero_le bound)).mp h
      exact ⟨⟨s, .inl rfl, hne, hdigits, hn⟩, hbound⟩
  · rintro ⟨⟨digits, hs, hne, hdigits, rfl⟩, hbound⟩
    have hread : readDigits bound 0 digits = .ok (Nat.ofDigitChars 10 digits 0) :=
      readDigits_eq_ok hdigits hbound
    rcases hs with rfl | rfl
    · rw [readUnsigned_of_isDigit hne hdigits, hread]
    · obtain ⟨c, rest, rfl⟩ := List.exists_cons_of_ne_nil hne
      exact hread

/-- Why a text is no number within the bound. A sign that stands alone is a foreign character. -/
inductive RefusesCount (bound : Nat) : List Char → IntegerError → Prop
  | empty : RefusesCount bound [] .empty
  | sign : RefusesCount bound ['+'] .invalidDigit
  | signed {digits : List Char} {cause : IntegerError} (h : RefusesDigits bound digits cause) :
      RefusesCount bound ('+' :: digits) cause
  | unsigned {digits : List Char} {cause : IntegerError} (hsign : digits.head? ≠ some '+')
      (h : RefusesDigits bound digits cause) : RefusesCount bound digits cause

/-- A text without digits is not refused for its digits. -/
theorem RefusesDigits.ne_nil {bound : Nat} {digits : List Char} {cause : IntegerError}
    (h : RefusesDigits bound digits cause) : digits ≠ [] := by
  rintro rfl
  exact nomatch readDigits_eq_error_iff.mpr h

/-- A text is refused for the fault that it has and for no other one. -/
theorem readUnsigned_eq_error_iff {bound : Nat} {s : List Char} {cause : IntegerError} :
    readUnsigned bound s = .error cause ↔ RefusesCount bound s cause := by
  constructor
  · intro h
    unfold readUnsigned at h
    split at h
    · obtain rfl := Except.error.inj h
      exact .empty
    · obtain rfl := Except.error.inj h
      exact .sign
    · exact .signed (readDigits_eq_error_iff.mp h)
    · rename_i hsign
      refine .unsigned (fun hhead => ?_) (readDigits_eq_error_iff.mp h)
      obtain ⟨rest, rfl⟩ := List.head?_eq_some_iff.mp hhead
      exact hsign rest rfl
  · intro h
    cases h with
    | empty | sign => rfl
    | signed h =>
      obtain ⟨c, rest, rfl⟩ := List.exists_cons_of_ne_nil h.ne_nil
      exact readDigits_eq_error_iff.mpr h
    | unsigned hsign h =>
      rw [readUnsigned]
      · exact readDigits_eq_error_iff.mpr h
      · exact h.ne_nil
      · rintro rfl
        exact hsign rfl
      · rintro rest rfl
        exact hsign rfl

/-- The digits of a number are read as the number. -/
theorem readUnsigned_toDigits {bound n : Nat} (h : n ≤ bound) :
    readUnsigned bound (Nat.toDigits 10 n) = .ok n := by
  have hvalue : Nat.ofDigitChars 10 (Nat.toDigits 10 n) 0 = n := Nat.ofDigitChars_ten_toDigits
  rw [readUnsigned_of_isDigit Nat.toDigits_ne_nil isDigit_of_mem_toDigits,
    readDigits_eq_ok isDigit_of_mem_toDigits (hvalue.symm ▸ h), hvalue]

/-- The digits stand in a row from zero to nine. -/
theorem digit_lt {c : Char} (h : c.isDigit = true) :
    48 ≤ c.toNat ∧ c.toNat - '0'.toNat < 10 := by
  have hrange : 48 ≤ c.toNat ∧ c.toNat ≤ 57 := by
    simpa [Char.isDigit, UInt32.le_iff_toNat_le] using h
  have hzero : '0'.toNat = 48 := rfl
  omega

/-- A digit is the only one of its value. -/
theorem toDigits_digit {c : Char} (h : c.isDigit = true) :
    Nat.toDigits 10 (c.toNat - '0'.toNat) = [c] := by
  have hdigit : ∀ d < 10, (Nat.digitChar d).toNat = 48 + d := by decide
  have hzero : '0'.toNat = 48 := rfl
  obtain ⟨hlow, hlt⟩ := digit_lt h
  rw [Nat.toDigits_of_lt_base hlt, List.cons.injEq]
  refine ⟨Char.toNat_inj.mp ((hdigit _ hlt).trans ?_), rfl⟩
  omega

/-- Digits behind those of a positive number are the last digits of the number they make. -/
theorem toDigits_ofDigitChars {digits : List Char} (h : ∀ c ∈ digits, c.isDigit = true)
    {value : Nat} (hpos : 0 < value) :
    Nat.toDigits 10 (Nat.ofDigitChars 10 digits value) = Nat.toDigits 10 value ++ digits := by
  induction digits generalizing value with
  | nil => simp
  | cons c rest ih =>
    obtain ⟨hc, hrest⟩ := List.forall_mem_cons.mp h
    rw [Nat.ofDigitChars_cons, ih hrest (by omega),
      ← Nat.toDigits_append_toDigits (by decide) hpos (digit_lt hc).2, toDigits_digit hc]
    simp

end GatewayProbe.Text
