import GatewayProbe.Decimal.Layout
import GatewayProbe.Decimal.Reading
import GatewayProbe.Proofs.Text.Words

/-!
# Written decimals

A decimal number that is written without an exponent has digits before the point, at least one,
and as many behind it as it has places. It is one word, and it is read back as its digits and
their places.
-/

namespace GatewayProbe.Decimal

open GatewayProbe.Text

/-- The value of digits, as the library has it. -/
theorem digitsValue_eq (s : List Char) : digitsValue s = Nat.ofDigitChars 10 s 0 := by
  simp only [digitsValue, Nat.ofDigitChars_eq_foldl, Nat.mul_comm 10]
  rfl

/-- A decimal number of some places: its digits before the point and those behind it. -/
structure Places (places digits : Nat) (whole fraction : List Char) : Prop where
  nonempty : whole ≠ []
  isDigit : ∀ c ∈ whole ++ fraction, c.isDigit = true
  length : fraction.length = places
  value : digitsValue (whole ++ fraction) = digits

/-- Digits with zeros in front of them, so that there are more digits than places. -/
private theorem exists_filled (places digits : Nat) : ∃ filled : List Char,
    places < filled.length ∧ (∀ c ∈ filled, c.isDigit = true) ∧ digitsValue filled = digits ∧
      pointed places digits = if places = 0 then filled else
        filled.take (filled.length - places) ++ '.' :: filled.drop (filled.length - places) := by
  refine ⟨List.replicate (places + 1 - (decimalDigits digits).length) '0' ++ decimalDigits digits,
    ?_, List.forall_mem_append.mpr ⟨fun c hc => ?_, isDigit_of_mem_toDigits⟩, ?_, rfl⟩
  · rw [List.length_append, List.length_replicate]
    omega
  · rw [List.eq_of_mem_replicate hc]
    rfl
  · rw [digitsValue_eq, Nat.ofDigitChars_append, Nat.ofDigitChars_replicate_zero, Nat.mul_zero,
      decimalDigits, Nat.ofDigitChars_ten_toDigits]

/-- Digits with a point in front of the last of them. -/
theorem exists_pointed (places digits : Nat) : ∃ whole fraction,
    Places places digits whole fraction ∧
      pointed places digits = if places = 0 then whole else whole ++ '.' :: fraction := by
  obtain ⟨filled, hlength, hdigits, hvalue, hpointed⟩ := exists_filled places digits
  have hsplit := List.take_append_drop (filled.length - places) filled
  refine ⟨filled.take (filled.length - places), filled.drop (filled.length - places),
    ⟨fun hnone => ?_, hsplit.symm ▸ hdigits, ?_, hsplit.symm ▸ hvalue⟩, ?_⟩
  · have hzero := congrArg List.length hnone
    rw [List.length_take, List.length_nil] at hzero
    omega
  · rw [List.length_drop]
    omega
  · rw [hpointed]
    split_ifs with hplaces
    · rw [hplaces, Nat.sub_zero, List.take_length]
    · rfl

/-- A number without places is written with its digits alone. -/
theorem pointed_zero (digits : Nat) : pointed 0 digits = decimalDigits digits := by
  have hlength : 0 + 1 - (decimalDigits digits).length = 0 := by
    have hpos := List.length_pos_iff.mpr (Nat.toDigits_ne_nil (b := 10) (n := digits))
    rw [decimalDigits]
    omega
  rw [pointed, if_pos rfl, hlength]
  rfl

/-- A decimal number is written as one word. -/
theorem isWord_pointed (places digits : Nat) : IsWord (pointed places digits) := by
  obtain ⟨whole, fraction, h, hpointed⟩ := exists_pointed places digits
  obtain ⟨hwhole, hfraction⟩ := List.forall_mem_append.mp fun c hc =>
    isBlank_of_isDigit (h.isDigit c hc)
  rw [hpointed]
  split_ifs
  · exact ⟨h.nonempty, hwhole⟩
  · refine ⟨by simp [h.nonempty], ?_⟩
    exact List.forall_mem_append.mpr ⟨hwhole, List.forall_mem_cons.mpr ⟨rfl, hfraction⟩⟩

/-- A sign leaves a word a word. -/
theorem isWord_signed {s : List Char} (h : IsWord s) (negative : Bool) :
    IsWord (signed negative s) := by
  cases negative with
  | false => exact h
  | true => exact ⟨List.cons_ne_nil _ _, List.forall_mem_cons.mpr ⟨rfl, h.2⟩⟩

/-- A double with a fixed number of places is written as one word. -/
theorem isWord_fixed (places : Nat) (x : Float) : IsWord (fixed places x).toList := by
  have hnan : IsWord "NaN".toList := ⟨by decide, by simp [isBlank]⟩
  have hinf : IsWord ['i', 'n', 'f'] := ⟨List.cons_ne_nil _ _, by simp [isBlank]⟩
  unfold fixed
  cases read x with
  | nan => exact hnan
  | infinite negative =>
    rw [String.toList_ofList]
    exact isWord_signed hinf negative
  | finite negative b =>
    rw [String.toList_ofList]
    exact isWord_signed (isWord_pointed _ _) negative

/-! ## Reading them back -/

/-- The digits in front of something else are the leading digits. -/
theorem spanDigits_append {digits : List Char} (h : ∀ c ∈ digits, c.isDigit = true)
    (rest : List Char) (hrest : ∀ c ∈ rest.head?, c.isDigit = false) :
    spanDigits (digits ++ rest) = (digits, rest) := by
  have hnone : rest.takeWhile Char.isDigit = [] ∧ rest.dropWhile Char.isDigit = rest := by
    cases rest with
    | nil => exact ⟨rfl, rfl⟩
    | cons c rest =>
      have hc : c.isDigit = false := hrest c rfl
      exact ⟨List.takeWhile_cons_of_neg (by simp [hc]), List.dropWhile_cons_of_neg (by simp [hc])⟩
  rw [spanDigits, List.takeWhile_append_of_pos h, List.dropWhile_append_of_pos h, hnone.1, hnone.2,
    List.append_nil]

/-- A written decimal is read as its digits and places. -/
theorem readScaled_pointed (places digits : Nat) :
    readScaled (pointed places digits) = some (digits, -(places : Int)) := by
  obtain ⟨whole, fraction, h, hpointed⟩ := exists_pointed places digits
  obtain ⟨hwhole, hfraction⟩ := List.forall_mem_append.mp h.isDigit
  have hnonempty : whole.isEmpty = false := by simpa using h.nonempty
  rw [hpointed]
  split_ifs with hplaces
  · have hnone : fraction = [] := List.length_eq_zero_iff.mp (h.length.trans hplaces)
    have hspan := spanDigits_append hwhole [] (by simp)
    have hvalue := h.value
    rw [List.append_nil] at hspan
    rw [hnone, List.append_nil] at hvalue
    simp [readScaled, hspan, hnonempty, hvalue, hplaces]
  · have hspan := spanDigits_append hwhole ('.' :: fraction) (by simp)
    have hspan' := spanDigits_append hfraction [] (by simp)
    rw [List.append_nil] at hspan'
    simp [readScaled, hspan, hspan', hnonempty, h.value, h.length]

/-- A written decimal begins with a digit. -/
theorem exists_pointed_cons (places digits : Nat) :
    ∃ c rest, pointed places digits = c :: rest ∧ c.isDigit = true := by
  obtain ⟨whole, fraction, h, hpointed⟩ := exists_pointed places digits
  obtain ⟨c, rest, rfl⟩ := List.exists_cons_of_ne_nil h.nonempty
  have hc : c.isDigit = true := h.isDigit c (by simp)
  rw [hpointed]
  split_ifs
  · exact ⟨c, rest, rfl, hc⟩
  · exact ⟨c, rest ++ '.' :: fraction, rfl, hc⟩

/-- What begins with a digit is no word that begins with a letter. -/
theorem lower_cons_ne {c d : Char} (hc : c.isDigit = true) (rest : List Char) (word : String)
    {tail : List Char} (hword : word.toList = d :: tail) (hd : d.isDigit = false) :
    String.ofList (lower (c :: rest)) ≠ word := by
  intro heq
  have hsame : c.toLower = c := by
    refine (toLower_cases c).resolve_right fun ⟨hlow, _, _⟩ => ?_
    have hdigit := (digit_lt hc).2
    have hzero : '0'.toNat = 48 := rfl
    omega
  rw [← heq, String.toList_ofList, lower, List.map_cons, hsame] at hword
  obtain ⟨rfl, -⟩ := List.cons.inj hword
  rw [hc] at hd
  cases hd

/-- A written decimal is read as the double nearest to it. -/
theorem parse_pointed (places digits : Nat) :
    parse (pointed places digits) = some (nearestScaled digits (-(places : Int))) := by
  obtain ⟨c, rest, hcons, hc⟩ := exists_pointed_cons places digits
  have hunsigned : parse (pointed places digits) = readUnsigned (pointed places digits) := by
    rw [hcons]
    unfold parse
    split
    · rename_i heq
      obtain ⟨rfl, -⟩ := List.cons.inj heq
      exact absurd hc (by decide)
    · rename_i heq
      obtain ⟨rfl, -⟩ := List.cons.inj heq
      exact absurd hc (by decide)
    · rfl
  have hinf := lower_cons_ne hc rest "inf" rfl rfl
  have hinfinity := lower_cons_ne hc rest "infinity" rfl rfl
  have hnan := lower_cons_ne hc rest "nan" rfl rfl
  rw [← hcons] at hinf hinfinity hnan
  simp [hunsigned, readUnsigned, hinf, hinfinity, hnan, readScaled_pointed]

end GatewayProbe.Decimal
