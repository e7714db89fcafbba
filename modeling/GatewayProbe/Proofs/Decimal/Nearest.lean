import GatewayProbe.Decimal.Binary
import GatewayProbe.Proofs.Decimal.Rounding

/-!
# The bits of the nearest double

The double nearest to a quotient is found in whole numbers: the quotient is scaled to its
unit, rounded to an integer, and put together with the exponent of the unit. Taking these
bits apart gives back the rounded value.
-/

namespace GatewayProbe.Decimal

/-- The value of a magnitude. -/
def Binary.value (b : Binary) : ℚ := b.mantissa * 2 ^ b.exponent

/-- The nearest integer is found by division with remainder. -/
theorem roundQuotient_eq (num : ℕ) {den : ℕ} (hden : 0 < den) :
    (roundQuotient num den : ℤ) = halfEven (num / den) := by
  have hden' : (0 : ℚ) < den := by exact_mod_cast hden
  have hfloor : ⌊(num : ℚ) / den⌋ = (num / den : ℕ) := by
    rw [Rat.floor_natCast_div_natCast]
    rfl
  have hrest : (num : ℚ) / den - ((num / den : ℕ) : ℚ) = (num % den : ℕ) / den := by
    rw [eq_div_iff hden'.ne', sub_mul, div_mul_cancel₀ _ hden'.ne']
    have hdiv := Nat.div_add_mod num den
    have hcast : ((den * (num / den) + num % den : ℕ) : ℚ) = num := by rw [hdiv]
    push_cast at hcast
    linarith
  have hbelow : ((num % den : ℕ) : ℚ) / den < 1 / 2 ↔ 2 * (num % den) < den := by
    rw [div_lt_div_iff₀ hden' (by norm_num)]
    norm_cast
    omega
  have habove : 1 / 2 < ((num % den : ℕ) : ℚ) / den ↔ den < 2 * (num % den) := by
    rw [div_lt_div_iff₀ (by norm_num) hden']
    norm_cast
    omega
  unfold halfEven roundQuotient
  rw [hfloor]
  simp only [Int.cast_natCast, hrest, hbelow, habove]
  split_ifs <;> first | rfl | omega

/-- A quotient of natural numbers lies between the one without the rest and the next number. -/
theorem div_between (num : ℕ) {den : ℕ} (hden : 0 < den) :
    ((num / den : ℕ) : ℚ) ≤ num / den ∧ (num : ℚ) / den < (num / den : ℕ) + 1 := by
  have hden' : (0 : ℚ) < den := by exact_mod_cast hden
  rw [le_div_iff₀ hden', div_lt_iff₀ hden']
  have hlt := Nat.lt_mul_div_succ num hden
  exact ⟨by exact_mod_cast Nat.div_mul_le_self num den,
    by exact_mod_cast hlt.trans_eq (Nat.mul_comm _ _)⟩

/-- A scaled quotient is the quotient times the power of two. -/
theorem scaleBy_eq (num : ℕ) {den : ℕ} (hden : 0 < den) (shift : ℤ) :
    0 < (scaleBy num den shift).2 ∧
      ((scaleBy num den shift).1 : ℚ) / (scaleBy num den shift).2 = num / den * 2 ^ shift := by
  cases shift with
  | ofNat k =>
    refine ⟨hden, ?_⟩
    simp only [scaleBy, Int.ofNat_eq_natCast, zpow_natCast]
    push_cast
    ring
  | negSucc k =>
    refine ⟨Nat.mul_pos hden (by positivity), ?_⟩
    simp only [scaleBy, zpow_negSucc]
    push_cast
    field_simp

/-- A quotient of natural numbers lies between the powers of two that their lengths give. -/
theorem quotient_between {num den : ℕ} (hnum : 0 < num) (hden : 0 < den) :
    (2 : ℚ) ^ ((num.log2 : ℤ) - den.log2 - 1) < num / den ∧
      (num : ℚ) / den < 2 ^ ((num.log2 : ℤ) - den.log2 + 1) := by
  have hden' : (0 : ℚ) < den := by exact_mod_cast hden
  have hnumLow : (2 : ℚ) ^ (num.log2 : ℤ) ≤ num := by
    exact_mod_cast Nat.log2_self_le hnum.ne'
  have hnumHigh : (num : ℚ) < 2 ^ ((num.log2 : ℤ) + 1) := by
    exact_mod_cast Nat.lt_log2_self
  have hdenLow : (2 : ℚ) ^ (den.log2 : ℤ) ≤ den := by
    exact_mod_cast Nat.log2_self_le hden.ne'
  have hdenHigh : (den : ℚ) < 2 ^ ((den.log2 : ℤ) + 1) := by
    exact_mod_cast Nat.lt_log2_self
  constructor
  · rw [lt_div_iff₀ hden']
    calc (2 : ℚ) ^ ((num.log2 : ℤ) - den.log2 - 1) * den
        < 2 ^ ((num.log2 : ℤ) - den.log2 - 1) * 2 ^ ((den.log2 : ℤ) + 1) :=
          mul_lt_mul_of_pos_left hdenHigh (by positivity)
      _ = 2 ^ (num.log2 : ℤ) := by
          rw [← zpow_add₀ (by norm_num)]
          congr 1
          ring
      _ ≤ num := hnumLow
  · rw [div_lt_iff₀ hden']
    calc (num : ℚ) < 2 ^ ((num.log2 : ℤ) + 1) := hnumHigh
      _ = 2 ^ ((num.log2 : ℤ) - den.log2 + 1) * 2 ^ (den.log2 : ℤ) := by
          rw [← zpow_add₀ (by norm_num)]
          congr 1
          ring
      _ ≤ 2 ^ ((num.log2 : ℤ) - den.log2 + 1) * den :=
          mul_le_mul_of_nonneg_left hdenLow (by positivity)

/-- The exponent found from the lengths of numerator and denominator is that of the unit. -/
theorem unitExponent_eq {num den : ℕ} (hnum : 0 < num) (hden : 0 < den) :
    unitExponent num den = unit (num / den) := by
  have hpos : (0 : ℚ) < num / den := by positivity
  obtain ⟨hlow, hhigh⟩ := quotient_between hnum hden
  have hlog : Int.log 2 ((num : ℚ) / den) < (num.log2 : ℤ) - den.log2 + 1 :=
    (Int.lt_zpow_iff_log_lt (by norm_num) hpos).mp (by exact_mod_cast hhigh)
  have hlog' : (num.log2 : ℤ) - den.log2 - 1 ≤ Int.log 2 ((num : ℚ) / den) :=
    (Int.zpow_le_iff_le_log (by norm_num) hpos).mp (by exact_mod_cast hlow.le)
  have hguess : (scaleBy num den (-((num.log2 : ℤ) - den.log2 - 52))).1 <
      (scaleBy num den (-((num.log2 : ℤ) - den.log2 - 52))).2 * 2 ^ 52 ↔
        Int.log 2 ((num : ℚ) / den) < (num.log2 : ℤ) - den.log2 := by
    obtain ⟨hd, hscaled⟩ := scaleBy_eq num hden (-((num.log2 : ℤ) - den.log2 - 52))
    rw [← Int.lt_zpow_iff_log_lt (by norm_num) hpos]
    generalize scaleBy num den (-((num.log2 : ℤ) - den.log2 - 52)) = scaled at hd hscaled
    have hd' : (0 : ℚ) < scaled.2 := by exact_mod_cast hd
    have hlt : scaled.1 < scaled.2 * 2 ^ 52 ↔ (scaled.1 : ℚ) / scaled.2 < 2 ^ (52 : ℤ) := by
      rw [div_lt_iff₀ hd', mul_comm]
      norm_cast
    rw [hlt, hscaled, zpow_neg, ← div_eq_mul_inv, div_lt_iff₀ (by positivity),
      ← zpow_add₀ (by norm_num)]
    push_cast
    rw [add_sub_cancel]
  unfold unitExponent unit leastExponent
  simp only [hguess]
  split_ifs <;> omega

/-- Bits with an exponent above the least stand for fifty-three digits, the first a one. -/
private theorem readBits_normal (biased fraction : ℕ) (hpos : 0 < biased)
    (hfinite : biased < 2047) (hfraction : fraction < 2 ^ 52) :
    ∃ narrow, readBits (biased * 2 ^ 52 + fraction) =
      .finite false ⟨2 ^ 52 + fraction, leastExponent + ((biased : ℤ) - 1), narrow⟩ := by
  have hsign : (biased * 2 ^ 52 + fraction) / 2 ^ 63 % 2 = 0 := by omega
  have hbiased : (biased * 2 ^ 52 + fraction) / 2 ^ 52 % 2 ^ 11 = biased := by omega
  have hrest : (biased * 2 ^ 52 + fraction) % 2 ^ 52 = fraction := by omega
  refine ⟨fraction = 0 && 1 < biased, ?_⟩
  simp only [readBits, hsign, hbiased, hrest]
  rw [if_neg (by omega), if_neg (by omega)]
  rfl

/-- Bits that hold an exponent and up to fifty-three binary digits stand for these digits at
this exponent, also when the digits are one too many and carry into the exponent. -/
theorem readBits_carry {k q : ℕ} (hq : q ≤ 2 ^ 53) (hk : q < 2 ^ 52 → k = 0)
    (hfinite : k * 2 ^ 52 + q < 2047 * 2 ^ 52) :
    ∃ b, readBits (k * 2 ^ 52 + q) = .finite false b ∧ b.value = q * 2 ^ ((k : ℤ) - 1074) := by
  by_cases hsmall : q < 2 ^ 52
  · obtain rfl := hk hsmall
    have hsign : (0 * 2 ^ 52 + q) / 2 ^ 63 % 2 = 0 := by omega
    have hbiased : (0 * 2 ^ 52 + q) / 2 ^ 52 % 2 ^ 11 = 0 := by omega
    have hfraction : (0 * 2 ^ 52 + q) % 2 ^ 52 = q := by omega
    refine ⟨⟨q, leastExponent, false⟩, ?_, ?_⟩
    · simp only [readBits, hsign, hbiased, hfraction]
      rfl
    · simp [Binary.value, leastExponent]
  · by_cases hfull : q = 2 ^ 53
    · obtain ⟨narrow, hread⟩ := readBits_normal (k + 2) 0 (by omega) (by omega) (by omega)
      have hbits : k * 2 ^ 52 + q = (k + 2) * 2 ^ 52 + 0 := by omega
      refine ⟨_, (congrArg readBits hbits).trans hread, ?_⟩
      simp only [Binary.value, leastExponent, hfull]
      have hexponent : (-1074 + (((k + 2 : ℕ) : ℤ) - 1)) = 1 + ((k : ℤ) - 1074) := by
        push_cast
        ring
      rw [hexponent, zpow_add₀ (by norm_num)]
      push_cast
      ring
    · obtain ⟨narrow, hread⟩ := readBits_normal (k + 1) (q - 2 ^ 52) (by omega) (by omega)
        (by omega)
      have hbits : k * 2 ^ 52 + q = (k + 1) * 2 ^ 52 + (q - 2 ^ 52) := by omega
      refine ⟨_, (congrArg readBits hbits).trans hread, ?_⟩
      have hdigits : 2 ^ 52 + (q - 2 ^ 52) = q := by omega
      have hexponent : (-1074 + (((k + 1 : ℕ) : ℤ) - 1)) = (k : ℤ) - 1074 := by
        push_cast
        ring
      simp only [Binary.value, leastExponent, hdigits, hexponent]

/-- The bits of the nearest double stand for the rounded quotient, if it is not too large. -/
theorem readBits_nearestBits {num den : ℕ} (hnum : 0 < num) (hden : 0 < den)
    (hfinite : (num : ℚ) / den < 2 ^ (1023 : ℤ)) :
    nearestBits num den < 2047 * 2 ^ 52 ∧ ∃ b, readBits (nearestBits num den) = .finite false b ∧
      b.value = rounded (num / den) := by
  have hpos : (0 : ℚ) < num / den := by positivity
  obtain ⟨hd, hscaled⟩ := scaleBy_eq num hden (-unit ((num : ℚ) / den))
  have hround := roundQuotient_eq (scaleBy num den (-unit ((num : ℚ) / den))).1 hd
  rw [hscaled, zpow_neg, ← div_eq_mul_inv] at hround
  have hbits : nearestBits num den = packedBits (unit ((num : ℚ) / den))
      (roundQuotient (scaleBy num den (-unit ((num : ℚ) / den))).1
        (scaleBy num den (-unit ((num : ℚ) / den))).2) := by
    rw [nearestBits, unitExponent_eq hnum hden]
  generalize roundQuotient (scaleBy num den (-unit ((num : ℚ) / den))).1
    (scaleBy num den (-unit ((num : ℚ) / den))).2 = q at hround hbits
  rw [packedBits] at hbits
  obtain ⟨k, hk⟩ := Int.le.dest (le_unit ((num : ℚ) / den))
  have hshift : (unit ((num : ℚ) / den) - leastExponent).toNat = k := by
    rw [leastExponent]
    omega
  have hmost := unit_le_of_lt hpos hfinite
  have hq : q ≤ 2 ^ 53 := by
    have hle := halfEven_div_unit_le ((num : ℚ) / den)
    omega
  have hfew : q < 2 ^ 52 → k = 0 := by
    intro hlt
    by_contra hne
    have hge := le_halfEven_div_unit hpos (by omega : -1074 < unit ((num : ℚ) / den))
    omega
  rw [hshift, Nat.min_eq_left (by omega)] at hbits
  obtain ⟨b, hread, hvalue⟩ := readBits_carry hq hfew (by omega)
  refine ⟨by omega, b, by rw [hbits, hread], ?_⟩
  rw [hvalue, rounded, ← hround]
  have hexponent : (k : ℤ) - 1074 = unit ((num : ℚ) / den) := by omega
  rw [hexponent]
  rfl

end GatewayProbe.Decimal
