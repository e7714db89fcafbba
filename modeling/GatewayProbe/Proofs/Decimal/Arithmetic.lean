import GatewayProbe.Proofs.Decimal.Packing

/-!
# Arithmetic on doubles

Product and quotient of positive doubles denote the exact product and quotient, rounded, as
long as these are neither too large nor, for a quotient, below the least double. The nearest
double to a quotient of natural numbers denotes the rounded quotient, and the ceiling of a
double is the one of the number it denotes.
-/

namespace GatewayProbe.Decimal

open Float.Model Float.Model.UnpackedFloat

/-- Bits that stand for a magnitude without a sign give a double that denotes its value. -/
theorem denotes_ofBits {bits : UInt64} {m : Binary} (h : readBits bits.toNat = .finite false m) :
    Denotes (Float.ofBits bits) m.value := by
  have hcanonical := canonical_of_readBits h
  have hunpack : UnpackedFloat.unpack Format.binary64 bits.toBitVec =
      (Reading.finite false m).unpacked :=
    (unpack_bits bits.toBitVec).trans (congrArg Reading.unpacked h)
  change Denotes (.ofModel (Float.Model.pack
    (UnpackedFloat.unpack Format.binary64 bits.toBitVec))) m.value
  rw [hunpack, Reading.unpacked]
  by_cases hzero : m.mantissa = 0
  · rw [dif_pos hzero, Binary.value_eq_zero hzero]
    exact denotes_pack_zero _
  · rw [dif_neg hzero]
    exact denotes_pack _ hcanonical.lt hcanonical.least hcanonical.full hcanonical.most

/-- A quotient is its integer part after a shift with the rest of the division. -/
private theorem quotient_shifted (m : ℕ) {n : ℕ} (hn : 0 < n) (k : ℕ) (u : ℤ) :
    (m : ℚ) / n * 2 ^ (u + k) =
      (((m <<< k / n : ℕ) : ℚ) + ((m <<< k % n : ℕ) : ℚ) / n) * 2 ^ u := by
  have hn' : (n : ℚ) ≠ 0 := by exact_mod_cast hn.ne'
  have hdivMod : (m : ℚ) * 2 ^ k = n * (m <<< k / n : ℕ) + (m <<< k % n : ℕ) := by
    rw [← Nat.cast_mul, ← Nat.cast_add, Nat.div_add_mod, Nat.shiftLeft_eq]
    push_cast
    rfl
  rw [zpow_add₀ (by norm_num), zpow_natCast]
  field_simp
  linarith

/-- A double as a natural number has at most 64 binary digits. -/
theorem toWord_le (divide : ℕ → ℕ → ℕ) (x : Float) : toWord divide x ≤ greatestWord := by
  unfold toWord
  cases read x with
  | nan => exact Nat.zero_le _
  | infinite negative => cases negative <;> simp
  | finite negative b =>
    cases negative
    · exact Nat.min_le_right _ _
    · exact Nat.zero_le _

private theorem ceilDiv_eq (num : ℕ) {den : ℕ} (hden : 0 < den) :
    (num + (den - 1)) / den = ⌈(num : ℚ) / den⌉₊ := by
  have hden' : (0 : ℚ) < den := by exact_mod_cast hden
  refine eq_of_forall_ge_iff fun c => ?_
  have hcast : (num : ℚ) ≤ c * den ↔ num ≤ den * c := by
    rw [mul_comm]
    norm_cast
  rw [Nat.ceil_le, div_le_iff₀ hden', Nat.div_le_iff_le_mul_add_pred hden, hcast]
  omega

/-- A magnitude is the quotient of the two numbers that stand for it. -/
theorem Binary.quotient_eq (m : Binary) :
    0 < (m.quotient 1).2 ∧ ((m.quotient 1).1 : ℚ) / (m.quotient 1).2 = m.value := by
  obtain ⟨hden, hscaled⟩ := scaleBy_eq (m.mantissa * 1) Nat.one_pos m.exponent
  refine ⟨hden, ?_⟩
  rw [Binary.quotient, hscaled, Binary.value, mul_one, Nat.cast_one, div_one]

namespace Denotes

variable {x y : Float} {a b : ℚ}

/-- A product of positive doubles denotes the rounded product. -/
theorem mul (hx : Denotes x a) (hy : Denotes y b) (ha : 0 < a) (hb : 0 < b)
    (hfinite : a * b < 2 ^ (1023 : ℤ)) : Denotes (x * y) (rounded (a * b)) := by
  obtain ⟨m, hm, hmc, rfl, hmx⟩ := hx.exists_unpack ha
  obtain ⟨n, hn, hnc, rfl, hny⟩ := hy.exists_unpack hb
  have hmul : x * y = .ofModel (Float.Model.pack (UnpackedFloat.mul Format.binary64
    x.toModel.unpack y.toModel.unpack)) := rfl
  have hproduct : m.value * n.value =
      ((m.mantissa * n.mantissa : ℕ) : ℚ) * 2 ^ (m.exponent + n.exponent) := by
    rw [Binary.value, Binary.value, zpow_add₀ (by norm_num)]
    push_cast
    ring
  have hpos : 0 < m.mantissa * n.mantissa := Nat.mul_pos hm hn
  rw [hproduct] at hfinite ⊢
  have hexponent : m.exponent + n.exponent ≤
      unit (((m.mantissa * n.mantissa : ℕ) : ℚ) * 2 ^ (m.exponent + n.exponent)) := by
    by_cases hfull : 2 ^ 52 ≤ m.mantissa * n.mantissa
    · refine le_unit_of_le ?_
      rw [zpow_add₀ (by norm_num)]
      exact mul_le_mul_of_nonneg_right (by exact_mod_cast hfull) (by positivity)
    · -- both factors are below the least normal double
      have hmle := Nat.le_mul_of_pos_right m.mantissa hn
      have hnle := Nat.le_mul_of_pos_left n.mantissa hm
      have hme := hmc.full (by omega)
      have hne := hnc.full (by omega)
      exact le_trans (by omega) (le_unit _)
  rw [hmul, hmx, hny]
  exact denotes_roundWithAccuracy hpos (Shows.exact _) hexponent hfinite

/-- A zero of either sign times a positive double is zero. -/
theorem zero_mul (hx : Denotes x 0) (hy : Denotes y b) (hb : 0 < b) : Denotes (x * y) 0 := by
  obtain ⟨negative, m, hread, hm⟩ := hx.exists_read_zero
  obtain ⟨n, hn, -, -, hny⟩ := hy.exists_unpack hb
  have hmul : x * y = .ofModel (Float.Model.pack (UnpackedFloat.mul Format.binary64
    x.toModel.unpack y.toModel.unpack)) := rfl
  rw [hmul, hny, unpack_eq, hread, Reading.unpacked, dif_pos hm]
  exact denotes_pack_zero _

/-- The mantissa of a quotient is found at an exponent not above the one of the quotient. -/
private theorem divCore_eq (m n : ℕ) (e f : ℤ) : ∃ (k : ℕ) (u : ℤ), u + k = e - f ∧
    u ≤ max ((m.log2 : ℤ) - n.log2 + (e - f) - 53) (-1074) ∧
    divCore Format.binary64 m e n f =
      (m <<< k / n, u, accuracyOfFraction (m <<< k % n) n) := by
  refine ⟨_, _, ?_, ?_, rfl⟩
  · omega
  · rw [targetExponent_eq, totalExponent, totalExponent]
    omega

/-- A quotient of positive doubles denotes the rounded quotient. -/
theorem div (hx : Denotes x a) (hy : Denotes y b) (ha : 0 < a) (hb : 0 < b)
    (hleast : 2 ^ (-1074 : ℤ) ≤ a / b) (hfinite : a / b < 2 ^ (1023 : ℤ)) :
    Denotes (x / y) (rounded (a / b)) := by
  obtain ⟨m, hm, hmc, rfl, hmx⟩ := hx.exists_unpack ha
  obtain ⟨n, hn, hnc, rfl, hny⟩ := hy.exists_unpack hb
  have hdiv : x / y = .ofModel (Float.Model.pack (UnpackedFloat.div Format.binary64
    x.toModel.unpack y.toModel.unpack)) := rfl
  obtain ⟨k, u, hk, hu, hcore⟩ :=
    divCore_eq m.mantissa n.mantissa m.exponent n.exponent
  have hquotient : m.value / n.value =
      (m.mantissa : ℚ) / n.mantissa * 2 ^ (m.exponent - n.exponent) := by
    rw [Binary.value, Binary.value, zpow_sub₀ (by norm_num)]
    field_simp
  have hunit : u ≤ unit (m.value / n.value) := by
    refine hu.trans (max_le_max ?_ le_rfl)
    have hlow : ((2 : ℕ) : ℚ) ^ ((m.mantissa.log2 : ℤ) - n.mantissa.log2 - 1 +
        (m.exponent - n.exponent)) ≤ m.value / n.value := by
      rw [hquotient, zpow_add₀ (by norm_num)]
      exact mul_le_mul_of_nonneg_right (quotient_between hm hn).1.le (by positivity)
    have hlog := (Int.zpow_le_iff_le_log (by norm_num) (div_pos ha hb)).mp hlow
    omega
  have hshown := quotient_shifted m.mantissa hn k u
  rw [hk, ← hquotient] at hshown
  have hpos : 0 < m.mantissa <<< k / n.mantissa := by
    have hle : (2 : ℚ) ^ u ≤ m.value / n.value :=
      (zpow_le_zpow_right₀ (by norm_num) hunit).trans (unit_le hleast)
    rw [hshown, le_mul_iff_one_le_left (by positivity)] at hle
    have hrest : ((m.mantissa <<< k % n.mantissa : ℕ) : ℚ) / n.mantissa < 1 :=
      (div_lt_one (by exact_mod_cast hn)).mpr (by exact_mod_cast Nat.mod_lt _ hn)
    by_contra hzero
    rw [Nat.eq_zero_of_not_pos hzero, Nat.cast_zero] at hle
    linarith
  rw [hshown] at hunit hfinite ⊢
  rw [hdiv, hmx, hny]
  change Denotes (.ofModel (Float.Model.pack (roundWithAccuracy Format.binary64 .positive
    (divCore Format.binary64 m.mantissa m.exponent n.mantissa n.exponent).1
    (divCore Format.binary64 m.mantissa m.exponent n.mantissa n.exponent).2.1
    (divCore Format.binary64 m.mantissa m.exponent n.mantissa n.exponent).2.2))) _
  rw [hcore]
  exact denotes_roundWithAccuracy hpos (Shows.of_division _ (Nat.mod_lt _ hn)) hunit hfinite

/-- The double nearest to a quotient denotes the rounded quotient. -/
theorem nearest {num den : ℕ} (hnum : 0 < num) (hden : 0 < den)
    (hfinite : (num : ℚ) / den < 2 ^ (1023 : ℤ)) :
    Denotes (nearest num den) (rounded (num / den)) := by
  obtain ⟨hlt, m, hread, hvalue⟩ := readBits_nearestBits hnum hden hfinite
  have hbits : (UInt64.ofNat (nearestBits num den)).toNat = nearestBits num den := by
    rw [UInt64.toNat_ofNat']
    exact Nat.mod_eq_of_lt (by omega)
  rw [Decimal.nearest, if_neg hnum.ne', ← hvalue]
  exact denotes_ofBits (by rw [hbits, hread])

/-- A positive natural number is rounded to a double. -/
theorem ofNat {n : ℕ} (hn : 0 < n) (hfinite : (n : ℚ) < 2 ^ (1023 : ℤ)) :
    Denotes (ofNat n) (rounded n) := by
  have h := nearest hn Nat.one_pos (by rwa [Nat.cast_one, div_one])
  rwa [Nat.cast_one, div_one] at h

/-- A natural number of at most fifty-three binary digits is a double. -/
theorem ofNat_of_lt {n : ℕ} (hn : 0 < n) (hmax : n < 2 ^ 53) : Denotes (Decimal.ofNat n) n := by
  have hself := rounded_eq_self (e := 0) hn hmax (by norm_num)
  have hfinite : (n : ℚ) < 2 ^ (1023 : ℤ) := by
    have hlt : (n : ℚ) < 2 ^ (53 : ℤ) := by exact_mod_cast hmax
    exact hlt.trans (zpow_lt_zpow_right₀ (by norm_num) (by norm_num))
  have h := ofNat hn hfinite
  rw [zpow_zero, mul_one] at hself
  rwa [hself] at h

theorem zero : Denotes 0.0 0 := by
  have hread : read 0.0 = .finite false ⟨0, -1074, false⟩ := by decide +kernel
  exact of_read hread (Binary.value_eq_zero rfl)

theorem one : Denotes 1.0 1 := by
  have hread : read 1.0 = .finite false ⟨2 ^ 52, -52, true⟩ := by decide +kernel
  exact of_read hread (by norm_num [Binary.value])

theorem thousand : Denotes 1000.0 1000 := by
  have hread : read 1000.0 = .finite false ⟨125 * 2 ^ 46, -43, false⟩ := by decide +kernel
  exact of_read hread (by norm_num [Binary.value])

/-- The ceiling of a double is the one of the number it denotes, up to the greatest word. -/
theorem ceiling_eq (hx : Denotes x a) (ha : 0 < a) : ceiling x = min ⌈a⌉₊ greatestWord := by
  obtain ⟨m, hread, -, hm, rfl⟩ := hx.exists_read ha
  unfold ceiling toWord
  rw [hread, ← m.quotient_eq.2]
  exact congrArg (min · greatestWord) (ceilDiv_eq _ m.quotient_eq.1)

/-- The ceiling of a zero of either sign is zero. -/
theorem ceiling_zero (hx : Denotes x 0) : ceiling x = 0 := by
  obtain ⟨negative, m, hread, hm⟩ := hx.exists_read_zero
  have hnone : ((m.quotient 1).1 + ((m.quotient 1).2 - 1)) / (m.quotient 1).2 = 0 := by
    rw [ceilDiv_eq _ m.quotient_eq.1, m.quotient_eq.2, Binary.value_eq_zero hm, Nat.ceil_zero]
  unfold ceiling toWord
  rw [hread]
  dsimp only
  rw [hnone, Nat.zero_min, ite_self]

end Denotes

end GatewayProbe.Decimal
