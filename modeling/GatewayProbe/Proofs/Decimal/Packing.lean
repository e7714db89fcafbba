import GatewayProbe.Proofs.Decimal.Value

/-!
# Rounded results and their bits

Arithmetic on doubles works on a mantissa with a round bit and a sticky bit, which say
where the exact result lies between two mantissas. Shifting keeps what they say, and
rounding gives the nearest mantissa. So the double that comes out stands for the exact
result, rounded.
-/

namespace GatewayProbe.Decimal

open Float.Model Float.Model.UnpackedFloat

private theorem toNat_packComponents (e : BitVec 11) (m : BitVec 52) :
    (packComponents Format.binary64 .positive e m).toNat = e.toNat * 2 ^ 52 + m.toNat := by
  have hsign : ((Sign.positive.toBitVec ++ e : BitVec 12)).toNat = e.toNat := by
    rw [BitVec.toNat_append]
    simp [Sign.toBitVec]
  change ((Sign.positive.toBitVec ++ e : BitVec 12) ++ m).toNat = _
  rw [BitVec.toNat_append, hsign, ← Nat.shiftLeft_add_eq_or_of_lt m.isLt, Nat.shiftLeft_eq]

/-- The bits of a positive double hold its mantissa at its exponent. -/
theorem toNat_pack {m : Nat} {e : ℤ} (h : 0 < m) (hlt : m < 2 ^ 53) (hleast : -1074 ≤ e)
    (hfull : m < 2 ^ 52 → e = -1074) (hmost : e ≤ 971) :
    (UnpackedFloat.pack Format.binary64 (.finite .positive m e h)).toNat =
      (e + 1074).toNat * 2 ^ 52 + m := by
  have hbias : (e + (Format.binary64.exponentBias : ℤ) +
      (Format.binary64.mantissaBitsWithoutImplicit : ℤ)).toNat = (e + 1075).toNat := by
    rw [add_assoc]
    rfl
  have hfinite : ¬2 ^ Format.binary64.exponentBits ≤ (e + 1075).toNat + 1 := by
    change ¬2 ^ 11 ≤ (e + 1075).toNat + 1
    omega
  unfold UnpackedFloat.pack
  dsimp only
  rw [hbias, if_neg hfinite]
  by_cases hnormal : 2 ^ 52 ≤ m
  · have hlog : m.log2 + 1 = Format.binary64.mantissaBits := by
      have hlow : 52 ≤ m.log2 := (Nat.le_log2 h.ne').mpr hnormal
      have hhigh : m.log2 < 53 := (Nat.log2_lt h.ne').mpr hlt
      change m.log2 + 1 = 53
      omega
    rw [if_pos hlog, toNat_packComponents, BitVec.toNat_ofNat, BitVec.toNat_ofNat]
    omega
  · have hlog : ¬m.log2 + 1 = Format.binary64.mantissaBits := by
      have hhigh : m.log2 < 52 := (Nat.log2_lt h.ne').mpr (by omega)
      change ¬m.log2 + 1 = 53
      omega
    rw [if_neg hlog, toNat_packComponents, BitVec.toNat_ofNat, hfull (by omega)]
    simp only [BitVec.toNat_ofNat]
    omega

/-- A packed positive double denotes its mantissa at its exponent. -/
theorem denotes_pack {m : Nat} {e : ℤ} (h : 0 < m) (hlt : m < 2 ^ 53) (hleast : -1074 ≤ e)
    (hfull : m < 2 ^ 52 → e = -1074) (hmost : e ≤ 971) :
    Denotes (.ofModel (Float.Model.pack (.finite .positive m e h))) (m * 2 ^ e) := by
  have hbits := toNat_pack h hlt hleast hfull hmost
  obtain ⟨b, hread, hvalue⟩ := readBits_carry (k := (e + 1074).toNat) (q := m) (by omega)
    (by omega) (by omega)
  have hexponent : (((e + 1074).toNat : ℤ) - 1074) = e := by omega
  rw [hexponent] at hvalue
  refine Denotes.of_read ?_ hvalue
  rw [← hread, ← hbits]
  rfl

/-- A packed zero of either sign denotes zero. -/
theorem denotes_pack_zero (sign : UnpackedFloat.Sign) :
    Denotes (.ofModel (Float.Model.pack (.zero sign))) 0 := by
  have hread (negative : Bool) : read (.ofModel (Float.Model.pack (.zero (signOf negative)))) =
      .finite negative ⟨0, leastExponent, false⟩ := by
    cases negative <;> decide +kernel
  have hsigned (negative : Bool) :
      Denotes (.ofModel (Float.Model.pack (.zero (signOf negative)))) 0 := by
    rw [Denotes, value?, hread, Reading.value?, Binary.signed_eq_zero rfl]
  cases sign with
  | negative => exact hsigned true
  | positive => exact hsigned false

/-- A mantissa with a round bit and a sticky bit shows where a number lies: above the mantissa
by less than one, and compared with none and with one half as the two bits say. -/
structure Shows (em : ExtendedMantissa) (x : ℚ) : Prop where
  floor_le : (em.mantissa : ℚ) ≤ x
  lt_succ : x < em.mantissa + 1
  roundBit : em.roundBit = true ↔ 1 / 2 ≤ x - em.mantissa
  stickyBit : em.stickyBit = true ↔ x - em.mantissa ≠ 0 ∧ x - em.mantissa ≠ 1 / 2

namespace Shows

variable {em : ExtendedMantissa} {x : ℚ}

/-- A mantissa without further bits shows itself. -/
theorem exact (m : Nat) : Shows (.ofMantissaAndAccuracy m .exact) m := by
  refine ⟨le_rfl, lt_add_one _, ?_, ?_⟩ <;>
    simp [ExtendedMantissa.ofMantissaAndAccuracy]

/-- The bits that show a number with a given fraction. -/
theorem of_fraction {m : Nat} {round sticky : Bool} {f : ℚ} (h0 : 0 ≤ f) (h1 : f < 1)
    (hround : round = true ↔ 1 / 2 ≤ f) (hsticky : sticky = true ↔ f ≠ 0 ∧ f ≠ 1 / 2) :
    Shows ⟨m, round, sticky⟩ (m + f) := by
  refine ⟨?_, ?_, ?_, ?_⟩ <;> simp only [add_sub_cancel_left]
  · linarith
  · linarith
  · exact hround
  · exact hsticky

/-- The rest of a division with its comparison to one half shows the quotient. -/
theorem of_division (m : Nat) {rest den : Nat} (h : rest < den) :
    Shows (.ofMantissaAndAccuracy m (accuracyOfFraction rest den)) (m + rest / den) := by
  have hden : (0 : ℚ) < den := by exact_mod_cast Nat.zero_lt_of_lt h
  have hlt : (rest : ℚ) / den < 1 := (div_lt_one hden).mpr (by exact_mod_cast h)
  have hnonneg : (0 : ℚ) ≤ rest / den := by positivity
  have hzero : (rest : ℚ) / den = 0 ↔ rest = 0 := by
    rw [div_eq_zero_iff, Nat.cast_eq_zero]
    exact or_iff_left hden.ne'
  have hhalf : (1 : ℚ) / 2 ≤ rest / den ↔ den ≤ 2 * rest := by
    rw [div_le_div_iff₀ (by norm_num) hden]
    norm_cast
    omega
  have htie : (rest : ℚ) / den = 1 / 2 ↔ 2 * rest = den := by
    rw [div_eq_div_iff hden.ne' (by norm_num)]
    norm_cast
    omega
  have hbits : ∀ {round sticky : Bool}, (round = true ↔ den ≤ 2 * rest) →
      (sticky = true ↔ rest ≠ 0 ∧ 2 * rest ≠ den) → Shows ⟨m, round, sticky⟩ (m + rest / den) :=
    fun hround hsticky => of_fraction hnonneg hlt (hround.trans hhalf.symm)
      (by rw [hsticky, ne_eq, ne_eq, ne_eq, ne_eq, hzero, htie])
  unfold accuracyOfFraction
  split_ifs with h0
  · rw [hzero.mpr h0, add_zero]
    exact exact m
  · rcases lt_trichotomy (2 * rest) den with hbelow | hat | habove
    · rw [compare_lt_iff_lt.mpr hbelow]
      exact hbits (by simp [hbelow]) (by simp [h0, hbelow.ne])
    · rw [compare_eq_iff_eq.mpr hat]
      exact hbits (by simp [hat]) (by simp [hat])
    · rw [compare_gt_iff_gt.mpr habove]
      exact hbits (by simp [habove.le]) (by simp [h0, habove.ne'])

/-- Shifting by one digit shows half of the number. -/
theorem shiftRightOne (h : Shows em x) : Shows em.shiftRightOne (x / 2) := by
  obtain ⟨m, round, sticky⟩ := em
  obtain ⟨hfloor, hlt, hround, hsticky⟩ := h
  simp only at hfloor hlt hround hsticky
  have hdivMod : (m : ℚ) = 2 * (m / 2 : ℕ) + (m % 2 : ℕ) := by
    exact_mod_cast (Nat.div_add_mod m 2).symm
  have hsplit : x / 2 = (m / 2 : ℕ) + ((m % 2 : ℕ) + (x - m)) / 2 := by
    linarith
  have hrest : (round || sticky) = true ↔ x - m ≠ 0 := by
    rw [Bool.or_eq_true, hround, hsticky]
    constructor
    · rintro (hhalf | ⟨hne, -⟩) hzero
      · linarith
      · exact hne hzero
    · intro hne
      by_cases htie : x - m = 1 / 2
      · exact Or.inl htie.ge
      · exact Or.inr ⟨hne, htie⟩
  rw [hsplit]
  rcases Nat.mod_two_eq_zero_or_one m with hm | hm
  · simp only [ExtendedMantissa.shiftRightOne, hm]
    refine of_fraction ?_ ?_ ?_ ?_
    · push_cast
      linarith
    · push_cast
      linarith
    · simp only [bne_self_eq_false, Bool.false_eq_true, false_iff, not_le]
      push_cast
      linarith
    · rw [hrest]
      push_cast
      constructor
      · exact fun hne => ⟨fun hzero => hne (by linarith), fun htie => by linarith⟩
      · exact fun hne hzero => hne.1 (by linarith)
  · simp only [ExtendedMantissa.shiftRightOne, hm]
    refine of_fraction ?_ ?_ ?_ ?_
    · push_cast
      linarith
    · push_cast
      linarith
    · have hodd : (1 != 0) = true := rfl
      simp only [hodd, true_iff]
      push_cast
      linarith
    · rw [hrest]
      push_cast
      constructor
      · exact fun hne => ⟨fun hzero => by linarith, fun htie => hne (by linarith)⟩
      · exact fun hne hzero => hne.2 (by linarith)

/-- Shifting by several digits shows the number divided by a power of two. -/
theorem shiftRight (h : Shows em x) (k : Nat) : Shows (em >>> k) (x / 2 ^ k) := by
  induction k with
  | zero =>
    rw [pow_zero, div_one]
    exact h
  | succ k ih =>
    rw [pow_succ, ← div_div]
    exact ih.shiftRightOne

/-- The rounded mantissa is the integer nearest to the number shown. -/
theorem roundedMantissa_eq (h : Shows em x) : (em.roundedMantissa : ℤ) = halfEven x := by
  obtain ⟨m, round, sticky⟩ := em
  obtain ⟨hlow, hhigh, hround, hsticky⟩ := h
  simp only at hlow hhigh hround hsticky
  have hfloor : ⌊x⌋ = m := Int.floor_eq_iff.mpr ⟨by exact_mod_cast hlow, by exact_mod_cast hhigh⟩
  unfold halfEven
  rw [hfloor, Int.cast_natCast]
  cases round with
  | false =>
    have hbelow : x - m < 1 / 2 := by simpa using hround
    rw [if_pos hbelow]
    cases sticky <;> rfl
  | true =>
    have habove : 1 / 2 ≤ x - m := hround.mp rfl
    rw [if_neg habove.not_gt]
    cases sticky with
    | true =>
      have hne : x - m ≠ 1 / 2 := (hsticky.mp rfl).2
      rw [if_pos (lt_of_le_of_ne habove hne.symm)]
      rfl
    | false =>
      have htie : x - m = 1 / 2 := by
        by_contra hne
        exact absurd (hsticky.mpr ⟨by linarith, hne⟩) (by simp)
      rw [if_neg htie.not_gt]
      change ((m + m % 2 : ℕ) : ℤ) = _
      split_ifs with heven <;> omega

end Shows

/-- The exponent of a double whose first digit is at a given place. -/
theorem targetExponent_eq (z : ℤ) : Format.binary64.targetExponent z = max (z - 53) (-1074) := by
  have hleast : Format.binary64.minExponent = -1074 := by decide
  have hbits : (Format.binary64.mantissaBits : ℤ) = 53 := rfl
  rw [Format.targetExponent, hleast, hbits]

private theorem targetExponent_eq_max (m : Nat) (e : ℤ) :
    Format.binary64.targetExponent (totalExponent m e) = max (m.log2 + e - 52) (-1074) := by
  rw [targetExponent_eq, totalExponent]
  congr 1
  ring

/-- A mantissa is shifted to the unit of the number it shows. -/
private theorem targetExponent_eq_unit {m : Nat} {e : ℤ} {t : ℚ} (hm : 0 < m) (hlow : (m : ℚ) ≤ t)
    (hhigh : t < m + 1) :
    Format.binary64.targetExponent (totalExponent m e) = unit (t * 2 ^ e) := by
  have ht : 0 < t := lt_of_lt_of_le (by exact_mod_cast hm) hlow
  have hpos : 0 < t * 2 ^ e := by positivity
  have hbelow : ((2 : ℕ) : ℚ) ^ ((m.log2 : ℤ) + e) ≤ t * 2 ^ e := by
    rw [zpow_add₀ (by norm_num)]
    refine mul_le_mul_of_nonneg_right (le_trans ?_ hlow) (by positivity)
    exact_mod_cast Nat.log2_self_le hm.ne'
  have habove : t * 2 ^ e < ((2 : ℕ) : ℚ) ^ ((m.log2 : ℤ) + e + 1) := by
    rw [show (m.log2 : ℤ) + e + 1 = (m.log2 + 1 : ℕ) + e by push_cast; ring,
      zpow_add₀ (by norm_num)]
    refine mul_lt_mul_of_pos_right (lt_of_lt_of_le hhigh ?_) (by positivity)
    exact_mod_cast (Nat.lt_log2_self (n := m) : m + 1 ≤ 2 ^ (m.log2 + 1))
  have hlog : Int.log 2 (t * 2 ^ e) = m.log2 + e := by
    have hle := (Int.zpow_le_iff_le_log (by norm_num) hpos).mp hbelow
    have hlt := (Int.lt_zpow_iff_log_lt (by norm_num) hpos).mp habove
    omega
  rw [targetExponent_eq_max, unit, hlog]

private theorem shiftToTargetExponent_of_lt {q : Nat} {u : ℤ} (hq : q < 2 ^ 53) (hu : -1074 ≤ u) :
    shiftToTargetExponent Format.binary64 q u .exact = (.ofMantissaAndAccuracy q .exact, u) := by
  have hlog : q.log2 ≤ 52 := by
    rcases Nat.eq_zero_or_pos q with rfl | hpos
    · decide
    · exact Nat.le_of_lt_succ ((Nat.log2_lt hpos.ne').mpr hq)
  have hnone : (Format.binary64.targetExponent (totalExponent q u) - u).toNat = 0 := by
    rw [targetExponent_eq_max]
    omega
  simp only [shiftToTargetExponent, shiftToExponent, hnone, Nat.cast_zero, add_zero]
  rfl

private theorem shiftToTargetExponent_full {u : ℤ} (hu : -1074 ≤ u) :
    shiftToTargetExponent Format.binary64 (2 ^ 53) u .exact =
      (.ofMantissaAndAccuracy (2 ^ 52) .exact, u + 1) := by
  have hone : (Format.binary64.targetExponent (totalExponent (2 ^ 53) u) - u).toNat = 1 := by
    rw [targetExponent_eq_max, Nat.log2_two_pow]
    omega
  simp only [shiftToTargetExponent, shiftToExponent, hone, Nat.cast_one]
  rfl

/-- A mantissa at an exponent as an unpacked double. -/
private def assembled (m : Nat) (e : ℤ) : UnpackedFloat :=
  if h : m = 0 then .zero .positive else .finite .positive m e (Nat.pos_of_ne_zero h)

private theorem denotes_assembled {m : Nat} {e : ℤ} (hlt : m < 2 ^ 53) (hleast : -1074 ≤ e)
    (hfull : m < 2 ^ 52 → e = -1074) (hmost : e ≤ 971) :
    Denotes (.ofModel (Float.Model.pack (assembled m e))) (m * 2 ^ e) := by
  unfold assembled
  by_cases hzero : m = 0
  · rw [dif_pos hzero, hzero, Nat.cast_zero, zero_mul]
    exact denotes_pack_zero _
  · rw [dif_neg hzero]
    exact denotes_pack _ hlt hleast hfull hmost

private theorem roundWithAccuracy_eq {m q : Nat} {e u : ℤ} {accuracy : Accuracy}
    {em : ExtendedMantissa}
    (hfirst : shiftToTargetExponent Format.binary64 m e accuracy = (em, u))
    (hq : em.roundedMantissa = q) :
    roundWithAccuracy Format.binary64 .positive m e accuracy =
      assembled (shiftToTargetExponent Format.binary64 q u .exact).1.mantissa
        (shiftToTargetExponent Format.binary64 q u .exact).2 := by
  subst hq
  unfold roundWithAccuracy
  rw [hfirst]
  rfl

/-- A rounded mantissa of one digit too many is shifted without another loss. -/
private theorem denotes_settled {q : Nat} {u : ℤ} (hq : q ≤ 2 ^ 53) (hfull : q < 2 ^ 52 → u = -1074)
    (hleast : -1074 ≤ u) (hmost : u ≤ 970) :
    Denotes (.ofModel (Float.Model.pack
      (assembled (shiftToTargetExponent Format.binary64 q u .exact).1.mantissa
        (shiftToTargetExponent Format.binary64 q u .exact).2))) (q * 2 ^ u) := by
  rcases hq.lt_or_eq with hlt | heq
  · rw [shiftToTargetExponent_of_lt hlt hleast]
    exact denotes_assembled hlt hleast hfull (by omega)
  · have hcarry : (q : ℚ) * 2 ^ u = ((2 ^ 52 : ℕ) : ℚ) * 2 ^ (u + 1) := by
      rw [heq, zpow_add_one₀ (by norm_num)]
      push_cast
      ring
    rw [hcarry, heq, shiftToTargetExponent_full hleast]
    have hmantissa : (ExtendedMantissa.ofMantissaAndAccuracy (2 ^ 52) .exact).mantissa = 2 ^ 52 :=
      rfl
    simp only [hmantissa]
    generalize hm : (2 ^ 52 : ℕ) = m
    exact denotes_assembled (by omega) (by omega) (by omega) (by omega)

/-- A result with a mantissa that shows it at an exponent not above its unit is rounded. -/
theorem denotes_roundWithAccuracy {m : Nat} {e : ℤ} {accuracy : Accuracy} {t : ℚ} (hm : 0 < m)
    (h : Shows (.ofMantissaAndAccuracy m accuracy) t) (he : e ≤ unit (t * 2 ^ e))
    (hfinite : t * 2 ^ e < 2 ^ (1023 : ℤ)) :
    Denotes (.ofModel (Float.Model.pack
      (roundWithAccuracy Format.binary64 .positive m e accuracy))) (rounded (t * 2 ^ e)) := by
  have hmantissa : (ExtendedMantissa.ofMantissaAndAccuracy m accuracy).mantissa = m := by
    rcases accuracy with _ | _ | _ | _ <;> rfl
  have hlow : (m : ℚ) ≤ t := hmantissa ▸ h.floor_le
  have hhigh : t < m + 1 := hmantissa ▸ h.lt_succ
  have hpos : 0 < t * 2 ^ e :=
    mul_pos (lt_of_lt_of_le (by exact_mod_cast hm) hlow) (by positivity)
  obtain ⟨k, hk⟩ := Int.le.dest he
  have hshift := h.shiftRight k
  have hscaled : t / 2 ^ k = t * 2 ^ e / 2 ^ unit (t * 2 ^ e) := by
    rw [← hk, zpow_add₀ (by norm_num), zpow_natCast]
    field_simp
  rw [hscaled] at hshift
  have hround := hshift.roundedMantissa_eq
  have hbits : shiftToTargetExponent Format.binary64 m e accuracy =
      (ExtendedMantissa.ofMantissaAndAccuracy m accuracy >>> k, unit (t * 2 ^ e)) := by
    have hamount : (unit (t * 2 ^ e) - e).toNat = k := by omega
    simp only [shiftToTargetExponent, shiftToExponent, targetExponent_eq_unit hm hlow hhigh,
      hamount, hk]
  generalize hq : (ExtendedMantissa.ofMantissaAndAccuracy m accuracy >>> k).roundedMantissa = q
    at hround
  have hvalue : rounded (t * 2 ^ e) = q * 2 ^ unit (t * 2 ^ e) := by
    rw [rounded, ← hround, Int.cast_natCast]
  have hmost := unit_le_of_lt hpos hfinite
  have hmax : q ≤ 2 ^ 53 := by
    have hle := halfEven_div_unit_le (t * 2 ^ e)
    omega
  have hleast := le_unit (t * 2 ^ e)
  have hfull : q < 2 ^ 52 → unit (t * 2 ^ e) = -1074 := by
    intro hlt
    by_contra hne
    have hge := le_halfEven_div_unit hpos (lt_of_le_of_ne hleast (Ne.symm hne))
    omega
  rw [roundWithAccuracy_eq hbits hq, hvalue]
  exact denotes_settled hmax hfull hleast hmost

end GatewayProbe.Decimal
