import GatewayProbe.Proofs.Decimal.Arithmetic
import GatewayProbe.Proofs.Decimal.Layout
import GatewayProbe.Proofs.Decimal.Shortest

/-!
# Written doubles are read back

A positive double is the only one that denotes its number. It is written with digits that round to
it, and what is read is the double nearest to these; so it is the double that was written.
-/

namespace GatewayProbe.Decimal

/-! ## One double for each number -/

/-- The bits of a positive double are its mantissa at its exponent. -/
theorem bits_of_readBits {bits : Nat} {b : Binary} (hlt : bits < 2 ^ 64)
    (h : readBits bits = .finite false b) :
    bits = (b.exponent + 1074).toNat * 2 ^ 52 + b.mantissa := by
  unfold readBits leastExponent at h
  simp only at h
  split_ifs at h with h1 h2 h3
  · obtain ⟨hsign, rfl⟩ := Reading.finite.inj h
    have hsign := of_decide_eq_false hsign
    simp only
    omega
  · obtain ⟨hsign, rfl⟩ := Reading.finite.inj h
    have hsign := of_decide_eq_false hsign
    simp only
    omega

/-- Doubles with the same bits are the same. -/
theorem toBits_injective {x y : Float} (h : x.toBits = y.toBits) : x = y := by
  obtain ⟨⟨bits, hx⟩⟩ := x
  obtain ⟨⟨bits', hy⟩⟩ := y
  obtain rfl : bits = bits' := h
  rfl

/-- Magnitudes of doubles are the same if their values are. -/
theorem Binary.Canonical.eq_of_value_eq {b c : Binary} (hb : b.Canonical) (hc : c.Canonical)
    (h : b.value = c.value) : b.exponent = c.exponent ∧ b.mantissa = c.mantissa := by
  have hcompare := hb.compare_eq hc
  rw [h, cmp_self_eq_eq, Ordering.then_eq_eq] at hcompare
  exact ⟨compare_eq_iff_eq.mp hcompare.1, compare_eq_iff_eq.mp hcompare.2⟩

/-- No two doubles denote the same positive number. -/
theorem Denotes.inj {x y : Float} {a : ℚ} (hx : Denotes x a) (hy : Denotes y a) (ha : 0 < a) :
    x = y := by
  obtain ⟨b, hb, hbc, -, hbv⟩ := hx.exists_read ha
  obtain ⟨c, hc, hcc, -, hcv⟩ := hy.exists_read ha
  obtain ⟨hexponent, hmantissa⟩ := hbc.eq_of_value_eq hcc (hbv.trans hcv.symm)
  have hbits : x.toBits.toNat = y.toBits.toNat := by
    rw [bits_of_readBits x.toBits.toNat_lt hb, bits_of_readBits y.toBits.toNat_lt hc, hexponent,
      hmantissa]
  exact toBits_injective (UInt64.toNat_inj.mp hbits)

/-! ## Reading decimals -/

/-- A decimal in the range of the doubles is read as the double nearest to it. -/
theorem nearestScaled_eq {places digits : Nat} (hdigits : 0 < digits)
    (hlow : (10 : ℚ) ^ (-400 : Int) ≤ digits / 10 ^ places)
    (hhigh : (digits : ℚ) / 10 ^ places < 10 ^ (400 : Int)) :
    nearestScaled digits (-(places : Int)) = nearest digits (10 ^ places) := by
  have hpower : (0 : ℚ) < 10 ^ places := by positivity
  have hmost : ¬ (400 < -(places : Int) + ((Nat.toDigits 10 digits).length : Int)) := by
    intro hlong
    have hlt : digits < 10 ^ (400 + places) := by
      rw [div_lt_iff₀ hpower, ← zpow_natCast, ← zpow_add₀ (by norm_num)] at hhigh
      exact_mod_cast hhigh
    have hle := (Nat.length_toDigits_le_iff (by decide) (by omega)).mpr hlt
    omega
  have hleast : ¬ (-(places : Int) + ((Nat.toDigits 10 digits).length : Int) < -400) := by
    intro hshort
    obtain ⟨k, rfl⟩ : ∃ k, places = k + 401 := ⟨places - 401, by omega⟩
    have hsome := Nat.length_toDigits_pos (b := 10) (n := digits)
    have hlt : digits < 10 ^ k := (Nat.length_toDigits_le_iff (by decide) (by omega)).mp (by omega)
    rw [le_div_iff₀ hpower, ← zpow_natCast, ← zpow_add₀ (by norm_num)] at hlow
    have hle : (10 : ℚ) ^ (k : Int) ≤ digits :=
      (zpow_le_zpow_right₀ (by norm_num) (by push_cast; omega)).trans hlow
    have hle : 10 ^ k ≤ digits := by exact_mod_cast hle
    omega
  unfold nearestScaled
  dsimp only
  rw [if_neg hdigits.ne', if_neg hmost, if_neg hleast]
  cases places with
  | zero => simp
  | succ k => rfl

/-- A decimal set without an exponent is the digits of its value with their places. -/
theorem exists_positional (s : Scaled) (hs : s.digits ≠ 0) : ∃ places digits, 0 < digits ∧
    s.positional false = pointed places digits ∧ (digits : ℚ) / 10 ^ places = s.value := by
  obtain ⟨digits, exponent⟩ := s
  cases exponent with
  | ofNat k =>
    refine ⟨0, digits * 10 ^ k, Nat.mul_pos (Nat.pos_of_ne_zero hs) (by positivity), ?_, ?_⟩
    · rw [pointed_zero]
      rfl
    · simp [Scaled.value]
  | negSucc k =>
    refine ⟨k + 1, digits, Nat.pos_of_ne_zero hs, rfl, ?_⟩
    simp [Scaled.value, zpow_negSucc, div_eq_mul_inv]

/-- A positive double is written as the shortest digits of its magnitude. -/
theorem toList_text {x : Float} {b : Binary} (h : read x = .finite false b) :
    (text x).toList = (b.shortest .up).positional false := by
  have hpositional : Layout.plain.isPositional (b.shortest .up) = true := by
    simp [Layout.isPositional, Layout.plain]
  unfold text Layout.write
  rw [h]
  dsimp only
  rw [show Layout.plain.tie = .up from rfl, hpositional, if_pos rfl, String.toList_ofList]
  rfl

namespace Binary

variable {b : Binary} {v : ℚ}

/-- A magnitude that is not among the largest has a smaller exponent than they have. -/
theorem Canonical.exponent_le (hc : b.Canonical) (hmax : b.value < 2 ^ (1023 : Int)) :
    b.exponent ≤ 970 := by
  by_contra hlarge
  have hfull : 2 ^ 52 ≤ b.mantissa := by
    by_contra hfew
    have hleast := hc.full (by omega)
    omega
  have hfull' : (2 : ℚ) ^ (52 : Int) ≤ b.mantissa := by exact_mod_cast hfull
  refine absurd hmax (not_lt.mpr ?_)
  calc (2 : ℚ) ^ (1023 : Int) ≤ 2 ^ (52 + b.exponent) :=
        zpow_le_zpow_right₀ (by norm_num) (by omega)
    _ = 2 ^ (52 : Int) * 2 ^ b.exponent := zpow_add₀ (by norm_num) _ _
    _ ≤ b.value := mul_le_mul_of_nonneg_right hfull' (by positivity)

/-- What rounds to a magnitude is not much smaller than the least one. -/
theorem Rounds.le (h : b.Rounds v) (hc : b.Canonical) (hpos : 0 < b.mantissa) :
    (10 : ℚ) ^ (-400 : Int) ≤ v := by
  have hm : (1 : ℚ) ≤ b.mantissa := by exact_mod_cast hpos
  have hleast := hc.least
  calc (10 : ℚ) ^ (-400 : Int) ≤ 2 ^ (-1075 : Int) := ten_zpow_le (by decide) (by decide)
    _ ≤ 2 ^ (b.exponent - 1) := zpow_le_zpow_right₀ (by norm_num) (by omega)
    _ = 1 / 2 * 2 ^ b.exponent := by
        rw [zpow_sub_one₀ (by norm_num)]
        ring
    _ ≤ (b.mantissa - b.below) * 2 ^ b.exponent :=
        mul_le_mul_of_nonneg_right (by linarith [b.below_le]) (by positivity)
    _ ≤ v := h.low

/-- Nor is it larger than the magnitudes that are not among the largest. -/
theorem Rounds.lt (h : b.Rounds v) (hc : b.Canonical) (hmax : b.value < 2 ^ (1023 : Int)) :
    v < 2 ^ (1023 : Int) := by
  have hexponent := hc.exponent_le hmax
  have hm : (b.mantissa : ℚ) + 1 / 2 < 2 ^ (53 : Int) := by
    have hlt : (b.mantissa : ℚ) + 1 ≤ 2 ^ (53 : Int) := by exact_mod_cast hc.lt
    linarith
  calc v ≤ (b.mantissa + 1 / 2) * 2 ^ b.exponent := h.high
    _ < 2 ^ (53 : Int) * 2 ^ b.exponent := mul_lt_mul_of_pos_right hm (by positivity)
    _ = 2 ^ (53 + b.exponent) := (zpow_add₀ (by norm_num) _ _).symm
    _ ≤ 2 ^ (1023 : Int) := zpow_le_zpow_right₀ (by norm_num) (by omega)

end Binary

private theorem two_zpow_lt : (2 : ℚ) ^ (1023 : Int) < 10 ^ (400 : Int) := by
  calc (2 : ℚ) ^ (1023 : Int) = 8 ^ (341 : Int) := by
        rw [show (1023 : Int) = 3 * 341 by decide, zpow_mul]
        norm_num
    _ ≤ 10 ^ (341 : Int) := zpow_le_zpow_left₀ (by decide) (by norm_num) (by norm_num)
    _ < 10 ^ (400 : Int) := zpow_lt_zpow_right₀ (by norm_num) (by decide)

/-- A positive double is read back as it was written. -/
theorem parse_text {x : Float} {a : ℚ} (hx : Denotes x a) (ha : 0 < a)
    (hmax : a < 2 ^ (1023 : Int)) : parse (text x).toList = some x := by
  obtain ⟨b, hread, hc, hpos, rfl⟩ := hx.exists_read ha
  obtain ⟨hrounds, hdigits⟩ := Binary.rounds_shortest hc hpos .up
  obtain ⟨places, digits, hsome, hwritten, hvalue⟩ := exists_positional _ hdigits
  rw [← hvalue] at hrounds
  have hround := hrounds.rounded_eq hc (Binary.spaced_of_readBits hread) hpos
  have hlow := hrounds.le hc hpos
  have hhigh := hrounds.lt hc hmax
  have hnearest : Denotes (nearest digits (10 ^ places)) b.value := by
    have hfinite : (digits : ℚ) / (10 ^ places : ℕ) < 2 ^ (1023 : Int) := by exact_mod_cast hhigh
    have h := Denotes.nearest hsome (show 0 < 10 ^ places by positivity) hfinite
    rwa [Nat.cast_pow, Nat.cast_ofNat, hround] at h
  rw [toList_text hread, hwritten, parse_pointed, nearestScaled_eq hsome hlow
    (hhigh.trans two_zpow_lt), hnearest.inj hx ha]

end GatewayProbe.Decimal
