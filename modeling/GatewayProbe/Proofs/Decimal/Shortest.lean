import GatewayProbe.Decimal.Shortest
import GatewayProbe.Proofs.Decimal.Value

/-!
# The shortest digits read back

A number that rounds to a magnitude lies between the middles of the gaps to its two neighbours.
The search goes from coarse to fine grids and stops at the first that has a point there, and the
finest grid of the search always has one. So the digits that are found stand for a number that
rounds to the magnitude.
-/

namespace GatewayProbe.Decimal

namespace Binary

/-- The part of the unit by which a number may lie below a magnitude. -/
def below (b : Binary) : ℚ := if b.narrowBelow then 1 / 4 else 1 / 2

/-- A number lies where all round to a magnitude; an end of this interval does so itself if the
magnitude is even. -/
structure Rounds (b : Binary) (v : ℚ) : Prop where
  low : (b.mantissa - b.below) * 2 ^ b.exponent ≤ v
  high : v ≤ (b.mantissa + 1 / 2) * 2 ^ b.exponent
  inside : b.mantissa % 2 = 1 → (b.mantissa - b.below) * 2 ^ b.exponent < v ∧
    v < (b.mantissa + 1 / 2) * 2 ^ b.exponent

/-- A number lies at most half a unit below its magnitude. -/
theorem below_le (b : Binary) : b.below ≤ 1 / 2 := by
  unfold below
  split_ifs <;> norm_num

private theorem le_below (b : Binary) : 1 / 4 ≤ b.below := by
  unfold below
  split_ifs <;> norm_num

/-- The neighbours of a magnitude are as the doubles have them: if it is a power of two and not
among the smallest doubles, the next smaller one is nearer. -/
def Spaced (b : Binary) : Prop :=
  b.mantissa = 2 ^ 52 → -1074 < b.exponent → b.narrowBelow = true

/-- The bits of a double hold a magnitude with these neighbours. -/
theorem spaced_of_readBits {bits : Nat} {negative : Bool} {b : Binary}
    (h : readBits bits = .finite negative b) : b.Spaced := by
  unfold readBits leastExponent at h
  simp only at h
  split_ifs at h with h1 h2 h3
  · obtain ⟨-, rfl⟩ := Reading.finite.inj h
    intro hm
    simp only at hm
    omega
  · obtain ⟨-, rfl⟩ := Reading.finite.inj h
    intro hm he
    simp only at hm he
    simp
    omega

namespace Rounds

variable {b : Binary} {v : ℚ}

/-- A number that rounds to a magnitude, in units of the magnitude. -/
theorem between (h : b.Rounds v) : b.mantissa - b.below ≤ v / 2 ^ b.exponent ∧
    v / 2 ^ b.exponent ≤ b.mantissa + 1 / 2 := by
  have hunit : (0 : ℚ) < 2 ^ b.exponent := by positivity
  exact ⟨(le_div_iff₀ hunit).mpr h.low, (div_le_iff₀ hunit).mpr h.high⟩

/-- What rounds to a magnitude that is not zero is positive. -/
theorem pos (h : b.Rounds v) (hpos : 0 < b.mantissa) : 0 < v := by
  have hm : (1 : ℚ) ≤ b.mantissa := by exact_mod_cast hpos
  exact lt_of_lt_of_le (mul_pos (by linarith [b.below_le]) (by positivity)) h.low

/-- A number with the unit of the magnitude is rounded to its digits, to an even one of two. -/
theorem rounded_eq_of_unit_eq (h : b.Rounds v) (hunit : unit v = b.exponent) :
    rounded v = b.value := by
  obtain ⟨hlow, hhigh⟩ := h.between
  have hdist : |v / 2 ^ b.exponent - ((b.mantissa : ℤ) : ℚ)| ≤ 1 / 2 := by
    rw [Int.cast_natCast, abs_le]
    constructor <;> linarith [b.below_le]
  have htie : |v / 2 ^ b.exponent - ((b.mantissa : ℤ) : ℚ)| = 1 / 2 →
      (b.mantissa : ℤ) % 2 = 0 := by
    intro heq
    by_contra hodd
    obtain ⟨hlow, hhigh⟩ := h.inside (by omega)
    rw [← lt_div_iff₀ (by positivity)] at hlow
    rw [← div_lt_iff₀ (by positivity)] at hhigh
    refine absurd heq (ne_of_lt ?_)
    rw [Int.cast_natCast, abs_lt]
    constructor <;> linarith [b.below_le]
  rw [rounded, hunit, halfEven_eq hdist htie, Int.cast_natCast, value]

/-- A number has the unit of the magnitude if it has all its digits in front of the unit, or if
there is no smaller unit. -/
theorem unit_eq (h : b.Rounds v) (hc : b.Canonical) (hpos : 0 < b.mantissa)
    (hfull : 2 ^ (52 + b.exponent) ≤ v ∨ b.exponent = -1074) : unit v = b.exponent := by
  obtain ⟨-, hhigh⟩ := h.between
  have hmax : (b.mantissa : ℚ) + 1 ≤ 2 ^ 53 := by exact_mod_cast hc.lt
  have hlt : v < 2 ^ (53 + b.exponent) := by
    rw [zpow_add₀ (by norm_num), ← div_lt_iff₀ (by positivity)]
    norm_num at hmax ⊢
    linarith
  have hlog : Int.log 2 v < 53 + b.exponent :=
    (Int.lt_zpow_iff_log_lt (by norm_num) (h.pos hpos)).mp (by exact_mod_cast hlt)
  refine le_antisymm (max_le (by omega) hc.least) ?_
  rcases hfull with hfull | hleast
  · exact le_unit_of_le hfull
  · rw [hleast]
    exact le_unit v

/-- What has fewer than fifty-three binary digits in front of a unit is less than as many units. -/
theorem div_lt_of_lt {e : ℤ} (hlt : v < 2 ^ (52 + e)) : v / 2 ^ e < 2 ^ 52 := by
  rw [zpow_add₀ (by norm_num)] at hlt
  rw [div_lt_iff₀ (by positivity)]
  exact_mod_cast hlt

/-- Of the magnitudes, only powers of two round what has fewer digits in front of their unit. -/
theorem mantissa_eq (h : b.Rounds v) (hc : b.Canonical) (hlt : v < 2 ^ (52 + b.exponent))
    (hleast : -1074 < b.exponent) : b.mantissa = 2 ^ 52 := by
  have hdigits : 2 ^ 52 ≤ b.mantissa := by
    by_contra hfew
    have hsmall := hc.full (by omega)
    omega
  have hless := div_lt_of_lt hlt
  have hmost : (b.mantissa : ℚ) < 2 ^ 52 + 1 := by linarith [b.below_le, h.between.1]
  have hmost : b.mantissa < 2 ^ 52 + 1 := by exact_mod_cast hmost
  omega

/-- Below a power of two the unit is half as large, and so is the part of the interval there. -/
theorem rounded_eq_of_lt (h : b.Rounds v) (hc : b.Canonical) (hs : b.Spaced)
    (hpos : 0 < b.mantissa) (hlt : v < 2 ^ (52 + b.exponent)) (hleast : -1074 < b.exponent) :
    rounded v = b.value := by
  have hmantissa := h.mantissa_eq hc hlt hleast
  have hcast : (b.mantissa : ℚ) = 2 ^ 52 := by exact_mod_cast hmantissa
  have hbelow : b.below = 1 / 4 := if_pos (hs hmantissa hleast)
  obtain ⟨hlow, hhigh⟩ := h.between
  rw [hbelow, hcast] at hlow
  rw [hcast] at hhigh
  have hpred : (2 : ℚ) ^ b.exponent = 2 * 2 ^ (b.exponent - 1) := by
    rw [zpow_sub_one₀ (by norm_num)]
    ring
  have hdouble : v / 2 ^ (b.exponent - 1) = 2 * (v / 2 ^ b.exponent) := by
    rw [hpred]
    field_simp
  have hless := div_lt_of_lt hlt
  have heq : unit v = b.exponent - 1 := by
    refine le_antisymm ?_ (le_unit_of_le ?_)
    · have hlog : Int.log 2 v < 52 + b.exponent :=
        (Int.lt_zpow_iff_log_lt (by norm_num) (h.pos hpos)).mp (by exact_mod_cast hlt)
      exact max_le (by omega) (by omega)
    · rw [zpow_add₀ (by norm_num), ← le_div_iff₀ (by positivity), hdouble]
      norm_num at hlow ⊢
      linarith
  have hnear : |v / 2 ^ (b.exponent - 1) - ((2 ^ 53 : ℤ) : ℚ)| ≤ 1 / 2 := by
    rw [hdouble, abs_le]
    push_cast
    constructor <;> linarith
  rw [rounded, heq, halfEven_eq hnear (fun _ => by norm_num), value, hcast, hpred]
  push_cast
  ring

/-- What lies in the interval is rounded to the magnitude. -/
theorem rounded_eq (h : b.Rounds v) (hc : b.Canonical) (hs : b.Spaced) (hpos : 0 < b.mantissa) :
    rounded v = b.value := by
  by_cases hfull : 2 ^ (52 + b.exponent) ≤ v ∨ b.exponent = -1074
  · exact h.rounded_eq_of_unit_eq (h.unit_eq hc hpos hfull)
  · obtain ⟨hlt, hleast⟩ := not_or.mp hfull
    exact h.rounded_eq_of_lt hc hs hpos (not_le.mp hlt) (lt_of_le_of_ne hc.least (Ne.symm hleast))

end Rounds

end Binary

/-! ## The search -/

/-- The value of a decimal number. -/
def Scaled.value (s : Scaled) : ℚ := s.digits * 10 ^ s.exponent

private theorem powerOfTen_eq (exponent : Int) :
    0 < (powerOfTen exponent).1 ∧ 0 < (powerOfTen exponent).2 ∧
      ((powerOfTen exponent).1 : ℚ) / (powerOfTen exponent).2 = 10 ^ exponent := by
  cases exponent with
  | ofNat k => simp [powerOfTen]
  | negSucc k => simp [powerOfTen, zpow_negSucc]

/-- A power of ten is no more than the power of two whose exponent is three and a third times as
large, or 3.3 times if it is negative. -/
theorem ten_zpow_le {p y : Int} (h : 10 * p ≤ 3 * y) (h' : 33 * p ≤ 10 * y) :
    (10 : ℚ) ^ p ≤ 2 ^ y := by
  rcases Int.eq_nat_or_neg p with ⟨k, rfl | rfl⟩
  · refine (pow_le_pow_iff_left₀ (by positivity) (by positivity) (show 3 ≠ 0 by decide)).mp ?_
    calc ((10 : ℚ) ^ (k : Int)) ^ 3 = 1000 ^ k := by
          rw [zpow_natCast, ← pow_mul, mul_comm, pow_mul]
          norm_num
      _ ≤ 1024 ^ k := pow_le_pow_left₀ (by norm_num) (by norm_num) k
      _ = 2 ^ (10 * (k : Int)) := by
          rw [zpow_mul, zpow_natCast]
          norm_num
      _ ≤ 2 ^ (y * 3) := zpow_le_zpow_right₀ (by norm_num) (by omega)
      _ = (2 ^ y) ^ 3 := by
          rw [zpow_mul]
          norm_cast
  · refine (pow_le_pow_iff_left₀ (by positivity) (by positivity) (show 10 ≠ 0 by decide)).mp ?_
    calc ((10 : ℚ) ^ (-(k : Int))) ^ 10 = (10000000000 ^ k)⁻¹ := by
          rw [zpow_neg, zpow_natCast, inv_pow, ← pow_mul, mul_comm, pow_mul]
          norm_num
      _ ≤ (8589934592 ^ k)⁻¹ :=
          inv_anti₀ (by positivity) (pow_le_pow_left₀ (by norm_num) (by norm_num) k)
      _ = 2 ^ (33 * -(k : Int)) := by
          rw [zpow_mul, zpow_neg, zpow_natCast]
          norm_num
      _ ≤ 2 ^ (y * 10) := zpow_le_zpow_right₀ (by norm_num) (by omega)
      _ = (2 ^ y) ^ 10 := by
          rw [zpow_mul]
          norm_cast

namespace Binary

variable {b : Binary}

/-- The interval in whole numbers is the one in rational numbers. -/
theorem interval_eq (hpos : 0 < b.mantissa) : 0 < b.interval.denominator ∧
    (b.interval.value : ℚ) / b.interval.denominator = b.value ∧
    (b.interval.low : ℚ) / b.interval.denominator = (b.mantissa - b.below) * 2 ^ b.exponent ∧
    (b.interval.high : ℚ) / b.interval.denominator = (b.mantissa + 1 / 2) * 2 ^ b.exponent := by
  obtain ⟨hden, hscaled⟩ := scaleBy_eq 1 (show 0 < 4 by decide) b.exponent
  unfold interval below value
  dsimp only
  refine ⟨hden, ?_, ?_, ?_⟩
  · push_cast
    rw [mul_div_assoc, hscaled]
    push_cast
    ring
  · rw [Nat.cast_mul, mul_div_assoc, hscaled]
    split_ifs
    · rw [Nat.cast_sub (by omega)]
      push_cast
      ring
    · rw [Nat.cast_sub (by omega)]
      push_cast
      ring
  · push_cast
    rw [mul_div_assoc, hscaled]
    push_cast
    ring

private theorem has_iff (hpos : 0 < b.mantissa) {n d : Nat} (hd : 0 < d) :
    b.interval.has n d = true ↔ b.Rounds (n / d) := by
  obtain ⟨hden, -, hlow, hhigh⟩ := interval_eq hpos
  have hd' : (0 : ℚ) < d := by exact_mod_cast hd
  have hden' : (0 : ℚ) < b.interval.denominator := by exact_mod_cast hden
  have hle : b.interval.low * d ≤ n * b.interval.denominator ↔
      (b.mantissa - b.below) * 2 ^ b.exponent ≤ (n : ℚ) / d := by
    rw [← hlow, div_le_div_iff₀ hden' hd']
    norm_cast
  have hge : n * b.interval.denominator ≤ b.interval.high * d ↔
      (n : ℚ) / d ≤ (b.mantissa + 1 / 2) * 2 ^ b.exponent := by
    rw [← hhigh, div_le_div_iff₀ hd' hden']
    norm_cast
  have hlt : b.interval.low * d < n * b.interval.denominator ↔
      (b.mantissa - b.below) * 2 ^ b.exponent < (n : ℚ) / d := by
    rw [← hlow, div_lt_div_iff₀ hden' hd']
    norm_cast
  have hgt : n * b.interval.denominator < b.interval.high * d ↔
      (n : ℚ) / d < (b.mantissa + 1 / 2) * 2 ^ b.exponent := by
    rw [← hhigh, div_lt_div_iff₀ hd' hden']
    norm_cast
  have hclosed : b.interval.closed = decide (b.mantissa % 2 = 0) := rfl
  unfold Interval.has
  by_cases heven : b.mantissa % 2 = 0
  · rw [hclosed, if_pos (decide_eq_true heven), Bool.and_eq_true, decide_eq_true_iff,
      decide_eq_true_iff, hle, hge]
    exact ⟨fun ⟨hlow, hhigh⟩ => ⟨hlow, hhigh, fun hodd => by omega⟩, fun h => ⟨h.low, h.high⟩⟩
  · rw [hclosed, if_neg (by simpa using heven), Bool.and_eq_true, decide_eq_true_iff,
      decide_eq_true_iff, hlt, hgt]
    exact ⟨fun ⟨hlow, hhigh⟩ => ⟨hlow.le, hhigh.le, fun _ => ⟨hlow, hhigh⟩⟩,
      fun h => h.inside (by omega)⟩

/-- A point of a grid that is taken lies in the interval. -/
theorem rounds_of_onGrid (hpos : 0 < b.mantissa) {tie : Tie} {exponent : Int} {s : Scaled}
    (h : b.interval.onGrid tie exponent = some s) : b.Rounds s.value := by
  obtain ⟨-, hden, hpower⟩ := powerOfTen_eq exponent
  have hpoint (k : Nat) (hk : b.interval.has (k * (powerOfTen exponent).1)
      (powerOfTen exponent).2 = true) : b.Rounds (Scaled.value ⟨k, exponent⟩) := by
    have hrounds := (has_iff hpos hden).mp hk
    rwa [Nat.cast_mul, mul_div_assoc, hpower] at hrounds
  unfold Interval.onGrid at h
  dsimp only at h
  split_ifs at h with hupper hlower
  · obtain rfl := Option.some.inj h
    exact hpoint _ (Bool.and_eq_true_iff.mp hupper).1
  · obtain rfl := Option.some.inj h
    exact hpoint _ hlower

/-- The point of a grid before a magnitude is less than the width of the grid away. -/
theorem grid_between (hpos : 0 < b.mantissa) (exponent : Int) {k : Nat}
    (hk : k = b.interval.value * (powerOfTen exponent).2 /
      (b.interval.denominator * (powerOfTen exponent).1)) :
    (k : ℚ) * 10 ^ exponent ≤ b.value ∧ b.value < (k + 1) * 10 ^ exponent := by
  obtain ⟨hnum, hden, hpower⟩ := powerOfTen_eq exponent
  obtain ⟨hdenominator, hvalue, -, -⟩ := interval_eq hpos
  have hwidth : (0 : ℚ) < 10 ^ exponent := by positivity
  have hquotient : ((b.interval.value * (powerOfTen exponent).2 : ℕ) : ℚ) /
      (b.interval.denominator * (powerOfTen exponent).1 : ℕ) = b.value / 10 ^ exponent := by
    have hnum' : ((powerOfTen exponent).1 : ℚ) ≠ 0 := by exact_mod_cast hnum.ne'
    have hden' : ((powerOfTen exponent).2 : ℚ) ≠ 0 := by exact_mod_cast hden.ne'
    have hdenominator' : (b.interval.denominator : ℚ) ≠ 0 := by exact_mod_cast hdenominator.ne'
    rw [← hvalue, ← hpower]
    push_cast
    field_simp
  have hfloor := div_between (b.interval.value * (powerOfTen exponent).2)
    (Nat.mul_pos hdenominator hnum)
  rwa [← hk, hquotient, le_div_iff₀ hwidth, div_lt_iff₀ hwidth] at hfloor

/-- A grid that is fine enough has a point in the interval, and it is not zero. -/
theorem exists_onGrid (hpos : 0 < b.mantissa) (tie : Tie) {exponent : Int}
    (hfine : (10 : ℚ) ^ exponent ≤ 1 / 4 * 2 ^ b.exponent) :
    ∃ s, b.interval.onGrid tie exponent = some s ∧ s.digits ≠ 0 := by
  obtain ⟨-, hden, hpower⟩ := powerOfTen_eq exponent
  obtain ⟨k, hk⟩ : ∃ k, k = b.interval.value * (powerOfTen exponent).2 /
      (b.interval.denominator * (powerOfTen exponent).1) := ⟨_, rfl⟩
  obtain ⟨hbefore, hbehind⟩ := grid_between hpos exponent hk
  have hm : (1 : ℚ) ≤ b.mantissa := by exact_mod_cast hpos
  have hunit : (0 : ℚ) < 2 ^ b.exponent := by positivity
  have hbelow := mul_le_mul_of_nonneg_right b.le_below hunit.le
  have hlow : (b.mantissa - b.below) * 2 ^ b.exponent < (k : ℚ) * 10 ^ exponent := by
    rw [sub_mul, ← value]
    linarith
  have hhigh : (k : ℚ) * 10 ^ exponent < (b.mantissa + 1 / 2) * 2 ^ b.exponent := by
    rw [add_mul, ← value]
    linarith
  have hpoint : b.interval.has (k * (powerOfTen exponent).1) (powerOfTen exponent).2 = true := by
    rw [has_iff hpos hden, Nat.cast_mul, mul_div_assoc, hpower]
    exact ⟨hlow.le, hhigh.le, fun _ => ⟨hlow, hhigh⟩⟩
  have hsome : k ≠ 0 := by
    rintro rfl
    have hpositive : 0 < ((b.mantissa : ℚ) - b.below) * 2 ^ b.exponent :=
      mul_pos (by linarith [b.below_le]) hunit
    rw [Nat.cast_zero, zero_mul] at hlow
    exact lt_asymm hlow hpositive
  unfold Interval.onGrid
  dsimp only
  rw [← hk]
  split_ifs
  · exact ⟨_, rfl, Nat.succ_ne_zero k⟩
  · exact ⟨_, rfl, hsome⟩

/-- The search stops at a grid with a point that is not zero, if it comes to one. -/
theorem exists_search (tie : Tie) (i : Interval) (grids : Nat) (exponent : Int)
    (h : ∃ k < grids, ∃ s, i.onGrid tie (exponent - k) = some s ∧ s.digits ≠ 0) :
    ∃ e, i.onGrid tie e = some (i.search tie grids exponent) ∧
      (i.search tie grids exponent).digits ≠ 0 := by
  induction grids generalizing exponent with
  | zero =>
    obtain ⟨k, hk, -⟩ := h
    exact absurd hk (Nat.not_lt_zero k)
  | succ grids ih =>
    have hlater (hnone : ∀ s, i.onGrid tie exponent = some s → s.digits = 0) :
        ∃ e, i.onGrid tie e = some (i.search tie grids (exponent - 1)) ∧
          (i.search tie grids (exponent - 1)).digits ≠ 0 := by
      obtain ⟨k, hk, s, hs, hdigits⟩ := h
      cases k with
      | zero => exact absurd (hnone s (by simpa using hs)) hdigits
      | succ k =>
        refine ih (exponent - 1) ⟨k, by omega, s, ?_, hdigits⟩
        rwa [sub_sub, add_comm 1 (k : Int), ← Nat.cast_succ]
    cases hgrid : i.onGrid tie exponent with
    | none =>
      simp only [Interval.search, hgrid]
      exact hlater (by simp [hgrid])
    | some s =>
      simp only [Interval.search, hgrid]
      split_ifs with hzero
      · exact hlater (by simpa [hgrid] using hzero)
      · exact ⟨exponent, hgrid, hzero⟩

/-- The last grid of the search is fine enough. -/
theorem finest_le (hc : b.Canonical) (hpos : 0 < b.mantissa) :
    (10 : ℚ) ^ (b.coarsest - 23) ≤ 1 / 4 * 2 ^ b.exponent := by
  have hlog : b.mantissa.log2 < 53 := (Nat.log2_lt hpos.ne').mpr hc.lt
  have hleast := hc.least
  have hmost := hc.most
  have hpow : (1 : ℚ) / 4 * 2 ^ b.exponent = 2 ^ (b.exponent - 2) := by
    rw [zpow_sub₀ (by norm_num)]
    norm_num
    ring
  rw [hpow]
  unfold coarsest
  dsimp only
  exact ten_zpow_le (by omega) (by omega)

/-- The search finds a number of the interval. -/
theorem rounds_search (hc : b.Canonical) (hpos : 0 < b.mantissa) (tie : Tie) :
    b.Rounds (b.interval.search tie 24 b.coarsest).value ∧
      (b.interval.search tie 24 b.coarsest).digits ≠ 0 := by
  obtain ⟨s, hs, hdigits⟩ := exists_onGrid hpos tie (finest_le hc hpos)
  obtain ⟨e, hfound, hsome⟩ := exists_search tie b.interval 24 b.coarsest
    ⟨23, by decide, s, hs, hdigits⟩
  exact ⟨rounds_of_onGrid hpos hfound, hsome⟩

end Binary

/-- Zeros at the end of the digits are moved into the exponent. -/
theorem Scaled.value_stripped (fuel : Nat) {s : Scaled} (hs : s.digits ≠ 0) :
    (s.stripped fuel).value = s.value ∧ (s.stripped fuel).digits ≠ 0 := by
  induction fuel generalizing s with
  | zero => exact ⟨rfl, hs⟩
  | succ fuel ih =>
    unfold stripped
    split_ifs with hzero
    · have hten : s.digits = 10 * (s.digits / 10) := by omega
      obtain ⟨hvalue, hdigits⟩ := ih (s := ⟨s.digits / 10, s.exponent + 1⟩) (by simp only; omega)
      refine ⟨hvalue.trans ?_, hdigits⟩
      calc ((s.digits / 10 : ℕ) : ℚ) * 10 ^ (s.exponent + 1)
          = (10 * (s.digits / 10) : ℕ) * 10 ^ s.exponent := by
            rw [zpow_add_one₀ (by norm_num)]
            push_cast
            ring
        _ = s.value := by rw [← hten, value]
    · exact ⟨rfl, hs⟩

/-- The shortest digits of a magnitude stand for a number that rounds to it. -/
theorem Binary.rounds_shortest {b : Binary} (hc : b.Canonical) (hpos : 0 < b.mantissa) (tie : Tie) :
    b.Rounds (b.shortest tie).value ∧ (b.shortest tie).digits ≠ 0 := by
  obtain ⟨hrounds, hdigits⟩ := rounds_search hc hpos tie
  obtain ⟨hvalue, hkept⟩ := Scaled.value_stripped 24 hdigits
  rw [Binary.shortest, if_neg hpos.ne']
  exact ⟨hvalue ▸ hrounds, hkept⟩

end GatewayProbe.Decimal
