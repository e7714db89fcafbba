import Mathlib.Algebra.Order.Field.Power
import Mathlib.Algebra.Order.Floor.Ring
import Mathlib.Data.Int.Log
import Mathlib.Data.Rat.Floor
import Mathlib.Tactic.FieldSimp
import Mathlib.Tactic.Linarith
import Mathlib.Tactic.NormNum
import Mathlib.Tactic.Positivity
import Mathlib.Tactic.Ring
import GatewayProbe.Arithmetic

/-!
# Rounding to the doubles

A rational number is rounded to a multiple of its unit, the power of two that leaves
fifty-three binary digits or the least power a double has; a tie goes to the even
multiple. Rounding keeps the order and leaves alone what is such a multiple already.
-/

namespace GatewayProbe.Decimal

/-- The integer nearest to a rational number, the even one of two. -/
def halfEven (x : ℚ) : ℤ :=
  if x - ⌊x⌋ < 1 / 2 then ⌊x⌋
  else if 1 / 2 < x - ⌊x⌋ then ⌊x⌋ + 1
  else if ⌊x⌋ % 2 = 0 then ⌊x⌋ else ⌊x⌋ + 1

private theorem floor_le_halfEven (x : ℚ) : ⌊x⌋ ≤ halfEven x := by
  unfold halfEven
  split_ifs <;> omega

private theorem halfEven_le_floor_add_one (x : ℚ) : halfEven x ≤ ⌊x⌋ + 1 := by
  unfold halfEven
  split_ifs <;> omega

/-- An integer is nearest to itself. -/
theorem halfEven_intCast (n : ℤ) : halfEven n = n := by
  rw [halfEven, Int.floor_intCast, sub_self, if_pos (by norm_num)]

/-- Rounding to integers keeps the order. -/
theorem halfEven_mono {x y : ℚ} (h : x ≤ y) : halfEven x ≤ halfEven y := by
  rcases (Int.floor_mono h).lt_or_eq with hlt | heq
  · have hx := halfEven_le_floor_add_one x
    have hy := floor_le_halfEven y
    omega
  · -- both round the same integer part, and the smaller rest is rounded up only with the larger
    unfold halfEven
    rw [heq]
    split_ifs <;> first | omega | linarith

/-- A number is rounded to an integer below another one only if it lies below that one. -/
theorem le_halfEven {x : ℚ} {n : ℤ} (h : (n : ℚ) ≤ x) : n ≤ halfEven x :=
  (halfEven_intCast n).symm.le.trans (halfEven_mono h)

private theorem halfEven_le {x : ℚ} {n : ℤ} (h : x ≤ n) : halfEven x ≤ n :=
  (halfEven_mono h).trans (halfEven_intCast n).le

/-- A number is rounded to an integer within one half, to an even one of two. -/
theorem halfEven_eq {x : ℚ} {n : ℤ} (h : |x - n| ≤ 1 / 2) (htie : |x - n| = 1 / 2 → n % 2 = 0) :
    halfEven x = n := by
  obtain ⟨hlow, hhigh⟩ := abs_le.mp h
  have hfloor : ⌊x⌋ = n ∨ ⌊x⌋ = n - 1 := by
    have hle : n - 1 ≤ ⌊x⌋ := Int.le_floor.mpr (by push_cast; linarith)
    have hlt : ⌊x⌋ < n + 1 := Int.floor_lt.mpr (by push_cast; linarith)
    omega
  unfold halfEven
  rcases hfloor with heq | heq
  · rw [heq]
    split_ifs with hbelow habove heven
    · rfl
    · linarith
    · rfl
    · exact absurd (htie (by rw [abs_of_nonneg] <;> linarith)) heven
  · rw [heq]
    push_cast
    split_ifs with hbelow habove heven
    · linarith
    · omega
    · have hodd := htie (by rw [abs_of_nonpos] <;> linarith)
      omega
    · omega

/-- A rounded number is within one half. -/
theorem abs_halfEven_sub_le (x : ℚ) : |halfEven x - x| ≤ 1 / 2 := by
  have hlow := Int.floor_le x
  have hhigh := Int.lt_floor_add_one x
  unfold halfEven
  split_ifs <;> push_cast <;> rw [abs_le] <;> constructor <;> linarith

/-- The exponent of the last binary digit that a double near a number keeps. -/
def unit (x : ℚ) : ℤ := max (Int.log 2 x - 52) (-1074)

/-- The value of the double nearest to a positive number, if it is not too large for one. -/
def rounded (x : ℚ) : ℚ := halfEven (x / 2 ^ unit x) * 2 ^ unit x

/-- The least exponent of the doubles bounds every unit. -/
theorem le_unit (x : ℚ) : -1074 ≤ unit x := le_max_right _ _

private theorem unit_mono {x y : ℚ} (hx : 0 < x) (h : x ≤ y) : unit x ≤ unit y :=
  max_le_max (sub_le_sub_right (Int.log_mono_right hx h) 52) le_rfl

/-- A number of at least fifty-three binary digits at an exponent has no smaller unit. -/
theorem le_unit_of_le {x : ℚ} {e : ℤ} (h : 2 ^ (52 + e) ≤ x) : e ≤ unit x := by
  have hx : 0 < x := lt_of_lt_of_le (by positivity) h
  have hlog : 52 + e ≤ Int.log 2 x :=
    (Int.zpow_le_iff_le_log (by norm_num) hx).mp (by exact_mod_cast h)
  exact le_max_of_le_left (by omega)

/-- A number not below the least double is not below its unit. -/
theorem unit_le {x : ℚ} (h : 2 ^ (-1074 : ℤ) ≤ x) : 2 ^ unit x ≤ x := by
  have hx : 0 < x := lt_of_lt_of_le (by positivity) h
  have hlog := Int.zpow_log_le_self (b := 2) (by norm_num) hx
  rcases max_choice (Int.log 2 x - 52) (-1074) with hmax | hmax
  · rw [unit, hmax]
    refine le_trans (zpow_le_zpow_right₀ (by norm_num) ?_) hlog
    omega
  · rwa [unit, hmax]

/-- A number has less than fifty-four binary digits in its unit. -/
theorem div_unit_lt (x : ℚ) : x / 2 ^ unit x < 2 ^ (53 : ℤ) := by
  rw [div_lt_iff₀ (by positivity), ← zpow_add₀ (by norm_num)]
  have hlog := Int.lt_zpow_succ_log_self (b := 2) (by norm_num) x
  refine hlog.trans_le (zpow_le_zpow_right₀ (by norm_num) ?_)
  have hunit : Int.log 2 x - 52 ≤ unit x := le_max_left _ _
  omega

/-- A number whose unit is not the least has fifty-three binary digits in it. -/
theorem le_div_unit {x : ℚ} (hx : 0 < x) (hunit : -1074 < unit x) :
    2 ^ (52 : ℤ) ≤ x / 2 ^ unit x := by
  rw [le_div_iff₀ (by positivity), ← zpow_add₀ (by norm_num)]
  have hlog := Int.zpow_log_le_self (b := 2) (by norm_num) hx
  refine le_trans (zpow_le_zpow_right₀ (by norm_num) ?_) hlog
  unfold unit at hunit ⊢
  omega

/-- In its unit a number is rounded to at most fifty-three binary digits or to the power of two
above these. -/
theorem halfEven_div_unit_le (x : ℚ) : halfEven (x / 2 ^ unit x) ≤ 2 ^ 53 :=
  halfEven_le (by exact_mod_cast (div_unit_lt x).le)

/-- A number whose unit is not the least is rounded to no fewer digits. -/
theorem le_halfEven_div_unit {x : ℚ} (hx : 0 < x) (hunit : -1074 < unit x) :
    2 ^ 52 ≤ halfEven (x / 2 ^ unit x) :=
  le_halfEven (by exact_mod_cast le_div_unit hx hunit)

/-- The unit of a number that is not too large for a double is not too large either. -/
theorem unit_le_of_lt {x : ℚ} (hx : 0 < x) (h : x < 2 ^ (1023 : ℤ)) : unit x ≤ 970 := by
  have hlog : Int.log 2 x < 1023 :=
    (Int.lt_zpow_iff_log_lt (by norm_num) hx).mp (by exact_mod_cast h)
  exact max_le (by omega) (by omega)

/-- Rounding to the doubles keeps the order. -/
theorem rounded_mono {x y : ℚ} (hx : 0 < x) (h : x ≤ y) : rounded x ≤ rounded y := by
  rcases (unit_mono hx h).lt_or_eq with hlt | heq
  · -- a power of two lies between the numbers and is a double itself
    have hy := lt_of_lt_of_le hx h
    have hupper : (halfEven (x / 2 ^ unit x) : ℚ) ≤ 2 ^ (53 : ℤ) := by
      exact_mod_cast halfEven_div_unit_le x
    have hlower : (2 : ℚ) ^ (52 : ℤ) ≤ halfEven (y / 2 ^ unit y) := by
      exact_mod_cast le_halfEven_div_unit hy (lt_of_le_of_lt (le_unit x) hlt)
    calc rounded x ≤ 2 ^ (53 : ℤ) * 2 ^ unit x := by
          exact mul_le_mul_of_nonneg_right hupper (by positivity)
      _ = 2 ^ (53 + unit x) := (zpow_add₀ (by norm_num) _ _).symm
      _ ≤ 2 ^ (52 + unit y) := zpow_le_zpow_right₀ (by norm_num) (by omega)
      _ = 2 ^ (52 : ℤ) * 2 ^ unit y := zpow_add₀ (by norm_num) _ _
      _ ≤ rounded y := mul_le_mul_of_nonneg_right hlower (by positivity)
  · unfold rounded
    rw [heq]
    have hle : x / 2 ^ unit y ≤ y / 2 ^ unit y := div_le_div_of_nonneg_right h (by positivity)
    have hround : (halfEven (x / 2 ^ unit y) : ℚ) ≤ halfEven (y / 2 ^ unit y) :=
      Int.cast_le.mpr (halfEven_mono hle)
    exact mul_le_mul_of_nonneg_right hround (by positivity)

/-- A number with at most fifty-three binary digits, none below the least, is rounded to
itself. -/
theorem rounded_eq_self {m : ℕ} {e : ℤ} (hpos : 0 < m) (hm : m < 2 ^ 53) (he : -1074 ≤ e) :
    rounded (m * 2 ^ e) = m * 2 ^ e := by
  have hunit : unit (m * 2 ^ e) ≤ e := by
    refine max_le ?_ he
    have hlt : (m : ℚ) * 2 ^ e < 2 ^ (53 + e) := by
      rw [zpow_add₀ (by norm_num)]
      exact mul_lt_mul_of_pos_right (by exact_mod_cast hm) (by positivity)
    have hpositive : (0 : ℚ) < m * 2 ^ e := by positivity
    have hlog : Int.log 2 ((m : ℚ) * 2 ^ e) < 53 + e :=
      (Int.lt_zpow_iff_log_lt (by norm_num) hpositive).mp (by exact_mod_cast hlt)
    omega
  obtain ⟨k, hk⟩ := Int.le.dest hunit
  have hwhole : (m : ℚ) * 2 ^ e / 2 ^ unit (m * 2 ^ e) = ((m * 2 ^ k : ℤ) : ℚ) := by
    rw [div_eq_iff (by positivity)]
    push_cast
    rw [mul_assoc, ← zpow_natCast, ← zpow_add₀ (by norm_num)]
    congr 2
    omega
  rw [rounded, hwhole, halfEven_intCast, ← hwhole]
  exact div_mul_cancel₀ _ (by positivity)

/-- Rounding changes a number by a small part of it, if it is not too small for all its digits. -/
theorem abs_rounded_sub_le {x : ℚ} (h : 2 ^ (-1022 : ℤ) ≤ x) :
    |rounded x - x| ≤ x / 2 ^ (53 : ℤ) := by
  have hx : 0 < x := lt_of_lt_of_le (by positivity) h
  have hlog := Int.zpow_log_le_self (b := 2) (by norm_num) hx
  have hnormal : -1022 ≤ Int.log 2 x :=
    (Int.zpow_le_iff_le_log (by norm_num) hx).mp (by exact_mod_cast h)
  have hunit : unit x = Int.log 2 x - 52 := max_eq_left (by omega)
  have hhalf := abs_halfEven_sub_le (x / 2 ^ unit x)
  calc |rounded x - x| = |halfEven (x / 2 ^ unit x) - x / 2 ^ unit x| * 2 ^ unit x := by
        rw [← abs_of_pos (show (0 : ℚ) < 2 ^ unit x by positivity), ← abs_mul, sub_mul,
          abs_of_pos (show (0 : ℚ) < 2 ^ unit x by positivity),
          div_mul_cancel₀ _ (by positivity), rounded]
    _ ≤ 1 / 2 * 2 ^ unit x := mul_le_mul_of_nonneg_right hhalf (by positivity)
    _ = 2 ^ Int.log 2 x / 2 ^ (53 : ℤ) := by
        rw [hunit, zpow_sub₀ (by norm_num)]
        norm_num
        ring
    _ ≤ x / 2 ^ (53 : ℤ) := div_le_div_of_nonneg_right (by exact_mod_cast hlog) (by positivity)

/-- A number not below the least double is not rounded to zero. -/
theorem rounded_pos {x : ℚ} (h : 2 ^ (-1074 : ℤ) ≤ x) : 0 < rounded x := by
  have hself := rounded_eq_self (m := 1) (e := -1074) (by norm_num) (by norm_num) le_rfl
  rw [Nat.cast_one, one_mul] at hself
  have hmono := rounded_mono (by positivity) h
  rw [hself] at hmono
  exact lt_of_lt_of_le (by positivity) hmono

end GatewayProbe.Decimal
