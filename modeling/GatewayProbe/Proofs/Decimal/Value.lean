import Mathlib.Order.Compare
import Mathlib.Order.WithBot
import GatewayProbe.Proofs.Decimal.Nearest

/-!
# What doubles stand for and how they compare

A double that is a number stands for a rational number or an infinity. Doubles compare as
what they stand for, and one that is no number compares with none.
-/

namespace GatewayProbe.Decimal

open Float.Model

/-- The sign of a double. -/
def signOf (negative : Bool) : UnpackedFloat.Sign := if negative then .negative else .positive

/-- The parts of a double put together again. -/
def Reading.unpacked : Reading → UnpackedFloat
  | .nan => .notANumber
  | .infinite negative => .infinity (signOf negative)
  | .finite negative b =>
    if h : b.mantissa = 0 then .zero (signOf negative)
    else .finite (signOf negative) b.mantissa b.exponent (Nat.pos_of_ne_zero h)

private theorem toNat_mantissa (b : BitVec 64) :
    (@UnpackedFloat.unpackMantissa Format.binary64 b).toNat = b.toNat % 2 ^ 52 := by
  simp [UnpackedFloat.unpackMantissa]

private theorem toNat_exponent (b : BitVec 64) :
    (@UnpackedFloat.unpackExponent Format.binary64 b).toNat = b.toNat / 2 ^ 52 % 2 ^ 11 := by
  simp [UnpackedFloat.unpackExponent, Nat.shiftRight_eq_div_pow]

private theorem toNat_sign (b : BitVec 64) :
    (@UnpackedFloat.unpackSign Format.binary64 b).toNat = b.toNat / 2 ^ 63 % 2 := by
  unfold UnpackedFloat.unpackSign
  simp [Nat.shiftRight_eq_div_pow]

private theorem ofBitVec_sign (b : BitVec 64) :
    UnpackedFloat.Sign.ofBitVec (@UnpackedFloat.unpackSign Format.binary64 b) =
      signOf (decide (b.toNat / 2 ^ 63 % 2 = 1)) := by
  have hsign := toNat_sign b
  unfold UnpackedFloat.Sign.ofBitVec signOf
  by_cases hpos : b.toNat / 2 ^ 63 % 2 = 1
  · rw [if_neg, if_pos (decide_eq_true hpos)]
    intro hzero
    rw [hzero, hpos] at hsign
    exact absurd hsign (by decide)
  · rw [if_pos, if_neg (by simpa using hpos)]
    refine BitVec.eq_of_toNat_eq ?_
    rw [hsign]
    exact Nat.mod_two_ne_one.mp hpos

private theorem toNat_append_one (m : BitVec 52) : (1#1 ++ m).toNat = 2 ^ 52 + m.toNat := by
  rw [BitVec.toNat_append, ← Nat.shiftLeft_add_eq_or_of_lt m.isLt]
  rfl

private theorem bias_eq :
    ((Format.binary64.exponentBias : ℤ) + (Format.binary64.mantissaBitsWithoutImplicit : ℤ)) =
      1075 := by
  decide

/-- Taking bits apart gives the same parts either way. -/
theorem unpack_bits (b : BitVec 64) :
    UnpackedFloat.unpack Format.binary64 b = (readBits b.toNat).unpacked := by
  have hm := toNat_mantissa b
  have he := toNat_exponent b
  have hs := ofBitVec_sign b
  have hall : @UnpackedFloat.unpackExponent Format.binary64 b = -1#11 ↔
      b.toNat / 2 ^ 52 % 2 ^ 11 = 2047 := by
    rw [← he, ← BitVec.toNat_inj]
    rfl
  have hnone : @UnpackedFloat.unpackExponent Format.binary64 b = 0#11 ↔
      b.toNat / 2 ^ 52 % 2 ^ 11 = 0 := by
    rw [← he, ← BitVec.toNat_inj]
    rfl
  have hzero : @UnpackedFloat.unpackMantissa Format.binary64 b = 0#52 ↔
      b.toNat % 2 ^ 52 = 0 := by
    rw [← hm, ← BitVec.toNat_inj]
    rfl
  unfold UnpackedFloat.unpack readBits
  dsimp only
  rw [hs]
  by_cases h1 : b.toNat / 2 ^ 52 % 2 ^ 11 = 2047
  · rw [if_pos (hall.mpr h1), if_pos h1]
    by_cases h2 : b.toNat % 2 ^ 52 = 0
    · rw [if_pos (hzero.mpr h2), if_pos h2]
      rfl
    · rw [if_neg (mt hzero.mp h2), if_neg h2]
      rfl
  · rw [if_neg (mt hall.mp h1), if_neg h1]
    by_cases h3 : b.toNat / 2 ^ 52 % 2 ^ 11 = 0
    · rw [if_pos (hnone.mpr h3), if_pos h3, Reading.unpacked]
      by_cases h4 : b.toNat % 2 ^ 52 = 0
      · rw [dif_pos (hzero.mpr h4), dif_pos h4]
      · rw [dif_neg (mt hzero.mp h4), dif_neg h4, UnpackedFloat.finite.injEq]
        refine ⟨rfl, hm, ?_⟩
        rw [he, h3, bias_eq]
        rfl
    · rw [if_neg (mt hnone.mp h3), if_neg h3, Reading.unpacked, dif_neg (by simp),
        UnpackedFloat.finite.injEq]
      refine ⟨rfl, ?_, ?_⟩
      · rw [toNat_append_one, hm]
      · rw [he, bias_eq, leastExponent]
        dsimp only
        omega

/-- The parts of a double are those that its bits say. -/
theorem unpack_eq (x : Float) : x.toModel.unpack = (read x).unpacked :=
  unpack_bits x.toModel.toBits.toBitVec

/-- A magnitude as the doubles hold it: at most fifty-three binary digits, and fewer only at
the least exponent. -/
structure Binary.Canonical (b : Binary) : Prop where
  lt : b.mantissa < 2 ^ 53
  least : -1074 ≤ b.exponent
  most : b.exponent ≤ 971
  full : b.mantissa < 2 ^ 52 → b.exponent = -1074

/-- The bits of a double hold a magnitude in this form. -/
theorem canonical_of_readBits {bits : Nat} {negative : Bool} {b : Binary}
    (h : readBits bits = .finite negative b) : b.Canonical := by
  unfold readBits leastExponent at h
  simp only at h
  split_ifs at h with h1 h2 h3
  · obtain ⟨-, rfl⟩ := Reading.finite.inj h
    exact ⟨by simp only; omega, le_rfl, by simp only; omega, fun _ => rfl⟩
  · obtain ⟨-, rfl⟩ := Reading.finite.inj h
    refine ⟨?_, ?_, ?_, ?_⟩
    · simp only
      omega
    · simp only
      omega
    · simp only
      omega
    · simp only
      omega

/-- A magnitude with a sign. -/
def Binary.signed (b : Binary) (negative : Bool) : ℚ := if negative then -b.value else b.value

/-- What a reading stands for: nothing if it is no number, else a rational number or one of
two infinities. -/
def Reading.value? : Reading → Option (WithBot (WithTop ℚ))
  | .nan => none
  | .infinite negative => some (if negative then ⊥ else ⊤)
  | .finite negative b => some ↑(↑(b.signed negative) : WithTop ℚ)

/-- What a double stands for. -/
def value? (x : Float) : Option (WithBot (WithTop ℚ)) := (read x).value?

/-- The magnitude with the larger exponent is larger. -/
theorem Binary.Canonical.value_lt {b c : Binary} (hb : b.Canonical) (hc : c.Canonical)
    (h : b.exponent < c.exponent) : b.value < c.value := by
  have hfull : 2 ^ 52 ≤ c.mantissa := by
    by_contra hlt
    have hc := hc.full (by omega)
    have hb := hb.least
    omega
  have hlow : (b.mantissa : ℚ) < 2 ^ (53 : ℤ) := by exact_mod_cast hb.lt
  have hhigh : (2 : ℚ) ^ (52 : ℤ) ≤ c.mantissa := by exact_mod_cast hfull
  calc b.value < 2 ^ (53 : ℤ) * 2 ^ b.exponent := mul_lt_mul_of_pos_right hlow (by positivity)
    _ = 2 ^ (53 + b.exponent) := (zpow_add₀ (by norm_num) _ _).symm
    _ ≤ 2 ^ (52 + c.exponent) := zpow_le_zpow_right₀ (by norm_num) (by omega)
    _ = 2 ^ (52 : ℤ) * 2 ^ c.exponent := zpow_add₀ (by norm_num) _ _
    _ ≤ c.value := mul_le_mul_of_nonneg_right hhigh (by positivity)

/-- Magnitudes compare first by exponent and then by mantissa. -/
theorem Binary.Canonical.compare_eq {b c : Binary} (hb : b.Canonical) (hc : c.Canonical) :
    (compare b.exponent c.exponent).then (compare b.mantissa c.mantissa) =
      cmp b.value c.value := by
  rcases lt_trichotomy b.exponent c.exponent with hlt | heq | hgt
  · rw [compare_lt_iff_lt.mpr hlt, (cmp_eq_lt_iff _ _).mpr (hb.value_lt hc hlt)]
    rfl
  · have hscale : (0 : ℚ) < 2 ^ c.exponent := by positivity
    rw [compare_eq_iff_eq.mpr heq, Binary.value, Binary.value, heq]
    rcases lt_trichotomy b.mantissa c.mantissa with hlt | heq | hgt
    · have hvalue := mul_lt_mul_of_pos_right (Nat.cast_lt (α := ℚ).mpr hlt) hscale
      rw [compare_lt_iff_lt.mpr hlt, (cmp_eq_lt_iff _ _).mpr hvalue]
      rfl
    · rw [heq, compare_eq_iff_eq.mpr rfl, cmp_self_eq_eq]
      rfl
    · have hvalue := mul_lt_mul_of_pos_right (Nat.cast_lt (α := ℚ).mpr hgt) hscale
      rw [compare_gt_iff_gt.mpr hgt, (cmp_eq_gt_iff _ _).mpr hvalue]
      rfl
  · rw [compare_gt_iff_gt.mpr hgt, (cmp_eq_gt_iff _ _).mpr (hc.value_lt hb hgt)]
    rfl

/-- Without a mantissa the value is zero. -/
theorem Binary.value_eq_zero {b : Binary} (h : b.mantissa = 0) : b.value = 0 := by
  rw [value, h, Nat.cast_zero, zero_mul]

theorem Binary.signed_eq_zero {b : Binary} (h : b.mantissa = 0) (negative : Bool) :
    b.signed negative = 0 := by
  rw [signed, value_eq_zero h, neg_zero, ite_self]

private theorem Binary.value_pos {b : Binary} (h : b.mantissa ≠ 0) : 0 < b.value := by
  have hpos : (0 : ℚ) < b.mantissa := by exact_mod_cast Nat.pos_of_ne_zero h
  exact mul_pos hpos (by positivity)

private theorem compares_neg {o : Ordering} {x y : ℚ} (h : o.Compares x y) :
    o.Compares (-y) (-x) := by
  cases o with
  | lt => exact neg_lt_neg h
  | eq => exact congrArg Neg.neg (Eq.symm h)
  | gt => exact neg_lt_neg h

private theorem unpacked_of_eq_zero {b : Binary} (h : b.mantissa = 0) (n : Bool) :
    (Reading.finite n b).unpacked = .zero (signOf n) :=
  dif_pos h

private theorem unpacked_of_ne_zero {b : Binary} (h : b.mantissa ≠ 0) (n : Bool) :
    (Reading.finite n b).unpacked =
      .finite (signOf n) b.mantissa b.exponent (Nat.pos_of_ne_zero h) :=
  dif_neg h

private theorem unpacked_finite (n : Bool) (b : Binary) :
    (∃ sign, (Reading.finite n b).unpacked = .zero sign) ∨
      ∃ sign m e h, (Reading.finite n b).unpacked = .finite sign m e h := by
  by_cases hzero : b.mantissa = 0
  · exact Or.inl ⟨_, unpacked_of_eq_zero hzero n⟩
  · exact Or.inr ⟨_, _, _, _, unpacked_of_ne_zero hzero n⟩

/-- An infinity lies beyond all finite doubles, on either side. -/
private theorem compare_infinite (m n : Bool) (b : Binary) :
    (Reading.infinite m).unpacked.compare (Reading.finite n b).unpacked =
        some (if m then .lt else .gt) ∧
      (Reading.finite n b).unpacked.compare (Reading.infinite m).unpacked =
        some (if m then .gt else .lt) := by
  rcases unpacked_finite n b with ⟨sign, heq⟩ | ⟨sign, digits, e, h, heq⟩
  · rw [heq]
    cases m <;> exact ⟨rfl, rfl⟩
  · rw [heq]
    cases m <;> cases sign <;> exact ⟨rfl, rfl⟩

/-- Finite doubles compare as the numbers they stand for. -/
private theorem compare_finite {b c : Binary} (hb : b.Canonical) (hc : c.Canonical)
    (m n : Bool) : ∃ o, (Reading.finite m b).unpacked.compare (Reading.finite n c).unpacked =
      some o ∧ o.Compares (b.signed m) (c.signed n) := by
  by_cases hb0 : b.mantissa = 0
  · by_cases hc0 : c.mantissa = 0
    · rw [unpacked_of_eq_zero hb0, unpacked_of_eq_zero hc0, Binary.signed_eq_zero hb0,
        Binary.signed_eq_zero hc0]
      exact ⟨.eq, rfl, rfl⟩
    · have hpos := Binary.value_pos hc0
      rw [unpacked_of_eq_zero hb0, unpacked_of_ne_zero hc0, Binary.signed_eq_zero hb0]
      cases n with
      | false => exact ⟨.lt, rfl, hpos⟩
      | true => exact ⟨.gt, rfl, neg_lt_zero.mpr hpos⟩
  · have hposb := Binary.value_pos hb0
    by_cases hc0 : c.mantissa = 0
    · rw [unpacked_of_ne_zero hb0, unpacked_of_eq_zero hc0, Binary.signed_eq_zero hc0]
      cases m with
      | false => exact ⟨.gt, rfl, hposb⟩
      | true => exact ⟨.lt, rfl, neg_lt_zero.mpr hposb⟩
    · have hposc := Binary.value_pos hc0
      have hcompare := cmp_compares b.value c.value
      rw [← hb.compare_eq hc] at hcompare
      rw [unpacked_of_ne_zero hb0, unpacked_of_ne_zero hc0]
      cases m with
      | false =>
        cases n with
        | false => exact ⟨_, rfl, hcompare⟩
        | true => exact ⟨.gt, rfl, (neg_lt_zero.mpr hposc).trans hposb⟩
      | true =>
        cases n with
        | false => exact ⟨.lt, rfl, (neg_lt_zero.mpr hposb).trans hposc⟩
        | true =>
          -- the order of two numbers below zero is that of their magnitudes, reversed
          refine ⟨_, rfl, ?_⟩
          exact Ordering.compares_swap.mpr (compares_neg hcompare)

/-- Doubles compare as what they stand for. -/
theorem compare_unpacked {r s : Reading} (hr : ∀ n b, r = .finite n b → b.Canonical)
    (hs : ∀ n b, s = .finite n b → b.Canonical) {x y : WithBot (WithTop ℚ)}
    (hx : r.value? = some x) (hy : s.value? = some y) :
    ∃ o, r.unpacked.compare s.unpacked = some o ∧ o.Compares x y := by
  cases r with
  | nan => exact absurd hx (by simp [Reading.value?])
  | infinite m =>
    obtain rfl := Option.some.inj hx
    cases s with
    | nan => exact absurd hy (by simp [Reading.value?])
    | infinite n =>
      obtain rfl := Option.some.inj hy
      cases m <;> cases n
      · exact ⟨.eq, rfl, rfl⟩
      · exact ⟨.gt, rfl, bot_lt_top⟩
      · exact ⟨.lt, rfl, bot_lt_top⟩
      · exact ⟨.eq, rfl, rfl⟩
    | finite n c =>
      obtain rfl := Option.some.inj hy
      refine ⟨_, (compare_infinite m n c).1, ?_⟩
      cases m with
      | false => exact WithBot.coe_lt_coe.mpr (WithTop.coe_lt_top _)
      | true => exact WithBot.bot_lt_coe _
  | finite m b =>
    obtain rfl := Option.some.inj hx
    cases s with
    | nan => exact absurd hy (by simp [Reading.value?])
    | infinite n =>
      obtain rfl := Option.some.inj hy
      refine ⟨_, (compare_infinite n m b).2, ?_⟩
      cases n with
      | false => exact WithBot.coe_lt_coe.mpr (WithTop.coe_lt_top _)
      | true => exact WithBot.bot_lt_coe _
    | finite n c =>
      obtain rfl := Option.some.inj hy
      obtain ⟨o, hcompare, ho⟩ := compare_finite (hr m b rfl) (hs n c rfl) m n
      refine ⟨o, hcompare, ?_⟩
      cases o with
      | lt => exact WithBot.coe_lt_coe.mpr (WithTop.coe_lt_coe.mpr ho)
      | eq => exact congrArg (fun q : ℚ => ((q : WithTop ℚ) : WithBot (WithTop ℚ))) ho
      | gt => exact WithBot.coe_lt_coe.mpr (WithTop.coe_lt_coe.mpr ho)

private theorem unpacked_of_value?_eq_none {r : Reading} (h : r.value? = none) :
    r.unpacked = .notANumber := by
  cases r with
  | nan => rfl
  | infinite n => exact absurd h (by simp [Reading.value?])
  | finite n b => exact absurd h (by simp [Reading.value?])

/-- A double that stands for nothing compares with none. -/
private theorem compare_notANumber (f : UnpackedFloat) :
    UnpackedFloat.notANumber.compare f = none ∧ f.compare .notANumber = none := by
  cases f <;> exact ⟨rfl, rfl⟩

/-- Two doubles compare as what they stand for, if both stand for something. -/
theorem compare_eq (x y : Float) :
    (∃ a b o, value? x = some a ∧ value? y = some b ∧ o.Compares a b ∧
      x.toModel.unpack.compare y.toModel.unpack = some o) ∨
    ((value? x = none ∨ value? y = none) ∧
      x.toModel.unpack.compare y.toModel.unpack = none) := by
  rw [unpack_eq, unpack_eq]
  have hx : ∀ n b, read x = .finite n b → b.Canonical := fun n b => canonical_of_readBits
  have hy : ∀ n b, read y = .finite n b → b.Canonical := fun n b => canonical_of_readBits
  unfold value?
  cases hvx : (read x).value? with
  | none =>
    rw [unpacked_of_value?_eq_none hvx]
    exact Or.inr ⟨Or.inl rfl, (compare_notANumber _).1⟩
  | some a =>
    cases hvy : (read y).value? with
    | none =>
      rw [unpacked_of_value?_eq_none hvy]
      exact Or.inr ⟨Or.inr rfl, (compare_notANumber _).2⟩
    | some b =>
      obtain ⟨o, hcompare, ho⟩ := compare_unpacked hx hy hvx hvy
      exact Or.inl ⟨a, b, o, rfl, rfl, ho, hcompare⟩

/-- A test of how two doubles compare is a relation between what they stand for. -/
private theorem any_compare_iff {x y : Float} {q : Ordering → Bool}
    {R : WithBot (WithTop ℚ) → WithBot (WithTop ℚ) → Prop}
    (hq : ∀ o a b, Ordering.Compares o a b → (q o = true ↔ R a b)) :
    (x.toModel.unpack.compare y.toModel.unpack).any q = true ↔
      ∃ a b, value? x = some a ∧ value? y = some b ∧ R a b := by
  rcases compare_eq x y with ⟨a, b, o, ha, hb, ho, hcompare⟩ | ⟨hnone, hcompare⟩
  · rw [hcompare, ha, hb]
    simp [hq o a b ho]
  · rw [hcompare]
    simp only [Option.any_none, Bool.false_eq_true, false_iff]
    rintro ⟨a, b, ha, hb, -⟩
    rcases hnone with h | h
    · exact absurd (h.symm.trans ha) (by simp)
    · exact absurd (h.symm.trans hb) (by simp)

/-- A double is at most another one if what it stands for is. -/
theorem le_iff {x y : Float} :
    x ≤ y ↔ ∃ a b, value? x = some a ∧ value? y = some b ∧ a ≤ b := by
  have hle : x ≤ y ↔ (x.toModel.unpack.compare y.toModel.unpack).any (·.isLE) = true :=
    decide_eq_true_iff (p := x.toModel ≤ y.toModel)
  rw [hle, any_compare_iff]
  intro o a b ho
  rw [← ho.ne_gt]
  cases o <;> simp

/-- A double is less than another one if what it stands for is. -/
theorem lt_iff {x y : Float} :
    x < y ↔ ∃ a b, value? x = some a ∧ value? y = some b ∧ a < b := by
  have hlt : x < y ↔ (x.toModel.unpack.compare y.toModel.unpack == some .lt) = true :=
    decide_eq_true_iff (p := x.toModel < y.toModel)
  have hany : ∀ c : Option Ordering, (c == some .lt) = c.any (· == .lt) := by
    intro c
    cases c <;> rfl
  rw [hlt, hany, any_compare_iff]
  intro o a b ho
  rw [← ho.eq_lt, beq_iff_eq]

/-- Doubles are equal if they stand for the same. -/
theorem beq_iff {x y : Float} :
    (x == y) = true ↔ ∃ a b, value? x = some a ∧ value? y = some b ∧ a = b := by
  have heq : (x == y) = (x.toModel.unpack.compare y.toModel.unpack == some .eq) := rfl
  have hany : ∀ c : Option Ordering, (c == some .eq) = c.any (· == .eq) := by
    intro c
    cases c <;> rfl
  rw [heq, hany, any_compare_iff]
  intro o a b ho
  rw [← ho.eq_eq, beq_iff_eq]

protected theorem le_trans {x y z : Float} (hxy : x ≤ y) (hyz : y ≤ z) : x ≤ z := by
  obtain ⟨a, b, ha, hb, hab⟩ := le_iff.mp hxy
  obtain ⟨b', c, hb', hc, hbc⟩ := le_iff.mp hyz
  obtain rfl := Option.some.inj (hb.symm.trans hb')
  exact le_iff.mpr ⟨a, c, ha, hc, hab.trans hbc⟩

protected theorem le_of_lt {x y : Float} (h : x < y) : x ≤ y := by
  obtain ⟨a, b, ha, hb, hab⟩ := lt_iff.mp h
  exact le_iff.mpr ⟨a, b, ha, hb, hab.le⟩

protected theorem lt_of_lt_of_le {x y z : Float} (hxy : x < y) (hyz : y ≤ z) : x < z := by
  obtain ⟨a, b, ha, hb, hab⟩ := lt_iff.mp hxy
  obtain ⟨b', c, hb', hc, hbc⟩ := le_iff.mp hyz
  obtain rfl := Option.some.inj (hb.symm.trans hb')
  exact lt_iff.mpr ⟨a, c, ha, hc, hab.trans_le hbc⟩

protected theorem not_le_of_lt {x y : Float} (h : x < y) : ¬y ≤ x := by
  intro hle
  obtain ⟨a, b, ha, hb, hab⟩ := lt_iff.mp h
  obtain ⟨b', a', hb', ha', hba⟩ := le_iff.mp hle
  obtain rfl := Option.some.inj (ha.symm.trans ha')
  obtain rfl := Option.some.inj (hb.symm.trans hb')
  exact hba.not_gt hab

/-- Of two doubles that stand for something, one that is not at most the other is greater. -/
protected theorem lt_of_not_le {x y : Float} {a b : WithBot (WithTop ℚ)} (hx : value? x = some a)
    (hy : value? y = some b) (h : ¬x ≤ y) : y < x := by
  refine lt_iff.mpr ⟨b, a, hy, hx, lt_of_not_ge fun hle => h ?_⟩
  exact le_iff.mpr ⟨a, b, hx, hy, hle⟩

/-- A double stands for a rational number. -/
def Denotes (x : Float) (v : ℚ) : Prop := value? x = some ((v : WithTop ℚ) : WithBot (WithTop ℚ))

namespace Denotes

variable {x y : Float} {a b : ℚ}

/-- A double that holds a magnitude without a sign denotes its value. -/
theorem of_read {m : Binary} (h : read x = .finite false m) (hvalue : m.value = a) :
    Denotes x a := by
  rw [Denotes, value?, h, ← hvalue]
  rfl

/-- A double that denotes a number holds its sign and its magnitude. -/
theorem exists_signed (h : Denotes x a) :
    ∃ n m, read x = .finite n m ∧ m.Canonical ∧ m.signed n = a := by
  unfold Denotes value? at h
  cases hread : read x with
  | nan => exact absurd (hread ▸ h) (by simp [Reading.value?])
  | infinite n =>
    rw [hread] at h
    cases n with
    | false => exact absurd (WithBot.coe_injective (Option.some.inj h)) (WithTop.top_ne_coe)
    | true => exact absurd (Option.some.inj h) WithBot.bot_ne_coe
  | finite n m =>
    rw [hread] at h
    exact ⟨n, m, rfl, canonical_of_readBits hread,
      WithTop.coe_injective (WithBot.coe_injective (Option.some.inj h))⟩

/-- A double that denotes a positive number holds its magnitude. -/
theorem exists_read (h : Denotes x a) (ha : 0 < a) :
    ∃ m : Binary, read x = .finite false m ∧ m.Canonical ∧ 0 < m.mantissa ∧ m.value = a := by
  obtain ⟨n, m, hread, hcanonical, hvalue⟩ := h.exists_signed
  have hnonneg : 0 ≤ m.value := mul_nonneg (Nat.cast_nonneg _) (by positivity)
  cases n with
  | true =>
    have hsigned : -m.value = a := hvalue
    exact absurd ha (by linarith)
  | false =>
    have hsigned : m.value = a := hvalue
    refine ⟨m, hread, hcanonical, Nat.pos_of_ne_zero ?_, hsigned⟩
    intro hzero
    rw [Binary.value_eq_zero hzero] at hsigned
    exact ha.ne hsigned

/-- A double that denotes zero holds a zero of either sign. -/
theorem exists_read_zero (h : Denotes x 0) :
    ∃ n m, read x = .finite n m ∧ m.mantissa = 0 := by
  obtain ⟨n, m, hread, -, hvalue⟩ := h.exists_signed
  refine ⟨n, m, hread, ?_⟩
  by_contra hne
  have hpos := Binary.value_pos hne
  cases n with
  | true => exact (neg_neg_of_pos hpos).ne hvalue
  | false => exact hpos.ne' hvalue

/-- No double denotes a positive number below the least one. -/
theorem least_le (h : Denotes x a) (ha : 0 < a) : 2 ^ (-1074 : ℤ) ≤ a := by
  obtain ⟨m, -, hcanonical, hm, rfl⟩ := h.exists_read ha
  have hone : (1 : ℚ) ≤ m.mantissa := by exact_mod_cast hm
  calc (2 : ℚ) ^ (-1074 : ℤ) ≤ 2 ^ m.exponent :=
        zpow_le_zpow_right₀ (by norm_num) hcanonical.least
    _ ≤ m.value := le_mul_of_one_le_left (by positivity) hone

/-- A double that denotes a positive number is its mantissa at its exponent. -/
theorem exists_unpack (h : Denotes x a) (ha : 0 < a) :
    ∃ (m : Binary) (hm : 0 < m.mantissa), m.Canonical ∧ m.value = a ∧
      x.toModel.unpack = .finite .positive m.mantissa m.exponent hm := by
  obtain ⟨m, hread, hcanonical, hm, hvalue⟩ := h.exists_read ha
  refine ⟨m, hm, hcanonical, hvalue, ?_⟩
  rw [unpack_eq, hread, Reading.unpacked, dif_neg hm.ne']
  rfl

/-- A relation between what two doubles stand for is one between the numbers they denote. -/
private theorem exists_value?_iff {R : WithBot (WithTop ℚ) → WithBot (WithTop ℚ) → Prop}
    (hx : Denotes x a) (hy : Denotes y b) :
    (∃ c d, value? x = some c ∧ value? y = some d ∧ R c d) ↔
      R ((a : WithTop ℚ) : WithBot (WithTop ℚ)) ((b : WithTop ℚ) : WithBot (WithTop ℚ)) := by
  rw [hx, hy]
  constructor
  · rintro ⟨c, d, hc, hd, h⟩
    obtain rfl := Option.some.inj hc
    obtain rfl := Option.some.inj hd
    exact h
  · intro h
    exact ⟨_, _, rfl, rfl, h⟩

/-- Doubles that denote numbers are in order if the numbers are. -/
theorem le_iff (hx : Denotes x a) (hy : Denotes y b) : x ≤ y ↔ a ≤ b := by
  rw [Decimal.le_iff, exists_value?_iff hx hy, WithBot.coe_le_coe, WithTop.coe_le_coe]

/-- A double that denotes a smaller number is less. -/
theorem lt_iff (hx : Denotes x a) (hy : Denotes y b) : x < y ↔ a < b := by
  rw [Decimal.lt_iff, exists_value?_iff hx hy, WithBot.coe_lt_coe, WithTop.coe_lt_coe]

/-- Doubles that denote numbers are equal if the numbers are. -/
theorem beq_iff (hx : Denotes x a) (hy : Denotes y b) : (x == y) = true ↔ a = b := by
  rw [Decimal.beq_iff, exists_value?_iff hx hy, WithBot.coe_inj, WithTop.coe_inj]

/-- A double between two that denote numbers denotes one between these. -/
theorem of_le_of_le {z : Float} (hx : Denotes x a) (hz : Denotes z b) (hxy : x ≤ y)
    (hyz : y ≤ z) : ∃ c, Denotes y c ∧ a ≤ c ∧ c ≤ b := by
  obtain ⟨v, w, hv, hw, hvw⟩ := Decimal.le_iff.mp hxy
  obtain ⟨w', u, hw', hu, hwu⟩ := Decimal.le_iff.mp hyz
  obtain rfl := Option.some.inj (hw.symm.trans hw')
  obtain rfl := Option.some.inj (hx.symm.trans hv)
  obtain rfl := Option.some.inj (hz.symm.trans hu)
  cases w with
  | bot => exact absurd hvw (by simp)
  | coe w =>
    cases w with
    | top => exact absurd hwu (by simp)
    | coe c =>
      exact ⟨c, hw, WithTop.coe_le_coe.mp (WithBot.coe_le_coe.mp hvw),
        WithTop.coe_le_coe.mp (WithBot.coe_le_coe.mp hwu)⟩

/-- One above the smaller of the two denotes a greater number. -/
theorem of_lt_of_le {z : Float} (hx : Denotes x a) (hz : Denotes z b) (hlt : x < y)
    (hle : y ≤ z) : ∃ c, Denotes y c ∧ a < c ∧ c ≤ b := by
  obtain ⟨c, hy, -, hcb⟩ := of_le_of_le hx hz (Decimal.le_of_lt hlt) hle
  exact ⟨c, hy, (hx.lt_iff hy).mp hlt, hcb⟩

end Denotes

end GatewayProbe.Decimal
