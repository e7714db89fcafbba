import GatewayProbe.Json.Document
import GatewayProbe.Json.Field
import GatewayProbe.Proofs.Json.Lexing
import GatewayProbe.Proofs.Text.Joining

/-!
# The spellings of numbers

A number is spelled by an optional minus sign, digits that do not begin with a superfluous
zero, and an optional fraction and an optional exponent behind them.
-/

namespace GatewayProbe.Json

/-- One or more decimal digits. -/
def IsDigits (s : List Char) : Prop := s ≠ [] ∧ ∀ c ∈ s, c.isDigit = true

/-- The digits of a whole number, of which a zero is the first only if it is the only one. -/
def IsWhole (s : List Char) : Prop := s = ['0'] ∨ IsDigits s ∧ s.head? ≠ some '0'

/-- An optional fraction. -/
inductive IsFraction : List Char → Prop
  | none : IsFraction []
  | digits {s : List Char} (h : IsDigits s) : IsFraction ('.' :: s)

/-- An optional exponent. -/
inductive IsExponent : List Char → Prop
  | none : IsExponent []
  | digits {mark : Char} {sign s : List Char} (hmark : mark = 'e' ∨ mark = 'E')
      (hsign : sign = [] ∨ sign = ['-'] ∨ sign = ['+']) (h : IsDigits s) :
      IsExponent (mark :: (sign ++ s))

/-- The spellings of numbers without a sign. -/
inductive IsUnsigned : List Char → Prop
  | mk {whole fraction exponent : List Char} (hwhole : IsWhole whole)
      (hfraction : IsFraction fraction) (hexponent : IsExponent exponent) :
      IsUnsigned (whole ++ (fraction ++ exponent))

/-- The spellings of numbers. -/
inductive SpellsNumber : List Char → Prop
  | unsigned {s : List Char} (h : IsUnsigned s) : SpellsNumber s
  | negative {s : List Char} (h : IsUnsigned s) : SpellsNumber ('-' :: s)

/-- A whole number is written in digits. -/
theorem IsWhole.isDigits {s : List Char} (h : IsWhole s) : IsDigits s := by
  obtain rfl | h := h
  · refine ⟨List.cons_ne_nil '0' [], fun c hc => ?_⟩
    obtain rfl := List.mem_singleton.mp hc
    rfl
  · exact h.1

private theorem isSome_readExponent_iff {s : List Char} :
    (Decimal.readExponent s).isSome = true ↔
      ∃ sign digits, (sign = [] ∨ sign = ['-'] ∨ sign = ['+']) ∧ IsDigits digits ∧
        s = sign ++ digits := by
  constructor
  · intro h
    unfold Decimal.readExponent at h
    split at h <;> simp at h
    · exact ⟨['-'], _, by simp, h, rfl⟩
    · exact ⟨['+'], _, by simp, h, rfl⟩
    · exact ⟨[], _, by simp, h, rfl⟩
  · rintro ⟨sign, digits, rfl | rfl | rfl, ⟨hne, hdigits⟩, rfl⟩
    · -- The first character is a digit and so none of the signs.
      obtain ⟨c, rest, rfl⟩ := List.exists_cons_of_ne_nil hne
      have hc := hdigits c List.mem_cons_self
      unfold Decimal.readExponent
      split
      · simp_all
      · simp_all
      · simpa using hdigits
    · simpa [Decimal.readExponent, hne] using hdigits
    · simpa [Decimal.readExponent, hne] using hdigits

private theorem isExponentPart_iff {s : List Char} : isExponentPart s = true ↔ IsExponent s := by
  constructor
  · intro h
    cases s with
    | nil => exact .none
    | cons mark rest =>
      simp only [isExponentPart, Bool.and_eq_true, Bool.or_eq_true, decide_eq_true_eq] at h
      obtain ⟨sign, digits, hsign, hdigits, rfl⟩ := isSome_readExponent_iff.mp h.2
      exact .digits h.1 hsign hdigits
  · intro h
    cases h with
    | none => rfl
    | digits hmark hsign hdigits =>
      simp only [isExponentPart, Bool.and_eq_true, Bool.or_eq_true, decide_eq_true_eq]
      exact ⟨hmark, isSome_readExponent_iff.mpr ⟨_, _, hsign, hdigits, rfl⟩⟩

/-- An exponent begins with no digit and no point. -/
theorem IsExponent.head?_ne {s : List Char} (h : IsExponent s) :
    ∀ c ∈ s.head?, c.isDigit = false ∧ c ≠ '.' := by
  cases h with
  | none => simp
  | digits hmark => obtain rfl | rfl := hmark <;> simp

private theorem afterFraction_append {fraction rest : List Char} (h : IsFraction fraction)
    (hrest : IsExponent rest) : afterFraction (fraction ++ rest) = some rest := by
  cases h with
  | none =>
    rw [List.nil_append]
    unfold afterFraction
    split
    · simpa using hrest.head?_ne
    · rfl
  | @digits s h =>
    obtain ⟨htake, hdrop⟩ :=
      takeWhile_append_of_head? h.2 fun c hc => (hrest.head?_ne c hc).1
    simp [afterFraction, htake, hdrop, h.1]

private theorem exists_of_afterFraction {s rest : List Char} (h : afterFraction s = some rest) :
    ∃ fraction, IsFraction fraction ∧ s = fraction ++ rest := by
  unfold afterFraction at h
  split at h
  · rename_i more
    split at h
    · simp at h
    · obtain rfl := Option.some.inj h
      rename_i hne
      have hdigits : IsDigits (more.takeWhile Char.isDigit) :=
        ⟨by simpa using hne, fun c hc => List.mem_takeWhile_imp hc⟩
      exact ⟨_, .digits hdigits, by simp⟩
  · obtain rfl := Option.some.inj h
    exact ⟨[], .none, rfl⟩

/-- What follows the whole part of a number begins with no digit. -/
theorem IsFraction.isDigit_head? {fraction exponent : List Char} (h : IsFraction fraction)
    (hexponent : IsExponent exponent) :
    ∀ c ∈ (fraction ++ exponent).head?, c.isDigit = false := by
  cases h with
  | none => exact fun c hc => (hexponent.head?_ne c hc).1
  | digits => simp

/-- Among digits, a zero in front is superfluous unless it is all there is. -/
theorem isWhole_iff {s : List Char} (h : IsDigits s) :
    IsWhole s ↔ s.length = 1 ∨ s.head? ≠ some '0' := by
  constructor
  · rintro (rfl | h)
    · exact .inl rfl
    · exact .inr h.2
  · intro hleading
    by_cases hzero : s.head? = some '0'
    · obtain ⟨c, rfl⟩ := List.length_eq_one_iff.mp (hleading.resolve_right (absurd hzero))
      exact .inl (by simpa using hzero)
    · exact .inr ⟨h, hzero⟩

private theorem isMagnitude_iff {s : List Char} : isMagnitude s = true ↔ IsUnsigned s := by
  constructor
  · intro h
    simp only [isMagnitude, Bool.and_eq_true, Bool.not_eq_true', List.isEmpty_eq_false_iff,
      Bool.or_eq_true, decide_eq_true_eq, Option.any_eq_true] at h
    obtain ⟨⟨hne, hleading⟩, exponent, hrest, hexponent⟩ := h
    have hdigits : IsDigits (s.takeWhile Char.isDigit) :=
      ⟨hne, fun c hc => List.mem_takeWhile_imp hc⟩
    obtain ⟨fraction, hfraction, hdrop⟩ := exists_of_afterFraction hrest
    have hwhole := (isWhole_iff hdigits).mpr hleading
    have hmk := IsUnsigned.mk hwhole hfraction (isExponentPart_iff.mp hexponent)
    rwa [← hdrop, List.takeWhile_append_dropWhile] at hmk
  · rintro ⟨hwhole, hfraction, hexponent⟩
    obtain ⟨htake, hdrop⟩ :=
      takeWhile_append_of_head? hwhole.isDigits.2 (hfraction.isDigit_head? hexponent)
    simp only [isMagnitude, Bool.and_eq_true, Bool.not_eq_true', List.isEmpty_eq_false_iff,
      Bool.or_eq_true, decide_eq_true_eq, Option.any_eq_true, htake, hdrop]
    exact ⟨⟨hwhole.isDigits.1, (isWhole_iff hwhole.isDigits).mp hwhole⟩, _,
      afterFraction_append hfraction hexponent, isExponentPart_iff.mpr hexponent⟩

/-- A number without a sign begins with a digit. -/
theorem IsUnsigned.exists_cons {s : List Char} (h : IsUnsigned s) :
    ∃ c rest, s = c :: rest ∧ c.isDigit = true := by
  obtain ⟨hwhole, -, -⟩ := h
  obtain ⟨c, rest, rfl⟩ := List.exists_cons_of_ne_nil hwhole.isDigits.1
  exact ⟨c, _, rfl, hwhole.isDigits.2 c List.mem_cons_self⟩

/-- The words taken for numbers are the spellings of numbers. -/
theorem isNumber_iff {w : List Char} : isNumber w = true ↔ SpellsNumber w := by
  constructor
  · intro h
    unfold isNumber at h
    split at h
    · exact .negative (isMagnitude_iff.mp h)
    · exact .unsigned (isMagnitude_iff.mp h)
  · intro h
    cases h with
    | unsigned h =>
      obtain ⟨c, rest, rfl, hc⟩ := h.exists_cons
      unfold isNumber
      split
      · simp_all
      · exact isMagnitude_iff.mpr h
    | negative h => exact isMagnitude_iff.mpr h

/-! ### Whole numbers -/

open GatewayProbe.Text

/-- A whole number has one spelling. -/
theorem IsWhole.eq_toDigits {s : List Char} (h : IsWhole s) :
    s = Nat.toDigits 10 (Nat.ofDigitChars 10 s 0) := by
  obtain rfl | ⟨⟨hne, hdigits⟩, hzero⟩ := h
  · rfl
  · obtain ⟨c, rest, rfl⟩ := List.exists_cons_of_ne_nil hne
    obtain ⟨hc, hrest⟩ := List.forall_mem_cons.mp hdigits
    have hpos : 0 < c.toNat - '0'.toNat := by
      by_contra hnot
      have hdigit := toDigits_digit hc
      rw [Nat.eq_zero_of_not_pos hnot] at hdigit
      exact hzero (by simpa using hdigit.symm)
    rw [Nat.ofDigitChars_cons, Nat.mul_zero, Nat.zero_add, toDigits_ofDigitChars hrest hpos,
      toDigits_digit hc]
    rfl

/-- A whole number within the bound is read from its spelling and from no other one. -/
theorem readUnsigned_eq_ok_iff {bound n : Nat} {s : List Char} (h : IsWhole s) :
    readUnsigned bound s = .ok n ↔ n ≤ bound ∧ s = Nat.toDigits 10 n := by
  constructor
  · intro hread
    rw [readUnsigned_of_isDigit h.isDigits.1 h.isDigits.2] at hread
    obtain ⟨-, rfl, hbound⟩ := (readDigits_eq_ok_iff (Nat.zero_le bound)).mp hread
    exact ⟨hbound, h.eq_toDigits⟩
  · rintro ⟨hbound, rfl⟩
    exact readUnsigned_toDigits hbound

/-- A number spelled with digits alone has neither a fraction nor an exponent. -/
theorem IsUnsigned.isWhole {s : List Char} (h : IsUnsigned s)
    (hdigits : s.all Char.isDigit = true) : IsWhole s := by
  rw [List.all_eq_true] at hdigits
  obtain ⟨hwhole, hfraction, hexponent⟩ := h
  cases hfraction with
  | none =>
    cases hexponent with
    | none => simpa using hwhole
    | digits hmark =>
      obtain rfl | rfl := hmark
      · exact absurd (hdigits 'e' (by simp)) (by decide)
      · exact absurd (hdigits 'E' (by simp)) (by decide)
  | digits => exact absurd (hdigits '.' (by simp)) (by decide)

/-- An amount that is read as a double is no whole number. -/
theorem real_ne {x : Option Float} {a : Amount} (ha : ∀ y, a ≠ .real y) :
    (x.bind fun y => if y.isFinite then some (.real y) else none) ≠ some a := by
  intro h
  obtain ⟨y, -, hy⟩ := Option.bind_eq_some_iff.mp h
  split at hy
  · exact ha y (Option.some.inj hy).symm
  · simp at hy

private theorem ne_toDigits {s : List Char} (h : ¬ s.all Char.isDigit = true) (n : Nat) :
    s ≠ Nat.toDigits 10 n := by
  rintro rfl
  exact h (List.all_eq_true.mpr isDigit_of_mem_toDigits)

/-- A spelling without a sign is the amount of a whole number within 64 bits, or a double. -/
theorem amount?_of_isUnsigned {s : List Char} (h : IsUnsigned s) :
    (∀ n, amount? s = some (.unsigned n) ↔ n ≤ max64 ∧ s = Nat.toDigits 10 n) ∧
      ∀ i, amount? s ≠ some (.negative i) := by
  obtain ⟨c, rest, rfl, hc⟩ := h.exists_cons
  unfold amount?
  dsimp only
  split
  · simp_all
  · split
    · rename_i hdigits
      have hiff (n : Nat) : readUnsigned max64 (c :: rest) = .ok n ↔ _ :=
        readUnsigned_eq_ok_iff (h.isWhole hdigits)
      split
      · rename_i m hread
        exact ⟨fun n => by simp [← hiff, hread], by simp⟩
      · rename_i e hread
        exact ⟨fun n => iff_of_false (real_ne nofun) (by simp [← hiff, hread]),
          fun i => real_ne nofun⟩
    · rename_i hdigits
      exact ⟨fun n => iff_of_false (real_ne nofun) fun hn => ne_toDigits hdigits n hn.2,
        fun i => real_ne nofun⟩

/-- A spelling with a sign is the amount of a negative whole number within 64 bits, or a
double; a zero is a double. -/
theorem amount?_of_negative {s : List Char} (h : IsUnsigned s) :
    (∀ i : Int, amount? ('-' :: s) = some (.negative i) ↔
      ∃ n : Nat, 0 < n ∧ n ≤ 2 ^ 63 ∧ i = -n ∧ s = Nat.toDigits 10 n) ∧
      ∀ n, amount? ('-' :: s) ≠ some (.unsigned n) := by
  simp only [amount?]
  split
  · rename_i hdigits
    have hiff (n : Nat) : readUnsigned (2 ^ 63) s = .ok n ↔ _ :=
      readUnsigned_eq_ok_iff (h.isWhole hdigits)
    split
    · rename_i m hread
      have honly {n : Nat} (hn : n ≤ 2 ^ 63) (hs : s = Nat.toDigits 10 n) : m = n :=
        Except.ok.inj (hread.symm.trans ((hiff n).mpr ⟨hn, hs⟩))
      split
      · rename_i hzero
        refine ⟨fun i => iff_of_false (real_ne nofun) ?_, fun n => real_ne nofun⟩
        rintro ⟨n, hpos, hn, -, hs⟩
        exact hpos.ne (hzero ▸ honly hn hs)
      · rename_i hzero
        refine ⟨fun i => ⟨?_, ?_⟩, by simp⟩
        · intro hi
          obtain rfl := Amount.negative.inj (Option.some.inj hi)
          obtain ⟨hm, hs⟩ := (hiff m).mp hread
          exact ⟨m, Nat.pos_of_ne_zero hzero, hm, rfl, hs⟩
        · rintro ⟨n, -, hn, rfl, hs⟩
          rw [honly hn hs]
    · rename_i e hread
      refine ⟨fun i => iff_of_false (real_ne nofun) ?_, fun n => real_ne nofun⟩
      rintro ⟨n, -, hn, -, hs⟩
      exact nomatch hread.symm.trans ((hiff n).mpr ⟨hn, hs⟩)
  · rename_i hdigits
    refine ⟨fun i => iff_of_false (real_ne nofun) ?_, fun n => real_ne nofun⟩
    rintro ⟨n, -, -, -, hs⟩
    exact ne_toDigits hdigits n hs

/-- A natural number is written in its digits. -/
theorem scalar_natCast (n : Nat) : (Document.integer n).scalar = Nat.toDigits 10 n := by
  simp [Document.scalar, decimalDigits]

private theorem scalar_of_neg {i : Int} (h : i < 0) :
    (Document.integer i).scalar = '-' :: Nat.toDigits 10 i.natAbs := by
  simp [Document.scalar, decimalDigits, h]

private theorem toDigits_ne_minus (n : Nat) (s : List Char) : Nat.toDigits 10 n ≠ '-' :: s := by
  intro h
  exact absurd (isDigit_of_mem_toDigits '-' (h ▸ List.mem_cons_self)) (by decide)

private theorem amount?_unsigned_iff {s : List Char} (h : SpellsNumber s) {n : Nat} :
    amount? s = some (.unsigned n) ↔ n ≤ max64 ∧ s = (Document.integer n).scalar := by
  rw [scalar_natCast]
  cases h with
  | unsigned h => exact (amount?_of_isUnsigned h).1 n
  | negative h =>
    exact iff_of_false ((amount?_of_negative h).2 n) fun hn => toDigits_ne_minus n _ hn.2.symm

private theorem amount?_negative_iff {s : List Char} (h : SpellsNumber s) {i : Int} :
    amount? s = some (.negative i) ↔
      i < 0 ∧ -(2 ^ 63) ≤ i ∧ s = (Document.integer i).scalar := by
  cases h with
  | unsigned h =>
    refine iff_of_false ((amount?_of_isUnsigned h).2 i) ?_
    rintro ⟨hneg, -, hs⟩
    obtain ⟨c, rest, rfl, hc⟩ := h.exists_cons
    rw [scalar_of_neg hneg] at hs
    obtain ⟨rfl, -⟩ := List.cons.inj hs
    exact absurd hc (by decide)
  | negative h =>
    rw [(amount?_of_negative h).1 i]
    constructor
    · rintro ⟨n, hpos, hn, rfl, rfl⟩
      have hneg : -(n : Int) < 0 := by omega
      refine ⟨hneg, by omega, ?_⟩
      rw [scalar_of_neg hneg, Int.natAbs_neg, Int.natAbs_natCast]
    · rintro ⟨hneg, hlow, hs⟩
      rw [scalar_of_neg hneg] at hs
      exact ⟨i.natAbs, by omega, by omega, by omega, (List.cons.inj hs).2⟩

/-- A whole number between bounds is read from the spelling that is written for it, and from
no other one. -/
theorem integer?_eq_some_iff {least greatest i : Int} {s : List Char} (h : SpellsNumber s)
    (hleast : -(2 ^ 63) ≤ least) (hzero : least ≤ 0) (hzero' : 0 ≤ greatest)
    (hgreatest : greatest ≤ max64) :
    (Value.number s).integer? least greatest = some i ↔
      least ≤ i ∧ i ≤ greatest ∧ s = (Document.integer i).scalar := by
  constructor
  · intro hread
    simp only [Value.integer?] at hread
    split at hread
    · rename_i n hamount
      obtain ⟨-, hs⟩ := (amount?_unsigned_iff h).mp hamount
      split at hread
      · obtain rfl := Option.some.inj hread
        exact ⟨by omega, by assumption, hs⟩
      · simp at hread
    · rename_i n hamount
      obtain ⟨hneg, -, hs⟩ := (amount?_negative_iff h).mp hamount
      split at hread
      · obtain rfl := Option.some.inj hread
        exact ⟨by assumption, by omega, hs⟩
      · simp at hread
    · simp at hread
  · rintro ⟨hlow, hhigh, hs⟩
    by_cases hneg : i < 0
    · have hamount := (amount?_negative_iff h).mpr ⟨hneg, by omega, hs⟩
      simp [Value.integer?, hamount, hlow]
    · obtain ⟨n, rfl⟩ := Int.eq_ofNat_of_zero_le (Int.not_lt.mp hneg)
      have hamount := (amount?_unsigned_iff h).mpr ⟨by omega, hs⟩
      simpa [Value.integer?, hamount] using hhigh

end GatewayProbe.Json
