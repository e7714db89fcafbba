import GatewayProbe.Proofs.Decimal.Characters
import GatewayProbe.Proofs.Decimal.RoundTrip
import GatewayProbe.Proofs.Slo.Naming
import GatewayProbe.Proofs.Slo.Soundness

/-!
# What the label of a percentile tells

The label of a target shows its percentage rounded to tenths. It is read back as the quantile that
these tenths stand for, unless there is none. So a quantile is read back from its label if it is
one of these thousand, and no other quantile is.
-/

namespace GatewayProbe.Decimal

namespace Denotes

variable {x : Float} {a : ℚ}

theorem ten : Denotes 10.0 10 := by
  have hread : read 10.0 = .finite false ⟨5 * 2 ^ 50, -49, false⟩ := by decide +kernel
  exact of_read hread (by norm_num [Binary.value])

theorem hundred : Denotes 100.0 100 := by
  have hread : read 100.0 = .finite false ⟨25 * 2 ^ 48, -46, false⟩ := by decide +kernel
  exact of_read hread (by norm_num [Binary.value])

/-- A positive double that is no word too large is rounded to the natural number within one half,
the larger one of two. -/
theorem halfUp_spec (hx : Denotes x a) (ha : 0 < a) (hmax : a ≤ 2 ^ 53) :
    nearestWhole x = Decimal.ofNat (halfUp x) ∧ (halfUp x : ℚ) ≤ a + 1 / 2 ∧
      a + 1 / 2 < halfUp x + 1 := by
  obtain ⟨b, hread, -, -, rfl⟩ := hx.exists_read ha
  obtain ⟨hden, hquotient⟩ := b.quotient_eq
  have hden' : (0 : ℚ) < (b.quotient 1).2 := by exact_mod_cast hden
  obtain ⟨k, hk⟩ : ∃ k, k = (2 * (b.quotient 1).1 + (b.quotient 1).2) / (2 * (b.quotient 1).2) :=
    ⟨_, rfl⟩
  have hhalf : ((2 * (b.quotient 1).1 + (b.quotient 1).2 : ℕ) : ℚ) /
      (2 * (b.quotient 1).2 : ℕ) = b.value + 1 / 2 := by
    rw [← hquotient]
    push_cast
    field_simp
  obtain ⟨hlow, hhigh⟩ := div_between (2 * (b.quotient 1).1 + (b.quotient 1).2)
    (show 0 < 2 * (b.quotient 1).2 by omega)
  rw [← hk, hhalf] at hlow hhigh
  have hword : k ≤ greatestWord := by
    have hle : (k : ℚ) ≤ (2 ^ 53 + 1 : ℕ) := by
      push_cast
      linarith
    have hle : k ≤ 2 ^ 53 + 1 := by exact_mod_cast hle
    exact hle.trans (by norm_num [greatestWord])
  have hhalfUp : halfUp x = k := by
    unfold halfUp toWord
    rw [hread]
    exact (congrArg (min · greatestWord) hk.symm).trans (Nat.min_eq_left hword)
  refine ⟨?_, hhalfUp ▸ hlow, hhalfUp ▸ hhigh⟩
  unfold nearestWhole
  rw [hread, hhalfUp, hk]
  exact if_neg Bool.false_ne_true

end Denotes

end GatewayProbe.Decimal

namespace GatewayProbe.Slo

open GatewayProbe.Text
open Decimal (Denotes rounded rounded_mono rounded_eq_self rounded_pos abs_rounded_sub_le)

/-- The tenths of a per cent that a label shows. -/
def tenths (q : Float) : Nat := Decimal.halfUp (q * 1000.0)

/-- The number with one decimal place that stands for tenths. -/
def percentage (n : Nat) : Float := Decimal.ofNat n / 10.0

/-- The quantile that tenths of a per cent stand for. -/
def ofTenths (n : Nat) : Float := percentage n / 100.0

/-! ## Quantiles of tenths -/

/-- Whole numbers of no more than ten binary digits are doubles. -/
theorem rounded_natCast {n : ℕ} (hpos : 0 < n) (hmax : n ≤ 1000) : rounded (n : ℚ) = n := by
  have h := rounded_eq_self (e := 0) hpos (show n < 2 ^ 53 by omega) (by norm_num)
  rwa [zpow_zero, mul_one] at h

variable {n : Nat} {q : Float} {a : ℚ}

/-- So what is no more than such a number is not rounded to more. -/
theorem rounded_le_natCast (hpos : 0 < n) (hmax : n ≤ 1000) (ha : 0 < a) (h : a ≤ n) :
    rounded a ≤ n :=
  (rounded_mono ha h).trans_eq (rounded_natCast hpos hmax)

/-- A number that is not tiny has all its digits in a double. -/
theorem normal_of_le (h : 1 / 100000 ≤ a) : (2 : ℚ) ^ (-1022 : ℤ) ≤ a := by
  calc (2 : ℚ) ^ (-1022 : ℤ) ≤ 2 ^ (-17 : ℤ) := zpow_le_zpow_right₀ (by norm_num) (by decide)
    _ ≤ a := by
      norm_num at h ⊢
      linarith

/-- One that is not huge either is a finite double. -/
theorem finite_of_le (h : a ≤ 1000) : a < (2 : ℚ) ^ (1023 : ℤ) := by
  calc a < 2 ^ (10 : ℤ) := by
        norm_num
        linarith
    _ ≤ 2 ^ (1023 : ℤ) := zpow_le_zpow_right₀ (by norm_num) (by decide)

/-- A quotient of doubles that is neither tiny nor huge is rounded a little. -/
theorem denotes_div {x y : Float} {b : ℚ} (hx : Denotes x a) (hy : Denotes y b) (ha : 0 < a)
    (hb : 0 < b) (hlow : 1 / 100000 ≤ a / b) (hhigh : a / b ≤ 1000) :
    Denotes (x / y) (rounded (a / b)) ∧ |rounded (a / b) - a / b| ≤ a / b / 2 ^ (53 : ℤ) := by
  have hnormal := normal_of_le hlow
  have hleast : (2 : ℚ) ^ (-1074 : ℤ) ≤ a / b :=
    (zpow_le_zpow_right₀ (by norm_num) (by decide)).trans hnormal
  exact ⟨hx.div hy ha hb hleast (finite_of_le hhigh), abs_rounded_sub_le hnormal⟩

/-- Tenths of a per cent are rounded a little twice. -/
theorem denotes_ofTenths (hpos : 0 < n) (hmax : n ≤ 1000) :
    ∃ c d : ℚ, Denotes (percentage n) c ∧ Denotes (ofTenths n) d ∧ 0 < c ∧ c ≤ 100 ∧ 0 < d ∧
      d ≤ 1 ∧ |c - n / 10| ≤ n / 10 / 2 ^ (53 : ℤ) ∧ |d - c / 100| ≤ c / 100 / 2 ^ (53 : ℤ) := by
  have hn : (1 : ℚ) ≤ n := by exact_mod_cast hpos
  have hn' : (n : ℚ) ≤ 1000 := by exact_mod_cast hmax
  obtain ⟨hc, hcerror⟩ := denotes_div (Denotes.ofNat_of_lt hpos (by omega)) .ten (by linarith)
    (by norm_num) (by linarith) (by linarith)
  have hcmax : rounded ((n : ℚ) / 10) ≤ 100 := by
    refine mod_cast rounded_le_natCast (n := 100) (by decide) (by decide) (by positivity) ?_
    push_cast
    linarith
  generalize rounded ((n : ℚ) / 10) = c at hc hcerror hcmax
  have hcmin : 1 / 20 ≤ c := by
    have hlow := (abs_le.mp hcerror).1
    norm_num at hlow
    linarith
  obtain ⟨hd, hderror⟩ := denotes_div hc .hundred (by linarith) (by norm_num) (by linarith)
    (by linarith)
  have hdmax : rounded (c / 100) ≤ 1 := by
    refine mod_cast rounded_le_natCast (n := 1) (by decide) (by decide) (by linarith) ?_
    push_cast
    linarith
  generalize rounded (c / 100) = d at hd hderror hdmax
  have hdmin : 0 < d := by
    have hlow := (abs_le.mp hderror).1
    norm_num at hlow
    linarith
  exact ⟨c, d, hc, hd, by linarith, hcmax, hdmin, hdmax, hcerror, hderror⟩

private theorem isQuantile_ofTenths (hpos : 0 < n) (hmax : n ≤ 1000) :
    isQuantile (ofTenths n) = true := by
  obtain ⟨c, d, -, hd, -, -, hlow, hhigh, -, -⟩ := denotes_ofTenths hpos hmax
  exact isQuantile_iff.mpr ⟨(Denotes.zero.lt_iff hd).mpr hlow, (hd.le_iff .one).mpr hhigh⟩

/-- No tenths at all are no quantile. -/
theorem isQuantile_ofTenths_zero : isQuantile (ofTenths 0) = false := by
  decide +kernel

/-- A quantile is no more than a thousand tenths of a per cent, and its label shows these. -/
theorem tenths_spec (hq : isQuantile q = true) : tenths q ≤ 1000 ∧
    percentileLabel q = "p" ++ Decimal.text (percentage (tenths q)) := by
  obtain ⟨hlow, hhigh⟩ := isQuantile_iff.mp hq
  obtain ⟨a, hdenotes, h0, h1⟩ := Denotes.of_lt_of_le Denotes.zero Denotes.one hlow hhigh
  have hmul := hdenotes.mul .thousand h0 (by norm_num) (finite_of_le (by linarith))
  have hpos : 0 < rounded (a * 1000) :=
    rounded_pos ((hdenotes.least_le h0).trans (by linarith))
  have hmost : rounded (a * 1000) ≤ 1000 := by
    refine mod_cast rounded_le_natCast (n := 1000) (by decide) (by decide) (by linarith) ?_
    push_cast
    linarith
  obtain ⟨hwhole, hle, -⟩ := hmul.halfUp_spec hpos (by linarith)
  refine ⟨?_, by rw [percentileLabel, hwhole]; rfl⟩
  have hlt : ((tenths q : ℕ) : ℚ) < 1001 := by
    rw [tenths]
    linarith
  have hlt : tenths q < 1001 := by exact_mod_cast hlt
  omega

/-- The quantile of tenths has these tenths: three roundings are too little to change them. -/
theorem tenths_ofTenths (hpos : 0 < n) (hmax : n ≤ 1000) : tenths (ofTenths n) = n := by
  obtain ⟨c, d, -, hd, hc0, hc100, hd0, hd1, hcerror, hderror⟩ := denotes_ofTenths hpos hmax
  have hn : (1 : ℚ) ≤ n := by exact_mod_cast hpos
  have hn' : (n : ℚ) ≤ 1000 := by exact_mod_cast hmax
  obtain ⟨hclow, hchigh⟩ := abs_le.mp hcerror
  obtain ⟨hdlow, hdhigh⟩ := abs_le.mp hderror
  norm_num at hclow hchigh hdlow hdhigh
  have hmul := hd.mul .thousand hd0 (by norm_num) (finite_of_le (by linarith))
  have herror := abs_rounded_sub_le (normal_of_le (show 1 / 100000 ≤ d * 1000 by linarith))
  obtain ⟨helow, hehigh⟩ := abs_le.mp herror
  norm_num at helow hehigh
  obtain ⟨-, hlow, hhigh⟩ := hmul.halfUp_spec (by linarith) (by linarith)
  have hbelow : ((tenths (ofTenths n) : ℕ) : ℚ) < n + 1 := by
    rw [tenths]
    linarith
  have habove : (n : ℚ) < (tenths (ofTenths n) : ℕ) + 1 := by
    rw [tenths]
    linarith
  have hbelow : tenths (ofTenths n) < n + 1 := by exact_mod_cast hbelow
  have habove : n < tenths (ofTenths n) + 1 := by exact_mod_cast habove
  omega

/-! ## Labels that are read -/

/-- A number behind a mark is read as a percentage. -/
theorem readQuantile_marked {s : List Char} {x : Float} (h : Decimal.parse s = some x) :
    readQuantile ('p' :: s) = if isQuantile (x / 100.0) = true then .ok (x / 100.0)
      else .error (.percentile (String.ofList ('p' :: s))) := by
  have htrim : trim ('p' :: s) = 'p' :: s := trim_eq_self (List.forall_mem_cons.mpr
    ⟨by decide, fun c hc => Decimal.isBlank_of_isNumeral (Decimal.isNumeral_of_parse h c hc)⟩)
  unfold readQuantile
  simp only [htrim, unmark, h, quantileOf, Bool.or_true, if_true]

/-- A label is read as the quantile of the tenths that it shows, if this is one. -/
theorem readQuantile_label (hq : isQuantile q = true) :
    readQuantile (percentileLabel q).toList = if tenths q = 0
      then .error (.percentile (percentileLabel q)) else .ok (ofTenths (tenths q)) := by
  obtain ⟨hmax, hlabel⟩ := tenths_spec hq
  have hparse : Decimal.parse (Decimal.text (percentage (tenths q))).toList =
      some (percentage (tenths q)) := by
    by_cases hzero : tenths q = 0
    · rw [hzero]
      decide +kernel
    · obtain ⟨c, d, hc, -, hpos, hmost, -⟩ := denotes_ofTenths (Nat.pos_of_ne_zero hzero) hmax
      exact Decimal.parse_text hc hpos (finite_of_le (by linarith))
  have hlist : (percentileLabel q).toList =
      'p' :: (Decimal.text (percentage (tenths q))).toList := by
    rw [hlabel, String.toList_append]
    rfl
  rw [hlist, readQuantile_marked hparse, ← hlist, String.ofList_toList]
  by_cases hzero : tenths q = 0
  · have hnone : isQuantile (percentage (tenths q) / 100.0) = false := by
      rw [hzero]
      exact isQuantile_ofTenths_zero
    rw [if_pos hzero, hnone, if_neg Bool.false_ne_true]
  · have hsome : isQuantile (percentage (tenths q) / 100.0) = true :=
      isQuantile_ofTenths (Nat.pos_of_ne_zero hzero) hmax
    rw [if_neg hzero, hsome, if_pos rfl]
    rfl

/-- A quantile is read back from its label exactly if it is that of tenths of a per cent. -/
theorem readQuantile_label_eq_iff (hq : isQuantile q = true) :
    readQuantile (percentileLabel q).toList = .ok q ↔ ∃ n, 0 < n ∧ n ≤ 1000 ∧ q = ofTenths n := by
  rw [readQuantile_label hq]
  constructor
  · intro h
    split_ifs at h with hzero
    exact ⟨tenths q, Nat.pos_of_ne_zero hzero, (tenths_spec hq).1, (Except.ok.inj h).symm⟩
  · rintro ⟨n, hpos, hmax, rfl⟩
    rw [tenths_ofTenths hpos hmax, if_neg hpos.ne']

/-- Two quantiles have the same label exactly if they have the same tenths. -/
theorem percentileLabel_eq_iff {q' : Float} (hq : isQuantile q = true)
    (hq' : isQuantile q' = true) :
    percentileLabel q = percentileLabel q' ↔ tenths q = tenths q' := by
  constructor
  · intro h
    have hread := readQuantile_label hq
    rw [h, readQuantile_label hq'] at hread
    split_ifs at hread with hzero' hzero hzero
    · rw [hzero, hzero']
    · have heq := congrArg tenths (Except.ok.inj hread)
      rw [tenths_ofTenths (Nat.pos_of_ne_zero hzero) (tenths_spec hq).1,
        tenths_ofTenths (Nat.pos_of_ne_zero hzero') (tenths_spec hq').1] at heq
      exact heq.symm
  · intro h
    rw [(tenths_spec hq).2, (tenths_spec hq').2, h]

/-! ## Labels of targets -/

/-- What the label of a target tells: it stands behind the name wherever the target is shown, and
it is read as the quantile of the tenths that it shows. -/
structure Threshold.Labelled (t : Threshold) (label : String) : Prop where
  eq : label = "p" ++ Decimal.text (percentage (tenths t.quantile))
  inText : ∃ after, t.text = t.endpoint ++ " " ++ label ++ after
  inLine : ∀ o : Outcome, o.endpoint = t.endpoint → o.quantile = t.quantile →
    ∃ before after, o.line = before ++ t.endpoint ++ " " ++ label ++ after
  /-- No quantile has no tenths. -/
  refused : tenths t.quantile = 0 → ∀ q, readQuantile label.toList ≠ .ok q
  read : tenths t.quantile ≠ 0 → readQuantile label.toList = .ok (ofTenths (tenths t.quantile))
  read_iff : readQuantile label.toList = .ok t.quantile ↔
    ∃ n, 0 < n ∧ n ≤ 1000 ∧ t.quantile = ofTenths n

/-- The line of an outcome shows the label behind the name. -/
theorem exists_line_eq (o : Outcome) : ∃ before after,
    o.line = before ++ o.endpoint ++ " " ++ percentileLabel o.quantile ++ after := by
  unfold Outcome.line
  split
  · rename_i x _ _
    exact ⟨"SUCCESS: ", " " ++ Decimal.fixed 1 x ++ "ms <= " ++ (Decimal.text o.maxMillis ++ "ms"),
      by simp only [String.append_assoc]⟩
  · rename_i x _ _
    exact ⟨"WARNING: ", " " ++ Decimal.fixed 1 x ++ "ms exceeds the " ++
      (Decimal.text o.maxMillis ++ "ms") ++ " target", by simp only [String.append_assoc]⟩
  · exact ⟨"WARNING: ", " has no samples (" ++ (Decimal.text o.maxMillis ++ "ms") ++
      " target not evaluated)", by simp only [String.append_assoc]⟩

private theorem labelled_percentileLabel {t : Threshold} (hq : isQuantile t.quantile = true) :
    t.Labelled (percentileLabel t.quantile) where
  eq := (tenths_spec hq).2
  inText := ⟨" <= " ++ Decimal.text t.maxMillis ++ "ms", by
    simp only [Threshold.text, String.append_assoc]⟩
  inLine o hendpoint hquantile := by
    rw [← hendpoint, ← hquantile]
    exact exists_line_eq o
  refused hzero q h := by
    rw [readQuantile_label hq, if_pos hzero] at h
    cases h
  read hsome := by
    rw [readQuantile_label hq, if_neg hsome]
  read_iff := readQuantile_label_eq_iff hq

/-- The label of a target that is read from a text tells its quantile to tenths of a per cent. So
two targets have the same label exactly if their quantiles have the same tenths, and of quantiles
that are read back from their labels no two have the same one. -/
theorem labels_tell_tenths {value value' : String} {t t' : Threshold}
    (h : Threshold.parse value = .ok t) (h' : Threshold.parse value' = .ok t') :
    t.Labelled (percentileLabel t.quantile) ∧
      (percentileLabel t.quantile = percentileLabel t'.quantile ↔
        tenths t.quantile = tenths t'.quantile) ∧
      (readQuantile (percentileLabel t.quantile).toList = .ok t.quantile →
        readQuantile (percentileLabel t'.quantile).toList = .ok t'.quantile →
        t.quantile ≠ t'.quantile → percentileLabel t.quantile ≠ percentileLabel t'.quantile) := by
  have hq := (ensures_parse value t h).quantile
  have hq' := (ensures_parse value' t' h').quantile
  refine ⟨labelled_percentileLabel hq, percentileLabel_eq_iff hq hq', ?_⟩
  intro hread hread' hne heq
  rw [heq, hread'] at hread
  exact hne (Except.ok.inj hread).symm

/-- Three nines and the standard quantile are read back from their labels, which differ. -/
theorem labels_tell_tenths_nines : ∃ t t' : Threshold, Threshold.parse "a:p99.9:1" = .ok t ∧
    Threshold.parse "b:0.95:2" = .ok t' ∧ t.Labelled "p99.9" ∧
    percentileLabel t.quantile ≠ percentileLabel t'.quantile := by
  have h : Threshold.parse "a:p99.9:1" = .ok ⟨"a", 99.9 / 100.0, 1.0⟩ := rfl
  have h' : Threshold.parse "b:0.95:2" = .ok ⟨"b", 0.95, 2.0⟩ := rfl
  obtain ⟨hlabelled, -, hne⟩ := labels_tell_tenths h h'
  have hlabel : percentileLabel (99.9 / 100.0) = "p99.9" := by decide +kernel
  have hread : readQuantile (percentileLabel (99.9 / 100.0)).toList = .ok (99.9 / 100.0) :=
    hlabelled.read_iff.mpr ⟨999, by decide, by decide, rfl⟩
  have hread' : readQuantile (percentileLabel 0.95).toList = .ok 0.95 := rfl
  exact ⟨_, _, h, h', hlabel ▸ hlabelled, hne hread hread' (by decide +kernel)⟩

/-- Four nines are not read back from their label, which is that of the whole. -/
theorem label_not_read_back : ¬ ∀ value t, Threshold.parse value = .ok t →
    readQuantile (percentileLabel t.quantile).toList = .ok t.quantile := by
  intro hall
  have hread := hall "a:p99.99:1" ⟨"a", 99.99 / 100.0, 1.0⟩ rfl
  have hwhole : readQuantile (percentileLabel (99.99 / 100.0)).toList = .ok 1.0 := rfl
  have hne : (1.0 : Float) ≠ 99.99 / 100.0 := by decide +kernel
  exact hne (Except.ok.inj (hwhole.symm.trans hread))

end GatewayProbe.Slo
