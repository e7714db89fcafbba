import GatewayProbe.Proofs.Metrics.Quantiles

/-!
# How close quantiles come to the values they stand for

A quantile is one end of the cell of the value of its rank: the lower end at zero, the upper end
everywhere else, and never more than the largest value. A cell is as wide as its values divided
by a thousand at most, so a quantile exceeds the value of its rank by no more than that. Only at
zero can it fall below, and it does so exactly if the value is not the least one of its cell.
-/

namespace GatewayProbe.Metrics

open Decimal (Denotes)

/-! ## Ends of cells -/

/-- The end of the cell of a value that is given for a quantile. -/
def cellEnd (q : Float) (v : Nat) : Nat := if q == 0.0 then cellLow v else cellHigh v

/-- The end of a cell lies in the cell. -/
theorem cellLow_le_cellEnd (q : Float) (v : Nat) : cellLow v ≤ cellEnd q v := by
  unfold cellEnd
  split_ifs
  · exact le_rfl
  · exact (cellLow_le v).trans (le_cellHigh v)

private theorem cellEnd_le_cellHigh (q : Float) (v : Nat) : cellEnd q v ≤ cellHigh v := by
  unfold cellEnd
  split_ifs
  · exact (cellLow_le v).trans (le_cellHigh v)
  · exact le_rfl

/-- The values of a cell are close to each other. -/
theorem cellHigh_sub_le (v : Nat) : 1024 * (cellHigh v - v) ≤ v := by
  have hwidth := cellWidth_sub_one_le v
  have hlow := cellLow_le v
  rw [cellHigh]
  omega

private theorem sub_cellLow_le (v : Nat) : 1024 * (v - cellLow v) ≤ v := by
  have hwidth := cellWidth_sub_one_le v
  have hhigh := le_cellHigh v
  rw [cellHigh] at hhigh
  omega

/-- A value of at most eleven binary digits is alone in its cell. -/
theorem cellLow_eq_of_lt {v : Nat} (hv : v < 2048) : cellLow v = v := by
  rw [cellLow, cellWidth_eq_one hv, Nat.mod_one, Nat.sub_zero]

private theorem cellHigh_eq_of_lt {v : Nat} (hv : v < 2048) : cellHigh v = v := by
  rw [cellHigh, cellLow_eq_of_lt hv, cellWidth_eq_one hv]
  rfl

private theorem cellEnd_eq_of_lt (q : Float) {v : Nat} (hv : v < 2048) : cellEnd q v = v := by
  rw [cellEnd, cellLow_eq_of_lt hv, cellHigh_eq_of_lt hv, ite_self]

/-- A value is above the least one of its cell if the width does not divide it. -/
theorem cellLow_lt_iff (v : Nat) : cellLow v < v ↔ ¬cellWidth v ∣ v := by
  have hle := Nat.mod_le v (cellWidth v)
  rw [Nat.dvd_iff_mod_eq_zero, cellLow]
  omega

namespace Histogram

/-! ## Quantiles from zero on -/

variable {h : Histogram} {vs : List Nat} {q q' : Float}

/-- At zero the rank is the least one. -/
theorem rank_zero (hq : Denotes q 0) {n : Nat} (hn : 1 ≤ n) (hmax : n < 2 ^ 53) :
    rank q n = 1 := by
  have hn' : (0 : ℚ) < n := by exact_mod_cast hn
  have hproduct := hq.zero_mul (Denotes.ofNat_of_lt hn hmax) hn'
  rw [rank, hproduct.ceiling_zero]
  rfl

/-- A quantile at zero is the lower end of the cell of the value of its rank. -/
theorem Counts.quantileMicros_zero (hc : Counts h vs) (hq : Denotes q 0) {s : Nat}
    (hs : ranked vs (rank q vs.length) = some s) :
    h.quantileMicros q = some (min (cellLow s) h.largest) := by
  have hrank : 1 ≤ rank q vs.length := le_max_right _ _
  have hat := hc.cellAt_eq hrank hs
  have hzero : (q == 0.0) = true := (hq.beq_iff Denotes.zero).mpr rfl
  simp only [quantileMicros, isEmpty_of_cellAt hat, clampUnit_eq hq le_rfl zero_le_one,
    hc.count_eq, hat, hzero, Bool.false_eq_true, if_false, if_true]

/-- A quantile is an end of the cell of the value of its rank, or the largest value if that is
smaller. -/
theorem Counts.exists_quantileMicros (hc : Counts h vs) (hvs : vs ≠ []) (hmax : vs.length < 2 ^ 53)
    (h0 : 0.0 ≤ q) (h1 : q ≤ 1.0) :
    ∃ s ∈ vs, ranked vs (rank q vs.length) = some s ∧
      h.quantileMicros q = some (min (cellEnd q s) h.largest) := by
  have hn : 1 ≤ vs.length := List.length_pos_of_ne_nil hvs
  obtain ⟨a, hq, ha0, ha1⟩ := Denotes.of_le_of_le Denotes.zero Denotes.one h0 h1
  rcases ha0.eq_or_lt with rfl | hpos
  · obtain ⟨s, hs, hranked⟩ := exists_ranked le_rfl hn
    rw [← rank_zero hq hn hmax] at hranked
    have hzero : (q == 0.0) = true := (hq.beq_iff Denotes.zero).mpr rfl
    refine ⟨s, hs, hranked, ?_⟩
    rw [hc.quantileMicros_zero hq hranked, cellEnd, if_pos hzero]
  · obtain ⟨s, hs, hranked⟩ := exists_ranked (le_max_right _ _) (rank_le hq hpos ha1 hn hmax)
    have hzero : ¬(q == 0.0) = true := by
      rw [hq.beq_iff Denotes.zero]
      exact hpos.ne'
    refine ⟨s, hs, hranked, ?_⟩
    rw [hc.quantileMicros_eq hq hpos ha1 hranked, cellEnd, if_neg hzero]

/-- A value that stands for the value of a rank among values up to a largest one: it is at most
the largest, exceeds the other by at most its 1024th part, and is no other if that is small. -/
structure IsClose (v s largest : Nat) : Prop where
  le_largest : v ≤ largest
  excess_le : 1024 * (v - s) ≤ s
  eq_of_lt : s < 2048 → v = s

/-- The end of the cell of a value, cut off at the largest value, is close to that value. -/
theorem isClose_min_cellEnd (q : Float) {s largest : Nat} (hs : s ≤ largest) :
    IsClose (min (cellEnd q s) largest) s largest where
  le_largest := min_le_right _ _
  excess_le := by
    have hle : min (cellEnd q s) largest ≤ cellHigh s :=
      (min_le_left _ _).trans (cellEnd_le_cellHigh q s)
    have hclose := cellHigh_sub_le s
    omega
  eq_of_lt hsmall := by rw [cellEnd_eq_of_lt q hsmall, min_eq_left hs]

/-- A higher quantile has no lower rank, from zero on. -/
theorem rank_le_rank (h0 : 0.0 ≤ q) (hle : q ≤ q') (h1 : q' ≤ 1.0) {n : Nat} (hn : 1 ≤ n)
    (hmax : n < 2 ^ 53) : rank q n ≤ rank q' n := by
  obtain ⟨a', hq', h0', h1'⟩ :=
    Denotes.of_le_of_le Denotes.zero Denotes.one (Decimal.le_trans h0 hle) h1
  obtain ⟨a, hq, ha0, haa'⟩ := Denotes.of_le_of_le Denotes.zero hq' h0 hle
  rcases ha0.eq_or_lt with rfl | hpos
  · rw [rank_zero hq hn hmax]
    exact le_max_right _ _
  · exact rank_mono hq hq' hpos haa' h1' hn hmax

/-- The ends of cells ascend with the quantile and the value. -/
theorem cellEnd_mono (h0 : 0.0 ≤ q) (hle : q ≤ q') {s s' : Nat} (hss : s ≤ s') :
    cellEnd q s ≤ cellEnd q' s' := by
  by_cases hzero' : q' == 0.0
  · -- between zero and zero there is no other quantile
    have hle' : q' ≤ 0.0 := by
      obtain ⟨a, b, ha, hb, rfl⟩ := Decimal.beq_iff.mp hzero'
      exact Decimal.le_iff.mpr ⟨a, a, ha, hb, le_rfl⟩
    obtain ⟨a, hq, ha0, ha1⟩ :=
      Denotes.of_le_of_le Denotes.zero Denotes.zero h0 (Decimal.le_trans hle hle')
    have hzero : (q == 0.0) = true := (hq.beq_iff Denotes.zero).mpr (le_antisymm ha1 ha0)
    rw [cellEnd, cellEnd, if_pos hzero, if_pos hzero']
    exact cellLow_mono hss
  · rw [cellEnd.eq_1 q', if_neg hzero']
    exact (cellEnd_le_cellHigh q s).trans (cellHigh_mono hss)

/-- Quantiles ascend up to the largest value, from zero on. -/
theorem Counts.quantileMicros_mono (hc : Counts h vs) (hvs : vs ≠ []) (hmax : vs.length < 2 ^ 53)
    (h0 : 0.0 ≤ q) (hle : q ≤ q') (h1 : q' ≤ 1.0) :
    ∃ v v', h.quantileMicros q = some v ∧ h.quantileMicros q' = some v' ∧ v ≤ v' ∧
      v' ≤ h.largest := by
  have hn : 1 ≤ vs.length := List.length_pos_of_ne_nil hvs
  obtain ⟨s, -, hranked, hv⟩ := hc.exists_quantileMicros hvs hmax h0 (Decimal.le_trans hle h1)
  obtain ⟨s', -, hranked', hv'⟩ := hc.exists_quantileMicros hvs hmax (Decimal.le_trans h0 hle) h1
  have hss : s ≤ s' := ranked_mono (rank_le_rank h0 hle h1 hn hmax) hranked hranked'
  exact ⟨_, _, hv, hv', min_le_min (cellEnd_mono h0 hle hss) le_rfl, min_le_right _ _⟩

/-- A quantile of positive values is positive. -/
theorem Counts.one_le_quantileMicros (hc : Counts h vs) (hvs : vs ≠ []) (hmax : vs.length < 2 ^ 53)
    (hpos : ∀ u ∈ vs, 1 ≤ u) (h0 : 0.0 ≤ q) (h1 : q ≤ 1.0) {v : Nat}
    (hv : h.quantileMicros q = some v) : 1 ≤ v := by
  obtain ⟨s, hs, -, hs'⟩ := hc.exists_quantileMicros hvs hmax h0 h1
  obtain rfl := Option.some.inj (hs'.symm.trans hv)
  have hlow : 1 ≤ cellLow s := Nat.one_le_two_pow.trans (pow_log2_le_cellLow (hpos s hs))
  exact le_min (hlow.trans (cellLow_le_cellEnd q s)) ((hpos s hs).trans (hc.le_largest hs))

/-- A quantile in milliseconds is that in microseconds. -/
theorem quantileMillis_of_micros {v : Nat} (hv : h.quantileMicros q = some v) :
    h.quantileMillis q = some (millis v) := by
  rw [quantileMillis, hv]
  rfl

/-- A quantile above zero does not fall below the value of its rank. -/
theorem le_min_cellEnd (hq : ¬(q == 0.0) = true) {s largest : Nat} (hs : s ≤ largest) :
    s ≤ min (cellEnd q s) largest := by
  rw [cellEnd, if_neg hq]
  exact le_min (le_cellHigh s) hs

/-- The quantile at one is the largest value. -/
theorem Counts.quantileMicros_one (hc : Counts h vs) (hvs : vs ≠ []) (hmax : vs.length < 2 ^ 53) :
    h.quantileMicros 1.0 = some h.largest := by
  have hn : 1 ≤ vs.length := List.length_pos_of_ne_nil hvs
  have hone : (1.0 : Float) ≤ 1.0 := by decide +kernel
  obtain ⟨s, hs, hranked, hv⟩ := hc.exists_quantileMicros hvs hmax (by decide +kernel) hone
  rw [rank_one hn hmax] at hranked
  have hlargest : h.largest ≤ s := le_of_ranked_length hranked (hc.largest_mem hvs)
  have hle := le_min_cellEnd (q := 1.0) (by decide +kernel) (hc.le_largest hs)
  rw [hv, le_antisymm (min_le_right _ _) (hlargest.trans hle)]

/-! ## Recorded microseconds -/

/-- The histogram of some numbers of microseconds. -/
def ofMicros (micros : List Nat) : Histogram := micros.foldl (fun h v => h.record v 1) .empty

private theorem counts_foldl_record (hc : Counts h vs) (micros : List Nat) :
    Counts (micros.foldl (fun h v => h.record v 1) h) (vs ++ micros.map counted) := by
  induction micros generalizing h vs with
  | nil => simpa using hc
  | cons v micros ih =>
    have hrest := ih (hc.record v)
    rwa [List.append_assoc] at hrest

/-- Numbers of microseconds that fit are counted as they are, apart from zero. -/
theorem counts_ofMicros {micros : List Nat} (hfit : ∀ v ∈ micros, v < 2 ^ 63) :
    Counts (ofMicros micros) (micros.map (max · 1)) := by
  have hcounted : micros.map counted = micros.map (max · 1) := by
    apply List.map_congr_left
    intro v hv
    have hlt := hfit v hv
    rw [counted, greatestValue]
    omega
  rw [← hcounted]
  exact counts_foldl_record Counts.empty micros

/-- Every quantile is close to the value of its rank, the one at one is the largest value, and
quantiles ascend. -/
theorem quantiles_close {micros : List Nat} (hsome : micros ≠ []) (hmax : micros.length < 2 ^ 53)
    (hfit : ∀ v ∈ micros, v < 2 ^ 63) :
    let h := ofMicros micros
    let vs := micros.map (max · 1)
    ∃ largest ∈ vs, (∀ v ∈ vs, v ≤ largest) ∧
      (∀ q, 0.0 ≤ q → q ≤ 1.0 → ∃ s v, ranked vs (rank q vs.length) = some s ∧
        h.quantileMicros q = some v ∧ h.quantileMillis q = some (millis v) ∧
        IsClose v s largest) ∧
      h.quantileMicros 1.0 = some largest ∧
      ∀ q q', 0.0 ≤ q → q ≤ q' → q' ≤ 1.0 → ∃ v v', h.quantileMicros q = some v ∧
        h.quantileMicros q' = some v' ∧ v ≤ v' := by
  intro h vs
  have hc : Counts h vs := counts_ofMicros hfit
  have hvs : vs ≠ [] := by simpa [vs] using hsome
  have hlength : vs.length < 2 ^ 53 := by simpa [vs] using hmax
  refine ⟨h.largest, hc.largest_mem hvs, fun v hv => hc.le_largest hv, ?_, ?_, ?_⟩
  · intro q h0 h1
    obtain ⟨s, hs, hranked, hv⟩ := hc.exists_quantileMicros hvs hlength h0 h1
    exact ⟨s, _, hranked, hv, quantileMillis_of_micros hv,
      isClose_min_cellEnd q (hc.le_largest hs)⟩
  · exact hc.quantileMicros_one hvs hlength
  · intro q q' h0 hle h1
    obtain ⟨v, v', hv, hv', hvv, -⟩ := hc.quantileMicros_mono hvs hlength h0 hle h1
    exact ⟨v, v', hv, hv', hvv⟩

/-- Latencies in cells of one, two and four values. -/
def spread : List Nat := [2049, 0, 4103, 4097]

/-- The third of the four latencies stands at three quarters. -/
theorem quantiles_close_spread :
    spread ≠ [] ∧ spread.length < 2 ^ 53 ∧ (∀ v ∈ spread, v < 2 ^ 63) ∧
      ∃ largest v, (ofMicros spread).quantileMicros 1.0 = some largest ∧
        (ofMicros spread).quantileMicros 0.75 = some v ∧ IsClose v 4097 largest := by
  have hsome : spread ≠ [] := by decide
  have hmax : spread.length < 2 ^ 53 := by decide
  have hfit : ∀ v ∈ spread, v < 2 ^ 63 := by decide
  obtain ⟨largest, -, -, hclose, hone, -⟩ := quantiles_close hsome hmax hfit
  obtain ⟨s, v, hs, hv, -, hsv⟩ := hclose 0.75 (by decide +kernel) (by decide +kernel)
  have hthird : ranked (spread.map (max · 1)) (rank 0.75 (spread.map (max · 1)).length) =
      some 4097 := by
    decide +kernel
  obtain rfl := Option.some.inj (hs.symm.trans hthird)
  exact ⟨hsome, hmax, hfit, largest, v, hone, hv, hsv⟩

/-- A quantile falls below the value of its rank exactly at zero and if that value is not the
least of its cell, and then it is close to the value all the same. -/
theorem undershoots_iff {micros : List Nat} (hsome : micros ≠ []) (hmax : micros.length < 2 ^ 53)
    (hfit : ∀ v ∈ micros, v < 2 ^ 63) {q : Float} (h0 : 0.0 ≤ q) (h1 : q ≤ 1.0) :
    let vs := micros.map (max · 1)
    ∃ s v, ranked vs (rank q vs.length) = some s ∧ (ofMicros micros).quantileMicros q = some v ∧
      (v < s ↔ (q == 0.0) = true ∧ ¬cellWidth s ∣ s) ∧ 1024 * (s - v) ≤ s := by
  intro vs
  have hc : Counts (ofMicros micros) vs := counts_ofMicros hfit
  have hvs : vs ≠ [] := by simpa [vs] using hsome
  have hlength : vs.length < 2 ^ 53 := by simpa [vs] using hmax
  obtain ⟨s, hs, hranked, hv⟩ := hc.exists_quantileMicros hvs hlength h0 h1
  have hlargest := hc.le_largest hs
  refine ⟨s, _, hranked, hv, ?_, ?_⟩
  · by_cases hq : (q == 0.0) = true
    · have hle : cellLow s ≤ (ofMicros micros).largest := (cellLow_le s).trans hlargest
      rw [cellEnd, if_pos hq, min_eq_left hle, cellLow_lt_iff]
      exact (and_iff_right hq).symm
    · have hnot := (le_min_cellEnd hq hlargest).not_gt
      exact iff_of_false hnot fun h => hq h.1
  · have hlow : cellLow s ≤ min (cellEnd q s) (ofMicros micros).largest :=
      le_min (cellLow_le_cellEnd q s) ((cellLow_le s).trans hlargest)
    have hclose := sub_cellLow_le s
    omega

/-- The rank of the quantile at zero is that of the only latency there is. -/
private theorem ranked_lone :
    ranked ([4097].map (max · 1)) (rank 0.0 ([4097].map (max · 1)).length) = some 4097 := by
  decide +kernel

/-- A latency that is not the least of its cell is more than the quantile at zero. -/
theorem undershoots_iff_lone :
    [4097] ≠ [] ∧ [4097].length < 2 ^ 53 ∧ (∀ v ∈ [4097], v < 2 ^ 63) ∧
      (0.0 : Float) ≤ 0.0 ∧ (0.0 : Float) ≤ 1.0 ∧
      ∃ v, (ofMicros [4097]).quantileMicros 0.0 = some v ∧ v < 4097 := by
  have hsome : [4097] ≠ [] := by decide
  have hmax : [4097].length < 2 ^ 53 := by decide
  have hfit : ∀ v ∈ ([4097] : List Nat), v < 2 ^ 63 := by decide
  have hzero : (0.0 : Float) ≤ 0.0 := by decide +kernel
  have hone : (0.0 : Float) ≤ 1.0 := by decide +kernel
  obtain ⟨s, v, hs, hv, hiff, -⟩ := undershoots_iff hsome hmax hfit hzero hone
  obtain rfl := Option.some.inj (hs.symm.trans ranked_lone)
  refine ⟨hsome, hmax, by decide, hzero, hone, v, hv, ?_⟩
  exact hiff.mpr ⟨by decide +kernel, by decide +kernel⟩

/-- Not every quantile is at least the value of its rank: a single latency can be more than its
quantile at zero. -/
theorem undershoots_at_zero : ¬ ∀ micros : List Nat, micros ≠ [] → micros.length < 2 ^ 53 →
    (∀ v ∈ micros, v < 2 ^ 63) → ∀ q : Float, 0.0 ≤ q → q ≤ 1.0 →
      let vs := micros.map (max · 1)
      ∃ s v, ranked vs (rank q vs.length) = some s ∧ (ofMicros micros).quantileMicros q = some v ∧
        s ≤ v := by
  intro hall
  obtain ⟨s, v, hs, hv, hle⟩ := hall [4097] (by decide) (by decide) (by decide) 0.0
    (by decide +kernel) (by decide +kernel)
  have hquantile : (ofMicros [4097]).quantileMicros 0.0 = some 4096 := by decide +kernel
  obtain rfl := Option.some.inj (hs.symm.trans ranked_lone)
  obtain rfl := Option.some.inj (hv.symm.trans hquantile)
  exact absurd hle (by decide)

end Histogram

end GatewayProbe.Metrics
