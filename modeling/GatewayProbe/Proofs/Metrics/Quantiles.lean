import Mathlib.Data.List.Sort
import GatewayProbe.Proofs.Decimal.Arithmetic
import GatewayProbe.Proofs.Metrics.Cells

/-!
# The value of a rank and its cell

A histogram counts values if the counts of every set of cells add up to the number of values
in these cells. The counts reach a rank in the cell of the value of that rank, since the
cells are in the order of their values. So a quantile is the upper end of the cell of the
value of its rank, or the largest value if that is smaller.
-/

namespace GatewayProbe.Metrics

open Decimal (Denotes rounded rounded_mono rounded_eq_self rounded_pos)

/-! ## Values of a rank -/

/-- The value of a rank among some values, in ascending order and counted from one. -/
def ranked (vs : List Nat) (r : Nat) : Option Nat := (vs.insertionSort (· ≤ ·))[r - 1]?

/-- Among values in ascending order, those in a set closed downwards come first. -/
private theorem getElem?_iff_lt_countP {p : Nat → Bool} {vs : List Nat}
    (hp : ∀ u ∈ vs, ∀ v ∈ vs, u ≤ v → p v → p u) (hsorted : vs.Pairwise (· ≤ ·)) {i s : Nat}
    (h : vs[i]? = some s) : p s ↔ i < vs.countP p := by
  induction vs generalizing i with
  | nil => exact absurd h (by simp)
  | cons v vs ih =>
    obtain ⟨hle, hrest⟩ := List.pairwise_cons.mp hsorted
    have ih := fun i => ih (i := i)
      (fun u hu w hw => hp u (List.mem_cons_of_mem _ hu) w (List.mem_cons_of_mem _ hw)) hrest
    by_cases hv : p v
    · rw [List.countP_cons_of_pos hv]
      cases i with
      | zero =>
        obtain rfl := Option.some.inj h
        simp [hv]
      | succ i =>
        rw [ih i h]
        omega
    · have hnone : ∀ u ∈ vs, ¬p u := by
        intro u hu hpu
        exact hv (hp v List.mem_cons_self u (List.mem_cons_of_mem _ hu) (hle u hu) hpu)
      rw [List.countP_cons_of_neg hv, List.countP_eq_zero.mpr hnone]
      cases i with
      | zero =>
        obtain rfl := Option.some.inj h
        simp [hv]
      | succ i =>
        have hs := hnone s (List.mem_of_getElem? h)
        simp [hs]

/-- Every rank up to the number of values has a value. -/
theorem exists_ranked {vs : List Nat} {r : Nat} (hr : 1 ≤ r) (hn : r ≤ vs.length) :
    ∃ s ∈ vs, ranked vs r = some s := by
  have hlt : r - 1 < (vs.insertionSort (· ≤ ·)).length := by
    rw [List.length_insertionSort]
    omega
  refine ⟨(vs.insertionSort (· ≤ ·))[r - 1], ?_, List.getElem?_eq_getElem hlt⟩
  exact (List.mem_insertionSort _).mp (List.getElem_mem hlt)

/-- The value of a rank is in a set closed downwards if the set holds that many values. -/
theorem ranked_iff {p : Nat → Bool} {vs : List Nat} (hp : ∀ u ∈ vs, ∀ v ∈ vs, u ≤ v → p v → p u)
    {r s : Nat} (hr : 1 ≤ r) (h : ranked vs r = some s) : p s ↔ r ≤ vs.countP p := by
  have hp' : ∀ u ∈ vs.insertionSort (· ≤ ·), ∀ v ∈ vs.insertionSort (· ≤ ·),
      u ≤ v → p v → p u := by
    simp only [List.mem_insertionSort]
    exact hp
  rw [getElem?_iff_lt_countP hp' (List.pairwise_insertionSort (· ≤ ·) vs) h,
    (List.perm_insertionSort (· ≤ ·) vs).countP_eq]
  omega

/-- The value of the highest rank is the largest one. -/
theorem le_of_ranked_length {vs : List Nat} {s v : Nat} (hs : ranked vs vs.length = some s)
    (hv : v ∈ vs) : v ≤ s := by
  have hself := (ranked_iff (p := (· ≤ s)) (fun u _ w _ huw hw => ?_)
    (List.length_pos_of_mem hv) hs).mp (decide_eq_true le_rfl)
  · exact of_decide_eq_true
      (List.countP_eq_length.mp (le_antisymm List.countP_le_length hself) v hv)
  · exact decide_eq_true (huw.trans (of_decide_eq_true hw))

/-- The value of a higher rank is not smaller. -/
theorem ranked_mono {vs : List Nat} {r r' s s' : Nat} (hle : r ≤ r') (h : ranked vs r = some s)
    (h' : ranked vs r' = some s') : s ≤ s' := by
  obtain ⟨hlt, rfl⟩ := List.getElem?_eq_some_iff.mp h
  obtain ⟨hlt', rfl⟩ := List.getElem?_eq_some_iff.mp h'
  rcases (Nat.sub_le_sub_right hle 1).lt_or_eq with hlow | heq
  · exact List.pairwise_iff_getElem.mp (List.pairwise_insertionSort (· ≤ ·) vs) _ _ hlt hlt' hlow
  · simp only [heq, le_refl]

namespace Histogram

/-! ## Counted values -/

/-- A histogram holds the counts and the largest of some values. -/
structure Counts (h : Histogram) (vs : List Nat) : Prop where
  ascending : Ascending h.cells
  sum_eq : ∀ p, sumWhere p h.cells = vs.countP fun v => p (cellLow v)
  largest_le : ∀ x, h.largest ≤ x ↔ ∀ v ∈ vs, v ≤ x

/-- The value that is counted for a number of microseconds. -/
def counted (micros : Nat) : Nat := min (max micros 1) greatestValue

namespace Counts

variable {h : Histogram} {vs : List Nat}

/-- An empty histogram has counted nothing. -/
theorem empty : Counts empty [] where
  ascending := List.Pairwise.nil
  sum_eq _ := rfl
  largest_le x := by simp [Histogram.empty]

/-- Recording a value counts it once more. -/
theorem record (hc : Counts h vs) (micros : Nat) :
    Counts (h.record micros 1) (vs ++ [counted micros]) where
  ascending := hc.ascending.addTo _ _
  sum_eq p := by
    rw [List.countP_append, List.countP_singleton, ← hc.sum_eq]
    exact sumWhere_addTo p _ _ _
  largest_le x := by
    have hlargest : (h.record micros 1).largest = max h.largest (counted micros) := rfl
    simp only [hlargest, max_le_iff, hc.largest_le, List.mem_append, List.mem_singleton]
    constructor
    · rintro ⟨hold, hnew⟩ v (hv | rfl)
      · exact hold v hv
      · exact hnew
    · intro hall
      exact ⟨fun v hv => hall v (Or.inl hv), hall _ (Or.inr rfl)⟩

/-- As many values are counted as there are. -/
theorem count_eq (hc : Counts h vs) : h.count = vs.length := by
  rw [Histogram.count_eq, hc.sum_eq, List.countP_true]

/-- No value lies above the largest one. -/
theorem le_largest (hc : Counts h vs) {v : Nat} (hv : v ∈ vs) : v ≤ h.largest :=
  (hc.largest_le h.largest).mp le_rfl v hv

/-- The largest value is one of the values. -/
theorem largest_mem (hc : Counts h vs) (hvs : vs ≠ []) : h.largest ∈ vs := by
  by_contra hnot
  have hlt : ∀ v ∈ vs, v < h.largest := by
    intro v hv
    exact lt_of_le_of_ne (hc.le_largest hv) fun heq => hnot (heq ▸ hv)
  obtain ⟨v, hv⟩ := List.exists_mem_of_ne_nil vs hvs
  have hpos := hlt v hv
  have hle := (hc.largest_le (h.largest - 1)).mpr fun u hu => by
    have hu := hlt u hu
    omega
  omega

end Counts

/-- The counts reach a rank at the first cell up to which they are large enough. -/
private theorem cellAt_spec {cells : List (Nat × Nat)} (h : Ascending cells) {r seen : Nat}
    (hseen : seen < r) (hr : r ≤ seen + sumWhere (fun _ => true) cells) :
    ∃ low, cellAt r seen cells = some low ∧ (∃ cell ∈ cells, cell.1 = low) ∧
      seen + sumWhere (fun l => l < low) cells < r ∧
      r ≤ seen + sumWhere (fun l => l ≤ low) cells := by
  induction cells generalizing seen with
  | nil =>
    rw [sumWhere_nil] at hr
    omega
  | cons head rest ih =>
    obtain ⟨l, n⟩ := head
    obtain ⟨hl, hrest⟩ := ascending_cons.mp h
    by_cases hreached : r ≤ seen + n
    · have hnone : sumWhere (fun k => k < l) rest = 0 := by
        refine sumWhere_eq_zero fun cell hcell => ?_
        have hlt := hl cell hcell
        simp only [decide_eq_true_eq]
        omega
      refine ⟨l, by simp [cellAt, hreached], ⟨_, List.mem_cons_self, rfl⟩, ?_, ?_⟩
      · simpa [hnone] using hseen
      · simp
        omega
    · rw [sumWhere_cons, if_pos rfl] at hr
      obtain ⟨low, hat, ⟨cell, hcell, rfl⟩, hbelow, habove⟩ :=
        ih hrest (Nat.lt_of_not_le hreached) (by omega)
      have hlt := hl cell hcell
      refine ⟨cell.1, by simp [cellAt, hreached, hat],
        ⟨cell, List.mem_cons_of_mem _ hcell, rfl⟩, ?_, ?_⟩
      · simp [hlt]
        omega
      · simp [hlt.le]
        omega

/-- Counts that reach a rank are counts of some cells. -/
theorem isEmpty_of_cellAt {r seen low : Nat} {cells : List (Nat × Nat)}
    (h : cellAt r seen cells = some low) : cells.isEmpty = false := by
  cases cells with
  | nil => cases h
  | cons cell rest => rfl

/-- The counts reach a rank in the cell of the value of that rank. -/
theorem Counts.cellAt_eq {h : Histogram} {vs : List Nat} (hc : Counts h vs) {r s : Nat} (hr : 1 ≤ r)
    (hs : ranked vs r = some s) : cellAt r 0 h.cells = some (cellLow s) := by
  have hrank : r ≤ vs.countP fun _ => true :=
    (ranked_iff (fun _ _ _ _ _ _ => rfl) hr hs).mp rfl
  obtain ⟨low, hat, -, hbelow, habove⟩ :=
    cellAt_spec hc.ascending (Nat.lt_of_succ_le hr) (by rwa [hc.sum_eq, zero_add])
  rw [zero_add, hc.sum_eq] at hbelow habove
  have hle : cellLow s ≤ low := by
    refine of_decide_eq_true ((ranked_iff (fun u _ v _ huv hv => ?_) hr hs).mpr habove)
    exact decide_eq_true ((cellLow_mono huv).trans (of_decide_eq_true hv))
  have hge : ¬cellLow s < low := by
    intro hlt
    refine hbelow.not_ge ((ranked_iff (fun u _ v _ huv hv => ?_) hr hs).mp (decide_eq_true hlt))
    exact decide_eq_true ((cellLow_mono huv).trans_lt (of_decide_eq_true hv))
  rw [hat, le_antisymm hle (not_lt.mp hge)]

/-! ## Quantiles -/

variable {q : Float} {a : ℚ}

/-- A quantile between zero and one is taken as it is. -/
theorem clampUnit_eq (hq : Denotes q a) (h0 : 0 ≤ a) (h1 : a ≤ 1) : clampUnit q = q := by
  have hlow : ¬q < 0.0 := by
    rw [hq.lt_iff Denotes.zero]
    exact h0.not_gt
  have hhigh : ¬1.0 < q := by
    rw [Denotes.one.lt_iff hq]
    exact h1.not_gt
  rw [clampUnit, if_neg hlow, if_neg hhigh]

/-- The rank of a quantile is the rounded product with the number of values, rounded up. -/
private theorem rank_eq (hq : Denotes q a) (h0 : 0 < a) (h1 : a ≤ 1) {n : Nat} (hn : 1 ≤ n)
    (hmax : n < 2 ^ 53) :
    rank q n = max (min ⌈rounded (a * n)⌉₊ Decimal.greatestWord) 1 ∧ rounded (n : ℚ) = n := by
  have hself : rounded n = n := by
    have h := rounded_eq_self (e := 0) hn hmax (by norm_num)
    rwa [zpow_zero, mul_one] at h
  have hn' : (0 : ℚ) < n := by exact_mod_cast hn
  have hbound : (n : ℚ) < 2 ^ (1023 : ℤ) := by
    have hlt : (n : ℚ) < 2 ^ (53 : ℤ) := by exact_mod_cast hmax
    exact hlt.trans (zpow_lt_zpow_right₀ (by norm_num) (by norm_num))
  have hcount := Denotes.ofNat_of_lt hn hmax
  have hle : a * n ≤ n := mul_le_of_le_one_left hn'.le h1
  have hproduct := hq.mul hcount h0 hn' (hle.trans_lt hbound)
  have hpos : 0 < rounded (a * n) := by
    refine rounded_pos ((hq.least_le h0).trans ?_)
    exact le_mul_of_one_le_right h0.le (by exact_mod_cast hn)
  exact ⟨by rw [rank, hproduct.ceiling_eq hpos], hself⟩

/-- The rank of a quantile is at most the number of values. -/
theorem rank_le (hq : Denotes q a) (h0 : 0 < a) (h1 : a ≤ 1) {n : Nat} (hn : 1 ≤ n)
    (hmax : n < 2 ^ 53) : rank q n ≤ n := by
  obtain ⟨hrank, hself⟩ := rank_eq hq h0 h1 hn hmax
  have hn' : (0 : ℚ) < n := by exact_mod_cast hn
  have hround : rounded (a * n) ≤ n :=
    (rounded_mono (mul_pos h0 hn') (mul_le_of_le_one_left hn'.le h1)).trans hself.le
  rw [hrank]
  exact max_le ((min_le_left _ _).trans (Nat.ceil_le.mpr hround)) hn

/-- A higher quantile has no lower rank. -/
theorem rank_mono {q' : Float} {a' : ℚ} (hq : Denotes q a) (hq' : Denotes q' a') (h0 : 0 < a)
    (hle : a ≤ a') (h1 : a' ≤ 1) {n : Nat} (hn : 1 ≤ n) (hmax : n < 2 ^ 53) :
    rank q n ≤ rank q' n := by
  have hn' : (0 : ℚ) < n := by exact_mod_cast hn
  rw [(rank_eq hq h0 (hle.trans h1) hn hmax).1, (rank_eq hq' (h0.trans_le hle) h1 hn hmax).1]
  have hround : rounded (a * n) ≤ rounded (a' * n) :=
    rounded_mono (mul_pos h0 hn') (mul_le_mul_of_nonneg_right hle hn'.le)
  exact max_le_max (min_le_min (Nat.ceil_mono hround) le_rfl) le_rfl

/-- At one the rank is the highest. -/
theorem rank_one {n : Nat} (hn : 1 ≤ n) (hmax : n < 2 ^ 53) : rank 1.0 n = n := by
  obtain ⟨hrank, hself⟩ := rank_eq Denotes.one zero_lt_one le_rfl hn hmax
  have hword : n ≤ Decimal.greatestWord := by
    rw [Decimal.greatestWord]
    omega
  rw [hrank, one_mul, hself, Nat.ceil_natCast, min_eq_left hword, max_eq_left hn]

/-- A quantile above zero is the upper end of the cell of the value of its rank, or the
largest value if that is smaller. -/
theorem Counts.quantileMicros_eq {h : Histogram} {vs : List Nat} (hc : Counts h vs)
    (hq : Denotes q a) (h0 : 0 < a) (h1 : a ≤ 1) {s : Nat}
    (hs : ranked vs (rank q vs.length) = some s) :
    h.quantileMicros q = some (min (cellHigh s) h.largest) := by
  have hzero : ¬(q == 0.0) = true := by
    rw [hq.beq_iff Denotes.zero]
    exact h0.ne'
  have hrank : 1 ≤ rank q vs.length := le_max_right _ _
  have hat := hc.cellAt_eq hrank hs
  simp only [quantileMicros, isEmpty_of_cellAt hat, clampUnit_eq hq h0.le h1, hc.count_eq, hat,
    hzero, Bool.false_eq_true, if_false, cellHigh_cellLow]

end Histogram

/-! ## Milliseconds -/

/-- A number of microseconds in milliseconds. -/
def millis (v : Nat) : Float := Decimal.ofNat v / 1000.0

/-- A positive number of microseconds is rounded and divided by a thousand. -/
private theorem denotes_millis {v : Nat} (h0 : 1 ≤ v) (hmax : v ≤ greatestValue) :
    Denotes (millis v) (rounded (rounded v / 1000)) ∧
      1 ≤ rounded v ∧ rounded v ≤ 2 ^ (64 : ℤ) := by
  have hone := rounded_eq_self (m := 1) (e := 0) (by norm_num) (by norm_num) (by norm_num)
  have hword := rounded_eq_self (m := 1) (e := 64) (by norm_num) (by norm_num) (by norm_num)
  rw [Nat.cast_one, one_mul] at hone hword
  have hlow : (2 : ℚ) ^ (0 : ℤ) ≤ v := by exact_mod_cast h0
  have hhigh : (v : ℚ) ≤ 2 ^ (64 : ℤ) := by
    have hle : v ≤ 2 ^ 64 := hmax.trans (Nat.sub_le _ _)
    exact_mod_cast hle
  have hlow' := rounded_mono (by positivity) hlow
  have hhigh' := rounded_mono (by exact_mod_cast h0) hhigh
  rw [hone, zpow_zero] at hlow'
  rw [hword] at hhigh'
  refine ⟨?_, hlow', hhigh'⟩
  have hlarge : (2 : ℚ) ^ (64 : ℤ) < 2 ^ (1023 : ℤ) :=
    zpow_lt_zpow_right₀ (by norm_num) (by norm_num)
  have hcount := Denotes.ofNat h0 (hhigh.trans_lt hlarge)
  refine hcount.div Denotes.thousand (by linarith) (by norm_num) ?_ ?_
  · calc (2 : ℚ) ^ (-1074 : ℤ) ≤ 2 ^ (-10 : ℤ) := zpow_le_zpow_right₀ (by norm_num) (by norm_num)
      _ ≤ 1 / 1000 := by norm_num
      _ ≤ rounded v / 1000 := div_le_div_of_nonneg_right hlow' (by norm_num)
  · refine lt_of_le_of_lt (div_le_self (by linarith) (by norm_num)) (hhigh'.trans_lt hlarge)

/-- Milliseconds denote a number. -/
theorem exists_denotes_millis {v : Nat} (hmax : v ≤ greatestValue) :
    ∃ a, Denotes (millis v) a := by
  rcases Nat.eq_zero_or_pos v with rfl | hpos
  · have hread : Decimal.read (millis 0) = .finite false ⟨0, -1074, false⟩ := by decide +kernel
    exact ⟨0, Denotes.of_read hread (Decimal.Binary.value_eq_zero rfl)⟩
  · exact ⟨_, (denotes_millis hpos hmax).1⟩

/-- Milliseconds are in the order of the microseconds. -/
theorem millis_mono {u v : Nat} (h0 : 1 ≤ u) (huv : u ≤ v) (hmax : v ≤ greatestValue) :
    millis u ≤ millis v := by
  obtain ⟨hu, hulow, huhigh⟩ := denotes_millis h0 (huv.trans hmax)
  obtain ⟨hv, -, -⟩ := denotes_millis (h0.trans huv) hmax
  refine (hu.le_iff hv).mpr (rounded_mono (by positivity) ?_)
  have hround : rounded u ≤ rounded v :=
    rounded_mono (by exact_mod_cast h0) (by exact_mod_cast huv)
  exact div_le_div_of_nonneg_right hround (by norm_num)

end GatewayProbe.Metrics
