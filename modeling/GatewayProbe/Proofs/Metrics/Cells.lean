import Mathlib.Tactic.NormNum
import GatewayProbe.Metrics.Histogram

/-!
# Cells of values

The cells are in the order of their values. All values of a cell have its lower and its
upper end in common, and the lower end is a value of the cell itself. Counting a value adds
to the count of its cell and to no other, and leaves the cells in order.
-/

namespace GatewayProbe.Metrics

private theorem cellWidth_pos (v : Nat) : 0 < cellWidth v := Nat.two_pow_pos _

/-- A cell begins at or below each of its values. -/
theorem cellLow_le (v : Nat) : cellLow v ≤ v := Nat.sub_le _ _

/-- The lower end of a cell is a multiple of its width. -/
theorem cellLow_eq (v : Nat) : cellLow v = cellWidth v * (v / cellWidth v) := by
  have hdivMod := Nat.div_add_mod v (cellWidth v)
  rw [cellLow]
  omega

/-- A value is not above the upper end of its cell. -/
theorem le_cellHigh (v : Nat) : v ≤ cellHigh v := by
  have hrest := Nat.mod_lt v (cellWidth_pos v)
  have hle := Nat.mod_le v (cellWidth v)
  rw [cellHigh, cellLow]
  omega

/-- Values of at most eleven binary digits have a cell each. -/
theorem cellWidth_eq_one {v : Nat} (hv : v < 2048) : cellWidth v = 1 := by
  have hlog : v.log2 < 11 := by
    rcases Nat.eq_zero_or_pos v with rfl | hpos
    · exact Nat.succ_pos 10
    · exact (Nat.log2_lt hpos.ne').mpr hv
  rw [cellWidth, Nat.sub_eq_zero_of_le hlog, pow_zero]

/-- A cell is narrow: what it adds to one of its values is below a thousandth of it. -/
theorem cellWidth_sub_one_le (v : Nat) : 1024 * (cellWidth v - 1) ≤ v := by
  rcases lt_or_ge v 2048 with hsmall | hlarge
  · rw [cellWidth_eq_one hsmall]
    exact Nat.zero_le _
  · have hpos : v ≠ 0 := by omega
    have hlog : 11 ≤ v.log2 := (Nat.le_log2 hpos).mpr hlarge
    calc 1024 * (cellWidth v - 1) ≤ 2 ^ 10 * cellWidth v := Nat.mul_le_mul_left _ (Nat.sub_le _ _)
      _ = 2 ^ v.log2 := by
        rw [cellWidth, ← pow_add]
        congr 1
        omega
      _ ≤ v := Nat.log2_self_le hpos

/-- A cell lies above the power of two of its values. -/
theorem pow_log2_le_cellLow {v : Nat} (hv : 0 < v) : 2 ^ v.log2 ≤ cellLow v := by
  -- the width divides the power of two, and the lower end is the largest such multiple below
  obtain ⟨c, hc⟩ : cellWidth v ∣ 2 ^ v.log2 := Nat.pow_dvd_pow 2 (by omega)
  have hle := Nat.log2_self_le hv.ne'
  rw [cellLow_eq, hc]
  refine Nat.mul_le_mul_left _ ((Nat.le_div_iff_mul_le (cellWidth_pos v)).mpr ?_)
  rwa [mul_comm, ← hc]

/-- The lower end of a cell has as many binary digits as the values of the cell. -/
theorem log2_cellLow (v : Nat) : (cellLow v).log2 = v.log2 := by
  rcases Nat.eq_zero_or_pos v with rfl | hv
  · rfl
  · have hlow := pow_log2_le_cellLow hv
    have hpos : cellLow v ≠ 0 := by
      have hpow := Nat.two_pow_pos v.log2
      omega
    refine le_antisymm ?_ ((Nat.le_log2 hpos).mpr hlow)
    have hlt := (cellLow_le v).trans_lt Nat.lt_log2_self
    exact Nat.le_of_lt_succ ((Nat.log2_lt hpos).mpr hlt)

/-- The lower end of a cell is the lower end of its own cell. -/
theorem cellLow_cellLow (v : Nat) : cellLow (cellLow v) = cellLow v := by
  have hwidth : cellWidth (cellLow v) = cellWidth v := by
    rw [cellWidth, cellWidth, log2_cellLow]
  have hmod : cellLow v % cellWidth v = 0 := by
    rw [cellLow_eq]
    exact Nat.mul_mod_right _ _
  rw [cellLow, hwidth, hmod, Nat.sub_zero]

/-- The upper end of a cell is found from its lower end. -/
theorem cellHigh_cellLow (v : Nat) : cellHigh (cellLow v) = cellHigh v := by
  rw [cellHigh, cellHigh, cellLow_cellLow, cellWidth, cellWidth, log2_cellLow]

/-- Cells are in the order of their values. -/
theorem cellLow_mono {u v : Nat} (h : u ≤ v) : cellLow u ≤ cellLow v := by
  rcases Nat.eq_zero_or_pos u with rfl | hu
  · exact Nat.zero_le _
  · have hv : 0 < v := hu.trans_le h
    have hlog : u.log2 ≤ v.log2 := (Nat.le_log2 hv.ne').mpr ((Nat.log2_self_le hu.ne').trans h)
    rcases hlog.lt_or_eq with hlt | heq
    · calc cellLow u ≤ u := cellLow_le u
        _ ≤ 2 ^ (u.log2 + 1) := Nat.lt_log2_self.le
        _ ≤ 2 ^ v.log2 := Nat.pow_le_pow_right (by norm_num) hlt
        _ ≤ cellLow v := pow_log2_le_cellLow hv
    · have hwidth : cellWidth u = cellWidth v := by rw [cellWidth, cellWidth, heq]
      rw [cellLow_eq, cellLow_eq, hwidth]
      exact Nat.mul_le_mul_left _ (Nat.div_le_div_right h)

private theorem cellHigh_add_one (v : Nat) :
    cellHigh v + 1 = cellWidth v * (v / cellWidth v + 1) := by
  have hpos := cellWidth_pos v
  rw [cellHigh, cellLow_eq, mul_add_one]
  omega

/-- A cell lies below the next power of two. -/
theorem cellHigh_lt_pow_log2 (v : Nat) : cellHigh v < 2 ^ (v.log2 + 1) := by
  obtain ⟨c, hc⟩ : cellWidth v ∣ 2 ^ (v.log2 + 1) := Nat.pow_dvd_pow 2 (Nat.sub_le _ _)
  have hlt : v < cellWidth v * c := hc ▸ Nat.lt_log2_self
  rw [← Nat.succ_le_iff, Nat.succ_eq_add_one, cellHigh_add_one, hc]
  exact Nat.mul_le_mul_left _ (Nat.div_lt_of_lt_mul hlt)

/-- So are the upper ends of the cells. -/
theorem cellHigh_mono {u v : Nat} (h : u ≤ v) : cellHigh u ≤ cellHigh v := by
  rcases Nat.eq_zero_or_pos u with rfl | hu
  · exact Nat.zero_le _
  · have hv : 0 < v := hu.trans_le h
    have hlog : u.log2 ≤ v.log2 := (Nat.le_log2 hv.ne').mpr ((Nat.log2_self_le hu.ne').trans h)
    rcases hlog.lt_or_eq with hlt | heq
    · calc cellHigh u ≤ 2 ^ (u.log2 + 1) := (cellHigh_lt_pow_log2 u).le
        _ ≤ 2 ^ v.log2 := Nat.pow_le_pow_right (by norm_num) hlt
        _ ≤ cellLow v := pow_log2_le_cellLow hv
        _ ≤ cellHigh v := Nat.le_add_right _ _
    · have hwidth : cellWidth u = cellWidth v := by rw [cellWidth, cellWidth, heq]
      rw [cellHigh, cellHigh, hwidth]
      exact Nat.add_le_add_right (cellLow_mono h) _

namespace Histogram

/-! ## Counts of cells -/

/-- The sum of the counts of the cells whose lower ends are in a set. -/
def sumWhere (p : Nat → Bool) (cells : List (Nat × Nat)) : Nat :=
  ((cells.filter fun cell => p cell.1).map (·.2)).sum

@[simp] theorem sumWhere_nil (p : Nat → Bool) : sumWhere p [] = 0 := rfl

/-- The first cell counts if it is asked for. -/
@[simp] theorem sumWhere_cons (p : Nat → Bool) (low n : Nat) (cells : List (Nat × Nat)) :
    sumWhere p ((low, n) :: cells) = (if p low then n else 0) + sumWhere p cells := by
  by_cases hp : p low <;> simp [sumWhere, hp]

/-- A count added to one cell adds to the sums over the sets that hold it. -/
theorem sumWhere_addTo (p : Nat → Bool) (low times : Nat) (cells : List (Nat × Nat)) :
    sumWhere p (addTo low times cells) = sumWhere p cells + if p low then times else 0 := by
  induction cells with
  | nil => simp [addTo]
  | cons cell rest ih =>
    obtain ⟨l, n⟩ := cell
    simp only [addTo]
    by_cases hlt : low < l
    · rw [if_pos hlt, sumWhere_cons]
      omega
    · by_cases heq : low = l
      · subst heq
        rw [if_neg hlt, if_pos rfl, sumWhere_cons, sumWhere_cons]
        split_ifs <;> omega
      · rw [if_neg hlt, if_neg heq, sumWhere_cons, sumWhere_cons, ih]
        omega

/-- All counts together are the sum over all cells. -/
theorem count_eq (h : Histogram) : h.count = sumWhere (fun _ => true) h.cells := by
  rw [count, sumWhere, List.filter_eq_self.mpr fun _ _ => rfl]

/-- Recording counts every value. -/
@[simp] theorem count_record (h : Histogram) (micros times : Nat) :
    (h.record micros times).count = h.count + times := by
  unfold record
  split_ifs with hzero
  · simp [hzero]
  · rw [count_eq, count_eq, sumWhere_addTo, if_pos rfl]

/-- The lower ends of the cells ascend strictly, so none stands twice. -/
def Ascending (cells : List (Nat × Nat)) : Prop := cells.Pairwise fun a b => a.1 < b.1

/-- No cell is in a set that holds no lower end. -/
theorem sumWhere_eq_zero {p : Nat → Bool} {cells : List (Nat × Nat)}
    (h : ∀ cell ∈ cells, ¬p cell.1) : sumWhere p cells = 0 := by
  rw [sumWhere, List.filter_eq_nil_iff.mpr h]
  rfl

/-- Cells ascend exactly when the first one lies below all others and these do. -/
theorem ascending_cons {low n : Nat} {cells : List (Nat × Nat)} :
    Ascending ((low, n) :: cells) ↔ (∀ cell ∈ cells, low < cell.1) ∧ Ascending cells :=
  List.pairwise_cons

private theorem mem_addTo {low times : Nat} {cells : List (Nat × Nat)} {cell : Nat × Nat}
    (h : cell ∈ addTo low times cells) : cell.1 = low ∨ ∃ c ∈ cells, cell.1 = c.1 := by
  induction cells with
  | nil =>
    obtain rfl := List.mem_singleton.mp h
    exact Or.inl rfl
  | cons head rest ih =>
    obtain ⟨l, n⟩ := head
    simp only [addTo] at h
    split_ifs at h with hlt heq
    · rcases List.mem_cons.mp h with rfl | h
      · exact Or.inl rfl
      · exact Or.inr ⟨cell, h, rfl⟩
    · rcases List.mem_cons.mp h with rfl | h
      · exact Or.inl heq.symm
      · exact Or.inr ⟨cell, List.mem_cons_of_mem _ h, rfl⟩
    · rcases List.mem_cons.mp h with rfl | h
      · exact Or.inr ⟨_, List.mem_cons_self, rfl⟩
      · rcases ih h with hlow | ⟨c, hc, hcell⟩
        · exact Or.inl hlow
        · exact Or.inr ⟨c, List.mem_cons_of_mem _ hc, hcell⟩

/-- Adding to a cell keeps the order. -/
theorem Ascending.addTo {cells : List (Nat × Nat)} (h : Ascending cells) (low times : Nat) :
    Ascending (addTo low times cells) := by
  induction cells with
  | nil => simp [Histogram.addTo, Ascending]
  | cons head rest ih =>
    obtain ⟨l, n⟩ := head
    obtain ⟨hl, hrest⟩ := ascending_cons.mp h
    simp only [Histogram.addTo]
    split_ifs with hlt heq
    · refine ascending_cons.mpr ⟨?_, h⟩
      intro cell hcell
      rcases List.mem_cons.mp hcell with rfl | hcell
      · exact hlt
      · exact hlt.trans (hl cell hcell)
    · exact ascending_cons.mpr ⟨hl, hrest⟩
    · refine ascending_cons.mpr ⟨?_, ih hrest⟩
      intro cell hcell
      rcases mem_addTo hcell with hlow | ⟨c, hc, hlow⟩
      · rw [hlow]
        omega
      · rw [hlow]
        exact hl c hc

end Histogram

end GatewayProbe.Metrics
