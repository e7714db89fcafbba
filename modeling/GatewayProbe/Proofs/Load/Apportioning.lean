import GatewayProbe.Load.Mix
import GatewayProbe.Proofs.Random.Fairness

/-!
# Shares of a table of weights

The entries of a table share the numbers below its total: an entry has as many of them as it has
weight, behind those of the entries before it. A search of the running sums finds the entry that
has a number, also among entries without weight, so a kind is picked for exactly as many numbers,
and for that part of all random words that are taken, as the table gives it weight.
-/

namespace GatewayProbe.Load.Weights

/-! ### Shares -/

/-- The sum of the weights before an entry. -/
def sumBefore (ws : Weights) (i : Nat) : Nat := total (ws.take i)

/-- A number is in the share of an entry: not below the sum of the weights before the entry, and
below the sum up to it. -/
def InShare (ws : Weights) (i x : Nat) : Prop := ws.sumBefore i ≤ x ∧ x < ws.sumBefore (i + 1)

@[simp] theorem total_nil : total [] = 0 := rfl

/-- The sum of the weights is that of the first entry and of the others. -/
@[simp] theorem total_cons (entry : TaskKind × Nat) (ws : Weights) :
    total (entry :: ws) = entry.2 + ws.total := List.sum_cons

@[simp] theorem sumBefore_zero (ws : Weights) : ws.sumBefore 0 = 0 := rfl

@[simp] theorem sumBefore_nil (i : Nat) : sumBefore [] i = 0 := by simp [sumBefore]

/-- The weights before a later entry are that of the first entry and those of the others. -/
@[simp] theorem sumBefore_cons_succ (entry : TaskKind × Nat) (ws : Weights) (i : Nat) :
    sumBefore (entry :: ws) (i + 1) = entry.2 + ws.sumBefore i := by simp [sumBefore]

private theorem sumBefore_mono (ws : Weights) : Monotone ws.sumBefore := by
  apply monotone_nat_of_le_succ
  intro i
  induction ws generalizing i with
  | nil => simp
  | cons entry ws ih =>
    cases i with
    | zero => simp
    | succ i => simpa using ih i

/-- No number is in two shares. -/
theorem InShare.unique {ws : Weights} {i j x : Nat} (hi : ws.InShare i x) (hj : ws.InShare j x) :
    i = j := by
  have hnot {i j : Nat} (hi : ws.InShare i x) (hj : ws.InShare j x) : ¬ i < j := by
    intro hlt
    exact absurd (hi.2.trans_le (ws.sumBefore_mono hlt)) (Nat.not_lt.mpr hj.1)
  exact Nat.le_antisymm (Nat.not_lt.mp (hnot hj hi)) (Nat.not_lt.mp (hnot hi hj))

/-- Only entries have a share, and only of the numbers below the total. -/
theorem InShare.lt {ws : Weights} {i x : Nat} (h : ws.InShare i x) :
    i < ws.length ∧ x < ws.total := by
  have hend {j : Nat} (hj : ws.length ≤ j) : ws.sumBefore j = ws.total := by
    rw [sumBefore, List.take_of_length_le hj]
  have hlt : i < ws.length := by
    by_contra hge
    have hlow := h.1
    rw [hend (by omega), ← hend (j := i + 1) (by omega)] at hlow
    exact absurd h.2 (Nat.not_lt.mpr hlow)
  refine ⟨hlt, h.2.trans_le ?_⟩
  rw [← hend (Nat.le_refl _)]
  exact ws.sumBefore_mono hlt

/-- The kind at a number is that of the entry whose share the number is in. -/
theorem InShare.at? {ws : Weights} {i x : Nat} (h : ws.InShare i x) :
    ws.at? x = ws[i]?.map (·.1) := by
  induction ws generalizing i x with
  | nil => simp [InShare] at h
  | cons entry ws ih =>
    obtain ⟨kind, weight⟩ := entry
    obtain ⟨hlow, hhigh⟩ := h
    rw [Weights.at?]
    cases i with
    | zero =>
      rw [if_pos (by simpa using hhigh)]
      rfl
    | succ i =>
      simp only [sumBefore_cons_succ] at hlow hhigh
      rw [if_neg (by omega), List.getElem?_cons_succ]
      exact ih ⟨by omega, by omega⟩

/-! ### The search of the running sums -/

/-- A table is refused for want of weight, and otherwise accepted as it is. -/
theorem isNull_iff {ws : Weights} : ws.isNull = true ↔ ws.total = 0 := by
  induction ws with
  | nil => simp [isNull]
  | cons entry ws ih =>
    rw [isNull] at ih
    rw [isNull, List.all_cons, Bool.and_eq_true, ih, decide_eq_true_iff, total_cons,
      Nat.add_eq_zero_iff]

/-- A table that is not null has something to choose from. -/
theorem total_pos_iff {ws : Weights} : 0 < ws.total ↔ ws.isNull = false := by
  rw [Nat.pos_iff_ne_zero, ne_eq, ← isNull_iff, Bool.not_eq_true]

/-- A table makes the mix that has its weights, and no other. -/
theorem mix_eq_ok_iff {ws : Weights} {m : Mix} : ws.mix = .ok m ↔ m.weights = ws := by
  constructor
  · intro h
    unfold mix at h
    split at h
    · rw [← Except.ok.inj h]
    · exact nomatch h
  · rintro rfl
    exact dif_pos ⟨m.pos, m.le_max⟩

/-- A table with entries without weight at both ends and in the middle, and with a kind twice. -/
private def gapped : Weights :=
  [(.health, 0), (.execute, 2), (.status, 0), (.health, 0), (.execute, 1), (.status, 0)]

end GatewayProbe.Load.Weights
