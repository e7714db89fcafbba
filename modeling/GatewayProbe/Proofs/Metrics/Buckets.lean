import Mathlib.Data.List.Pairwise
import Mathlib.Data.String.Basic
import GatewayProbe.Metrics.Aggregator

/-!
# Buckets in ascending order

A list of buckets stands for a map from names to buckets as long as its names ascend.
Changing the bucket of a name keeps the order, changes what is found under that name and
nothing that is found under any other. Sums over the buckets of a class of names grow by
what the change adds, whatever the order.
-/

namespace GatewayProbe.Metrics

namespace Buckets

/-- The names ascend strictly, so none stands twice. -/
def Ordered (bs : Buckets) : Prop := bs.Pairwise fun a b => a.1 < b.1

/-- The sum of a measure over the buckets whose names are in a class. -/
def sumOver (measure : Bucket → Nat) (p : String → Bool) (bs : Buckets) : Nat :=
  ((bs.filter fun b => p b.1).map fun b => measure b.2).sum

/-- An update brings in no name but the one it is for. -/
theorem mem_names_update {name m : String} {f : Bucket → Bucket} {bs : Buckets} :
    m ∈ (bs.update name f).names ↔ m = name ∨ m ∈ bs.names := by
  induction bs with
  | nil => simp [update, names]
  | cons b rest ih =>
    obtain ⟨n, b⟩ := b
    simp only [names, List.map_cons, List.mem_cons, update] at ih ⊢
    split_ifs with hlt heq
    · simp only [List.map_cons, List.mem_cons]
    · subst heq
      simp only [List.map_cons, List.mem_cons, or_self_left]
    · simp only [List.map_cons, List.mem_cons, ih]
      exact or_left_comm

/-- Buckets are in order exactly when the first one comes before all others and these are. -/
theorem ordered_cons {n : String} {b : Bucket} {rest : Buckets} :
    Ordered ((n, b) :: rest) ↔ (∀ m ∈ names rest, n < m) ∧ Ordered rest := by
  simp only [Ordered, List.pairwise_cons, names, List.mem_map, forall_exists_index, and_imp,
    forall_apply_eq_imp_iff₂]

/-- An update keeps the order. -/
theorem Ordered.update {name : String} {f : Bucket → Bucket} {bs : Buckets} (h : Ordered bs) :
    Ordered (bs.update name f) := by
  induction bs with
  | nil => simp [Buckets.update, Ordered]
  | cons b rest ih =>
    obtain ⟨n, b⟩ := b
    obtain ⟨hn, hr⟩ := ordered_cons.mp h
    simp only [Buckets.update]
    split_ifs with hlt heq
    · refine ordered_cons.mpr ⟨fun m hm => ?_, h⟩
      rcases List.mem_cons.mp hm with rfl | hm
      · exact hlt
      · exact hlt.trans (hn m hm)
    · exact ordered_cons.mpr ⟨hn, hr⟩
    · refine ordered_cons.mpr ⟨fun m hm => ?_, ih hr⟩
      rcases mem_names_update.mp hm with rfl | hm
      · exact lt_of_le_of_ne (not_lt.mp hlt) (Ne.symm heq)
      · exact hn m hm

/-- What stands nowhere among the names is not found. -/
theorem find?_eq_none {name : String} {bs : Buckets} (h : name ∉ bs.names) :
    bs.find? name = none := by
  induction bs with
  | nil => rfl
  | cons b rest ih =>
    obtain ⟨n, b⟩ := b
    simp only [names, List.map_cons, List.mem_cons, not_or] at h
    simp only [find?, Ne.symm h.1, if_false]
    exact ih h.2

/-- Under its own name an update changes the bucket, under any other it changes nothing. -/
theorem find?_update {name m : String} {f : Bucket → Bucket} {bs : Buckets} (h : Ordered bs) :
    (bs.update name f).find? m =
      if m = name then some (f ((bs.find? name).getD {})) else bs.find? m := by
  induction bs with
  | nil => by_cases hm : name = m <;> simp [update, find?, hm, eq_comm]
  | cons b rest ih =>
    obtain ⟨n, b⟩ := b
    obtain ⟨hn, hr⟩ := ordered_cons.mp h
    rcases lt_trichotomy name n with hlt | rfl | hgt
    · -- the name is below all others, so there was no bucket for it
      have hnot : name ∉ names ((n, b) :: rest) := by
        intro hmem
        rcases List.mem_cons.mp hmem with rfl | hmem
        · exact lt_irrefl _ hlt
        · exact lt_irrefl _ (hlt.trans (hn _ hmem))
      rw [find?_eq_none hnot, update, if_pos hlt, find?]
      simp only [eq_comm (a := name), Option.getD_none]
    · rw [update, if_neg (lt_irrefl name), if_pos rfl]
      by_cases hm : m = name
      · simp [find?, hm]
      · simp only [find?, Ne.symm hm, if_false, hm]
    · rw [update, if_neg hgt.not_gt, if_neg hgt.ne']
      simp only [find?, hgt.ne, if_false]
      by_cases hm : m = name
      · rw [if_neg (by rw [hm]; exact hgt.ne), ih hr, if_pos hm, if_pos hm]
      · rw [ih hr, if_neg hm, if_neg hm]

/-- The bucket of a name, an empty one if there is none yet. -/
def held (name : String) (bs : Buckets) : Bucket := (bs.find? name).getD {}

/-- An update changes the bucket of its name and no other. -/
theorem Ordered.held_update {bs : Buckets} (h : Ordered bs) (name m : String)
    (f : Bucket → Bucket) :
    (bs.update name f).held m = if m = name then f (bs.held name) else bs.held m := by
  unfold held
  rw [find?_update h]
  split_ifs
  · rfl
  · rfl

/-- The names of an ordered map ascend strictly. -/
theorem Ordered.pairwise_names {bs : Buckets} (h : Ordered bs) : bs.names.Pairwise (· < ·) :=
  List.pairwise_map.mpr h

@[simp] theorem sumOver_nil (measure : Bucket → Nat) (p : String → Bool) :
    sumOver measure p [] = 0 := rfl

private theorem sumOver_cons (measure : Bucket → Nat) (p : String → Bool) (n : String) (b : Bucket)
    (rest : Buckets) : sumOver measure p ((n, b) :: rest) =
      (if p n then measure b else 0) + sumOver measure p rest := by
  by_cases hp : p n <;> simp [sumOver, hp]

/-- An update adds to a sum what it adds to the bucket, if its name is in the class. -/
theorem sumOver_update {measure : Bucket → Nat} {f : Bucket → Bucket} {k : Nat}
    (hzero : measure {} = 0) (hf : ∀ b, measure (f b) = measure b + k) (p : String → Bool)
    (name : String) (bs : Buckets) :
    (bs.update name f).sumOver measure p = bs.sumOver measure p + if p name then k else 0 := by
  induction bs with
  | nil => simp [update, sumOver_cons, hf, hzero]
  | cons b rest ih =>
    obtain ⟨n, b⟩ := b
    simp only [update]
    split_ifs with hlt heq hp hp hp <;> simp_all [sumOver_cons] <;> omega

/-- An update keeps what holds of every bucket, if the change keeps it. -/
theorem forall_update {P : Bucket → Prop} {f : Bucket → Bucket} {bs : Buckets} (name : String)
    (hnew : P {}) (hf : ∀ b, P b → P (f b)) (h : ∀ b ∈ bs, P b.2) :
    ∀ b ∈ bs.update name f, P b.2 := by
  induction bs with
  | nil =>
    intro b hb
    obtain rfl := List.mem_singleton.mp hb
    exact hf _ hnew
  | cons c rest ih =>
    obtain ⟨n, c⟩ := c
    obtain ⟨hc, hrest⟩ := List.forall_mem_cons.mp h
    simp only [update]
    split_ifs with hlt heq
    · exact List.forall_mem_cons.mpr ⟨hf _ hnew, h⟩
    · exact List.forall_mem_cons.mpr ⟨hf _ hc, hrest⟩
    · exact List.forall_mem_cons.mpr ⟨hc, ih hrest⟩

/-- The sum of differences is the difference of the sums, if no difference is cut off. -/
theorem sumOver_sub {f g : Bucket → Nat} {bs : Buckets} (p : String → Bool)
    (h : ∀ b ∈ bs, g b.2 ≤ f b.2) :
    bs.sumOver (fun b => f b - g b) p + bs.sumOver g p = bs.sumOver f p := by
  induction bs with
  | nil => rfl
  | cons b rest ih =>
    obtain ⟨n, b⟩ := b
    obtain ⟨hb, hrest⟩ := List.forall_mem_cons.mp h
    have hsum := ih hrest
    simp only [sumOver_cons]
    split_ifs
    · have hle : g b ≤ f b := hb
      omega
    · omega

/-- In an ordered map the sum over one name is what is found there. -/
theorem Ordered.sumOver_eq {measure : Bucket → Nat} {bs : Buckets} (h : Ordered bs)
    (name : String) : bs.sumOver measure (· = name) = (bs.find? name).elim 0 measure := by
  induction bs with
  | nil => rfl
  | cons b rest ih =>
    obtain ⟨n, b⟩ := b
    obtain ⟨hn, hr⟩ := ordered_cons.mp h
    rw [sumOver_cons, ih hr]
    by_cases heq : n = name
    · subst heq
      have hnot : n ∉ names rest := fun hmem => lt_irrefl _ (hn n hmem)
      simp [find?, find?_eq_none hnot]
    · simp [find?, heq]

end Buckets

end GatewayProbe.Metrics
