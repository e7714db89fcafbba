import GatewayProbe.Proofs.Metrics.Quantiles
import GatewayProbe.Proofs.Metrics.Recording

/-!
# What a report observes of the recorded samples

The bucket of a name counts the values of the samples under that name. A report observes
nothing at a quantile if there are no such samples. Else it observes a number of microseconds
that is not below the value of the rank and not above the largest value.
-/

namespace GatewayProbe.Metrics

open Decimal (Denotes)

/-- The number of microseconds a sample stands for, where none at all stands for one. -/
def Sample.value (s : Sample) : Nat := max s.micros 1

/-- The values of the samples under a name. -/
def valuesOf (name : String) (ss : List Sample) : List Nat :=
  (ss.filter fun s => s.name = name).map Sample.value

/-- No sample is less than one microsecond. -/
theorem Sample.one_le_value (s : Sample) : 1 ≤ s.value := le_max_right _ _

/-- A sample has no more microseconds than are counted. -/
theorem Sample.value_le (s : Sample) : s.value ≤ greatestValue := by
  have hmicros : s.micros ≤ greatestValue := by
    unfold Sample.micros Decimal.halfUp
    exact Decimal.toWord_le _ _
  exact max_le hmicros (by decide)

/-- The values of a name are those that a histogram can hold. -/
theorem mem_valuesOf_bounds {name : String} {ss : List Sample} {v : Nat}
    (h : v ∈ valuesOf name ss) : 1 ≤ v ∧ v ≤ greatestValue := by
  obtain ⟨s, -, rfl⟩ := List.mem_map.mp h
  exact ⟨s.one_le_value, s.value_le⟩

/-- A bucket counts the value of each sample added to it. -/
theorem counts_foldl_add {b : Bucket} {vs : List Nat} (h : b.histogram.Counts vs)
    (ss : List Sample) :
    (ss.foldl Bucket.add b).histogram.Counts (vs ++ ss.map Sample.value) := by
  induction ss generalizing b vs with
  | nil => simpa using h
  | cons s ss ih =>
    have hadd : (b.add s).histogram.Counts (vs ++ [s.value]) := by
      have hcounted : Histogram.counted s.micros = s.value := min_eq_left s.value_le
      rw [← hcounted]
      exact h.record s.micros
    have hrest := ih hadd
    rwa [List.append_assoc] at hrest

namespace Aggregator

/-- The report on samples recorded into an aggregator without any. -/
def reportOf (started now : Nat) (ss : List Sample) : Report :=
  (((create started).recordAll ss).freeze now).report now

/-- A name has a bucket if there are samples under it, and the bucket counts their values. -/
theorem find?_reportOf (started now : Nat) (ss : List Sample) (name : String) :
    (valuesOf name ss = [] ∧ (reportOf started now ss).buckets.find? name = none) ∨
    (valuesOf name ss ≠ [] ∧ ∃ b, (reportOf started now ss).buckets.find? name = some b ∧
      b.histogram.Counts (valuesOf name ss)) := by
  have hfind := find?_recordAll (a := create started) List.Pairwise.nil ss name
  have hbuckets : (reportOf started now ss).buckets = ((create started).recordAll ss).buckets := rfl
  have hempty : ({} : Bucket).histogram.Counts [] := Histogram.Counts.empty
  rw [hbuckets, hfind, valuesOf, List.map_eq_nil_iff, ne_eq, List.map_eq_nil_iff]
  by_cases hown : (ss.filter fun s => s.name = name) = []
  · exact Or.inl ⟨hown, if_pos hown⟩
  · exact Or.inr ⟨hown, _, if_neg hown, counts_foldl_add hempty _⟩

end Aggregator

namespace Report

/-- Nothing is observed under a name without samples. -/
theorem quantileMillis_eq_none (started now : Nat) {ss : List Sample} {name : String}
    (h : valuesOf name ss = []) (q : Float) :
    (Aggregator.reportOf started now ss).quantileMillis name q = none := by
  obtain ⟨-, hfind⟩ | ⟨hsome, -⟩ := Aggregator.find?_reportOf started now ss name
  · rw [quantileMillis, hfind]
    rfl
  · exact absurd h hsome

/-- What is observed at a quantile lies between the value of the rank and the largest value. -/
theorem exists_quantileMillis (started now : Nat) {ss : List Sample} {name : String} {q : Float}
    {a : ℚ} (hq : Denotes q a) (h0 : 0 < a) (h1 : a ≤ 1) (hsome : valuesOf name ss ≠ [])
    (hmax : (valuesOf name ss).length < 2 ^ 53) :
    ∃ s ∈ valuesOf name ss, ∃ x, ∃ largest ∈ valuesOf name ss,
      ranked (valuesOf name ss) (Histogram.rank q (valuesOf name ss).length) = some s ∧
      (Aggregator.reportOf started now ss).quantileMillis name q = some (millis x) ∧
      s ≤ x ∧ x ≤ largest := by
  obtain ⟨hnone, -⟩ | ⟨-, b, hfind, hcounts⟩ := Aggregator.find?_reportOf started now ss name
  · exact absurd hnone hsome
  · have hn : 1 ≤ (valuesOf name ss).length := List.length_pos_of_ne_nil hsome
    obtain ⟨s, hs, hranked⟩ := exists_ranked (le_max_right _ _) (Histogram.rank_le hq h0 h1 hn hmax)
    have hmicros := hcounts.quantileMicros_eq hq h0 h1 hranked
    refine ⟨s, hs, _, _, hcounts.largest_mem hsome, hranked, ?_, ?_,
      min_le_right (cellHigh s) _⟩
    · rw [quantileMillis, hfind, Option.bind_some, Histogram.quantileMillis, hmicros]
      rfl
    · exact le_min (le_cellHigh s) (hcounts.le_largest hs)

end Report

end GatewayProbe.Metrics
