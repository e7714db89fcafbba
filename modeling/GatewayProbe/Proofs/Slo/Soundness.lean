import GatewayProbe.Proofs.Metrics.Observation
import GatewayProbe.Slo.Outcome

/-!
# Verdicts agree with the recorded samples

A verdict compares an observation with the target. The observation is not below the value of
the rank of the quantile, so a met target holds for as many samples as the rank says. It is
not above the largest value, so a violated target is exceeded by a sample.
-/

namespace GatewayProbe.Slo

open Decimal (Denotes)
open Metrics

/-- What a verdict says about some values, of which `s` has the rank `r` of the quantile. -/
structure Verdict.Sound (verdict : Verdict) (maxMillis : Float) (vs : List Nat) (r s : Nat) :
    Prop where
  /-- A met target holds at the rank. -/
  of_met : verdict = .met → millis s ≤ maxMillis
  /-- A met target holds for at least as many values as the rank says. -/
  count_of_met : verdict = .met → r ≤ vs.countP fun v => millis v ≤ maxMillis
  /-- A violated target is exceeded by a value. -/
  of_violated : verdict = .violated → ∃ v ∈ vs, maxMillis < millis v
  /-- A target that holds for all values is met. -/
  met_of_forall : (∀ v ∈ vs, millis v ≤ maxMillis) → verdict = .met
  /-- A target that is exceeded at the rank is violated. -/
  violated_of_lt : maxMillis < millis s → verdict = .violated

/-- The verdict on an observation between the value of a rank and the largest value is sound. -/
theorem sound_judge {vs : List Nat} (hbounds : ∀ v ∈ vs, 1 ≤ v ∧ v ≤ greatestValue)
    {r s x largest : Nat} (hr : 1 ≤ r) (hranked : ranked vs r = some s) (hs : s ∈ vs)
    (hlargest : largest ∈ vs) (hsx : s ≤ x) (hx : x ≤ largest) {maxMillis : Float}
    (hmax : 0.0 < maxMillis) :
    (judge (some (millis x)) maxMillis).Sound maxMillis vs r s := by
  have hs0 := (hbounds s hs).1
  have hlow : millis s ≤ millis x := millis_mono hs0 hsx (hx.trans (hbounds largest hlargest).2)
  have hhigh : millis x ≤ millis largest :=
    millis_mono (hs0.trans hsx) hx (hbounds largest hlargest).2
  obtain ⟨a, hdenotes⟩ := exists_denotes_millis (hx.trans (hbounds largest hlargest).2)
  obtain ⟨-, limit, -, hlimit, -⟩ := Decimal.lt_iff.mp hmax
  by_cases hmet : millis x ≤ maxMillis
  · have hverdict : judge (some (millis x)) maxMillis = .met := if_pos hmet
    have hrank : millis s ≤ maxMillis := Decimal.le_trans hlow hmet
    rw [hverdict]
    refine ⟨fun _ => hrank, fun _ => ?_, by simp, fun _ => rfl, fun hlt => ?_⟩
    · refine (ranked_iff (fun u hu v hv huv hpv => ?_) hr hranked).mp (decide_eq_true hrank)
      have huv := millis_mono (hbounds u hu).1 huv (hbounds v hv).2
      exact decide_eq_true (Decimal.le_trans huv (of_decide_eq_true hpv))
    · exact absurd hrank (Decimal.not_le_of_lt hlt)
  · have hverdict : judge (some (millis x)) maxMillis = .violated := if_neg hmet
    have hexceeds : maxMillis < millis x := Decimal.lt_of_not_le hdenotes hlimit hmet
    rw [hverdict]
    refine ⟨by simp, by simp, fun _ => ?_, fun hall => ?_, fun _ => rfl⟩
    · exact ⟨largest, hlargest, Decimal.lt_of_lt_of_le hexceeds hhigh⟩
    · exact absurd (Decimal.le_trans hhigh (hall largest hlargest)) hmet

/-- A quantile lies above zero and not above one. -/
theorem isQuantile_iff {q : Float} : isQuantile q = true ↔ 0.0 < q ∧ q ≤ 1.0 := by
  rw [isQuantile, Bool.and_eq_true, decide_eq_true_iff, decide_eq_true_iff]

/-- The verdict on each target agrees with the samples recorded under its name: there is none
exactly if there are no samples, and else it is sound at the rank of the quantile. -/
theorem verdict_sound (started now : Nat) (samples : List Sample) {targets : List Threshold}
    {i : Nat} {t : Threshold} (ht : targets[i]? = some t) (hq : isQuantile t.quantile)
    (hmax : 0.0 < t.maxMillis) (hcount : (valuesOf t.endpoint samples).length < 2 ^ 53) :
    let vs := valuesOf t.endpoint samples
    let r := Histogram.rank t.quantile vs.length
    ∃ o, (evaluate (Aggregator.reportOf started now samples).quantileMillis targets)[i]? = some o ∧
      (o.verdict = .noData ↔ vs.length = 0) ∧
      (1 ≤ vs.length → 1 ≤ r ∧ r ≤ vs.length ∧
        ∃ s, ranked vs r = some s ∧ o.verdict.Sound t.maxMillis vs r s) := by
  intro vs r
  obtain ⟨hlow, hhigh⟩ := isQuantile_iff.mp hq
  obtain ⟨a, hdenotes, h0, h1⟩ := Denotes.of_lt_of_le Denotes.zero Denotes.one hlow hhigh
  refine ⟨_, (List.getElem?_map ..).trans (congrArg (Option.map _) ht), ?_⟩
  by_cases hnone : vs = []
  · have hobserved := Report.quantileMillis_eq_none started now hnone t.quantile
    refine ⟨?_, fun hpos => ?_⟩
    · simp [hobserved, hnone, judge]
    · simp [hnone] at hpos
  · obtain ⟨s, hs, x, largest, hlargest, hranked, hobserved, hsx, hx⟩ :=
      Report.exists_quantileMillis started now hdenotes h0 h1 hnone hcount
    have hpos : 1 ≤ vs.length := List.length_pos_of_ne_nil hnone
    have hr : 1 ≤ r := le_max_right _ _
    refine ⟨?_, fun _ => ⟨hr, Histogram.rank_le hdenotes h0 h1 hpos hcount, s, hranked, ?_⟩⟩
    · simp only [hobserved, judge]
      split_ifs <;> simp [hnone]
    · simp only [hobserved]
      exact sound_judge (fun v hv => mem_valuesOf_bounds hv) hr hranked hs hlargest hsx hx hmax

/-- Two samples, the slower one above the target for every endpoint. -/
def slowPair : List Sample := [⟨"Health Check", 250.0, true⟩, ⟨"Health Check", 500.0, true⟩]

/-- The target is violated, since the rank of its quantile among two is that of the slower. -/
theorem verdict_sound_slowPair :
    isQuantile 0.95 = true ∧ 0.0 < 400.0 ∧
      (valuesOf "Health Check" slowPair).length < 2 ^ 53 ∧
      ∃ o, (evaluate (Aggregator.reportOf 0 0 slowPair).quantileMillis
        [.standard "Health Check"])[0]? = some o ∧ o.verdict = .violated := by
  have hq : isQuantile 0.95 = true := by decide +kernel
  have hmax : 0.0 < 400.0 := by decide +kernel
  have hcount : (valuesOf "Health Check" slowPair).length < 2 ^ 53 := by decide +kernel
  have htarget : [Threshold.standard "Health Check"][0]? = some (.standard "Health Check") := rfl
  obtain ⟨o, ho, -, hsome⟩ := verdict_sound 0 0 slowPair htarget hq hmax hcount
  obtain ⟨-, -, s, hs, hsound⟩ := hsome (by decide +kernel)
  have hslow : ranked (valuesOf "Health Check" slowPair)
      (Histogram.rank 0.95 (valuesOf "Health Check" slowPair).length) = some 500000 := by
    decide +kernel
  obtain rfl := Option.some.inj (hslow.symm.trans hs)
  exact ⟨hq, hmax, hcount, o, ho, hsound.violated_of_lt (by decide +kernel)⟩

end GatewayProbe.Slo
