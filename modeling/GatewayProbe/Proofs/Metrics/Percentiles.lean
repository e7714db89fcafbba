import GatewayProbe.Proofs.Metrics.Accuracy
import GatewayProbe.Proofs.Metrics.Observation

/-!
# What percentiles say of the samples

A higher quantile has no lower rank, the value of a higher rank is not smaller, and neither is
the upper end of its cell. So the percentiles of a bucket ascend, and since no quantile exceeds
the largest value, none of them does. Nothing is said of a name without samples, and what is
said of a name does not depend on the samples of the others.
-/

namespace GatewayProbe.Metrics

namespace Histogram

variable {h : Histogram} {vs : List Nat}

/-- Quantiles ascend up to the largest value. -/
theorem Counts.quantileMillis_mono (hc : Counts h vs) (hvs : vs ≠ [])
    (hbounds : ∀ v ∈ vs, 1 ≤ v ∧ v ≤ greatestValue) (hmax : vs.length < 2 ^ 53) {q q' : Float}
    (hlow : 0.0 < q) (hle : q ≤ q') (hhigh : q' ≤ 1.0) :
    ∃ x x' : Float, h.quantileMillis q = some x ∧ h.quantileMillis q' = some x' ∧ x ≤ x' ∧
      x' ≤ millis h.largest := by
  have h0 : 0.0 ≤ q := Decimal.le_of_lt hlow
  obtain ⟨v, v', hv, hv', hvv, hlargest⟩ := hc.quantileMicros_mono hvs hmax h0 hle hhigh
  have hpos : 1 ≤ v := hc.one_le_quantileMicros hvs hmax (fun u hu => (hbounds u hu).1) h0
    (Decimal.le_trans hle hhigh) hv
  have hmost := (hbounds _ (hc.largest_mem hvs)).2
  exact ⟨_, _, quantileMillis_of_micros hv, quantileMillis_of_micros hv',
    millis_mono hpos hvv (hlargest.trans hmost), millis_mono (hpos.trans hvv) hlargest hmost⟩

end Histogram

/-- Percentiles that fit some samples: they count the samples and the failures among them, they
ascend, and none exceeds the largest value, as it is recorded: a latency of zero counts as one. -/
structure Percentiles.Fits (p : Percentiles) (ss : List Sample) : Prop where
  count : p.count = ss.length
  failures : p.failures = ss.countP fun s => !s.success
  p50_le : p.p50 ≤ p.p90
  p90_le : p.p90 ≤ p.p95
  p95_le : p.p95 ≤ p.p99
  p99_le : ∃ s ∈ ss, (∀ t ∈ ss, t.value ≤ s.value) ∧ p.p99 ≤ millis s.value

/-- No more failures are counted than samples. -/
theorem Percentiles.Fits.failures_le {p : Percentiles} {ss : List Sample} (h : p.Fits ss) :
    p.failures ≤ p.count := by
  rw [h.count, h.failures]
  exact List.countP_le_length

/-- A bucket has percentiles if it has the four quantiles they stand at. -/
theorem Bucket.percentiles_eq {b : Bucket} {p50 p90 p95 p99 : Float}
    (h50 : b.histogram.quantileMillis 0.50 = some p50)
    (h90 : b.histogram.quantileMillis 0.90 = some p90)
    (h95 : b.histogram.quantileMillis 0.95 = some p95)
    (h99 : b.histogram.quantileMillis 0.99 = some p99) (window : Duration) :
    ∃ rate, b.percentiles window =
      some ⟨p50, p90, p95, p99, b.histogram.count, rate, b.failures⟩ := by
  simp only [percentiles, h50, h90, h95, h99]
  exact ⟨_, rfl⟩

/-- The percentiles of a bucket fit the samples that were added to it. -/
theorem Bucket.exists_percentiles {ss : List Sample} (hss : ss ≠ []) (hmax : ss.length < 2 ^ 53)
    (window : Duration) :
    ∃ p, (ss.foldl Bucket.add {}).percentiles window = some p ∧ p.Fits ss := by
  have hcounts := counts_foldl_add (b := {}) Histogram.Counts.empty ss
  have hfailures := failures_foldl_add {} ss
  rw [List.nil_append] at hcounts
  generalize ss.foldl Bucket.add {} = b at hcounts hfailures ⊢
  have hvs : ss.map Sample.value ≠ [] := by simpa using hss
  have hlength : (ss.map Sample.value).length < 2 ^ 53 := by simpa using hmax
  have hbounds : ∀ v ∈ ss.map Sample.value, 1 ≤ v ∧ v ≤ greatestValue := by
    intro v hv
    obtain ⟨s, -, rfl⟩ := List.mem_map.mp hv
    exact ⟨s.one_le_value, s.value_le⟩
  have hmono (q q' : Float) (hlow : 0.0 < q) (hle : q ≤ q') (hhigh : q' ≤ 1.0) :=
    hcounts.quantileMillis_mono hvs hbounds hlength hlow hle hhigh
  obtain ⟨p50, p90, h50, h90, hle50, -⟩ :=
    hmono 0.50 0.90 (by decide +kernel) (by decide +kernel) (by decide +kernel)
  obtain ⟨p90', p95, h90', h95, hle90, -⟩ :=
    hmono 0.90 0.95 (by decide +kernel) (by decide +kernel) (by decide +kernel)
  obtain ⟨p95', p99, h95', h99, hle95, hle99⟩ :=
    hmono 0.95 0.99 (by decide +kernel) (by decide +kernel) (by decide +kernel)
  obtain rfl := Option.some.inj (h90.symm.trans h90')
  obtain rfl := Option.some.inj (h95.symm.trans h95')
  obtain ⟨rate, hp⟩ := percentiles_eq h50 h90 h95 h99 window
  refine ⟨_, hp, ?_, ?_, hle50, hle90, hle95, ?_⟩
  · simpa using hcounts.count_eq
  · simpa using hfailures
  · obtain ⟨s, hs, hvalue⟩ := List.mem_map.mp (hcounts.largest_mem hvs)
    refine ⟨s, hs, fun t ht => ?_, hvalue ▸ hle99⟩
    exact hvalue ▸ hcounts.le_largest (List.mem_map_of_mem ht)

namespace Aggregator

variable {a : Aggregator} {own : List Sample} {name : String}

/-- An empty bucket has no percentiles, so a name without bucket may as well have an empty one. -/
theorem percentiles_eq_held (a : Aggregator) (now : Nat) (name : String) :
    a.percentiles now name = (a.buckets.held name).percentiles (a.window now) := by
  unfold percentiles Buckets.held
  cases a.buckets.find? name with
  | none => rfl
  | some b => rfl

/-- An empty bucket has no quantiles either. -/
theorem quantileMillis_eq_held (a : Aggregator) (name : String) (q : Float) :
    a.quantileMillis name q = (a.buckets.held name).histogram.quantileMillis q := by
  unfold quantileMillis Buckets.held
  cases a.buckets.find? name with
  | none => rfl
  | some b => rfl

/-- A name has percentiles if its bucket holds any samples. -/
theorem isSome_percentiles_iff (hheld : a.buckets.held name = own.foldl Bucket.add {})
    (hmax : own.length < 2 ^ 53) (now : Nat) :
    (a.percentiles now name).isSome ↔ own ≠ [] := by
  rw [percentiles_eq_held, hheld]
  by_cases hown : own = []
  · subst hown
    exact ⟨nofun, fun h => (h rfl).elim⟩
  · obtain ⟨p, hp, -⟩ := Bucket.exists_percentiles hown hmax (a.window now)
    simp [hp, hown]

/-- The percentiles of a name fit the samples that its bucket holds. -/
theorem fits_of_percentiles (hheld : a.buckets.held name = own.foldl Bucket.add {})
    (hmax : own.length < 2 ^ 53) {now : Nat} {p : Percentiles}
    (hp : a.percentiles now name = some p) : p.Fits own := by
  have hown : own ≠ [] := (isSome_percentiles_iff hheld hmax now).mp (by rw [hp]; rfl)
  obtain ⟨p', hp', hfits⟩ := Bucket.exists_percentiles hown hmax (a.window now)
  rw [percentiles_eq_held, hheld, hp'] at hp
  obtain rfl := Option.some.inj hp
  exact hfits

/-- The bucket of a name holds the samples recorded under that name. -/
theorem held_recordAll_create (started : Nat) (ss : List Sample) (name : String) :
    ((create started).recordAll ss).buckets.held name =
      (ss.filter fun s => s.name = name).foldl Bucket.add {} := by
  have hfind := find?_recordAll (a := create started) List.Pairwise.nil ss name
  simp only at hfind
  rw [Buckets.held, hfind]
  split_ifs with hown
  · rw [hown]
    rfl
  · rfl

end Aggregator

end GatewayProbe.Metrics
