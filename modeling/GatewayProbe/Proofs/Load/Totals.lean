import GatewayProbe.Load.Report
import GatewayProbe.Load.Summary
import GatewayProbe.Proofs.Load.Conservation
import GatewayProbe.Proofs.Load.FailureAccounting
import GatewayProbe.Proofs.Metrics.Percentiles

/-!
# What the total of a run counts

The total that the summary and the report of a run give is the number of all samples. Every call
to the gateway has one sample, but so has the time of every task whose end was seen, which is no
call. So the total is the number of calls only of a run in which no task came to its end.
-/

namespace GatewayProbe.Metrics

/-- A histogram has every quantile as soon as it has counted anything. -/
theorem Histogram.isSome_quantileMillis_iff (h : Histogram) (q : Float) :
    (h.quantileMillis q).isSome ↔ h.cells ≠ [] := by
  rw [quantileMillis, Option.isSome_map, quantileMicros]
  split_ifs with hempty
  · simpa using hempty
  · simpa using hempty

/-- A bucket that has counted anything has percentiles, which hold its counts. -/
theorem Bucket.exists_percentiles_of_ne_nil {b : Bucket} (hcells : b.histogram.cells ≠ [])
    (window : Duration) : ∃ p, b.percentiles window = some p ∧ p.count = b.histogram.count ∧
      p.failures = b.failures := by
  have hquantile (q : Float) := (b.histogram.isSome_quantileMillis_iff q).mpr hcells
  obtain ⟨p50, h50⟩ := Option.isSome_iff_exists.mp (hquantile 0.50)
  obtain ⟨p90, h90⟩ := Option.isSome_iff_exists.mp (hquantile 0.90)
  obtain ⟨p95, h95⟩ := Option.isSome_iff_exists.mp (hquantile 0.95)
  obtain ⟨p99, h99⟩ := Option.isSome_iff_exists.mp (hquantile 0.99)
  obtain ⟨rate, hp⟩ := percentiles_eq h50 h90 h95 h99 window
  exact ⟨_, hp, rfl, rfl⟩

/-- No other bucket has percentiles. -/
theorem Bucket.isSome_percentiles_iff (b : Bucket) (window : Duration) :
    (b.percentiles window).isSome ↔ b.histogram.cells ≠ [] := by
  constructor
  · intro hsome
    rw [← b.histogram.isSome_quantileMillis_iff 0.50]
    unfold percentiles at hsome
    cases h50 : b.histogram.quantileMillis 0.50 with
    | none =>
      simp only [h50] at hsome
      exact hsome
    | some p50 => rfl
  · intro hcells
    obtain ⟨p, hp, -⟩ := exists_percentiles_of_ne_nil hcells window
    exact Option.isSome_of_eq_some hp

/-- In an ordered map every bucket is found under its name. -/
theorem Buckets.Ordered.find?_of_mem {bs : Buckets} (h : bs.Ordered) {name : String} {b : Bucket}
    (hb : (name, b) ∈ bs) : bs.find? name = some b := by
  induction bs with
  | nil => exact absurd hb List.not_mem_nil
  | cons c rest ih =>
    obtain ⟨n, c⟩ := c
    obtain ⟨hn, hr⟩ := ordered_cons.mp h
    rcases List.mem_cons.mp hb with heq | hrest
    · obtain ⟨rfl, rfl⟩ := Prod.mk.inj heq
      simp [find?]
    · have hlt : n < name := hn name (List.mem_map_of_mem hrest)
      simp only [find?, hlt.ne, if_false]
      exact ih hr hrest

namespace Report

/-- The total counts all samples, up to the largest number that is counted to. -/
theorem totalRequests_eq (r : Report) :
    r.totalRequests = min (r.countWhere fun _ => true) (2 ^ 64 - 1) := by
  simp [totalRequests, countWhere, Buckets.sumOver]

/-- A report with samples has percentiles for some name. -/
theorem endpoints_ne_nil {r : Report} (h : r.buckets.Ordered) (hsome : r.totalRequests ≠ 0) :
    r.endpoints ≠ [] := by
  have hsum : (r.buckets.map fun b => b.2.histogram.count).sum ≠ 0 := by
    intro hzero
    exact hsome (by simp [totalRequests, hzero])
  obtain ⟨n, hn, hne⟩ : ∃ n ∈ r.buckets.map (fun b => b.2.histogram.count), n ≠ 0 := by
    by_contra hnone
    push Not at hnone
    exact hsum (List.sum_eq_zero hnone)
  obtain ⟨⟨name, b⟩, hb, rfl⟩ := List.mem_map.mp hn
  have hcells : b.histogram.cells ≠ [] := by
    intro hempty
    exact hne (by simp [Histogram.count, hempty])
  obtain ⟨p, hp⟩ := Option.isSome_iff_exists.mp
    ((b.isSome_percentiles_iff r.window).mpr hcells)
  have hfound : r.percentiles name = some p := by
    rw [percentiles, h.find?_of_mem hb]
    exact hp
  have hmem : (name, p) ∈ r.endpoints := by
    refine List.mem_filterMap.mpr ⟨name, List.mem_map_of_mem hb, ?_⟩
    rw [hfound]
    rfl
  exact List.ne_nil_of_mem hmem

end Report

end GatewayProbe.Metrics

namespace GatewayProbe.Load

open GatewayProbe.Gateway

/-- The line of the summary that gives the total. -/
def totalLine (total : Nat) : String := "Total requests: " ++ toString total

/-- The summary of a run with samples gives the total. -/
theorem totalLine_mem_summaryLines {o : Outcome} (h : o.report.endpoints ≠ [])
    (targets : List Slo.Outcome) :
    totalLine o.report.totalRequests ∈ summaryLines o targets := by
  have htable : totalLine o.report.totalRequests ∈ tableLines o.report := by
    unfold tableLines
    split
    · exact absurd ‹_› h
    · exact List.mem_append_right _ List.mem_cons_self
  unfold summaryLines
  exact List.mem_append_left _ (List.mem_append_left _ (List.mem_append_right _ htable))

namespace Run

variable {plan : Plan} {r : Run} {es : List Effect}

/-- Every call has a sample that is not for the time of a task, and there are no others. -/
theorem Audited.length_calls (h : r.Audited plan es) (hover : r.isOver = true) :
    r.calls.length = r.outcome.report.countWhere (· ≠ completionName) := by
  have hname : ∀ purpose : Purpose, decide (purpose.name ≠ completionName) = true :=
    fun purpose => decide_eq_true (Ledger.name_ne_completionName purpose)
  rw [← h.countP_calls (p := fun _ => true) hover hname (by decide)]
  simp

/-- All samples are those of calls and those for the time of tasks. -/
theorem Audited.countWhere_all (h : r.Audited plan es) :
    (r.outcome.report.countWhere fun _ => true) =
      r.outcome.report.countWhere (· ≠ completionName) +
        r.outcome.report.countOf completionName := by
  rw [h.countWhere_report, h.countWhere_report, h.countOf_report,
    ← countP_or fun s hs => by simpa using hs]
  simp [Bool.or_comm]

/-- No more samples of a name are failures than there are. -/
theorem Audited.failuresOf_le_countOf (h : r.Audited plan es) (name : String) :
    r.outcome.report.failuresOf name ≤ r.outcome.report.countOf name := by
  rw [h.failuresOf_report, h.countOf_report]
  exact List.countP_mono_left fun s _ hs => (Bool.and_eq_true_iff.mp hs).1

/-- The total of a finished run counts its calls and the times of whole tasks. -/
theorem Audited.totalRequests_eq (h : r.Audited plan es) (hover : r.isOver = true) :
    r.outcome.report.totalRequests =
      min (r.calls.length + r.outcome.report.countOf completionName) (2 ^ 64 - 1) := by
  rw [Metrics.Report.totalRequests_eq, h.countWhere_all, h.length_calls hover]

/-- The total of a finished run, which the summary prints and the report holds, is the number of
calls to the gateway and of the tasks whose end was seen. So it is the number of calls exactly if
no task was seen to end. -/
theorem requests_totalled {plan : Plan} {started : Nat} {entropy : Nat → Random.Stream}
    {events : List (Nat × Event)} {r₀ r : Run} (hbegin : begin plan started entropy = .ok r₀)
    (hreplay : replay events r₀ = some r) (hover : r.isOver = true) :
    r.outcome.report.totalRequests =
        min (r.calls.length + r.outcome.report.countOf completionName) (2 ^ 64 - 1) ∧
      (r.calls.length < 2 ^ 64 - 1 → (r.outcome.report.totalRequests = r.calls.length ↔
        r.outcome.report.countOf completionName = 0)) ∧
      (r.calls ≠ [] → ∀ targets,
        totalLine r.outcome.report.totalRequests ∈ summaryLines r.outcome targets) ∧
      ∀ startedAt targets, ∃ members, reportDocument startedAt r.outcome targets = .record members ∧
        ("total_requests", .count r.outcome.report.totalRequests) ∈ members := by
  obtain ⟨es, h⟩ := audited_replay hbegin hreplay
  have htotal := h.totalRequests_eq hover
  refine ⟨htotal, fun hfew => ?_, fun hcalls targets => ?_, fun startedAt targets => ?_⟩
  · rw [htotal]
    omega
  · have hsome : r.calls.length ≠ 0 := fun hzero => hcalls (List.length_eq_zero_iff.mp hzero)
    refine totalLine_mem_summaryLines (Metrics.Report.endpoints_ne_nil h.ordered ?_) targets
    rw [htotal]
    omega
  · exact ⟨_, rfl, by simp⟩

/-- One user for one iteration. -/
def lonePlan : Plan := { pairPlan with users := 1, spawnRate := 1 }

/-- The submission is accepted, and the task has failed when it is asked for. -/
def loneEvents : List (Nat × Event) :=
  let body (text : String) : Answer := .body (Text.bytesOf text)
  [(0, .release), (0, .start 0),
    (3000000, .answer 0 (body "\x7b\"task_id\": \"a\"\x7d")),
    (6000000, .answer 0 (body "\x7b\"status\": \"FAILED\"\x7d"))]

/-- The run of the one user begins. -/
theorem begin_lonePlan : begin lonePlan 0 = .ok (ofPlan lonePlan 0 1000000000 .numbered) := by
  have hvalid : lonePlan.validate = .ok () := by decide +kernel
  have hdeadline : lonePlan.deadline? 0 = some 1000000000 := by decide +kernel
  exact begin_eq_ok.mpr ⟨hvalid, _, hdeadline, rfl⟩

/-- The user makes two calls and stops. -/
private theorem replay_loneEvents : ∃ r₀ r, begin lonePlan 0 = .ok r₀ ∧
    replay loneEvents r₀ = some r ∧ r.isOver = true ∧ r.calls.length = 2 ∧
      r.outcome.tally.taskFailed = 1 := by
  have hend : (replay loneEvents (ofPlan lonePlan 0 1000000000 .numbered)).any
      (fun r => r.isOver && r.calls.length == 2 && r.outcome.tally.taskFailed == 1) = true := by
    decide +kernel
  obtain ⟨r, hreplay, hr⟩ := (Option.any_eq_true _ _).mp hend
  obtain ⟨hrest, hfailed⟩ := Bool.and_eq_true_iff.mp hr
  obtain ⟨hover, hcalls⟩ := Bool.and_eq_true_iff.mp hrest
  exact ⟨_, r, begin_lonePlan, hreplay, hover, eq_of_beq hcalls, eq_of_beq hfailed⟩

/-- Two calls and the time of a task make the total. -/
theorem requests_totalled_lone : ∃ r₀ r, begin lonePlan 0 = .ok r₀ ∧
    replay loneEvents r₀ = some r ∧ r.isOver = true ∧ r.calls.length = 2 ∧
      r.outcome.report.totalRequests =
        min (r.calls.length + r.outcome.report.countOf completionName) (2 ^ 64 - 1) := by
  obtain ⟨r₀, r, hbegin, hreplay, hover, hcalls, _⟩ := replay_loneEvents
  exact ⟨r₀, r, hbegin, hreplay, hover, hcalls, (requests_totalled hbegin hreplay hover).1⟩

/-- Not every finished run gives the number of its calls as its total: the time of a task that
was seen to end is counted as one more. -/
theorem requests_overcounted : ¬ ∀ plan started entropy events r₀ r,
    begin plan started entropy = .ok r₀ → replay events r₀ = some r → r.isOver = true →
      r.outcome.report.totalRequests = r.calls.length := by
  intro hequal
  obtain ⟨r₀, r, hbegin, hreplay, hover, hcalls, hfailed⟩ := replay_loneEvents
  obtain ⟨es, h⟩ := audited_replay hbegin hreplay
  have hended := h.failuresOf_le_countOf completionName
  have htotal := h.totalRequests_eq hover
  have hsame := hequal lonePlan 0 _ loneEvents r₀ r hbegin hreplay hover
  rw [h.failedTasks hover] at hfailed
  omega

end Run

end GatewayProbe.Load
