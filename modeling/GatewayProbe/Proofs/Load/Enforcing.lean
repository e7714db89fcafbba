import GatewayProbe.Load.Enforce
import GatewayProbe.Proofs.Load.Judging
import GatewayProbe.Proofs.Load.Planning
import GatewayProbe.Proofs.Metrics.Reordering

/-!
# Targets of a run are enforced

A run for which no targets were asked is judged by the usual one under every name of a request that
its report has, and there is an observation for each of them. Targets that were asked for are
judged one by one in their order. The run fails on its targets if that is asked for and a latency
was observed above the one that is allowed, and the failure counts these targets.
-/

namespace GatewayProbe.Metrics

open Decimal (Denotes)

/-- No quantile is above the largest value. -/
theorem Histogram.le_largest_of_quantileMicros {h : Histogram} {q : Float} {v : Nat}
    (hv : h.quantileMicros q = some v) : v ≤ h.largest := by
  unfold quantileMicros at hv
  split_ifs at hv with hempty
  obtain rfl := Option.some.inj hv
  exact min_le_right _ _

/-- What a report observes denotes a number. -/
theorem Report.exists_denotes_of_quantileMillis {started now : Nat} {ss : List Sample}
    {name : String} {q x : Float}
    (h : (Aggregator.reportOf started now ss).quantileMillis name q = some x) :
    ∃ a, Denotes x a := by
  obtain ⟨-, hfind⟩ | ⟨hsome, b, hfind, hcounts⟩ := Aggregator.find?_reportOf started now ss name
  · rw [quantileMillis, hfind] at h
    cases h
  · rw [quantileMillis, hfind, Option.bind_some] at h
    obtain ⟨v, hv, rfl⟩ := Option.map_eq_some_iff.mp h
    apply exists_denotes_millis
    calc v
      _ ≤ b.histogram.largest := Histogram.le_largest_of_quantileMicros hv
      _ ≤ greatestValue := (mem_valuesOf_bounds (hcounts.largest_mem hsome)).2

/-- The names of a report on samples are in order, and are those of the samples. -/
theorem Aggregator.ordered_reportOf (started now : Nat) (ss : List Sample) :
    (reportOf started now ss).buckets.Ordered :=
  ordered_recordAll (a := create started) List.Pairwise.nil ss

private theorem Aggregator.mem_names_reportOf {started now : Nat} {ss : List Sample}
    {name : String} :
    name ∈ (reportOf started now ss).buckets.names ↔ ∃ s ∈ ss, s.name = name := by
  exact mem_names_recordAll.trans (or_iff_right List.not_mem_nil)

end GatewayProbe.Metrics

namespace GatewayProbe.Slo

open GatewayProbe.Metrics

/-- The usual limit is allowed. -/
theorem isLimit_standard (endpoint : String) :
    isLimit (Threshold.standard endpoint).maxMillis = true := by
  change isLimit 400.0 = true
  decide +kernel

/-- Whether a latency was observed above the one that is allowed. -/
def Outcome.isExceeded (o : Outcome) : Bool := o.observedMillis.any fun x => o.maxMillis < x

/-- A limit stands for something that latencies can be compared with. -/
theorem exists_value_of_isLimit {m : Float} (h : isLimit m = true) :
    ∃ b, Decimal.value? m = some b := by
  obtain ⟨-, b, -, hb, -⟩ := Decimal.lt_iff.mp (of_decide_eq_true (Bool.and_eq_true_iff.mp h).2)
  exact ⟨b, hb⟩

/-- A target is violated if a latency was observed above the one that is allowed. -/
theorem judge_eq_violated_iff {observed : Option Float} {maxMillis : Float}
    (hlimit : isLimit maxMillis = true)
    (hobserved : ∀ x, observed = some x → ∃ a, Decimal.Denotes x a) :
    judge observed maxMillis = .violated ↔ ∃ x, observed = some x ∧ maxMillis < x := by
  cases observed with
  | none => simp [judge]
  | some x =>
    obtain ⟨a, hx⟩ := hobserved x rfl
    obtain ⟨b, hm⟩ := exists_value_of_isLimit hlimit
    simp only [judge, Option.some.injEq, exists_eq_left']
    by_cases hle : x ≤ maxMillis
    · rw [if_pos hle]
      exact iff_of_false (by decide) fun hlt => Decimal.not_le_of_lt hlt hle
    · rw [if_neg hle]
      exact iff_of_true rfl (Decimal.lt_of_not_le hx hm hle)

/-- So as many targets are violated as are exceeded by an observation. -/
theorem violations_evaluate {started now : Nat} {ss : List Sample} {targets : List Threshold}
    (htargets : ∀ t ∈ targets, isLimit t.maxMillis = true) :
    violations (evaluate (Aggregator.reportOf started now ss).quantileMillis targets) =
      (evaluate (Aggregator.reportOf started now ss).quantileMillis targets).countP
        Outcome.isExceeded := by
  refine List.countP_congr fun o ho => ?_
  obtain ⟨t, ht, rfl⟩ := List.mem_map.mp ho
  rw [Outcome.isViolation, decide_eq_true_iff, Outcome.isExceeded, Option.any_eq_true]
  simp only [decide_eq_true_iff]
  exact judge_eq_violated_iff (htargets t ht) fun x => Report.exists_denotes_of_quantileMillis

end GatewayProbe.Slo

namespace GatewayProbe.Load

open GatewayProbe.Gateway GatewayProbe.Metrics GatewayProbe.Slo

/-- Targets that are violated are a failure where that is asked for, and it counts them. -/
theorem enforce_eq_error_iff {outcomes : List Slo.Outcome} {failing : Bool} {failure : Failure} :
    (enforce outcomes failing).1 = .error failure ↔
      failing = true ∧ 0 < violations outcomes ∧
        failure = .invalid (.violated (violations outcomes)) := by
  unfold enforce
  dsimp only
  by_cases hnone : violations outcomes = 0
  · rw [if_pos hnone]
    exact iff_of_false nofun fun h => h.2.1.ne' hnone
  · rw [if_neg hnone]
    cases failing with
    | false => exact iff_of_false nofun fun h => Bool.false_ne_true h.1
    | true =>
      constructor
      · intro h
        exact ⟨rfl, Nat.pos_of_ne_zero hnone, (Except.error.inj h).symm⟩
      · rintro ⟨-, -, rfl⟩
        rfl

/-- The outcomes are those of the usual target under every name of a request in a report, in
ascending order of the names, and each of them is judged. -/
structure JudgesRequests (report : Report) (outcomes : List Slo.Outcome) : Prop where
  ascending : (outcomes.map (·.endpoint)).Pairwise (· < ·)
  names : ∀ name, name ∈ outcomes.map (·.endpoint) ↔
    name ∈ report.buckets.names ∧ name ≠ completionName
  usual : ∀ o ∈ outcomes, o.quantile = 0.95 ∧ o.maxMillis = 400.0
  judged : ∀ o ∈ outcomes, o.verdict ≠ .noData

/-- An outcome is that of a target, and is judged if there are samples of its name. -/
structure JudgesTarget (samples : List Sample) (t : Threshold) (o : Slo.Outcome) : Prop where
  endpoint : o.endpoint = t.endpoint
  quantile : o.quantile = t.quantile
  maxMillis : o.maxMillis = t.maxMillis
  noData : o.verdict = .noData ↔ ∀ s ∈ samples, s.name ≠ t.endpoint

variable {started now : Nat} {samples : List Sample}

/-- Every target of a list is judged, in the order of the list. -/
theorem forall₂_judgesTarget (targets : List Threshold) :
    List.Forall₂ (JudgesTarget samples) targets
      (evaluate (Aggregator.reportOf started now samples).quantileMillis targets) := by
  refine List.forall₂_map_right_iff.mpr (List.forall₂_same.mpr fun t _ => ?_)
  exact ⟨rfl, rfl, rfl, judge_quantileMillis_eq_noData_iff⟩

/-- The usual targets are under the names of requests, and nothing else. -/
theorem endpoint_evaluate_standard (r : Report) :
    (evaluate r.quantileMillis (standardThresholds r)).map (·.endpoint) = requestNames r := by
  rw [evaluate, standardThresholds, List.map_map, List.map_map]
  exact List.map_id _

private theorem mem_requestNames {r : Report} {name : String} :
    name ∈ requestNames r ↔ name ∈ r.buckets.names ∧ name ≠ completionName := by
  rw [requestNames, List.mem_filter, decide_eq_true_iff]

/-- The usual targets judge all requests. -/
theorem judgesRequests_standard :
    JudgesRequests (Aggregator.reportOf started now samples)
      (evaluate (Aggregator.reportOf started now samples).quantileMillis
        (standardThresholds (Aggregator.reportOf started now samples))) := by
  refine ⟨?_, fun name => ?_, fun o ho => ?_, fun o ho => ?_⟩
  · rw [endpoint_evaluate_standard]
    exact (Aggregator.ordered_reportOf started now samples).pairwise_names.filter _
  · rw [endpoint_evaluate_standard, mem_requestNames]
  · obtain ⟨t, ht, rfl⟩ := List.mem_map.mp ho
    obtain ⟨name, -, rfl⟩ := List.mem_map.mp ht
    exact ⟨rfl, rfl⟩
  · obtain ⟨t, ht, rfl⟩ := List.mem_map.mp ho
    obtain ⟨name, hname, rfl⟩ := List.mem_map.mp ht
    obtain ⟨s, hs, hsname⟩ := Aggregator.mem_names_reportOf.mp (mem_requestNames.mp hname).1
    intro hnone
    exact judge_quantileMillis_eq_noData_iff.mp hnone s hs hsname

/-- The targets that apply have limits that are allowed, if those that were asked for have. -/
theorem isLimit_of_mem_thresholdsFor {asked : List Threshold} (r : Report)
    (hasked : ∀ t ∈ asked, t.Allowed) :
    ∀ t ∈ thresholdsFor asked r, isLimit t.maxMillis = true := by
  unfold thresholdsFor
  split
  · intro t ht
    obtain ⟨name, -, rfl⟩ := List.mem_map.mp ht
    exact isLimit_standard name
  · exact fun t ht => (hasked t ht).limit

namespace Run

open GatewayProbe.CommandLine GatewayProbe.Settings

/-- Whatever load run is asked for, on the command line and in a settings file, and however a run
goes on: if no targets are asked for, every name of a request in the report is judged by the usual
target and nothing else is; else every target is judged in its place. The run fails on its targets
exactly if it is to do so and latencies above the allowed ones were observed, and it tells how many
of them there are. -/
theorem targets_enforced {url : Option String} {words : List String} {i i' : Invocation}
    {f : Option File} {s : LoadSettings} {given : List LoadKey} {plan : Plan} {started : Nat}
    {entropy : Nat → Random.Stream} {events : List (Nat × Event)} {r₀ r : Run}
    (hread : read url words = .ok i) (hmerge : f.elim (.ok i) i.merge = .ok i')
    (hload : i'.command = .load s given) (hbegin : begin plan started entropy = .ok r₀)
    (hreplay : replay events r₀ = some r) :
    let outcomes := r.outcome.judged s.slos
    let exceeded := outcomes.countP Slo.Outcome.isExceeded
    (s.slos = [] → JudgesRequests r.outcome.report outcomes) ∧
    (s.slos ≠ [] → List.Forall₂ (JudgesTarget (recorded events r₀)) s.slos outcomes) ∧
    ∀ failure, (enforce outcomes s.failOnSlo).1 = .error failure ↔
      s.failOnSlo = true ∧ 0 < exceeded ∧ failure = .invalid (.violated exceeded) := by
  intro outcomes exceeded
  have hreport := report_eq_reportOf hbegin hreplay
  have hallowed := allowed_of_read hread hmerge
  rw [hload] at hallowed
  have hasked : ∀ t ∈ s.slos, t.Allowed := hallowed .slos
  have houtcomes : outcomes = evaluate r.outcome.report.quantileMillis
      (thresholdsFor s.slos r.outcome.report) := rfl
  refine ⟨fun hnone => ?_, fun hsome => ?_, fun failure => ?_⟩
  · rw [houtcomes, hnone, hreport]
    exact judgesRequests_standard
  · have htargets : thresholdsFor s.slos r.outcome.report = s.slos := by
      rw [thresholdsFor, if_neg (mt List.isEmpty_iff.mp hsome)]
    rw [houtcomes, htargets, hreport]
    exact forall₂_judgesTarget s.slos
  · have hviolations : violations outcomes = outcomes.countP Slo.Outcome.isExceeded := by
      rw [houtcomes, hreport]
      exact violations_evaluate (isLimit_of_mem_thresholdsFor _ hasked)
    rw [enforce_eq_error_iff, hviolations]

/-- Targets for a name that is recorded and for one that is not. -/
private def pollTargets : List Threshold :=
  [⟨"Poll Task Status", 0.5, 2.5⟩, ⟨"Health Check", 0.99, 1.0⟩]

/-- The query of the task takes 3 ms. -/
private theorem replay_pollTargets : ∃ r₀ r, begin lonePlan 0 = .ok r₀ ∧
    replay loneEvents r₀ = some r ∧
    (r.outcome.judged []).map (·.endpoint) = ["Execute ls", "Poll Task Status"] ∧
    (r.outcome.judged pollTargets).countP Slo.Outcome.isExceeded = 1 := by
  have hend : (replay loneEvents (ofPlan lonePlan 0 1000000000 .numbered)).any (fun r =>
      (r.outcome.judged []).map (·.endpoint) == ["Execute ls", "Poll Task Status"] &&
        (r.outcome.judged pollTargets).countP Slo.Outcome.isExceeded == 1) = true := by
    decide +kernel
  obtain ⟨r, hreplay, hr⟩ := (Option.any_eq_true _ _).mp hend
  obtain ⟨hnames, hcount⟩ := Bool.and_eq_true_iff.mp hr
  exact ⟨_, r, begin_lonePlan, hreplay, eq_of_beq hnames, eq_of_beq hcount⟩

/-- Without targets both names of requests are judged; with two targets, of which one is exceeded
and the other is not judged, the run fails on one. -/
theorem targets_enforced_twice : ∃ r₀ r, begin lonePlan 0 = .ok r₀ ∧
    replay loneEvents r₀ = some r ∧
    JudgesRequests r.outcome.report (r.outcome.judged []) ∧
    (r.outcome.judged []).map (·.endpoint) = ["Execute ls", "Poll Task Status"] ∧
    List.Forall₂ (JudgesTarget (recorded loneEvents r₀)) pollTargets
      (r.outcome.judged pollTargets) ∧
    (enforce (r.outcome.judged pollTargets) true).1 = .error (.invalid (.violated 1)) := by
  obtain ⟨r₀, r, hbegin, hreplay, hnames, hcount⟩ := replay_pollTargets
  have hread : read none ["load"] = .ok ⟨{}, .load {} []⟩ := by decide +kernel
  have hasked : read none ["load", "--slo", "Poll Task Status:p50:2.5", "--slo=Health Check:99:1ms",
      "--fail-on-slo"] =
      .ok ⟨{}, .load { slos := pollTargets, failOnSlo := true } [.failOnSlo, .slos, .slos]⟩ := by
    decide +kernel
  obtain ⟨hrequests, -, -⟩ := targets_enforced (f := none) hread rfl rfl hbegin hreplay
  obtain ⟨-, htargets, hfailure⟩ := targets_enforced (f := none) hasked rfl rfl hbegin hreplay
  refine ⟨r₀, r, hbegin, hreplay, hrequests rfl, hnames, htargets (List.cons_ne_nil _ _), ?_⟩
  refine (hfailure _).mpr ⟨rfl, ?_, ?_⟩
  · exact hcount.symm ▸ Nat.one_pos
  · exact congrArg (fun n => Failure.invalid (.violated n)) hcount.symm

end Run

end GatewayProbe.Load
