import GatewayProbe.Proofs.Load.Recorded
import GatewayProbe.Proofs.Load.Totals
import GatewayProbe.Proofs.Slo.Naming

/-!
# Targets for what a run measures

Whatever a run measures can be named in the text of a target, and the target is judged as soon as
the run has recorded a sample under this name.
-/

namespace GatewayProbe.Metrics

/-- Nothing is observed at any quantile exactly under a name without samples. -/
theorem Report.quantileMillis_reportOf_eq_none_iff (started now : Nat) (ss : List Sample)
    (name : String) (q : Float) :
    (Aggregator.reportOf started now ss).quantileMillis name q = none ↔
      ∀ s ∈ ss, s.name ≠ name := by
  have hnone : valuesOf name ss = [] ↔ ∀ s ∈ ss, s.name ≠ name := by
    simp [valuesOf, List.filter_eq_nil_iff]
  rw [← hnone]
  constructor
  · intro h
    obtain ⟨hempty, -⟩ | ⟨-, b, hfind, hcounts⟩ := Aggregator.find?_reportOf started now ss name
    · exact hempty
    · rw [quantileMillis, hfind, Option.bind_some, ← Option.not_isSome_iff_eq_none,
        b.histogram.isSome_quantileMillis_iff, not_not] at h
      have hcount : b.histogram.count = 0 := by simp [Histogram.count, h]
      exact List.length_eq_zero_iff.mp (hcounts.count_eq ▸ hcount)
  · intro h
    exact quantileMillis_eq_none started now h q

end GatewayProbe.Metrics

namespace GatewayProbe.Slo

open GatewayProbe.Metrics

/-- A verdict is only withheld for want of an observation. -/
theorem judge_eq_noData_iff {observed : Option Float} {maxMillis : Float} :
    judge observed maxMillis = .noData ↔ observed = none := by
  cases observed with
  | none => simp [judge]
  | some x =>
    simp only [judge]
    split <;> simp

/-- An observation under a name is not judged exactly if no sample stands under it. -/
theorem judge_quantileMillis_eq_noData_iff {started now : Nat} {samples : List Sample}
    {name : String} {q maxMillis : Float} :
    judge ((Aggregator.reportOf started now samples).quantileMillis name q) maxMillis = .noData ↔
      ∀ s ∈ samples, s.name ≠ name := by
  rw [judge_eq_noData_iff, Report.quantileMillis_reportOf_eq_none_iff]

/-- A target is not judged exactly if no sample stands under its name. -/
theorem verdict_eq_noData_iff (started now : Nat) (samples : List Sample)
    {targets : List Threshold} {i : Nat} {t : Threshold} (ht : targets[i]? = some t) :
    ∃ o, (evaluate (Aggregator.reportOf started now samples).quantileMillis targets)[i]? = some o ∧
      o.endpoint = t.endpoint ∧ (o.verdict = .noData ↔ ∀ s ∈ samples, s.name ≠ t.endpoint) := by
  exact ⟨_, (List.getElem?_map ..).trans (congrArg (Option.map _) ht), rfl,
    judge_quantileMillis_eq_noData_iff⟩

end GatewayProbe.Slo

namespace GatewayProbe.Load.Run

open GatewayProbe.Text GatewayProbe.Gateway GatewayProbe.Slo

/-- A name under which samples of accepted programs are recorded can be measured. -/
theorem isMeasured_of_measures {plan : Plan} {name : String}
    (hprograms : ∀ c ∈ plan.commands, IsProgram c.program) (h : plan.Measures name) :
    IsMeasured name := by
  cases h with
  | endpoint e => exact .endpoint e
  | poll => exact .poll
  | completion => exact .completion
  | execute hc => exact .execute (hprograms _ hc)

/-- What can stand behind one name in the text of a target can stand behind every other one that is
not blank, with the same numbers and the name without the blanks around it. A name under which
something is measured has none, so the target is for this name itself; it is not judged exactly if
a run records no sample under the name, and the samples that a run records, if its programs are
accepted ones, stand under such names alone. -/
theorem targets_addressed {percentile limit : String} {t : Threshold}
    (hpercentile : ':' ∉ percentile.toList) (hlimit : ':' ∉ limit.toList)
    (ht : Threshold.parse (spelling Endpoint.health.name percentile limit) = .ok t) :
    (∀ name, isAllBlank name = false →
      Threshold.parse (spelling name percentile limit) =
        .ok ⟨trimmed name, t.quantile, t.maxMillis⟩) ∧
    (∀ name, IsMeasured name →
      Threshold.parse (spelling name percentile limit) = .ok ⟨name, t.quantile, t.maxMillis⟩) ∧
    ∀ (plan : Plan) (started : Nat) (entropy : Nat → Random.Stream)
      (events : List (Nat × Event)) (r₀ r : Run),
      begin plan started entropy = .ok r₀ → replay events r₀ = some r →
        (∀ (name : String) (targets : List Threshold) (i : Nat),
          targets[i]? = some ⟨name, t.quantile, t.maxMillis⟩ →
            ∃ o, (evaluate r.outcome.report.quantileMillis targets)[i]? = some o ∧
              o.endpoint = name ∧ (o.verdict = .noData ↔ ∀ s ∈ recorded events r₀, s.name ≠ name)) ∧
        ((∀ c ∈ plan.commands, IsProgram c.program) →
          ∀ s ∈ recorded events r₀, IsMeasured s.name) := by
  obtain ⟨-, -, hreads⟩ := (parse_spelling_eq_ok_iff _ hpercentile hlimit).mp ht
  have hname (name : String) (hblank : isAllBlank name = false) :
      Threshold.parse (spelling name percentile limit) =
        .ok ⟨trimmed name, t.quantile, t.maxMillis⟩ :=
    (parse_spelling_eq_ok_iff name hpercentile hlimit).mpr
      ⟨hblank, rfl, hreads.limit, hreads.percentile, hreads.isQuantile, hreads.isLimit⟩
  refine ⟨hname, ?_, ?_⟩
  · intro name hmeasured
    have hkept := hmeasured.kept
    rw [hname name hkept.isAllBlank, trimmed, hkept.trim, String.ofList_toList]
  · intro plan started entropy events r₀ r hbegin hreplay
    constructor
    · intro name targets i htarget
      rw [report_eq_reportOf hbegin hreplay]
      exact verdict_eq_noData_iff started r.now (recorded events r₀) htarget
    · intro hprograms s hs
      exact isMeasured_of_measures hprograms (measures_of_mem_recorded hbegin hreplay hs)

/-- One user for one iteration with a program that has a blank and a colon in its name. -/
def colonPlan : Plan := { lonePlan with commands := [⟨"my tool:v2", [], .ofSeconds 5⟩] }

/-- The program of that plan is what an entry with blanks around it comes to. -/
private theorem isProgram_colonPlan : IsProgram "my tool:v2" := by
  have hentry : (Settings.CommandEntry.parts " my tool:v2\n" [] none).command 0 =
      .ok ⟨"my tool:v2", [], none⟩ := rfl
  exact .entry hentry

/-- The user submits its command, and no health is checked. -/
private theorem replay_colonPlan : ∃ r₀ r, begin colonPlan 0 = .ok r₀ ∧
    replay loneEvents r₀ = some r ∧ (recorded loneEvents r₀).map (·.name) =
      ["Execute my tool:v2", "Poll Task Status", "Task Completion"] := by
  have hvalid : colonPlan.validate = .ok () := by decide +kernel
  have hdeadline : colonPlan.deadline? 0 = some 1000000000 := by decide +kernel
  have hend : (replay loneEvents (ofPlan colonPlan 0 1000000000 .numbered)).isSome = true := by
    decide +kernel
  have hnames : (recorded loneEvents (ofPlan colonPlan 0 1000000000 .numbered)).map (·.name) =
      ["Execute my tool:v2", "Poll Task Status", "Task Completion"] := by decide +kernel
  obtain ⟨r, hreplay⟩ := Option.isSome_iff_exists.mp hend
  exact ⟨_, r, begin_eq_ok.mpr ⟨hvalid, _, hdeadline, rfl⟩, hreplay, hnames⟩

/-- The targets for the program and for the health, with the same numbers. -/
private def colonTargets (t : Threshold) : List Threshold :=
  [⟨"Execute my tool:v2", t.quantile, t.maxMillis⟩, ⟨"Health Check", t.quantile, t.maxMillis⟩]

/-- The target for the program is judged, and that for the health is not. -/
theorem targets_addressed_colons : ∃ t r₀ r o o',
    Threshold.parse (spelling Endpoint.health.name " p99.9" "250ms ") = .ok t ∧
      begin colonPlan 0 = .ok r₀ ∧ replay loneEvents r₀ = some r ∧
      Threshold.parse "Execute my tool:v2: p99.9:250ms " =
        .ok ⟨"Execute my tool:v2", t.quantile, t.maxMillis⟩ ∧
      (evaluate r.outcome.report.quantileMillis (colonTargets t))[0]? = some o ∧
      (evaluate r.outcome.report.quantileMillis (colonTargets t))[1]? = some o' ∧
      o.verdict ≠ .noData ∧ o'.verdict = .noData := by
  obtain ⟨t, ht⟩ : ∃ t,
      Threshold.parse (spelling Endpoint.health.name " p99.9" "250ms ") = .ok t := by
    have hok : (Threshold.parse (spelling Endpoint.health.name " p99.9" "250ms ")).isOk = true := by
      decide +kernel
    cases hparse : Threshold.parse (spelling Endpoint.health.name " p99.9" "250ms ") with
    | error fault => simp [hparse, Except.isOk, Except.toBool] at hok
    | ok t => exact ⟨t, rfl⟩
  obtain ⟨r₀, r, hbegin, hreplay, hnames⟩ := replay_colonPlan
  obtain ⟨-, hmeasured, hruns⟩ := targets_addressed (by decide) (by decide) ht
  obtain ⟨hjudged, -⟩ := hruns _ _ _ _ _ _ hbegin hreplay
  obtain ⟨o, ho, -, hverdict⟩ := hjudged "Execute my tool:v2" (colonTargets t) 0 rfl
  obtain ⟨o', ho', -, hverdict'⟩ := hjudged "Health Check" (colonTargets t) 1 rfl
  have hmem (name : String) : (∀ s ∈ recorded loneEvents r₀, s.name ≠ name) ↔
      ∀ n ∈ ["Execute my tool:v2", "Poll Task Status", "Task Completion"], n ≠ name := by
    rw [← hnames, List.forall_mem_map]
  rw [hmem] at hverdict hverdict'
  refine ⟨t, r₀, r, o, o', ht, hbegin, hreplay, hmeasured _ (.execute isProgram_colonPlan), ho, ho',
    ?_, ?_⟩
  · rw [ne_eq, hverdict]
    decide
  · rw [hverdict']
    decide

end GatewayProbe.Load.Run
