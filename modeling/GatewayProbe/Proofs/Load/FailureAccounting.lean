import GatewayProbe.Proofs.Load.Conservation

/-!
# Accounting for failures

Failures are kept twice: with the samples of each name, and in a tally by kind. A call that
fails is in both, a task that fails is in the tally and under the name of whole tasks, and
a poll that runs out of time is in the tally only. Every submission that is accepted leads
to one poll, which ends in exactly one way.
-/

namespace GatewayProbe.Load

open GatewayProbe.Gateway

namespace Ledger

/-- The ledger of faults of calls against failed samples of calls. -/
def ofFaults : Ledger where
  iteration := 0
  idle := 0
  stage _ := 0
  call _ := 0
  sample name success := if name ≠ completionName && !success then -1 else 0
  failure kind := (if kind = .transport then 1 else 0) + (if kind = .malformed then 1 else 0) +
    if kind = .unknownStatus then 1 else 0

/-- The ledger of failed tasks against failed samples of whole tasks. -/
def ofFailedTasks : Ledger where
  iteration := 0
  idle := 0
  stage _ := 0
  call _ := 0
  sample name success := if name = completionName && !success then -1 else 0
  failure kind := if kind = .taskFailed then 1 else 0

/-- The ledger of accepted submissions against the ends of their polls. -/
def ofSubmissions : Ledger where
  iteration := 0
  idle := 0
  stage s := if s.isPolling then 1 else 0
  call _ := 0
  sample name success := (if isExecuteName name && success then 1 else 0) +
    (if name = completionName then -1 else 0) + if name = pollName && !success then -1 else 0
  failure kind := if kind = .pollTimeout then -1 else 0

/-- The time of a whole task is not measured as a call. -/
theorem name_ne_completionName (p : Purpose) : p.name ≠ completionName := by
  cases p with
  | health => decide
  | submission command => exact executeName_ne isExecuteName_completionName command.program
  | statusCheck taskId =>
    change Endpoint.status.name ≠ completionName
    decide
  | query work =>
    change pollName ≠ completionName
    decide

/-- Each fault of a call comes with a failed sample of this call, and no other sample fails
but that of a whole task. -/
theorem balanced_ofFaults : ofFaults.Balanced where
  waiting := rfl
  gone := rfl
  finished := rfl
  pacing _ := rfl
  idle := rfl
  opens _ _ _ := rfl
  closes p sent _ := by simp [ofFaults]
  accepted command work sent due := by simp [ofFaults]
  queried _ _ _ := rfl
  rested work next sent due := by simp [ofFaults]
  failed p sent f hf := by
    rcases hf.kind with hkind | hkind | hkind <;>
      simp [ofFaults, hkind, name_ne_completionName]
  timedOut work sent := by simp [ofFaults]
  completed work sent := by simp [ofFaults]
  taskFailed work sent := by simp [ofFaults]

/-- A task fails with a failed sample of the whole task, and nothing else does. -/
theorem balanced_ofFailedTasks : ofFailedTasks.Balanced where
  waiting := rfl
  gone := rfl
  finished := rfl
  pacing _ := rfl
  idle := rfl
  opens _ _ _ := rfl
  closes p sent _ := by simp [ofFailedTasks]
  accepted command work sent due := by simp [ofFailedTasks]
  queried _ _ _ := rfl
  rested work next sent due := by simp [ofFailedTasks]
  failed p sent f hf := by
    rcases hf.kind with hkind | hkind | hkind <;>
      simp [ofFailedTasks, hkind, name_ne_completionName]
  timedOut work sent := by simp [ofFailedTasks]
  completed work sent := by simp [ofFailedTasks]
  taskFailed work sent := by simp [ofFailedTasks]

private theorem sample_executeName (program : String) (success : Bool) :
    ofSubmissions.sample (executeName program) success = if success then 1 else 0 := by
  have hcompletion := executeName_ne isExecuteName_completionName program
  have hpoll := executeName_ne isExecuteName_pollName program
  simp [ofSubmissions, hcompletion, hpoll]

private theorem sample_query (success : Bool) :
    ofSubmissions.sample pollName success = if success then 0 else -1 := by
  decide +revert

private theorem sample_completion (success : Bool) :
    ofSubmissions.sample completionName success = -1 := by
  decide +revert

private theorem sample_closes {p : Purpose} (hp : p.Closes) (success : Bool) :
    ofSubmissions.sample p.name success = 0 := by
  cases p with
  | health => decide +revert
  | statusCheck taskId =>
    change ofSubmissions.sample Endpoint.status.name success = 0
    decide +revert
  | submission command => exact hp.elim
  | query work => exact hp.elim

private theorem failure_ofCall {f : Fault} (hf : f.OfCall) :
    ofSubmissions.failure (.ofFault f) = 0 := by
  rcases hf.kind with hkind | hkind | hkind <;> simp [ofSubmissions, hkind]

private theorem stage_before {p : Purpose} (hp : p.Opens) (sent : Nat) :
    ofSubmissions.stage (.calling p sent) = 0 := by
  simp only [ofSubmissions, hp.isPolling_eq sent, Bool.false_eq_true, if_false]

/-- An accepted submission begins a poll, and every end of a poll is recorded once: as the
end of the task, as a failed query, or as a lack of time. -/
theorem balanced_ofSubmissions : ofSubmissions.Balanced where
  waiting := rfl
  gone := rfl
  finished := rfl
  pacing _ := rfl
  idle := rfl
  opens p sent hp := (zero_add _).trans (stage_before hp sent)
  closes p sent hp := by
    rw [stage_before hp.opens, sample_closes hp]
    rfl
  accepted command work sent due := by
    rw [sample_executeName]
    rfl
  queried _ _ _ := rfl
  rested work next sent due := by
    rw [sample_query]
    rfl
  failed p sent f hf := by
    rw [failure_ofCall hf]
    cases p with
    | health =>
      rw [sample_closes (p := .health) trivial]
      rfl
    | statusCheck taskId =>
      rw [sample_closes (p := .statusCheck taskId) trivial]
      rfl
    | submission command =>
      rw [Purpose.name, sample_executeName]
      rfl
    | query work =>
      rw [Purpose.name, sample_query]
      rfl
  timedOut work sent := by
    rw [sample_query]
    rfl
  completed work sent := by
    rw [sample_query, sample_completion]
    rfl
  taskFailed work sent := by
    rw [sample_query, sample_completion]
    rfl

end Ledger

namespace Run

variable {plan : Plan} {r : Run} {es : List Effect}

private theorem Audited.faults (h : r.Audited plan es) (hover : r.isOver = true) :
    r.outcome.tally.transport + r.outcome.tally.malformed + r.outcome.tally.unknownStatus =
      r.outcome.report.failuresWhere (· ≠ completionName) := by
  have hclosing := h.closing hover Ledger.balanced_ofFaults
  have htransport : r.outcome.tally.transport = _ := h.of_tally .transport
  have hmalformed : r.outcome.tally.malformed = _ := h.of_tally .malformed
  have hunknown : r.outcome.tally.unknownStatus = _ := h.of_tally .unknownStatus
  have hfailed := sum_ite_eq_mul_countP (-1)
    (fun s => decide (s.name ≠ completionName) && !s.success) (Effect.samples es)
  have hkind := fun kind => sum_ite_eq_mul_countP 1 (fun k => decide (k = kind))
    (Effect.failures es)
  simp only [decide_eq_true_eq, one_mul] at hkind
  rw [h.failuresWhere_report, htransport, hmalformed, hunknown]
  simp only [Ledger.ofFaults, List.map_const', List.sum_replicate, smul_zero, add_zero, zero_mul,
    List.sum_map_add, hfailed, hkind] at hclosing
  omega

/-- The failed tasks are the failures under the name of whole tasks. -/
theorem Audited.failedTasks (h : r.Audited plan es) (hover : r.isOver = true) :
    r.outcome.tally.taskFailed = r.outcome.report.failuresOf completionName := by
  have hclosing := h.closing hover Ledger.balanced_ofFailedTasks
  have htask : r.outcome.tally.taskFailed = _ := h.of_tally .taskFailed
  have hfailed := sum_ite_eq_mul_countP (-1)
    (fun s => decide (s.name = completionName) && !s.success) (Effect.samples es)
  have hkind := sum_ite_eq_mul_countP 1 (fun k => decide (k = .taskFailed)) (Effect.failures es)
  simp only [decide_eq_true_eq, one_mul] at hkind
  rw [h.failuresOf_report, htask]
  simp only [Ledger.ofFailedTasks, List.map_const', List.sum_replicate, smul_zero, add_zero,
    zero_mul, hfailed, hkind] at hclosing
  omega

private theorem Audited.submissions (h : r.Audited plan es) (hover : r.isOver = true) :
    r.outcome.report.successesWhere isExecuteName = r.outcome.report.countOf completionName +
      r.outcome.report.failuresOf pollName + r.outcome.tally.pollTimeout := by
  have hclosing := h.closing hover Ledger.balanced_ofSubmissions
  have htimeout : r.outcome.tally.pollTimeout = _ := h.of_tally .pollTimeout
  have haccepted := sum_ite_eq_mul_countP 1
    (fun s => isExecuteName s.name && s.success) (Effect.samples es)
  have hended := sum_ite_eq_mul_countP (-1)
    (fun s => decide (s.name = completionName)) (Effect.samples es)
  have hfailed := sum_ite_eq_mul_countP (-1)
    (fun s => decide (s.name = pollName) && !s.success) (Effect.samples es)
  have hkind := sum_ite_eq_mul_countP (-1) (fun k => decide (k = .pollTimeout))
    (Effect.failures es)
  simp only [decide_eq_true_eq] at hended hkind
  rw [h.successesWhere_report, h.countOf_report, h.failuresOf_report, htimeout]
  simp only [Ledger.ofSubmissions, List.map_const', List.sum_replicate, smul_zero, add_zero,
    zero_mul, List.sum_map_add, haccepted, hended, hfailed, hkind] at hclosing
  omega

/-- The tally and the failures by name agree: the faults of calls are the failures under all
names but that of whole tasks, the failed tasks are the failures under that name, and each
accepted submission ends in a final state, in a failed query or out of time. -/
theorem failures_accounted {plan : Plan} {started : Nat} {entropy : Nat → Random.Stream}
    {events : List (Nat × Event)} {r₀ r : Run} (hbegin : begin plan started entropy = .ok r₀)
    (hreplay : replay events r₀ = some r) (hover : r.isOver = true) :
    r.outcome.tally.transport + r.outcome.tally.malformed + r.outcome.tally.unknownStatus =
        r.outcome.report.failuresWhere (· ≠ completionName) ∧
      r.outcome.tally.taskFailed = r.outcome.report.failuresOf completionName ∧
      r.outcome.report.successesWhere isExecuteName = r.outcome.report.countOf completionName +
        r.outcome.report.failuresOf pollName + r.outcome.tally.pollTimeout := by
  obtain ⟨es, h⟩ := audited_replay hbegin hreplay
  exact ⟨h.faults hover, h.failedTasks hover, h.submissions hover⟩

/-- One submission that fails and one whose task fails. -/
theorem failures_accounted_pair : ∃ r₀ r, begin pairPlan 0 = .ok r₀ ∧
    replay pairEvents r₀ = some r ∧ r.isOver = true ∧
      r.outcome.tally.transport + r.outcome.tally.malformed + r.outcome.tally.unknownStatus =
          r.outcome.report.failuresWhere (· ≠ completionName) ∧
        r.outcome.tally.taskFailed = r.outcome.report.failuresOf completionName ∧
        r.outcome.report.successesWhere isExecuteName = r.outcome.report.countOf completionName +
          r.outcome.report.failuresOf pollName + r.outcome.tally.pollTimeout := by
  obtain ⟨r₀, r, hbegin, hreplay, hover, _⟩ := replay_pairEvents
  exact ⟨r₀, r, hbegin, hreplay, hover, failures_accounted hbegin hreplay hover⟩

end Run

end GatewayProbe.Load
