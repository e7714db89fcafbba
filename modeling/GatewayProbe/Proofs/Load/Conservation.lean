import GatewayProbe.Proofs.Load.Closing

/-!
# Conservation of work

Every iteration of a finished run is a health check, a submission, a look at a task, or an
idle one, and every call to the gateway is measured once. A user in the midst of a poll
has submitted without having ended its iteration, so the ledger of iterations counts a
poll under way as one.
-/

namespace GatewayProbe.Load

open GatewayProbe.Gateway

/-- Whether a user is in the midst of a poll. -/
def Stage.isPolling : Stage → Bool
  | .calling (.query _) _ | .resting .. => true
  | _ => false

/-- A call that opens an iteration is not part of a poll. -/
theorem Purpose.Opens.isPolling_eq {p : Purpose} (h : p.Opens) (sent : Nat) :
    (Stage.calling p sent).isPolling = false := by
  cases p with
  | health | submission _ | statusCheck _ => rfl
  | query work => exact h.elim

/-- Whether a call submits a command that runs a program. -/
def executes (program : String) : Call → Bool
  | .execute command => command.program = program
  | _ => false

/-- Whether a call asks for the state of a task. -/
def asksStatus : Call → Bool
  | .status _ => true
  | _ => false

namespace Ledger

/-- The ledger of iterations against first calls. -/
def ofIterations : Ledger where
  iteration := 1
  idle := -1
  stage s := if s.isPolling then 1 else 0
  call _ := 0
  sample name _ := (if name = Endpoint.health.name then 1 else 0) +
    (if isExecuteName name then 1 else 0) + if name = Endpoint.status.name then 1 else 0
  failure _ := 0

/-- The ledger of the calls of a class against the samples of a class of names. -/
def ofCalls (p : Call → Bool) (q : String → Bool) : Ledger where
  iteration := 0
  idle := 0
  stage
    | .calling purpose _ => if p purpose.call then -1 else 0
    | _ => 0
  call c := if p c then 1 else 0
  sample name _ := if q name then 1 else 0
  failure _ := 0

private theorem sample_opens {p : Purpose} (hp : p.Opens) (success : Bool) :
    ofIterations.sample p.name success = 1 := by
  cases p with
  | health => decide +revert
  | submission command =>
    have hhealth := executeName_ne isExecuteName_health command.program
    have hstatus := executeName_ne isExecuteName_status command.program
    simp [ofIterations, Purpose.name, hhealth, hstatus]
  | statusCheck taskId =>
    change ofIterations.sample Endpoint.status.name success = 1
    decide +revert
  | query work => exact hp.elim

private theorem sample_pollName (success : Bool) : ofIterations.sample pollName success = 0 := by
  decide +revert

private theorem sample_completionName (success : Bool) :
    ofIterations.sample completionName success = 0 := by
  decide +revert

private theorem stage_opens {p : Purpose} (hp : p.Opens) (sent : Nat) :
    ofIterations.stage (.calling p sent) = 0 := by
  simp only [ofIterations, hp.isPolling_eq sent, Bool.false_eq_true, if_false]

/-- An iteration is opened by one call, and by no other sample. -/
theorem balanced_ofIterations : ofIterations.Balanced where
  waiting := rfl
  gone := rfl
  finished := rfl
  pacing _ := rfl
  idle := by decide
  opens p sent hp := (zero_add _).trans (stage_opens hp sent)
  closes p sent hp := by
    rw [stage_opens hp.opens, sample_opens hp.opens]
    rfl
  accepted command work sent due := by
    have hopens : (Purpose.submission command).Opens := trivial
    rw [stage_opens hopens]
    exact (zero_add _).trans (sample_opens hopens true)
  queried work sent due := rfl
  rested work next sent due := by
    rw [sample_pollName]
    rfl
  failed p sent f _ := by
    rcases p.opens_or_query with hp | ⟨work, rfl⟩
    · rw [stage_opens hp, sample_opens hp]
      rfl
    · rw [Purpose.name, sample_pollName]
      rfl
  timedOut work sent := by
    rw [sample_pollName]
    rfl
  completed work sent := by
    rw [sample_pollName, sample_completionName]
    rfl
  taskFailed work sent := by
    rw [sample_pollName, sample_completionName]
    rfl

/-- Calls that are measured under the names of a class, and only they, are in the class. -/
theorem balanced_ofCalls {p : Call → Bool} {q : String → Bool}
    (hname : ∀ purpose : Purpose, q purpose.name = p purpose.call)
    (hcompletion : q completionName = false) : (ofCalls p q).Balanced where
  waiting := rfl
  gone := rfl
  finished := rfl
  pacing _ := rfl
  idle := rfl
  opens purpose sent _ := by cases h : p purpose.call <;> simp [ofCalls, h]
  closes purpose sent _ := by cases h : p purpose.call <;> simp [ofCalls, hname, h]
  accepted command work sent due := by
    have hexecute := hname (.submission command)
    cases h : p (Purpose.submission command).call <;> simp_all [ofCalls, Purpose.name]
  queried work sent due := by cases h : p (Purpose.query work).call <;> simp [ofCalls, h]
  rested work next sent due := by
    have hquery := hname (.query work)
    cases h : p (Purpose.query work).call <;> simp_all [ofCalls, Purpose.name]
  failed purpose sent f _ := by cases h : p purpose.call <;> simp [ofCalls, hname, h]
  timedOut work sent := by
    have hquery := hname (.query work)
    cases h : p (Purpose.query work).call <;> simp_all [ofCalls, Purpose.name]
  completed work sent := by
    have hquery := hname (.query work)
    cases h : p (Purpose.query work).call <;> simp_all [ofCalls, Purpose.name]
  taskFailed work sent := by
    have hquery := hname (.query work)
    cases h : p (Purpose.query work).call <;> simp_all [ofCalls, Purpose.name]

end Ledger

namespace Run

variable {plan : Plan} {r : Run} {es : List Effect}

private theorem Audited.iterations (h : r.Audited plan es) (hover : r.isOver = true) :
    r.outcome.iterations = r.outcome.report.countOf Endpoint.health.name +
      r.outcome.report.countWhere isExecuteName +
      r.outcome.report.countOf Endpoint.status.name + r.outcome.idleChecks := by
  have hclosing := h.closing hover Ledger.balanced_ofIterations
  have hhealth := sum_ite_eq_mul_countP 1 (fun s => s.name = Endpoint.health.name)
    (Effect.samples es)
  have hexecute := sum_ite_eq_mul_countP 1 (fun s => isExecuteName s.name) (Effect.samples es)
  have hstatus := sum_ite_eq_mul_countP 1 (fun s => s.name = Endpoint.status.name)
    (Effect.samples es)
  simp only [decide_eq_true_eq, one_mul] at hhealth hexecute hstatus
  rw [h.countOf_report, h.countOf_report, h.countWhere_report]
  simp only [Ledger.ofIterations, List.map_const', List.sum_replicate, smul_zero, add_zero,
    List.sum_map_add, hhealth, hexecute, hstatus] at hclosing
  omega

/-- The calls of a class are counted by the samples under the names of the class. -/
theorem Audited.countP_calls (h : r.Audited plan es) (hover : r.isOver = true)
    {p : Call → Bool} {q : String → Bool}
    (hname : ∀ purpose : Purpose, q purpose.name = p purpose.call)
    (hcompletion : q completionName = false) :
    r.calls.countP p = r.outcome.report.countWhere q := by
  have hclosing := h.closing hover (Ledger.balanced_ofCalls hname hcompletion)
  rw [h.countWhere_report]
  simp only [Ledger.ofCalls, List.map_const', List.sum_replicate, smul_zero, add_zero, zero_mul,
    zero_add, one_mul, sum_ite_eq_mul_countP 1 p,
    sum_ite_eq_mul_countP 1 fun s : Metrics.Sample => q s.name] at hclosing
  exact_mod_cast hclosing

private theorem Audited.calls_health (h : r.Audited plan es) (hover : r.isOver = true) :
    r.calls.countP (· = .health) = r.outcome.report.countOf Endpoint.health.name := by
  have hname : ∀ purpose : Purpose,
      decide (purpose.name = Endpoint.health.name) = decide (purpose.call = .health) := by
    intro purpose
    cases purpose with
    | health => rfl
    | submission command =>
      have hne := executeName_ne isExecuteName_health command.program
      simp [Purpose.name, Purpose.call, hne]
    | statusCheck taskId => simp [Purpose.name, Purpose.call, Endpoint.name]
    | query work => simp [Purpose.name, Purpose.call, Endpoint.name, pollName]
  rw [h.countP_calls (q := (· = Endpoint.health.name)) hover hname (by decide),
    h.countWhere_report, h.countOf_report]

private theorem Audited.calls_execute (h : r.Audited plan es) (hover : r.isOver = true)
    (program : String) :
    r.calls.countP (executes program) = r.outcome.report.countOf (executeName program) := by
  have hhealth := executeName_ne isExecuteName_health program
  have hstatus := executeName_ne isExecuteName_status program
  have hpoll := executeName_ne isExecuteName_pollName program
  have hcompletion := executeName_ne isExecuteName_completionName program
  have hname : ∀ purpose : Purpose,
      decide (purpose.name = executeName program) = executes program purpose.call := by
    intro purpose
    cases purpose with
    | health => simp [Purpose.name, Purpose.call, executes, hhealth.symm]
    | submission command => simp [Purpose.name, Purpose.call, executes, executeName_inj]
    | statusCheck taskId => simp [Purpose.name, Purpose.call, executes, hstatus.symm]
    | query work => simp [Purpose.name, Purpose.call, executes, hpoll.symm]
  rw [h.countP_calls (q := (· = executeName program)) hover hname
    (decide_eq_false hcompletion.symm), h.countWhere_report, h.countOf_report]

private theorem Audited.calls_status (h : r.Audited plan es) (hover : r.isOver = true) :
    r.calls.countP asksStatus =
      r.outcome.report.countOf pollName + r.outcome.report.countOf Endpoint.status.name := by
  have hname : ∀ purpose : Purpose,
      (decide (purpose.name = pollName) || decide (purpose.name = Endpoint.status.name)) =
        asksStatus purpose.call := by
    intro purpose
    cases purpose with
    | health => decide
    | submission command =>
      have hpoll := executeName_ne isExecuteName_pollName command.program
      have hstatus := executeName_ne isExecuteName_status command.program
      simp [Purpose.name, Purpose.call, asksStatus, hpoll, hstatus]
    | statusCheck taskId => simp [Purpose.name, Purpose.call, asksStatus]
    | query work => simp [Purpose.name, Purpose.call, asksStatus]
  have hapart : ∀ s : Metrics.Sample, decide (s.name = pollName) = true →
      decide (s.name = Endpoint.status.name) = false := by
    intro s hs
    rw [of_decide_eq_true hs]
    decide
  rw [h.countP_calls (q := fun name => name = pollName || name = Endpoint.status.name) hover
    hname (by decide), h.countWhere_report, h.countOf_report, h.countOf_report, countP_or hapart]

/-- Every iteration of a finished run is a health check, a submission, a look at a task or an
idle look, and every call is measured by exactly one sample under the name of its purpose. -/
theorem work_conserved {plan : Plan} {started : Nat} {entropy : Nat → Random.Stream}
    {events : List (Nat × Event)} {r₀ r : Run} (hbegin : begin plan started entropy = .ok r₀)
    (hreplay : replay events r₀ = some r) (hover : r.isOver = true) :
    r.outcome.iterations = r.outcome.report.countOf Endpoint.health.name +
        r.outcome.report.countWhere isExecuteName +
        r.outcome.report.countOf Endpoint.status.name + r.outcome.idleChecks ∧
      r.calls.countP (· = .health) = r.outcome.report.countOf Endpoint.health.name ∧
      (∀ program, r.calls.countP (executes program) =
        r.outcome.report.countOf (executeName program)) ∧
      r.calls.countP asksStatus =
        r.outcome.report.countOf pollName + r.outcome.report.countOf Endpoint.status.name := by
  obtain ⟨es, h⟩ := audited_replay hbegin hreplay
  exact ⟨h.iterations hover, h.calls_health hover, h.calls_execute hover, h.calls_status hover⟩

/-- Two users that execute a command each. -/
theorem work_conserved_pair : ∃ r₀ r, begin pairPlan 0 = .ok r₀ ∧
    replay pairEvents r₀ = some r ∧ r.isOver = true ∧
      2 = r.outcome.report.countOf Endpoint.health.name +
        r.outcome.report.countWhere isExecuteName +
        r.outcome.report.countOf Endpoint.status.name + r.outcome.idleChecks := by
  obtain ⟨r₀, r, hbegin, hreplay, hover, htwo⟩ := replay_pairEvents
  refine ⟨r₀, r, hbegin, hreplay, hover, ?_⟩
  rw [← htwo]
  exact (work_conserved hbegin hreplay hover).1

end Run

end GatewayProbe.Load
