import GatewayProbe.Proofs.Gateway.Names
import GatewayProbe.Proofs.Load.Audit
import GatewayProbe.Text.Utf8

/-!
# The books of a finished run

When a run is over, no user stands anywhere of value. What a ledger then says is an
equation between the iterations, the calls, the samples and the failures of the run. The
report and the tally hold these counts of samples and failures.
-/

namespace GatewayProbe.Load

open GatewayProbe.Gateway

/-- The sum of one value over a class counts the class. -/
theorem sum_ite_eq_mul_countP {α : Type} (c : ℤ) (p : α → Bool) (xs : List α) :
    (xs.map fun x => if p x then c else 0).sum = c * xs.countP p := by
  induction xs with
  | nil => simp
  | cons x xs ih =>
    rw [List.map_cons, List.sum_cons, ih, List.countP_cons]
    by_cases hp : p x
    · simp [hp]
      ring
    · simp [hp]

/-- Two classes that are apart are counted one by one. -/
theorem countP_or {α : Type} {p q : α → Bool} (hpq : ∀ x, p x = true → q x = false)
    (xs : List α) : (xs.countP fun x => p x || q x) = xs.countP p + xs.countP q := by
  induction xs with
  | nil => rfl
  | cons x xs ih =>
    have hx := hpq x
    rw [List.countP_cons, List.countP_cons, List.countP_cons, ih]
    cases hp : p x with
    | false => simp [Nat.add_assoc]
    | true =>
      rw [hx hp]
      simp [Nat.add_right_comm]

/-- The total of a ledger is what it puts on the samples and on the failures. -/
theorem Ledger.total_eq (l : Ledger) (es : List Effect) :
    l.total es = ((Effect.samples es).map fun s => l.sample s.name s.success).sum +
      ((Effect.failures es).map l.failure).sum := by
  induction es with
  | nil => rfl
  | cons e es ih =>
    rw [total_cons, ih]
    cases e with
    | sample s => simp [amount, Effect.samples, Effect.failures, add_assoc]
    | failure kind => simp [amount, Effect.samples, Effect.failures, add_left_comm]
    | message m => simp [amount, Effect.samples, Effect.failures]

namespace Run

variable {plan : Plan} {r : Run} {es : List Effect}

/-- In a run that is over every ledger gives an equation on what was done and recorded. -/
theorem Audited.closing (h : r.Audited plan es) (hover : r.isOver = true) {l : Ledger}
    (hl : l.Balanced) :
    l.iteration * r.outcome.iterations + l.idle * r.outcome.idleChecks +
        (r.calls.map l.call).sum =
      ((Effect.samples es).map fun s => l.sample s.name s.success).sum +
        ((Effect.failures es).map l.failure).sum := by
  have hover : ∀ u ∈ r.users.toList, l.stage u.stage = 0 := by
    intro u hu
    have hu : u.isOver = true :=
      Array.all_eq_true_iff_forall_mem.mp (Bool.and_eq_true_iff.mp hover).2 u
        (Array.mem_toList_iff.mp hu)
    unfold User.isOver at hu
    split at hu
    · rename_i hstage
      rw [hstage, hl.finished]
    · rename_i hstage
      rw [hstage, hl.gone]
    · exact absurd hu (by simp)
  rw [← l.total_eq, ← h.agrees l hl]
  simp only [outcome, calls]
  generalize r.users.toList = users at hover
  induction users with
  | nil => simp
  | cons u users ih =>
    have hrest := ih fun v hv => hover v (List.mem_cons_of_mem u hv)
    have hu := hover u List.mem_cons_self
    simp only [List.map_cons, List.sum_cons, List.flatMap_cons, List.map_append, List.sum_append,
      List.map_reverse, List.sum_reverse, Ledger.balance, hu, ← hrest]
    push_cast
    ring

/-- A report counts the recorded samples of a class of names. -/
theorem Audited.countWhere_report (h : r.Audited plan es) (p : String → Bool) :
    r.outcome.report.countWhere p = (Effect.samples es).countP fun s => p s.name := by
  change r.aggregator.buckets.sumOver _ p = _
  rw [h.aggregator, Metrics.Aggregator.sumOver_count_recordAll]
  exact Nat.zero_add _

/-- A report counts the failed samples of a class of names. -/
theorem Audited.failuresWhere_report (h : r.Audited plan es) (p : String → Bool) :
    r.outcome.report.failuresWhere p =
      (Effect.samples es).countP fun s => p s.name && !s.success := by
  change r.aggregator.buckets.sumOver _ p = _
  rw [h.aggregator, Metrics.Aggregator.sumOver_failures_recordAll]
  exact Nat.zero_add _

/-- The buckets of a run stand in the order of their names. -/
theorem Audited.ordered (h : r.Audited plan es) : r.aggregator.buckets.Ordered := by
  have hempty : (Metrics.Aggregator.create r.started).buckets.Ordered := List.Pairwise.nil
  rw [h.aggregator]
  exact Metrics.Aggregator.ordered_recordAll hempty _

/-- A report counts the recorded samples of a name. -/
theorem Audited.countOf_report (h : r.Audited plan es) (name : String) :
    r.outcome.report.countOf name = (Effect.samples es).countP fun s => s.name = name := by
  rw [← h.countWhere_report (· = name)]
  exact (h.ordered.sumOver_eq name).symm

/-- A report counts the failed samples of a name. -/
theorem Audited.failuresOf_report (h : r.Audited plan es) (name : String) :
    r.outcome.report.failuresOf name =
      (Effect.samples es).countP fun s => s.name = name && !s.success := by
  rw [← h.failuresWhere_report (· = name)]
  exact (h.ordered.sumOver_eq name).symm

/-- A report counts the samples of a class of names that are no failures. -/
theorem Audited.successesWhere_report (h : r.Audited plan es) (p : String → Bool) :
    r.outcome.report.successesWhere p =
      (Effect.samples es).countP fun s => p s.name && s.success := by
  have hnone : ∀ b ∈ (Metrics.Aggregator.create r.started).buckets,
      b.2.failures ≤ b.2.histogram.count := fun b hb => absurd hb List.not_mem_nil
  have hle := Metrics.Aggregator.failures_le_count_recordAll hnone (Effect.samples es)
  rw [← h.aggregator] at hle
  have hsub := Metrics.Buckets.sumOver_sub (f := fun b => b.histogram.count)
    (g := fun b => b.failures) p hle
  have hsplit : ((Effect.samples es).countP fun s => p s.name) =
      ((Effect.samples es).countP fun s => p s.name && s.success) +
        (Effect.samples es).countP fun s => p s.name && !s.success := by
    rw [← countP_or (by intro s; cases s.success <;> simp)]
    refine congrArg (List.countP · _) (funext fun s => ?_)
    cases p s.name <;> cases s.success <;> rfl
  have hcount := h.countWhere_report p
  have hfailures := h.failuresWhere_report p
  change r.aggregator.buckets.sumOver _ p = _ at hcount hfailures ⊢
  omega

/-- A tally counts the recorded failures of a kind. -/
theorem Audited.of_tally (h : r.Audited plan es) (kind : Metrics.FailureKind) :
    r.outcome.tally.of kind = (Effect.failures es).countP (· = kind) := by
  change r.tally.of kind = _
  rw [h.tally, Metrics.Tally.of_recordAll]
  cases kind <;> exact Nat.zero_add _

/-- Two users, each for one iteration. -/
def pairPlan : Plan where
  users := 2
  rate := 1.0
  duration := .ofSeconds 1
  spawnRate := 2
  spawnInterval := .ofSeconds 1
  poll := .standard
  mix := ([(.execute, 1)] : Weights)
  commands := [⟨"ls", [], .ofSeconds 5⟩]
  seed := none

/-- The submission of one user is not answered; the task of the other one runs and fails. -/
def pairEvents : List (Nat × Event) :=
  let body (text : String) : Answer := .body (Text.bytesOf text)
  [(0, .release), (0, .start 0), (0, .start 1),
    (3000000, .answer 0 (body "\x7b\"task_id\": \"a\"\x7d")),
    (4000000, .answer 1 .unreachable),
    (6000000, .answer 0 (body "\x7b\"status\": \"RUNNING\"\x7d")),
    (506000000, .wake 0),
    (508000000, .answer 0 (body "\x7b\"status\": \"FAILED\"\x7d"))]

/-- The run of the two users begins. -/
theorem begin_pairPlan : begin pairPlan 0 = .ok (ofPlan pairPlan 0 1000000000 .numbered) := by
  have hvalid : pairPlan.validate = .ok () := by decide +kernel
  have hdeadline : pairPlan.deadline? 0 = some 1000000000 := by decide +kernel
  exact begin_eq_ok.mpr ⟨hvalid, _, hdeadline, rfl⟩

/-- Each of the two users does its iteration and stops. -/
theorem replay_pairEvents : ∃ r₀ r, begin pairPlan 0 = .ok r₀ ∧
    replay pairEvents r₀ = some r ∧ r.isOver = true ∧ r.outcome.iterations = 2 := by
  have hend : (replay pairEvents (ofPlan pairPlan 0 1000000000 .numbered)).any
      (fun r => r.isOver && r.outcome.iterations == 2) = true := by
    decide +kernel
  obtain ⟨r, hreplay, hr⟩ := (Option.any_eq_true _ _).mp hend
  obtain ⟨hover, htwo⟩ := Bool.and_eq_true_iff.mp hr
  exact ⟨_, r, begin_pairPlan, hreplay, hover, eq_of_beq htwo⟩

end Run

end GatewayProbe.Load
