import GatewayProbe.Proofs.Load.Ledger

/-!
# Runs and their books

All that a run has recorded is what a list of effects makes of empty records, and every
ledger that balances agrees with that list. Both hold before the first event and each
event keeps them, so they hold of every run, in whatever order its events come.
-/

namespace GatewayProbe.Load

namespace Run

/-- A run of a plan that has recorded some effects and agrees with every ledger. -/
structure Audited (plan : Plan) (r : Run) (es : List Effect) : Prop where
  plan : r.plan = plan
  aggregator : r.aggregator = (Metrics.Aggregator.create r.started).recordAll (Effect.samples es)
  tally : r.tally = ({} : Metrics.Tally).recordAll (Effect.failures es)
  agrees : ∀ l : Ledger, l.Balanced → (r.users.toList.map l.balance).sum = l.total es

/-- A plan is accepted when it has something to do, users, a rate, and times that are not
empty. -/
theorem validate_eq_ok {p : Plan} : p.validate = .ok () ↔
    p.commands ≠ [] ∧ isRate p.rate = true ∧ (p.users ≠ 0 ∧ p.spawnRate ≠ 0) ∧
      (p.duration.isZero = false ∧ p.spawnInterval.isZero = false) := by
  unfold Plan.validate
  split_ifs with hcommands hrate hcount hzero
  · simp_all
  · simp_all
  · simp only [false_iff]
    rintro ⟨_, _, ⟨husers, hspawn⟩, _⟩
    exact hcount.elim husers hspawn
  · simp only [false_iff]
    rintro ⟨_, _, _, hduration, hinterval⟩
    simp [hduration, hinterval] at hzero
  · simp_all

/-- A run begins with an accepted plan that ends at some moment. -/
theorem begin_eq_ok {plan : Plan} {started : Nat} {entropy : Nat → Random.Stream} {r : Run} :
    begin plan started entropy = .ok r ↔ plan.validate = .ok () ∧
      ∃ deadline, plan.deadline? started = some deadline ∧
        r = ofPlan plan started deadline entropy := by
  unfold begin
  cases hvalid : plan.validate with
  | error invalid => simp [bind, Except.bind]
  | ok _ =>
    cases hdeadline : plan.deadline? started with
    | none => simp [bind, Except.bind]
    | some deadline => simp [bind, Except.bind, eq_comm]

/-- A run begins without a record, and a new user is worth nothing. -/
theorem audited_ofPlan (plan : Plan) (started deadline : Nat)
    (entropy : Nat → Random.Stream) :
    (ofPlan plan started deadline entropy).Audited plan [] := by
  refine ⟨rfl, rfl, rfl, fun l hl => ?_⟩
  have hfresh : ∀ stream, l.balance { stream } = 0 := by
    intro stream
    simp [Ledger.balance, hl.waiting, User.calls]
  simp [ofPlan, hfresh, Function.comp_def, Ledger.total]

/-- A change of one user changes the sum over all users by what it changes for this one. -/
theorem sum_set {users : Array User} {user : Nat} {u : User}
    (hu : users[user]? = some u) (u' : User) (value : User → ℤ) :
    ((users.setIfInBounds user u').toList.map value).sum =
      (users.toList.map value).sum + (value u' - value u) := by
  obtain ⟨hlt, rfl⟩ := Array.getElem?_eq_some_iff.mp hu
  rw [Array.toList_setIfInBounds, List.map_set, List.sum_set']
  simp [hlt]
  ring

/-- An event that happens adds what it records to the books, and every ledger still agrees. -/
theorem Audited.happen {plan : Plan} {r r' : Run} {es : List Effect} (h : r.Audited plan es)
    (hc : plan.commands ≠ []) {e : Event} (hhappen : r.happen e = some r') :
    ∃ fs, r'.Audited plan (es ++ fs) := by
  obtain ⟨hframe, hrest | ⟨user, u, u', fs, hmove⟩⟩ := happen_cases hhappen
  · refine ⟨[], hframe.plan.trans h.plan, ?_, ?_, fun l hl => ?_⟩
    · rw [hrest.aggregator, hframe.started, List.append_nil]
      exact h.aggregator
    · rw [hrest.tally, List.append_nil]
      exact h.tally
    · rw [hrest.users, List.append_nil]
      exact h.agrees l hl
  · refine ⟨fs, hframe.plan.trans h.plan, ?_, ?_, fun l hl => ?_⟩
    · rw [hmove.aggregator, hframe.started, Effect.samples_append,
        Metrics.Aggregator.recordAll_append, ← h.aggregator]
    · rw [hmove.tally, Effect.failures_append, Metrics.Tally.recordAll_append, ← h.tally]
    · have hvalue := hl.step (h.plan.symm ▸ hc) hmove.step
      rw [hmove.users, sum_set hmove.found, hvalue, Ledger.total_append, ← h.agrees l hl]
      ring

private theorem Audited.replay {plan : Plan} (hc : plan.commands ≠ [])
    {events : List (Nat × Event)} {r r' : Run} {es : List Effect} (h : r.Audited plan es)
    (hreplay : replay events r = some r') : ∃ fs, r'.Audited plan fs := by
  induction events generalizing r es with
  | nil =>
    obtain rfl := Option.some.inj hreplay
    exact ⟨es, h⟩
  | cons event rest ih =>
    obtain ⟨moment, e⟩ := event
    obtain ⟨r₁, hstep, hrest⟩ := Option.bind_eq_some_iff.mp hreplay
    unfold Run.step at hstep
    split_ifs at hstep with hmoment
    have hnow : ({ r with now := moment } : Run).Audited plan es := ⟨h.1, h.2, h.3, h.4⟩
    obtain ⟨fs, h₁⟩ := hnow.happen hc hstep
    exact ih h₁ hrest

/-- The books of a run are in order at every moment of it. -/
theorem audited_replay {plan : Plan} {started : Nat} {entropy : Nat → Random.Stream}
    {events : List (Nat × Event)} {r₀ r : Run} (hbegin : begin plan started entropy = .ok r₀)
    (hreplay : replay events r₀ = some r) :
    ∃ es, r.Audited plan es := by
  obtain ⟨hvalid, deadline, _, rfl⟩ := begin_eq_ok.mp hbegin
  exact (audited_ofPlan plan started deadline entropy).replay (validate_eq_ok.mp hvalid).1 hreplay

end Run

end GatewayProbe.Load
