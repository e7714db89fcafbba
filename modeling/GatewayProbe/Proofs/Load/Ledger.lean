import Mathlib.Algebra.BigOperators.Group.List.Basic
import Mathlib.Tactic.LinearCombination
import Mathlib.Tactic.Ring
import GatewayProbe.Proofs.Gateway.Faults
import GatewayProbe.Proofs.Load.Replay

/-!
# Ledgers of a load run

A ledger puts a value on what a user has done and on where it stands, and an amount on
every sample and failure. It balances when each way of going on moves as much value as it
records; there are few ways, and each gives one equation. A ledger that balances agrees,
at every moment of every run, with all that was recorded.
-/

namespace GatewayProbe.Load

open GatewayProbe.Gateway

/-- The name under which the call for a purpose is measured. -/
def Purpose.name : Purpose → String
  | .health => Endpoint.health.name
  | .submission command => executeName command.program
  | .statusCheck _ => Endpoint.status.name
  | .query _ => pollName

/-- A purpose for which the first call of an iteration is made. -/
def Purpose.Opens : Purpose → Prop
  | .query _ => False
  | _ => True

/-- A purpose whose call, when it succeeds, ends the iteration. -/
def Purpose.Closes : Purpose → Prop
  | .health | .statusCheck _ => True
  | _ => False

/-- A call either opens an iteration or is a query of a poll. -/
theorem Purpose.opens_or_query (p : Purpose) : p.Opens ∨ ∃ work, p = .query work := by
  cases p with
  | query work => exact Or.inr ⟨work, rfl⟩
  | health | submission _ | statusCheck _ => exact Or.inl trivial

/-- A call whose success ends an iteration has opened it. -/
theorem Purpose.Closes.opens {p : Purpose} (h : p.Closes) : p.Opens := by
  cases p with
  | health | statusCheck _ => trivial
  | submission _ | query _ => exact h.elim

/-- The values of a ledger. -/
structure Ledger where
  /-- The value of an iteration that has ended. -/
  iteration : ℤ
  /-- The value of a look at a task when there is none. -/
  idle : ℤ
  stage : Stage → ℤ
  call : Call → ℤ
  /-- The amount of a sample by its name and success. -/
  sample : String → Bool → ℤ
  failure : Metrics.FailureKind → ℤ

namespace Ledger

/-- The value of all that a user has done and of where it stands. -/
def balance (l : Ledger) (u : User) : ℤ :=
  l.iteration * u.iterations + l.idle * u.idleChecks + l.stage u.stage + (u.calls.map l.call).sum

/-- The amount of an effect. -/
def amount (l : Ledger) : Effect → ℤ
  | .sample s => l.sample s.name s.success
  | .failure kind => l.failure kind
  | .message _ => 0

/-- The amount of all effects together. -/
def total (l : Ledger) (es : List Effect) : ℤ := (es.map l.amount).sum

/-- Each way in which a user can go on moves as much value as it records. -/
structure Balanced (l : Ledger) : Prop where
  waiting : l.stage .waiting = 0
  gone : l.stage .gone = 0
  finished : l.stage .finished = 0
  pacing : ∀ due, l.stage (.pacing due) = 0
  idle : l.iteration + l.idle = 0
  opens : ∀ p sent, p.Opens → l.call p.call + l.stage (.calling p sent) = 0
  closes : ∀ p sent, p.Closes → l.stage (.calling p sent) + l.sample p.name true = l.iteration
  accepted : ∀ command work sent due,
    l.stage (.calling (.submission command) sent) + l.sample (executeName command.program) true =
      l.stage (.resting work due)
  queried : ∀ work sent due,
    l.call (Purpose.query work).call + l.stage (.calling (.query work) sent) =
      l.stage (.resting work due)
  rested : ∀ work next sent due,
    l.stage (.calling (.query work) sent) + l.sample pollName true = l.stage (.resting next due)
  failed : ∀ p sent f, f.OfCall → l.stage (.calling p sent) + l.sample p.name false +
    l.failure (.ofFault f) = l.iteration
  timedOut : ∀ work sent, l.stage (.calling (.query work) sent) + l.sample pollName true +
    l.failure .pollTimeout = l.iteration
  completed : ∀ work sent, l.stage (.calling (.query work) sent) + l.sample pollName true +
    l.sample completionName true = l.iteration
  taskFailed : ∀ work sent, l.stage (.calling (.query work) sent) + l.sample pollName true +
    l.sample completionName false + l.failure .taskFailed = l.iteration

variable {l : Ledger}

@[simp] theorem total_nil (l : Ledger) : l.total [] = 0 := rfl

@[simp] theorem total_cons (l : Ledger) (e : Effect) (es : List Effect) :
    l.total (e :: es) = l.amount e + l.total es := rfl

/-- The effects of two steps are counted together. -/
theorem total_append (l : Ledger) (es fs : List Effect) :
    l.total (es ++ fs) = l.total es + l.total fs := by
  rw [total, List.map_append, List.sum_append, total, total]

/-- A call adds its value, and the user stands where it waits for the answer. -/
theorem balance_ask (l : Ledger) (u : User) (now : Nat) (p : Purpose) :
    l.balance (u.ask now p) =
      l.balance u - l.stage u.stage + (l.call p.call + l.stage (.calling p now)) := by
  simp only [balance, User.ask, User.note, User.calls, List.filterMap_cons, List.map_cons,
    List.sum_cons]
  ring

/-- A user that only changes its place moves the difference of the two. -/
theorem balance_stage (l : Ledger) (u : User) (stage : Stage) :
    l.balance { u with stage } = l.balance u - l.stage u.stage + l.stage stage := by
  have hcalls : User.calls { u with stage } = u.calls := rfl
  rw [balance, balance, hcalls]
  ring

/-- A user that stops leaves its place. -/
theorem balance_finish (h : l.Balanced) (u : User) :
    l.balance u.finish = l.balance u - l.stage u.stage := by
  rw [User.finish, balance_stage, h.finished, add_zero]

/-- The end of an iteration adds its value, and the user leaves its place. -/
theorem balance_endIteration (h : l.Balanced) (plan : Plan) (deadline now : Nat) (u : User) :
    l.balance (u.endIteration plan deadline now) =
      l.balance u - l.stage u.stage + l.iteration := by
  obtain ⟨stage, hstage, heq⟩ := User.endIteration_eq plan deadline now u
  have hzero : l.stage stage = 0 := by
    rcases hstage with rfl | ⟨due, rfl⟩
    · exact h.finished
    · exact h.pacing due
  have hcalls : User.calls { u.note now .ended with iterations := u.iterations + 1, stage } =
      u.calls := rfl
  rw [heq, balance, balance, hcalls]
  simp only [hzero, User.note]
  push_cast
  ring

/-- To begin an iteration moves no value but that of the place which the user leaves. -/
theorem balance_begun (h : l.Balanced) {plan : Plan} {deadline now : Nat} {stopped : Bool}
    {u u' : User} (hb : User.Begun plan deadline stopped now u u') :
    l.balance u' = l.balance u - l.stage u.stage := by
  cases hb with
  | ended => exact balance_finish h u
  | health stream =>
    rw [balance_ask, h.opens .health now trivial]
    exact add_zero _
  | execute stream _ hcommand =>
    rw [balance_ask, h.opens (.submission _) now trivial]
    exact add_zero _
  | idle stream =>
    -- the iteration ends at once, so its value has to be that of the look at no task
    have hcalls : User.calls { User.note { u with stream } now (.iteration .idle) with
        idleChecks := u.idleChecks + 1 } = u.calls := rfl
    rw [balance_endIteration h, balance, balance, hcalls]
    simp only [User.note]
    push_cast
    linear_combination h.idle
  | status stream _ hid =>
    rw [balance_ask, h.opens (.statusCheck _) now trivial]
    exact add_zero _

/-- What a fault adds. -/
theorem total_faultEffects (l : Ledger) (f : Fault) :
    l.total (User.faultEffects f) = l.failure (.ofFault f) := by
  simp only [User.faultEffects, total_cons, total_nil, amount, add_zero]

/-- What a failed call adds ends the iteration. -/
theorem total_callEffects_error {α : Type} (h : l.Balanced) (p : Purpose) (sent : Nat)
    (elapsed : Duration) {f : Fault} (hf : f.OfCall) :
    l.stage (.calling p sent) +
      l.total (User.callEffects p.name elapsed (.error f : Except Fault α)) = l.iteration := by
  rw [User.callEffects, total_cons, total_faultEffects, ← add_assoc]
  exact h.failed p sent f hf

/-- What a call adds that closes an iteration ends it, whatever comes back. -/
theorem total_callEffects_closes {α : Type} (h : l.Balanced) {p : Purpose} (hp : p.Closes)
    (sent : Nat) (elapsed : Duration) (outcome : Except Fault α)
    (hf : ∀ f, outcome = .error f → f.OfCall) :
    l.stage (.calling p sent) + l.total (User.callEffects p.name elapsed outcome) =
      l.iteration := by
  cases outcome with
  | error f => exact total_callEffects_error h p sent elapsed (hf f rfl)
  | ok value =>
    rw [User.callEffects, total_cons, total_nil, add_zero]
    exact h.closes p sent hp

/-- A query adds its sample; a warning is worth nothing. -/
theorem total_queryEffects (l : Ledger) (work : Work) (elapsed : Duration)
    (outcome : Except Fault TaskInfo) :
    l.total (User.queryEffects work elapsed outcome) = l.sample pollName outcome.isOk := by
  rw [User.queryEffects, total_cons]
  cases work.poll.backwards? outcome <;> exact add_zero _

/-- A task whose end was seen ends the iteration. -/
theorem total_completionEffects (h : l.Balanced) (work : Work) (sent now : Nat)
    (status : TaskStatus) :
    l.stage (.calling (.query work) sent) + l.sample pollName true +
      l.total (User.completionEffects work now status) = l.iteration := by
  unfold User.completionEffects
  simp only
  split
  · rw [total_cons, total_nil, add_zero]
    exact h.completed work sent
  · rw [total_cons, total_cons, total_cons, total_nil]
    rw [← h.taskFailed work sent]
    simp only [amount, Metrics.Sample.ofDuration]
    ring

/-- The answer to a submission moves as much value as it records. -/
private theorem balance_receiveTaskId (h : l.Balanced) (plan : Plan) (deadline now : Nat)
    {u : User} {command : Command} {sent : Nat}
    (hu : u.stage = .calling (.submission command) sent) (elapsed : Duration)
    (outcome : Except Fault String) (hf : ∀ f, outcome = .error f → f.OfCall) :
    l.balance (u.receiveTaskId plan deadline now sent command.program outcome) =
      l.balance u + l.total (User.callEffects (executeName command.program) elapsed outcome) := by
  cases outcome with
  | error f =>
    have htotal : l.stage (.calling (.submission command) sent) +
        l.total (User.callEffects (executeName command.program) elapsed
          (.error f : Except Fault String)) = l.iteration :=
      total_callEffects_error h (.submission command) sent elapsed (hf f rfl)
    rw [User.receiveTaskId, balance_endIteration h, hu]
    linear_combination -htotal
  | ok taskId =>
    let work : Work := ⟨command.program, sent, .begin taskId now⟩
    have hquery := h.queried work now now
    have haccepted := h.accepted command work sent now
    have hbalance : l.balance ({ u with seen := u.seen.push taskId }.note now
        (.accepted taskId)) = l.balance u := rfl
    rw [User.receiveTaskId, balance_ask, hbalance]
    simp only [User.callEffects, total_cons, total_nil, amount, Metrics.Sample.ofDuration]
    change l.balance u - l.stage u.stage + _ = _
    rw [hu]
    linear_combination hquery - haccepted

/-- The answer to a query of a poll moves as much value as it records. -/
private theorem balance_receiveInfo (h : l.Balanced) (plan : Plan) (deadline now : Nat)
    {u : User} {work : Work} {sent : Nat} (hu : u.stage = .calling (.query work) sent)
    (elapsed : Duration) (outcome : Except Fault TaskInfo)
    (hf : ∀ f, outcome = .error f → f.OfCall) :
    l.balance (u.receiveInfo plan deadline now work outcome).1 =
      l.balance u + l.total (User.queryEffects work elapsed outcome ++
        (u.receiveInfo plan deadline now work outcome).2) := by
  rw [total_append, total_queryEffects]
  cases outcome with
  | error f =>
    have hfailed := h.failed (.query work) sent f (hf f rfl)
    simp only [User.receiveInfo, Poll.receive]
    rw [balance_endIteration h, total_faultEffects, hu]
    change _ = _ + (l.sample pollName false + _)
    change _ + l.sample pollName false + _ = _ at hfailed
    linear_combination -hfailed
  | ok info =>
    change _ = _ + (l.sample pollName true + _)
    simp only [User.receiveInfo, Poll.receive, Poll.observe]
    split_ifs with hterminal hspent
    · have hended := total_completionEffects h work sent now info.status
      simp only
      rw [balance_endIteration h, hu]
      linear_combination -hended
    · have htimedOut := h.timedOut work sent
      simp only
      rw [balance_endIteration h, total_faultEffects, hu]
      change _ = _ + (_ + l.failure .pollTimeout)
      linear_combination -htimedOut
    · have hrested := fun next due => h.rested work next sent due
      simp only
      rw [balance_stage, total_nil, hu, add_zero, ← hrested]
      ring

/-- A step of a user moves as much value as it records. -/
theorem Balanced.step (h : l.Balanced) {plan : Plan} (hc : plan.commands ≠ [])
    {deadline now : Nat} {stopped : Bool} {u u' : User} {es : List Effect}
    (hs : User.Step plan deadline stopped now u u' es) :
    l.balance u' = l.balance u + l.total es := by
  cases hs with
  | start hu =>
    have hbalance : l.balance ({ u with startedAt := now }.note now .start) = l.balance u := rfl
    have hstage : ({ u with startedAt := now }.note now .start).stage = .waiting := hu
    rw [User.start, balance_begun h (User.begun_beginIteration hc _), hbalance, hstage,
      h.waiting, total_nil]
    ring
  | leave hu =>
    rw [balance_stage, hu, h.waiting, h.gone, total_nil]
    ring
  | @answer p sent hu a =>
    cases p with
    | health =>
      have hclosed := total_callEffects_closes h (p := .health) trivial sent
        (Clock.since sent now) (a.health (Clock.since sent now)) fun _ => ofCall_health
      rw [User.receiveFor, balance_endIteration h, hu]
      change _ = _ + l.total (User.callEffects Purpose.health.name _ _)
      linear_combination -hclosed
    | submission command =>
      exact balance_receiveTaskId h plan deadline now hu (Clock.since sent now)
        (a.taskId (Clock.since sent now)) fun _ => ofCall_taskId
    | statusCheck taskId =>
      have hclosed := total_callEffects_closes h (p := .statusCheck taskId) trivial sent
        (Clock.since sent now) (a.taskInfo taskId (Clock.since sent now)) fun _ => ofCall_taskInfo
      rw [User.receiveFor, balance_endIteration h, hu]
      change _ = _ + l.total (User.callEffects (Purpose.statusCheck taskId).name _ _)
      linear_combination -hclosed
    | query work =>
      exact balance_receiveInfo h plan deadline now hu (Clock.since sent now)
        (a.taskInfo work.poll.taskId (Clock.since sent now)) fun _ => ofCall_taskInfo
  | @query work due hu _ =>
    rw [balance_ask, h.queried work now due, hu, total_nil]
    ring
  | iterate hu =>
    rw [balance_begun h (User.begun_beginIteration hc _), hu, h.pacing, total_nil]
    ring
  | stop hu =>
    rw [balance_finish h, hu, h.pacing, total_nil]
    ring

end Ledger

end GatewayProbe.Load
