import Mathlib.Tactic.Common
import Mathlib.Tactic.SplitIfs
import GatewayProbe.Load.User
import GatewayProbe.Proofs.Gateway.Polling

/-!
# The steps of a virtual user

A user changes in six ways: it is released, goes away, goes on with an answer, makes the
next query of a poll, begins the next iteration, or stops. Each way is possible in one
stage only. What the beginning and the end of an iteration make of a user is said once
here, and every property of users is proved along these cases.
-/

namespace GatewayProbe.Load

open GatewayProbe.Gateway

namespace User

/-- The steps of a user at a moment of a run, with what they add to the records. -/
inductive Step (plan : Plan) (deadline : Nat) (stopped : Bool) (now : Nat) :
    User → User → List Effect → Prop where
  | start {u : User} (hu : u.stage = .waiting) :
    Step plan deadline stopped now u (u.start plan deadline stopped now) []
  | leave {u : User} (hu : u.stage = .waiting) (hclosing : stopped ∨ deadline ≤ now) :
    Step plan deadline stopped now u { u with stage := .gone } []
  | answer {u : User} {purpose : Purpose} {sent : Nat} (hu : u.stage = .calling purpose sent)
    (answer : Answer) :
    Step plan deadline stopped now u (u.receiveFor plan deadline now sent answer purpose).1
      (u.receiveFor plan deadline now sent answer purpose).2
  | query {u : User} {work : Work} {due : Nat} (hu : u.stage = .resting work due)
    (hdue : due ≤ now) : Step plan deadline stopped now u (u.ask now (.query work)) []
  | iterate {u : User} {due : Nat} (hu : u.stage = .pacing due) (hdue : due ≤ now) :
    Step plan deadline stopped now u (u.beginIteration plan deadline stopped now) []
  | stop {u : User} {due : Nat} (hu : u.stage = .pacing due) (hstopped : stopped) :
    Step plan deadline stopped now u u.finish []

variable {plan : Plan} {deadline now : Nat} {stopped : Bool}

private theorem awaitSlot_eq (deadline now : Nat) (u : User) (slot : Option Nat) :
    ∃ stage, (stage = .finished ∨ ∃ due, stage = .pacing due) ∧
      u.awaitSlot deadline now slot = { u with stage } := by
  cases slot with
  | none => exact ⟨.finished, Or.inl rfl, rfl⟩
  | some slot =>
    by_cases hlate : deadline ≤ slot
    · refine ⟨.finished, Or.inl rfl, ?_⟩
      rw [awaitSlot, if_pos hlate, finish]
    · refine ⟨.pacing (max now (Clock.wake slot)), Or.inr ⟨_, rfl⟩, ?_⟩
      rw [awaitSlot, if_neg hlate]

/-- At the end of an iteration, which is noted, only the count of iterations and the stage
change: the user stops or waits for its next slot. -/
theorem endIteration_eq (plan : Plan) (deadline now : Nat) (u : User) :
    ∃ stage, (stage = .finished ∨ ∃ due, stage = .pacing due) ∧
      u.endIteration plan deadline now =
        { u.note now .ended with iterations := u.iterations + 1, stage } :=
  awaitSlot_eq deadline now { u.note now .ended with iterations := u.iterations + 1 }
    (slot? u.startedAt plan.rate (u.iterations + 1))

/-- A user that executes a command submits the one of the plan that it draws. -/
theorem beginExecute_eq (hc : plan.commands ≠ []) (deadline now : Nat) (u : User) :
    let drawn := Random.drawIndex plan.commands.length u.stream
    ∃ command, plan.commands[drawn.1]? = some command ∧
      u.beginExecute plan deadline now =
        ({ u with stream := drawn.2 }.note now (.iteration (.execute drawn.1))).ask now
          (.submission command) := by
  intro drawn
  have hlt : drawn.1 < plan.commands.length :=
    Random.drawBelow_lt (List.length_pos_iff.mpr hc) _ _ _
  have hcommand := List.getElem?_eq_getElem hlt
  refine ⟨_, hcommand, ?_⟩
  unfold beginExecute
  simp only [drawn, hcommand]

/-- A user that looks at a task has no task yet and is done at once, or asks for the one that
it draws from those it has seen. -/
theorem beginStatus_eq (plan : Plan) (deadline now : Nat) (u : User) :
    (u.seen = #[] ∧ u.beginStatus plan deadline now =
      { u.note now (.iteration .idle) with idleChecks := u.idleChecks + 1 }.endIteration
        plan deadline now) ∨
    (u.seen ≠ #[] ∧
      let drawn := Random.drawIndex u.seen.size u.stream
      ∃ taskId, u.seen[drawn.1]? = some taskId ∧
        u.beginStatus plan deadline now =
          ({ u with stream := drawn.2 }.note now (.iteration (.status drawn.1))).ask now
            (.statusCheck taskId)) := by
  unfold beginStatus
  split
  · rename_i hempty
    exact Or.inl ⟨Array.isEmpty_iff.mp hempty, rfl⟩
  · rename_i hempty
    have hseen : u.seen ≠ #[] := fun h => hempty (Array.isEmpty_iff.mpr h)
    have hlt : (Random.drawIndex u.seen.size u.stream).1 < u.seen.size :=
      Random.drawBelow_lt (Array.size_pos_iff.mpr hseen) _ _ _
    have hid := Array.getElem?_eq_getElem hlt
    refine Or.inr ⟨hseen, _, hid, ?_⟩
    simp only [hid]

/-- The permits that a user holds. -/
def permits (u : User) : Nat :=
  match u.stage with
  | .waiting | .gone | .finished => 0
  | _ => 1

/-- A user that has started holds a permit until it stops. -/
theorem permits_eq (u : User) (h : u.hasStarted = true) :
    u.permits = if u.stage = .finished then 0 else 1 := by
  unfold hasStarted at h
  unfold permits
  cases hstage : u.stage <;> simp_all

/-- An iteration that comes to its end was begun by a user that has started. -/
theorem hasStarted_endIteration (plan : Plan) (deadline now : Nat) (u : User) :
    (u.endIteration plan deadline now).hasStarted = true := by
  obtain ⟨stage, rfl | ⟨due, rfl⟩, heq⟩ := endIteration_eq plan deadline now u
  · rw [heq, hasStarted]
  · rw [heq, hasStarted]

/-- A user that begins an iteration, or cannot begin one any more, has started. -/
theorem hasStarted_beginIteration (plan : Plan) (deadline : Nat) (stopped : Bool) (u : User)
    (now : Nat) : (u.beginIteration plan deadline stopped now).hasStarted = true := by
  unfold beginIteration
  split
  · rfl
  · generalize plan.mix.pick u.stream = picked
    obtain ⟨kind, stream⟩ := picked
    cases kind with
    | health => rfl
    | execute =>
      simp only [beginKind, beginExecute]
      split
      · exact hasStarted_endIteration ..
      · rfl
    | status =>
      simp only [beginKind, beginStatus]
      split_ifs
      · exact hasStarted_endIteration ..
      · split
        · exact hasStarted_endIteration ..
        · rfl

/-- A user that is released has started. -/
theorem hasStarted_start (plan : Plan) (deadline : Nat) (stopped : Bool) (u : User) (now : Nat) :
    (u.start plan deadline stopped now).hasStarted = true :=
  hasStarted_beginIteration plan deadline stopped _ now

/-- A poll asks for one task only. -/
theorem taskId_of_receive {settings : PollSettings} {p next : Poll}
    {outcome : Except Fault TaskInfo} {length : Duration}
    (h : p.receive settings now outcome = .sleep length next) :
    next.taskId = p.taskId := by
  cases outcome with
  | error f => exact absurd h (by simp [Poll.receive])
  | ok info => exact Poll.taskId_of_observe h

/-- What a user has become that has just got an answer. -/
inductive Received (plan : Plan) (deadline now sent : Nat) (u : User) (answer : Answer) :
    Purpose → User → Prop where
  | ended {purpose : Purpose} (hnone : ∀ command, purpose = .submission command →
      (answer.taskId (Clock.since sent now)).isOk = false) :
    Received plan deadline now sent u answer purpose (u.endIteration plan deadline now)
  | accepted {command : Command} {taskId : String}
    (hid : answer.taskId (Clock.since sent now) = .ok taskId) :
    Received plan deadline now sent u answer (.submission command)
      (({ u with seen := u.seen.push taskId }.note now (.accepted taskId)).ask now
        (.query ⟨command.program, sent, .begin taskId now⟩))
  | rested {work : Work} {poll : Poll} {due : Nat} (hid : poll.taskId = work.poll.taskId) :
    Received plan deadline now sent u answer (.query work)
      { u with stage := .resting { work with poll } due }

/-- An answer ends the iteration, unless it accepts a submission or a poll goes on after it. -/
theorem received_receiveFor (u : User) (sent : Nat) (answer : Answer) (purpose : Purpose) :
    Received plan deadline now sent u answer purpose
      (u.receiveFor plan deadline now sent answer purpose).1 := by
  cases purpose with
  | health => exact .ended (by simp)
  | statusCheck taskId => exact .ended (by simp)
  | submission command =>
    change Received _ _ _ _ _ _ _ (u.receiveTaskId plan deadline now sent command.program _)
    cases hid : answer.taskId (Clock.since sent now) with
    | error f => exact .ended fun _ _ => by rw [hid]; rfl
    | ok taskId => exact .accepted hid
  | query work =>
    change Received _ _ _ _ _ _ _ (u.receiveInfo plan deadline now work _).1
    unfold receiveInfo
    split
    · exact .ended (by simp)
    · exact .ended (by simp)
    · rename_i hnext
      exact .rested (taskId_of_receive hnext)

/-- A user that gets an answer has started. -/
theorem hasStarted_receiveFor (plan : Plan) (deadline now sent : Nat) (u : User)
    (answer : Answer) (purpose : Purpose) :
    (u.receiveFor plan deadline now sent answer purpose).1.hasStarted = true := by
  have hreceived : Received plan deadline now sent u answer purpose _ :=
    received_receiveFor u sent answer purpose
  generalize (u.receiveFor plan deadline now sent answer purpose).1 = u' at hreceived
  cases hreceived with
  | ended => exact hasStarted_endIteration ..
  | accepted => rfl
  | rested => rfl

/-- What a user has become that has just begun, or not begun, an iteration. -/
inductive Begun (plan : Plan) (deadline : Nat) (stopped : Bool) (now : Nat) (u : User) :
    User → Prop where
  | ended (h : deadline ≤ now ∨ stopped) : Begun plan deadline stopped now u u.finish
  | health (stream : Random.Stream) (hopen : now < deadline ∧ stopped = false) :
    Begun plan deadline stopped now u
      (({ u with stream }.note now (.iteration .health)).ask now .health)
  | execute (stream : Random.Stream) (hopen : now < deadline ∧ stopped = false) {place : Nat}
    {command : Command} (hcommand : plan.commands[place]? = some command) :
    Begun plan deadline stopped now u
      (({ u with stream }.note now (.iteration (.execute place))).ask now (.submission command))
  | idle (stream : Random.Stream) (hopen : now < deadline ∧ stopped = false)
    (hseen : u.seen = #[]) :
    Begun plan deadline stopped now u
      ({ { u with stream }.note now (.iteration .idle) with
          idleChecks := u.idleChecks + 1 }.endIteration plan deadline now)
  | status (stream : Random.Stream) (hopen : now < deadline ∧ stopped = false) {place : Nat}
    {taskId : String} (hid : u.seen[place]? = some taskId) :
    Begun plan deadline stopped now u
      (({ u with stream }.note now (.iteration (.status place))).ask now (.statusCheck taskId))

/-- A user that may go on begins an iteration of one of the kinds; the draws always give a
command of the plan and a task that was seen. -/
theorem begun_beginIteration (hc : plan.commands ≠ []) (u : User) :
    Begun plan deadline stopped now u (u.beginIteration plan deadline stopped now) := by
  unfold beginIteration
  split
  · rename_i hover
    exact .ended (by simpa using hover)
  · rename_i hopen
    have hopen : now < deadline ∧ stopped = false := by simpa using hopen
    generalize plan.mix.pick u.stream = picked
    obtain ⟨kind, stream⟩ := picked
    cases kind with
    | health => exact .health stream hopen
    | execute =>
      obtain ⟨command, hcommand, heq⟩ := beginExecute_eq hc deadline now { u with stream }
      simp only [beginKind, heq]
      exact .execute _ hopen hcommand
    | status =>
      rcases beginStatus_eq plan deadline now { u with stream } with
        ⟨hseen, heq⟩ | ⟨-, taskId, hid, heq⟩
      · simp only [beginKind, heq]
        exact .idle stream hopen hseen
      · simp only [beginKind, heq]
        exact .status _ hopen hid

end User

end GatewayProbe.Load
