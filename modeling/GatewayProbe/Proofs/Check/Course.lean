import GatewayProbe.Check.Run
import GatewayProbe.Proofs.Gateway.Exchanges
import GatewayProbe.Proofs.Text.Parts

/-!
# The course of a check

A check goes through its stages in order, and the first one that fails decides what it comes to.
Which calls it makes follows from how far it gets. A shutdown cuts it off at some point of this
course, or comes too late to make a difference.
-/

namespace GatewayProbe.Check

open GatewayProbe.Gateway

variable {σ : Type}

/-- The submission of a check. -/
def Plan.submission (plan : Plan) : Command :=
  ⟨"ls", ["-la", plan.directory], plan.commandTimeout⟩

private theorem listCommand_eq (plan : Plan) :
    listCommand plan.directory plan.commandTimeout = plan.submission := rfl

/-- Whether the output of a task mentions a name. -/
def Mentions (info : TaskInfo) (name : String) : Prop := name.toList <:+: info.stdout.toList

/-- What a check makes of the end of the poll of its task. -/
inductive Verdict (taskId : String) (polled : Except Halt TaskInfo) :
    Except Failure TaskInfo → Prop where
  /-- The poll has failed. -/
  | unsettled {f : Gateway.Fault} (hpolled : polled = .error (.fault f)) :
    Verdict taskId polled (.error (.gateway f))
  /-- The task has ended otherwise than completed. -/
  | notCompleted {info : TaskInfo} (hpolled : polled = .ok info)
    (hstatus : info.status ≠ .completed) :
    Verdict taskId polled (.error (.check (.notCompleted taskId info.status
      (info.result.bind (·.exitCode)) ((info.result.map (·.stderr)).getD ""))))
  /-- The output mentions some of the files, but not the one after them. -/
  | flawed {info : TaskInfo} (hpolled : polled = .ok info) (hstatus : info.status = .completed)
    {before after : List String} {missing : String}
    (hnames : ["file1.txt", "file2.txt", "file3.txt"] = before ++ missing :: after)
    (hbefore : ∀ name ∈ before, Mentions info name) (hmissing : ¬Mentions info missing) :
    Verdict taskId polled (.error (.check (.missingOutput taskId missing)))
  /-- The output mentions all files. -/
  | passed {info : TaskInfo} (hpolled : polled = .ok info) (hstatus : info.status = .completed)
    (hnames : ∀ name ∈ ["file1.txt", "file2.txt", "file3.txt"], Mentions info name)
    (htask : info.taskId = taskId) : Verdict taskId polled (.ok info)

section Courses

variable (service : Service σ) (plan : Plan) (x : Standing σ)

/-- The gateway is healthy. -/
def Healthy : Prop := ∃ status, x.health service = .ok status ∧ isHealthy status = true

/-- What the submission comes to, made after the health check. -/
def submissionAt : Except Gateway.Fault String :=
  (x.ask service .health).2.submission service plan.submission

/-- What the poll of the task comes to, begun after the submission. -/
def pollAt (taskId : String) : Except Halt TaskInfo :=
  ((x.ask service .health).2.ask service (.execute plan.submission)).2.poll service plan.poll taskId

/-- The courses that a check can take with a gateway: the calls in order, and what comes of
them. -/
inductive Course : List Call → Except Failure TaskInfo → Prop where
  /-- The health is not given. -/
  | unreached {f : Gateway.Fault} (hhealth : x.health service = .error f) :
    Course [.health] (.error (.gateway f))
  /-- The gateway is not healthy. -/
  | unhealthy {status : String} (hhealth : x.health service = .ok status)
    (hstatus : isHealthy status = false) :
    Course [.health] (.error (.check (.unhealthy status)))
  /-- The submission is given no task. -/
  | unsubmitted (hhealthy : Healthy service x) {f : Gateway.Fault}
    (hsubmission : submissionAt service plan x = .error f) :
    Course [.health, .execute plan.submission] (.error (.gateway f))
  /-- The task is polled, at least once, and its end is judged. -/
  | polled (hhealthy : Healthy service x) {taskId : String}
    (hsubmission : submissionAt service plan x = .ok taskId) (queries : Nat)
    {result : Except Failure TaskInfo}
    (hverdict : Verdict taskId (pollAt service plan x taskId) result) :
    Course ([.health, .execute plan.submission] ++ List.replicate (queries + 1) (.status taskId))
      result

end Courses

/-- A listing is accepted if the task is completed and its output mentions all files; else the
first reason against it is given. -/
theorem verdict_verify {taskId : String} {info : TaskInfo} (htask : info.taskId = taskId) :
    Verdict taskId (.ok info) (((verify info).mapError .check).map fun _ => info) := by
  subst htask
  unfold verify
  by_cases hstatus : info.status = .completed
  · rw [if_pos hstatus]
    cases hfind : fixtureNames.find? fun name => !Text.holdsText name info.stdout with
    | none =>
      refine .passed rfl hstatus ?_ rfl
      intro name hname
      have hheld := List.find?_eq_none.mp hfind name hname
      exact Text.holdsText_iff.mp (by simpa using hheld)
    | some missing =>
      obtain ⟨hmissing, before, after, hnames, hbefore⟩ := List.find?_eq_some_iff_append.mp hfind
      refine .flawed rfl hstatus hnames ?_ ?_
      · intro name hname
        exact Text.holdsText_iff.mp (by simpa using hbefore name hname)
      · intro hmentions
        rw [Text.holdsText_iff.mpr hmentions] at hmissing
        exact absurd hmissing (by decide)
  · rw [if_neg hstatus]
    exact .notCompleted rfl hstatus

section Stages

variable (service : Service σ) (plan : Plan) {c : Conversation σ}

/-- The last stage asks for its task alone, and judges the end of the poll. -/
theorem verifyTask_eq (hopen : c.shutdown = none) (taskId : String) :
    ∃ queries result c', verifyTask service plan taskId c = (result, c') ∧
      Verdict taskId (c.standing.poll service plan.poll taskId) result ∧
      c'.asked = List.replicate (queries + 1) (.status taskId) ++ c.asked := by
  obtain ⟨outcome, queries, c', hbare, hpoll, hasked, htask⟩ :=
    Conversation.exists_poll_eq service plan.poll hopen taskId
  rw [hbare]
  unfold verifyTask
  rw [hpoll]
  cases outcome with
  | error f => exact ⟨queries, _, c', rfl, .unsettled rfl, hasked⟩
  | ok info => exact ⟨queries, _, c', rfl, verdict_verify (htask info rfl), hasked⟩

/-- After a health check the rest of a check takes its course. -/
theorem listDirectory_course (hopen : c.shutdown = none) {x : Standing σ}
    (hhealthy : Healthy service x) (hstanding : c.standing = (x.ask service .health).2)
    {earlier : List Call} (hasked : c.asked = .health :: earlier) :
    ∃ trace result c', listDirectory service plan c = (result, c') ∧
      Course service plan x trace result ∧ c'.asked = trace.reverse ++ earlier := by
  have hsubmit := Conversation.submit_eq service hopen plan.submission
  have hat : c.standing.submission service plan.submission = submissionAt service plan x := by
    rw [hstanding]
    rfl
  rw [hat] at hsubmit
  unfold listDirectory
  rw [listCommand_eq, hsubmit]
  cases hsubmission : submissionAt service plan x with
  | error f =>
    refine ⟨_, _, _, rfl, .unsubmitted hhealthy hsubmission, ?_⟩
    exact congrArg (Call.execute plan.submission :: ·) hasked
  | ok taskId =>
    let submitted : Conversation σ := (c.exchange service (.execute plan.submission)).tell
      (information ("Submitted task " ++ taskId))
    have hpoll : submitted.standing.poll service plan.poll taskId =
        pollAt service plan x taskId := by
      rw [pollAt, ← hstanding]
      rfl
    obtain ⟨queries, result, c', heq, hverdict, hqueried⟩ :=
      verifyTask_eq service plan (c := submitted) hopen taskId
    rw [hpoll] at hverdict
    refine ⟨_, result, c', heq, .polled hhealthy hsubmission queries hverdict, ?_⟩
    have hsubmitted : submitted.asked = .execute plan.submission :: .health :: earlier :=
      congrArg (Call.execute plan.submission :: ·) hasked
    rw [hqueried, hsubmitted, List.reverse_append, List.reverse_replicate, List.append_assoc]
    rfl

/-- All stages together take the course of the check. -/
theorem examine_course (hopen : c.shutdown = none) :
    ∃ trace, (examine service plan c).2.asked = trace.reverse ++ c.asked ∧
      Course service plan c.standing trace (examine service plan c).1 := by
  obtain ⟨m, hhealth⟩ := Conversation.health_eq service hopen
  unfold examine
  rw [hhealth]
  cases hgiven : c.standing.health service with
  | error f =>
    refine ⟨[.health], ?_, .unreached hgiven⟩
    exact congrArg (List.map Prod.snd) (Conversation.calls_tell? _ m)
  | ok status =>
    let healthy : Conversation σ := (c.exchange service .health).tell? m
    have hasked : healthy.asked = .health :: c.asked :=
      congrArg (List.map Prod.snd) (Conversation.calls_tell? _ m)
    cases hstatus : isHealthy status with
    | false =>
      refine ⟨[.health], ?_, ?_⟩
      · simp only [Except.mapError, hstatus]
        exact hasked
      · simp only [Except.mapError, hstatus]
        exact .unhealthy hgiven hstatus
    | true =>
      have hstanding : healthy.standing = (c.standing.ask service .health).2 :=
        Conversation.standing_tell? _ m
      have hopen' : healthy.shutdown = none := (Conversation.shutdown_tell? _ m).trans hopen
      let passed := healthy.tell (information s!"Health check passed ('{status}')")
      obtain ⟨trace, result, c', hlist, hcourse, hcalls⟩ :=
        listDirectory_course service plan (c := passed) hopen'
          ⟨status, hgiven, hstatus⟩ hstanding hasked
      simp only [Except.mapError, hstatus, if_true]
      rw [hlist]
      exact ⟨trace, hcalls, hcourse⟩

/-- A check that is not cut off takes its course. -/
theorem run_course (hopen : c.shutdown = none) :
    ∃ trace, (run service plan c).2.asked = trace.reverse ++ c.asked ∧
      Course service plan c.standing trace (run service plan c).1 := by
  unfold run
  rw [Conversation.waitUntil_eq hopen]
  exact examine_course service plan hopen

end Stages

section Shutdown

open Conversation (Later Raced onward later_onward raced_onward)

variable (service : Service σ) (plan : Plan)

/-- What the last stage makes of the state in which a task has ended. -/
private def judged (info : TaskInfo) (c : Conversation σ) :
    Except Failure TaskInfo × Conversation σ :=
  (((verify info).mapError .check).map fun _ => info, c)

/-- What the second stage does with its task. -/
private def submitted (handle : Handle) (c : Conversation σ) :
    Except Failure TaskInfo × Conversation σ :=
  verifyTask service plan handle.taskId (c.tell (information ("Submitted task " ++ handle.taskId)))

/-- What a check does once it knows the health of the gateway. -/
private def diagnosed (status : String) (c : Conversation σ) :
    Except Failure TaskInfo × Conversation σ :=
  if isHealthy status then
    listDirectory service plan (c.tell (information s!"Health check passed ('{status}')"))
  else (.error (.check (.unhealthy status)), c)

private theorem verifyTask_eq_onward (taskId : String) (c : Conversation σ) :
    verifyTask service plan taskId c = onward stopped judged (c.poll service plan.poll taskId) := by
  unfold verifyTask
  generalize c.poll service plan.poll taskId = polled
  rcases polled with ⟨halt | info, c'⟩ <;> rfl

private theorem listDirectory_eq_onward (c : Conversation σ) :
    listDirectory service plan c =
      onward stopped (submitted service plan) (c.submit service plan.submission) := by
  unfold listDirectory
  rw [listCommand_eq]
  generalize c.submit service plan.submission = asked
  rcases asked with ⟨halt | handle, c'⟩ <;> rfl

private theorem examine_eq_onward (c : Conversation σ) :
    examine service plan c = onward stopped (diagnosed service plan) (c.health service) := by
  unfold examine
  generalize c.health service = asked
  rcases asked with ⟨halt | status, c'⟩ <;> rfl

private theorem run_eq_onward (c : Conversation σ) :
    run service plan c =
      onward stopped (fun _ c => examine service plan c) (c.waitUntil c.now) := by
  unfold run
  generalize c.waitUntil c.now = waited
  rcases waited with ⟨halt | _, c'⟩ <;> rfl

private theorem later_stopped {α : Type} (halt : Halt) (c : Conversation σ) :
    Later c (stopped (α := α) halt c).2 := by
  cases halt with
  | fault f => exact .refl c
  | interrupted => exact .of_calls_eq le_rfl rfl

private theorem later_judged (info : TaskInfo) (c : Conversation σ) :
    Later c (judged info c).2 := .refl c

private theorem later_verifyTask (taskId : String) (c : Conversation σ) :
    Later c (verifyTask service plan taskId c).2 := by
  rw [verifyTask_eq_onward]
  exact (Conversation.later_poll service plan.poll c taskId).trans
    (later_onward later_stopped later_judged _)

private theorem later_submitted (handle : Handle) (c : Conversation σ) :
    Later c (submitted service plan handle c).2 :=
  (Conversation.later_tell c _).trans (later_verifyTask service plan handle.taskId _)

private theorem later_listDirectory (c : Conversation σ) :
    Later c (listDirectory service plan c).2 := by
  rw [listDirectory_eq_onward]
  exact (Conversation.later_submit service c plan.submission).trans
    (later_onward later_stopped (later_submitted service plan) _)

private theorem later_diagnosed (status : String) (c : Conversation σ) :
    Later c (diagnosed service plan status c).2 := by
  unfold diagnosed
  split
  · exact (Conversation.later_tell c _).trans (later_listDirectory service plan _)
  · exact .refl c

private theorem later_examine (c : Conversation σ) : Later c (examine service plan c).2 := by
  rw [examine_eq_onward]
  exact (Conversation.later_health service c).trans
    (later_onward later_stopped (later_diagnosed service plan) _)

/-- A check goes forward. -/
theorem later_run (c : Conversation σ) : Later c (run service plan c).2 := by
  rw [run_eq_onward]
  exact (Conversation.later_waitUntil le_rfl).trans
    (later_onward later_stopped (fun _ => later_examine service plan) _)

variable {s : Option Nat}

/-- What a check gives that is interrupted. -/
abbrev interrupted {α : Type} : Except Failure α := .error (.check .interrupted)

private theorem raced_stopped {α : Type} (halt : Halt) (c : Conversation σ)
    (hopen : c.shutdown = none) :
    Raced interrupted s (stopped (α := α) halt c) (stopped halt { c with shutdown := s }) := by
  cases halt with
  | fault f => exact .same hopen
  | interrupted => exact .same (c := c.tell interruption) hopen

private theorem raced_verifyTask (taskId : String) (c : Conversation σ)
    (hopen : c.shutdown = none) :
    Raced interrupted s (verifyTask service plan taskId c)
      (verifyTask service plan taskId { c with shutdown := s }) := by
  rw [verifyTask_eq_onward, verifyTask_eq_onward]
  exact raced_onward (Conversation.raced_poll service plan.poll c hopen taskId)
    (fun _ => ⟨rfl, rfl⟩) raced_stopped (fun _ _ => .same) later_stopped later_judged

private theorem raced_listDirectory (c : Conversation σ) (hopen : c.shutdown = none) :
    Raced interrupted s (listDirectory service plan c)
      (listDirectory service plan { c with shutdown := s }) := by
  rw [listDirectory_eq_onward, listDirectory_eq_onward]
  exact raced_onward (Conversation.raced_submit service hopen plan.submission)
    (fun _ => ⟨rfl, rfl⟩) raced_stopped
    (fun handle c => raced_verifyTask service plan handle.taskId (c.tell _)) later_stopped
    (later_submitted service plan)

private theorem raced_diagnosed (status : String) (c : Conversation σ) (hopen : c.shutdown = none) :
    Raced interrupted s (diagnosed service plan status c)
      (diagnosed service plan status { c with shutdown := s }) := by
  unfold diagnosed
  split
  · exact raced_listDirectory service plan (c.tell _) hopen
  · exact .same hopen

private theorem raced_examine (c : Conversation σ) (hopen : c.shutdown = none) :
    Raced interrupted s (examine service plan c)
      (examine service plan { c with shutdown := s }) := by
  rw [examine_eq_onward, examine_eq_onward]
  exact raced_onward (Conversation.raced_health service hopen) (fun _ => ⟨rfl, rfl⟩) raced_stopped
    (raced_diagnosed service plan) later_stopped (later_diagnosed service plan)

/-- A shutdown only cuts off a check. -/
theorem raced_run (c : Conversation σ) (hopen : c.shutdown = none) :
    Raced interrupted s (run service plan c) (run service plan { c with shutdown := s }) := by
  rw [run_eq_onward, run_eq_onward]
  exact raced_onward (Conversation.raced_waitUntil hopen c.now) (fun _ => ⟨rfl, rfl⟩)
    raced_stopped (fun _ => raced_examine service plan) later_stopped
    (fun _ => later_examine service plan)

end Shutdown

/-- Without a shutdown a check takes its course, and that decides its calls and what it comes to.
With one, whenever it comes, the check makes the first of these calls at the same moments, and is
interrupted or comes to the same. -/
theorem run_takes_course (service : Service σ) (plan : Plan) (c : Conversation σ) :
    let free := run service plan { c with shutdown := none }
    let raced := run service plan c
    (∃ trace, free.2.asked = trace.reverse ++ c.asked ∧
      Course service plan c.standing trace free.1) ∧
    c.calls <:+ raced.2.calls ∧ raced.2.calls <:+ free.2.calls ∧
      (raced.1 = .error (.check .interrupted) ∨ raced.1 = free.1) := by
  intro free raced
  have hraced : Conversation.Raced interrupted c.shutdown free raced :=
    raced_run service plan { c with shutdown := none } rfl
  exact ⟨run_course service plan (c := { c with shutdown := none }) rfl,
    (later_run service plan c).suffix, hraced.suffix, hraced.result⟩

end GatewayProbe.Check
