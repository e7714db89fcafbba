import GatewayProbe.Proofs.Gateway.Conversing

/-!
# Conversations that are not cut off

Where no shutdown comes, the answer to a call and the end of a poll depend on the state of the
gateway and on the time only, not on what the conversation has noted so far. Whatever a poll
comes to, it only asks for its own task, at least once, and tells of no other.
-/

namespace GatewayProbe.Gateway

variable {σ : Type}

namespace Standing

/-- The answer to a call made where a conversation stands, and where it stands then. -/
def ask (service : Service σ) (x : Standing σ) (q : Call) : Answered × Standing σ :=
  let replied := service x.gateway x.now q
  let ended := Conversation.arrival x.now replied.1.latency
  (⟨replied.1.answer, Clock.since x.now ended⟩, { x with gateway := replied.2, now := ended })

/-- The health that the gateway would give here. -/
def health (service : Service σ) (x : Standing σ) : Except Fault String :=
  let answered := (x.ask service .health).1
  answered.answer.health answered.elapsed

/-- The task that a submission made here would be given. -/
def submission (service : Service σ) (x : Standing σ) (command : Command) : Except Fault String :=
  let answered := (x.ask service (.execute command)).1
  answered.answer.taskId answered.elapsed

/-- What a poll would come to that begins here and is not cut off. -/
def poll (service : Service σ) (settings : PollSettings) (x : Standing σ) (taskId : String) :
    Except Halt TaskInfo :=
  (Conversation.poll service settings
    { gateway := x.gateway, now := x.now, timer := x.timer } taskId).1

end Standing

/-- A state is always that of the task asked for. -/
theorem taskId_of_readTaskInfo {taskId : String} {bytes : List UInt8} {info : TaskInfo}
    (h : readTaskInfo taskId bytes = .ok info) : info.taskId = taskId := by
  unfold readTaskInfo at h
  split at h
  · exact nomatch h
  · unfold StatusBody.info at h
    split at h
    · exact nomatch h
    · split at h
      · exact nomatch h
      · obtain rfl := Except.ok.inj h
        rfl

/-- A query tells of no other task. -/
theorem Polling.taskId_of_query {p : Polling σ} {x : Standing σ} {info : TaskInfo}
    (h : (p.query x).outcome = .ok info) : info.taskId = p.taskId := by
  simp only [query, Answer.taskInfo] at h
  cases hanswer : (p.reply x).1.answer with
  | body bytes =>
    rw [hanswer] at h
    exact taskId_of_readTaskInfo h
  | refused status text =>
    rw [hanswer] at h
    exact nomatch h
  | unreachable =>
    rw [hanswer] at h
    exact nomatch h

namespace Conversation

/-- The calls that a conversation has made, the latest first. -/
def asked (c : Conversation σ) : List Call := c.calls.map (·.2)

/-- A conversation that has made a call and got the answer. -/
def exchange (service : Service σ) (c : Conversation σ) (q : Call) : Conversation σ :=
  let after := (c.standing.ask service q).2
  { c with gateway := after.gateway, now := after.now, calls := (c.now, q) :: c.calls }

variable (service : Service σ) {c : Conversation σ}

private theorem call_eq (hopen : c.shutdown = none) (q : Call) :
    c.call service q = (.ok (c.standing.ask service q).1, c.exchange service q) := by
  let reply := (service c.gateway c.now q).1
  let sent : Conversation σ := { c with
    gateway := (service c.gateway c.now q).2, calls := (c.now, q) :: c.calls }
  have hwait := waitUntil_eq (c := sent) hopen (arrival c.now reply.latency)
  unfold call
  dsimp only
  rw [hwait]
  rfl

/-- Without a shutdown a submission is one exchange, and its answer is read for the task. -/
theorem submit_eq (hopen : c.shutdown = none) (command : Command) :
    c.submit service command =
      (((c.standing.submission service command).mapError .fault).map fun id => ⟨id, c.now⟩,
        c.exchange service (.execute command)) := by
  unfold submit
  dsimp only
  rw [call_eq service hopen]
  rfl

/-- A check of the health comes to what the gateway gives, and may tell of it. -/
theorem health_eq (hopen : c.shutdown = none) :
    ∃ m, c.health service = ((c.standing.health service).mapError .fault,
      (c.exchange service .health).tell? m) := by
  unfold health
  dsimp only
  rw [call_eq service hopen]
  exact ⟨_, rfl⟩

/-- Something that comes to one outcome, with a number of queries for a task, in every
conversation that stands here and is not cut off. -/
structure Settles (x : Standing σ) (taskId : String) (queries : Nat)
    (outcome : Except Fault TaskInfo)
    (go : Conversation σ → Except Halt TaskInfo × Conversation σ) : Prop where
  own : ∀ info, outcome = .ok info → info.taskId = taskId
  comes : ∀ c, c.standing = x → c.shutdown = none → ∃ c', go c = (outcome.mapError .fault, c') ∧
    c'.asked = List.replicate queries (.status taskId) ++ c.asked

section Rounds

variable {rounds : Nat} {poll : Poll} {p : Polling σ} {x : Standing σ}

/-- A query that fails settles a poll. -/
theorem settles_of_error (htask : poll.taskId = p.taskId) {f : Fault}
    (hquery : (p.query x).outcome = .error f) :
    Settles x p.taskId 1 (.error f) (pollRounds p.service p.settings (rounds + 1) poll) := by
  refine ⟨nofun, ?_⟩
  rintro c rfl hopen
  have hquery' : (p.query c.standing).outcome = .error f := hquery
  rw [pollRounds, htask, status_eq p hopen, hquery']
  exact ⟨_, rfl, rfl⟩

/-- The calls of a conversation after a query that gave the state of the task. -/
theorem Seen.asked {c told : Conversation σ} (h : Seen p c told) :
    told.asked = .status p.taskId :: c.asked := by
  rw [Conversation.asked, h.calls]
  rfl

/-- A query that gives a state after which the poll ends settles it. -/
theorem settles_of_finished (htask : poll.taskId = p.taskId) {info : TaskInfo}
    (hquery : (p.query x).outcome = .ok info) {outcome : Except Fault TaskInfo}
    (hnext : poll.observe p.settings (p.query x).ended info = .finished outcome) :
    Settles x p.taskId 1 outcome (pollRounds p.service p.settings (rounds + 1) poll) := by
  constructor
  · rintro info' rfl
    rw [Poll.eq_of_observe hnext]
    exact p.taskId_of_query hquery
  · rintro c rfl hopen
    obtain ⟨told, hseen, hround⟩ := pollRounds_succ p rounds htask hopen hquery
    have hnow : told.now = (p.query c.standing).ended := hseen.now
    rw [hnow, hnext] at hround
    exact ⟨told, hround, hseen.asked⟩

/-- A query after which the poll sleeps leaves it to the rounds to come. -/
theorem settles_of_sleep (htask : poll.taskId = p.taskId) {info : TaskInfo}
    (hquery : (p.query x).outcome = .ok info) {length : Duration} {next : Poll}
    (hnext : poll.observe p.settings (p.query x).ended info = .sleep length next)
    {queries : Nat} {outcome : Except Fault TaskInfo}
    (h : Settles { x with
        gateway := (p.reply x).2, now := x.timer.wake (Clock.after (p.query x).ended length) }
      next.taskId queries outcome (pollRounds p.service p.settings rounds next)) :
    Settles x p.taskId (queries + 1) outcome
      (pollRounds p.service p.settings (rounds + 1) poll) := by
  have hsame : next.taskId = p.taskId := (Poll.taskId_of_observe hnext).trans htask
  rw [hsame] at h
  refine ⟨h.own, ?_⟩
  rintro c rfl hopen
  obtain ⟨told, hseen, hround⟩ := pollRounds_succ p rounds htask hopen hquery
  have hnow : told.now = (p.query c.standing).ended := hseen.now
  rw [hnow, hnext] at hround
  dsimp only at hround
  have htimer : told.timer = c.standing.timer := hseen.timer
  have hwake : told.timer.wake (Clock.after (p.query c.standing).ended length) =
      c.standing.timer.wake (Clock.after (p.query c.standing).ended length) := by
    rw [htimer]
  rw [hwake] at hround
  -- the moment is kept abstract, since checking terms must not compute with it
  generalize c.standing.timer.wake (Clock.after (p.query c.standing).ended length) = moment
    at hround h
  have hgateway : told.gateway = (p.reply c.standing).2 := hseen.gateway
  have hstanding : ({ told with now := moment } : Conversation σ).standing =
      ⟨(p.reply c.standing).2, moment, c.standing.timer⟩ := by
    rw [← hgateway, ← htimer]
    rfl
  obtain ⟨c', hcomes, hasked⟩ := h.comes _ hstanding hseen.shutdown
  refine ⟨c', hround.trans hcomes, ?_⟩
  have htold : ({ told with now := moment } : Conversation σ).asked =
      .status p.taskId :: c.asked := by
    rw [← hseen.asked]
    simp only [asked]
  rw [hasked, htold, List.replicate_succ', List.append_assoc]
  rfl

end Rounds

/-- The rounds of a poll come to an outcome. -/
theorem exists_settles_pollRounds (service : Service σ) (settings : PollSettings) (rounds : Nat)
    (poll : Poll) (x : Standing σ) :
    ∃ queries outcome, (rounds ≠ 0 → queries ≠ 0) ∧
      Settles x poll.taskId queries outcome (pollRounds service settings rounds poll) := by
  induction rounds generalizing poll x with
  | zero =>
    refine ⟨0, .error (.pollTimeout poll.taskId (Clock.since poll.started x.now)
      settings.maxWait (poll.last.getD .pending)), by simp, nofun, ?_⟩
    rintro c rfl -
    exact ⟨c, rfl, rfl⟩
  | succ rounds ih =>
    let p : Polling σ := ⟨service, settings, poll.taskId, poll.started⟩
    have htask : poll.taskId = p.taskId := rfl
    cases hquery : (p.query x).outcome with
    | error f => exact ⟨1, _, by simp, settles_of_error htask hquery⟩
    | ok info =>
      cases hnext : poll.observe settings (p.query x).ended info with
      | finished outcome => exact ⟨1, _, by simp, settles_of_finished htask hquery hnext⟩
      | sleep length next =>
        obtain ⟨queries, outcome, -, hrest⟩ := ih next
          { x with
            gateway := (p.reply x).2, now := x.timer.wake (Clock.after (p.query x).ended length) }
        exact ⟨queries + 1, outcome, by simp, settles_of_sleep htask hquery hnext hrest⟩

/-- A poll asks for its task at least once and comes to what it would come to anywhere else. -/
theorem exists_poll_eq (service : Service σ) (settings : PollSettings) {c : Conversation σ}
    (hopen : c.shutdown = none) (taskId : String) :
    ∃ (outcome : Except Fault TaskInfo) (queries : Nat) (c' : Conversation σ),
      c.standing.poll service settings taskId = outcome.mapError .fault ∧
      c.poll service settings taskId = (outcome.mapError .fault, c') ∧
      c'.asked = List.replicate (queries + 1) (.status taskId) ++ c.asked ∧
      ∀ info, outcome = .ok info → info.taskId = taskId := by
  obtain ⟨queries, outcome, hsome, h⟩ := exists_settles_pollRounds service settings
    (roundLimit settings) (.begin taskId c.now) c.standing
  obtain ⟨bare, hbare, -⟩ := h.comes
    { gateway := c.gateway, now := c.now, timer := c.timer } rfl rfl
  obtain ⟨c', hcomes, hasked⟩ := h.comes c rfl hopen
  obtain ⟨queries, rfl⟩ := Nat.exists_eq_succ_of_ne_zero (hsome (by simp [roundLimit]))
  exact ⟨outcome, queries, c', congrArg Prod.fst hbare, hcomes, hasked, h.own⟩

end Conversation

end GatewayProbe.Gateway
