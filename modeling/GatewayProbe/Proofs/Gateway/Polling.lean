import Mathlib.Tactic.SplitIfs
import GatewayProbe.Gateway.Conversation
import GatewayProbe.Text.Utf8

/-!
# The query that decides a poll

What a gateway would answer to one query after the other is a sequence that does not
depend on when the poll ends. The poll ends with the first query of this sequence that
stops it, and that query alone decides the result.
-/

namespace GatewayProbe.Gateway

/-- A final state ends a poll, whatever time it has taken. -/
theorem Poll.observe_terminal (settings : PollSettings) (poll : Poll) (now : Nat)
    {info : TaskInfo} (h : info.status.isTerminal = true) :
    poll.observe settings now info = .finished (.ok info) := by
  rw [observe, if_pos h]

/-- A state that is not final ends a poll whose time is spent. -/
theorem Poll.observe_spent {settings : PollSettings} {poll : Poll} {now : Nat}
    {info : TaskInfo} (h : info.status.isTerminal = false)
    (hspent : settings.maxWait.nanos ≤ (Clock.since poll.started now).nanos) :
    poll.observe settings now info = .finished (.error (.pollTimeout poll.taskId
      (Clock.since poll.started now) settings.maxWait info.status)) := by
  simp only [observe, h, Bool.false_eq_true, if_false, if_pos hspent]

/-- A state that is not final makes a poll sleep that has time left, but not beyond it. -/
theorem Poll.observe_sleep {settings : PollSettings} {poll : Poll} {now : Nat}
    {info : TaskInfo} (h : info.status.isTerminal = false)
    (hleft : (Clock.since poll.started now).nanos < settings.maxWait.nanos) :
    poll.observe settings now info = .sleep
      ⟨min settings.interval.nanos
        (settings.maxWait.nanos - (Clock.since poll.started now).nanos)⟩
      { poll with last := some info.status } := by
  simp only [observe, h, Bool.false_eq_true, if_false, if_neg (Nat.not_le_of_lt hleft)]

/-- A poll ends without a fault only with the state it has just seen. -/
theorem Poll.eq_of_observe {settings : PollSettings} {p : Poll} {now : Nat}
    {info info' : TaskInfo} (h : p.observe settings now info = .finished (.ok info')) :
    info' = info := by
  simp only [observe] at h
  split_ifs at h
  · exact (Except.ok.inj (Next.finished.inj h)).symm
  · exact nomatch Next.finished.inj h

/-- A poll that goes on asks for the same task. -/
theorem Poll.taskId_of_observe {settings : PollSettings} {p next : Poll} {now : Nat}
    {info : TaskInfo} {length : Duration}
    (h : p.observe settings now info = .sleep length next) : next.taskId = p.taskId := by
  simp only [observe] at h
  split_ifs at h
  obtain ⟨_, rfl⟩ := Next.sleep.inj h
  rfl

/-- A poll of a task that a gateway answers to. -/
structure Polling (σ : Type) where
  service : Service σ
  settings : PollSettings
  taskId : String
  /-- When the first query began. -/
  started : Nat

/-- Where a poll stands when a query begins, and what wakes it from its sleeps. -/
structure Standing (σ : Type) where
  gateway : σ
  now : Nat
  timer : Clock.Timer := .ticking

/-- Where a conversation stands. -/
def Conversation.standing {σ : Type} (c : Conversation σ) : Standing σ :=
  ⟨c.gateway, c.now, c.timer⟩

/-- A query with the moments of its beginning and its end. -/
structure Query where
  begun : Nat
  ended : Nat
  outcome : Except Fault TaskInfo

namespace Polling

variable {σ : Type}

/-- The reply to a query that begins here, and the gateway after it. -/
def reply (p : Polling σ) (x : Standing σ) : Reply × σ :=
  p.service x.gateway x.now (.status p.taskId)

/-- The query that begins here. -/
def query (p : Polling σ) (x : Standing σ) : Query :=
  let ended := Conversation.arrival x.now (p.reply x).1.latency
  { begun := x.now
    ended
    outcome := (p.reply x).1.answer.taskInfo p.taskId (Clock.since x.now ended) }

/-- How long the poll has taken at the end of a query. -/
def elapsed (p : Polling σ) (q : Query) : Duration := Clock.since p.started q.ended

/-- Where the poll would stand when the query after the one that begins here begins. -/
def next (p : Polling σ) (x : Standing σ) : Standing σ :=
  let q := p.query x
  let pause := min p.settings.interval.nanos (p.settings.maxWait.nanos - (p.elapsed q).nanos)
  { x with gateway := (p.reply x).2, now := x.timer.wake (q.ended + pause) }

/-- The query after some others, the first of which begins here. -/
def queryAt (p : Polling σ) : Nat → Standing σ → Query
  | 0, x => p.query x
  | k + 1, x => p.queryAt k (p.next x)

/-- A query after which the poll goes on: it saw a state that is not final and left time. -/
def GoesOn (p : Polling σ) (q : Query) : Prop :=
  ∃ info, q.outcome = .ok info ∧ info.status.isTerminal = false ∧
    (p.elapsed q).nanos < p.settings.maxWait.nanos

/-- A query that decides a result: it failed, saw a final state, or left no time. -/
inductive Decides (p : Polling σ) (q : Query) : Except Halt TaskInfo → Prop where
  | failed {f : Fault} (hfault : q.outcome = .error f) : Decides p q (.error (.fault f))
  | terminal {info : TaskInfo} (hinfo : q.outcome = .ok info)
    (hterminal : info.status.isTerminal = true) : Decides p q (.ok info)
  | timedOut {info : TaskInfo} (hinfo : q.outcome = .ok info)
    (hterminal : info.status.isTerminal = false)
    (hspent : p.settings.maxWait.nanos ≤ (p.elapsed q).nanos) :
    Decides p q (.error (.fault
      (.pollTimeout p.taskId (p.elapsed q) p.settings.maxWait info.status)))

/-- The sample of a query. -/
def sample (q : Query) (success : Bool) : Metrics.Sample :=
  .ofDuration pollName (Clock.since q.begun q.ended) success

/-- A poll that began with a conversation has ended with the query after `k` others. -/
structure Ended (p : Polling σ) (c : Conversation σ) (k : Nat)
    (result : Except Halt TaskInfo × Conversation σ) : Prop where
  passed : ∀ j < k, p.GoesOn (p.queryAt j c.standing)
  decided : p.Decides (p.queryAt k c.standing) result.1
  calls : result.2.calls = ((List.range (k + 1)).map fun j =>
    ((p.queryAt j c.standing).begun, Call.status p.taskId)).reverse ++ c.calls
  measured : result.2.measured =
    sample (p.queryAt k c.standing) (p.queryAt k c.standing).outcome.isOk ::
      ((List.range k).map fun j => sample (p.queryAt j c.standing) true).reverse ++
        c.measured

/-- A poll that ends with its first query. -/
theorem Ended.first {p : Polling σ} {c : Conversation σ}
    {result : Except Halt TaskInfo × Conversation σ}
    (hdecided : p.Decides (p.query c.standing) result.1)
    (hcalls : result.2.calls = (c.now, .status p.taskId) :: c.calls)
    (hmeasured : result.2.measured = sample (p.query c.standing)
      (p.query c.standing).outcome.isOk :: c.measured) : p.Ended c 0 result :=
  ⟨fun j hj => absurd hj (Nat.not_lt_zero j), hdecided, hcalls, hmeasured⟩

private theorem reverse_map_range_succ {β : Type} (f : Nat → β) (k : Nat) (rest : List β) :
    ((List.range (k + 1)).map f).reverse ++ rest =
      ((List.range k).map fun j => f (j + 1)).reverse ++ f 0 :: rest := by
  rw [List.range_succ_eq_map, List.map_cons, List.map_map, List.reverse_cons, List.append_assoc]
  rfl

/-- A poll whose first query lets it go on ends as it does from the next query on. -/
theorem Ended.later {p : Polling σ} {c c' : Conversation σ} {k : Nat}
    {result : Except Halt TaskInfo × Conversation σ}
    (hgoesOn : p.GoesOn (p.query c.standing))
    (hnext : p.next c.standing = c'.standing)
    (hcalls : c'.calls = (c.now, .status p.taskId) :: c.calls)
    (hmeasured : c'.measured = sample (p.query c.standing) true :: c.measured)
    (h : p.Ended c' k result) : p.Ended c (k + 1) result := by
  have hshift : ∀ j, p.queryAt (j + 1) c.standing =
      p.queryAt j c'.standing := by
    intro j
    rw [queryAt, hnext]
  refine ⟨fun j hj => ?_, ?_, ?_, ?_⟩
  · cases j with
    | zero => exact hgoesOn
    | succ j =>
      rw [hshift]
      exact h.passed j (by omega)
  · rw [hshift]
    exact h.decided
  · rw [h.calls, hcalls, reverse_map_range_succ _ (k + 1)]
    simp only [hshift]
    rfl
  · rw [h.measured, hmeasured, List.cons_append, List.cons_append, reverse_map_range_succ]
    simp only [hshift]
    rfl

end Polling

namespace Conversation

variable {σ : Type}

/-- No answer arrives before its call. -/
theorem le_arrival (now : Nat) (latency : Duration) : now ≤ arrival now latency :=
  Nat.le_add_right now latency.nanos

/-- Without a shutdown a wait lasts until its end. -/
theorem waitUntil_eq {c : Conversation σ} (h : c.shutdown = none) (moment : Nat) :
    c.waitUntil moment = (.ok (), { c with now := moment }) := by
  simp [waitUntil, isCut, h]

@[simp] theorem now_tell? (c : Conversation σ) (m : Option Message) :
    (c.tell? m).now = c.now := by
  cases m <;> rfl

@[simp] theorem gateway_tell? (c : Conversation σ) (m : Option Message) :
    (c.tell? m).gateway = c.gateway := by
  cases m <;> rfl

@[simp] theorem shutdown_tell? (c : Conversation σ) (m : Option Message) :
    (c.tell? m).shutdown = c.shutdown := by
  cases m <;> rfl

@[simp] theorem timer_tell? (c : Conversation σ) (m : Option Message) :
    (c.tell? m).timer = c.timer := by
  cases m <;> rfl

/-- Telling something changes nothing about where a conversation stands. -/
@[simp] theorem standing_tell? (c : Conversation σ) (m : Option Message) :
    (c.tell? m).standing = c.standing := by
  cases m <;> rfl

@[simp] theorem calls_tell? (c : Conversation σ) (m : Option Message) :
    (c.tell? m).calls = c.calls := by
  cases m <;> rfl

@[simp] theorem measured_tell? (c : Conversation σ) (m : Option Message) :
    (c.tell? m).measured = c.measured := by
  cases m <;> rfl

/-- A query that is not cut off gives its outcome and takes until its end. -/
theorem status_eq (p : Polling σ) {c : Conversation σ} (h : c.shutdown = none) :
    c.status p.service p.taskId =
      ((p.query c.standing).outcome.mapError .fault,
        { c with
          gateway := (p.reply c.standing).2
          now := (p.query c.standing).ended
          calls := (c.now, .status p.taskId) :: c.calls }) := by
  let asked : Conversation σ := { c with
    gateway := (p.reply c.standing).2, calls := (c.now, .status p.taskId) :: c.calls }
  have hwait := waitUntil_eq (c := asked) h (p.query c.standing).ended
  have hasked : c.call p.service (.status p.taskId) =
      (((asked.waitUntil (p.query c.standing).ended).1).map fun _ =>
        ⟨(p.reply c.standing).1.answer,
          Clock.since c.now (asked.waitUntil (p.query c.standing).ended).2.now⟩,
        (asked.waitUntil (p.query c.standing).ended).2) := rfl
  rw [status, hasked, hwait]
  rfl

/-- A conversation after a query of a poll that gave the state of the task. -/
structure Seen (p : Polling σ) (c told : Conversation σ) : Prop where
  gateway : told.gateway = (p.reply c.standing).2
  now : told.now = (p.query c.standing).ended
  shutdown : told.shutdown = none
  timer : told.timer = c.timer
  calls : told.calls = (c.now, .status p.taskId) :: c.calls
  measured : told.measured = Polling.sample (p.query c.standing) true :: c.measured

/-- A round whose query gives the state of the task goes on as the poll says. -/
theorem pollRounds_succ (p : Polling σ) (rounds : Nat) {poll : Poll}
    (htask : poll.taskId = p.taskId) {c : Conversation σ} (hshutdown : c.shutdown = none)
    {info : TaskInfo} (houtcome : (p.query c.standing).outcome = .ok info) :
    ∃ told, Seen p c told ∧ pollRounds p.service p.settings (rounds + 1) poll c =
      match poll.observe p.settings told.now info with
      | .finished result => (result.mapError .fault, told)
      | .sleep length poll =>
        pollRounds p.service p.settings rounds poll
          { told with now := told.timer.wake (Clock.after told.now length) } := by
  let asked : Conversation σ := { c with
    gateway := (p.reply c.standing).2
    now := (p.query c.standing).ended
    calls := (c.now, .status p.taskId) :: c.calls }
  let told := (asked.measure c.now true).tell? (poll.backwards? (.ok info))
  have hopen : told.shutdown = none := (shutdown_tell? _ _).trans hshutdown
  refine ⟨told, ⟨gateway_tell? _ _, now_tell? _ _, hopen, timer_tell? _ _, calls_tell? _ _,
    measured_tell? _ _⟩, ?_⟩
  rw [pollRounds, htask, status_eq p hshutdown, houtcome]
  dsimp only [Except.mapError]
  cases poll.observe p.settings told.now info with
  | finished result => rfl
  | sleep length poll =>
    dsimp only
    rw [waitUntil_eq hopen]

/-- A pause uses up one round and at least one nanosecond of the waiting time. -/
private theorem rounds_left {started now ended next interval maxWait rounds : Nat}
    (hpause : 0 < interval) (hnow : started ≤ now) (hended : now ≤ ended)
    (hleft : ended - started < maxWait)
    (hnext : ended + min interval (maxWait - (ended - started)) ≤ next)
    (hrounds : maxWait + 1 ≤ rounds + 1 + min (now - started) maxWait) :
    started ≤ next ∧ maxWait + 1 ≤ rounds + min (next - started) maxWait := by
  omega

/-- A poll that has time left for its rounds ends with the first query that decides it, and is
over when that query is. -/
theorem exists_pollRounds_ended (p : Polling σ) (hpause : 0 < p.settings.interval.nanos)
    (rounds : Nat) {poll : Poll} (htask : poll.taskId = p.taskId)
    (hstarted : poll.started = p.started) {c : Conversation σ} (hshutdown : c.shutdown = none)
    (hnow : p.started ≤ c.now)
    (hrounds : p.settings.maxWait.nanos + 1 ≤
      rounds + min (c.now - p.started) p.settings.maxWait.nanos) :
    ∃ k, p.Ended c k (pollRounds p.service p.settings rounds poll c) ∧
      (pollRounds p.service p.settings rounds poll c).2.now =
        (p.queryAt k c.standing).ended := by
  induction rounds generalizing poll c with
  | zero => omega
  | succ rounds ih =>
    cases houtcome : (p.query c.standing).outcome with
    | error f =>
      rw [pollRounds, htask, status_eq p hshutdown, houtcome]
      refine ⟨0, .first (.failed houtcome) rfl ?_, rfl⟩
      rw [houtcome]
      rfl
    | ok info =>
      obtain ⟨told, hseen, hround⟩ := pollRounds_succ p rounds htask hshutdown houtcome
      have helapsed : Clock.since poll.started told.now =
          p.elapsed (p.query c.standing) := by
        rw [hstarted, hseen.now]
        rfl
      rw [hround]
      cases hterminal : info.status.isTerminal with
      | true =>
        rw [Poll.observe_terminal _ _ _ hterminal]
        refine ⟨0, .first (.terminal houtcome hterminal) hseen.calls ?_, hseen.now⟩
        rw [houtcome]
        exact hseen.measured
      | false =>
        by_cases hspent : p.settings.maxWait.nanos ≤ (Clock.since poll.started told.now).nanos
        · rw [Poll.observe_spent hterminal hspent]
          rw [helapsed] at hspent ⊢
          refine ⟨0, .first ?_ hseen.calls ?_, hseen.now⟩
          · rw [htask]
            exact .timedOut houtcome hterminal hspent
          · rw [houtcome]
            exact hseen.measured
        · have hleft := Nat.lt_of_not_le hspent
          rw [Poll.observe_sleep hterminal hleft]
          rw [helapsed] at hleft ⊢
          let q := p.query c.standing
          let pause := min p.settings.interval.nanos
            (p.settings.maxWait.nanos - (p.elapsed q).nanos)
          let rested : Conversation σ := { told with now := told.timer.wake (told.now + pause) }
          have hrested : rested.now = c.timer.wake (q.ended + pause) := by
            rw [← hseen.now, ← hseen.timer]
          have hleft' := rounds_left hpause hnow (le_arrival c.now _) hleft
            (c.timer.le_wake (q.ended + pause)) hrounds
          rw [← hrested] at hleft'
          let resumed : Poll := { poll with last := some info.status }
          have htask' : resumed.taskId = p.taskId := htask
          have hrest := ih (c := rested) htask' hstarted hseen.shutdown hleft'.1 hleft'.2
          have hgoesOn : p.GoesOn q := ⟨info, houtcome, hterminal, hleft⟩
          have hnext : p.next c.standing = rested.standing := by
            change _ = (⟨told.gateway, rested.now, told.timer⟩ : Standing σ)
            rw [hrested, hseen.gateway, hseen.timer]
            rfl
          have hcalls : rested.calls = (c.now, .status p.taskId) :: c.calls := hseen.calls
          have hmeasured : rested.measured = Polling.sample q true :: c.measured := hseen.measured
          obtain ⟨k, hk, hover⟩ := hrest
          refine ⟨k + 1, hk.later hgoesOn hnext hcalls hmeasured, hover.trans ?_⟩
          rw [Polling.queryAt, hnext]

/-- A poll with a pause between its queries ends with one of them and is over when that one is. -/
theorem exists_poll_ended (service : Service σ) {settings : PollSettings}
    (hpause : 0 < settings.interval.nanos) {c : Conversation σ} (hshutdown : c.shutdown = none)
    (taskId : String) :
    ∃ k, Polling.Ended ⟨service, settings, taskId, c.now⟩ c k
        (c.poll service settings taskId) ∧
      (c.poll service settings taskId).2.now =
        (Polling.queryAt ⟨service, settings, taskId, c.now⟩ k c.standing).ended := by
  have hrounds : settings.maxWait.nanos + 1 ≤
      roundLimit settings + min (c.now - c.now) settings.maxWait.nanos := by
    unfold roundLimit
    omega
  have htask : (Poll.begin taskId c.now).taskId = taskId := rfl
  exact exists_pollRounds_ended ⟨service, settings, taskId, c.now⟩ hpause (roundLimit settings)
    htask rfl hshutdown (Nat.le_refl c.now) hrounds

/-- A poll with a pause between its queries ends with the first query that fails, sees a
final state or leaves no time. All queries before it saw states that are not final, none is
sent after it, and every query has one sample, of which only the last can be a failure. -/
theorem poll_ended (service : Service σ) {settings : PollSettings}
    (hpause : 0 < settings.interval.nanos) {c : Conversation σ} (hshutdown : c.shutdown = none)
    (taskId : String) :
    ∃ k, Polling.Ended ⟨service, settings, taskId, c.now⟩ c k
      (c.poll service settings taskId) := by
  obtain ⟨k, hended, -⟩ := exists_poll_ended service hpause hshutdown taskId
  exact ⟨k, hended⟩

/-- A gateway whose first answer is that a task runs and whose others are that it is done, after
one fifth more than a millisecond each. -/
def secondCompletes : Service Nat := fun n _ _ =>
  let status := if n = 0 then "RUNNING" else "COMPLETED"
  (⟨⟨1200000⟩, .body (Text.bytesOf ("\x7b\"status\": \"" ++ status ++ "\"\x7d"))⟩, n + 1)

/-- A waiting time of one millisecond and a half. -/
def hurried : PollSettings := ⟨.ofMillis 1, ⟨1500000⟩⟩

/-- A poll whose first answer leaves it less than a millisecond, so that it ends with a second
query when its waiting time is over. -/
theorem poll_ended_second :
    let c : Conversation Nat := { gateway := 0, timer := .exact }
    let ended := c.poll secondCompletes hurried "a"
    ended.1.toOption = some ⟨"a", .completed, none⟩ ∧
      ended.2.calls.map (·.1) = [1500000, 0] ∧
      ∃ k, Polling.Ended ⟨secondCompletes, hurried, "a", 0⟩ c k ended := by
  intro c ended
  have hpause : 0 < hurried.interval.nanos := by decide
  have hshutdown : c.shutdown = none := rfl
  refine ⟨?_, ?_, poll_ended secondCompletes hpause hshutdown "a"⟩
  · decide +kernel
  · decide +kernel

end Conversation

end GatewayProbe.Gateway
