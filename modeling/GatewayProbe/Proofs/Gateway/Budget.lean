import GatewayProbe.Proofs.Gateway.Polling

/-!
# How long a poll takes

Between two queries a poll sleeps for its interval, but not beyond its waiting time. So every
query begins an interval after the one before it or when the waiting time is used up, and this
bounds their number. No sleep is to end beyond the waiting time, so a query begins later than that
only if the timer has woken the poll late, however long the gateway takes to answer.
-/

namespace GatewayProbe.Gateway

/-- The most queries that a poll can make: one for each interval that begins in the waiting time,
and one at the end of it. -/
def PollSettings.queryLimit (s : PollSettings) : Nat :=
  (s.maxWait.nanos + s.interval.nanos - 1) / s.interval.nanos + 1

namespace Polling

variable {σ : Type} {p : Polling σ} {x : Standing σ}

/-- The sleep after a query that lets the poll go on. -/
def pause (p : Polling σ) (q : Query) : Nat :=
  min p.settings.interval.nanos (p.settings.maxWait.nanos - (p.elapsed q).nanos)

/-- A query begins with the wake-up from the sleep after the one before it. -/
theorem begun_queryAt_succ (p : Polling σ) (k : Nat) (x : Standing σ) :
    (p.queryAt (k + 1) x).begun =
      x.timer.wake ((p.queryAt k x).ended + p.pause (p.queryAt k x)) := by
  induction k generalizing x with
  | zero => rfl
  | succ k ih => exact ih (p.next x)

private theorem begun_le_ended (p : Polling σ) (k : Nat) (x : Standing σ) :
    (p.queryAt k x).begun ≤ (p.queryAt k x).ended := by
  induction k generalizing x with
  | zero => exact Conversation.le_arrival x.now _
  | succ k ih => exact ih (p.next x)

/-- No query begins before the poll. -/
theorem le_begun (p : Polling σ) (k : Nat) (x : Standing σ) :
    x.now ≤ (p.queryAt k x).begun := by
  induction k with
  | zero => exact Nat.le_refl x.now
  | succ k ih =>
    rw [begun_queryAt_succ]
    have hended := begun_le_ended p k x
    have hwake := x.timer.le_wake ((p.queryAt k x).ended + p.pause (p.queryAt k x))
    omega

/-- A poll that goes on sleeps. -/
theorem pause_pos {q : Query} (hpause : 0 < p.settings.interval.nanos) (h : p.GoesOn q) :
    0 < p.pause q := by
  obtain ⟨_, _, _, hleft⟩ := h
  exact Nat.lt_min.mpr ⟨hpause, Nat.sub_pos_of_lt hleft⟩

/-- No sleep of a poll ends beyond its waiting time. -/
theorem ended_add_pause_le {q : Query} (hq : p.started ≤ q.ended) (h : p.GoesOn q) :
    q.ended + p.pause q ≤ p.started + p.settings.maxWait.nanos := by
  obtain ⟨_, _, _, hleft⟩ := h
  have hpause : p.pause q ≤ p.settings.maxWait.nanos - (p.elapsed q).nanos := Nat.min_le_right _ _
  have helapsed : (p.elapsed q).nanos = q.ended - p.started := rfl
  omega

section Passed

variable {k : Nat} (hx : p.started = x.now) (hpassed : ∀ j < k, p.GoesOn (p.queryAt j x))
include hx hpassed

/-- A query begins an interval after the one before it, if the waiting time lasts so long. -/
theorem spread_le_begun :
    x.now + min (k * p.settings.interval.nanos) p.settings.maxWait.nanos ≤
      (p.queryAt k x).begun := by
  induction k with
  | zero => simpa using le_begun p 0 x
  | succ k ih =>
    have hbefore := ih fun j hj => hpassed j (Nat.lt_succ_of_lt hj)
    have hended := begun_le_ended p k x
    have hwake := x.timer.le_wake ((p.queryAt k x).ended + p.pause (p.queryAt k x))
    have helapsed : (p.elapsed (p.queryAt k x)).nanos = (p.queryAt k x).ended - p.started := rfl
    rw [begun_queryAt_succ, Nat.succ_mul]
    simp only [pause, helapsed, hx] at hwake ⊢
    omega

/-- Queries after each of which the poll goes on are no more than the intervals in the waiting
time. -/
theorem succ_le_queryLimit (hpause : 0 < p.settings.interval.nanos) :
    k + 1 ≤ p.settings.queryLimit := by
  refine Nat.succ_le_succ ?_
  cases k with
  | zero => exact Nat.zero_le _
  | succ k =>
    -- the last of these queries has left time, so all intervals before it lie in the waiting time
    obtain ⟨_, _, _, hleft⟩ := hpassed k (Nat.lt_succ_self k)
    have hspread := spread_le_begun hx fun j hj => hpassed j (Nat.lt_succ_of_lt hj)
    have hended := begun_le_ended p k x
    have helapsed : (p.elapsed (p.queryAt k x)).nanos = (p.queryAt k x).ended - p.started := rfl
    rw [Nat.le_div_iff_mul_le hpause, Nat.succ_mul]
    omega

/-- A query begins later after the waiting time than the sleep before it has ended late. -/
theorem begun_le {late : Nat} (hlate : ∀ j < k,
      x.timer.wake ((p.queryAt j x).ended + p.pause (p.queryAt j x)) ≤
        (p.queryAt j x).ended + p.pause (p.queryAt j x) + late) :
    (p.queryAt k x).begun ≤ x.now + p.settings.maxWait.nanos + late := by
  cases k with
  | zero => exact Nat.le_trans (Nat.le_add_right x.now _) (Nat.le_add_right _ late)
  | succ k =>
    have hbegun := Nat.le_trans (le_begun p k x) (begun_le_ended p k x)
    have hsleep :=
      ended_add_pause_le (Nat.le_trans (Nat.le_of_eq hx) hbegun) (hpassed k (Nat.lt_succ_self k))
    have hwake := hlate k (Nat.lt_succ_self k)
    rw [begun_queryAt_succ]
    omega

end Passed

/-- A poll that begins here and is over at a moment, with the query after `k` others, keeps
within its waiting time. -/
structure InBudget (p : Polling σ) (x : Standing σ) (k finish : Nat) : Prop where
  queries : k + 1 ≤ p.settings.queryLimit
  sleeps : ∀ j < k, 0 < p.pause (p.queryAt j x) ∧
    (p.queryAt (j + 1) x).begun =
      x.timer.wake ((p.queryAt j x).ended + p.pause (p.queryAt j x))
  returned : finish = (p.queryAt k x).ended
  /-- Where no sleep ends later than it should by more than some time. -/
  prompt : ∀ late, (∀ j < k, x.timer.wake ((p.queryAt j x).ended + p.pause (p.queryAt j x)) ≤
      (p.queryAt j x).ended + p.pause (p.queryAt j x) + late) →
    (∀ j ≤ k, (p.queryAt j x).begun ≤ x.now + p.settings.maxWait.nanos + late) ∧
      finish ≤ x.now + p.settings.maxWait.nanos + late +
        ((p.queryAt k x).ended - (p.queryAt k x).begun)
  /-- Where each sleep ends exactly when it should. -/
  exact : (∀ j < k, x.timer.wake ((p.queryAt j x).ended + p.pause (p.queryAt j x)) =
      (p.queryAt j x).ended + p.pause (p.queryAt j x)) →
    (∀ j ≤ k, (p.queryAt j x).begun ≤ x.now + p.settings.maxWait.nanos) ∧
      finish ≤ x.now + p.settings.maxWait.nanos + ((p.queryAt k x).ended - (p.queryAt k x).begun)

/-- A poll that has ended keeps within its waiting time. -/
theorem Ended.inBudget {c : Conversation σ} {k : Nat}
    {result : Except Halt TaskInfo × Conversation σ} (h : p.Ended c k result)
    (hpause : 0 < p.settings.interval.nanos) (hstarted : p.started = c.now)
    (hover : result.2.now = (p.queryAt k c.standing).ended) :
    p.InBudget c.standing k result.2.now := by
  have hx : p.started = c.standing.now := hstarted
  have hprompt : ∀ late, (∀ j < k, c.standing.timer.wake
        ((p.queryAt j c.standing).ended + p.pause (p.queryAt j c.standing)) ≤
          (p.queryAt j c.standing).ended + p.pause (p.queryAt j c.standing) + late) →
      (∀ j ≤ k, (p.queryAt j c.standing).begun ≤
        c.standing.now + p.settings.maxWait.nanos + late) ∧
      result.2.now ≤ c.standing.now + p.settings.maxWait.nanos + late +
        ((p.queryAt k c.standing).ended - (p.queryAt k c.standing).begun) := by
    intro late hlate
    have hbegun : ∀ j ≤ k, (p.queryAt j c.standing).begun ≤
        c.standing.now + p.settings.maxWait.nanos + late := fun j hj =>
      begun_le hx (fun i hi => h.passed i (Nat.lt_of_lt_of_le hi hj))
        fun i hi => hlate i (Nat.lt_of_lt_of_le hi hj)
    have hlast := hbegun k (Nat.le_refl k)
    have hended := begun_le_ended p k c.standing
    exact ⟨hbegun, by omega⟩
  refine ⟨succ_le_queryLimit hx h.passed hpause, fun j hj => ?_, hover, hprompt, fun hexact => ?_⟩
  · exact ⟨pause_pos hpause (h.passed j hj), begun_queryAt_succ p j _⟩
  · exact hprompt 0 fun j hj => Nat.le_of_eq (hexact j hj)

/-- With the timer that works in whole milliseconds no query begins a tick or more after the
waiting time. -/
theorem InBudget.begun_lt {x : Standing σ} {k finish : Nat} (h : p.InBudget x k finish)
    (hticking : x.timer = .ticking) :
    ∀ j ≤ k, (p.queryAt j x).begun < x.now + p.settings.maxWait.nanos + Clock.tick := by
  have hlate : ∀ deadline, x.timer.wake deadline ≤ deadline + (Clock.tick - 1) := by
    intro deadline
    have hwake := Clock.wake_lt deadline
    rw [hticking]
    change Clock.wake deadline ≤ _
    omega
  have htick : 0 < Clock.tick := by decide
  intro j hj
  have hbegun := (h.prompt (Clock.tick - 1) fun i _ => hlate _).1 j hj
  omega

end Polling

namespace Conversation

variable {σ : Type}

/-- A poll with a pause between its queries comes to its end whatever the gateway answers, with
at least one query and no more than one for each interval in its waiting time and one at the end
of that. It sleeps between any two queries, and none begins after the waiting time but for the
time by which the timer is late. -/
theorem poll_bounded (service : Service σ) {settings : PollSettings}
    (hpause : 0 < settings.interval.nanos) {c : Conversation σ} (hshutdown : c.shutdown = none)
    (taskId : String) :
    ∃ k, Polling.Ended ⟨service, settings, taskId, c.now⟩ c k
        (c.poll service settings taskId) ∧
      Polling.InBudget ⟨service, settings, taskId, c.now⟩ c.standing k
        (c.poll service settings taskId).2.now := by
  obtain ⟨k, hended, hover⟩ := exists_poll_ended service hpause hshutdown taskId
  exact ⟨k, hended, hended.inBudget hpause rfl hover⟩

/-- A gateway that answers at once, and for ever that a task runs. -/
def neverCompletes : Service Unit := fun _ _ _ =>
  (⟨.zero, .body (Text.bytesOf "\x7b\"status\": \"RUNNING\"\x7d")⟩, ())

/-- Queries three hundred milliseconds and a half apart, and one when the second is over. -/
def restless : PollSettings := ⟨⟨300500000⟩, .ofSeconds 1⟩

/-- A poll with an exact timer that uses up its waiting time with as many queries as it can
have. -/
theorem poll_bounded_restless :
    let c : Conversation Unit := { gateway := (), timer := .exact }
    let ended := c.poll neverCompletes restless "a"
    ended.2.calls.map (·.1) = [1000000000, 901500000, 601000000, 300500000, 0] ∧
      restless.queryLimit = 5 ∧
      ∃ k, Polling.Ended ⟨neverCompletes, restless, "a", 0⟩ c k ended ∧
        Polling.InBudget ⟨neverCompletes, restless, "a", 0⟩ c.standing k ended.2.now ∧
        ∀ j ≤ k, (Polling.queryAt ⟨neverCompletes, restless, "a", 0⟩ j c.standing).begun ≤
          0 + restless.maxWait.nanos := by
  intro c ended
  have hpause : 0 < restless.interval.nanos := by decide
  have hshutdown : c.shutdown = none := rfl
  obtain ⟨k, hended, hbudget⟩ := poll_bounded neverCompletes hpause hshutdown "a"
  refine ⟨?_, by decide, k, hended, hbudget, (hbudget.exact fun _ _ => rfl).1⟩
  decide +kernel

end Conversation

end GatewayProbe.Gateway
