import GatewayProbe.Proofs.Load.Chronicle

/-!
# A load command and a shutdown in any order

A load command has its server started, asks for the health of the gateway and does its run. A
shutdown can be broadcast between any two of its steps, and it reaches the receivers that listen by
then. All of them belong to the run. They begin to listen one after the other when it begins: first
the one of who releases the users, and then two for each user. So a user begins no iteration after
a broadcast that reaches it. Nobody is released before all receivers listen, so a user that is not
reached begins all its iterations after the broadcast. When each step takes place, what the gateway
answers and what the users draw is left open.
-/

namespace GatewayProbe.Load

open GatewayProbe.Gateway

/-- What can happen while a load command is carried out. -/
inductive Occurrence where
  /-- The server is ready, or there is none to wait for. -/
  | ready
  /-- The server cannot be started or does not get ready. -/
  | unready
  /-- The health check of the gateway is answered. -/
  | checked (answer : Answer)
  /-- The run begins. -/
  | begun
  /-- The next receiver of the run begins to listen. -/
  | subscribed
  /-- The shutdown is broadcast. -/
  | broadcast
  /-- Something else happens in the run. -/
  | run (e : Event) (h : e ≠ .shutdown)
  deriving DecidableEq

/-- What is seen as an event by a run. -/
def Occurrence.ofEvent (e : Event) : Occurrence :=
  if h : e = .shutdown then .broadcast else .run e h

/-- The number of the receiver from which whoever acts would know of the shutdown. A user has one
while it waits to be released and another one for its iterations. -/
def Event.receiver : Event → Nat
  | .release | .endRelease | .shutdown => 0
  | .leave user => 2 * user + 1
  | .start user | .answer user _ | .wake user | .stop user => 2 * user + 2

/-- How many receivers listen before an event of a run with a number of users: a user waits to be
released once its own receivers listen, and users are released once all receivers do. -/
def Event.audience (users : Nat) (e : Event) : Nat := 2 * (e.user?.elim users (· + 1)) + 1

/-- Who listens to the shutdown in a run. The receivers are numbered in the order in which they
begin to listen. -/
structure Audience where
  /-- How many receivers listen. -/
  size : Nat := 0
  /-- How many of them did so at the last broadcast. -/
  reached : Nat := 0

/-- How far a load command has come. -/
inductive Phase where
  /-- The server is started. -/
  | starting
  /-- The health check made at a moment is under way. -/
  | checking (sent : Nat)
  /-- The gateway has given its health. -/
  | healthy
  | running (run : Run) (audience : Audience)
  /-- There is no run. -/
  | failed

/-- A load command on its way. -/
structure Attempt where
  plan : Plan
  entropy : Nat → Random.Stream
  now : Nat
  phase : Phase := .starting

namespace Attempt

/-- What becomes of a command without a run when something happens now. A broadcast reaches
nobody. -/
def prepare (a : Attempt) : Phase → Occurrence → Option Phase
  | .starting, .ready => some (.checking a.now)
  | .starting, .unready => some .failed
  | .checking sent, .checked answer =>
    match answer.health (Clock.since sent a.now) with
    | .error _ => some .failed
    | .ok _ => some .healthy
  | .healthy, .begun =>
    match Run.begin a.plan a.now a.entropy with
    | .error _ => some .failed
    | .ok run => some (.running run {})
  | phase, .broadcast => some phase
  | _, _ => none

/-- What becomes of a run when something happens at a moment. Whoever acts knows of the shutdown
only if its receiver has been reached. -/
def proceed (run : Run) (audience : Audience) (moment : Nat) : Occurrence → Option Phase
  | .subscribed =>
    if audience.size ≤ 2 * run.users.size then
      some (.running run { audience with size := audience.size + 1 })
    else none
  | .broadcast => (run.step moment .shutdown).map fun run =>
      .running run { audience with reached := audience.size }
  | .run e _ =>
    if e.audience run.users.size ≤ audience.size then
      ({ run with stopped := e.receiver < audience.reached }.step moment e).map fun run =>
        .running run audience
    else none
  | .ready | .unready | .checked _ | .begun => none

/-- What becomes of a command when something happens now, if it can happen. -/
def happen (a : Attempt) (o : Occurrence) : Option Phase :=
  match a.phase with
  | .running run audience => proceed run audience a.now o
  | phase => a.prepare phase o

/-- The state after something that happens at a moment, if it can happen then. -/
def step (a : Attempt) (moment : Nat) (o : Occurrence) : Option Attempt :=
  if a.now ≤ moment then
    ({ a with now := moment }.happen o).map fun phase => { a with now := moment, phase }
  else none

/-- The state after a number of things, if all of them can happen. -/
def replay : List (Nat × Occurrence) → Attempt → Option Attempt
  | [], a => some a
  | (moment, o) :: rest, a => (a.step moment o).bind (replay rest)

/-- Whether a command does its run. -/
def HasRun (a : Attempt) : Prop := ∃ run audience, a.phase = .running run audience

/-- The moments at which a user has begun iterations, in order. -/
def beginnings (a : Attempt) (user : Nat) : List Nat :=
  match a.phase with
  | .running run _ => run.beginnings user
  | _ => []

/-- Whether a user listens to the shutdown. -/
def Listens (a : Attempt) (user : Nat) : Prop :=
  ∃ run audience, a.phase = .running run audience ∧ 2 * user + 2 < audience.size

/-- Whether a shutdown has been broadcast to a user. -/
def IsReached (a : Attempt) (user : Nat) : Prop :=
  ∃ run audience, a.phase = .running run audience ∧ 2 * user + 2 < audience.reached

variable {a b : Attempt} {moment : Nat} {o : Occurrence} {before after : List (Nat × Occurrence)}

/-- A step takes time, and something happens then. -/
theorem of_step (h : a.step moment o = some b) : a.now ≤ moment ∧
    ∃ phase, { a with now := moment }.happen o = some phase ∧
      b = { a with now := moment, phase } := by
  unfold step at h
  split_ifs at h with hmoment
  obtain ⟨phase, hhappen, rfl⟩ := Option.map_eq_some_iff.mp h
  exact ⟨hmoment, phase, hhappen, rfl⟩

/-- What happens is replayed one thing after the other. -/
theorem replay_append (before after : List (Nat × Occurrence)) (a : Attempt) :
    replay (before ++ after) a = (replay before a).bind (replay after) := by
  induction before generalizing a with
  | nil => rfl
  | cons o rest ih =>
    rw [List.cons_append, replay, replay, Option.bind_assoc]
    exact congrArg _ (funext ih)

theorem replay_cons_of_step (h : a.step moment o = some b) (rest : List (Nat × Occurrence)) :
    replay ((moment, o) :: rest) a = replay rest b := by
  rw [replay, h]
  rfl

/-! ### Runs on their way -/

/-- A run that is not ahead of a moment and in which no user is released before all receivers
listen. -/
structure Going (now : Nat) (run : Run) (audience : Audience) : Prop where
  commands : run.plan.commands ≠ []
  behind : run.now ≤ now
  /-- Only receivers that listen are reached. -/
  reached : audience.reached ≤ audience.size
  /-- No permit is given out as long as there are receivers that do not listen yet. -/
  permits : audience.size ≤ 2 * run.users.size → run.permits = 0
  /-- And no user has done anything. -/
  quiet : audience.size ≤ 2 * run.users.size → ∀ (user : Nat) (u : User),
    run.users[user]? = some u → u.hasStarted = false ∧ u.diary = []

variable {run run' : Run} {audience : Audience} {now : Nat}

/-- A run that has just begun. -/
theorem going_of_begin {plan : Plan} {entropy : Nat → Random.Stream}
    (h : Run.begin plan now entropy = .ok run) : Going now run {} := by
  obtain ⟨hvalid, deadline, -, rfl⟩ := Run.begin_eq_ok.mp h
  refine ⟨(Run.validate_eq_ok.mp hvalid).1, le_rfl, le_rfl, fun _ => rfl, fun _ user u hu => ?_⟩
  obtain ⟨id, -, rfl⟩ := Option.map_eq_some_iff.mp (Run.users_ofPlan ▸ hu)
  exact ⟨rfl, rfl⟩

/-- Without a permit, users that have not started can only go away. -/
theorem Going.leave_of_happen (h : Going now run audience)
    (hquiet : audience.size ≤ 2 * run.users.size) {stopped : Bool} {e : Event} {user : Nat}
    (huser : e.user? = some user)
    (hhappen : { run with stopped, now := moment }.happen e = some run') :
    ∃ u, run.users[user]? = some u ∧ run' = ({ run with stopped, now := moment } : Run).put user
      { u with stage := .gone } := by
  have hpermits := h.permits hquiet
  have hstage : ∀ u, run.users[user]? = some u → u.stage = .waiting ∨ u.stage = .gone := by
    intro u hu
    have hnone := (h.quiet hquiet user u hu).1
    unfold User.hasStarted at hnone
    split at hnone <;> simp_all
  cases e with
  | release | endRelease | shutdown => cases huser
  | start =>
    obtain rfl := Option.some.inj huser
    obtain ⟨u, -, hhappen⟩ := Option.bind_eq_some_iff.mp hhappen
    split_ifs at hhappen with hready
    exact absurd hready.2 (by simp [hpermits])
  | leave =>
    obtain rfl := Option.some.inj huser
    obtain ⟨u, hu, hhappen⟩ := Option.bind_eq_some_iff.mp hhappen
    split_ifs at hhappen
    exact ⟨u, hu, (Option.some.inj hhappen).symm⟩
  | answer =>
    obtain rfl := Option.some.inj huser
    obtain ⟨u, hu, hhappen⟩ := Option.bind_eq_some_iff.mp hhappen
    obtain ⟨_, hreceive, -⟩ := Option.bind_eq_some_iff.mp hhappen
    rcases hstage u hu with hu' | hu' <;> simp [User.receive?, hu'] at hreceive
  | wake =>
    obtain rfl := Option.some.inj huser
    obtain ⟨u, hu, hhappen⟩ := Option.bind_eq_some_iff.mp hhappen
    obtain ⟨_, hwake, -⟩ := Option.bind_eq_some_iff.mp hhappen
    rcases hstage u hu with hu' | hu' <;> simp [User.wake?, hu'] at hwake
  | stop =>
    obtain rfl := Option.some.inj huser
    obtain ⟨u, hu, hhappen⟩ := Option.bind_eq_some_iff.mp hhappen
    rcases hstage u hu with hu' | hu' <;> simp [hu'] at hhappen

/-- An event of a run on its way leaves a run on its way. -/
theorem Going.event (h : Going now run audience) {stopped : Bool} {e : Event}
    (haudience : e.audience run.users.size ≤ audience.size)
    (hhappen : { run with stopped, now := moment }.happen e = some run') :
    Going moment run' audience := by
  have hchange := Run.change_of_happen hhappen
  have hsize : run'.users.size = run.users.size := hchange.size
  have hleave : audience.size ≤ 2 * run'.users.size → ∃ user u, run.users[user]? = some u ∧
      run' = ({ run with stopped, now := moment } : Run).put user { u with stage := .gone } := by
    intro hquiet
    rw [hsize] at hquiet
    cases huser : e.user? with
    | none =>
      rw [Event.audience, huser] at haudience
      exact absurd (haudience.trans hquiet) (by simp)
    | some user =>
      obtain ⟨u, hu, hrun'⟩ := h.leave_of_happen hquiet huser hhappen
      exact ⟨user, u, hu, hrun'⟩
  refine ⟨hchange.framed.plan ▸ h.commands, hchange.now.le, h.reached, fun hquiet => ?_,
    fun hquiet place v hv => ?_⟩
  · obtain ⟨user, u, -, rfl⟩ := hleave hquiet
    exact h.permits (hsize ▸ hquiet)
  · obtain ⟨user, u, hu, rfl⟩ := hleave hquiet
    rcases Run.of_getElem?_setIfInBounds hv with ⟨-, rfl⟩ | hold
    · exact ⟨rfl, (h.quiet (hsize ▸ hquiet) user u hu).2⟩
    · exact h.quiet (hsize ▸ hquiet) place v hold

/-- A user whose receivers do not all listen has not begun any iteration. -/
theorem Going.beginnings_eq_nil (h : Going now run audience) {user : Nat}
    (hdeaf : audience.size ≤ 2 * user + 2) : run.beginnings user = [] := by
  rw [Run.beginnings]
  cases hu : run.users[user]? with
  | none => rfl
  | some u =>
    have huser : user < run.users.size := (Array.getElem?_eq_some_iff.mp hu).1
    obtain ⟨-, hdiary⟩ := h.quiet (by omega) user u hu
    rw [Option.elim, hdiary]
    rfl

/-- What becomes of a run on its way: it stays on its way, and a user may have begun an iteration
now unless the shutdown has been broadcast to it. -/
theorem Going.proceed (h : Going now run audience) (hmoment : now ≤ moment) {phase : Phase}
    (hproceed : Attempt.proceed run audience moment o = some phase) :
    ∃ run' audience', phase = .running run' audience' ∧ Going moment run' audience' ∧
      audience.size ≤ audience'.size ∧ audience.reached ≤ audience'.reached ∧
      ∀ user, ∃ later, run'.beginnings user = run.beginnings user ++ later ∧
        (∀ begun ∈ later, begun = moment) ∧ (2 * user + 2 < audience.reached → later = []) := by
  have hsame : ∀ user, ∃ later, run.beginnings user = run.beginnings user ++ later ∧
      (∀ begun ∈ later, begun = moment) ∧ (2 * user + 2 < audience.reached → later = []) :=
    fun user => ⟨[], (List.append_nil _).symm, by simp, fun _ => rfl⟩
  cases o with
  | ready | unready | checked | begun => cases hproceed
  | subscribed =>
    simp only [Attempt.proceed] at hproceed
    split_ifs at hproceed with hmore
    obtain rfl := Option.some.inj hproceed
    refine ⟨_, _, rfl, ⟨h.commands, h.behind.trans hmoment, h.reached.trans (Nat.le_succ _),
      fun _ => h.permits hmore, fun _ => h.quiet hmore⟩, Nat.le_succ _, le_rfl, hsame⟩
  | broadcast =>
    obtain ⟨run', hstep, rfl⟩ := Option.map_eq_some_iff.mp hproceed
    unfold Run.step at hstep
    split_ifs at hstep
    obtain rfl := Option.some.inj hstep
    exact ⟨_, _, rfl, ⟨h.commands, le_rfl, le_rfl, h.permits, h.quiet⟩, le_rfl, h.reached, hsame⟩
  | run e he =>
    simp only [Attempt.proceed] at hproceed
    split_ifs at hproceed with haudience
    obtain ⟨run', hstep, rfl⟩ := Option.map_eq_some_iff.mp hproceed
    unfold Run.step at hstep
    split_ifs at hstep
    refine ⟨run', audience, rfl, h.event haudience hstep, le_rfl, le_rfl, fun user => ?_⟩
    obtain ⟨later, hlater, hnow, hnew⟩ :=
      (Run.change_of_happen hstep).beginnings h.commands user
    refine ⟨later, hlater, hnow, fun hreached => ?_⟩
    by_contra hbegun
    obtain ⟨huser, hstopped⟩ := hnew hbegun
    have hreceiver : e.receiver ≤ 2 * user + 2 := by
      cases e <;> simp_all [Event.receiver, Event.user?]
    exact absurd (hreceiver.trans_lt hreached) (of_decide_eq_false hstopped)

/-! ### Commands on their way -/

/-- A command whose run, if it does it, is on its way. -/
def Sound (a : Attempt) : Prop :=
  ∀ run audience, a.phase = .running run audience → Going a.now run audience

/-- How a command goes on: who listens or has been reached stays so, and users that have not been
reached may begin iterations. -/
structure Onward (a b : Attempt) : Prop where
  now : a.now ≤ b.now
  listens : ∀ user, a.Listens user → b.Listens user
  isReached : ∀ user, a.IsReached user → b.IsReached user
  beginnings : ∀ user, ∃ later, b.beginnings user = a.beginnings user ++ later ∧
    (∀ begun ∈ later, a.now ≤ begun ∧ begun ≤ b.now) ∧ (a.IsReached user → later = [])

theorem Onward.refl (a : Attempt) : Onward a a :=
  ⟨le_rfl, fun _ => id, fun _ => id, fun _ => ⟨[], (List.append_nil _).symm, by simp, fun _ => rfl⟩⟩

theorem Onward.trans {c : Attempt} (h : Onward a b) (h' : Onward b c) : Onward a c := by
  refine ⟨h.now.trans h'.now, fun user => h'.listens user ∘ h.listens user,
    fun user => h'.isReached user ∘ h.isReached user, fun user => ?_⟩
  obtain ⟨early, hb, hearly, hsilent⟩ := h.beginnings user
  obtain ⟨late, hc, hlate, hsilent'⟩ := h'.beginnings user
  refine ⟨early ++ late, by rw [hc, hb, List.append_assoc], ?_, fun hreached => ?_⟩
  · rw [List.forall_mem_append]
    exact ⟨fun begun hbegun => ⟨(hearly begun hbegun).1, (hearly begun hbegun).2.trans h'.now⟩,
      fun begun hbegun => ⟨h.now.trans (hlate begun hbegun).1, (hlate begun hbegun).2⟩⟩
  · rw [hsilent hreached, hsilent' (h.isReached user hreached)]
    rfl

/-- A command without a run has not begun anything. -/
theorem beginnings_of_not_hasRun (hnone : ¬ a.HasRun) (user : Nat) : a.beginnings user = [] := by
  unfold beginnings
  split
  · rename_i run audience hphase
    exact absurd ⟨run, audience, hphase⟩ hnone
  · rfl

/-- A command without a run stays without one or begins it. -/
theorem begin_of_step (hnone : ¬ a.HasRun) (h : a.step moment o = some b) (hrun : b.HasRun) :
    ∃ run, Run.begin a.plan moment a.entropy = .ok run ∧
      b = { a with now := moment, phase := .running run {} } := by
  obtain ⟨-, phase, hhappen, rfl⟩ := of_step h
  obtain ⟨run, audience, hphase⟩ := hrun
  obtain rfl : phase = .running run audience := hphase
  obtain ⟨plan, entropy, now, phase⟩ := a
  cases phase with
  | running run audience => exact absurd ⟨run, audience, rfl⟩ hnone
  | failed | starting => cases o <;> cases hhappen
  | checking sent =>
    cases o with
    | checked answer =>
      simp only [happen, prepare] at hhappen
      split at hhappen <;> cases hhappen
    | _ => cases hhappen
  | healthy =>
    cases o with
    | begun =>
      simp only [happen, prepare] at hhappen
      split at hhappen
      · cases hhappen
      · rename_i run' hbegin
        obtain ⟨rfl, rfl⟩ := Phase.running.inj (Option.some.inj hhappen)
        exact ⟨run', hbegin, rfl⟩
    | _ => cases hhappen

/-- One step of a command that does its run. -/
private theorem onward_of_running (hsound : a.Sound) (hphase : a.phase = .running run audience)
    (h : a.step moment o = some b) : b.Sound ∧ Onward a b := by
  obtain ⟨hmoment, phase, hhappen, rfl⟩ := of_step h
  simp only [happen, hphase] at hhappen
  obtain ⟨run', audience', rfl, hgoing, hsize, hreached, hbegun⟩ :=
    (hsound run audience hphase).proceed hmoment hhappen
  refine ⟨fun _ _ hlast => ?_, hmoment, fun user ⟨_, _, hrunning, hlt⟩ => ?_,
    fun user ⟨_, _, hrunning, hlt⟩ => ?_, fun user => ?_⟩
  · obtain ⟨rfl, rfl⟩ := Phase.running.inj hlast
    exact hgoing
  · obtain ⟨-, rfl⟩ := Phase.running.inj (hphase.symm.trans hrunning)
    exact ⟨run', audience', rfl, hlt.trans_le hsize⟩
  · obtain ⟨-, rfl⟩ := Phase.running.inj (hphase.symm.trans hrunning)
    exact ⟨run', audience', rfl, hlt.trans_le hreached⟩
  · obtain ⟨later, hlater, hnow, hsilent⟩ := hbegun user
    refine ⟨later, ?_, fun begun hbegun => ?_, fun ⟨_, _, hrunning, hlt⟩ => ?_⟩
    · simp only [beginnings, hphase]
      exact hlater
    · rw [hnow begun hbegun]
      exact ⟨hmoment, le_rfl⟩
    · obtain ⟨-, rfl⟩ := Phase.running.inj (hphase.symm.trans hrunning)
      exact hsilent hlt

/-- One step of a command without a run. -/
private theorem onward_of_not_hasRun (hnone : ¬ a.HasRun) (h : a.step moment o = some b) :
    b.Sound ∧ Onward a b := by
  have hbegun : ∀ run audience, b.phase = .running run audience →
      Going b.now run audience ∧ ∀ user, run.beginnings user = [] := by
    intro run audience hphase
    obtain ⟨run', hbegin, rfl⟩ := begin_of_step hnone h ⟨run, audience, hphase⟩
    obtain ⟨rfl, rfl⟩ := Phase.running.inj hphase
    have hgoing := going_of_begin hbegin
    exact ⟨hgoing, fun user => hgoing.beginnings_eq_nil (Nat.zero_le _)⟩
  have hnobody : ∀ user, b.beginnings user = [] := by
    intro user
    by_cases hrun : b.HasRun
    · obtain ⟨run, audience, hphase⟩ := hrun
      simp only [beginnings, hphase]
      exact (hbegun run audience hphase).2 user
    · exact beginnings_of_not_hasRun hrun user
  have hnow : a.now ≤ b.now := by
    obtain ⟨hmoment, phase, -, rfl⟩ := of_step h
    exact hmoment
  refine ⟨fun run audience hphase => (hbegun run audience hphase).1, hnow,
    fun user ⟨run, audience, hphase, _⟩ => absurd ⟨run, audience, hphase⟩ hnone,
    fun user ⟨run, audience, hphase, _⟩ => absurd ⟨run, audience, hphase⟩ hnone,
    fun user => ⟨[], ?_, by simp, fun _ => rfl⟩⟩
  rw [beginnings_of_not_hasRun hnone, hnobody]
  rfl

/-- One step of a command. -/
theorem onward_step (hsound : a.Sound) (h : a.step moment o = some b) :
    b.Sound ∧ Onward a b := by
  by_cases hrun : a.HasRun
  · obtain ⟨run, audience, hphase⟩ := hrun
    exact onward_of_running hsound hphase h
  · exact onward_of_not_hasRun hrun h

/-- All steps of a command. -/
theorem onward_replay {os : List (Nat × Occurrence)} (hsound : a.Sound)
    (h : replay os a = some b) : b.Sound ∧ Onward a b := by
  induction os generalizing a with
  | nil =>
    obtain rfl := Option.some.inj h
    exact ⟨hsound, .refl a⟩
  | cons first rest ih =>
    obtain ⟨a₁, hstep, hrest⟩ := Option.bind_eq_some_iff.mp h
    obtain ⟨hsound₁, honward⟩ := onward_step hsound hstep
    obtain ⟨hsound', honward'⟩ := ih hsound₁ hrest
    exact ⟨hsound', honward.trans honward'⟩

/-! ### The broadcast -/

/-- Before the gateway has given its health a command does no run. -/
theorem not_hasRun_of_phase {phase : Phase}
    (h : phase = .starting ∨ ∃ sent, phase = .checking sent) (plan : Plan)
    (entropy : Nat → Random.Stream) (now : Nat) : ¬ HasRun ⟨plan, entropy, now, phase⟩ := by
  rintro ⟨run, audience, hrunning⟩
  rcases h with rfl | ⟨sent, rfl⟩ <;> cases hrunning

/-- There is nothing to show of a command without a run. -/
theorem sound_of_not_hasRun (h : ¬ a.HasRun) : a.Sound :=
  fun run audience hphase => absurd ⟨run, audience, hphase⟩ h

/-- A broadcast to a command without a run only lets time pass. -/
theorem step_broadcast (hnone : ¬ a.HasRun) (h : a.step moment .broadcast = some b) :
    a.now ≤ moment ∧ b = { a with now := moment } := by
  obtain ⟨hmoment, phase, hhappen, rfl⟩ := of_step h
  refine ⟨hmoment, ?_⟩
  obtain ⟨plan, entropy, now, phase⟩ := a
  cases phase with
  | running run audience => exact absurd ⟨run, audience, rfl⟩ hnone
  | starting | checking | healthy | failed => rw [← Option.some.inj hhappen]

/-- Without it the command comes to the same. -/
theorem exists_replay_of_lost {a₁ : Attempt} (hnone : ¬ a.HasRun)
    (h : a.step moment .broadcast = some a₁) (hafter : replay after a₁ = some b) :
    ∃ b', replay after a = some b' ∧ b'.phase = b.phase := by
  obtain ⟨hmoment, rfl⟩ := step_broadcast hnone h
  cases after with
  | nil =>
    obtain rfl := Option.some.inj hafter
    exact ⟨a, rfl, rfl⟩
  | cons first rest =>
    refine ⟨b, ?_, rfl⟩
    obtain ⟨a₂, hnext, hlast⟩ := Option.bind_eq_some_iff.mp hafter
    have hsame : a.step first.1 first.2 = some a₂ := by
      unfold step at hnext ⊢
      split_ifs at hnext with hle
      rwa [if_pos (hmoment.trans hle)]
    rw [replay_cons_of_step hsame]
    exact hlast

/-- A broadcast reaches all users that listen, and no iteration begins by it. -/
theorem reached_of_broadcast (h : a.step moment .broadcast = some b) (user : Nat) :
    (a.Listens user → b.IsReached user) ∧ b.beginnings user = a.beginnings user := by
  by_cases hrun : a.HasRun
  · obtain ⟨run, audience, hphase⟩ := hrun
    obtain ⟨-, phase, hhappen, rfl⟩ := of_step h
    simp only [happen, hphase] at hhappen
    obtain ⟨run', hstep, rfl⟩ := Option.map_eq_some_iff.mp hhappen
    unfold Run.step at hstep
    split_ifs at hstep
    obtain rfl := Option.some.inj hstep
    refine ⟨fun ⟨_, _, hrunning, hlt⟩ => ⟨_, _, rfl, ?_⟩, ?_⟩
    · obtain ⟨rfl, rfl⟩ := Phase.running.inj (hphase.symm.trans hrunning)
      exact hlt
    · simp only [beginnings, hphase]
      rfl
  · obtain ⟨-, rfl⟩ := step_broadcast hrun h
    exact ⟨fun ⟨run, audience, hphase, _⟩ => absurd ⟨run, audience, hphase⟩ hrun, rfl⟩

/-- A user that does not listen has not begun any iteration. -/
theorem Sound.beginnings_eq_nil (h : a.Sound) {user : Nat} (hdeaf : ¬ a.Listens user) :
    a.beginnings user = [] := by
  by_cases hrun : a.HasRun
  · obtain ⟨run, audience, hphase⟩ := hrun
    simp only [beginnings, hphase]
    exact (h run audience hphase).beginnings_eq_nil
      (not_lt.mp fun hlt => hdeaf ⟨run, audience, hphase, hlt⟩)
  · exact beginnings_of_not_hasRun hrun user

/-- A user that listens when the shutdown is broadcast begins no iteration after that. -/
theorem beginnings_of_listens {a₁ : Attempt} (hsound : a.Sound)
    (h : a.step moment .broadcast = some a₁) (hafter : replay after a₁ = some b) {user : Nat}
    (hlistens : a.Listens user) : b.beginnings user = a.beginnings user := by
  obtain ⟨hreached, hsame⟩ := reached_of_broadcast h user
  obtain ⟨later, hlater, -, hsilent⟩ :=
    (onward_replay (onward_step hsound h).1 hafter).2.beginnings user
  rw [hlater, hsilent (hreached hlistens), List.append_nil, hsame]

/-- A user that does not listen begins all its iterations after that. -/
theorem le_begun_of_not_listens {a₁ : Attempt} (hsound : a.Sound)
    (h : a.step moment .broadcast = some a₁) (hafter : replay after a₁ = some b) {user : Nat}
    (hdeaf : ¬ a.Listens user) : ∀ begun ∈ b.beginnings user, moment ≤ begun := by
  obtain ⟨-, hsame⟩ := reached_of_broadcast h user
  obtain ⟨later, hlater, hbetween, -⟩ :=
    (onward_replay (onward_step hsound h).1 hafter).2.beginnings user
  obtain ⟨-, phase, -, rfl⟩ := of_step h
  rw [hlater, hsame, hsound.beginnings_eq_nil hdeaf, List.nil_append]
  exact fun begun hbegun => (hbetween begun hbegun).1

/-- All iterations have begun on the way. -/
theorem le_now_of_replay {os : List (Nat × Occurrence)} (hnone : ¬ a.HasRun)
    (h : replay os a = some b) (user : Nat) : ∀ begun ∈ b.beginnings user, begun ≤ b.now := by
  obtain ⟨later, hlater, hbetween, -⟩ :=
    (onward_replay (sound_of_not_hasRun hnone) h).2.beginnings user
  rw [hlater, beginnings_of_not_hasRun hnone, List.nil_append]
  exact fun begun hbegun => (hbetween begun hbegun).2

/-- The shutdown can be broadcast at any time. -/
theorem exists_step_broadcast (hsound : a.Sound) (hmoment : a.now ≤ moment) :
    ∃ b, a.step moment .broadcast = some b := by
  unfold step
  rw [if_pos hmoment]
  obtain ⟨plan, entropy, now, phase⟩ := a
  cases phase with
  | running run audience =>
    have hbehind : run.now ≤ moment := (hsound run audience rfl).behind.trans hmoment
    simp only [happen, proceed, Run.step, if_pos hbehind]
    exact ⟨_, rfl⟩
  | starting | checking | healthy | failed => exact ⟨_, rfl⟩

/-! ### All receivers -/

/-- The receivers of a run begin to listen. -/
theorem replay_subscribed (hnow : a.now ≤ moment) (hphase : a.phase = .running run audience)
    (n : Nat)
    (hn : audience.size + n ≤ 2 * run.users.size + 1) :
    ∃ b, replay (List.replicate n (moment, .subscribed)) a = some b ∧ b.now ≤ moment ∧
      b.phase = .running run { audience with size := audience.size + n } := by
  induction n generalizing a audience with
  | zero => exact ⟨a, rfl, hnow, hphase⟩
  | succ n ih =>
    have hstep : a.step moment .subscribed = some { a with
        now := moment
        phase := .running run { audience with size := audience.size + 1 } } := by
      unfold step happen
      simp only [if_pos hnow, hphase, proceed]
      rw [if_pos (by omega)]
      rfl
    obtain ⟨b, hreplay, hb, hlast⟩ := ih (a := { a with
        now := moment
        phase := .running run { audience with size := audience.size + 1 } }) le_rfl rfl
      (by dsimp only; omega)
    refine ⟨b, ?_, hb, ?_⟩
    · rw [List.replicate_succ, replay_cons_of_step hstep]
      exact hreplay
    · rw [hlast, Nat.add_assoc, Nat.add_comm 1 n]

/-- All receivers of a run listen, and they have been reached if a shutdown has been announced. -/
structure Attentive (run : Run) (audience : Audience) : Prop where
  size : audience.size = 2 * run.users.size + 1
  reached : audience.reached = if run.stopped then audience.size else 0

/-- Then whoever acts knows whether a shutdown has been announced. -/
theorem Attentive.stopped_eq (h : Attentive run audience) {e : Event}
    (haudience : e.audience run.users.size ≤ audience.size) :
    decide (e.receiver < audience.reached) = run.stopped := by
  have hlt : e.receiver < e.audience run.users.size := by
    cases e <;> simp only [Event.receiver, Event.audience, Event.user?, Option.elim] <;> omega
  rw [h.reached]
  cases run.stopped with
  | true => exact decide_eq_true (hlt.trans_le haudience)
  | false => exact decide_eq_false (Nat.not_lt_zero _)

/-- What can happen to a run can happen in the command, and the receivers stay attentive. -/
theorem Attentive.exists_proceed (h : Attentive run audience) {e : Event}
    (hstep : run.step moment e = some run') : ∃ audience',
      proceed run audience moment (.ofEvent e) = some (.running run' audience') ∧
        Attentive run' audience' := by
  unfold Run.step at hstep
  split_ifs at hstep with hmoment
  have hchange := Run.change_of_happen hstep
  by_cases he : e = .shutdown
  · subst he
    obtain rfl := Option.some.inj hstep
    refine ⟨{ audience with reached := audience.size }, ?_, h.size, rfl⟩
    rw [Occurrence.ofEvent, dif_pos rfl, proceed, Run.step, if_pos hmoment]
    rfl
  · have haudience : e.audience run.users.size ≤ audience.size := by
      rw [h.size, Event.audience]
      cases huser : e.user? with
      | none => exact le_rfl
      | some user =>
        have hlt : user < run.users.size := hchange.lt_size huser
        rw [Option.elim]
        omega
    refine ⟨audience, ?_, h.size.trans (by rw [hchange.size]), ?_⟩
    · rw [Occurrence.ofEvent, dif_neg he]
      simp only [proceed, if_pos haudience, h.stopped_eq haudience, Run.step, if_pos hmoment, hstep]
      rfl
    · rw [hchange.stopped_eq he]
      exact h.reached

/-- All that can happen to the run can happen in the command. -/
theorem Attentive.exists_replay {events : List (Nat × Event)} (h : Attentive run audience)
    (hphase : a.phase = .running run audience) (hnow : a.now ≤ run.now)
    (hreplay : Run.replay events run = some run') :
    ∃ b, replay (events.map fun e => (e.1, .ofEvent e.2)) a = some b ∧
      ∃ audience', b.phase = .running run' audience' := by
  induction events generalizing a run audience with
  | nil =>
    obtain rfl := Option.some.inj hreplay
    exact ⟨a, rfl, audience, hphase⟩
  | cons first rest ih =>
    obtain ⟨moment, e⟩ := first
    obtain ⟨run₁, hstep, hrest⟩ := Option.bind_eq_some_iff.mp hreplay
    obtain ⟨audience₁, hproceed, hattentive⟩ := h.exists_proceed hstep
    unfold Run.step at hstep
    split_ifs at hstep with hmoment
    let a₁ : Attempt := { a with now := moment, phase := .running run₁ audience₁ }
    have htaken : a.step moment (.ofEvent e) = some a₁ := by
      unfold step happen
      simp only [if_pos (hnow.trans hmoment), hphase, hproceed]
      rfl
    have hnow₁ : a₁.now ≤ run₁.now := (Run.change_of_happen hstep).now.ge
    obtain ⟨b, hlast, hrunning⟩ := ih hattentive (a := a₁) rfl hnow₁ hrest
    refine ⟨b, ?_, hrunning⟩
    rw [List.map_cons, replay_cons_of_step htaken]
    exact hlast

/-- A run that begins is done by its command once all receivers listen. -/
theorem exists_replay_of_healthy {plan : Plan} {entropy : Nat → Random.Stream}
    {events : List (Nat × Event)} (hbegin : Run.begin plan now entropy = .ok run)
    (hreplay : Run.replay events run = some run') :
    ∃ rest b, replay rest ⟨plan, entropy, now, .healthy⟩ = some b ∧
      ∃ audience, b.phase = .running run' audience := by
  have hfresh : run.now = now ∧ run.stopped = false := by
    obtain ⟨-, _, -, rfl⟩ := Run.begin_eq_ok.mp hbegin
    exact ⟨rfl, rfl⟩
  obtain ⟨hnow, hopen⟩ := hfresh
  have hstep : step ⟨plan, entropy, now, .healthy⟩ now .begun =
      some ⟨plan, entropy, now, .running run {}⟩ := by
    simp only [step, happen, prepare, le_refl, if_true, hbegin, Option.map_some]
  obtain ⟨a, hlisten, hle, hphase⟩ := replay_subscribed
    (a := ⟨plan, entropy, now, .running run {}⟩) le_rfl rfl (2 * run.users.size + 1)
    (Nat.zero_add _).le
  obtain ⟨b, hran, hrunning⟩ := Attentive.exists_replay
    ⟨Nat.zero_add _, by rw [hopen]; rfl⟩ hphase (hle.trans hnow.ge) hreplay
  refine ⟨(now, .begun) :: (List.replicate (2 * run.users.size + 1) (now, .subscribed) ++
    events.map fun e => (e.1, .ofEvent e.2)), b, ?_, hrunning⟩
  rw [replay_cons_of_step hstep, replay_append, hlisten]
  exact hran

end Attempt

end GatewayProbe.Load
