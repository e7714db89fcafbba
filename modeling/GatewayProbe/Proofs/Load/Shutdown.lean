import GatewayProbe.Proofs.Load.Interleaving
import GatewayProbe.Proofs.Server.Enclosure

/-!
# What a shutdown stops

A run whose schedule expects a shutdown keeps watching for it: the turn of the shutdown is
possible, or its timer is set and the time does not jump over it. So no iteration begins after
it. But the schedule begins to expect it only with the run. A shutdown that comes while the
server is started or the gateway is checked is not seen by anybody later, and the run goes on as
if there were none.
-/

namespace GatewayProbe.Load

open GatewayProbe.Gateway GatewayProbe.Server

namespace Schedule

variable {σ : Type} {moment : Nat}

/-- A schedule in which no iteration has begun after a moment, and none will as long as the
time has not passed it without the run being stopped. -/
structure Guarded (moment : Nat) (s : Schedule σ) : Prop extends Regular s where
  begun : ∀ (user : Nat) (u : User), s.run.users[user]? = some u →
    ∀ begun ∈ Diary.beginnings u.diary, begun ≤ moment
  early : s.run.stopped = true ∨ s.now ≤ moment

/-- A guarded schedule that waits for the shutdown at this moment, or has seen it. -/
structure Alert (moment : Nat) (s : Schedule σ) : Prop extends Guarded moment s where
  pending : s.run.stopped = true ∨ (moment, .turn .shutdown) ∈ s.timers ∨ .shutdown ∈ s.ready

variable {s : Schedule σ}

/-- An event begins no iteration too late. -/
theorem Guarded.fire (h : Guarded moment s) (e : Event) :
    Guarded moment (s.fire e) ∧ (s.run.stopped = true → (s.fire e).run.stopped = true) := by
  have hregular := kept_regular.fire h.toRegular e
  rcases s.fire_cases e with heq | ⟨next, hbehind, hhappen, heq⟩
  · rw [heq]
    exact ⟨h, id⟩
  · have hlater := Run.later_replay h.commands (Run.replay_singleton hbehind hhappen)
    have hnow : next.now = s.now := (Run.change_of_happen hhappen).now
    rw [heq] at hregular ⊢
    refine ⟨⟨hregular, fun user u' hu' begun hbegun => ?_, h.early.imp_left hlater.stopped⟩,
      hlater.stopped⟩
    obtain ⟨u, later, hu, hdiary, hentries⟩ := hlater.diaries user u' hu'
    obtain ⟨choice, hentry⟩ := Diary.mem_beginnings.mp hbegun
    rw [hdiary] at hentry
    rcases List.mem_append.mp hentry with hnew | hold
    · obtain ⟨⟨_, hle⟩, hopen⟩ := hentries _ hnew
      have hearly : s.now ≤ moment := h.early.resolve_left (by simp [hopen choice rfl])
      exact hle.trans (hnow.le.trans hearly)
    · exact h.begun user u hu begun (Diary.mem_beginnings.mpr ⟨choice, hold⟩)

private theorem kept_guarded (moment : Nat) : Kept (Guarded moment : Schedule σ → Prop) where
  fire h e := (h.fire e).1
  goOn h t := ⟨kept_regular.goOn h.toRegular t, h.begun, h.early⟩
  lineUp h turns := ⟨kept_regular.lineUp h.toRegular turns, h.begun, h.early⟩
  setTimer h m a := ⟨kept_regular.setTimer h.toRegular m a, h.begun, h.early⟩
  hold h gateway queue kept :=
    ⟨kept_regular.hold h.toRegular gateway queue kept, h.begun, h.early⟩

private theorem kept_alert (moment : Nat) : Kept (Alert moment : Schedule σ → Prop) where
  fire h e := ⟨(h.toGuarded.fire e).1, h.pending.imp_left (h.toGuarded.fire e).2⟩
  goOn h t := ⟨(kept_guarded moment).goOn h.toGuarded t,
    h.pending.imp_right fun hp => hp.imp_right (List.mem_cons_of_mem t)⟩
  lineUp h turns := ⟨(kept_guarded moment).lineUp h.toGuarded turns,
    h.pending.imp_right fun hp => hp.imp_right (List.mem_append_left turns)⟩
  setTimer h m a := ⟨(kept_guarded moment).setTimer h.toGuarded m a,
    h.pending.imp_right fun hp => hp.imp_left fun hm => mem_insertTimer.mpr (Or.inr hm)⟩
  hold h gateway queue kept :=
    ⟨(kept_guarded moment).hold h.toGuarded gateway queue kept, h.pending⟩

/-- The shutdown is not passed over: its turn stops the run, and any other turn leaves it
possible. -/
theorem Alert.turn (h : Alert moment s) (service : Service σ) {t : Turn} {rest : List Turn}
    (hready : s.ready = t :: rest) : Alert moment ({ s with ready := rest }.take service t) := by
  have hpopped : Guarded moment { s with ready := rest } :=
    ⟨⟨h.behind, h.sorted, h.commands⟩, h.begun, h.early⟩
  have hother : (Turn.shutdown ∈ s.ready → Turn.shutdown ∈ rest) →
      Alert moment ({ s with ready := rest }.take service t) := by
    intro hkeep
    have halert : Alert moment { s with ready := rest } :=
      ⟨hpopped, h.pending.imp_right fun hp => hp.imp_right hkeep⟩
    exact (kept_alert moment).take halert service t
  cases t with
  | shutdown =>
    have hstopped : ({ s with ready := rest }.fire .shutdown).run.stopped = true := by
      unfold Schedule.fire Run.step
      rw [if_pos h.behind]
      rfl
    have halert : Alert moment ({ s with ready := rest }.fire .shutdown) :=
      ⟨(hpopped.fire .shutdown).1, Or.inl hstopped⟩
    exact (kept_alert moment).lineUp ((kept_alert moment).fire halert .endRelease) _
  | _ => exact hother fun hp => by simpa [hready] using hp

/-- The time does not jump over the shutdown. -/
theorem Alert.advanced (h : Alert moment s) (hready : s.ready = []) {timer : Nat × Alarm}
    {rest : List (Nat × Alarm)} (htimers : s.timers = timer :: rest) :
    Alert moment (s.advanced timer.1) := by
  have hdue : s.run.stopped = true ∨ (moment, Alarm.turn .shutdown) ∈ s.timers := by
    simpa [hready] using h.pending
  refine ⟨⟨h.toRegular.advanced timer.1, h.begun, ?_⟩, ?_⟩
  · rcases hdue with hstopped | hmem
    · exact Or.inl hstopped
    · refine h.early.imp_right fun hearly => max_le hearly ?_
      exact first_le (htimers ▸ h.sorted) (htimers ▸ hmem)
  · refine hdue.imp_right fun hmem => ?_
    exact (mem_advanced hmem).imp_right And.right

/-- A schedule that begins before the shutdown expects it. -/
theorem alert_ofRun {r : Run} (hc : r.plan.commands ≠ []) (hnow : r.now < moment)
    (hnone : ∀ (user : Nat) (u : User), r.users[user]? = some u → Diary.beginnings u.diary = [])
    (gateway : σ) : Alert moment (ofRun r gateway (some moment)) := by
  have hfirst : Guarded moment ({ run := r, gateway, now := r.now } : Schedule σ) := by
    refine ⟨⟨le_rfl, .nil, hc⟩, fun user u hu begun hbegun => ?_, Or.inr hnow.le⟩
    rw [hnone user u hu] at hbegun
    exact absurd hbegun List.not_mem_nil
  have hkept : Kept (Guarded moment : Schedule σ → Prop) := kept_guarded moment
  have hreleased := hkept.release r.plan.eventLimit hfirst
  unfold ofRun
  simp only [if_neg (not_le.mpr hnow)]
  refine ⟨hkept.setTimer (hkept.lineUp hreleased _) _ _, Or.inr (Or.inl ?_)⟩
  exact mem_insertTimer.mpr (Or.inl rfl)

end Schedule

section Command

variable {σ : Type} {service : Service σ} {plan : Plan} {entropy : Nat → Random.Stream}

/-- No iteration of a run begins after the shutdown that its schedule expects. -/
theorem Run.begun_le_of_carriedOut {r₀ : Run} {started moment : Nat}
    (hbegin : begin plan started entropy = .ok r₀) (hmoment : started < moment) (gateway : σ)
    (user : Nat) : ∀ begun ∈ (r₀.carriedOut service gateway (some moment)).1.beginnings user,
      begun ≤ moment := by
  obtain ⟨hvalid, deadline, _, rfl⟩ := begin_eq_ok.mp hbegin
  have hfirst : Schedule.Alert moment
      (Schedule.ofRun (ofPlan plan started deadline entropy) gateway (some moment)) := by
    refine Schedule.alert_ofRun (validate_eq_ok.mp hvalid).1 hmoment (fun user u hu => ?_) gateway
    obtain ⟨id, _, rfl⟩ := Option.map_eq_some_iff.mp (users_ofPlan ▸ hu)
    rfl
  have hlast := Schedule.carry_induction
    (fun h times => (Schedule.kept_alert moment).release times h) (fun h => h.turn service)
    (fun h hready htimers => h.advanced hready htimers) (4 * plan.eventLimit) hfirst
  intro begun hbegun
  obtain ⟨u, hu, hbegun⟩ := Run.mem_beginnings.mp hbegun
  exact hlast.begun user u hu begun hbegun

/-- To stop the server succeeds and leaves what is known of a shutdown. -/
private theorem stopServer_eq (spec : Spec) (w : World σ) :
    ∃ w', World.stopServer spec w = (.ok (), w') ∧
      w'.conversation.shutdown = w.conversation.shutdown := by
  unfold World.stopServer
  split
  · exact ⟨_, rfl, rfl⟩
  · exact ⟨_, rfl, rfl⟩

private theorem exists_work_of_workAndStop {α : Type} {launch : Launcher} {spec : Spec}
    {work : World σ → Except Failure α × World σ} {w w' : World σ} {value : α}
    (h : workAndStop (World.handling launch) spec work w = (.ok value, w')) :
    ∃ after, work w = (.ok value, after) ∧
      w'.conversation.shutdown = after.conversation.shutdown := by
  rcases hwork : work w with ⟨result, after⟩
  obtain ⟨stopped, hstop, hsame⟩ := stopServer_eq spec after
  have hstop' : (World.handling launch).stop spec after = (.ok (), stopped) := hstop
  unfold workAndStop at h
  simp only [hwork, hstop'] at h
  cases result with
  | error failure => exact absurd (Prod.mk.inj h).1 (by simp [settled])
  | ok result =>
    obtain ⟨hvalue, rfl⟩ := Prod.mk.inj h
    obtain rfl := Except.ok.inj hvalue
    exact ⟨after, rfl, hsame⟩

/-- Work that succeeds while a server runs, or without one, is done once time has passed, and knows
of the shutdown that is known in the end. -/
theorem exists_work_of_withOptionalServer {α : Type} {launch : Launcher} {spec : Option Spec}
    {work : World σ → Except Failure α × World σ} {w w' : World σ} {value : α}
    (h : withOptionalServer (World.handling launch) spec work w = (.ok value, w')) :
    ∃ before after, w.conversation.now ≤ before.conversation.now ∧
      work before = (.ok value, after) ∧
        w'.conversation.shutdown = after.conversation.shutdown := by
  cases spec with
  | none => exact ⟨w, w', le_rfl, h, rfl⟩
  | some spec =>
    unfold withOptionalServer withServer at h
    simp only at h
    split at h
    · exact absurd (Prod.mk.inj h).1 (by simp)
    · rename_i started hstart
      split at h
      · exact absurd (Prod.mk.inj h).1 (by simp)
      · rename_i ready hready
        have hstarted : w.conversation.now ≤ started.conversation.now := by
          have hsilent := World.silent_startServer launch spec w
          rw [show World.startServer launch spec w = _ from hstart] at hsilent
          exact hsilent.now
        have hwaited : started.conversation.now ≤ ready.conversation.now := by
          have hsilent := World.silent_awaitServer spec started
          rw [show World.awaitServer spec started = _ from hready] at hsilent
          exact hsilent.now
        obtain ⟨after, hwork, hsame⟩ := exists_work_of_workAndStop h
        refine ⟨_, after, ?_, hwork, hsame⟩
        exact hstarted.trans hwaited

/-- A health check that is passed was answered, and ends with the answer. -/
private theorem exists_answer_of_preflight {c after : Conversation σ} (hopen : c.shutdown = none)
    (h : preflight service c = (.ok (), after)) : ∃ (answer : Answer) (status : String),
      c.now ≤ after.now ∧ answer.health (Clock.since c.now after.now) = .ok status := by
  obtain ⟨m, hhealth⟩ := Conversation.health_eq service hopen
  unfold preflight at h
  rw [hhealth] at h
  cases hgiven : c.standing.health service with
  | error f =>
    rw [hgiven] at h
    exact absurd (Prod.mk.inj h).1 nofun
  | ok status =>
    rw [hgiven] at h
    obtain ⟨-, rfl⟩ := Prod.mk.inj h
    have hnow : (((c.exchange service .health).tell? m).tell (healthMessage status)).now =
        (c.standing.ask service .health).2.now := Conversation.now_tell? _ m
    refine ⟨(c.standing.ask service .health).1.answer, status, ?_, ?_⟩
    · rw [hnow]
      exact Conversation.le_arrival _ _
    · rw [hnow]
      exact hgiven

/-- Work that succeeds has carried out a run with what could be seen of the shutdown, once the
health check was answered. -/
theorem carriedOut_of_work {c c' : Conversation σ} {run : Run}
    (h : work service plan entropy c = (.ok run, c')) : ∃ answer status r₀ gateway,
      c.now ≤ run.started ∧ Answer.health (Clock.since c.now run.started) answer = .ok status ∧
      Run.begin plan run.started entropy = .ok r₀ ∧ c'.shutdown = c.shutdown ∧
        run = (r₀.carriedOut service gateway (shutdownSeen c.shutdown run.started)).1 := by
  unfold work at h
  split at h
  · exact absurd (Prod.mk.inj h).1 (by simp)
  · rename_i after hpreflight
    obtain ⟨answer, status, hlater, hanswer⟩ := exists_answer_of_preflight rfl hpreflight
    simp only at h
    split at h
    · exact absurd (Prod.mk.inj h).1 (by simp)
    · rename_i r₀ hbegin
      obtain ⟨hrun, rfl⟩ := Prod.mk.inj h
      have hsame := Except.ok.inj hrun
      have hstarted : run.started = after.now := by
        obtain ⟨events, hreplay⟩ := Run.exists_replay_carriedOut service r₀ after.gateway
          (shutdownSeen c.shutdown after.now)
        obtain ⟨_, deadline, _, rfl⟩ := Run.begin_eq_ok.mp hbegin
        rw [← hsame]
        exact (Run.framed_replay hreplay).started
      rw [hstarted]
      exact ⟨answer, status, r₀, after.gateway, hlater, hanswer, hbegin, rfl, hsame.symm⟩

namespace Attempt

/-- A command whose server is ready at one moment and whose health check is answered at another
one does its run then, also if a shutdown has been broadcast before, which reaches nobody. -/
theorem exists_replay_of_begin {started ready begun : Nat} {answer : Answer} {status : String}
    {run₀ run : Run} (hready : started ≤ ready) (hbegun : ready ≤ begun)
    (hanswer : answer.health (Clock.since ready begun) = .ok status)
    (hbegin : Run.begin plan begun entropy = .ok run₀) {events : List (Nat × Event)}
    (hreplay : Run.replay events run₀ = some run) (shutdown : Option Nat) :
    ∃ os b audience, replay os ⟨plan, entropy, started, .starting⟩ = some b ∧
      b.phase = .running run audience ∧
      ∀ moment, shutdown = some moment → started ≤ moment → moment ≤ begun →
        ∃ before after a, os = before ++ (moment, .broadcast) :: after ∧
          replay before ⟨plan, entropy, started, .starting⟩ = some a ∧ ¬ a.HasRun := by
  obtain ⟨rest, b, hrest, audience, hphase⟩ := exists_replay_of_healthy hbegin hreplay
  have hgetsReady : ∀ now ≤ ready, step ⟨plan, entropy, now, .starting⟩ ready .ready =
      some ⟨plan, entropy, ready, .checking ready⟩ := by
    intro now hle
    rw [step, if_pos hle]
    rfl
  have hchecked : ∀ now ≤ begun, step ⟨plan, entropy, now, .checking ready⟩ begun
      (.checked answer) = some ⟨plan, entropy, begun, .healthy⟩ := by
    intro now hle
    simp only [step, happen, prepare, if_pos hle, hanswer, Option.map_some]
  have hlost : ∀ {now moment : Nat} {phase : Phase}, now ≤ moment →
      phase = .starting ∨ phase = .checking ready →
        step ⟨plan, entropy, now, phase⟩ moment .broadcast =
          some ⟨plan, entropy, moment, phase⟩ := by
    intro now moment phase hle hphase
    rw [step, if_pos hle]
    rcases hphase with rfl | rfl <;> rfl
  -- The broadcast, if there is one before the run, comes before or after the server is ready.
  by_cases hwithin : ∃ moment, shutdown = some moment ∧ started ≤ moment ∧ moment ≤ begun
  · obtain ⟨moment, rfl, hfrom, hto⟩ := hwithin
    rcases le_total moment ready with hearly | hlate
    · refine ⟨(moment, .broadcast) :: (ready, .ready) :: (begun, .checked answer) :: rest, b,
        audience, ?_, hphase, fun m hm _ _ => ?_⟩
      · rw [replay_cons_of_step (hlost hfrom (Or.inl rfl)),
          replay_cons_of_step (hgetsReady moment hearly),
          replay_cons_of_step (hchecked ready hbegun), hrest]
      · obtain rfl := Option.some.inj hm
        exact ⟨[], _, _, rfl, rfl, not_hasRun_of_phase (Or.inl rfl) plan entropy started⟩
    · refine ⟨(ready, .ready) :: (moment, .broadcast) :: (begun, .checked answer) :: rest, b,
        audience, ?_, hphase, fun m hm _ _ => ?_⟩
      · rw [replay_cons_of_step (hgetsReady started hready),
          replay_cons_of_step (hlost hlate (Or.inr rfl)),
          replay_cons_of_step (hchecked moment hto), hrest]
      · obtain rfl := Option.some.inj hm
        exact ⟨[(ready, .ready)], _, _, rfl, replay_cons_of_step (hgetsReady started hready) [],
          not_hasRun_of_phase (Or.inr ⟨ready, rfl⟩) plan entropy ready⟩
  · refine ⟨(ready, .ready) :: (begun, .checked answer) :: rest, b, audience, ?_, hphase,
      fun moment hmoment hfrom hto => absurd ⟨moment, hmoment, hfrom, hto⟩ hwithin⟩
    rw [replay_cons_of_step (hgetsReady started hready),
      replay_cons_of_step (hchecked ready hbegun), hrest]

end Attempt

/-- At any time on the way of a load command the shutdown can be broadcast. Then, in whatever order
things happen before and after, no iteration of a user begins after the broadcast exactly if the
user listens by then or never begins one at all. If it does not listen, all its iterations begin
after the broadcast. Before the run nobody listens, and the command comes to the same as without
the broadcast. What the command carries out is such a course of things, in which a shutdown that
comes before the run is broadcast; one that comes later is heard. -/
theorem shutdown_heard (plan : Plan) (entropy : Nat → Random.Stream) :
    (∀ (started : Nat) (before : List (Nat × Occurrence)) (a : Attempt),
      Attempt.replay before ⟨plan, entropy, started, .starting⟩ = some a →
      ∀ moment, a.now ≤ moment → ∃ a₁, a.step moment .broadcast = some a₁ ∧
        ∀ after b, Attempt.replay after a₁ = some b →
          (∀ user, (b.beginnings user = a.beginnings user ↔
              a.Listens user ∨ b.beginnings user = []) ∧
            (a.Listens user → ∀ begun ∈ b.beginnings user, begun ≤ moment) ∧
            (¬ a.Listens user → ∀ begun ∈ b.beginnings user, moment ≤ begun)) ∧
          (¬ a.HasRun → (∀ user, ¬ a.Listens user) ∧
            ∃ b', Attempt.replay after a = some b' ∧ b'.phase = b.phase)) ∧
    ∀ (σ : Type) (service : Service σ) (launch : Launcher) (spec : Option Spec) (w w' : World σ)
      (run : Run), withOptionalServer (World.handling launch) spec
        (World.converse (work service plan entropy)) w = (.ok run, w') →
      (∃ os b audience, Attempt.replay os ⟨plan, entropy, w.conversation.now, .starting⟩ = some b ∧
        b.phase = .running run audience ∧
        ∀ moment, w'.conversation.shutdown = some moment → w.conversation.now ≤ moment →
          moment ≤ run.started → ∃ before after a, os = before ++ (moment, .broadcast) :: after ∧
            Attempt.replay before ⟨plan, entropy, w.conversation.now, .starting⟩ = some a ∧
              ¬ a.HasRun) ∧
      ∀ moment, w'.conversation.shutdown = some moment → run.started < moment →
        ∀ user, ∀ begun ∈ run.beginnings user, begun ≤ moment := by
  constructor
  · intro started before a hbefore moment hmoment
    have hnone := Attempt.not_hasRun_of_phase (Or.inl rfl) plan entropy started
    have hsound : a.Sound :=
      (Attempt.onward_replay (Attempt.sound_of_not_hasRun hnone) hbefore).1
    obtain ⟨a₁, hstep⟩ := Attempt.exists_step_broadcast hsound hmoment
    refine ⟨a₁, hstep, fun after b hafter => ⟨fun user => ⟨⟨fun hsame => ?_, ?_⟩,
      fun hlistens => ?_, Attempt.le_begun_of_not_listens hsound hstep hafter⟩,
      fun hrun => ⟨?_, Attempt.exists_replay_of_lost hrun hstep hafter⟩⟩⟩
    · by_cases hlistens : a.Listens user
      · exact Or.inl hlistens
      · exact Or.inr (hsame.trans (hsound.beginnings_eq_nil hlistens))
    · rintro (hlistens | hsilent)
      · exact Attempt.beginnings_of_listens hsound hstep hafter hlistens
      · have hall : Attempt.replay ((moment, .broadcast) :: after) a = some b :=
          (Attempt.replay_cons_of_step hstep after).trans hafter
        obtain ⟨later, hlater, -⟩ := (Attempt.onward_replay hsound hall).2.beginnings user
        rw [hsilent] at hlater ⊢
        exact (List.append_eq_nil_iff.mp hlater.symm).1.symm
    · rw [Attempt.beginnings_of_listens hsound hstep hafter hlistens]
      exact fun begun hbegun => (Attempt.le_now_of_replay hnone hbefore user begun hbegun).trans
        hmoment
    · exact fun user ⟨r, audience, hphase, _⟩ => hrun ⟨r, audience, hphase⟩
  · intro σ service launch spec w w' run hrun
    obtain ⟨before, after, hready, hwork, hsame⟩ := exists_work_of_withOptionalServer hrun
    obtain ⟨hworked, rfl⟩ := Prod.mk.inj hwork
    have hpair : work service plan entropy before.conversation =
        (.ok run, (work service plan entropy before.conversation).2) := Prod.ext hworked rfl
    obtain ⟨answer, status, r₀, gateway, hbegun, hanswer, hbegin, hkeep, hcarried⟩ :=
      carriedOut_of_work hpair
    have hknown : before.conversation.shutdown = w'.conversation.shutdown :=
      hkeep.symm.trans hsame.symm
    rw [hknown] at hcarried
    constructor
    · obtain ⟨events, hreplay⟩ := Run.exists_replay_carriedOut service r₀ gateway
        (shutdownSeen w'.conversation.shutdown run.started)
      rw [← hcarried] at hreplay
      exact Attempt.exists_replay_of_begin hready hbegun hanswer hbegin hreplay
        w'.conversation.shutdown
    · intro moment hmoment hlater user
      rw [hmoment, shutdownSeen, Option.filter_some, if_pos (decide_eq_true hlater)] at hcarried
      rw [hcarried]
      exact Run.begun_le_of_carriedOut hbegin hlater gateway user

end Command

/-- A plan for one iteration of one user. -/
def briefPlan : Plan where
  users := 1
  rate := 1
  duration := .ofSeconds 1
  spawnRate := 1
  spawnInterval := .ofSeconds 1
  poll := .standard
  mix := ([(.health, 1)] : Weights)
  commands := [⟨"echo", ["hi"], .ofSeconds 30⟩]
  seed := none

-- The broadcast comes when the receivers of the first user listen and those of the second one do
-- not: the first one begins nothing, the second one begins an iteration after the broadcast.
example :
    let healthy : Answer := .body (Text.bytesOf "\x7b\"status\":\"ok\"\x7d")
    let listening : List (Nat × Occurrence) := [(0, .ready), (0, .checked healthy), (0, .begun),
      (0, .subscribed), (0, .subscribed), (0, .subscribed)]
    let running : List (Nat × Occurrence) := [(2, .subscribed), (2, .subscribed),
      (2, .ofEvent .release), (2, .ofEvent (.start 0)), (2, .ofEvent (.start 1))]
    ((Attempt.replay (listening ++ (1, .broadcast) :: running)
      ⟨{ briefPlan with users := 2, spawnRate := 2 }, .numbered, 0, .starting⟩).any fun a =>
        a.beginnings 0 == [] && a.beginnings 1 == [2]) = true := by
  decide +kernel

/-- A gateway that is healthy and needs thirty milliseconds for each answer. -/
def slowGateway : Service Unit := fun _ _ _ =>
  (⟨.ofMillis 30, .body (Text.bytesOf "\x7b\"status\":\"ok\"\x7d")⟩, ())

/-- Surroundings in which a shutdown comes after ten milliseconds. -/
def hastyWorld : World Unit where
  conversation := { gateway := (), shutdown := some 10000000 }

/-- Without a server. -/
def noLauncher : Launcher := fun _ _ _ => .error .notFound

/-- The shutdown comes while the gateway is checked, and an iteration begins after that. -/
private theorem begun_after_shutdown : ∃ run w', withOptionalServer (World.handling noLauncher)
    none (World.converse (work slowGateway briefPlan hastyWorld.entropy)) hastyWorld =
      (.ok run, w') ∧
      w'.conversation.shutdown = some 10000000 ∧ run.started = 30000000 ∧
        30000000 ∈ run.beginnings 0 := by
  have hend : (withOptionalServer (World.handling noLauncher) none
      (World.converse (work slowGateway briefPlan hastyWorld.entropy))
      hastyWorld).1.toOption.any (fun run => run.started == 30000000 &&
        (run.beginnings 0).contains 30000000) = true := by
    decide +kernel
  have hshutdown : (withOptionalServer (World.handling noLauncher) none
      (World.converse (work slowGateway briefPlan hastyWorld.entropy))
      hastyWorld).2.conversation.shutdown = some 10000000 := by
    decide +kernel
  generalize withOptionalServer (World.handling noLauncher) none
    (World.converse (work slowGateway briefPlan hastyWorld.entropy)) hastyWorld = result
      at hend hshutdown ⊢
  obtain ⟨_ | run, w'⟩ := result
  · exact absurd hend (by simp [Except.toOption])
  · obtain ⟨hstarted, hbegun⟩ := Bool.and_eq_true_iff.mp hend
    exact ⟨run, w', rfl, hshutdown, eq_of_beq hstarted, List.contains_iff_mem.mp hbegun⟩

/-- The broadcast is among the things that happen on the way to the run. Nobody listens, and all
iterations begin after it. -/
theorem shutdown_heard_hasty : ∃ run w' before after a b audience,
    withOptionalServer (World.handling noLauncher) none
      (World.converse (work slowGateway briefPlan hastyWorld.entropy)) hastyWorld = (.ok run, w') ∧
      Attempt.replay before ⟨briefPlan, hastyWorld.entropy, 0, .starting⟩ = some a ∧
      Attempt.replay ((10000000, .broadcast) :: after) a = some b ∧
      b.phase = .running run audience ∧ ¬ a.Listens 0 ∧ 30000000 ∈ b.beginnings 0 ∧
        ∀ begun ∈ b.beginnings 0, 10000000 ≤ begun := by
  obtain ⟨run, w', hrun, hshutdown, hstarted, hbegun⟩ := begun_after_shutdown
  obtain ⟨hcourses, hcommands⟩ := shutdown_heard briefPlan hastyWorld.entropy
  obtain ⟨⟨os, b, audience, hreplay, hphase, hbroadcast⟩, -⟩ :=
    hcommands _ _ _ _ _ _ _ hrun
  obtain ⟨before, after, a, rfl, hbefore, hnone⟩ :=
    hbroadcast _ hshutdown (Nat.zero_le _) (by rw [hstarted]; decide)
  rw [Attempt.replay_append, hbefore, Option.bind_some] at hreplay
  obtain ⟨a₁, hstep, hafter⟩ := Option.bind_eq_some_iff.mp hreplay
  obtain ⟨a₁', hstep', hcourse⟩ :=
    hcourses _ _ _ hbefore 10000000 (Attempt.of_step hstep).1
  obtain rfl := Option.some.inj (hstep.symm.trans hstep')
  obtain ⟨husers, hlost⟩ := hcourse after b hafter
  have hdeaf := (hlost hnone).1 0
  refine ⟨run, w', before, after, a, b, audience, hrun, hbefore, hreplay, hphase, hdeaf, ?_,
    (husers 0).2.2 hdeaf⟩
  rw [Attempt.beginnings, hphase]
  exact hbegun

/-- Not every command for a load run heeds a shutdown that comes before its run. -/
theorem shutdown_lost : ¬ ∀ (σ : Type) (service : Service σ) (plan : Plan)
    (entropy : Nat → Random.Stream) (launch : Launcher) (spec : Option Spec) (w w' : World σ)
    (run : Run) (moment : Nat),
    withOptionalServer (World.handling launch) spec
      (World.converse (work service plan entropy)) w = (.ok run, w') →
    w'.conversation.shutdown = some moment →
    ∀ user, ∀ begun ∈ run.beginnings user, begun ≤ moment := by
  intro hheeded
  obtain ⟨run, w', hrun, hshutdown, _, hbegun⟩ := begun_after_shutdown
  have hle := hheeded Unit _ _ _ _ _ _ w' run _ hrun hshutdown 0 _ hbegun
  exact absurd hle (by decide)

end GatewayProbe.Load
