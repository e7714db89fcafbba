import GatewayProbe.Proofs.Load.Chronicle
import GatewayProbe.Proofs.Load.Schedule

/-!
# Schedules are punctual

A schedule wakes every user that waits for a slot when the slot is due: its timer is set, or its
turn has come. Only the user whose turn it is has neither, until the turn is over. So the time
never jumps over a slot, and the run that is carried out is a punctual one.
-/

namespace GatewayProbe.Load

open GatewayProbe.Gateway

namespace User

variable {plan : Plan} {deadline now due : Nat} {stopped : Bool} {u u' : User}

/-- Who begins to wait for a slot waits until now at least. -/
private theorem le_due_awaitSlot {slot : Option Nat}
    (h : (u.awaitSlot deadline now slot).stage = .pacing due) : now ≤ due := by
  cases slot with
  | none => exact absurd h (by simp [awaitSlot, finish])
  | some slot =>
    unfold awaitSlot at h
    dsimp only at h
    split_ifs at h
    · exact absurd h (by simp [finish])
    · obtain rfl := Stage.pacing.inj h
      exact le_max_left _ _

private theorem le_due_endIteration
    (h : (u.endIteration plan deadline now).stage = .pacing due) : now ≤ due :=
  le_due_awaitSlot h

private theorem Begun.le_due (h : Begun plan deadline stopped now u u')
    (hstage : u'.stage = .pacing due) : now ≤ due := by
  cases h with
  | idle => exact le_due_endIteration hstage
  | ended => exact absurd hstage (by simp [finish])
  | _ => exact absurd hstage (by simp [ask])

private theorem Step.le_due (hc : plan.commands ≠ []) {es : List Effect}
    (h : Step plan deadline stopped now u u' es) (hstage : u'.stage = .pacing due) :
    now ≤ due := by
  cases h with
  | start | iterate => exact (begun_beginIteration hc _).le_due hstage
  | @answer purpose sent _ answer =>
    have hreceived : Received plan deadline now sent u answer purpose _ :=
      received_receiveFor u sent answer purpose
    generalize (u.receiveFor plan deadline now sent answer purpose).1 = v at hreceived hstage
    cases hreceived with
    | ended => exact le_due_endIteration hstage
    | accepted => exact absurd hstage (by simp [ask])
    | rested => exact absurd hstage (by simp)
  | leave => exact absurd hstage (by simp)
  | query => exact absurd hstage (by simp [ask])
  | stop => exact absurd hstage (by simp [finish])

end User

namespace Run

variable {r r' : Run} {e : Event} {user due : Nat}

private theorem stage?_eq_some {stage : Stage} :
    r.stage? user = some stage ↔ ∃ u, r.users[user]? = some u ∧ u.stage = stage :=
  Option.map_eq_some_iff

/-- After an event no user waits for a slot that is past. -/
theorem Change.le_due (h : Change r e r') (hc : r.plan.commands ≠ [])
    (hdue : ∀ user due, r.stage? user = some (.pacing due) → r.now ≤ due)
    (hstage : r'.stage? user = some (.pacing due)) : r.now ≤ due := by
  obtain ⟨v, hv, hpacing⟩ := stage?_eq_some.mp hstage
  have hold : r.users[user]? = some v → r.now ≤ due := fun hv =>
    hdue user due (stage?_eq_some.mpr ⟨v, hv, hpacing⟩)
  cases h with
  | release => exact hold ((framed_release r).2.users ▸ hv)
  | endRelease | shutdown => exact hold hv
  | answer _ hcalling answer =>
    rcases of_getElem?_setIfInBounds hv with ⟨_, rfl⟩ | hsame
    · have hstep : User.Step r.plan r.deadline r.stopped r.now _ _ _ := .answer hcalling answer
      exact hstep.le_due hc hpacing
    · exact hold hsame
  | move _ _ _ hstep =>
    rcases of_getElem?_setIfInBounds hv with ⟨_, rfl⟩ | hsame
    · exact hstep.le_due hc hpacing
    · exact hold hsame

/-- A user that waits for a permit and goes away is gone. -/
theorem stage?_of_leave (h : r.happen (.leave user) = some r') :
    r'.stage? user = some .gone := by
  obtain ⟨u, hu, h⟩ := Option.bind_eq_some_iff.mp h
  split_ifs at h
  obtain rfl := Option.some.inj h
  obtain ⟨hlt, _⟩ := Array.getElem?_eq_some_iff.mp hu
  exact stage?_eq_some.mpr ⟨_, Array.getElem?_setIfInBounds_self_of_lt hlt, rfl⟩

/-- A user that waits for its slot can stop if the run is stopped. -/
theorem exists_stop (hstage : r.stage? user = some (.pacing due)) (hstopped : r.stopped = true) :
    ∃ r', r.happen (.stop user) = some r' ∧ r'.stage? user = some .finished := by
  obtain ⟨u, hu, hpacing⟩ := stage?_eq_some.mp hstage
  obtain ⟨hlt, _⟩ := Array.getElem?_eq_some_iff.mp hu
  refine ⟨r.put user u.finish, ?_, ?_⟩
  · unfold happen
    simp only [hu, Option.bind_eq_bind, Option.bind_some, hpacing, hstopped, if_true]
  · exact stage?_eq_some.mpr ⟨_, Array.getElem?_setIfInBounds_self_of_lt hlt, rfl⟩

/-- No user can stop while the run goes on. -/
theorem happen_stop_eq_none (hgoing : ¬ r.stopped = true) : r.happen (.stop user) = none := by
  cases hu : r.users[user]? with
  | none => simp only [happen, hu, Option.bind_eq_bind, Option.bind_none]
  | some u =>
    simp only [happen, hu, Option.bind_eq_bind, Option.bind_some, if_neg hgoing]
    split <;> rfl

private theorem all_isOnTime {moment : Nat}
    (h : ∀ user due, r.stage? user = some (.pacing due) → moment ≤ due) :
    (r.users.all fun u => u.isOnTime moment) = true := by
  refine Array.all_eq_true.mpr fun user hlt => ?_
  unfold User.isOnTime
  split
  · rename_i due hstage
    have hfound := Array.getElem?_eq_some_iff.mpr ⟨hlt, rfl⟩
    exact decide_eq_true (h user due (stage?_eq_some.mpr ⟨_, hfound, hstage⟩))
  · rfl

/-- One more event that keeps everybody on time. -/
theorem isPunctual_append {before : List (Nat × Event)} {moment : Nat} {r₀ : Run}
    (h : isPunctual before r₀ = true) (hbefore : replay before r₀ = some r)
    (honTime : (r.users.all fun u => u.isOnTime moment) = true)
    (hstep : r.step moment e = some r') : isPunctual (before ++ [(moment, e)]) r₀ = true := by
  induction before generalizing r₀ with
  | nil =>
    obtain rfl := Option.some.inj hbefore
    rw [List.nil_append, isPunctual, honTime, hstep]
    rfl
  | cons first before ih =>
    obtain ⟨r₁, hfirst, hrest⟩ := Option.bind_eq_some_iff.mp hbefore
    obtain ⟨hnow, hlater⟩ := Bool.and_eq_true_iff.mp h
    rw [hfirst] at hlater
    rw [List.cons_append, isPunctual, hnow, hfirst]
    exact ih hlater hrest

end Run

namespace Schedule

variable {σ : Type} {r : Run} {s s' : Schedule σ} {busy : Option Nat} {user due : Nat}

/-- A user that waits for its slot will be woken when it is due, or will be stopped before. -/
def Woken (s : Schedule σ) (user due : Nat) : Prop :=
  (due, .turn (.wake user)) ∈ s.timers ∨ (.wake user ∈ s.ready ∧ due ≤ s.now) ∨
    (.quit user ∈ s.ready ∧ s.run.stopped = true)

/-- A schedule whose run has been punctual so far and in which all users will be woken that wait
for a slot, but for the one whose turn it is. -/
structure Punctual (r : Run) (busy : Option Nat) (s : Schedule σ) : Prop extends Regular s where
  follows : ∃ events, Run.replay events r = some s.run ∧ Run.isPunctual events r = true
  onTime : ∀ user due, s.run.stage? user = some (.pacing due) → s.now ≤ due
  woken : ∀ user due, s.run.stage? user = some (.pacing due) → busy ≠ some user →
    Woken s user due

/-- A user that will be woken still is when timers and turns are added. -/
theorem Woken.mono (h : Woken s user due) (htimers : s.timers ⊆ s'.timers)
    (hready : s.ready ⊆ s'.ready) (hnow : s'.now = s.now)
    (hstopped : s.run.stopped = true → s'.run.stopped = true) : Woken s' user due := by
  rcases h with htimer | ⟨hwake, hdue⟩ | ⟨hquit, hstop⟩
  · exact Or.inl (htimers htimer)
  · exact Or.inr (Or.inl ⟨hready hwake, hnow ▸ hdue⟩)
  · exact Or.inr (Or.inr ⟨hready hquit, hstopped hstop⟩)

/-- More turns and timers do no harm. -/
private theorem Punctual.more (h : Punctual r busy s) (hregular : Regular s')
    (hrun : s'.run = s.run) (hnow : s'.now = s.now) (htimers : s.timers ⊆ s'.timers)
    (hready : s.ready ⊆ s'.ready) : Punctual r busy s' := by
  refine ⟨hregular, hrun ▸ h.follows, ?_, ?_⟩
  · rw [hrun, hnow]
    exact h.onTime
  · rw [hrun]
    intro user due hstage hother
    exact (h.woken user due hstage hother).mono htimers hready hnow (hrun ▸ id)

private theorem steady_punctual : Steady (Punctual r busy : Schedule σ → Prop) where
  goOn h t := h.more (kept_regular.goOn h.toRegular t) rfl rfl (List.Subset.refl _)
    (List.subset_cons_self _ _)
  lineUp h turns := h.more (kept_regular.lineUp h.toRegular turns) rfl rfl (List.Subset.refl _)
    (List.subset_append_left _ _)
  setTimer h moment a := h.more (kept_regular.setTimer h.toRegular moment a) rfl rfl
    (fun _ htimer => mem_insertTimer.mpr (Or.inr htimer)) (List.Subset.refl _)
  hold h gateway queue kept := h.more (kept_regular.hold h.toRegular gateway queue kept) rfl rfl
    (List.Subset.refl _) (List.Subset.refl _)

namespace Punctual

/-- A user may take its turn. -/
private theorem yield (h : Punctual r none s) (busy : Option Nat) : Punctual r busy s :=
  ⟨h.toRegular, h.follows, h.onTime, fun user due hstage _ => h.woken user due hstage (by simp)⟩

/-- The turn of a user is over when it will be woken. -/
private theorem settle (h : Punctual r (some user) s)
    (hwoken : ∀ due, s.run.stage? user = some (.pacing due) → Woken s user due) :
    Punctual r none s := by
  refine ⟨h.toRegular, h.follows, h.onTime, fun place due hstage _ => ?_⟩
  by_cases hplace : user = place
  · exact hplace ▸ hwoken due (hplace ▸ hstage)
  · exact h.woken place due hstage fun heq => hplace (Option.some.inj heq)

/-- The turn of a user is over that does not wait for a slot. -/
private theorem idle {stage : Stage} (h : Punctual r (some user) s)
    (hstage : s.run.stage? user = some stage) (hpacing : ∀ due, stage ≠ .pacing due) :
    Punctual r none s :=
  h.settle fun due hdue => absurd (Option.some.inj (hstage.symm.trans hdue)) (hpacing due)

/-- The user whose step an event is has to settle again. -/
private theorem fire (h : Punctual r busy s) {e : Event}
    (hbusy : e.user? = none ∨ e.user? = busy) : Punctual r busy (s.fire e) := by
  have hregular := kept_regular.fire h.toRegular e
  rcases s.fire_cases e with heq | ⟨next, hbehind, hhappen, heq⟩
  · rwa [heq]
  · have hchange := Run.change_of_happen hhappen
    obtain ⟨events, hreplay, hpunctual⟩ := h.follows
    rw [heq] at hregular ⊢
    refine ⟨hregular, ⟨events ++ [(s.now, e)], ?_, ?_⟩, fun user due hstage => ?_,
      fun user due hstage hother => ?_⟩
    · rw [Run.replay_append, hreplay]
      exact Run.replay_singleton hbehind hhappen
    · have hstep : s.run.step s.now e = some next := by rw [Run.step, if_pos hbehind, hhappen]
      exact Run.isPunctual_append hpunctual hreplay (Run.all_isOnTime h.onTime) hstep
    · exact hchange.le_due h.commands h.onTime hstage
    · have hne : e.user? ≠ some user := by
        rcases hbusy with hnone | heq
        · simp [hnone]
        · exact heq ▸ hother
      have hsame : next.stage? user = s.run.stage? user := by
        rw [Run.stage?, hchange.users hne]
        rfl
      exact (h.woken user due (hsame ▸ hstage) hother).mono (List.Subset.refl _)
        (List.Subset.refl _) rfl hchange.stopped

/-- After one of its steps a user has settled. -/
private theorem follow (h : Punctual r (some user) s) (service : Service σ) :
    Punctual r none (s.follow service user) := by
  unfold Schedule.follow
  split
  · rename_i hstage
    have hidle := h.idle hstage (by simp)
    exact steady_punctual.goOnAt (steady_punctual.hold hidle _ s.queue s.kept) _ _
  · rename_i hstage
    exact steady_punctual.goOnAt (h.idle hstage (by simp)) _ _
  · rename_i due hstage
    split_ifs with hstopped
    · refine (steady_punctual.goOn h _).settle fun _ _ => ?_
      exact Or.inr (Or.inr ⟨List.mem_cons_self, hstopped⟩)
    · refine (steady_punctual.goOnAt h due _).settle fun due' hdue' => ?_
      unfold Schedule.goOnAt at hdue' ⊢
      split_ifs at hdue' ⊢ with hpast
      · obtain ⟨rfl⟩ := Option.some.inj (hstage.symm.trans hdue')
        exact Or.inr (Or.inl ⟨List.mem_cons_self, hpast⟩)
      · obtain ⟨rfl⟩ := Option.some.inj (hstage.symm.trans hdue')
        exact Or.inl (mem_insertTimer.mpr (Or.inl rfl))
  · rename_i hstage
    exact steady_punctual.grant (h.idle hstage (by simp))
  · rename_i hcalling hresting hpacing hfinished
    exact h.settle fun due hdue => absurd hdue (hpacing due)

/-- A user takes a step of its own and goes on. -/
private theorem act (h : Punctual r (some user) s) {e : Event} (he : e.user? = some user)
    (service : Service σ) : Punctual r none ((s.fire e).follow service user) :=
  (h.fire (Or.inr he)).follow service

private theorem leave (h : Punctual r none s) (user : Nat) :
    Punctual r none (s.fire (.leave user)) := by
  have hleft := (h.yield (some user)).fire (e := .leave user) (Or.inr rfl)
  rcases s.fire_cases (.leave user) with heq | ⟨next, _, hhappen, heq⟩
  · rwa [heq]
  · rw [heq] at hleft ⊢
    exact hleft.idle (Run.stage?_of_leave hhappen) (by simp)

private theorem quit (h : Punctual r (some user) s)
    (hwoken : ∀ due, s.run.stage? user = some (.pacing due) →
      s.run.stopped = true ∨ Woken s user due) : Punctual r none (s.quit user) := by
  unfold Schedule.quit
  split
  · rename_i hstage
    have hidle := h.idle hstage (by simp)
    exact steady_punctual.grant (leave (steady_punctual.hold hidle s.gateway _ _) user)
  · rename_i due hstage
    refine steady_punctual.grant ?_
    have hfired := h.fire (e := .stop user) (Or.inr rfl)
    by_cases hstopped : s.run.stopped = true
    · obtain ⟨next, hhappen, hfinished⟩ := ({ s.run with now := s.now } : Run).exists_stop
        hstage hstopped
      have heq : s.fire (.stop user) = { s with run := next } := by
        rw [Schedule.fire, Run.step, if_pos h.behind, hhappen]
        rfl
      rw [heq] at hfired ⊢
      exact hfired.idle hfinished (by simp)
    · have hnone : ({ s.run with now := s.now } : Run).happen (.stop user) = none :=
        Run.happen_stop_eq_none hstopped
      have heq : s.fire (.stop user) = s := by
        rw [Schedule.fire, Run.step, if_pos h.behind, hnone]
        rfl
      rw [heq]
      exact h.settle fun due hdue => (hwoken due hdue).resolve_left hstopped
  · rename_i hwaiting hpacing
    exact h.settle fun due hdue => absurd hdue (hpacing due)

/-- Every turn leaves all users settled. -/
theorem turn (h : Punctual r none s) (service : Service σ) {t : Turn} {rest : List Turn}
    (hready : s.ready = t :: rest) :
    Punctual r none ({ s with ready := rest }.take service t) := by
  have hpopped : ∀ busy, (∀ user, busy ≠ some user → t ≠ .wake user ∧ t ≠ .quit user) →
      Punctual r busy { s with ready := rest } := by
    intro busy hbusy
    refine ⟨⟨h.behind, h.sorted, h.commands⟩, h.follows, h.onTime, fun user due hstage hother => ?_⟩
    obtain ⟨hwake, hquit⟩ := hbusy user hother
    rcases h.woken user due hstage (by simp) with htimer | ⟨hmem, hdue⟩ | ⟨hmem, hstopped⟩
    · exact Or.inl htimer
    · exact Or.inr (Or.inl ⟨(List.mem_cons.mp (hready ▸ hmem)).resolve_left hwake.symm, hdue⟩)
    · exact Or.inr (Or.inr ⟨(List.mem_cons.mp (hready ▸ hmem)).resolve_left hquit.symm, hstopped⟩)
  cases t with
  | shutdown =>
    have hstopped := ((hpopped none (by simp)).fire (e := .shutdown) (Or.inl rfl)).fire
      (e := .endRelease) (Or.inl rfl)
    exact steady_punctual.lineUp hstopped _
  | arrive user =>
    have h := hpopped none (by simp)
    unfold Schedule.take
    simp only
    split_ifs
    · exact h.leave user
    · exact (h.yield (some user)).act rfl service
    · exact steady_punctual.setTimer (steady_punctual.hold h s.gateway _ s.kept) _ _
  | enter user =>
    have h := hpopped none (by simp)
    unfold Schedule.take
    simp only
    split
    · rename_i hstage
      split_ifs
      · exact (h.yield (some user)).quit fun due hdue => absurd (hstage.symm.trans hdue) (by simp)
      · have hheld := steady_punctual.hold h s.gateway s.queue (s.kept - 1)
        exact (hheld.yield (some user)).act rfl service
    · exact h
  | answer user answer =>
    exact ((hpopped none (by simp)).yield (some user)).act rfl service
  | wake user =>
    exact (hpopped (some user) fun place hplace => by simpa using hplace).act rfl service
  | quit user =>
    refine (hpopped (some user) fun place hplace => by simpa using hplace).quit fun due hdue => ?_
    rcases h.woken user due hdue (by simp) with htimer | ⟨hmem, hdue⟩ | ⟨_, hstopped⟩
    · exact Or.inr (Or.inl htimer)
    · have hrest := (List.mem_cons.mp (hready ▸ hmem)).resolve_left (by simp)
      exact Or.inr (Or.inr (Or.inl ⟨hrest, hdue⟩))
    · exact Or.inl hstopped

/-- Releases leave a schedule punctual. -/
theorem release (h : Punctual r none s) (times : Nat) : Punctual r none (release times s) := by
  induction times generalizing s with
  | zero => exact h
  | succ times ih =>
    unfold Schedule.release
    split_ifs
    · exact h
    · exact h.fire (Or.inl rfl)
    · exact ih (steady_punctual.grant (h.fire (Or.inl rfl)))
    · exact steady_punctual.setTimer h _ _

/-- The time jumps no further than to the first slot that is due. -/
theorem advanced (h : Punctual r none s) (hready : s.ready = []) {timer : Nat × Alarm}
    {rest : List (Nat × Alarm)} (htimers : s.timers = timer :: rest) :
    Punctual r none (s.advanced timer.1) := by
  have htimer : ∀ user due, s.run.stage? user = some (.pacing due) →
      (due, .turn (.wake user)) ∈ s.timers := by
    intro user due hstage
    simpa [Woken, hready] using h.woken user due hstage (by simp)
  refine ⟨h.toRegular.advanced timer.1, h.follows, fun user due hstage => ?_,
    fun user due hstage _ => ?_⟩
  · exact max_le (h.onTime user due hstage)
      (first_le (htimers ▸ h.sorted) (htimers ▸ htimer user due hstage))
  · refine (mem_advanced (htimer user due hstage)).imp_right fun ⟨hnow, hmem⟩ => ?_
    exact Or.inl ⟨hmem, hnow ▸ le_max_right _ _⟩

end Punctual

/-- At first nobody waits for a slot. -/
theorem punctual_ofRun {plan : Plan} (hc : plan.commands ≠ []) (started deadline : Nat)
    (entropy : Nat → Random.Stream) (gateway : σ) (shutdown : Option Nat) :
    Punctual (Run.ofPlan plan started deadline entropy) none
      (ofRun (Run.ofPlan plan started deadline entropy) gateway shutdown) := by
  have hnobody : ∀ user due, (Run.ofPlan plan started deadline entropy).stage? user ≠
      some (.pacing due) := by
    intro user due hstage
    obtain ⟨u, hu, hpacing⟩ := Run.stage?_eq_some.mp hstage
    obtain ⟨id, _, rfl⟩ := Option.map_eq_some_iff.mp (Run.users_ofPlan ▸ hu)
    exact absurd hpacing (by simp)
  have hfirst : Punctual (Run.ofPlan plan started deadline entropy) none
      ({ run := Run.ofPlan plan started deadline entropy, gateway,
         now := (Run.ofPlan plan started deadline entropy).now } : Schedule σ) :=
    ⟨⟨le_rfl, .nil, hc⟩, ⟨[], rfl, rfl⟩, fun user due hstage => absurd hstage (hnobody user due),
      fun user due hstage _ => absurd hstage (hnobody user due)⟩
  have hreleased := hfirst.release (Run.ofPlan plan started deadline entropy).plan.eventLimit
  unfold ofRun
  split
  · exact steady_punctual.lineUp hreleased _
  · split_ifs
    · exact steady_punctual.lineUp hreleased _
    · exact steady_punctual.setTimer (steady_punctual.lineUp hreleased _) _ _

end Schedule

/-- The run that a schedule carries out is a punctual one, whatever the gateway answers and
whenever the shutdown comes. -/
theorem Run.exists_punctual_carriedOut {σ : Type} {plan : Plan} {started : Nat}
    {entropy : Nat → Random.Stream} {r₀ : Run}
    (hbegin : begin plan started entropy = .ok r₀) (service : Service σ) (gateway : σ)
    (shutdown : Option Nat) : ∃ events,
      replay events r₀ = some (r₀.carriedOut service gateway shutdown).1 ∧
        isPunctual events r₀ = true := by
  obtain ⟨hvalid, deadline, _, rfl⟩ := begin_eq_ok.mp hbegin
  have hfirst := Schedule.punctual_ofRun (validate_eq_ok.mp hvalid).1 started deadline entropy
    gateway shutdown
  have hlast := Schedule.carry_induction (fun h times => h.release times)
    (fun h hready => h.turn service hready) (fun h hready htimers => h.advanced hready htimers)
    (4 * plan.eventLimit) hfirst
  exact hlast.follows

end GatewayProbe.Load
