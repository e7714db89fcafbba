import Mathlib.Data.List.Induction
import GatewayProbe.Load.Run
import GatewayProbe.Proofs.Load.Step
import GatewayProbe.Proofs.Metrics.Recording

/-!
# What an event changes in a run

An event is a step of one user, whose effects go into the records, or it touches neither
users nor records. What every user of a plan keeps is therefore kept by the whole run,
whatever the order of the events. Permits pass between the run and its users: one that is
free is taken by a user that starts and comes back when the user stops.
-/

namespace GatewayProbe.Load

open GatewayProbe.Gateway

namespace Effect

/-- The samples among effects, in order. -/
def samples (es : List Effect) : List Metrics.Sample :=
  es.filterMap fun
    | .sample s => some s
    | _ => none

/-- The failures among effects, in order. -/
def failures (es : List Effect) : List Metrics.FailureKind :=
  es.filterMap fun
    | .failure kind => some kind
    | _ => none

/-- The messages among effects, in order. -/
def messages (es : List Effect) : List Message :=
  es.filterMap fun
    | .message m => some m
    | _ => none

theorem samples_append (es fs : List Effect) : samples (es ++ fs) = samples es ++ samples fs :=
  List.filterMap_append

theorem failures_append (es fs : List Effect) :
    failures (es ++ fs) = failures es ++ failures fs := List.filterMap_append

end Effect

/-- Whether an event is the answer to a call. -/
def Event.isAnswer : Event → Bool
  | .answer .. => true
  | _ => false

/-- The user whose step an event is. -/
def Event.user? : Event → Option Nat
  | .release | .endRelease | .shutdown => none
  | .start user | .leave user | .answer user _ | .wake user | .stop user => some user

namespace Run

/-- Effects are recorded one after the other, each kind by itself. -/
theorem foldl_apply (es : List Effect) (r : Run) :
    es.foldl apply r = { r with
      aggregator := r.aggregator.recordAll (Effect.samples es)
      tally := r.tally.recordAll (Effect.failures es)
      log := (Effect.messages es).reverse ++ r.log } := by
  induction es generalizing r with
  | nil => rfl
  | cons e es ih =>
    rw [List.foldl_cons, ih]
    cases e with
    | sample s => rfl
    | failure kind => rfl
    | message m => simp [apply, Effect.samples, Effect.failures, Effect.messages]

/-- A run in which a user has become another one, with the permits that are free then. -/
def withUser (r : Run) (user : Nat) (u : User) (permits : Nat) (es : List Effect) : Run :=
  { r with
    users := r.users.setIfInBounds user u
    permits
    aggregator := r.aggregator.recordAll (Effect.samples es)
    tally := r.tally.recordAll (Effect.failures es)
    log := (Effect.messages es).reverse ++ r.log }

/-- What an event makes of a run. -/
inductive Change (r : Run) : Event → Run → Prop where
  | release (hdue : r.nextRelease ≤ r.now) : Change r .release r.release
  | endRelease : Change r .endRelease { r with releasing := false }
  | shutdown : Change r .shutdown { r with stopped := true }
  | answer {user : Nat} {u : User} {purpose : Purpose} {sent permits : Nat}
    (hu : r.users[user]? = some u) (hstage : u.stage = .calling purpose sent) (answer : Answer)
    (hpermits : permits +
      (u.receiveFor r.plan r.deadline r.now sent answer purpose).1.permits =
        r.permits + u.permits) :
    Change r (.answer user answer)
      (r.withUser user (u.receiveFor r.plan r.deadline r.now sent answer purpose).1 permits
        (u.receiveFor r.plan r.deadline r.now sent answer purpose).2)
  | move {e : Event} {user : Nat} {u u' : User} {permits : Nat} (he : e.isAnswer = false)
    (hu : r.users[user]? = some u) (hstage : ∀ purpose sent, u.stage ≠ .calling purpose sent)
    (hstep : User.Step r.plan r.deadline r.stopped r.now u u' [])
    (hpermits : permits + u'.permits = r.permits + u.permits) (huser : e.user? = some user) :
    Change r e (r.withUser user u' permits [])

/-- A user that has started gives back a permit exactly when it stops. -/
private theorem permits_put (r : Run) (user : Nat) {u : User} (hu : u.hasStarted = true) :
    (r.put user u).permits + u.permits = r.permits + 1 := by
  unfold put
  rw [u.permits_eq hu]
  split_ifs
  · rfl
  · rfl

private theorem change_put {r : Run} {e : Event} {user : Nat} {u u' : User}
    (he : e.isAnswer = false) (hu : r.users[user]? = some u)
    (hstage : ∀ purpose sent, u.stage ≠ .calling purpose sent)
    (hstep : User.Step r.plan r.deadline r.stopped r.now u u' []) (hpermits : u.permits = 1)
    (hstarted : u'.hasStarted = true) (huser : e.user? = some user) : Change r e (r.put user u') :=
  .move he hu hstage hstep ((permits_put r user hstarted).trans (by rw [hpermits])) huser

/-- An event that happens changes the run in one of these ways. -/
theorem change_of_happen {r r' : Run} {e : Event} (h : r.happen e = some r') : Change r e r' := by
  cases e with
  | release =>
    simp only [happen] at h
    split_ifs at h with hready
    obtain rfl := Option.some.inj h
    exact .release (of_decide_eq_true (Bool.and_eq_true_iff.mp hready).2)
  | endRelease =>
    simp only [happen] at h
    split_ifs at h
    obtain rfl := Option.some.inj h
    exact .endRelease
  | shutdown =>
    obtain rfl := Option.some.inj h
    exact .shutdown
  | start user =>
    obtain ⟨u, hu, h⟩ := Option.bind_eq_some_iff.mp h
    split_ifs at h with hready
    obtain rfl := Option.some.inj h
    obtain ⟨hwaiting, hfree⟩ := hready
    have hpermits := permits_put { r with permits := r.permits - 1 } user
      (u.hasStarted_start r.plan r.deadline r.stopped r.now)
    refine .move rfl hu (by simp [hwaiting]) (.start hwaiting) (hpermits.trans ?_) rfl
    rw [User.permits, hwaiting]
    exact Nat.sub_add_cancel hfree
  | leave user =>
    obtain ⟨u, hu, h⟩ := Option.bind_eq_some_iff.mp h
    split_ifs at h with hready
    obtain ⟨hwaiting, hclosing⟩ := Bool.and_eq_true_iff.mp hready
    have hwaiting : u.stage = .waiting := of_decide_eq_true hwaiting
    obtain rfl := Option.some.inj h
    refine .move rfl hu (by simp [hwaiting]) (.leave hwaiting ?_) ?_ rfl
    · simpa [isClosing] using hclosing
    · have hnone : u.permits = 0 := by rw [User.permits, hwaiting]
      rw [hnone]
      rfl
  | answer user answer =>
    obtain ⟨u, hu, h⟩ := Option.bind_eq_some_iff.mp h
    obtain ⟨⟨u', es⟩, hreceive, h⟩ := Option.bind_eq_some_iff.mp h
    obtain rfl := Option.some.inj h
    unfold User.receive? at hreceive
    split at hreceive
    · rename_i purpose sent hstage
      obtain ⟨rfl, rfl⟩ := Prod.mk.inj (Option.some.inj hreceive)
      have hpermits := permits_put r user
        (User.hasStarted_receiveFor r.plan r.deadline r.now sent u answer purpose)
      have hone : u.permits = 1 := by rw [User.permits, hstage]
      rw [foldl_apply]
      exact .answer hu hstage answer (hpermits.trans (by rw [hone]))
    · exact absurd hreceive (by simp)
  | wake user =>
    obtain ⟨u, hu, h⟩ := Option.bind_eq_some_iff.mp h
    obtain ⟨u', hwake, h⟩ := Option.bind_eq_some_iff.mp h
    obtain rfl := Option.some.inj h
    unfold User.wake? at hwake
    split at hwake
    · rename_i hstage
      split_ifs at hwake with hdue
      obtain rfl := Option.some.inj hwake
      exact change_put rfl hu (by simp [hstage]) (.query hstage hdue)
        (by rw [User.permits, hstage]) rfl rfl
    · rename_i hstage
      split_ifs at hwake with hdue
      obtain rfl := Option.some.inj hwake
      exact change_put rfl hu (by simp [hstage]) (.iterate hstage hdue)
        (by rw [User.permits, hstage]) (u.hasStarted_beginIteration ..) rfl
    · exact absurd hwake (by simp)
  | stop user =>
    obtain ⟨u, hu, h⟩ := Option.bind_eq_some_iff.mp h
    split at h
    · rename_i hstage
      split_ifs at h with hstopped
      obtain rfl := Option.some.inj h
      exact change_put rfl hu (by simp [hstage]) (.stop hstage hstopped)
        (by rw [User.permits, hstage]) rfl rfl
    · exact absurd h (by simp)

/-- An event that happens at a moment is replayed by itself. -/
theorem replay_singleton {r r' : Run} {moment : Nat} {e : Event} (hmoment : r.now ≤ moment)
    (h : { r with now := moment }.happen e = some r') : replay [(moment, e)] r = some r' := by
  rw [replay, step, if_pos hmoment, h]
  rfl

/-- Two sequences of events are replayed one after the other. -/
theorem replay_append (first second : List (Nat × Event)) (r : Run) :
    replay (first ++ second) r = (replay first r).bind (replay second) := by
  induction first generalizing r with
  | nil => rfl
  | cons event rest ih =>
    obtain ⟨moment, e⟩ := event
    rw [List.cons_append, replay, replay, Option.bind_assoc]
    exact congrArg _ (funext ih)

/-- What holds before the first event, and with each further event again, holds after every
replay. -/
theorem replay_induction {r₀ : Run} {P : List (Nat × Event) → Run → Prop} (hnil : P [] r₀)
    (hconcat : ∀ before r moment e r', replay before r₀ = some r → P before r →
      r.now ≤ moment → Change { r with now := moment } e r' → P (before ++ [(moment, e)]) r')
    {events : List (Nat × Event)} {r : Run} (hreplay : replay events r₀ = some r) :
    P events r := by
  induction events using List.reverseRecOn generalizing r with
  | nil =>
    obtain rfl := Option.some.inj hreplay
    exact hnil
  | append_singleton before event ih =>
    obtain ⟨moment, e⟩ := event
    rw [replay_append] at hreplay
    obtain ⟨r₁, hbefore, hlast⟩ := Option.bind_eq_some_iff.mp hreplay
    obtain ⟨r₂, hstep, hnone⟩ := Option.bind_eq_some_iff.mp hlast
    obtain rfl := Option.some.inj hnone
    unfold step at hstep
    split_ifs at hstep with hmoment
    exact hconcat before r₁ moment e r₂ hbefore (ih hbefore) hmoment (change_of_happen hstep)

/-- A change of a run by a step of one of its users. -/
structure Moved (r r' : Run) (user : Nat) (u u' : User) (es : List Effect) : Prop where
  found : r.users[user]? = some u
  step : User.Step r.plan r.deadline r.stopped r.now u u' es
  users : r'.users = r.users.setIfInBounds user u'
  aggregator : r'.aggregator = r.aggregator.recordAll (Effect.samples es)
  tally : r'.tally = r.tally.recordAll (Effect.failures es)

/-- A change of a run that touches neither its users nor its records. -/
structure Rested (r r' : Run) : Prop where
  users : r'.users = r.users
  aggregator : r'.aggregator = r.aggregator
  tally : r'.tally = r.tally

/-- What a run is about does not change. -/
structure Framed (r r' : Run) : Prop where
  plan : r'.plan = r.plan
  started : r'.started = r.started
  deadline : r'.deadline = r.deadline

/-- A release changes neither what a run is about nor its users and records. -/
theorem framed_release (r : Run) : Framed r r.release ∧ Rested r r.release := by
  unfold release
  simp only
  split
  · exact ⟨⟨rfl, rfl, rfl⟩, ⟨rfl, rfl, rfl⟩⟩
  · exact ⟨⟨rfl, rfl, rfl⟩, ⟨rfl, rfl, rfl⟩⟩

/-- A release leaves the time and the shutdown as they are. -/
theorem clock_release (r : Run) : r.release.stopped = r.stopped ∧ r.release.now = r.now := by
  unfold Run.release
  simp only
  split <;> exact ⟨rfl, rfl⟩

/-- An event leaves the time as it is. -/
theorem Change.now {r r' : Run} {e : Event} (h : Change r e r') : r'.now = r.now := by
  cases h with
  | release => exact (clock_release r).2
  | endRelease | shutdown | answer | move => rfl

/-- An event changes nothing of what a run is about. -/
theorem Change.framed {r r' : Run} {e : Event} (h : Change r e r') : Framed r r' := by
  cases h with
  | release => exact (framed_release r).1
  | endRelease | shutdown | answer | move => exact ⟨rfl, rfl, rfl⟩

/-- A shutdown is not taken back. -/
theorem Change.stopped {r r' : Run} {e : Event} (h : Change r e r') (hstopped : r.stopped = true) :
    r'.stopped = true := by
  cases h with
  | release => exact (clock_release r).1.trans hstopped
  | shutdown => rfl
  | endRelease | answer | move => exact hstopped

/-- Nothing but its announcement changes whether a shutdown is announced. -/
theorem Change.stopped_eq {r r' : Run} {e : Event} (h : Change r e r') (he : e ≠ .shutdown) :
    r'.stopped = r.stopped := by
  cases h with
  | release => exact (clock_release r).1
  | shutdown => exact absurd rfl he
  | endRelease | answer | move => rfl

/-- No user comes or goes. -/
theorem Change.size {r r' : Run} {e : Event} (h : Change r e r') :
    r'.users.size = r.users.size := by
  cases h with
  | release => rw [(framed_release r).2.users]
  | endRelease | shutdown => rfl
  | answer | move => exact Array.size_setIfInBounds

/-- A step of a user is one of a user that there is. -/
theorem Change.lt_size {r r' : Run} {e : Event} (h : Change r e r') {user : Nat}
    (huser : e.user? = some user) : user < r.users.size := by
  cases h with
  | release | endRelease | shutdown => cases huser
  | answer hu =>
    obtain rfl := Option.some.inj huser
    exact (Array.getElem?_eq_some_iff.mp hu).1
  | move _ hu _ _ _ hmoved =>
    obtain rfl := Option.some.inj (hmoved.symm.trans huser)
    exact (Array.getElem?_eq_some_iff.mp hu).1

/-- An event leaves all users alone but the one whose step it is. -/
theorem Change.users {r r' : Run} {e : Event} (h : Change r e r') {place : Nat}
    (hother : e.user? ≠ some place) : r'.users[place]? = r.users[place]? := by
  cases h with
  | release => rw [(framed_release r).2.users]
  | endRelease | shutdown => rfl
  | answer => exact Array.getElem?_setIfInBounds_ne fun heq => hother (congrArg some heq)
  | move _ _ _ _ _ huser =>
    exact Array.getElem?_setIfInBounds_ne fun heq => hother (huser.trans (congrArg some heq))

/-- An event that happens is a step of one user or touches neither users nor records. -/
theorem happen_cases {r r' : Run} {e : Event} (h : r.happen e = some r') :
    Framed r r' ∧ (Rested r r' ∨ ∃ user u u' es, Moved r r' user u u' es) := by
  have hchange := change_of_happen h
  refine ⟨hchange.framed, ?_⟩
  cases hchange with
  | release => exact Or.inl (framed_release r).2
  | endRelease | shutdown => exact Or.inl ⟨rfl, rfl, rfl⟩
  | answer hu hstage answer =>
    exact Or.inr ⟨_, _, _, _, hu, .answer hstage answer, rfl, rfl, rfl⟩
  | move _ hu _ hstep => exact Or.inr ⟨_, _, _, _, hu, hstep, rfl, rfl, rfl⟩

/-- What a run is about does not change by events. -/
theorem framed_replay {events : List (Nat × Event)} {r r' : Run}
    (hreplay : replay events r = some r') : Framed r r' := by
  refine replay_induction (P := fun _ r' => Framed r r') ⟨rfl, rfl, rfl⟩ ?_ hreplay
  intro before r₁ moment e r₂ _ h _ hchange
  obtain ⟨hplan, hstarted, hdeadline⟩ := hchange.framed
  exact ⟨hplan.trans h.plan, hstarted.trans h.started, hdeadline.trans h.deadline⟩

end Run

end GatewayProbe.Load
