import Mathlib.Algebra.BigOperators.Ring.Finset
import GatewayProbe.Proofs.Load.Closing

/-!
# Permits and the users that have begun

Users are released by permits. A user holds its permit while it works and gives it back when
it stops, and nothing keeps a user that waits from taking it then. What the releases bound is
therefore how many users work at the same time. How many have begun is bounded by them just
as long as the permits of the users that have stopped lie unused.
-/

namespace GatewayProbe.Load

open GatewayProbe.Gateway

/-- A user has begun when it holds a permit or has stopped. -/
theorem countP_hasStarted (users : List User) :
    users.countP User.hasStarted =
      (users.map User.permits).sum + users.countP fun u => u.stage = .finished := by
  induction users with
  | nil => rfl
  | cons u users ih =>
    rw [List.countP_cons, List.countP_cons, List.map_cons, List.sum_cons, ih]
    cases hstage : u.stage <;> simp [User.hasStarted, User.permits, hstage] <;> omega

namespace Run

/-- How many users work: they have begun and have not stopped. -/
def workingUsers (r : Run) : Nat := (r.users.toList.map User.permits).sum

/-- How many users have stopped after they had begun. -/
def stoppedUsers (r : Run) : Nat := r.users.toList.countP fun u => u.stage = .finished

/-- A run of a plan in which every permit that was given out is free or held, and no release
came before its time. -/
structure Rationed (plan : Plan) (r : Run) : Prop where
  permits : r.permits + r.workingUsers = r.released
  released : r.released = min plan.users (plan.spawnRate * r.releases)
  due : ∀ n < r.releases, r.started + n * plan.spawnInterval.nanos ≤ r.now
  plan : r.plan = plan

/-- The users that have begun and the free permits are as many as all permits that were given
out and the users that have stopped. -/
theorem Rationed.usersStarted {plan : Plan} {r : Run} (h : r.Rationed plan) :
    r.outcome.usersStarted + r.permits = r.released + r.stoppedUsers := by
  have hbegun : r.outcome.usersStarted = r.workingUsers + r.stoppedUsers :=
    countP_hasStarted r.users.toList
  have hpermits := h.permits
  omega

/-- Before the first event no permit is given out, and nobody works. -/
theorem rationed_ofPlan (plan : Plan) (started deadline : Nat)
    (entropy : Nat → Random.Stream) :
    (ofPlan plan started deadline entropy).Rationed plan where
  plan := rfl
  permits := by
    have hnone : (User.permits ∘ fun id => ({ stream := plan.stream entropy id } : User)) =
        fun _ => 0 :=
      funext fun _ => rfl
    simp [workingUsers, ofPlan, hnone]
  released := by
    simp [ofPlan]
  due n hn := absurd hn (Nat.not_lt_zero n)

/-- A change of one user changes the number of those that work by its permits. -/
private theorem workingUsers_withUser {r : Run} {user : Nat} {u : User}
    (hu : r.users[user]? = some u) (u' : User) (permits : Nat) (es : List Effect) :
    (r.withUser user u' permits es).workingUsers + u.permits = r.workingUsers + u'.permits := by
  have hsum := sum_set hu u' fun v => (v.permits : ℤ)
  have hcast : ∀ users : List User,
      ((users.map User.permits).sum : ℤ) = (users.map fun v => (v.permits : ℤ)).sum := by
    intro users
    rw [Nat.cast_list_sum, List.map_map]
    rfl
  rw [← hcast, ← hcast] at hsum
  change ((r.users.setIfInBounds user u').toList.map User.permits).sum + u.permits =
    (r.users.toList.map User.permits).sum + u'.permits
  omega

/-- A step of a user that settles its permits keeps all others. -/
private theorem Rationed.withUser {plan : Plan} {r : Run} (h : r.Rationed plan) {user : Nat}
    {u u' : User} {permits : Nat} (hu : r.users[user]? = some u)
    (hpermits : permits + u'.permits = r.permits + u.permits) (es : List Effect) :
    (r.withUser user u' permits es).Rationed plan := by
  refine ⟨?_, h.released, h.due, h.plan⟩
  have hworking := workingUsers_withUser hu u' permits es
  have hbalance := h.permits
  change permits + (r.withUser user u' permits es).workingUsers = r.released
  omega

/-- A release gives out as many permits as are due, but no more than there are users. -/
private theorem Rationed.release {plan : Plan} {r : Run} (h : r.Rationed plan)
    (hdue : r.nextRelease ≤ r.now) : r.release.Rationed plan := by
  have hparts : r.release.plan = r.plan ∧ r.release.started = r.started ∧
      r.release.now = r.now ∧ r.release.users = r.users ∧ r.release.releases = r.releases + 1 ∧
      r.release.permits = r.permits + min r.plan.spawnRate (r.plan.users - r.released) ∧
      r.release.released = r.released + min r.plan.spawnRate (r.plan.users - r.released) := by
    unfold Run.release
    simp only
    split <;> exact ⟨rfl, rfl, rfl, rfl, rfl, rfl, rfl⟩
  obtain ⟨hplan, hstarted, hnow, husers, hreleases, hpermits, hreleased⟩ := hparts
  refine ⟨?_, ?_, ?_, hplan.trans h.plan⟩
  · have hworking : r.release.workingUsers = r.workingUsers := by
      rw [workingUsers, husers, workingUsers]
    have hbalance := h.permits
    omega
  · have hbefore := h.released
    rw [hreleased, hreleases, Nat.mul_succ, h.plan]
    omega
  · intro n hn
    rw [hstarted, hnow]
    rcases Nat.lt_succ_iff_lt_or_eq.mp (hreleases ▸ hn) with hlt | rfl
    · exact h.due n hlt
    · exact h.plan ▸ hdue

/-- An event keeps every permit free or held. -/
private theorem Rationed.change {plan : Plan} {r r' : Run} {e : Event} (h : r.Rationed plan)
    (hchange : Change r e r') : r'.Rationed plan := by
  cases hchange with
  | release hdue => exact h.release hdue
  | endRelease => exact ⟨h.permits, h.released, h.due, h.plan⟩
  | shutdown => exact ⟨h.permits, h.released, h.due, h.plan⟩
  | answer hu _ _ hpermits => exact h.withUser hu hpermits _
  | move _ hu _ _ hpermits => exact h.withUser hu hpermits []

/-- At every moment of a run every permit that was given out is free or held. -/
theorem rationed_replay {plan : Plan} {started : Nat} {entropy : Nat → Random.Stream}
    {events : List (Nat × Event)} {r₀ r : Run} (hbegin : begin plan started entropy = .ok r₀)
    (hreplay : replay events r₀ = some r) :
    r.Rationed plan := by
  obtain ⟨_, deadline, _, rfl⟩ := begin_eq_ok.mp hbegin
  refine replay_induction (P := fun _ r => r.Rationed plan) ?_ ?_ hreplay
  · exact rationed_ofPlan plan started deadline entropy
  · intro before r moment e r' _ h hmoment hchange
    have hlater : ({ r with now := moment } : Run).Rationed plan :=
      ⟨h.permits, h.released, fun n hn => (h.due n hn).trans hmoment, h.plan⟩
    exact hlater.change hchange

/-- At every moment the users at work are no more than those released, of whom there are as many
as the releases so far allow; no release comes before its time. The users that have begun are
no more than that exactly as long as there is an unused permit for each user that has stopped. -/
theorem begun_bounded_iff {plan : Plan} {started : Nat} {entropy : Nat → Random.Stream}
    {events : List (Nat × Event)} {r₀ r : Run} (hbegin : begin plan started entropy = .ok r₀)
    (hreplay : replay events r₀ = some r) :
    r.workingUsers ≤ min plan.users (plan.spawnRate * r.releases) ∧
      (∀ n < r.releases, r.started + n * plan.spawnInterval.nanos ≤ r.now) ∧
      (r.outcome.usersStarted ≤ min plan.users (plan.spawnRate * r.releases) ↔
        r.stoppedUsers ≤ r.permits) := by
  have h := rationed_replay hbegin hreplay
  have hpermits := h.permits
  have hstarted := h.usersStarted
  rw [← h.released]
  refine ⟨by omega, h.due, ?_⟩
  constructor
  · intro hbounded
    omega
  · intro hunused
    omega

/-- Two users, of whom the second one is to be released long after the end of the run. -/
def latePlan : Plan where
  users := 2
  rate := 0.5
  duration := .ofSeconds 1
  spawnRate := 1
  spawnInterval := .ofSeconds 10
  poll := .standard
  mix := ([(.health, 1)] : Weights)
  commands := [⟨"echo", ["hi"], .ofSeconds 30⟩]
  seed := none

/-- The first user stops after its only iteration, and the second one begins with its permit. -/
def lateEvents : List (Nat × Event) :=
  let healthy : Answer := .body (Text.bytesOf "\x7b\"status\":\"ok\"\x7d")
  [(0, .release), (0, .start 0), (0, .answer 0 healthy), (0, .start 1), (0, .answer 1 healthy),
    (1000000000, .endRelease)]

/-- The run is over, one user was released, and two have begun. -/
theorem replay_lateEvents : ∃ r₀ r, begin latePlan 0 = .ok r₀ ∧
    replay lateEvents r₀ = some r ∧ r.isOver = true ∧ r.releases = 1 ∧
      r.outcome.usersStarted = 2 := by
  have hvalid : latePlan.validate = .ok () := by decide +kernel
  have hdeadline : latePlan.deadline? 0 = some 1000000000 := by decide +kernel
  have hend : (replay lateEvents (ofPlan latePlan 0 1000000000 .numbered)).any
      (fun r => r.isOver && r.releases == 1 && r.outcome.usersStarted == 2) = true := by
    decide +kernel
  obtain ⟨r, hreplay, hr⟩ := (Option.any_eq_true _ _).mp hend
  obtain ⟨hrest, htwo⟩ := Bool.and_eq_true_iff.mp hr
  obtain ⟨hover, hone⟩ := Bool.and_eq_true_iff.mp hrest
  exact ⟨_, r, begin_eq_ok.mpr ⟨hvalid, _, hdeadline, rfl⟩, hreplay, hover, eq_of_beq hone,
    eq_of_beq htwo⟩

/-- When a user has stopped, the two users that have begun are more than the one released. -/
theorem begun_bounded_iff_late : ∃ r₀ r, begin latePlan 0 = .ok r₀ ∧
    replay lateEvents r₀ = some r ∧ ¬ r.stoppedUsers ≤ r.permits := by
  obtain ⟨r₀, r, hbegin, hreplay, _, hone, htwo⟩ := replay_lateEvents
  refine ⟨r₀, r, hbegin, hreplay, fun hunused => ?_⟩
  have hbounded := (begun_bounded_iff hbegin hreplay).2.2.mpr hunused
  rw [hone, htwo] at hbounded
  exact absurd hbounded (by decide)

/-- Not every finished run keeps the users that have begun within the releases: the permit of a
user that has stopped lets in one that was never released. -/
theorem begun_unbounded : ¬ ∀ plan started entropy events r₀ r,
    begin plan started entropy = .ok r₀ → replay events r₀ = some r → r.isOver = true →
      r.outcome.usersStarted ≤ min plan.users (plan.spawnRate * r.releases) := by
  intro hbounded
  obtain ⟨r₀, r, hbegin, hreplay, hover, hone, htwo⟩ := replay_lateEvents
  have hle := hbounded latePlan 0 _ lateEvents r₀ r hbegin hreplay hover
  rw [hone, htwo] at hle
  exact absurd hle (by decide)

end Run

end GatewayProbe.Load
