import GatewayProbe.Proofs.Load.Audit
import GatewayProbe.Proofs.Load.Diary

/-!
# The diaries of a run

Each event is a step of one user or of none, so the diaries of all users can be read in the
same way at every moment of every run. From one moment to a later one they only grow, and once
the run is stopped no iteration is added to them.
-/

namespace GatewayProbe.Load

open GatewayProbe.Gateway

/-- Whether a user need not have begun an iteration before a moment. -/
def User.isOnTime (moment : Nat) (u : User) : Bool :=
  match u.stage with
  | .pacing due => moment ≤ due
  | _ => true

namespace Run

/-- A shutdown has been announced by a moment. -/
def HaltedBy (events : List (Nat × Event)) (moment : Nat) : Prop :=
  ∃ m ≤ moment, (m, Event.shutdown) ∈ events

/-- Whether each wait for a slot ends when it is due, or before: no event comes later while the
wait goes on. -/
def isPunctual : List (Nat × Event) → Run → Bool
  | [], _ => true
  | (moment, e) :: rest, r =>
    (r.users.all fun u => u.isOnTime moment) && (r.step moment e).all (isPunctual rest)

/-- A run in which the diary of every user tells what it has done and where it stands. -/
structure Chronicled (plan : Plan) (deadline : Nat) (onTime : Prop) (halted : Nat → Prop)
    (r : Run) : Prop where
  users : ∀ (user : Nat) (u : User), r.users[user]? = some u →
    u.Chronicled plan deadline onTime halted
  halted : r.stopped = true → halted r.now
  plan : r.plan = plan
  deadline : r.deadline = deadline

variable {plan : Plan} {deadline : Nat} {onTime : Prop} {halted : Nat → Prop} {r r' : Run}

/-- Before the first event all users are new. -/
theorem users_ofPlan {started deadline user : Nat} {entropy : Nat → Random.Stream} :
    (ofPlan plan started deadline entropy).users[user]? =
      (List.range plan.users)[user]?.map fun id => { stream := plan.stream entropy id } := by
  simp [ofPlan]

/-- After one user has become another one, a user is that one or was there before. -/
theorem of_getElem?_setIfInBounds {users : Array User} {user place : Nat} {u v : User}
    (h : (users.setIfInBounds user u)[place]? = some v) :
    place = user ∧ v = u ∨ users[place]? = some v := by
  rw [Array.getElem?_setIfInBounds] at h
  split_ifs at h with hplace
  · exact Or.inl ⟨hplace.symm, (Option.some.inj h).symm⟩
  · exact Or.inr h

/-- In a punctual run no user waits for its slot longer than until it is due. -/
theorem le_due_of_isPunctual {before after : List (Nat × Event)} {r₀ : Run} {moment : Nat}
    {e : Event} (h : isPunctual (before ++ (moment, e) :: after) r₀ = true)
    (hbefore : replay before r₀ = some r) {user due : Nat} {u : User}
    (hu : r.users[user]? = some u) (hstage : u.stage = .pacing due) : moment ≤ due := by
  induction before generalizing r₀ with
  | nil =>
    obtain rfl := Option.some.inj hbefore
    obtain ⟨hall, _⟩ := Bool.and_eq_true_iff.mp h
    obtain ⟨hlt, rfl⟩ := Array.getElem?_eq_some_iff.mp hu
    have honTime := Array.all_eq_true.mp hall user hlt
    rw [User.isOnTime, hstage] at honTime
    exact of_decide_eq_true honTime
  | cons first before ih =>
    obtain ⟨r₁, hstep, hrest⟩ := Option.bind_eq_some_iff.mp hbefore
    obtain ⟨_, hlater⟩ := Bool.and_eq_true_iff.mp h
    rw [hstep] at hlater
    exact ih hlater hrest

/-- A step of one user leaves the diaries of the others as they are. -/
private theorem Chronicled.withUser (h : r.Chronicled plan deadline onTime halted) {u' : User}
    (hu' : u'.Chronicled plan deadline onTime halted) (user permits : Nat) (es : List Effect) :
    (r.withUser user u' permits es).Chronicled plan deadline onTime halted := by
  refine ⟨fun place v hv => ?_, h.halted, h.plan, h.deadline⟩
  rcases of_getElem?_setIfInBounds hv with ⟨_, rfl⟩ | hold
  · exact hu'
  · exact h.users place v hold

/-- An event writes into the diary of its user what may come next. -/
private theorem Chronicled.change (hc : plan.commands ≠ []) {e : Event}
    (h : r.Chronicled plan deadline onTime halted) (hchange : Change r e r')
    (hprompt : onTime → ∀ (user : Nat) (u : User) (due : Nat), r.users[user]? = some u →
      u.stage = .pacing due → r.now ≤ due)
    (hshutdown : e = .shutdown → halted r.now) :
    r'.Chronicled plan deadline onTime halted := by
  have hstep : ∀ {user : Nat} {u u' : User} {es : List Effect}, r.users[user]? = some u →
      User.Step r.plan r.deadline r.stopped r.now u u' es →
        u'.Chronicled plan deadline onTime halted := by
    intro user u u' es hu hs
    rw [h.plan, h.deadline] at hs
    exact (h.users user u hu).step hc hs (fun ht due => hprompt ht user u due hu) h.halted
  cases hchange with
  | release =>
    obtain ⟨⟨hplan, _, hdeadline⟩, ⟨husers, _, _⟩⟩ := framed_release r
    obtain ⟨hstopped, hnow⟩ := clock_release r
    refine ⟨?_, ?_, hplan.trans h.plan, hdeadline.trans h.deadline⟩
    · rw [husers]
      exact h.users
    · rw [hstopped, hnow]
      exact h.halted
  | endRelease => exact ⟨h.users, h.halted, h.plan, h.deadline⟩
  | shutdown => exact ⟨h.users, fun _ => hshutdown rfl, h.plan, h.deadline⟩
  | answer hu hstage answer => exact h.withUser (hstep hu (.answer hstage answer)) _ _ _
  | move _ hu _ hs => exact h.withUser (hstep hu hs) _ _ _

/-- At every moment of every run the diaries of all users tell what they have done. -/
theorem chronicled_replay {started : Nat} {entropy : Nat → Random.Stream}
    {events : List (Nat × Event)} {r₀ : Run} (hbegin : begin plan started entropy = .ok r₀)
    (hreplay : replay events r₀ = some r) :
    r.Chronicled plan r₀.deadline (isPunctual events r₀) (HaltedBy events) := by
  obtain ⟨hvalid, deadline, _, rfl⟩ := begin_eq_ok.mp hbegin
  refine replay_induction (P := fun before r => ∀ after, events = before ++ after →
    r.Chronicled plan deadline (isPunctual events (ofPlan plan started deadline entropy))
      (HaltedBy events)) ?_ ?_ hreplay [] (List.append_nil events).symm
  · intro _ _
    refine ⟨fun user u hu => ?_, fun hstopped => absurd hstopped (by simp [ofPlan]), rfl, rfl⟩
    obtain ⟨id, _, rfl⟩ := Option.map_eq_some_iff.mp (users_ofPlan ▸ hu)
    exact User.chronicled_new _
  · intro before r₁ moment e r₂ hbefore ih hmoment hchange after hevents
    rw [List.append_assoc] at hevents
    have h := ih ((moment, e) :: after) hevents
    have hlater : ({ r₁ with now := moment } : Run).Chronicled plan deadline
        (isPunctual events (ofPlan plan started deadline entropy)) (HaltedBy events) := by
      refine ⟨h.users, fun hstopped => ?_, h.plan, h.deadline⟩
      obtain ⟨m, hm, hmem⟩ := h.halted hstopped
      exact ⟨m, hm.trans hmoment, hmem⟩
    refine hlater.change (validate_eq_ok.mp hvalid).1 hchange ?_ ?_
    · exact fun ht user u due => le_due_of_isPunctual (hevents ▸ ht) hbefore
    · rintro rfl
      exact ⟨moment, le_rfl, hevents ▸ by simp⟩

/-- The moments at which a user of a run has begun iterations, in order. -/
def beginnings (r : Run) (user : Nat) : List Nat :=
  (r.users[user]?).elim [] fun u => Diary.beginnings u.diary

/-- A user has begun an iteration exactly when its diary says so. -/
theorem mem_beginnings {user begun : Nat} : begun ∈ r.beginnings user ↔
    ∃ u, r.users[user]? = some u ∧ begun ∈ Diary.beginnings u.diary := by
  unfold beginnings
  cases r.users[user]? <;> simp

/-- An event adds beginnings to its own user only, at its own moment, and none if the run is
stopped. -/
theorem Change.beginnings {e : Event} (h : Change r e r') (hc : r.plan.commands ≠ [])
    (user : Nat) : ∃ later, r'.beginnings user = r.beginnings user ++ later ∧
      (∀ begun ∈ later, begun = r.now) ∧
        (later ≠ [] → e.user? = some user ∧ r.stopped = false) := by
  by_cases huser : e.user? = some user
  · have hwrote : ∃ u u', r.users[user]? = some u ∧ r'.users[user]? = some u' ∧
        User.Wrote r.now r.stopped u u' := by
      have hlt := h.lt_size huser
      cases h with
      | release | endRelease | shutdown => cases huser
      | answer hu hstage answer =>
        obtain rfl := Option.some.inj huser
        exact ⟨_, _, hu, Array.getElem?_setIfInBounds_self_of_lt hlt,
          User.Step.wrote hc (.answer hstage answer)⟩
      | move _ hu _ hstep _ hmoved =>
        obtain rfl := Option.some.inj (hmoved.symm.trans huser)
        exact ⟨_, _, hu, Array.getElem?_setIfInBounds_self_of_lt hlt, hstep.wrote hc⟩
    obtain ⟨u, u', hu, hu', hwrote⟩ := hwrote
    obtain ⟨later, hlater, hnow, hstopped⟩ := hwrote.beginnings
    refine ⟨later, ?_, hnow, fun hnew => ⟨huser, ?_⟩⟩
    · rw [Run.beginnings, Run.beginnings, hu, hu']
      exact hlater
    · exact Bool.eq_false_of_not_eq_true fun htrue => hnew (hstopped htrue)
  · refine ⟨[], ?_, by simp, fun hnew => absurd rfl hnew⟩
    rw [Run.beginnings, Run.beginnings, h.users huser, List.append_nil]

/-- A run as it is after some more events. -/
structure Later (r r' : Run) : Prop where
  diaries : ∀ (user : Nat) (u' : User), r'.users[user]? = some u' →
    ∃ (u : User) (later : Diary), r.users[user]? = some u ∧ u'.diary = later ++ u.diary ∧
      ∀ entry ∈ later, (r.now ≤ entry.1 ∧ entry.1 ≤ r'.now) ∧
        ∀ choice, entry.2 = .iteration choice → r.stopped = false
  now : r.now ≤ r'.now
  stopped : r.stopped = true → r'.stopped = true
  plan : r'.plan = r.plan

private theorem Later.refl (r : Run) : Later r r :=
  ⟨fun _ u hu => ⟨u, [], hu, rfl, by simp⟩, le_rfl, id, rfl⟩

/-- The time goes on. -/
private theorem Later.wait (h : Later r r') {moment : Nat} (hmoment : r'.now ≤ moment) :
    Later r { r' with now := moment } := by
  refine ⟨fun user u hu => ?_, h.now.trans hmoment, h.stopped, h.plan⟩
  obtain ⟨v, later, hv, hdiary, hentries⟩ := h.diaries user u hu
  refine ⟨v, later, hv, hdiary, fun entry hentry => ?_⟩
  obtain ⟨⟨hfrom, hto⟩, hopen⟩ := hentries entry hentry
  exact ⟨⟨hfrom, hto.trans hmoment⟩, hopen⟩

/-- One user writes on. -/
private theorem Later.withUser (h : Later r r') {user permits : Nat} {u u' : User}
    (hu : r'.users[user]? = some u) (hwrote : User.Wrote r'.now r'.stopped u u')
    (es : List Effect) : Later r (r'.withUser user u' permits es) := by
  refine ⟨fun place v hv => ?_, h.now, h.stopped, h.plan⟩
  rcases of_getElem?_setIfInBounds hv with ⟨rfl, rfl⟩ | hold
  · obtain ⟨w, before, hw, hbefore, hearlier⟩ := h.diaries place u hu
    obtain ⟨later, hlater, hentries⟩ := hwrote
    refine ⟨w, later ++ before, hw, by rw [hlater, hbefore, List.append_assoc], ?_⟩
    rw [List.forall_mem_append]
    refine ⟨fun entry hentry => ?_, hearlier⟩
    obtain ⟨hnow, hopen, _⟩ := hentries entry hentry
    refine ⟨⟨hnow ▸ h.now, hnow.le⟩, fun choice hchoice => ?_⟩
    by_contra hstopped
    have hlater := h.stopped (Bool.eq_true_of_not_eq_false hstopped)
    exact absurd hlater (by simp [hopen choice hchoice])
  · exact h.diaries place v hold

private theorem Later.change (h : Later r r') (hc : r.plan.commands ≠ []) {e : Event}
    {r'' : Run} (hchange : Change r' e r'') : Later r r'' := by
  have hc' : r'.plan.commands ≠ [] := h.plan ▸ hc
  cases hchange with
  | release =>
    obtain ⟨⟨hplan, _, _⟩, ⟨husers, _, _⟩⟩ := framed_release r'
    obtain ⟨hstopped, hnow⟩ := clock_release r'
    refine ⟨?_, hnow ▸ h.now, hstopped ▸ h.stopped, hplan.trans h.plan⟩
    rw [husers, hnow]
    exact h.diaries
  | endRelease => exact ⟨h.diaries, h.now, h.stopped, h.plan⟩
  | shutdown => exact ⟨h.diaries, h.now, fun _ => rfl, h.plan⟩
  | answer hu hstage answer => exact h.withUser hu (User.Step.wrote hc' (.answer hstage answer)) _
  | move _ hu _ hstep => exact h.withUser hu (hstep.wrote hc') _

/-- What a run becomes by events is later. -/
theorem later_replay (hc : r.plan.commands ≠ []) {events : List (Nat × Event)}
    (hreplay : replay events r = some r') : Later r r' := by
  refine replay_induction (P := fun _ r' => Later r r') (Later.refl r) ?_ hreplay
  intro before r₁ moment e r₂ _ h hmoment hchange
  exact (h.wait hmoment).change hc hchange

/-- What is written in a diary has been done since the run began. -/
theorem entry_between {started : Nat} {entropy : Nat → Random.Stream} {events : List (Nat × Event)}
    {r₀ : Run} (hbegin : begin plan started entropy = .ok r₀) (hreplay : replay events r₀ = some r)
    {user : Nat} {u : User} (hu : r.users[user]? = some u) {entry : Nat × Deed}
    (hentry : entry ∈ u.diary) :
    started ≤ entry.1 ∧ entry.1 ≤ r.now := by
  obtain ⟨hvalid, deadline, _, rfl⟩ := begin_eq_ok.mp hbegin
  obtain ⟨v, later, hv, hdiary, hentries⟩ :=
    (later_replay (validate_eq_ok.mp hvalid).1 hreplay).diaries user u hu
  obtain ⟨id, _, rfl⟩ := Option.map_eq_some_iff.mp (users_ofPlan ▸ hv)
  rw [List.append_nil] at hdiary
  exact (hentries entry (hdiary ▸ hentry)).1

/-- No iteration begins once a shutdown has been announced, and those that have begun had begun
by then. -/
theorem beginnings_eq_of_shutdown {started moment : Nat} {entropy : Nat → Random.Stream}
    {before after : List (Nat × Event)} {r₀ r₁ : Run} (hbegin : begin plan started entropy = .ok r₀)
    (hbefore : replay before r₀ = some r₁)
    (hreplay : replay (before ++ (moment, .shutdown) :: after) r₀ = some r) {user : Nat} {u : User}
    (hu : r.users[user]? = some u) :
    ∃ v : User, r₁.users[user]? = some v ∧
      Diary.beginnings u.diary = Diary.beginnings v.diary ∧
        ∀ begun ∈ Diary.beginnings u.diary, begun ≤ moment := by
  rw [replay_append, hbefore, Option.bind_some] at hreplay
  obtain ⟨r₂, hstep, hafter⟩ := Option.bind_eq_some_iff.mp hreplay
  unfold step at hstep
  split_ifs at hstep with hmoment
  obtain rfl := Option.some.inj hstep
  have hc : r₁.plan.commands ≠ [] := by
    rw [(chronicled_replay hbegin hbefore).plan]
    exact (validate_eq_ok.mp (begin_eq_ok.mp hbegin).1).1
  have hlater : Later { r₁ with now := moment, stopped := true } r := later_replay hc hafter
  obtain ⟨v, later, hv, hdiary, hentries⟩ := hlater.diaries user u hu
  have hsame : Diary.beginnings u.diary = Diary.beginnings v.diary := by
    rw [hdiary]
    refine Diary.beginnings_append fun entry hentry choice hchoice => ?_
    exact absurd ((hentries entry hentry).2 choice hchoice) (by simp)
  refine ⟨v, hv, hsame, fun begun hbegun => ?_⟩
  obtain ⟨choice, hentry⟩ := Diary.mem_beginnings.mp (hsame ▸ hbegun)
  exact (entry_between hbegin hbefore hv hentry).2.trans hmoment

end Run

end GatewayProbe.Load
