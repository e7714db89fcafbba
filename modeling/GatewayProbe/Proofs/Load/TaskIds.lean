import GatewayProbe.Proofs.Gateway.NewTasks
import GatewayProbe.Proofs.Load.Chronicle
import GatewayProbe.Proofs.Load.Closing

/-!
# The tasks that users ask for

A user asks only for tasks that were accepted for itself. Each acceptance in its diary comes
from the answer to a submission of its own, and is followed at once by the first query. A look
at a task goes to one that was accepted before, and only if there is none no call is made.
-/

namespace GatewayProbe.Load

open GatewayProbe.Gateway

/-- A submission is accepted by the body of a reply. -/
theorem exists_body_of_taskId {answer : Answer} {elapsed : Duration} {taskId : String}
    (h : answer.taskId elapsed = .ok taskId) :
    ∃ bytes, answer = .body bytes ∧ readTaskId bytes = .ok taskId := by
  cases answer with
  | body bytes => exact ⟨bytes, rfl, h⟩
  | refused | unreachable =>
    exact absurd h (by simp [Answer.taskId, Answer.body?, bind, Except.bind])

/-- A part of a diary that begins with an entry begins in the newer or in the older entries. -/
theorem suffix_append_cases {entry : Nat × Deed} {rest later d : Diary}
    (h : entry :: rest <:+ later ++ d) : entry ∈ later ∨ entry :: rest <:+ d := by
  induction later with
  | nil => exact Or.inr h
  | cons first later ih =>
    rcases List.suffix_cons_iff.mp h with heq | hsuffix
    · exact Or.inl ((List.cons.inj heq).1 ▸ List.mem_cons_self)
    · exact (ih hsuffix).imp_left (List.mem_cons_of_mem first)

/-- A part of a diary is all of it or is followed by another entry. -/
theorem exists_cons_suffix {part d : Diary} (h : part <:+ d) :
    part = d ∨ ∃ entry, entry :: part <:+ d := by
  obtain ⟨later, rfl⟩ := h
  rcases List.eq_nil_or_concat later with rfl | ⟨newer, entry, rfl⟩
  · exact Or.inl rfl
  · exact Or.inr ⟨entry, newer, by simp⟩

/-- A task was accepted if there is an entry that says so. -/
theorem Diary.mem_accepted {d : Diary} {taskId : String} :
    taskId ∈ d.accepted ↔ ∃ moment before, (moment, .accepted taskId) :: before <:+ d := by
  induction d with
  | nil => simp [accepted]
  | cons entry d ih =>
    obtain ⟨now, deed⟩ := entry
    rw [accepted_cons, List.mem_append, ih]
    constructor
    · rintro (⟨moment, before, hsuffix⟩ | hnew)
      · exact ⟨moment, before, hsuffix.trans (List.suffix_cons _ _)⟩
      · cases deed with
        | accepted id =>
          obtain rfl := List.mem_singleton.mp hnew
          exact ⟨now, d, List.suffix_rfl⟩
        | _ => exact absurd hnew (by simp [Deed.tasks])
    · rintro ⟨moment, before, hsuffix⟩
      rcases List.suffix_cons_iff.mp hsuffix with heq | hold
      · obtain ⟨hentry, _⟩ := List.cons.inj heq
        obtain ⟨_, rfl⟩ := Prod.mk.inj hentry
        exact Or.inr (List.mem_singleton.mpr rfl)
      · exact Or.inl ⟨moment, before, hold⟩

section Told

variable {plan : Plan} {deadline start : Nat} {onTime : Prop} {halted : Nat → Prop} {d : Diary}

/-- Each entry of a diary could be written after those before it. -/
theorem Told.next (h : Told plan deadline start onTime d) {now : Nat} {deed : Deed}
    {before : Diary} (hsuffix : (now, deed) :: before <:+ d) :
    Next plan deadline start onTime before now deed := by
  induction h with
  | nil => exact absurd (List.suffix_nil.mp hsuffix) (by simp)
  | cons _ hnext ih =>
    rcases List.suffix_cons_iff.mp hsuffix with heq | hold
    · obtain ⟨hentry, rfl⟩ := List.cons.inj heq
      obtain ⟨rfl, rfl⟩ := Prod.mk.inj hentry
      exact hnext
    · exact ih hold

/-- Before a call for the state of a task comes the acceptance of this task. -/
theorem Told.exists_accepted (h : Told plan deadline start onTime d) {sent : Nat}
    {taskId : String} {before : Diary} (hcall : (sent, .call (.status taskId)) :: before <:+ d) :
    ∃ moment earlier, (moment, .accepted taskId) :: earlier <:+ before := by
  induction before generalizing sent with
  | nil => cases h.next hcall
  | cons entry rest ih =>
    have hnext := h.next hcall
    have hrest := (List.suffix_cons (sent, Deed.call (.status taskId)) (entry :: rest)).trans hcall
    cases hnext with
    | status hid =>
      obtain ⟨moment, earlier, hsuffix⟩ := Diary.mem_accepted.mp (List.mem_of_getElem? hid)
      exact ⟨moment, earlier, hsuffix.trans (List.suffix_cons _ _)⟩
    | firstQuery => exact ⟨_, rest, List.suffix_rfl⟩
    | query =>
      obtain ⟨moment, earlier, hsuffix⟩ := ih hrest
      exact ⟨moment, earlier, hsuffix.trans (List.suffix_cons _ _)⟩

/-- What a user did last is its start, a call, or the end of an iteration. -/
theorem Standing.last {stage : Stage} {now : Nat} {deed : Deed} {rest : Diary}
    (h : Standing plan deadline start onTime halted stage ((now, deed) :: rest)) :
    deed = .start ∨ deed = .ended ∨ ∃ q, deed = .call q := by
  cases h with
  | calling | resting => exact Or.inr (Or.inr ⟨_, rfl⟩)
  | pacing | noSlot | cutOff => exact Or.inr (Or.inl rfl)
  | tooLate => exact Or.inl rfl

end Told

namespace User

variable {plan : Plan} {deadline : Nat} {onTime : Prop} {halted : Nat → Prop} {u : User}

/-- After the choice of an iteration and after the acceptance of a task a user goes on at once. -/
theorem Chronicled.exists_next (h : Chronicled plan deadline onTime halted u) {now : Nat}
    {deed : Deed} {before : Diary} (hsuffix : (now, deed) :: before <:+ u.diary)
    (hdeed : ¬(deed = .start ∨ deed = .ended ∨ ∃ q, deed = .call q)) :
    ∃ moment following, (moment, following) :: (now, deed) :: before <:+ u.diary ∧
      Next plan deadline u.startedAt onTime ((now, deed) :: before) moment following := by
  rcases exists_cons_suffix hsuffix with heq | ⟨⟨moment, following⟩, hlonger⟩
  · have hstanding := h.standing
    rw [← heq] at hstanding
    exact absurd hstanding.last hdeed
  · exact ⟨moment, following, hlonger, h.told.next hlonger⟩

/-- An acceptance that is in the diary after an answer was there before, or it is that of the
task whose id the answer gives. -/
theorem Received.accepted_cases {now sent moment : Nat} {answer : Answer} {purpose : Purpose}
    {u' : User} (h : Received plan deadline now sent u answer purpose u') {taskId : String}
    {before : Diary} (hsuffix : (moment, .accepted taskId) :: before <:+ u'.diary) :
    (moment, .accepted taskId) :: before <:+ u.diary ∨
      (∃ command, purpose = .submission command) ∧
        answer.taskId (Clock.since sent now) = .ok taskId ∧ moment = now ∧ before = u.diary := by
  cases h with
  | ended =>
    rw [diary_endIteration] at hsuffix
    rcases List.suffix_cons_iff.mp hsuffix with heq | hold
    · exact absurd heq (by simp)
    · exact Or.inl hold
  | @accepted command id hid =>
    rcases List.suffix_cons_iff.mp hsuffix with heq | hnew
    · exact absurd heq (by simp)
    rcases List.suffix_cons_iff.mp hnew with heq | hold
    · obtain ⟨hentry, rfl⟩ := List.cons.inj heq
      obtain ⟨rfl, hdeed⟩ := Prod.mk.inj hentry
      obtain rfl := Deed.accepted.inj hdeed
      exact Or.inr ⟨⟨command, rfl⟩, hid, rfl, rfl⟩
    · exact Or.inl hold
  | rested => exact Or.inl hsuffix

end User

namespace Run

variable {plan : Plan} {started : Nat} {entropy : Nat → Random.Stream}
  {events : List (Nat × Event)} {r₀ r : Run} {user : Nat} {u : User}

/-- The answer by which a submission of a user is accepted, when it has done what a diary says. -/
def Accepts (r₀ : Run) (events : List (Nat × Event)) (user moment : Nat) (taskId : String)
    (before : Diary) : Prop :=
  ∃ first bytes rest r v command sent,
    events = first ++ (moment, .answer user (.body bytes)) :: rest ∧
      replay first r₀ = some r ∧ r.users[user]? = some v ∧
        v.stage = .calling (.submission command) sent ∧ v.diary = before ∧
          readTaskId bytes = .ok taskId

private theorem Accepts.append {moment : Nat} {taskId : String} {before : Diary}
    (h : Accepts r₀ events user moment taskId before) (more : List (Nat × Event)) :
    Accepts r₀ (events ++ more) user moment taskId before := by
  obtain ⟨first, bytes, rest, r, v, command, sent, rfl, hfound⟩ := h
  exact ⟨first, bytes, rest ++ more, r, v, command, sent, by simp, hfound⟩

/-- No task whose id is blank is accepted. -/
theorem Accepts.isAllBlank {moment : Nat} {taskId : String} {before : Diary}
    (h : Accepts r₀ events user moment taskId before) : Text.isAllBlank taskId = false := by
  obtain ⟨_, bytes, _, _, _, _, _, _, _, _, _, _, hread⟩ := h
  exact isAllBlank_of_readTaskId hread

/-- Every acceptance in a diary comes from an answer to a submission of this user. -/
theorem accepts_of_accepted (hbegin : begin plan started entropy = .ok r₀)
    (hreplay : replay events r₀ = some r) (hu : r.users[user]? = some u) {moment : Nat}
    {taskId : String} {before : Diary}
    (hsuffix : (moment, .accepted taskId) :: before <:+ u.diary) :
    Accepts r₀ events user moment taskId before := by
  obtain ⟨hvalid, deadline, _, rfl⟩ := begin_eq_ok.mp hbegin
  have hc := (validate_eq_ok.mp hvalid).1
  refine replay_induction (P := fun events r => ∀ (user : Nat) (u : User) (moment : Nat)
    (taskId : String) (before : Diary), r.users[user]? = some u →
      (moment, .accepted taskId) :: before <:+ u.diary →
        Accepts (ofPlan plan started deadline entropy) events user moment taskId before)
    ?_ ?_ hreplay user u moment taskId before hu hsuffix
  · intro user u moment taskId before hu hsuffix
    obtain ⟨id, _, rfl⟩ := Option.map_eq_some_iff.mp (users_ofPlan ▸ hu)
    exact absurd (List.suffix_nil.mp hsuffix) (by simp)
  · intro first r₁ now e r₂ hfirst ih _ hchange user u moment taskId before hu hsuffix
    have hplan : r₁.plan = plan := (chronicled_replay hbegin hfirst).plan
    have hold : ∀ v : User, r₁.users[user]? = some v →
        (moment, .accepted taskId) :: before <:+ v.diary →
          Accepts (ofPlan plan started deadline entropy) (first ++ [(now, e)]) user moment taskId
            before :=
      fun v hv hpart => (ih user v moment taskId before hv hpart).append _
    cases hchange with
    | release =>
      rw [(framed_release _).2.users] at hu
      exact hold u hu hsuffix
    | endRelease | shutdown => exact hold u hu hsuffix
    | @answer place v purpose sent _ hv hstage answer =>
      rcases of_getElem?_setIfInBounds hu with ⟨rfl, rfl⟩ | hsame
      · have hreceived : User.Received r₁.plan r₁.deadline now sent v answer purpose _ :=
          User.received_receiveFor v sent answer purpose
        rcases hreceived.accepted_cases hsuffix with hbefore | ⟨⟨command, rfl⟩, hid, rfl, rfl⟩
        · exact hold v hv hbefore
        · obtain ⟨bytes, rfl, hread⟩ := exists_body_of_taskId hid
          exact ⟨first, bytes, [], r₁, v, command, sent, rfl, hfirst, hv, hstage, rfl, hread⟩
      · exact hold u hsame hsuffix
    | @move _ place v v' permits _ hv hstage hstep =>
      rcases of_getElem?_setIfInBounds hu with ⟨rfl, rfl⟩ | hsame
      · have hc' : r₁.plan.commands ≠ [] := hplan ▸ hc
        obtain ⟨later, hdiary, hentries⟩ := hstep.wrote hc'
        rw [hdiary] at hsuffix
        rcases suffix_append_cases hsuffix with hnew | hbefore
        · obtain ⟨_, _, hanswered⟩ := hentries _ hnew
          obtain ⟨purpose, sent, hcalling⟩ := hanswered taskId rfl
          exact absurd hcalling (hstage purpose sent)
        · exact hold v hv hbefore
      · exact hold u hsame hsuffix

/-- A user that has become another one is found in the same place. -/
private theorem getElem?_setIfInBounds_user {users : Array User} {v : User}
    (hv : users[user]? = some v) (v' : User) : (users.setIfInBounds user v')[user]? = some v' := by
  obtain ⟨hlt, _⟩ := Array.getElem?_eq_some_iff.mp hv
  exact Array.getElem?_setIfInBounds_self_of_lt hlt

/-- Every submission of a user that is accepted is in its diary ever after. -/
theorem accepted_of_accepts (hbegin : begin plan started entropy = .ok r₀)
    (hreplay : replay events r₀ = some r) (hu : r.users[user]? = some u) {moment : Nat}
    {taskId : String} {before : Diary} (h : Accepts r₀ events user moment taskId before) :
    (moment, .accepted taskId) :: before <:+ u.diary := by
  obtain ⟨first, bytes, rest, r₁, v, command, sent, rfl, hfirst, hv, hstage, rfl, hread⟩ := h
  rw [replay_append, hfirst, Option.bind_some] at hreplay
  obtain ⟨r₂, hstep, hrest⟩ := Option.bind_eq_some_iff.mp hreplay
  unfold step at hstep
  split_ifs at hstep with hmoment
  have hplan : r₁.plan = plan := (chronicled_replay hbegin hfirst).plan
  have hc : plan.commands ≠ [] := (validate_eq_ok.mp (begin_eq_ok.mp hbegin).1).1
  have hframe : r₂.plan = r₁.plan := (happen_cases hstep).1.plan
  obtain ⟨w, later, hw, hdiary, _⟩ :=
    (later_replay (hframe.trans hplan ▸ hc) hrest).diaries user u hu
  have haccepted : (moment, .accepted taskId) :: v.diary <:+ w.diary := by
    cases change_of_happen hstep with
    | @answer _ v' purpose sent' _ hv' hstage' _ =>
      obtain rfl := Option.some.inj (hv.symm.trans hv')
      obtain ⟨rfl, rfl⟩ := Stage.calling.inj (hstage.symm.trans hstage')
      have hreceived : User.Received r₁.plan r₁.deadline moment sent v (.body bytes)
        (.submission command) _ := User.received_receiveFor v sent (.body bytes) _
      have hsame := Option.some.inj (hw.symm.trans (getElem?_setIfInBounds_user hv _))
      rw [← hsame] at hreceived
      have hid : (Answer.body bytes).taskId (Clock.since sent moment) = .ok taskId := hread
      cases hreceived with
      | ended hnone =>
        have hfailed := hnone command rfl
        rw [hid] at hfailed
        exact absurd hfailed (by simp [Except.isOk, Except.toBool])
      | accepted hid' =>
        obtain rfl := Except.ok.inj (hid.symm.trans hid')
        exact List.suffix_cons _ _
    | move he => exact absurd he (by simp [Event.isAnswer])
  exact hdiary ▸ haccepted.trans (List.suffix_append later w.diary)

end Run

/-- A user that asks for its own tasks only, in a run that began as `r₀` and went through some
events. -/
structure User.OwnsTasks (r₀ : Run) (events : List (Nat × Event)) (user : Nat) (u : User) :
    Prop where
  /-- A task that is asked for was accepted for this user before, with an id that is not blank. -/
  query : ∀ sent taskId before, (sent, .call (.status taskId)) :: before <:+ u.diary →
    Text.isAllBlank taskId = false ∧ ∃ moment earlier,
      (moment, .accepted taskId) :: earlier <:+ before ∧
        Run.Accepts r₀ events user moment taskId earlier
  /-- The task of an accepted submission is asked for before anything else happens. -/
  accepted : ∀ moment taskId before, Run.Accepts r₀ events user moment taskId before →
    (moment, .call (.status taskId)) :: (moment, .accepted taskId) :: before <:+ u.diary
  /-- A look at no task is over without a call, and is made only if none was accepted so far. -/
  idle : ∀ moment (before : Diary), (moment, .iteration .idle) :: before <:+ u.diary →
    before.accepted = [] ∧ (moment, .ended) :: (moment, .iteration .idle) :: before <:+ u.diary
  /-- Any other look at a task asks for one that was accepted so far. -/
  status : ∀ moment place (before : Diary),
    (moment, .iteration (.status place)) :: before <:+ u.diary →
      ∃ taskId, before.accepted[place]? = some taskId ∧
        (moment, .call (.status taskId)) :: (moment, .iteration (.status place)) :: before <:+
          u.diary
  /-- The looks at no task are counted. -/
  idleChecks : u.idleChecks = Diary.idleChecks u.diary

namespace Run

/-- No task id passes from one user to another or comes from nowhere, whatever the gateway
answers and in whatever order the users go on; and the outcome counts the looks at no task. -/
theorem tasks_owned {plan : Plan} {started : Nat} {entropy : Nat → Random.Stream}
    {events : List (Nat × Event)} {r₀ r : Run} (hbegin : begin plan started entropy = .ok r₀)
    (hreplay : replay events r₀ = some r) :
    (∀ (user : Nat) (u : User), r.users[user]? = some u → u.OwnsTasks r₀ events user) ∧
      r.outcome.idleChecks = (r.users.toList.map fun u => Diary.idleChecks u.diary).sum := by
  have hchronicled := chronicled_replay hbegin hreplay
  constructor
  · intro user u hu
    have h := hchronicled.users user u hu
    refine ⟨?_, ?_, ?_, ?_, h.idleChecks⟩
    · intro sent taskId before hcall
      obtain ⟨moment, earlier, haccepted⟩ := h.told.exists_accepted hcall
      have hwhole := (haccepted.trans (List.suffix_cons _ _)).trans hcall
      have hsource := accepts_of_accepted hbegin hreplay hu hwhole
      exact ⟨hsource.isAllBlank, moment, earlier, haccepted, hsource⟩
    · intro moment taskId before haccepts
      have hentry := accepted_of_accepts hbegin hreplay hu haccepts
      obtain ⟨moment', following, hlonger, hnext⟩ := h.exists_next hentry (by simp)
      cases hnext
      exact hlonger
    · intro moment before hidle
      obtain ⟨moment', following, hlonger, hnext⟩ := h.exists_next hidle (by simp)
      cases hnext
      refine ⟨?_, hlonger⟩
      cases h.told.next hidle with
      | first _ hfits => exact hfits
      | further _ _ _ _ hfits => exact hfits
    · intro moment place before hstatus
      obtain ⟨moment', following, hlonger, hnext⟩ := h.exists_next hstatus (by simp)
      cases hnext with
      | status hid => exact ⟨_, hid, hlonger⟩
  · refine congrArg List.sum (List.map_congr_left fun u hu => ?_)
    obtain ⟨user, hfound⟩ := List.mem_iff_getElem?.mp hu
    rw [Array.getElem?_toList] at hfound
    exact (hchronicled.users user u hfound).idleChecks

/-- The second query of the first user asks for the task that was accepted for it. -/
theorem tasks_owned_pair : ∃ r₀ r u before, begin pairPlan 0 = .ok r₀ ∧
    replay pairEvents r₀ = some r ∧ r.users[0]? = some u ∧
      (506000000, .call (.status "a")) :: before <:+ u.diary ∧ ∃ moment earlier,
        (moment, .accepted "a") :: earlier <:+ before ∧
          Accepts r₀ pairEvents 0 moment "a" earlier := by
  have hvalid : pairPlan.validate = .ok () := by decide +kernel
  have hdeadline : pairPlan.deadline? 0 = some 1000000000 := by decide +kernel
  have hbegin : begin pairPlan 0 = .ok (ofPlan pairPlan 0 1000000000 .numbered) :=
    begin_eq_ok.mpr ⟨hvalid, _, hdeadline, rfl⟩
  have hend : (replay pairEvents (ofPlan pairPlan 0 1000000000 .numbered)).any (fun r =>
      r.users[0]?.any fun u => u.diary[1]? == some (506000000, .call (.status "a"))) = true := by
    decide +kernel
  obtain ⟨r, hreplay, hr⟩ := (Option.any_eq_true _ _).mp hend
  obtain ⟨u, hu, hentry⟩ := (Option.any_eq_true _ _).mp hr
  obtain ⟨hlt, hcall⟩ := List.getElem?_eq_some_iff.mp (eq_of_beq hentry)
  have hsuffix := List.drop_suffix 1 u.diary
  rw [List.drop_eq_getElem_cons hlt, hcall] at hsuffix
  have howned := (tasks_owned hbegin hreplay).1 0 u hu
  exact ⟨_, r, u, _, hbegin, hreplay, hu, hsuffix, (howned.query _ _ _ hsuffix).2⟩

end Run

end GatewayProbe.Load
