import GatewayProbe.Proofs.Load.Step

/-!
# The diaries of virtual users

A diary tells all that a user has done. What may come next in it follows from what it says
last: an iteration begins at the start or in the slot after an iteration that has ended, a
call follows the choice of an iteration or the acceptance of a task, and an iteration ends
after a call or at once when there is nothing to look at. Each step of a user writes what may
come next, so the diary of every user in every run can be read in this way.
-/

namespace GatewayProbe.Load

open GatewayProbe.Gateway

/-- The task that is accepted with a deed, if it is of this kind. -/
def Deed.tasks : Deed → List String
  | .accepted taskId => [taskId]
  | _ => []

/-- What a user did and when, the latest first. -/
abbrev Diary : Type := List (Nat × Deed)

namespace Diary

/-- The moments at which iterations began, in order. -/
def beginnings (d : Diary) : List Nat :=
  d.reverse.filterMap fun entry =>
    match entry.2 with
    | .iteration _ => some entry.1
    | _ => none

/-- The moments at which iterations ended, in order. -/
def endings (d : Diary) : List Nat :=
  d.reverse.filterMap fun entry =>
    match entry.2 with
    | .ended => some entry.1
    | _ => none

/-- The tasks that were accepted, in order. -/
def accepted (d : Diary) : List String := d.reverse.flatMap fun entry => entry.2.tasks

/-- How often there was no task to look at. -/
def idleChecks (d : Diary) : Nat := d.countP fun entry => entry.2 = .iteration .idle

/-- An iteration that is noted is the last one that has begun. -/
theorem beginnings_cons (now : Nat) (deed : Deed) (d : Diary) :
    beginnings ((now, deed) :: d) = d.beginnings ++
      match deed with
      | .iteration _ => [now]
      | _ => [] := by
  cases deed <;> simp [beginnings]

/-- An iteration has begun at a moment exactly when a choice is noted for it. -/
theorem mem_beginnings {d : Diary} {moment : Nat} :
    moment ∈ d.beginnings ↔ ∃ choice, (moment, .iteration choice) ∈ d := by
  induction d with
  | nil => simp [beginnings]
  | cons entry d ih =>
    obtain ⟨now, deed⟩ := entry
    rw [beginnings_cons, List.mem_append, ih]
    cases deed <;> simp [exists_or, or_comm]

/-- What is written later without an iteration adds no beginning. -/
theorem beginnings_append {later d : Diary}
    (h : ∀ entry ∈ later, ∀ choice, entry.2 ≠ .iteration choice) :
    beginnings (later ++ d) = d.beginnings := by
  induction later with
  | nil => rfl
  | cons entry later ih =>
    obtain ⟨now, deed⟩ := entry
    rw [List.forall_mem_cons] at h
    rw [List.cons_append, beginnings_cons, ih h.2]
    cases deed with
    | iteration choice => exact absurd rfl (h.1 choice)
    | _ => exact List.append_nil _

/-- An end that is noted is the last one. -/
theorem endings_cons (now : Nat) (deed : Deed) (d : Diary) :
    endings ((now, deed) :: d) = d.endings ++
      match deed with
      | .ended => [now]
      | _ => [] := by
  cases deed <;> simp [endings]

/-- A task that is noted is the last one that was accepted. -/
theorem accepted_cons (now : Nat) (deed : Deed) (d : Diary) :
    accepted ((now, deed) :: d) = d.accepted ++ deed.tasks := by
  simp [accepted]

private theorem idleChecks_cons (now : Nat) (deed : Deed) (d : Diary) :
    idleChecks ((now, deed) :: d) = d.idleChecks + if deed = .iteration .idle then 1 else 0 := by
  simp [idleChecks, List.countP_cons]

end Diary

/-- A choice that can be made after what a diary says. -/
def Choice.Fits (before : Diary) : Choice → Prop
  | .health | .execute _ => True
  | .status place => place < before.accepted.length
  | .idle => before.accepted = []

section Diaries

variable (plan : Plan) (deadline start : Nat) (onTime : Prop)

/-- A slot of a user before the deadline, with the moment from which on it is taken: the slot
may be past when the iteration before it ends. -/
structure Slot (ended : Nat) (rest : Diary) (due : Nat) : Prop where
  early : ∃ slot, slot? start plan.rate (Diary.endings ((ended, .ended) :: rest)).length =
    some slot ∧ slot < deadline ∧ due = max ended (Clock.wake slot)

/-- What a user that has begun at `start` may write next into its diary, and when. If it wakes
on time, it takes its slot no later than it is due. -/
inductive Next : Diary → Nat → Deed → Prop where
  | start : Next [] start .start
  | first {choice : Choice} (hopen : start < deadline) (hfits : choice.Fits [(start, .start)]) :
    Next [(start, .start)] start (.iteration choice)
  | further {ended due now : Nat} {rest : Diary} {choice : Choice}
    (hslot : Slot plan deadline start ended rest due) (hdue : due ≤ now)
    (hprompt : onTime → now ≤ due) (hopen : now < deadline)
    (hfits : choice.Fits ((ended, .ended) :: rest)) :
    Next ((ended, .ended) :: rest) now (.iteration choice)
  | health {now : Nat} {rest : Diary} :
    Next ((now, .iteration .health) :: rest) now (.call .health)
  | execute {now place : Nat} {rest : Diary} {command : Command}
    (hcommand : plan.commands[place]? = some command) :
    Next ((now, .iteration (.execute place)) :: rest) now (.call (.execute command))
  | status {now place : Nat} {rest : Diary} {taskId : String}
    (hid : rest.accepted[place]? = some taskId) :
    Next ((now, .iteration (.status place)) :: rest) now (.call (.status taskId))
  | idle {now : Nat} {rest : Diary} : Next ((now, .iteration .idle) :: rest) now .ended
  | accepted {sent now : Nat} {rest : Diary} {command : Command} {taskId : String} :
    Next ((sent, .call (.execute command)) :: rest) now (.accepted taskId)
  | firstQuery {now : Nat} {rest : Diary} {taskId : String} :
    Next ((now, .accepted taskId) :: rest) now (.call (.status taskId))
  | query {sent now : Nat} {rest : Diary} {taskId : String} :
    Next ((sent, .call (.status taskId)) :: rest) now (.call (.status taskId))
  | answered {sent now : Nat} {rest : Diary} {q : Call} :
    Next ((sent, .call q) :: rest) now .ended

/-- A diary that was written entry by entry. -/
inductive Told : Diary → Prop where
  | nil : Told []
  | cons {before : Diary} {now : Nat} {deed : Deed} (h : Told before)
    (hnext : Next plan deadline start onTime before now deed) : Told ((now, deed) :: before)

/-- Where a user stands after what its diary says. `halted` holds of the moments by which the
shutdown has been announced. -/
inductive Standing (halted : Nat → Prop) : Stage → Diary → Prop where
  | waiting : Standing halted .waiting []
  | gone : Standing halted .gone []
  | calling {purpose : Purpose} {sent : Nat} {rest : Diary} :
    Standing halted (.calling purpose sent) ((sent, .call purpose.call) :: rest)
  | resting {work : Work} {sent due : Nat} {rest : Diary} :
    Standing halted (.resting work due) ((sent, .call (.status work.poll.taskId)) :: rest)
  | pacing {ended due : Nat} {rest : Diary} (hslot : Slot plan deadline start ended rest due) :
    Standing halted (.pacing due) ((ended, .ended) :: rest)
  | tooLate (hover : deadline ≤ start ∨ halted start) :
    Standing halted .finished [(start, .start)]
  | noSlot {ended : Nat} {rest : Diary} (hslot : ∀ due, ¬ Slot plan deadline start ended rest due) :
    Standing halted .finished ((ended, .ended) :: rest)
  | cutOff {ended due now : Nat} {rest : Diary} (hslot : Slot plan deadline start ended rest due)
    (hprompt : onTime → now ≤ due) (hover : due ≤ now ∧ deadline ≤ now ∨ halted now) :
    Standing halted .finished ((ended, .ended) :: rest)

end Diaries

section Standings

variable {plan : Plan} {deadline start : Nat} {onTime : Prop} {halted : Nat → Prop} {d : Diary}

/-- A user that waits for its release has done nothing. -/
theorem Standing.of_waiting (h : Standing plan deadline start onTime halted .waiting d) :
    d = [] := by
  cases h
  rfl

/-- The last that a user did whose call is under way was to make it. -/
theorem Standing.of_calling {purpose : Purpose} {sent : Nat}
    (h : Standing plan deadline start onTime halted (.calling purpose sent) d) :
    ∃ rest, d = (sent, .call purpose.call) :: rest := by
  cases h
  exact ⟨_, rfl⟩

/-- The last that a user did that polls was to ask for the task. -/
theorem Standing.of_resting {work : Work} {due : Nat}
    (h : Standing plan deadline start onTime halted (.resting work due) d) :
    ∃ sent rest, d = (sent, .call (.status work.poll.taskId)) :: rest := by
  cases h
  exact ⟨_, _, rfl⟩

/-- A user waits for a slot after the end of an iteration. -/
theorem Standing.of_pacing {due : Nat}
    (h : Standing plan deadline start onTime halted (.pacing due) d) :
    ∃ ended rest, d = (ended, .ended) :: rest ∧ Slot plan deadline start ended rest due := by
  cases h with
  | pacing hslot => exact ⟨_, _, rfl, hslot⟩

end Standings

namespace User

/-- What a user keeps in mind is what its diary says. -/
structure Noted (plan : Plan) (deadline : Nat) (onTime : Prop) (u : User) : Prop where
  told : Told plan deadline u.startedAt onTime u.diary
  seen : u.seen.toList = Diary.accepted u.diary
  iterations : u.iterations = (Diary.endings u.diary).length
  idleChecks : u.idleChecks = Diary.idleChecks u.diary

/-- A user whose diary tells what it has done and where it stands. -/
structure Chronicled (plan : Plan) (deadline : Nat) (onTime : Prop) (halted : Nat → Prop)
    (u : User) : Prop extends Noted plan deadline onTime u where
  standing : Standing plan deadline u.startedAt onTime halted u.stage u.diary

variable {plan : Plan} {deadline now : Nat} {onTime : Prop} {halted : Nat → Prop} {u u' : User}

/-- A new user has an empty diary. -/
theorem chronicled_new (stream : Random.Stream) :
    Chronicled plan deadline onTime halted { stream } where
  told := .nil
  seen := rfl
  iterations := rfl
  idleChecks := rfl
  standing := .waiting

/-- What may come next is noted. -/
theorem Noted.write (h : Noted plan deadline onTime u) {deed : Deed} {v : User}
    (hnext : Next plan deadline u.startedAt onTime u.diary now deed)
    (hdiary : v.diary = (now, deed) :: u.diary) (hstart : v.startedAt = u.startedAt)
    (hseen : v.seen.toList = u.seen.toList ++ deed.tasks)
    (hiterations : v.iterations = u.iterations + if deed = .ended then 1 else 0)
    (hidle : v.idleChecks = u.idleChecks + if deed = .iteration .idle then 1 else 0) :
    Noted plan deadline onTime v where
  told := by
    rw [hdiary, hstart]
    exact .cons h.told hnext
  seen := by rw [hdiary, hseen, h.seen, Diary.accepted_cons]
  iterations := by
    rw [hdiary, hiterations, h.iterations, Diary.endings_cons]
    cases deed <;> simp
  idleChecks := by rw [hdiary, hidle, h.idleChecks, Diary.idleChecks_cons]

/-- A call that may come next is noted. -/
theorem Noted.ask (h : Noted plan deadline onTime u) {purpose : Purpose}
    (hnext : Next plan deadline u.startedAt onTime u.diary now (.call purpose.call)) :
    Chronicled plan deadline onTime halted (u.ask now purpose) where
  toNoted := h.write hnext rfl rfl (List.append_nil _).symm rfl rfl
  standing := .calling

/-- The end of an iteration is noted, and the user waits for its next slot if there is one. -/
theorem Noted.endIteration (h : Noted plan deadline onTime u)
    (hnext : Next plan deadline u.startedAt onTime u.diary now .ended) :
    Chronicled plan deadline onTime halted (u.endIteration plan deadline now) := by
  have hnoted : Noted plan deadline onTime
      { u.note now .ended with iterations := u.iterations + 1 } :=
    h.write hnext rfl rfl (List.append_nil _).symm rfl rfl
  have hlength := hnoted.iterations
  change u.iterations + 1 = (Diary.endings ((now, .ended) :: u.diary)).length at hlength
  obtain ⟨stage, hstage, heq⟩ : ∃ stage, Standing plan deadline u.startedAt onTime halted stage
      ((now, .ended) :: u.diary) ∧ u.endIteration plan deadline now =
        { u.note now .ended with iterations := u.iterations + 1, stage } := by
    unfold User.endIteration
    simp only
    cases hslot : slot? u.startedAt plan.rate (u.iterations + 1) with
    | none =>
      refine ⟨.finished, .noSlot ?_, rfl⟩
      rintro due ⟨slot, hsome, _⟩
      rw [← hlength, hslot] at hsome
      exact absurd hsome (by simp)
    | some slot =>
      unfold awaitSlot
      simp only
      split_ifs with hlate
      · refine ⟨.finished, .noSlot ?_, rfl⟩
        rintro due ⟨slot', hsome, hearly, _⟩
        rw [← hlength, hslot] at hsome
        obtain rfl := Option.some.inj hsome
        exact absurd hearly (by omega)
      · exact ⟨_, .pacing ⟨slot, hlength ▸ hslot, by omega, rfl⟩, rfl⟩
  rw [heq]
  exact ⟨⟨hnoted.told, hnoted.seen, hnoted.iterations, hnoted.idleChecks⟩, hstage⟩

/-- An iteration that may come next is noted with what it begins with; if none may come, the
user stands where it has stopped. -/
theorem Noted.begun {stopped : Bool} (h : Noted plan deadline onTime u)
    (hnext : ∀ choice : Choice, choice.Fits u.diary → now < deadline →
      Next plan deadline u.startedAt onTime u.diary now (.iteration choice))
    (hover : deadline ≤ now ∨ stopped = true →
      Standing plan deadline u.startedAt onTime halted .finished u.diary)
    (hbegun : Begun plan deadline stopped now u u') :
    Chronicled plan deadline onTime halted u' := by
  have hnoted : ∀ (stream : Random.Stream) (choice : Choice), choice ≠ .idle →
      choice.Fits u.diary → now < deadline →
        Noted plan deadline onTime ({ u with stream }.note now (.iteration choice)) := by
    intro stream choice hne hfits hopen
    exact h.write (hnext choice hfits hopen) rfl rfl (List.append_nil _).symm rfl
      (by simp [note, hne])
  cases hbegun with
  | ended hended => exact ⟨⟨h.told, h.seen, h.iterations, h.idleChecks⟩, hover hended⟩
  | health stream hopen => exact (hnoted stream .health (by simp) trivial hopen.1).ask .health
  | @execute stream hopen place _ hcommand =>
    exact (hnoted stream (.execute place) (by simp) trivial hopen.1).ask (.execute hcommand)
  | idle stream hopen hseen =>
    have hnone : Diary.accepted u.diary = [] := by
      rw [← h.seen, hseen]
    have hidle : Noted plan deadline onTime
        { { u with stream }.note now (.iteration .idle) with idleChecks := u.idleChecks + 1 } :=
      h.write (hnext .idle hnone hopen.1) rfl rfl (List.append_nil _).symm rfl rfl
    exact hidle.endIteration .idle
  | @status stream hopen place _ hid =>
    rw [← Array.getElem?_toList, h.seen] at hid
    obtain ⟨hfits, _⟩ := List.getElem?_eq_some_iff.mp hid
    exact (hnoted stream (.status place) (by simp) hfits hopen.1).ask (.status hid)

/-- The answer to a call is followed by the end of the iteration, by the acceptance of a task
with its first query, or by nothing until the next query. -/
theorem Chronicled.receiveFor (h : Chronicled plan deadline onTime halted u) {purpose : Purpose}
    {sent : Nat} {answer : Answer} (hstage : u.stage = .calling purpose sent)
    (hreceived : Received plan deadline now sent u answer purpose u') :
    Chronicled plan deadline onTime halted u' := by
  obtain ⟨rest, hdiary⟩ := (hstage ▸ h.standing).of_calling
  cases hreceived with
  | ended => exact h.toNoted.endIteration (hdiary ▸ .answered)
  | @accepted command taskId hid =>
    have hnoted : Noted plan deadline onTime
        ({ u with seen := u.seen.push taskId }.note now (.accepted taskId)) :=
      h.write (hdiary ▸ .accepted) rfl rfl Array.toList_push rfl rfl
    exact hnoted.ask .firstQuery
  | @rested work poll due hid =>
    refine ⟨⟨h.told, h.seen, h.iterations, h.idleChecks⟩, ?_⟩
    change Standing _ _ _ _ _ _ u.diary
    rw [hdiary]
    change Standing _ _ _ _ _ _ ((sent, .call (.status work.poll.taskId)) :: rest)
    rw [← hid]
    exact .resting

/-- A step of a user writes what may come next. -/
theorem Chronicled.step (hc : plan.commands ≠ []) {stopped : Bool} {es : List Effect}
    (h : Chronicled plan deadline onTime halted u)
    (hstep : User.Step plan deadline stopped now u u' es)
    (hprompt : onTime → ∀ due, u.stage = .pacing due → now ≤ due)
    (hhalted : stopped = true → halted now) : Chronicled plan deadline onTime halted u' := by
  cases hstep with
  | start hu =>
    have hdiary := (hu ▸ h.standing).of_waiting
    have hfresh : Noted plan deadline onTime { u with startedAt := now } :=
      ⟨hdiary ▸ .nil, h.seen, h.iterations, h.idleChecks⟩
    have hnoted : Noted plan deadline onTime ({ u with startedAt := now }.note now .start) :=
      hfresh.write (hdiary ▸ .start) rfl rfl (List.append_nil _).symm rfl rfl
    refine hnoted.begun ?_ ?_ (begun_beginIteration hc _)
    · intro choice hfits hopen
      simp only [note, hdiary] at hfits ⊢
      exact .first hopen hfits
    · intro hover
      simp only [note, hdiary]
      exact .tooLate (hover.imp_right hhalted)
  | leave hu =>
    refine ⟨⟨h.told, h.seen, h.iterations, h.idleChecks⟩, ?_⟩
    change Standing _ _ _ _ _ .gone u.diary
    have hdiary := (hu ▸ h.standing).of_waiting
    rw [hdiary]
    exact .gone
  | answer hu answer => exact h.receiveFor hu (received_receiveFor u _ answer _)
  | query hu _ =>
    obtain ⟨sent, rest, hdiary⟩ := (hu ▸ h.standing).of_resting
    exact h.toNoted.ask (hdiary ▸ .query)
  | @iterate due hu hdue =>
    have hlate := fun ht => hprompt ht due hu
    obtain ⟨ended, rest, hdiary, hslot⟩ := (hu ▸ h.standing).of_pacing
    refine h.toNoted.begun ?_ ?_ (begun_beginIteration hc _)
    · intro choice hfits hopen
      rw [hdiary] at hfits ⊢
      exact .further hslot hdue hlate hopen hfits
    · intro hover
      rw [hdiary]
      exact .cutOff hslot hlate (hover.imp (fun hend => ⟨hdue, hend⟩) hhalted)
  | @stop due hu hstopped =>
    have hlate := fun ht => hprompt ht due hu
    obtain ⟨ended, rest, hdiary, hslot⟩ := (hu ▸ h.standing).of_pacing
    refine ⟨⟨h.told, h.seen, h.iterations, h.idleChecks⟩, ?_⟩
    change Standing _ _ _ _ _ .finished u.diary
    rw [hdiary]
    exact .cutOff hslot hlate (Or.inr (hhalted hstopped))

/-- What a user has written at a moment comes on top of its diary. It begins an iteration only
if the run is not stopped, and only the answer to a call makes it accept a task. -/
def Wrote (now : Nat) (stopped : Bool) (u u' : User) : Prop :=
  ∃ later : Diary, u'.diary = later ++ u.diary ∧ ∀ entry ∈ later, entry.1 = now ∧
    (∀ choice, entry.2 = .iteration choice → stopped = false) ∧
      ∀ taskId, entry.2 = .accepted taskId → ∃ purpose sent, u.stage = .calling purpose sent

/-- What a user writes at a moment adds beginnings at that moment, and none if the run is
stopped. -/
theorem Wrote.beginnings {stopped : Bool} (h : Wrote now stopped u u') :
    ∃ later, Diary.beginnings u'.diary = Diary.beginnings u.diary ++ later ∧
      (∀ begun ∈ later, begun = now) ∧ (stopped = true → later = []) := by
  obtain ⟨later, hdiary, hentries⟩ := h
  refine ⟨Diary.beginnings later, ?_, fun begun hbegun => ?_, fun hstopped => ?_⟩
  · rw [hdiary, Diary.beginnings, List.reverse_append, List.filterMap_append]
    rfl
  · obtain ⟨choice, hentry⟩ := Diary.mem_beginnings.mp hbegun
    exact (hentries _ hentry).1
  · refine List.eq_nil_iff_forall_not_mem.mpr fun begun hbegun => ?_
    obtain ⟨choice, hentry⟩ := Diary.mem_beginnings.mp hbegun
    exact absurd ((hentries _ hentry).2.1 choice rfl) (by simp [hstopped])

/-- The end of an iteration is noted. -/
theorem diary_endIteration (plan : Plan) (deadline now : Nat) (u : User) :
    (u.endIteration plan deadline now).diary = (now, .ended) :: u.diary := by
  obtain ⟨stage, _, heq⟩ := endIteration_eq plan deadline now u
  rw [heq]
  rfl

/-- What a user writes when it begins its next iteration. -/
theorem Begun.wrote {stopped : Bool} (h : Begun plan deadline stopped now u u') :
    Wrote now stopped u u' := by
  cases h with
  | ended => exact ⟨[], rfl, by simp⟩
  | health _ hopen =>
    exact ⟨[(now, .call .health), (now, .iteration .health)], rfl, by simp [hopen.2]⟩
  | @execute _ hopen place command =>
    exact ⟨[(now, .call (.execute command)), (now, .iteration (.execute place))], rfl,
      by simp [hopen.2]⟩
  | idle _ hopen =>
    exact ⟨[(now, .ended), (now, .iteration .idle)], diary_endIteration .., by simp [hopen.2]⟩
  | @status _ hopen place taskId =>
    exact ⟨[(now, .call (.status taskId)), (now, .iteration (.status place))], rfl,
      by simp [hopen.2]⟩

/-- Each step of a user writes at its own moment. -/
theorem Step.wrote (hc : plan.commands ≠ []) {stopped : Bool} {es : List Effect}
    (h : Step plan deadline stopped now u u' es) : Wrote now stopped u u' := by
  cases h with
  | start =>
    obtain ⟨later, hlater, hentries⟩ :=
      (begun_beginIteration hc ({ u with startedAt := now }.note now .start)).wrote
    refine ⟨later ++ [(now, .start)], ?_, ?_⟩
    · rw [List.append_assoc]
      exact hlater
    · rw [List.forall_mem_append]
      exact ⟨hentries, by simp⟩
  | leave => exact ⟨[], rfl, by simp⟩
  | @answer purpose sent hu answer =>
    have hreceived : Received plan deadline now sent u answer purpose _ :=
      received_receiveFor u sent answer purpose
    generalize (u.receiveFor plan deadline now sent answer purpose).1 = v at hreceived
    cases hreceived with
    | ended => exact ⟨[(now, .ended)], diary_endIteration .., by simp⟩
    | @accepted _ taskId =>
      exact ⟨[(now, .call (.status taskId)), (now, .accepted taskId)], rfl, by simp [hu]⟩
    | rested => exact ⟨[], rfl, by simp⟩
  | @query work => exact ⟨[(now, .call (.status work.poll.taskId))], rfl, by simp⟩
  | iterate => exact (begun_beginIteration hc u).wrote
  | stop => exact ⟨[], rfl, by simp⟩

end User

end GatewayProbe.Load
