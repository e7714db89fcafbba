import Mathlib.Logic.Relation
import GatewayProbe.Proofs.Load.Chronicle

/-!
# The choices of seeded users

What a user chooses depends on its stream of random words and on how many tasks it has seen. It
takes words from the stream only to choose, and sees a task when a submission of its own is
accepted. So of two users with equal streams, whose submissions fare the same, one makes the
choices of the other and perhaps some more, whatever else happens in their runs.
-/

namespace GatewayProbe.Load

open GatewayProbe.Gateway

/-- The choice of an iteration that begins with a deed. -/
def Deed.choice? : Deed → Option Choice
  | .iteration choice => some choice
  | _ => none

/-- What a deed tells of a submission, after what a diary says: whether it was accepted. -/
def Deed.fate? (before : Diary) : Deed → Option Bool
  | .accepted _ => some true
  | .ended =>
    match before with
    | (_, .call (.execute _)) :: _ => some false
    | _ => none
  | _ => none

namespace Diary

/-- The choices of all iterations, in order. -/
def choices : Diary → List Choice
  | [] => []
  | (_, deed) :: before => choices before ++ deed.choice?.toList

/-- Whether each submission that has been answered was accepted, in order. -/
def fates : Diary → List Bool
  | [] => []
  | (_, deed) :: before => fates before ++ (deed.fate? before).toList

end Diary

/-- Whether a choice is to submit a command. -/
def Choice.submits : Choice → Bool
  | .execute _ => true
  | _ => false

/-- What a user chooses next that has seen some tasks and has some commands to execute, with
what remains of its stream. -/
def chosen (mix : Mix) (commands seen : Nat) (stream : Random.Stream) :
    Choice × Random.Stream :=
  let picked := mix.pick stream
  match picked.1 with
  | .health => (.health, picked.2)
  | .execute =>
    let drawn := Random.drawIndex commands picked.2
    (.execute drawn.1, drawn.2)
  | .status =>
    if seen = 0 then (.idle, picked.2)
    else
      let drawn := Random.drawIndex seen picked.2
      (.status drawn.1, drawn.2)

/-- What matters of a user for its choices. -/
structure Play where
  stream : Random.Stream
  /-- How many tasks it has seen. -/
  seen : Nat
  choices : List Choice
  fates : List Bool
  /-- Whether a submission is under way. -/
  pending : Bool

namespace Play

/-- Nothing has been chosen yet. -/
def fresh (stream : Random.Stream) : Play := ⟨stream, 0, [], [], false⟩

/-- Make the next choice. -/
def choose (mix : Mix) (commands : Nat) (p : Play) : Play :=
  let next := chosen mix commands p.seen p.stream
  { p with stream := next.2, choices := p.choices ++ [next.1], pending := next.1.submits }

/-- Learn whether the submission under way was accepted. -/
def settle (accepted : Bool) (p : Play) : Play :=
  { p with seen := p.seen + accepted.toNat, fates := p.fates ++ [accepted], pending := false }

/-- One move: the next choice, or the fate of the submission under way. -/
inductive Move (mix : Mix) (commands : Nat) (p : Play) : Play → Prop where
  | choose (h : p.pending = false) : Move mix commands p (p.choose mix commands)
  | settle (h : p.pending = true) (accepted : Bool) : Move mix commands p (p.settle accepted)

/-- Some moves lead from one play to another. -/
abbrev Leads (mix : Mix) (commands : Nat) : Play → Play → Prop :=
  Relation.ReflTransGen (Move mix commands)

variable {mix : Mix} {commands : Nat} {p₀ p q : Play}

/-- A move adds to the choices and fates there are. -/
theorem Move.prefixes (h : Move mix commands p q) :
    p.choices <+: q.choices ∧ p.fates <+: q.fates := by
  cases h with
  | choose => exact ⟨List.prefix_append _ _, List.prefix_rfl⟩
  | settle => exact ⟨List.prefix_rfl, List.prefix_append _ _⟩

/-- So do any number of moves. -/
theorem Leads.prefixes (h : Leads mix commands p q) :
    p.choices <+: q.choices ∧ p.fates <+: q.fates := by
  induction h with
  | refl => exact ⟨List.prefix_rfl, List.prefix_rfl⟩
  | tail _ hmove ih => exact ⟨ih.1.trans hmove.prefixes.1, ih.2.trans hmove.prefixes.2⟩

/-- Only the fate of a submission makes a difference between two moves. -/
theorem Move.unique {q' : Play} (h : Move mix commands p q) (h' : Move mix commands p q')
    (hfates : q.fates <+: q'.fates ∨ q'.fates <+: q.fates) : q = q' := by
  cases h with
  | choose hidle =>
    cases h' with
    | choose => rfl
    | settle hpending => exact absurd hpending (by simp [hidle])
  | settle hpending accepted =>
    cases h' with
    | choose hidle => exact absurd hpending (by simp [hidle])
    | settle _ accepted' =>
      have hsame : accepted = accepted' := by
        rcases hfates with hfates | hfates
        · have htail := (List.prefix_append_right_inj _).mp hfates
          simpa using htail
        · have htail := (List.prefix_append_right_inj _).mp hfates
          exact Eq.symm (by simpa using htail)
      rw [hsame]

/-- Of two plays that began alike, and in which the submissions fared the same, one leads to the
other. -/
theorem Leads.total (hp : Leads mix commands p₀ p) (hq : Leads mix commands p₀ q)
    (hfates : p.fates <+: q.fates ∨ q.fates <+: p.fates) :
    Leads mix commands p q ∨ Leads mix commands q p := by
  induction hp with
  | refl => exact Or.inl hq
  | @tail p p' _ hmove ih =>
    have hgrown := hmove.prefixes.2
    have hearlier : p.fates <+: q.fates ∨ q.fates <+: p.fates := by
      rcases hfates with hfates | hfates
      · exact Or.inl (hgrown.trans hfates)
      · exact List.prefix_or_prefix_of_prefix hgrown hfates
    rcases ih hearlier with hforth | hback
    · -- the other play goes on from here: either it stops, or its next move is the same
      rcases hforth.cases_head with rfl | ⟨p'', hmove', hforth⟩
      · exact Or.inr (.single hmove)
      · have hmore := (Leads.prefixes hforth).2
        have hsame : p' = p'' := by
          refine hmove.unique hmove' ?_
          rcases hfates with hfates | hfates
          · exact List.prefix_or_prefix_of_prefix hfates hmore
          · exact Or.inr (hmore.trans hfates)
        exact Or.inl (hsame ▸ hforth)
    · exact Or.inr (hback.tail hmove)

end Play

namespace User

/-- Whether the answer to a submission is awaited. -/
def isSubmitting (u : User) : Bool :=
  match u.stage with
  | .calling (.submission _) _ => true
  | _ => false

/-- A user as far as its choices are concerned. -/
def play (u : User) : Play :=
  ⟨u.stream, u.seen.size, Diary.choices u.diary, Diary.fates u.diary, u.isSubmitting⟩

variable {plan : Plan} {deadline now : Nat} {stopped : Bool} {onTime : Prop}
  {halted : Nat → Prop} {u u' : User}

/-- Only a submission is a call that a choice waits for. -/
theorem play_ask (u : User) (now : Nat) (purpose : Purpose) :
    (u.ask now purpose).play = { u.play with
      pending := match purpose with
        | .submission _ => true
        | _ => false } := by
  cases purpose with
  | health | submission _ | statusCheck _ | query _ =>
    simp [play, ask, note, Diary.choices, Diary.fates, Deed.choice?, Deed.fate?, isSubmitting]

/-- The end of an iteration tells the fate of a submission, if one was under way. -/
theorem play_endIteration (plan : Plan) (deadline now : Nat) (u : User) :
    (u.endIteration plan deadline now).play =
      { u.play with
        fates := u.play.fates ++ (Deed.fate? u.diary .ended).toList, pending := false } := by
  obtain ⟨stage, rfl | ⟨due, rfl⟩, heq⟩ := endIteration_eq plan deadline now u
  · rw [heq]
    simp [play, note, Diary.choices, Diary.fates, Deed.choice?, isSubmitting]
  · rw [heq]
    simp [play, note, Diary.choices, Diary.fates, Deed.choice?, isSubmitting]

/-- A user that stops, or goes away, while no submission is under way chooses nothing. -/
theorem play_of_over {stage : Stage} (hstage : stage = .finished ∨ stage = .gone)
    (hidle : u.isSubmitting = false) : ({ u with stage } : User).play = u.play := by
  have hplay : u.play = { u.play with pending := false } := by
    rw [← hidle]
    rfl
  rcases hstage with rfl | rfl
  · exact hplay.symm
  · exact hplay.symm

/-- A user that begins an iteration makes its next choice. -/
theorem play_beginIteration (hc : plan.commands ≠ []) (hidle : u.isSubmitting = false) :
    (u.beginIteration plan deadline stopped now).play = u.play ∨
      (u.beginIteration plan deadline stopped now).play =
        u.play.choose plan.mix plan.commands.length := by
  unfold beginIteration
  split
  · exact Or.inl (play_of_over (Or.inl rfl) hidle)
  · refine Or.inr ?_
    unfold Play.choose chosen
    generalize hpick : plan.mix.pick u.stream = picked
    have hpick' : plan.mix.pick u.play.stream = picked := hpick
    rw [hpick']
    obtain ⟨kind, stream⟩ := picked
    cases kind with
    | health =>
      simp only [beginKind, play_ask]
      simp [play, note, Diary.choices, Diary.fates, Deed.choice?, Deed.fate?, Choice.submits]
    | execute =>
      obtain ⟨command, -, heq⟩ := beginExecute_eq hc deadline now { u with stream }
      simp only [beginKind, heq, play_ask]
      simp [play, note, Diary.choices, Diary.fates, Deed.choice?, Deed.fate?, Choice.submits]
    | status =>
      rcases beginStatus_eq plan deadline now { u with stream } with
        ⟨hseen, heq⟩ | ⟨hseen, taskId, -, heq⟩
      · have hnone : u.play.seen = 0 := Array.size_eq_zero_iff.mpr hseen
        simp only [beginKind, heq, play_endIteration, if_pos hnone]
        simp [play, note, Diary.choices, Diary.fates, Deed.choice?, Deed.fate?, Choice.submits]
      · have hsome : u.play.seen ≠ 0 := fun h => hseen (Array.size_eq_zero_iff.mp h)
        simp only [beginKind, heq, play_ask, if_neg hsome]
        simp [play, note, Diary.choices, Diary.fates, Deed.choice?, Deed.fate?, Choice.submits]

/-- An answer settles the fate of a submission, or it is an answer to another call and changes
nothing about the choices. -/
theorem Chronicled.play_receiveFor (h : Chronicled plan deadline onTime halted u)
    {mix : Mix} {commands : Nat} {purpose : Purpose} {sent : Nat} {answer : Answer}
    (hstage : u.stage = .calling purpose sent)
    (hreceived : Received plan deadline now sent u answer purpose u') :
    u'.play = u.play ∨ Play.Move mix commands u.play u'.play := by
  obtain ⟨rest, hdiary⟩ := (hstage ▸ h.standing).of_calling
  cases hreceived with
  | ended =>
    rw [play_endIteration, hdiary]
    cases purpose with
    | submission command =>
      have hpending : u.play.pending = true := by
        simp [play, isSubmitting, hstage]
      exact Or.inr (.settle hpending false)
    | health | statusCheck taskId | query work =>
      have hidle : u.play.pending = false := by
        simp [play, isSubmitting, hstage]
      refine Or.inl ?_
      rw [← hidle]
      simp [Deed.fate?, Purpose.call]
  | @accepted command taskId hid =>
    have hpending : u.play.pending = true := by
      simp [play, isSubmitting, hstage]
    have hsettled : Play.Move mix commands u.play (u.play.settle true) := .settle hpending true
    refine Or.inr ?_
    convert hsettled using 1
    rw [play_ask]
    simp [play, note, Play.settle, Diary.choices, Diary.fates, Deed.choice?, Deed.fate?]
  | rested =>
    have hidle : u.play.pending = false := by
      simp [play, isSubmitting, hstage]
    refine Or.inl ?_
    simp [play, isSubmitting, hstage]

/-- Each step of a user is a move, or changes nothing about its choices. -/
theorem Chronicled.play_step (hc : plan.commands ≠ []) {es : List Effect}
    (h : Chronicled plan deadline onTime halted u)
    (hstep : Step plan deadline stopped now u u' es) :
    u'.play = u.play ∨ Play.Move plan.mix plan.commands.length u.play u'.play := by
  have hbegin : ∀ {v : User}, v.play = u.play → v.isSubmitting = false →
      (v.beginIteration plan deadline stopped now).play = u.play ∨
        Play.Move plan.mix plan.commands.length u.play
          (v.beginIteration plan deadline stopped now).play := by
    intro v hv hidle
    rcases play_beginIteration hc hidle with hsame | hchosen
    · exact Or.inl (hsame.trans hv)
    · refine Or.inr ?_
      rw [hchosen, hv]
      refine .choose ?_
      rw [← hv]
      exact hidle
  cases hstep with
  | start hu =>
    have hdiary := (hu ▸ h.standing).of_waiting
    refine hbegin ?_ ?_
    · simp [play, note, Diary.choices, Diary.fates, Deed.choice?, Deed.fate?, isSubmitting]
    · simp [note, isSubmitting, hu]
  | leave hu => exact Or.inl (play_of_over (Or.inr rfl) (by simp [isSubmitting, hu]))
  | answer hu answer => exact h.play_receiveFor hu (received_receiveFor u _ answer _)
  | query hu =>
    refine Or.inl ?_
    rw [play_ask]
    simp [play, isSubmitting, hu]
  | iterate hu => exact hbegin rfl (by simp [isSubmitting, hu])
  | stop hu => exact Or.inl (play_of_over (Or.inl rfl) (by simp [isSubmitting, hu]))

end User

/-- Where there is a seed, the choices of a user follow from it and from the number of the user. -/
theorem Plan.stream_of_seed {p : Plan} {seed : Nat} (h : p.seed = some seed)
    (entropy : Nat → Random.Stream) (id : Nat) :
    p.stream entropy id = .ofSeed (UInt64.ofNat (seed + id)) := by
  rw [stream, h]

namespace Run

/-- What a user has chosen at some moment of a run, and how its submissions have fared, it came
to by moves. -/
theorem leads_replay {plan : Plan} {started : Nat} {entropy : Nat → Random.Stream}
    {events : List (Nat × Event)} {r₀ r : Run} (hbegin : begin plan started entropy = .ok r₀)
    (hreplay : replay events r₀ = some r) {user : Nat} {u : User} (hu : r.users[user]? = some u) :
    Play.Leads plan.mix plan.commands.length (.fresh (plan.stream entropy user)) u.play := by
  have hc : plan.commands ≠ [] := (validate_eq_ok.mp (begin_eq_ok.mp hbegin).1).1
  revert user u
  refine replay_induction (P := fun _ r => ∀ {user : Nat} {u : User}, r.users[user]? = some u →
    Play.Leads plan.mix plan.commands.length (.fresh (plan.stream entropy user)) u.play)
    ?_ ?_ hreplay
  · intro user u hu
    obtain ⟨_, deadline, _, rfl⟩ := begin_eq_ok.mp hbegin
    rw [users_ofPlan] at hu
    obtain ⟨id, hid, rfl⟩ := Option.map_eq_some_iff.mp hu
    obtain ⟨_, rfl⟩ := List.getElem?_eq_some_iff.mp hid
    rw [List.getElem_range]
    exact .refl
  · intro before r₁ moment e r₂ hbefore ih hmoment hchange user u hu
    have hchronicled := chronicled_replay hbegin hbefore
    have hmove : ∀ {place : Nat} {v v' : User} {es : List Effect}, r₁.users[place]? = some v →
        User.Step r₁.plan r₁.deadline r₁.stopped moment v v' es →
          Play.Leads plan.mix plan.commands.length
            (.fresh (plan.stream entropy place)) v'.play := by
      intro place v v' es hv hstep
      rw [hchronicled.plan, hchronicled.deadline] at hstep
      rcases (hchronicled.users place v hv).play_step hc hstep with hsame | hmoved
      · rw [hsame]
        exact ih hv
      · exact (ih hv).tail hmoved
    cases hchange with
    | release =>
      rw [(framed_release _).2.users] at hu
      exact ih hu
    | endRelease | shutdown => exact ih hu
    | answer hv hstage answer =>
      rcases of_getElem?_setIfInBounds hu with ⟨rfl, rfl⟩ | hold
      · exact hmove hv (.answer hstage answer)
      · exact ih hold
    | move _ hv _ hstep =>
      rcases of_getElem?_setIfInBounds hu with ⟨rfl, rfl⟩ | hold
      · exact hmove hv hstep
      · exact ih hold

/-- Two users whose numbers differ from their seeds by the same, in runs of plans with the same
mix and as many commands, make the same choices as long as their submissions fare the same, up to
where the one goes on longer than the other. Nothing else in the plans and runs matters. -/
theorem choices_reproducible {plan plan' : Plan} {started started' : Nat}
    {entropy entropy' : Nat → Random.Stream} {events events' : List (Nat × Event)}
    {r₀ r r₀' r' : Run}
    (hbegin : begin plan started entropy = .ok r₀) (hreplay : replay events r₀ = some r)
    (hbegin' : begin plan' started' entropy' = .ok r₀') (hreplay' : replay events' r₀' = some r')
    (hmix : plan.mix = plan'.mix) (hcommands : plan.commands.length = plan'.commands.length)
    {seed seed' user user' : Nat} (hseed : plan.seed = some seed) (hseed' : plan'.seed = some seed')
    (hsum : (seed + user) % 2 ^ 64 = (seed' + user') % 2 ^ 64) {u u' : User}
    (hu : r.users[user]? = some u) (hu' : r'.users[user']? = some u')
    (hfates : Diary.fates u.diary <+: Diary.fates u'.diary ∨
      Diary.fates u'.diary <+: Diary.fates u.diary) :
    Diary.choices u.diary <+: Diary.choices u'.diary ∨
      Diary.choices u'.diary <+: Diary.choices u.diary := by
  have hstream : plan.stream entropy user = plan'.stream entropy' user' := by
    rw [Plan.stream_of_seed hseed, Plan.stream_of_seed hseed']
    refine congrArg Random.Stream.ofSeed (UInt64.toNat_inj.mp ?_)
    rw [UInt64.toNat_ofNat', UInt64.toNat_ofNat']
    exact hsum
  have hleads := leads_replay hbegin hreplay hu
  have hleads' := leads_replay hbegin' hreplay' hu'
  rw [← hmix, ← hcommands, ← hstream] at hleads'
  rcases hleads.total hleads' hfates with hforth | hback
  · exact Or.inl hforth.prefixes.1
  · exact Or.inr hback.prefixes.1

/-- Two users, the second of which has the stream of the seed zero. -/
def wrappedPlan : Plan where
  users := 2
  rate := 10.0
  duration := .ofSeconds 1
  spawnRate := 2
  spawnInterval := .ofSeconds 1
  poll := .standard
  mix := ([(.health, 1), (.execute, 2), (.status, 2)] : Weights)
  commands := [⟨"ls", [], .ofSeconds 5⟩, ⟨"pwd", [], .ofSeconds 5⟩]
  seed := some (2 ^ 64 - 1)

/-- One user with the seed zero, which goes on faster. -/
def soloPlan : Plan := { wrappedPlan with users := 1, rate := 20.0, seed := some 0 }

/-- The task of the second user ends at once, and a later look at it finds no gateway. -/
def wrappedEvents : List (Nat × Event) :=
  let body (text : String) : Answer := .body (Text.bytesOf text)
  [(0, .release), (0, .start 1), (150000000, .wake 1), (250000000, .wake 1),
    (260000000, .answer 1 (body "\x7b\"task_id\": \"a\"\x7d")),
    (270000000, .answer 1 (body "\x7b\"status\": \"COMPLETED\"\x7d")),
    (350000000, .wake 1), (360000000, .answer 1 .unreachable), (450000000, .wake 1)]

/-- The task of the only user runs for a while and fails. -/
def soloEvents : List (Nat × Event) :=
  let body (text : String) : Answer := .body (Text.bytesOf text)
  [(5000000, .release), (5000000, .start 0), (60000000, .wake 0), (110000000, .wake 0),
    (120000000, .answer 0 (body "\x7b\"task_id\": \"b\"\x7d")),
    (130000000, .answer 0 (body "\x7b\"status\": \"RUNNING\"\x7d")),
    (700000000, .wake 0), (710000000, .answer 0 (body "\x7b\"status\": \"FAILED\"\x7d")),
    (720000000, .wake 0)]

/-- Both users find no task to look at twice, execute the first command and look at its task;
then the second user of the one run has gone on to check the health of the gateway. -/
theorem choices_reproducible_wrapped : ∃ r₀ r r₀' r' u u', begin soloPlan 0 = .ok r₀ ∧
    replay soloEvents r₀ = some r ∧ begin wrappedPlan 0 = .ok r₀' ∧
      replay wrappedEvents r₀' = some r' ∧ r.users[0]? = some u ∧ r'.users[1]? = some u' ∧
        Diary.choices u.diary = [.idle, .idle, .execute 0, .status 0] ∧
          Diary.fates u.diary = [true] ∧ Diary.choices u.diary <+: Diary.choices u'.diary := by
  have hvalid : soloPlan.validate = .ok () := by decide +kernel
  have hvalid' : wrappedPlan.validate = .ok () := by decide +kernel
  have hdeadline : soloPlan.deadline? 0 = some 1000000000 := by decide +kernel
  have hdeadline' : wrappedPlan.deadline? 0 = some 1000000000 := by decide +kernel
  have hbegin : begin soloPlan 0 = .ok (ofPlan soloPlan 0 1000000000 .numbered) :=
    begin_eq_ok.mpr ⟨hvalid, _, hdeadline, rfl⟩
  have hbegin' : begin wrappedPlan 0 = .ok (ofPlan wrappedPlan 0 1000000000 .numbered) :=
    begin_eq_ok.mpr ⟨hvalid', _, hdeadline', rfl⟩
  have hend : (replay soloEvents (ofPlan soloPlan 0 1000000000 .numbered)).any (fun r =>
      r.users[0]?.any fun u => Diary.choices u.diary == [.idle, .idle, .execute 0, .status 0] &&
        Diary.fates u.diary == [true]) = true := by
    decide +kernel
  have hend' : (replay wrappedEvents (ofPlan wrappedPlan 0 1000000000 .numbered)).any (fun r =>
      r.users[1]?.any fun u => (Diary.choices u.diary).length == 5 &&
        Diary.fates u.diary == [true]) = true := by
    decide +kernel
  obtain ⟨r, hreplay, hr⟩ := (Option.any_eq_true _ _).mp hend
  obtain ⟨u, hu, hdiary⟩ := (Option.any_eq_true _ _).mp hr
  obtain ⟨hchoices, hfates⟩ := Bool.and_eq_true_iff.mp hdiary
  obtain ⟨r', hreplay', hr'⟩ := (Option.any_eq_true _ _).mp hend'
  obtain ⟨u', hu', hdiary'⟩ := (Option.any_eq_true _ _).mp hr'
  obtain ⟨hlength', hfates'⟩ := Bool.and_eq_true_iff.mp hdiary'
  have hsame : Diary.fates u.diary = Diary.fates u'.diary :=
    (eq_of_beq hfates).trans (eq_of_beq hfates').symm
  refine ⟨_, r, _, r', u, u', hbegin, hreplay, hbegin', hreplay', hu, hu', eq_of_beq hchoices,
    eq_of_beq hfates, ?_⟩
  rcases choices_reproducible hbegin hreplay hbegin' hreplay' rfl rfl rfl rfl (by decide) hu hu'
    (Or.inl (hsame ▸ List.prefix_rfl)) with hprefix | hprefix
  · exact hprefix
  · have hle := hprefix.length_le
    rw [eq_of_beq hchoices, eq_of_beq hlength'] at hle
    exact absurd hle (by decide)

end Run

end GatewayProbe.Load
