import GatewayProbe.Check.Command
import GatewayProbe.Load.Command
import GatewayProbe.Proofs.Check.Course
import GatewayProbe.Proofs.Load.Chronicle
import GatewayProbe.Proofs.Load.Schedule
import GatewayProbe.Proofs.Server.Journal

/-!
# Calls in the life of a server

Of all that is done in the life of a server only the work has to do with the gateway. To start
the server, to wait for it and to stop it lets time pass and asks nothing. So whatever a command
asks of the gateway is asked while its server is ready and not yet stopped. A check asks in its
conversation, a load run in its conversation and by its users, who write it into their diaries.
-/

namespace GatewayProbe

open GatewayProbe.Gateway GatewayProbe.Server

variable {σ α : Type}

namespace World

/-- Time may have passed between two worlds, but nothing has been asked of the gateway. -/
structure Silent (w w' : World σ) : Prop where
  now : w.conversation.now ≤ w'.conversation.now
  gateway : w'.conversation.gateway = w.conversation.gateway
  calls : w'.conversation.calls = w.conversation.calls

theorem Silent.refl (w : World σ) : Silent w w := ⟨le_rfl, rfl, rfl⟩

theorem Silent.trans {w w' w'' : World σ} (h : Silent w w') (h' : Silent w' w'') : Silent w w'' :=
  ⟨h.now.trans h'.now, h'.gateway.trans h.gateway, h'.calls.trans h.calls⟩

private theorem silent_tell (w : World σ) (m : Message) : Silent w (w.tell m) := ⟨le_rfl, rfl, rfl⟩

/-- No call is made while the server is started. -/
theorem silent_startServer (launch : Launcher) (spec : Spec) (w : World σ) :
    Silent w (startServer launch spec w).2 := by
  unfold startServer
  split
  · exact .refl w
  · exact ⟨le_rfl, rfl, rfl⟩

/-- To wait for a server takes time. -/
theorem le_awaitReady (course : Course) (pattern : String) (timeout : Duration) (now : Nat) :
    now ≤ (course.awaitReady pattern timeout now).2 := by
  have hlate : now ≤ Clock.wake (Clock.after now timeout) :=
    (Nat.le_add_right now timeout.nanos).trans (Clock.le_wake _)
  unfold Course.awaitReady
  dsimp only
  split
  · split
    · exact le_max_left _ _
    · exact hlate
  · split
    · split
      · exact le_max_left _ _
      · exact hlate
    · exact hlate

/-- No call is made until the server is ready. -/
theorem silent_awaitServer (spec : Spec) (w : World σ) : Silent w (awaitServer spec w).2 := by
  unfold awaitServer
  split
  · exact .refl w
  · exact ⟨le_awaitReady _ _ _ _, rfl, rfl⟩

/-- To stop a server takes time. -/
theorem le_stop (process : Process) (grace : Duration) (now : Nat) :
    now ≤ (process.stop grace now).moment := by
  have hlate : now ≤ Clock.wake (Clock.after now grace) :=
    (Nat.le_add_right now grace.nanos).trans (Clock.le_wake _)
  unfold Process.stop
  dsimp only
  split
  · exact le_rfl
  · split
    · split
      · exact le_max_left _ _
      · exact hlate
    · exact hlate

private theorem silent_stopServer (spec : Spec) (w : World σ) : Silent w (stopServer spec w).2 := by
  unfold stopServer
  split
  · exact .refl w
  · exact ⟨le_stop _ _ _, rfl, rfl⟩

section Journals

variable {launch : Launcher} {work : World σ → Except Failure α × World σ} {w w' : World σ}
  {journal : List (Entry (World σ) α)}

/-- An action is the work, or nothing is asked by it. -/
theorem silent_of_done {action : Action α} (h : Done (handling launch) work w action w') :
    (∃ result, action = .work result ∧ work w = (result, w')) ∨ Silent w w' := by
  cases h with
  | @start spec _ _ _ heq =>
    obtain rfl : (startServer launch spec w).2 = w' := congrArg Prod.snd heq
    exact Or.inr (silent_startServer launch spec w)
  | @awaitReady spec _ _ _ heq =>
    obtain rfl : (awaitServer spec w).2 = w' := congrArg Prod.snd heq
    exact Or.inr (silent_awaitServer spec w)
  | work heq => exact Or.inl ⟨_, rfl, heq⟩
  | @stop spec _ _ _ heq =>
    obtain rfl : (stopServer spec w).2 = w' := congrArg Prod.snd heq
    exact Or.inr (silent_stopServer spec w)
  | tell m => exact Or.inr (silent_tell w m)

/-- Where the work goes forward, so does every action. -/
theorem later_of_done (hlater : ∀ w, Conversation.Later w.conversation (work w).2.conversation)
    {action : Action α} (h : Done (handling launch) work w action w') :
    Conversation.Later w.conversation w'.conversation := by
  rcases silent_of_done h with ⟨result, _, hwork⟩ | hsilent
  · have hgone := hlater w
    rwa [hwork] at hgone
  · exact .of_calls_eq hsilent.now hsilent.calls

/-- Whether the server, if there is one, is ready at a moment and not yet stopped. -/
def Serving (spec : Option Spec) (journal : List (Entry (World σ) α)) (moment : Nat) : Prop :=
  ∀ s, spec = some s → ∃ ready ∈ journal, ∃ stop ∈ journal,
    ready.action = .awaitReady s (.ok ()) ∧ (∃ stopped, stop.action = .stop s stopped) ∧
      ready.after.conversation.now ≤ moment ∧ moment ≤ stop.before.conversation.now

/-- The server is ready while the work is done. -/
theorem serving_of_work {spec : Option Spec} {outcome result : Except Failure α}
    (hjournal : Journal (handling launch) work w journal w')
    (hbracketed : Bracketed spec (deeds journal) outcome)
    (hlater : ∀ w, Conversation.Later w.conversation (work w).2.conversation)
    {e : Entry (World σ) α} (he : e ∈ journal) (hwork : e.action = .work result) {moment : Nat}
    (hfrom : e.before.conversation.now ≤ moment) (hto : moment ≤ e.after.conversation.now) :
    Serving spec journal moment := by
  rintro s rfl
  obtain ⟨ready, hready, stop, hstop, hawaited, hstopped, hbefore, hafter⟩ :=
    hjournal.exists_around_work (fun w => w.conversation.now) hbracketed
      (fun e he => (later_of_done hlater (hjournal.done he)).now) he hwork
  exact ⟨ready, hready, stop, hstop, hawaited, hstopped, hbefore.trans hfrom, hto.trans hafter⟩

/-- All that is asked is asked by the work. -/
theorem asked_of_journal (hjournal : Journal (handling launch) work w journal w')
    (hlater : ∀ w, Conversation.Later w.conversation (work w).2.conversation) :
    ∃ more, w'.conversation.calls = more ++ w.conversation.calls ∧
      ∀ call ∈ more, ∃ e ∈ journal, (∃ result, e.action = .work result) ∧
        e.before.conversation.now ≤ call.1 ∧ call.1 ≤ e.after.conversation.now := by
  induction hjournal with
  | nil w => exact ⟨[], rfl, nofun⟩
  | @cons w w₁ w' action rest hdone _ ih =>
    obtain ⟨more, hmore, hentries⟩ := ih
    have hrest : ∀ call ∈ more, ∃ e ∈ ⟨w, action, w₁⟩ :: rest,
        (∃ result, e.action = .work result) ∧
          e.before.conversation.now ≤ call.1 ∧ call.1 ≤ e.after.conversation.now := by
      intro call hcall
      obtain ⟨e, he, hfound⟩ := hentries call hcall
      exact ⟨e, List.mem_cons_of_mem _ he, hfound⟩
    rcases silent_of_done hdone with ⟨result, hwork, _⟩ | hsilent
    · obtain ⟨first, hfirst, hbetween⟩ := (later_of_done hlater hdone).calls
      refine ⟨more ++ first, by rw [hmore, hfirst, List.append_assoc], ?_⟩
      rw [List.forall_mem_append]
      exact ⟨hrest, fun call hcall => ⟨_, List.mem_cons_self, ⟨result, hwork⟩, hbetween call hcall⟩⟩
    · exact ⟨more, by rw [hmore, hsilent.calls], hrest⟩

end Journals

/-- A command that does a body in the life of a server, and asks for nothing else. -/
structure Encloses (launch : Launcher) (spec : Option Spec)
    (body : Conversation σ → Except Failure α × Conversation σ) (w : World σ)
    (done : Except Failure Unit × World σ) : Prop where
  /-- Whatever else is done while there is a server, nothing is asked of the gateway by it. -/
  silent : ∀ e ∈ (journaledWork (handling launch) spec (converse body) w).2.2,
    (∃ result, e.action = .work result ∧ converse body e.before = (result, e.after)) ∨
      Silent e.before e.after
  afterwards : Silent (withOptionalServer (handling launch) spec (converse body) w).2 done.2
  failed : ∀ failure,
    (withOptionalServer (handling launch) spec (converse body) w).1 = .error failure →
      done.1 = .error failure
  /-- All calls that the command adds to the conversation are made while the server is ready. -/
  served : ∃ more, done.2.conversation.calls = more ++ w.conversation.calls ∧
    ∀ call ∈ more,
      Serving spec (journaledWork (handling launch) spec (converse body) w).2.2 call.1

/-- What goes forward in a conversation can be enclosed by a command. -/
theorem encloses_of_later {launch : Launcher} {spec : Option Spec}
    {body : Conversation σ → Except Failure α × Conversation σ}
    (hlater : ∀ c, Conversation.Later c (body c).2) {w : World σ}
    {done : Except Failure Unit × World σ}
    (hafter : Silent (withOptionalServer (handling launch) spec (converse body) w).2 done.2)
    (hfailed : ∀ failure,
      (withOptionalServer (handling launch) spec (converse body) w).1 = .error failure →
        done.1 = .error failure) : Encloses launch spec body w done := by
  have hwork : ∀ w : World σ, Conversation.Later w.conversation (converse body w).2.conversation :=
    fun w => hlater w.conversation
  obtain ⟨journal, heq, hjournal, hbracketed⟩ :=
    journaledWork_eq (handling launch) (converse body) spec w
  obtain ⟨more, hmore, hentries⟩ := asked_of_journal hjournal hwork
  refine ⟨?_, hafter, hfailed, more, hafter.calls.trans hmore, ?_⟩
  · rw [heq]
    intro e he
    exact silent_of_done (hjournal.done he)
  -- What is called in the conversation is called by the body, so between readiness and stop.
  · rw [heq]
    intro call hcall
    obtain ⟨e, he, ⟨result, hresult⟩, hfrom, hto⟩ := hentries call hcall
    exact serving_of_work hjournal hbracketed hwork he hresult hfrom hto

end World

namespace Load

variable (service : Service σ)

private theorem later_preflight (c : Conversation σ) :
    Conversation.Later c (preflight service c).2 := by
  have hhealth := Conversation.later_health service c
  unfold preflight
  split
  · rename_i heq
    rwa [heq] at hhealth
  · rename_i heq
    rw [heq] at hhealth
    exact hhealth.trans (Conversation.later_tell _ _)

/-- All that the users of a run do is done between its begin and its end. -/
theorem Run.between_of_carriedOut {plan : Plan} {r₀ : Run} {started : Nat}
    {entropy : Nat → Random.Stream} (hbegin : Run.begin plan started entropy = .ok r₀) (gateway : σ)
    (shutdown : Option Nat) :
    started ≤ (r₀.carriedOut service gateway shutdown).1.now ∧
      ∀ (user : Nat) (u : User),
        (r₀.carriedOut service gateway shutdown).1.users[user]? = some u →
        ∀ entry ∈ u.diary, started ≤ entry.1 ∧
          entry.1 ≤ (r₀.carriedOut service gateway shutdown).1.now := by
  obtain ⟨events, hreplay⟩ := exists_replay_carriedOut service r₀ gateway shutdown
  refine ⟨?_, fun user u hu entry hentry => entry_between hbegin hreplay hu hentry⟩
  obtain ⟨hvalid, deadline, _, rfl⟩ := begin_eq_ok.mp hbegin
  exact (later_replay (validate_eq_ok.mp hvalid).1 hreplay).now

/-- The work of a load run goes forward, and all that its users do is done meanwhile. -/
theorem work_between (plan : Plan) (entropy : Nat → Random.Stream) (c : Conversation σ) :
    Conversation.Later c (work service plan entropy c).2 ∧
    ∀ run, (work service plan entropy c).1 = .ok run → ∀ (user : Nat) (u : User),
      run.users[user]? = some u → ∀ entry ∈ u.diary,
        c.now ≤ entry.1 ∧ entry.1 ≤ (work service plan entropy c).2.now := by
  have hpreflight := later_preflight service { c with shutdown := none }
  unfold work
  generalize preflight service { c with shutdown := none } = asked at hpreflight
  obtain ⟨result, after⟩ := asked
  have hafter : Conversation.Later c { after with shutdown := c.shutdown } :=
    ⟨hpreflight.now, hpreflight.calls⟩
  cases result with
  | error halt => exact ⟨hafter, nofun⟩
  | ok _ =>
    dsimp only
    cases hbegin : Run.begin plan after.now entropy with
    | error fault => exact ⟨hafter, nofun⟩
    | ok r₀ =>
      obtain ⟨hnow, hentries⟩ :=
        Run.between_of_carriedOut service hbegin after.gateway
          (shutdownSeen c.shutdown after.now)
      dsimp only
      generalize r₀.carriedOut service after.gateway (shutdownSeen c.shutdown after.now) = ran
        at hnow hentries
      refine ⟨hafter.trans (.of_calls_eq hnow rfl), ?_⟩
      rintro run hrun user u hu entry hentry
      obtain rfl := Except.ok.inj hrun
      obtain ⟨hfrom, hto⟩ := hentries user u hu entry hentry
      exact ⟨hafter.now.trans hfrom, hto⟩

private theorem silent_exportWhereAsked (path : Option String) (o : Outcome)
    (targets : List Slo.Outcome)
    (w : World σ) : World.Silent w (exportWhereAsked path o targets w).2 := by
  unfold exportWhereAsked
  split
  · exact .refl w
  · split
    · exact .refl w
    · exact ⟨le_rfl, rfl, rfl⟩

/-- What is done with the outcome of a run asks for nothing. -/
theorem silent_conclude (s : Settings.LoadSettings) (o : Outcome) (w : World σ) :
    World.Silent w (conclude s o w).2 := by
  have hprint : World.Silent w (w.print (summaryLines o (o.judged s.slos))) := ⟨le_rfl, rfl, rfl⟩
  have hexport := hprint.trans (silent_exportWhereAsked s.exportJson o (o.judged s.slos) _)
  have htold : ∀ (messages : List Message) (w : World σ),
      World.Silent w (messages.foldl World.tell w) := by
    intro messages
    induction messages with
    | nil => exact fun w => .refl w
    | cons m messages ih => exact fun w => (w.silent_tell m).trans (ih _)
  unfold conclude
  dsimp only
  split
  · rename_i heq
    rwa [heq] at hexport
  · rename_i heq
    rw [heq] at hexport
    exact hexport.trans (htold _ _)

end Load

/-- A check asks for something only while its server is ready. -/
theorem Check.command_encloses (web : Web σ) (launch : Launcher) (s : Settings.CheckSettings)
    (w : World σ) :
    (∃ failure, command web launch s w = (.error failure, w)) ∨
      ∃ routes workspace files, Routes.ofBase s.gateway.url = .ok routes ∧
        prepare w.files temporaryPath s.workspace = .ok (workspace, files) ∧
        World.Encloses launch s.gateway.serverSpec
          (run (routes.service web s.gateway.requestTimeout) (planOf s workspace.path))
          { w with files } (command web launch s w) := by
  unfold command
  split
  · exact Or.inl ⟨_, rfl⟩
  · rename_i routes hroutes
    split
    · exact Or.inl ⟨_, rfl⟩
    · rename_i workspace files hprepared
      refine Or.inr ⟨routes, workspace, files, hroutes, hprepared, ?_⟩
      generalize routes.service web s.gateway.requestTimeout = service
      have hlater := later_run service (planOf s workspace.path)
      unfold carryOut
      dsimp only
      split
      · rename_i heq
        refine World.encloses_of_later hlater (heq ▸ .refl _) fun failure hfailure => ?_
        rw [heq] at hfailure
        exact congrArg _ (Except.error.inj hfailure)
      · rename_i heq
        exact World.encloses_of_later hlater (heq ▸ ⟨le_rfl, rfl, rfl⟩) (heq ▸ nofun)

/-- So does a load run, and the calls of its users are made while the server is ready, too. -/
theorem Load.command_encloses (web : Web σ) (launch : Launcher) (s : Settings.LoadSettings)
    (w : World σ) :
    (∃ failure, command web launch s w = (.error failure, w)) ∨
      ∃ plan routes, s.plan = .ok plan ∧ Routes.ofBase s.gateway.url = .ok routes ∧
        World.Encloses launch s.gateway.serverSpec
          (work (routes.service web s.gateway.requestTimeout) plan w.entropy)
          (w.tell (starting plan s.gateway.url)) (command web launch s w) := by
  unfold command
  split
  · exact Or.inl ⟨_, rfl⟩
  · rename_i plan hplan
    split
    · exact Or.inl ⟨_, rfl⟩
    · rename_i routes hroutes
      refine Or.inr ⟨plan, routes, hplan, hroutes, ?_⟩
      have hentropy : (w.tell (starting plan s.gateway.url)).entropy = w.entropy := rfl
      generalize w.tell (starting plan s.gateway.url) = w₀ at hentropy ⊢
      generalize routes.service web s.gateway.requestTimeout = service
      rw [← hentropy]
      have hlater := fun c => (work_between service plan w₀.entropy c).1
      unfold carryOut
      dsimp only
      split
      · rename_i heq
        refine World.encloses_of_later hlater (heq ▸ .refl _) fun failure hfailure => ?_
        rw [heq] at hfailure
        exact congrArg _ (Except.error.inj hfailure)
      · rename_i heq
        exact World.encloses_of_later hlater (heq ▸ silent_conclude s _ _) (heq ▸ nofun)

/-- The users of a load run call while its server is ready. -/
theorem Load.called_while_serving (service : Service σ) (plan : Plan)
    (entropy : Nat → Random.Stream) (launch : Launcher) (spec : Option Spec) (w : World σ) :
    let journal := (journaledWork (World.handling launch) spec
      (World.converse (work service plan entropy)) w).2.2
    ∀ e ∈ journal, ∀ run, e.action = .work (.ok run) →
      ∀ (user : Nat) (u : User), run.users[user]? = some u →
        ∀ entry ∈ u.diary, World.Serving spec journal entry.1 := by
  obtain ⟨journal, heq, hjournal, hbracketed⟩ :=
    journaledWork_eq (World.handling launch) (World.converse (work service plan entropy)) spec w
  rw [heq]
  intro _ e he run hwork user u hu entry hentry
  have hdone : World.converse (work service plan entropy) e.before = (.ok run, e.after) :=
    (hwork ▸ hjournal.done he).eq_of_work
  obtain ⟨hfrom, hto⟩ := (work_between service plan entropy e.before.conversation).2 run
    (congrArg Prod.fst hdone) user u hu entry hentry
  have hafter : (work service plan entropy e.before.conversation).2 = e.after.conversation :=
    congrArg (fun done => done.2.conversation) hdone
  exact World.serving_of_work hjournal hbracketed
    (fun w => (work_between service plan entropy w.conversation).1) he hwork hfrom (hafter ▸ hto)

/-- A server that was started is stopped once, with its own time of grace and after all else, and
the first failure of start, readiness, work and stop decides; the work is done at most once, and
only when the server is ready. Without a server there is nothing but the work. A command asks
for something only meanwhile, whatever its work is: the check, or a load run with all its users. -/
theorem server_bracketed :
    (∀ (ω α : Type) (h : Handling ω) (work : ω → Except Failure α × ω) (spec : Option Spec) (w : ω),
      ∃ journal, journaledWork h spec work w =
          ((withOptionalServer h spec work w).1, (withOptionalServer h spec work w).2, journal) ∧
        Journal h work w journal (withOptionalServer h spec work w).2 ∧
        Bracketed spec (deeds journal) (withOptionalServer h spec work w).1) ∧
    (∀ (ω α : Type) (h : Handling ω) (work : ω → Except Failure α × ω)
      (s : Settings.GatewaySettings) (w : ω), withOptionalServer h s.serverSpec work w =
        match s.serverCommand with
        | none => work w
        | some command => withServer h
          ⟨command, s.serverArguments, s.readyPattern, s.readyTimeout, s.stopGrace⟩ work w) ∧
    (∀ (σ : Type) (web : Web σ) (launch : Launcher) (s : Settings.CheckSettings) (w : World σ),
      (∃ failure, Check.command web launch s w = (.error failure, w)) ∨
        ∃ routes workspace files, Routes.ofBase s.gateway.url = .ok routes ∧
          Check.prepare w.files Check.temporaryPath s.workspace = .ok (workspace, files) ∧
          World.Encloses launch s.gateway.serverSpec
            (Check.run (routes.service web s.gateway.requestTimeout)
              (Check.planOf s workspace.path)) { w with files } (Check.command web launch s w)) ∧
    (∀ (σ : Type) (web : Web σ) (launch : Launcher) (s : Settings.LoadSettings) (w : World σ),
      (∃ failure, Load.command web launch s w = (.error failure, w)) ∨
        ∃ plan routes, s.plan = .ok plan ∧ Routes.ofBase s.gateway.url = .ok routes ∧
          World.Encloses launch s.gateway.serverSpec
            (Load.work (routes.service web s.gateway.requestTimeout) plan w.entropy)
            (w.tell (Load.starting plan s.gateway.url)) (Load.command web launch s w)) ∧
    (∀ (σ : Type) (service : Service σ) (plan : Load.Plan) (entropy : Nat → Random.Stream)
      (launch : Launcher) (spec : Option Spec) (w : World σ),
      let journal := (journaledWork (World.handling launch) spec
        (World.converse (Load.work service plan entropy)) w).2.2
      ∀ e ∈ journal, ∀ run, e.action = .work (.ok run) → ∀ (user : Nat) (u : Load.User),
        run.users[user]? = some u → ∀ entry ∈ u.diary,
          World.Serving spec journal entry.1) := by
  refine ⟨fun ω α h work spec w => journaledWork_eq h work spec w, fun ω α h work s w => ?_,
    fun σ => Check.command_encloses, fun σ => Load.command_encloses,
    fun σ => Load.called_while_serving⟩
  unfold Settings.GatewaySettings.serverSpec
  cases s.serverCommand with
  | none => rfl
  | some command => rfl

end GatewayProbe
