import GatewayProbe.Server.Bracket

/-!
# Journals of servers

Surroundings can keep a journal of what is done in them. Work in the life of a server knows its
surroundings only by what it does there, so a journal changes nothing. It tells what has been
done, in which order, and what each action came to: of a server that was started, the stop is
the last action, and it is the only one, whatever the actions before it came to.
-/

namespace GatewayProbe.Server

variable {ω α β : Type}

/-- What is done to a server or in its life, with what it came to. -/
inductive Action (α : Type) where
  | start (spec : Spec) (outcome : Except Fault Unit)
  | awaitReady (spec : Spec) (outcome : Except Fault Unit)
  | work (result : Except Failure α)
  | stop (spec : Spec) (outcome : Except Fault Unit)
  | tell (m : Message)

/-- Whether an action is more than to tell something. -/
def Action.isDeed : Action α → Bool
  | .tell _ => false
  | _ => true

/-- An action in a journal, with the surroundings before and after it. -/
structure Entry (ω α : Type) where
  before : ω
  action : Action α
  after : ω

/-- Do something, and enter it at the end of the journal. -/
def entered (act : ω → β × ω) (action : β → Action α) (x : ω × List (Entry ω α)) :
    β × ω × List (Entry ω α) :=
  let (outcome, after) := act x.1
  (outcome, after, x.2 ++ [⟨x.1, action outcome, after⟩])

/-- Servers are handled as before, and a journal is kept of it. -/
def Handling.journaled (h : Handling ω) : Handling (ω × List (Entry ω α)) where
  start spec := entered (h.start spec) (.start spec)
  awaitReady spec := entered (h.awaitReady spec) (.awaitReady spec)
  stop spec := entered (h.stop spec) (.stop spec)
  tell m x := (entered (fun w => ((), h.tell m w)) (fun _ => .tell m) x).2

/-- Do some work while a server runs, if there is one to run, and keep a journal of it. -/
def journaledWork (h : Handling ω) (spec : Option Spec) (work : ω → Except Failure α × ω)
    (w : ω) : Except Failure α × ω × List (Entry ω α) :=
  withOptionalServer h.journaled spec (entered work .work) (w, [])

/-- The actions of a journal that are more than to tell something, in order. -/
def deeds (journal : List (Entry ω α)) : List (Action α) :=
  (journal.map (·.action)).filter Action.isDeed

/-- What is done in the life of a server, and what comes of it. -/
inductive Bracketed : Option Spec → List (Action α) → Except Failure α → Prop where
  /-- There is no server to run. -/
  | bare (result : Except Failure α) : Bracketed none [.work result] result
  | unstarted (spec : Spec) (fault : Fault) :
    Bracketed (some spec) [.start spec (.error fault)] (.error (.server fault))
  | unready (spec : Spec) (fault : Fault) (stopped : Except Fault Unit) :
    Bracketed (some spec)
      [.start spec (.ok ()), .awaitReady spec (.error fault), .stop spec stopped]
      (.error (.server fault))
  | failed (spec : Spec) (failure : Failure) (stopped : Except Fault Unit) :
    Bracketed (some spec)
      [.start spec (.ok ()), .awaitReady spec (.ok ()), .work (.error failure),
        .stop spec stopped]
      (.error failure)
  | unstopped (spec : Spec) (value : α) (fault : Fault) :
    Bracketed (some spec)
      [.start spec (.ok ()), .awaitReady spec (.ok ()), .work (.ok value),
        .stop spec (.error fault)]
      (.error (.server fault))
  | finished (spec : Spec) (value : α) :
    Bracketed (some spec)
      [.start spec (.ok ()), .awaitReady spec (.ok ()), .work (.ok value), .stop spec (.ok ())]
      (.ok value)

section Journals

variable (h : Handling ω) (work : ω → Except Failure α × ω)

/-- What an action makes of its surroundings. -/
inductive Done : ω → Action α → ω → Prop where
  | start {spec : Spec} {w w' : ω} {outcome : Except Fault Unit}
    (heq : h.start spec w = (outcome, w')) : Done w (.start spec outcome) w'
  | awaitReady {spec : Spec} {w w' : ω} {outcome : Except Fault Unit}
    (heq : h.awaitReady spec w = (outcome, w')) : Done w (.awaitReady spec outcome) w'
  | work {w w' : ω} {result : Except Failure α} (heq : work w = (result, w')) :
    Done w (.work result) w'
  | stop {spec : Spec} {w w' : ω} {outcome : Except Fault Unit}
    (heq : h.stop spec w = (outcome, w')) : Done w (.stop spec outcome) w'
  | tell (m : Message) (w : ω) : Done w (.tell m) (h.tell m w)

/-- A journal of all that has been done between two states of the surroundings. -/
inductive Journal : ω → List (Entry ω α) → ω → Prop where
  | nil (w : ω) : Journal w [] w
  | cons {w w₁ w' : ω} {action : Action α} {rest : List (Entry ω α)}
    (hdone : Done h work w action w₁) (hrest : Journal w₁ rest w') :
    Journal w (⟨w, action, w₁⟩ :: rest) w'

variable {h work}

/-- What a journal says of the work is what the work does. -/
theorem Done.eq_of_work {w w' : ω} {result : Except Failure α}
    (hdone : Done h work w (.work result) w') : work w = (result, w') := by
  cases hdone with
  | work heq => exact heq

/-- What a journal says has been done. -/
theorem Journal.done {w w' : ω} {journal : List (Entry ω α)}
    (hjournal : Journal h work w journal w')
    {e : Entry ω α} (he : e ∈ journal) : Done h work e.before e.action e.after := by
  induction hjournal with
  | nil => exact absurd he List.not_mem_nil
  | cons hdone _ ih =>
    rcases List.mem_cons.mp he with rfl | hrest
    · exact hdone
    · exact ih hrest

/-- Where no action lets the time run back, the entries of a journal are in the order of time. -/
theorem Journal.pairwise {w w' : ω} {journal : List (Entry ω α)}
    (hjournal : Journal h work w journal w') (clock : ω → Nat)
    (hclock : ∀ e ∈ journal, clock e.before ≤ clock e.after) :
    clock w ≤ clock w' ∧ (∀ e ∈ journal, clock w ≤ clock e.before ∧ clock e.after ≤ clock w') ∧
      journal.Pairwise fun e e' => clock e.after ≤ clock e'.before := by
  induction hjournal with
  | nil w => exact ⟨Nat.le_refl _, nofun, .nil⟩
  | @cons w w₁ w' action rest hdone hrest ih =>
    obtain ⟨hfirst, hlater⟩ := List.forall_mem_cons.mp hclock
    obtain ⟨hall, hbounds, hpairs⟩ := ih hlater
    refine ⟨Nat.le_trans hfirst hall, ?_, ?_⟩
    · rw [List.forall_mem_cons]
      refine ⟨⟨Nat.le_refl _, hall⟩, fun e he => ?_⟩
      obtain ⟨hbefore, hafter⟩ := hbounds e he
      exact ⟨Nat.le_trans hfirst hbefore, hafter⟩
    · exact List.pairwise_cons.mpr ⟨fun e he => (hbounds e he).1, hpairs⟩

/-- Work is done only while the server is ready, and the server is stopped then. -/
theorem Bracketed.eq_of_work_mem {spec : Spec} {actions : List (Action α)}
    {outcome result : Except Failure α} (hbracketed : Bracketed (some spec) actions outcome)
    (hwork : .work result ∈ actions) : ∃ stopped,
      actions = [.start spec (.ok ()), .awaitReady spec (.ok ()), .work result,
        .stop spec stopped] := by
  cases hbracketed with
  | unstarted | unready => exact absurd hwork (by simp)
  | failed _ failure stopped =>
    obtain rfl : result = .error failure := by simpa using hwork
    exact ⟨stopped, rfl⟩
  | unstopped _ value fault =>
    obtain rfl : result = .ok value := by simpa using hwork
    exact ⟨.error fault, rfl⟩
  | finished _ value =>
    obtain rfl : result = .ok value := by simpa using hwork
    exact ⟨.ok (), rfl⟩

/-- The deed of an entry is among the deeds of its journal. -/
theorem mem_deeds {journal : List (Entry ω α)} {e : Entry ω α} (he : e ∈ journal)
    (hdeed : e.action.isDeed = true) : e.action ∈ deeds journal :=
  List.mem_filter.mpr ⟨List.mem_map_of_mem he, hdeed⟩

/-- In the life of a server the work begins after the server is ready, and it is over when the
server is stopped. -/
theorem Journal.exists_around_work {w w' : ω} {journal : List (Entry ω α)}
    (hjournal : Journal h work w journal w') (clock : ω → Nat) {spec : Spec}
    {outcome result : Except Failure α}
    (hbracketed : Bracketed (some spec) (deeds journal) outcome)
    (hclock : ∀ e ∈ journal, clock e.before ≤ clock e.after) {e : Entry ω α} (he : e ∈ journal)
    (hwork : e.action = .work result) :
    ∃ ready ∈ journal, ∃ stop ∈ journal, ready.action = .awaitReady spec (.ok ()) ∧
      (∃ stopped, stop.action = .stop spec stopped) ∧
      clock ready.after ≤ clock e.before ∧ clock e.after ≤ clock stop.before := by
  have hmem : .work result ∈ deeds journal := hwork ▸ mem_deeds he (by rw [hwork]; rfl)
  obtain ⟨stopped, hdeeds⟩ := hbracketed.eq_of_work_mem hmem
  -- The entries of the deeds are as many as the deeds, and in the same order.
  unfold deeds at hdeeds
  rw [List.filter_map] at hdeeds
  obtain ⟨start, _, hall, hstart, hdeeds⟩ := List.map_eq_cons_iff.mp hdeeds
  obtain ⟨ready, _, rfl, hready, hdeeds⟩ := List.map_eq_cons_iff.mp hdeeds
  obtain ⟨worked, _, rfl, hworked, hdeeds⟩ := List.map_eq_cons_iff.mp hdeeds
  obtain ⟨stop, _, rfl, hstop, hdeeds⟩ := List.map_eq_cons_iff.mp hdeeds
  obtain rfl := List.map_eq_nil_iff.mp hdeeds
  have hsublist : [start, ready, worked, stop].Sublist journal := hall ▸ List.filter_sublist
  have hpairs := (hjournal.pairwise clock hclock).2.2.sublist hsublist
  obtain rfl : e = worked := by
    have hentry : e ∈ [start, ready, worked, stop] := by
      rw [← hall]
      exact List.mem_filter.mpr ⟨he, by simp [hwork, Action.isDeed]⟩
    simp only [List.mem_cons, List.not_mem_nil, or_false] at hentry
    rcases hentry with rfl | rfl | rfl | rfl
    · exact absurd (hwork.symm.trans hstart) (by simp)
    · exact absurd (hwork.symm.trans hready) (by simp)
    · rfl
    · exact absurd (hwork.symm.trans hstop) (by simp)
  simp only [List.pairwise_cons] at hpairs
  obtain ⟨-, hfromReady, hfromWork, -⟩ := hpairs
  exact ⟨ready, hsublist.mem (by simp), stop, hsublist.mem (by simp), hready, ⟨stopped, hstop⟩,
    hfromReady e (by simp), hfromWork stop (by simp)⟩

/-- What is entered comes to the same, with one more entry. -/
theorem entered_eq {act : ω → β × ω} {w w' : ω} {outcome : β} (heq : act w = (outcome, w'))
    (action : β → Action α) (journal : List (Entry ω α)) :
    entered act action (w, journal) = (outcome, w', journal ++ [⟨w, action outcome, w'⟩]) := by
  simp only [entered, heq]

private theorem journaled_start {spec : Spec} {w w' : ω} {outcome : Except Fault Unit}
    (heq : h.start spec w = (outcome, w')) (journal : List (Entry ω α)) :
    h.journaled.start spec (w, journal) =
      (outcome, w', journal ++ [⟨w, .start spec outcome, w'⟩]) :=
  entered_eq heq (.start spec) journal

private theorem journaled_awaitReady {spec : Spec} {w w' : ω} {outcome : Except Fault Unit}
    (heq : h.awaitReady spec w = (outcome, w')) (journal : List (Entry ω α)) :
    h.journaled.awaitReady spec (w, journal) =
      (outcome, w', journal ++ [⟨w, .awaitReady spec outcome, w'⟩]) :=
  entered_eq heq (.awaitReady spec) journal

private theorem journaled_stop {spec : Spec} {w w' : ω} {outcome : Except Fault Unit}
    (heq : h.stop spec w = (outcome, w')) (journal : List (Entry ω α)) :
    h.journaled.stop spec (w, journal) = (outcome, w', journal ++ [⟨w, .stop spec outcome, w'⟩]) :=
  entered_eq heq (.stop spec) journal

private theorem journaled_tell (m : Message) (w : ω) (journal : List (Entry ω α)) :
    h.journaled.tell m (w, journal) = (h.tell m w, journal ++ [⟨w, .tell m, h.tell m w⟩]) := rfl

variable (h work)

/-- To tell something is no deed. -/
theorem tell?_journaled (m : Option Message) (w : ω) :
    ∃ more, (∀ journal, h.journaled.tell? m (w, journal) = (h.tell? m w, journal ++ more)) ∧
      Journal h work w more (h.tell? m w) ∧ deeds more = [] := by
  cases m with
  | none => exact ⟨[], fun journal => by rw [List.append_nil]; rfl, .nil w, rfl⟩
  | some m => exact ⟨_, fun _ => rfl, .cons (.tell m w) (.nil _), rfl⟩

/-- The work is done once, and the server is stopped once after it, whatever the work has come
to. -/
theorem workAndStop_journaled (spec : Spec) (w : ω) :
    ∃ more result stopped,
      (∀ journal, workAndStop h.journaled spec (entered work .work) (w, journal) =
        ((settled result stopped).1, (workAndStop h spec work w).2, journal ++ more)) ∧
      (workAndStop h spec work w).1 = (settled result stopped).1 ∧
      Journal h work w more (workAndStop h spec work w).2 ∧
      deeds more = [.work result, .stop spec stopped] := by
  rcases hwork : work w with ⟨result, w₁⟩
  rcases hstop : h.stop spec w₁ with ⟨stopped, w₂⟩
  have hplain : workAndStop h spec work w =
      ((settled result stopped).1, h.tell? (settled result stopped).2 w₂) := by
    simp only [workAndStop, hwork, hstop]
  obtain ⟨told, htell, htold, hnone⟩ := tell?_journaled h work (settled result stopped).2 w₂
  refine ⟨⟨w, .work result, w₁⟩ :: ⟨w₁, .stop spec stopped, w₂⟩ :: told, result, stopped, ?_, ?_,
    ?_, ?_⟩
  · intro journal
    simp only [workAndStop, entered_eq hwork, journaled_stop hstop, htell, hwork, hstop]
    simp
  · rw [hplain]
  · rw [hplain]
    exact .cons (.work hwork) (.cons (.stop hstop) htold)
  · change .work result :: .stop spec stopped :: deeds told = _
    rw [hnone]

/-- A server that does not get ready is stopped once, and nothing else is done. -/
theorem giveUp_journaled (spec : Spec) (fault : Fault) (w : ω) :
    ∃ more stopped,
      (∀ journal, giveUp (α := α) h.journaled spec fault (w, journal) =
        (.error (.server fault), (giveUp (α := α) h spec fault w).2, journal ++ more)) ∧
      Journal h work w more (giveUp (α := α) h spec fault w).2 ∧
      deeds more = [.stop spec stopped] := by
  rcases hstop : h.stop spec w with ⟨stopped, w₁⟩
  simp only [giveUp, hstop, journaled_stop hstop, journaled_tell, List.append_assoc]
  exact ⟨_, stopped, fun _ => rfl, .cons (.stop hstop) (.cons (.tell _ _) (.nil _)), rfl⟩

/-- Of work and stop the first one that fails decides. -/
theorem Bracketed.settled (spec : Spec) (result : Except Failure α) (stopped : Except Fault Unit) :
    Bracketed (some spec)
      [.start spec (.ok ()), .awaitReady spec (.ok ()), .work result, .stop spec stopped]
      (settled result stopped).1 := by
  cases result with
  | error failure =>
    cases stopped with
    | error fault => exact .failed spec failure (.error fault)
    | ok _ => exact .failed spec failure (.ok ())
  | ok value =>
    cases stopped with
    | error fault => exact .unstopped spec value fault
    | ok _ => exact .finished spec value

/-- With a journal, work in the life of a server comes to the same, and the journal tells all
that has been done. -/
theorem withServer_journaled (spec : Spec) (w : ω) :
    ∃ journal, withServer h.journaled spec (entered work .work) (w, []) =
        ((withServer h spec work w).1, (withServer h spec work w).2, journal) ∧
      Journal h work w journal (withServer h spec work w).2 ∧
      Bracketed (some spec) (deeds journal) (withServer h spec work w).1 := by
  rcases hstart : h.start spec w with ⟨started, w₁⟩
  cases started with
  | error fault =>
    simp only [withServer, hstart, journaled_start hstart]
    exact ⟨_, rfl, .cons (.start hstart) (.nil w₁), .unstarted spec fault⟩
  | ok _ =>
    rcases hready : h.awaitReady spec w₁ with ⟨ready, w₂⟩
    simp only [withServer, hstart, journaled_start hstart, hready, journaled_awaitReady hready]
    cases ready with
    | error fault =>
      obtain ⟨more, stopped, hgiven, hmore, hdeeds⟩ := giveUp_journaled h work spec fault w₂
      simp only [hgiven]
      refine ⟨_, rfl, .cons (.start hstart) (.cons (.awaitReady hready) hmore), ?_⟩
      change Bracketed (some spec) (.start spec (.ok ()) :: .awaitReady spec _ :: deeds more) _
      rw [hdeeds]
      exact .unready spec fault stopped
    | ok _ =>
      generalize information _ = m
      obtain ⟨more, result, stopped, hworked, hresult, hmore, hdeeds⟩ :=
        workAndStop_journaled h work spec (h.tell m w₂)
      simp only [journaled_tell, hworked, hresult]
      refine ⟨_, rfl, .cons (.start hstart) (.cons (.awaitReady hready) (.cons (.tell _ _) hmore)),
        ?_⟩
      · change Bracketed (some spec)
          (.start spec (.ok ()) :: .awaitReady spec (.ok ()) :: deeds more) _
        rw [hdeeds]
        exact .settled spec result stopped

/-- So it is where there may be no server to run. -/
theorem journaledWork_eq (spec : Option Spec) (w : ω) :
    ∃ journal, journaledWork h spec work w =
        ((withOptionalServer h spec work w).1, (withOptionalServer h spec work w).2, journal) ∧
      Journal h work w journal (withOptionalServer h spec work w).2 ∧
      Bracketed spec (deeds journal) (withOptionalServer h spec work w).1 := by
  cases spec with
  | none => exact ⟨_, rfl, .cons (.work rfl) (.nil _), .bare _⟩
  | some spec => exact withServer_journaled h work spec w

end Journals

end GatewayProbe.Server
