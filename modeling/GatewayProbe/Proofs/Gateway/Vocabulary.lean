import GatewayProbe.Proofs.Gateway.Polling
import GatewayProbe.Proofs.Gateway.StatusBodies
import GatewayProbe.Proofs.Text.Parts
import GatewayProbe.Proofs.Text.Words

/-!
# The vocabulary of states

A text on the wire names a state by one of the names of this state, in any case of ASCII letters,
perhaps behind the mark and with blanks around it. Every other text is unknown: a reply in which it
decides is refused with this text as it is, and a poll that gets such a reply is over.
-/

namespace GatewayProbe.Gateway

open GatewayProbe.Json GatewayProbe.Text

namespace TaskStatus

/-! ### Texts that name a state -/

/-- A text that names a state: between the blanks around it and in upper case, it is one of the
names of the state, perhaps behind the mark. -/
def Names (st : TaskStatus) (s : String) : Prop :=
  ∃ name ∈ st.wireNames, upper (trim s.toList) = name.toList ∨
    upper (trim s.toList) = wireMark ++ name.toList

/-- No name begins with the mark. -/
theorem afterStart_wireMark {st : TaskStatus} {name : String} (h : name ∈ st.wireNames) :
    afterStart wireMark name.toList = none := by
  have hall : ∀ st ∈ all, ∀ name ∈ st.wireNames, afterStart wireMark name.toList = none := by
    decide
  exact hall st (by cases st <;> decide) name h

/-- No name is that of two states. -/
theorem eq_of_mem_wireNames {st st' : TaskStatus} {name : String} (h : name ∈ st.wireNames)
    (h' : name ∈ st'.wireNames) : st = st' := by
  have hall : ∀ st ∈ all, ∀ st' ∈ all, ∀ name ∈ st.wireNames, name ∈ st'.wireNames → st = st' := by
    decide
  exact hall st (by cases st <;> decide) st' (by cases st' <;> decide) name h h'

/-- What is left of a text without blanks around it and without the mark in front is a name exactly
if the text is this name, perhaps behind the mark. -/
theorem normalized_eq_iff {s : String} {st : TaskStatus} {name : String}
    (h : name ∈ st.wireNames) :
    normalized s = name.toList ↔ upper (trim s.toList) = name.toList ∨
      upper (trim s.toList) = wireMark ++ name.toList := by
  unfold normalized
  cases hmark : afterStart wireMark (upper (trim s.toList)) with
  | none =>
    have hnot : upper (trim s.toList) ≠ wireMark ++ name.toList := by
      intro heq
      rw [afterStart_eq_some.mpr heq] at hmark
      exact nomatch hmark
    simp [hmark, hnot]
  | some rest =>
    have hmarked := afterStart_eq_some.mp hmark
    have hnot : upper (trim s.toList) ≠ name.toList := by
      intro heq
      rw [heq, afterStart_wireMark h] at hmark
      exact nomatch hmark
    rw [hmarked] at hmark hnot
    simp [hmark, hmarked, hnot]

private theorem isOneOf_wireNames_iff {s : String} {st : TaskStatus} :
    isOneOf st.wireNames (normalized s) = true ↔ st.Names s := by
  simp only [isOneOf, List.mem_map, decide_eq_true_eq, Names]
  exact exists_congr fun name => and_congr_right fun h => eq_comm.trans (normalized_eq_iff h)

/-- A text names at most one state. -/
theorem Names.unique {s : String} {st st' : TaskStatus} (h : st.Names s) (h' : st'.Names s) :
    st = st' := by
  obtain ⟨name, hname, heq⟩ := h
  obtain ⟨name', hname', heq'⟩ := h'
  have hsame := ((normalized_eq_iff hname).mpr heq).symm.trans ((normalized_eq_iff hname').mpr heq')
  exact eq_of_mem_wireNames hname (String.toList_inj.mp hsame ▸ hname')

/-- The state of a text is the one that the text names. -/
theorem ofWire?_eq_some_iff {s : String} {st : TaskStatus} :
    ofWire? s = some st ↔ st.Names s := by
  have hsound {found : TaskStatus} (h : ofWire? s = some found) : found.Names s := by
    have hone := List.find?_some h
    exact isOneOf_wireNames_iff.mp hone
  constructor
  · exact hsound
  · intro h
    cases hfound : ofWire? s with
    | none =>
      have hnone := List.find?_eq_none.mp hfound st (by cases st <;> decide)
      exact absurd (isOneOf_wireNames_iff.mpr h) hnone
    | some found => rw [(hsound hfound).unique h]

private theorem ofWire?_eq_none_iff {s : String} :
    ofWire? s = none ↔ ∀ st : TaskStatus, ¬st.Names s := by
  simp only [← ofWire?_eq_some_iff, Option.eq_none_iff_forall_ne_some, ne_eq]

/-! ### What makes no difference -/

private theorem ofWire?_congr {s s' : String} (h : normalized s = normalized s') :
    ofWire? s = ofWire? s' := by
  rw [ofWire?, ofWire?, h]

/-- Blanks around a text make no difference. -/
theorem ofWire?_padded {before after : String} (hbefore : isAllBlank before = true)
    (hafter : isAllBlank after = true) (s : String) :
    ofWire? (before ++ s ++ after) = ofWire? s := by
  refine ofWire?_congr ?_
  rw [normalized, String.toList_append, String.toList_append, trim_append_right hafter,
    trim_append_left hbefore, normalized]

/-- The case of ASCII letters makes no difference. -/
theorem ofWire?_of_upper_eq {s s' : String} (h : upper s.toList = upper s'.toList) :
    ofWire? s = ofWire? s' := by
  refine ofWire?_congr ?_
  rw [normalized, ← trim_upper, h, trim_upper, normalized]

/-- One mark in front of a text that has none makes no difference. -/
theorem ofWire?_marked {s : String} (htrim : trimmed s = s)
    (hmark : ¬wireMark <+: upper s.toList) : ofWire? ("TASK_" ++ s) = ofWire? s := by
  have hs : trim s.toList = s.toList := by
    rw [trimmed] at htrim
    rw [← String.toList_ofList (l := trim s.toList), htrim]
  have hword : IsWord wireMark := by simp [IsWord, wireMark, isBlank]
  have hupper : upper (wireMark ++ s.toList) = wireMark ++ upper s.toList := List.map_append
  have hnone : afterStart wireMark (upper s.toList) = none := by
    rw [← isSome_afterStart_iff] at hmark
    simpa using hmark
  refine ofWire?_congr ?_
  rw [normalized, String.toList_append, show "TASK_".toList = wireMark from rfl,
    trim_append_of_isWord hword hs, hupper,
    afterStart_eq_some.mpr rfl, normalized, hs, hnone]
  rfl

end TaskStatus

/-! ### Replies with an unknown state -/

/-- A reply that can be read and in which a text decides that names no state. -/
def IsUnknown (body : List UInt8) (text : String) : Prop :=
  ∃ v b, v.Written body ∧ IsStatusBody v b ∧ b.flat.or b.nested = some text ∧
    ∀ st : TaskStatus, ¬st.Names text

private theorem info_eq_unknownStatus_iff {b : StatusBody} {taskId id text : String} :
    b.info taskId = .error (.unknownStatus id text) ↔
      id = taskId ∧ b.deciding? = some text ∧ ∀ st : TaskStatus, ¬st.Names text := by
  rw [← TaskStatus.ofWire?_eq_none_iff]
  constructor
  · intro h
    unfold StatusBody.info at h
    split at h
    · cases h
    · rename_i decided hdecided
      split at h
      · rename_i hnone
        cases h
        exact ⟨rfl, hdecided, hnone⟩
      · cases h
  · rintro ⟨rfl, hdecided, hnone⟩
    simp only [StatusBody.info, hdecided, hnone]

/-- A reply is refused for its state exactly if it can be read and the text that decides in it
names none; the text is told as it stands there. -/
theorem readTaskInfo_eq_unknownStatus_iff {taskId id text : String} {body : List UInt8} :
    readTaskInfo taskId body = .error (.unknownStatus id text) ↔
      id = taskId ∧ IsUnknown body text := by
  constructor
  · intro h
    cases hread : (parse body).bind statusBody? with
    | none => simp [readTaskInfo, hread] at h
    | some b =>
      obtain ⟨v, hv, hb⟩ := Option.bind_eq_some_iff.mp hread
      rw [parse_eq_some_iff] at hv
      rw [readTaskInfo_of_some hv hb, info_eq_unknownStatus_iff] at h
      obtain ⟨hid, hdecided, hnone⟩ := h
      exact ⟨hid, v, b, hv, (statusBody?_eq_some_iff hv.1).mp hb, hdecided, hnone⟩
  · rintro ⟨hid, v, b, hv, hb, hdecided, hnone⟩
    rw [readTaskInfo_of_some hv ((statusBody?_eq_some_iff hv.1).mpr hb), info_eq_unknownStatus_iff]
    exact ⟨hid, hdecided, hnone⟩

/-! ### Polls that get such a reply -/

namespace Polling

variable {σ : Type} (p : Polling σ)

/-- Where the poll stands when the query after some others begins, the first of which begins
here. -/
def standingAt (p : Polling σ) : Nat → Standing σ → Standing σ
  | 0, x => x
  | k + 1, x => p.standingAt k (p.next x)

private theorem queryAt_eq (k : Nat) (x : Standing σ) :
    p.queryAt k x = p.query (p.standingAt k x) := by
  induction k generalizing x with
  | zero => rfl
  | succ k ih => exact ih (p.next x)

/-- A query that gets such a reply fails with the text that decides in it. -/
theorem outcome_of_isUnknown {p : Polling σ} {x : Standing σ} {body : List UInt8} {text : String}
    (hbody : (p.reply x).1.answer = .body body) (hunknown : IsUnknown body text) :
    (p.query x).outcome = .error (.unknownStatus p.taskId text) := by
  rw [query, hbody]
  exact readTaskInfo_eq_unknownStatus_iff.mpr ⟨rfl, hunknown⟩

/-- A poll that gets such a reply has ended with it and with its text. -/
theorem Ended.eq_of_isUnknown {p : Polling σ} {c : Conversation σ} {k : Nat}
    {result : Except Halt TaskInfo × Conversation σ} (h : p.Ended c k result) {j : Nat}
    (hj : j ≤ k) {body : List UInt8} {text : String}
    (hbody : (p.reply (p.standingAt j c.standing)).1.answer = .body body)
    (hunknown : IsUnknown body text) :
    j = k ∧ result.1 = .error (.fault (.unknownStatus p.taskId text)) := by
  have houtcome := outcome_of_isUnknown hbody hunknown
  rw [← queryAt_eq] at houtcome
  rcases hj.lt_or_eq with hlt | rfl
  · obtain ⟨info, hinfo, -⟩ := h.passed j hlt
    rw [houtcome] at hinfo
    cases hinfo
  · refine ⟨rfl, ?_⟩
    have hdecided := h.decided
    generalize result.1 = answered at hdecided
    cases hdecided with
    | failed hfault =>
      rw [houtcome] at hfault
      rw [Except.error.inj hfault]
    | terminal hinfo =>
      rw [houtcome] at hinfo
      cases hinfo
    | timedOut hinfo =>
      rw [houtcome] at hinfo
      cases hinfo

end Polling

namespace Conversation

variable {σ : Type}

/-- A round of a poll in which such a reply arrives is the last one, whatever rounds are left and
whatever shutdown is still to come: no query follows, and the poll is over with the reply. -/
theorem pollRounds_of_isUnknown (service : Service σ) (settings : PollSettings) (rounds : Nat)
    (p : Poll) (c : Conversation σ) {body : List UInt8} {text : String}
    (hbody : (service c.gateway c.now (.status p.taskId)).1.answer = .body body)
    (hunknown : IsUnknown body text)
    (harrives : { c with calls := (c.now, .status p.taskId) :: c.calls }.isCut
      (arrival c.now (service c.gateway c.now (.status p.taskId)).1.latency) = false) :
    let ended := pollRounds service settings (rounds + 1) p c
    ended.1 = .error (.fault (.unknownStatus p.taskId text)) ∧
      ended.2.now = arrival c.now (service c.gateway c.now (.status p.taskId)).1.latency ∧
      ended.2.calls = (c.now, .status p.taskId) :: c.calls := by
  have hread := readTaskInfo_eq_unknownStatus_iff.mpr ⟨rfl (a := p.taskId), hunknown⟩
  generalize hreply : service c.gateway c.now (.status p.taskId) = replied at hbody harrives
  obtain ⟨⟨latency, answer⟩, gateway⟩ := replied
  obtain rfl : answer = .body body := hbody
  have hstatus : c.status service p.taskId =
      (.error (.fault (.unknownStatus p.taskId text)), { c with
        gateway
        now := arrival c.now latency
        calls := (c.now, .status p.taskId) :: c.calls }) := by
    have hwait : ({ c with gateway, calls := (c.now, .status p.taskId) :: c.calls } :
        Conversation σ).isCut (arrival c.now latency) = false := harrives
    unfold status call
    rw [hreply]
    simp only [waitUntil, hwait]
    simp [understood, Answer.taskInfo, Answer.body?, hread, Except.map, Except.mapError, bind,
      Except.bind]
  rw [pollRounds, hstatus]
  exact ⟨rfl, rfl, rfl⟩

end Conversation

/-- The names of states are recognized exactly. A text has the state that it names, whatever blanks
are around it, in any case of ASCII letters, and with one mark in front of it or without. Every
reply that can be read and in which another text decides is refused with this text as it is. The
round of a poll in which it arrives is the last one, and no query of a poll follows such a reply. -/
theorem wireNames_recognized :
    (∀ {s : String} {st : TaskStatus}, TaskStatus.ofWire? s = some st ↔ st.Names s) ∧
    (∀ {before after : String}, isAllBlank before = true → isAllBlank after = true →
      ∀ s, TaskStatus.ofWire? (before ++ s ++ after) = TaskStatus.ofWire? s) ∧
    (∀ {s s' : String}, upper s.toList = upper s'.toList →
      TaskStatus.ofWire? s = TaskStatus.ofWire? s') ∧
    (∀ {s : String}, trimmed s = s → ¬TaskStatus.wireMark <+: upper s.toList →
      TaskStatus.ofWire? ("TASK_" ++ s) = TaskStatus.ofWire? s) ∧
    (∀ {taskId id text : String} {body : List UInt8},
      readTaskInfo taskId body = .error (.unknownStatus id text) ↔
        id = taskId ∧ IsUnknown body text) ∧
    (∀ {σ : Type} (service : Service σ) (settings : PollSettings) (rounds : Nat) (p : Poll)
      (c : Conversation σ) {body : List UInt8} {text : String},
      (service c.gateway c.now (.status p.taskId)).1.answer = .body body → IsUnknown body text →
      { c with calls := (c.now, .status p.taskId) :: c.calls }.isCut (Conversation.arrival c.now
        (service c.gateway c.now (.status p.taskId)).1.latency) = false →
      let ended := Conversation.pollRounds service settings (rounds + 1) p c
      ended.1 = .error (.fault (.unknownStatus p.taskId text)) ∧
        ended.2.now = Conversation.arrival c.now
          (service c.gateway c.now (.status p.taskId)).1.latency ∧
        ended.2.calls = (c.now, .status p.taskId) :: c.calls) ∧
    ∀ {σ : Type} (service : Service σ) {settings : PollSettings} {c : Conversation σ}
      (taskId : String), 0 < settings.interval.nanos → c.shutdown = none →
      let p : Polling σ := ⟨service, settings, taskId, c.now⟩
      let ended := c.poll service settings taskId
      ∃ k, p.Ended c k ended ∧ ended.2.now = (p.queryAt k c.standing).ended ∧
        ∀ j ≤ k, ∀ {body : List UInt8} {text : String},
          (p.reply (p.standingAt j c.standing)).1.answer = .body body →
          IsUnknown body text → j = k ∧ ended.1 = .error (.fault (.unknownStatus taskId text)) := by
  refine ⟨TaskStatus.ofWire?_eq_some_iff, TaskStatus.ofWire?_padded, TaskStatus.ofWire?_of_upper_eq,
    TaskStatus.ofWire?_marked, readTaskInfo_eq_unknownStatus_iff,
    Conversation.pollRounds_of_isUnknown, ?_⟩
  intro σ service settings c taskId hpause hshutdown p ended
  obtain ⟨k, hended, hover⟩ := Conversation.exists_poll_ended service hpause hshutdown taskId
  exact ⟨k, hended, hover, fun j hj _ _ hbody hunknown => hended.eq_of_isUnknown hj hbody hunknown⟩

/-- A reply that a task is paused, which is no state that is known. -/
def pausedBytes : List UInt8 := bytesOf "\x7b\"status\":\" Paused \"\x7d"

/-- A gateway that always answers so. -/
def alwaysPaused : Service Unit := fun _ _ _ => (⟨.ofMillis 3, .body pausedBytes⟩, ())

/-- Texts that are known, and a poll that ends with one that is not. -/
theorem wireNames_recognized_paused :
    TaskStatus.ofWire? ("\u3000" ++ "task_Queued" ++ "\t") = some .pending ∧
      TaskStatus.ofWire? "Task_TASK_QUEUED" = none ∧
      IsUnknown pausedBytes " Paused " ∧
      readTaskInfo "a" pausedBytes = .error (.unknownStatus "a" " Paused ") ∧
      (Conversation.pollRounds alwaysPaused .standard 7 (.begin "a" 0)
        { gateway := (), shutdown := some 3000000 }).1 =
          .error (.fault (.unknownStatus "a" " Paused ")) ∧
      (Conversation.poll alwaysPaused .standard { gateway := () } "a").1 =
        .error (.fault (.unknownStatus "a" " Paused ")) := by
  obtain ⟨hnames, hpadded, hcase, hmarked, hrefused, hround, hpoll⟩ := wireNames_recognized
  have hqueued : TaskStatus.ofWire? ("\u3000" ++ "task_Queued" ++ "\t") = some .pending := by
    have hplain : TaskStatus.ofWire? "QUEUED" = some .pending := by decide
    have hmark : TaskStatus.ofWire? ("TASK_" ++ "QUEUED") = TaskStatus.ofWire? "QUEUED" :=
      hmarked (by decide) (by decide)
    have hupper : upper "task_Queued".toList = upper ("TASK_" ++ "QUEUED").toList := by decide
    rw [hpadded (by decide) (by decide) "task_Queued", hcase hupper, hmark, hplain]
  have hread : readTaskInfo "a" pausedBytes = .error (.unknownStatus "a" " Paused ") := by
    decide +kernel
  have hunknown : IsUnknown pausedBytes " Paused " := (hrefused.mp hread).2
  have hpause : 0 < PollSettings.standard.interval.nanos := by decide
  obtain ⟨k, -, -, hlast⟩ := hpoll alwaysPaused (c := { gateway := () }) "a" hpause rfl
  refine ⟨hqueued, by decide, hunknown, hread, ?_, (hlast 0 (Nat.zero_le k) rfl hunknown).2⟩
  exact (hround alwaysPaused .standard 6 (.begin "a" 0) _ rfl hunknown (by decide)).1

end GatewayProbe.Gateway
