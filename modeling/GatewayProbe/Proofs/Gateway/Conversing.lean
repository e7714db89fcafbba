import Mathlib.Order.Nat
import Mathlib.Order.MinMax
import GatewayProbe.Proofs.Gateway.Polling

/-!
# How conversations go on

A conversation only goes forward: its time does not run back and its calls are not forgotten. A
shutdown makes no other difference than to cut it off: what is asked under a shutdown is either
interrupted, with no call that would not have been made anyway, or it comes to what it would
have come to. Both pass from the parts of a conversation to the whole, since the next part is
entered only with what the one before has given.
-/

namespace GatewayProbe.Gateway

variable {σ α β : Type}

namespace Conversation

/-- A conversation that has gone on from another one: all calls in between were made in between. -/
structure Later (c c' : Conversation σ) : Prop where
  now : c.now ≤ c'.now
  calls : ∃ more, c'.calls = more ++ c.calls ∧
    ∀ entry ∈ more, c.now ≤ entry.1 ∧ entry.1 ≤ c'.now

theorem Later.refl (c : Conversation σ) : Later c c := ⟨le_rfl, [], rfl, nofun⟩

theorem Later.trans {c c' c'' : Conversation σ} (h : Later c c') (h' : Later c' c'') :
    Later c c'' := by
  obtain ⟨more, hmore, hentries⟩ := h.calls
  obtain ⟨more', hmore', hentries'⟩ := h'.calls
  refine ⟨le_trans h.now h'.now, more' ++ more, ?_, ?_⟩
  · rw [hmore', hmore, List.append_assoc]
  · intro entry hentry
    rcases List.mem_append.mp hentry with hentry | hentry
    · obtain ⟨hfrom, hto⟩ := hentries' entry hentry
      exact ⟨le_trans h.now hfrom, hto⟩
    · obtain ⟨hfrom, hto⟩ := hentries entry hentry
      exact ⟨hfrom, le_trans hto h'.now⟩

/-- A conversation that makes no call only lets time pass. -/
theorem Later.of_calls_eq {c c' : Conversation σ} (hnow : c.now ≤ c'.now)
    (hcalls : c'.calls = c.calls) : Later c c' := ⟨hnow, [], hcalls, nofun⟩

/-- The earlier calls are still the first ones. -/
theorem Later.suffix {c c' : Conversation σ} (h : Later c c') : c.calls <:+ c'.calls := by
  obtain ⟨more, hmore, -⟩ := h.calls
  exact ⟨more, hmore.symm⟩

/-- What comes of something under a shutdown, compared with the same without one: it is cut off
with no other calls, or nothing else has changed. -/
inductive Raced (cut : β) (s : Option Nat) : β × Conversation σ → β × Conversation σ → Prop where
  | same {result : β} {c : Conversation σ} (hopen : c.shutdown = none) :
    Raced cut s (result, c) (result, { c with shutdown := s })
  | cut {result : β} {c c' : Conversation σ} (hcalls : c'.calls <:+ c.calls) :
    Raced cut s (result, c) (cut, c')

/-- Under a shutdown no call is made that would not have been made anyway. -/
theorem Raced.suffix {cut : β} {s : Option Nat} {free raced : β × Conversation σ}
    (h : Raced cut s free raced) : raced.2.calls <:+ free.2.calls := by
  cases h with
  | same => exact List.suffix_rfl
  | cut hcalls => exact hcalls

/-- Under a shutdown it comes to nothing else, unless it is cut off. -/
theorem Raced.result {cut : β} {s : Option Nat} {free raced : β × Conversation σ}
    (h : Raced cut s free raced) : raced.1 = cut ∨ raced.1 = free.1 := by
  cases h with
  | same => exact Or.inr rfl
  | cut => exact Or.inl rfl

/-- Go on with what was asked for, or stop for the reason why it was not given. -/
def onward (stop : Halt → Conversation σ → β × Conversation σ)
    (go : α → Conversation σ → β × Conversation σ) :
    Except Halt α × Conversation σ → β × Conversation σ
  | (.error halt, c) => stop halt c
  | (.ok a, c) => go a c

section Onward

variable {stop : Halt → Conversation σ → β × Conversation σ}
  {go : α → Conversation σ → β × Conversation σ}

/-- If both ways go forward, so does the whole. -/
theorem later_onward (hstop : ∀ halt c, Later c (stop halt c).2)
    (hgo : ∀ a c, Later c (go a c).2) (asked : Except Halt α × Conversation σ) :
    Later asked.2 (onward stop go asked).2 := by
  obtain ⟨result, c⟩ := asked
  cases result with
  | error halt => exact hstop halt c
  | ok a => exact hgo a c

/-- If a shutdown only cuts off what was asked for and each of both ways, it only cuts off the
whole. -/
theorem raced_onward {cut : β} {s : Option Nat} {free raced : Except Halt α × Conversation σ}
    (h : Raced (.error .interrupted) s free raced)
    (hcut : ∀ c, (stop .interrupted c).1 = cut ∧ (stop .interrupted c).2.calls = c.calls)
    (hstop : ∀ halt c, c.shutdown = none →
      Raced cut s (stop halt c) (stop halt { c with shutdown := s }))
    (hgo : ∀ a c, c.shutdown = none → Raced cut s (go a c) (go a { c with shutdown := s }))
    (hstopLater : ∀ halt c, Later c (stop halt c).2) (hgoLater : ∀ a c, Later c (go a c).2) :
    Raced cut s (onward stop go free) (onward stop go raced) := by
  cases h with
  | @same result c hopen =>
    cases result with
    | error halt => exact hstop halt c hopen
    | ok a => exact hgo a c hopen
  | @cut result c c' hcalls =>
    obtain ⟨hresult, hsame⟩ := hcut c'
    have hlater := later_onward hstopLater hgoLater (result, c)
    have hraced : (stop .interrupted c').2.calls <:+ (onward stop go (result, c)).2.calls := by
      rw [hsame]
      exact hcalls.trans hlater.suffix
    rw [onward, ← hresult]
    exact .cut hraced

end Onward

section Later

variable (service : Service σ) (c : Conversation σ)

/-- A message changes neither the time nor the calls. -/
theorem later_tell (m : Message) : Later c (c.tell m) := .of_calls_eq le_rfl rfl

private theorem later_tell? (m : Option Message) : Later c (c.tell? m) :=
  .of_calls_eq (now_tell? c m).ge (calls_tell? c m)

/-- A wait lets time pass and makes no call. -/
theorem later_waitUntil {c : Conversation σ} {moment : Nat} (h : c.now ≤ moment) :
    Later c (c.waitUntil moment).2 := by
  unfold waitUntil
  split
  · exact .of_calls_eq (le_max_left _ _) rfl
  · exact .of_calls_eq h rfl

private theorem later_call (q : Call) : Later c (c.call service q).2 := by
  let asked : Conversation σ := { c with
    gateway := (service c.gateway c.now q).2, calls := (c.now, q) :: c.calls }
  have hasked : Later c asked := ⟨le_rfl, [(c.now, q)], rfl, by simp [asked]⟩
  exact hasked.trans (later_waitUntil (le_arrival _ _))

/-- A conversation that has asked for the health has gone on. -/
theorem later_health : Later c (c.health service).2 :=
  (later_call service c .health).trans (later_tell? _ _)

/-- A conversation that has submitted a command has gone on. -/
theorem later_submit (command : Command) : Later c (c.submit service command).2 :=
  later_call service c (.execute command)

private theorem later_status (taskId : String) : Later c (c.status service taskId).2 :=
  later_call service c (.status taskId)

end Later

section Raced

variable {cut : β} {s : Option Nat} (service : Service σ) {c : Conversation σ}

/-- Reading a result and noting something about it makes no difference, where no call is made. -/
theorem Raced.read {γ : Type} {cut' : γ} {free raced : β × Conversation σ}
    (h : Raced cut s free raced) (read : β × Conversation σ → γ × Conversation σ)
    (hshutdown : ∀ result c, read (result, { c with shutdown := s }) =
      ((read (result, c)).1, { (read (result, c)).2 with shutdown := s }))
    (hopen : ∀ asked, (read asked).2.shutdown = asked.2.shutdown)
    (hcalls : ∀ asked, (read asked).2.calls = asked.2.calls)
    (hcut : ∀ c, (read (cut, c)).1 = cut') : Raced cut' s (read free) (read raced) := by
  cases h with
  | @same result c hfree =>
    rw [hshutdown]
    exact .same ((hopen (result, c)).trans hfree)
  | @cut result c c' hsuffix =>
    rw [← hcut c']
    refine .cut ?_
    rw [hcalls, hcalls]
    exact hsuffix

/-- A wait ends as without the shutdown, or at the shutdown. -/
theorem raced_waitUntil (hopen : c.shutdown = none) (moment : Nat) :
    Raced (.error .interrupted) s (c.waitUntil moment)
      ({ c with shutdown := s }.waitUntil moment) := by
  rw [waitUntil_eq hopen]
  unfold waitUntil
  split
  · exact .cut List.suffix_rfl
  · exact .same (c := { c with now := moment }) hopen

private theorem raced_call (hopen : c.shutdown = none) (q : Call) :
    Raced (.error .interrupted) s (c.call service q)
      ({ c with shutdown := s }.call service q) := by
  let reply := (service c.gateway c.now q).1
  let asked : Conversation σ := { c with
    gateway := (service c.gateway c.now q).2, calls := (c.now, q) :: c.calls }
  let answered (waited : Except Halt Unit × Conversation σ) :
      Except Halt Answered × Conversation σ :=
    (waited.1.map fun _ => ⟨reply.answer, Clock.since c.now waited.2.now⟩, waited.2)
  have hwaited := raced_waitUntil (s := s) (c := asked) hopen (arrival c.now reply.latency)
  exact hwaited.read answered (fun _ _ => rfl) (fun _ => rfl) (fun _ => rfl) fun _ => rfl

/-- A health check ends as without the shutdown, or at the shutdown. -/
theorem raced_health (hopen : c.shutdown = none) :
    Raced (.error .interrupted) s (c.health service) ({ c with shutdown := s }.health service) := by
  let told (asked : Except Halt Answered × Conversation σ) : Except Halt String × Conversation σ :=
    let status := understood (fun elapsed a => a.health elapsed) asked.1
    (status, asked.2.tell? (status.toOption.map fun s => detail ("Gateway health status: " ++ s)))
  refine (raced_call service hopen .health).read told ?_ (fun _ => shutdown_tell? _ _)
    (fun _ => calls_tell? _ _) fun _ => rfl
  intro result c
  simp only [told]
  cases (understood (fun elapsed a => a.health elapsed) result).toOption with
  | none => rfl
  | some status => rfl

/-- A submission ends as without the shutdown, or at the shutdown. -/
theorem raced_submit (hopen : c.shutdown = none) (command : Command) :
    Raced (.error .interrupted) s (c.submit service command)
      ({ c with shutdown := s }.submit service command) := by
  let handled (asked : Except Halt Answered × Conversation σ) :
      Except Halt Handle × Conversation σ :=
    ((understood (fun elapsed a => a.taskId elapsed) asked.1).map fun id => ⟨id, c.now⟩, asked.2)
  exact (raced_call service hopen (.execute command)).read handled (fun _ _ => rfl)
    (fun _ => rfl) (fun _ => rfl) fun _ => rfl

private theorem raced_status (hopen : c.shutdown = none) (taskId : String) :
    Raced (.error .interrupted) s (c.status service taskId)
      ({ c with shutdown := s }.status service taskId) := by
  let seen (asked : Except Halt Answered × Conversation σ) :
      Except Halt TaskInfo × Conversation σ :=
    (understood (fun elapsed a => a.taskInfo taskId elapsed) asked.1, asked.2)
  exact (raced_call service hopen (.status taskId)).read seen (fun _ _ => rfl)
    (fun _ => rfl) (fun _ => rfl) fun _ => rfl

end Raced

section Polls

variable (service : Service σ) (settings : PollSettings)

/-- Keep the latency of a query with whether it has given a state. -/
def sampled (begun : Nat) :
    Except Halt TaskInfo × Conversation σ → Except Halt TaskInfo × Conversation σ
  | (.error .interrupted, c) => (.error .interrupted, c)
  | (.error (.fault f), c) => (.error (.fault f), c.measure begun false)
  | (.ok info, c) => (.ok info, c.measure begun true)

/-- What a poll does that stops where it waits. -/
def halted (halt : Halt) (c : Conversation σ) : Except Halt α × Conversation σ := (.error halt, c)

/-- What a poll with some rounds left does when it has seen the state of its task. -/
def afterQuery (rounds : Nat) (p : Poll) (info : TaskInfo) (c : Conversation σ) :
    Except Halt TaskInfo × Conversation σ :=
  let c := c.tell? (p.backwards? (.ok info))
  match p.observe settings c.now info with
  | .finished result => (result.mapError .fault, c)
  | .sleep length p =>
    onward halted (fun _ c => pollRounds service settings rounds p c)
      (c.waitUntil (c.timer.wake (Clock.after c.now length)))

/-- A round of a poll is a query, with what the poll does then. -/
theorem pollRounds_succ_eq (rounds : Nat) (p : Poll) (c : Conversation σ) :
    pollRounds service settings (rounds + 1) p c =
      onward halted (afterQuery service settings rounds p)
        (sampled c.now (c.status service p.taskId)) := by
  rw [pollRounds]
  dsimp only
  generalize c.status service p.taskId = asked
  obtain ⟨result, c₁⟩ := asked
  cases result with
  | error halt =>
    cases halt with
    | fault f => rfl
    | interrupted => rfl
  | ok info =>
    simp only [sampled, onward, afterQuery]
    cases p.observe settings ((c₁.measure c.now true).tell? (p.backwards? (.ok info))).now info with
    | finished result => rfl
    | sleep length p' =>
      simp only
      generalize waitUntil _ _ = waited
      obtain ⟨result, c₂⟩ := waited
      cases result with
      | error halt => rfl
      | ok _ => rfl

private theorem later_halted (halt : Halt) (c : Conversation σ) :
    Later c (halted (α := α) halt c).2 := .refl c

private theorem later_sampled (begun : Nat) (asked : Except Halt TaskInfo × Conversation σ) :
    Later asked.2 (sampled begun asked).2 := by
  obtain ⟨result, c⟩ := asked
  cases result with
  | error halt =>
    cases halt with
    | fault f => exact .of_calls_eq le_rfl rfl
    | interrupted => exact .refl c
  | ok info => exact .of_calls_eq le_rfl rfl

/-- If the rounds left go forward, so does what comes after a query. -/
theorem later_afterQuery {rounds : Nat}
    (hrounds : ∀ p c, Later c (pollRounds service settings rounds p c).2) (p : Poll)
    (info : TaskInfo) (c : Conversation σ) :
    Later c (afterQuery service settings rounds p info c).2 := by
  refine (later_tell? c (p.backwards? (.ok info))).trans ?_
  unfold afterQuery
  dsimp only
  generalize c.tell? (p.backwards? (.ok info)) = told
  cases p.observe settings told.now info with
  | finished result => exact .refl told
  | sleep length p' =>
    have hwake : told.now ≤ told.timer.wake (Clock.after told.now length) :=
      le_trans (Nat.le_add_right _ _) (told.timer.le_wake _)
    exact (later_waitUntil hwake).trans (later_onward later_halted (fun _ c => hrounds p' c) _)

/-- The rounds of a poll go forward. -/
theorem later_pollRounds (rounds : Nat) (p : Poll) (c : Conversation σ) :
    Later c (pollRounds service settings rounds p c).2 := by
  induction rounds generalizing p c with
  | zero => exact .refl c
  | succ rounds ih =>
    have hquery := (later_status service c p.taskId).trans (later_sampled c.now _)
    rw [pollRounds_succ_eq]
    exact hquery.trans (later_onward later_halted (later_afterQuery service settings ih p) _)

/-- A conversation that has polled a task has gone on. -/
theorem later_poll (c : Conversation σ) (taskId : String) :
    Later c (c.poll service settings taskId).2 := later_pollRounds service settings _ _ c

variable {s : Option Nat}

private theorem raced_halted (halt : Halt) (c : Conversation σ) (hopen : c.shutdown = none) :
    Raced (.error .interrupted) s (halted (α := α) halt c) (halted halt { c with shutdown := s }) :=
  .same hopen

private theorem raced_sampled {c : Conversation σ} (hopen : c.shutdown = none) (begun : Nat)
    (taskId : String) :
    Raced (.error .interrupted) s (sampled begun (c.status service taskId))
      (sampled begun ({ c with shutdown := s }.status service taskId)) := by
  refine (raced_status service hopen taskId).read (sampled begun) ?_ ?_ ?_ fun _ => rfl
  · intro result c
    rcases result with (f | _) | info <;> rfl
  · rintro ⟨(f | _) | info, c⟩ <;> rfl
  · rintro ⟨(f | _) | info, c⟩ <;> rfl

/-- If a shutdown only cuts off the rounds left, it only cuts off what comes after a query. -/
theorem raced_afterQuery {rounds : Nat}
    (hrounds : ∀ p c, c.shutdown = none →
      Raced (.error .interrupted) s (pollRounds service settings rounds p c)
        (pollRounds service settings rounds p { c with shutdown := s })) (p : Poll)
    (info : TaskInfo) (c : Conversation σ) (hopen : c.shutdown = none) :
    Raced (.error .interrupted) s (afterQuery service settings rounds p info c)
      (afterQuery service settings rounds p info { c with shutdown := s }) := by
  have htold : ∀ m : Option Message,
      { c with shutdown := s }.tell? m = { c.tell? m with shutdown := s } := by
    intro m
    cases m with
    | none => rfl
    | some m => rfl
  unfold afterQuery
  dsimp only
  rw [htold]
  have hopen' : (c.tell? (p.backwards? (.ok info))).shutdown = none :=
    (shutdown_tell? _ _).trans hopen
  generalize c.tell? (p.backwards? (.ok info)) = told at hopen' ⊢
  cases p.observe settings told.now info with
  | finished result => exact .same hopen'
  | sleep length p' =>
    exact raced_onward (raced_waitUntil hopen' _) (fun _ => ⟨rfl, rfl⟩) raced_halted
      (fun _ c => hrounds p' c) later_halted (fun _ c => later_pollRounds service settings _ p' c)

/-- A shutdown only cuts off the rounds of a poll. -/
theorem raced_pollRounds (rounds : Nat) (p : Poll) (c : Conversation σ)
    (hopen : c.shutdown = none) :
    Raced (.error .interrupted) s (pollRounds service settings rounds p c)
      (pollRounds service settings rounds p { c with shutdown := s }) := by
  induction rounds generalizing p c with
  | zero => exact .same hopen
  | succ rounds ih =>
    rw [pollRounds_succ_eq, pollRounds_succ_eq]
    have hlater := later_pollRounds service settings rounds
    exact raced_onward (raced_sampled service hopen c.now p.taskId) (fun _ => ⟨rfl, rfl⟩)
      raced_halted (raced_afterQuery service settings ih p) later_halted
      (later_afterQuery service settings hlater p)

/-- A poll ends as without the shutdown, or at the shutdown. -/
theorem raced_poll (c : Conversation σ) (hopen : c.shutdown = none) (taskId : String) :
    Raced (.error .interrupted) s (c.poll service settings taskId)
      ({ c with shutdown := s }.poll service settings taskId) :=
  raced_pollRounds service settings _ _ c hopen

end Polls

end Conversation

end GatewayProbe.Gateway
