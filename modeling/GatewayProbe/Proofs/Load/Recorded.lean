import GatewayProbe.Proofs.Load.Chronicle
import GatewayProbe.Proofs.Metrics.Observation

/-!
# What a run records

Samples are recorded when a call is answered and at no other event. The report of a run is the one
on all samples that its events have recorded, in their order. Each of them stands under a fixed
name, or under the name of a program of the plan, since only commands of the plan are submitted.
-/

namespace GatewayProbe.Load

open GatewayProbe.Gateway GatewayProbe.Metrics

namespace Run

/-- The samples that an event records at a moment. -/
def sampled (r : Run) (moment : Nat) : Event → List Sample
  | .answer user answer =>
    match r.users[user]?.bind fun u => u.receive? r.plan r.deadline moment answer with
    | some (_, es) => Effect.samples es
    | none => []
  | _ => []

/-- The samples that events record one after the other, as far as they can happen. -/
def recorded : List (Nat × Event) → Run → List Sample
  | [], _ => []
  | (moment, e) :: rest, r => r.sampled moment e ++ (r.step moment e).elim [] (recorded rest)

/-- An event adds what it records. -/
theorem aggregator_step {r r' : Run} {moment : Nat} {e : Event} (h : r.step moment e = some r') :
    r'.aggregator = r.aggregator.recordAll (r.sampled moment e) := by
  unfold step at h
  split_ifs at h with hmoment
  cases change_of_happen h with
  | release => exact (framed_release _).2.aggregator
  | endRelease | shutdown => rfl
  | @answer user u purpose sent permits hu hstage answer =>
    have hsampled : r.sampled moment (.answer user answer) =
        Effect.samples (u.receiveFor r.plan r.deadline moment sent answer purpose).2 := by
      have hfound : r.users[user]? = some u := hu
      simp only [sampled, hfound, Option.bind_some, User.receive?, hstage]
    rw [hsampled]
    rfl
  | move he =>
    have hsampled : r.sampled moment e = [] := by
      cases e with
      | answer => simp [Event.isAnswer] at he
      | _ => rfl
    rw [hsampled]
    rfl

/-- Events add all that they record. -/
theorem aggregator_replay {events : List (Nat × Event)} {r r' : Run}
    (hreplay : replay events r = some r') :
    r'.aggregator = r.aggregator.recordAll (recorded events r) := by
  induction events generalizing r with
  | nil =>
    obtain rfl := Option.some.inj hreplay
    rfl
  | cons event rest ih =>
    obtain ⟨moment, e⟩ := event
    obtain ⟨r₁, hstep, hrest⟩ := Option.bind_eq_some_iff.mp hreplay
    rw [ih hrest, aggregator_step hstep, recorded, hstep, Aggregator.recordAll_append]
    rfl

/-- The report of a run is on all samples that its events have recorded. -/
theorem report_eq_reportOf {plan : Plan} {started : Nat} {entropy : Nat → Random.Stream}
    {events : List (Nat × Event)} {r₀ r : Run} (hbegin : begin plan started entropy = .ok r₀)
    (hreplay : replay events r₀ = some r) :
    r.outcome.report = Aggregator.reportOf started r.now (recorded events r₀) := by
  obtain ⟨-, deadline, -, rfl⟩ := begin_eq_ok.mp hbegin
  rw [outcome, aggregator_replay hreplay]
  rfl

end Run

/-! ### The names of what is recorded -/

/-- The names under which a run of a plan can record samples. -/
inductive Plan.Measures (plan : Plan) : String → Prop
  | endpoint (e : Endpoint) : Measures plan e.name
  | poll : Measures plan pollName
  | completion : Measures plan completionName
  | execute {c : Command} (h : c ∈ plan.commands) : Measures plan (executeName c.program)

/-- A purpose that a user of a plan can have. -/
def Purpose.IsOf (plan : Plan) : Purpose → Prop
  | .submission command => command ∈ plan.commands
  | _ => True

namespace User

variable {plan : Plan} {deadline now : Nat} {stopped : Bool} {u u' : User}

/-- A user that submits nothing but commands of the plan. -/
def Submits (plan : Plan) (u : User) : Prop :=
  ∀ purpose sent, u.stage = .calling purpose sent → purpose.IsOf plan

/-- A user that calls nobody submits nothing. -/
theorem submits_of_not_calling (h : ∀ purpose sent, u.stage ≠ .calling purpose sent) :
    u.Submits plan := by
  intro purpose sent hstage
  exact absurd hstage (h purpose sent)

private theorem submits_ask (u : User) (now : Nat) (purpose : Purpose) (h : purpose.IsOf plan) :
    (u.ask now purpose).Submits plan := by
  rintro _ sent ⟨⟩
  exact h

private theorem submits_endIteration (u : User) (now : Nat) :
    (u.endIteration plan deadline now).Submits plan := by
  obtain ⟨stage, hstage, heq⟩ := endIteration_eq plan deadline now u
  rw [heq]
  obtain rfl | ⟨due, rfl⟩ := hstage
  · exact submits_of_not_calling nofun
  · exact submits_of_not_calling nofun

/-- A user that begins an iteration submits a command of the plan, if it submits any. -/
theorem Begun.submits (h : Begun plan deadline stopped now u u') : u'.Submits plan := by
  cases h with
  | ended => exact submits_of_not_calling nofun
  | health => exact submits_ask _ _ .health trivial
  | execute stream hopen hcommand =>
    exact submits_ask _ _ (.submission _) (List.mem_of_getElem? hcommand)
  | idle => exact submits_endIteration _ _
  | @status _ _ _ taskId => exact submits_ask _ _ (.statusCheck taskId) trivial

/-- After an answer a user submits nothing at once. -/
theorem Received.submits {sent : Nat} {answer : Answer} {purpose : Purpose}
    (h : Received plan deadline now sent u answer purpose u') : u'.Submits plan := by
  cases h with
  | ended => exact submits_endIteration _ _
  | accepted => exact submits_ask _ _ (.query _) trivial
  | rested => exact submits_of_not_calling nofun

/-- What a user submits after a step is a command of the plan. -/
theorem Step.submits (hc : plan.commands ≠ []) {es : List Effect}
    (h : Step plan deadline stopped now u u' es) : u'.Submits plan := by
  cases h with
  | start => exact (begun_beginIteration hc _).submits
  | leave => exact submits_of_not_calling nofun
  | answer hu answer => exact (received_receiveFor u _ answer _).submits
  | query => exact submits_ask _ _ (.query _) trivial
  | iterate => exact (begun_beginIteration hc _).submits
  | stop => exact submits_of_not_calling nofun

/-- A call is recorded under its name alone. -/
theorem name_of_mem_callEffects {α : Type} {name : String} {elapsed : Duration}
    {outcome : Except Fault α} {s : Sample}
    (h : s ∈ Effect.samples (callEffects name elapsed outcome)) : s.name = name := by
  cases outcome with
  | ok value =>
    obtain rfl := List.mem_singleton.mp h
    rfl
  | error f =>
    obtain rfl := List.mem_singleton.mp h
    rfl

/-- A query of a poll is recorded under the name of these alone. -/
theorem name_of_mem_queryEffects {work : Work} {elapsed : Duration}
    {outcome : Except Fault TaskInfo} {s : Sample}
    (h : s ∈ Effect.samples (queryEffects work elapsed outcome)) : s.name = pollName := by
  unfold queryEffects at h
  cases hback : work.poll.backwards? outcome with
  | none =>
    rw [hback] at h
    obtain rfl := List.mem_singleton.mp h
    rfl
  | some m =>
    rw [hback] at h
    obtain rfl := List.mem_singleton.mp h
    rfl

/-- The time of a task is recorded under its own name. -/
theorem name_of_mem_receiveInfo {u : User} {work : Work} {outcome : Except Fault TaskInfo}
    {s : Sample} (h : s ∈ Effect.samples (u.receiveInfo plan deadline now work outcome).2) :
    s.name = completionName := by
  unfold receiveInfo at h
  split at h
  · unfold completionEffects at h
    split at h
    · obtain rfl := List.mem_singleton.mp h
      rfl
    · obtain rfl := List.mem_singleton.mp h
      rfl
  · exact absurd h (by simp [faultEffects, Effect.samples])
  · exact absurd h (by simp [Effect.samples])

/-- What is recorded at an answer stands under a name that is measured in runs of the plan. -/
theorem measures_receiveFor {purpose : Purpose} (hpurpose : purpose.IsOf plan) {u : User}
    {sent : Nat} {answer : Answer} {s : Sample}
    (h : s ∈ Effect.samples (u.receiveFor plan deadline now sent answer purpose).2) :
    plan.Measures s.name := by
  cases purpose with
  | health => exact name_of_mem_callEffects h ▸ .endpoint .health
  | submission command => exact name_of_mem_callEffects h ▸ .execute hpurpose
  | statusCheck taskId => exact name_of_mem_callEffects h ▸ .endpoint .status
  | query work =>
    simp only [receiveFor, Effect.samples_append, List.mem_append] at h
    rcases h with hquery | hinfo
    · exact name_of_mem_queryEffects hquery ▸ .poll
    · exact name_of_mem_receiveInfo hinfo ▸ .completion

end User

namespace Run

variable {plan : Plan} {started : Nat} {entropy : Nat → Random.Stream}
  {events : List (Nat × Event)} {r₀ r r' : Run}

/-- Users that submit nothing but commands of the plan. -/
def Submits (plan : Plan) (r : Run) : Prop :=
  ∀ (user : Nat) (u : User), r.users[user]? = some u → u.Submits plan

/-- An event leaves all users with nothing but commands of the plan to submit. -/
theorem Change.submits {e : Event} (h : Change r e r') (hc : r.plan.commands ≠ [])
    (hr : r.Submits r.plan) : r'.Submits r.plan := by
  intro place v hv
  cases h with
  | release => exact hr place v ((framed_release r).2.users ▸ hv)
  | endRelease | shutdown => exact hr place v hv
  | answer _ _ answer =>
    rcases of_getElem?_setIfInBounds hv with ⟨-, rfl⟩ | hold
    · exact (User.received_receiveFor _ _ answer _).submits
    · exact hr place v hold
  | move _ hu _ hstep =>
    rcases of_getElem?_setIfInBounds hv with ⟨-, rfl⟩ | hold
    · exact hstep.submits hc
    · exact hr place v hold

/-- What an event records stands under a name that is measured in runs of the plan. -/
theorem measures_of_mem_sampled (hr : r.Submits r.plan) {moment : Nat} {e : Event} {s : Sample}
    (hs : s ∈ r.sampled moment e) : r.plan.Measures s.name := by
  cases e with
  | answer user answer =>
    simp only [sampled] at hs
    split at hs
    · rename_i u' es hreceive
      obtain ⟨u, hu, hreceive⟩ := Option.bind_eq_some_iff.mp hreceive
      unfold User.receive? at hreceive
      split at hreceive
      · rename_i purpose sent hstage
        obtain ⟨rfl, rfl⟩ := Prod.mk.inj (Option.some.inj hreceive)
        exact User.measures_receiveFor (hr user u hu purpose sent hstage) hs
      · exact absurd hreceive (by simp)
    · exact absurd hs List.not_mem_nil
  | _ => exact absurd hs List.not_mem_nil

private theorem measures_of_submits (hc : plan.commands ≠ []) (hplan : r.plan = plan)
    (hr : r.Submits plan) (hreplay : replay events r = some r') {s : Sample}
    (hs : s ∈ recorded events r) : plan.Measures s.name := by
  induction events generalizing r with
  | nil => exact absurd hs List.not_mem_nil
  | cons event rest ih =>
    obtain ⟨moment, e⟩ := event
    subst hplan
    obtain ⟨r₁, hstep, hrest⟩ := Option.bind_eq_some_iff.mp hreplay
    rw [recorded, hstep, List.mem_append] at hs
    rcases hs with hnow | hlater
    · exact measures_of_mem_sampled hr hnow
    · unfold step at hstep
      split_ifs at hstep with hmoment
      have hchange := change_of_happen hstep
      exact ih hchange.framed.plan (hchange.submits hc hr) hrest hlater

/-- Every sample that a run records stands under a name that is measured in runs of its plan. -/
theorem measures_of_mem_recorded (hbegin : begin plan started entropy = .ok r₀)
    (hreplay : replay events r₀ = some r) {s : Sample} (hs : s ∈ recorded events r₀) :
    plan.Measures s.name := by
  obtain ⟨hvalid, deadline, -, rfl⟩ := begin_eq_ok.mp hbegin
  refine measures_of_submits (validate_eq_ok.mp hvalid).1 rfl ?_ hreplay hs
  intro user u hu
  obtain ⟨id, -, rfl⟩ := Option.map_eq_some_iff.mp (users_ofPlan ▸ hu)
  exact User.submits_of_not_calling nofun

end Run

end GatewayProbe.Load
