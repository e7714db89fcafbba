import Mathlib.Data.List.TakeWhile
import Mathlib.Tactic.SplitIfs
import GatewayProbe.Load.Schedule
import GatewayProbe.Proofs.Load.Replay

/-!
# Schedules are runs

A turn of a schedule is made of few things: events, turns that become possible, timers, and
users that are let in. What all of these keep is kept by the turn, and what the turns and the
jumps of the time keep is kept by the whole schedule. So whatever a schedule does to its run is
an event that can happen or nothing at all, and the run that it carries out is one of the runs
that can be replayed.
-/

namespace GatewayProbe.Load

open GatewayProbe.Gateway

namespace Schedule

variable {σ : Type}

section Timers

variable {moment : Nat}

/-- A timer that is set is one more timer. -/
theorem mem_insertTimer {a : Alarm} {timer : Nat × Alarm} {timers : List (Nat × Alarm)} :
    timer ∈ insertTimer moment a timers ↔ timer = (moment, a) ∨ timer ∈ timers := by
  induction timers with
  | nil => simp [insertTimer]
  | cons first rest ih =>
    unfold insertTimer
    split_ifs
    · simp
    · rw [List.mem_cons, ih, List.mem_cons]
      exact or_left_comm

/-- Timers that are set one after the other are in the order of their moments. -/
theorem pairwise_insertTimer (a : Alarm) {timers : List (Nat × Alarm)}
    (h : timers.Pairwise fun t t' => t.1 ≤ t'.1) :
    (insertTimer moment a timers).Pairwise fun t t' => t.1 ≤ t'.1 := by
  induction timers with
  | nil => exact List.pairwise_singleton _ _
  | cons first rest ih =>
    obtain ⟨hfirst, hrest⟩ := List.pairwise_cons.mp h
    unfold insertTimer
    split_ifs with hlt
    · refine List.pairwise_cons.mpr ⟨fun timer htimer => ?_, h⟩
      rcases List.mem_cons.mp htimer with rfl | hmem
      · exact hlt.le
      · exact hlt.le.trans (hfirst timer hmem)
    · refine List.pairwise_cons.mpr ⟨fun timer htimer => ?_, ih hrest⟩
      rcases mem_insertTimer.mp htimer with rfl | hmem
      · exact not_lt.mp hlt
      · exact hfirst timer hmem

/-- The first timer goes off before all others. -/
theorem first_le {timer t : Nat × Alarm} {rest : List (Nat × Alarm)}
    (h : (timer :: rest).Pairwise fun t t' => t.1 ≤ t'.1) (ht : t ∈ timer :: rest) :
    timer.1 ≤ t.1 := by
  rcases List.mem_cons.mp ht with rfl | hmem
  · exact le_rfl
  · exact (List.pairwise_cons.mp h).1 t hmem

end Timers

/-- An event that is fired happens now, or nothing happens. -/
theorem fire_cases (s : Schedule σ) (e : Event) : s.fire e = s ∨ ∃ next,
    s.run.now ≤ s.now ∧ { s.run with now := s.now }.happen e = some next ∧
      s.fire e = { s with run := next } := by
  unfold Schedule.fire Run.step
  split_ifs with hnow
  · cases hhappen : ({ s.run with now := s.now } : Run).happen e with
    | none => exact Or.inl rfl
    | some next => exact Or.inr ⟨next, hnow, rfl, rfl⟩
  · exact Or.inl rfl

/-- A property of schedules that is kept by all that turns are made of but for the events. -/
structure Steady (P : Schedule σ → Prop) : Prop where
  goOn : ∀ {s : Schedule σ}, P s → ∀ t, P (s.goOn t)
  lineUp : ∀ {s : Schedule σ}, P s → ∀ turns, P { s with ready := s.ready ++ turns }
  setTimer : ∀ {s : Schedule σ}, P s → ∀ moment a, P (s.setTimer moment a)
  hold : ∀ {s : Schedule σ}, P s → ∀ gateway queue kept, P { s with gateway, queue, kept }

/-- A property of schedules that is kept by all that turns are made of. -/
structure Kept (P : Schedule σ → Prop) : Prop extends Steady P where
  fire : ∀ {s : Schedule σ}, P s → ∀ e, P (s.fire e)

section Turns

variable {P : Schedule σ → Prop} {s : Schedule σ}

/-- A grant keeps what its parts keep. -/
theorem Steady.grant (hP : Steady P) (h : P s) : P s.grant := by
  let lucky := s.queue.take (s.run.permits - s.kept)
  have hlet := hP.hold h s.gateway (s.queue.drop (s.run.permits - s.kept)) (s.kept + lucky.length)
  exact hP.lineUp hlet (lucky.map .enter)

/-- So does a turn that is put off. -/
theorem Steady.goOnAt (hP : Steady P) (h : P s) (moment : Nat) (t : Turn) :
    P (s.goOnAt moment t) := by
  unfold Schedule.goOnAt
  split_ifs
  · exact hP.goOn h t
  · exact hP.setTimer h moment _

/-- What a user does next keeps what its parts keep. -/
theorem Kept.follow (hP : Kept P) (h : P s) (service : Service σ) (user : Nat) :
    P (s.follow service user) := by
  unfold Schedule.follow
  split
  · exact hP.goOnAt (hP.hold h _ s.queue s.kept) _ _
  · exact hP.goOnAt h _ _
  · split_ifs
    · exact hP.goOn h _
    · exact hP.goOnAt h _ _
  · exact hP.grant h
  · exact h

/-- So does the end of a user. -/
theorem Kept.quit (hP : Kept P) (h : P s) (user : Nat) : P (s.quit user) := by
  unfold Schedule.quit
  split
  · exact hP.grant (hP.fire (hP.hold h s.gateway _ _) _)
  · exact hP.grant (hP.fire h _)
  · exact h

/-- A turn keeps what its parts keep. -/
theorem Kept.take (hP : Kept P) (h : P s) (service : Service σ) (t : Turn) :
    P (s.take service t) := by
  cases t with
  | shutdown => exact hP.lineUp (hP.fire (hP.fire h _) _) _
  | arrive user =>
    unfold Schedule.take
    simp only
    split_ifs
    · exact hP.fire h _
    · exact hP.follow (hP.fire h _) service user
    · exact hP.setTimer (hP.hold h s.gateway _ s.kept) _ _
  | enter user =>
    unfold Schedule.take
    simp only
    split
    · split_ifs
      · exact hP.quit h user
      · exact hP.follow (hP.fire (hP.hold h s.gateway s.queue _) _) service user
    · exact h
  | answer user answer => exact hP.follow (hP.fire h _) service user
  | wake user => exact hP.follow (hP.fire h _) service user
  | quit user => exact hP.quit h user

/-- So do the releases that are due. -/
theorem Kept.release (hP : Kept P) (times : Nat) (h : P s) : P (release times s) := by
  induction times generalizing s with
  | zero => exact h
  | succ times ih =>
    unfold Schedule.release
    split_ifs
    · exact h
    · exact hP.fire h _
    · exact ih (hP.grant (hP.fire h _))
    · exact hP.setTimer h _ _

/-- A schedule whose time has come to a moment, with all the turns that are due then. -/
def advanced (s : Schedule σ) (moment : Nat) : Schedule σ :=
  { s with
    now := max s.now moment
    timers := s.timers.dropWhile fun t => t.1 = moment
    ready := s.ready ++ (s.timers.takeWhile fun t => t.1 = moment).filterMap fun t =>
      match t.2 with
      | .turn t => some t
      | .releases => none }

/-- Timers that go off when the time has come to a moment become turns, the others stay set. -/
theorem mem_advanced {moment due : Nat} {t : Turn} (h : (due, .turn t) ∈ s.timers) :
    (due, .turn t) ∈ (s.advanced moment).timers ∨
      due = moment ∧ t ∈ (s.advanced moment).ready := by
  rw [← List.takeWhile_append_dropWhile (p := fun t => t.1 = moment) (l := s.timers),
    List.mem_append] at h
  refine h.symm.imp_right fun hnow => ⟨?_, ?_⟩
  · simpa using List.mem_takeWhile_imp hnow
  · exact List.mem_append_right _ (List.mem_filterMap.mpr ⟨_, hnow, rfl⟩)

/-- A schedule keeps what its turns, its releases and the jumps of its time keep. -/
theorem carry_induction {service : Service σ}
    (hrelease : ∀ {s : Schedule σ}, P s → ∀ times, P (release times s))
    (hturn : ∀ {s : Schedule σ} {t : Turn} {rest : List Turn}, P s → s.ready = t :: rest →
      P ({ s with ready := rest }.take service t))
    (hadvance : ∀ {s : Schedule σ} {timer : Nat × Alarm} {rest : List (Nat × Alarm)}, P s →
      s.ready = [] → s.timers = timer :: rest → P (s.advanced timer.1))
    (steps : Nat) (h : P s) : P (s.carry service steps) := by
  induction steps generalizing s with
  | zero => exact h
  | succ steps ih =>
    unfold Schedule.carry
    split
    · rename_i hready
      exact ih (hturn h hready)
    · rename_i hready
      split_ifs
      · exact h
      · refine ih ?_
        unfold Schedule.jump
        split
        · exact h
        · rename_i htimers
          exact hrelease (hadvance h hready htimers) _

end Turns

section Regularity

variable {s : Schedule σ}

/-- A schedule whose timers are in the order of their moments and whose run is not ahead of
it. -/
structure Regular (s : Schedule σ) : Prop where
  behind : s.run.now ≤ s.now
  sorted : s.timers.Pairwise fun t t' => t.1 ≤ t'.1
  commands : s.run.plan.commands ≠ []

/-- Every part of a turn keeps a schedule regular. -/
theorem kept_regular : Kept (Regular : Schedule σ → Prop) where
  fire {s} h e := by
    rcases s.fire_cases e with heq | ⟨next, _, hhappen, heq⟩
    · rwa [heq]
    · have hchange := Run.change_of_happen hhappen
      rw [heq]
      exact ⟨hchange.now.le, h.sorted, hchange.framed.plan ▸ h.commands⟩
  goOn h _ := ⟨h.behind, h.sorted, h.commands⟩
  lineUp h _ := ⟨h.behind, h.sorted, h.commands⟩
  setTimer h _ a := ⟨h.behind, pairwise_insertTimer a h.sorted, h.commands⟩
  hold h _ _ _ := ⟨h.behind, h.sorted, h.commands⟩

/-- So does the time that goes on. -/
theorem Regular.advanced (h : Regular s) (moment : Nat) : Regular (s.advanced moment) where
  behind := h.behind.trans (le_max_left _ _)
  sorted := h.sorted.sublist (List.dropWhile_sublist _)
  commands := h.commands

end Regularity

section Replays

variable {r : Run} {s : Schedule σ}

/-- The run of a schedule has come about by events. -/
def Follows (r : Run) (s : Schedule σ) : Prop := ∃ events, Run.replay events r = some s.run

/-- An event that cannot happen is passed over, any other one is one more event of the run. -/
theorem Follows.fire (h : Follows r s) (e : Event) : Follows r (s.fire e) := by
  obtain ⟨events, hreplay⟩ := h
  rcases s.fire_cases e with heq | ⟨next, hnow, hhappen, heq⟩
  · exact ⟨events, by rwa [heq]⟩
  · refine ⟨events ++ [(s.now, e)], ?_⟩
    rw [Run.replay_append, hreplay, heq]
    exact Run.replay_singleton hnow hhappen

private theorem kept_follows (r : Run) : Kept (Follows r : Schedule σ → Prop) where
  fire h e := h.fire e
  goOn h _ := h
  lineUp h _ := h
  setTimer h _ _ := h
  hold h _ _ _ := h

private theorem follows_ofRun (r : Run) (gateway : σ) (shutdown : Option Nat) :
    Follows r (ofRun r gateway shutdown) := by
  have hstart : Follows r (release r.plan.eventLimit { run := r, gateway, now := r.now }) :=
    (kept_follows r).release _ ⟨[], rfl⟩
  unfold ofRun
  split
  · exact hstart
  · split_ifs
    · exact hstart
    · exact hstart

end Replays

end Schedule

/-- What a schedule makes of a run is a replay of some events, whatever the gateway answers
and whenever the shutdown comes. -/
theorem Run.exists_replay_carriedOut {σ : Type} (service : Gateway.Service σ) (r : Run)
    (gateway : σ) (shutdown : Option Nat) :
    ∃ events, replay events r = some (r.carriedOut service gateway shutdown).1 := by
  have hkept : Schedule.Kept (Schedule.Follows r : Schedule σ → Prop) := Schedule.kept_follows r
  refine Schedule.carry_induction (fun h times => hkept.release times h) ?_ (fun h _ _ => h) _
    (Schedule.follows_ofRun r gateway shutdown)
  intro s t rest h _
  have hpopped : Schedule.Follows r { s with ready := rest } := h
  exact hkept.take hpopped service t

end GatewayProbe.Load
