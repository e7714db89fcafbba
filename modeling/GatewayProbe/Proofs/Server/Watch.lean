import GatewayProbe.Proofs.Server.Reader

/-!
# Waiting for two readers

Each of two streams has a reader of its own. Who waits takes the lines of both as they come and
is done at the first one that holds the pattern, or when both readers have ended. What the streams
deliver comes in the order of time, and at one moment in any order. Whichever order that is, the
waiting comes to what the lines and the ends of both readers come to.
-/

namespace GatewayProbe.Server

/-! ## The one who waits -/

/-- One of the two streams. -/
inductive Side where
  | stdout
  | stderr
  deriving DecidableEq, Repr

/-- Something that one of the streams delivers. -/
structure Event where
  side : Side
  delivery : Nat × Delivery
  deriving DecidableEq, Repr

/-- The deliveries of two streams in one order. -/
inductive Interleaving : List (Nat × Delivery) → List (Nat × Delivery) → List Event → Prop where
  | nil : Interleaving [] [] []
  | stdout {d : Nat × Delivery} {out err : List (Nat × Delivery)} {events : List Event}
    (h : Interleaving out err events) : Interleaving (d :: out) err (⟨.stdout, d⟩ :: events)
  | stderr {d : Nat × Delivery} {out err : List (Nat × Delivery)} {events : List Event}
    (h : Interleaving out err events) : Interleaving out (d :: err) (⟨.stderr, d⟩ :: events)

/-- What the waiting comes to: a line that holds the pattern, or the end of both readers. -/
inductive Verdict where
  | ready (moment : Nat)
  | silent (moment : Nat)
  deriving DecidableEq, Repr

/-- When both of two things have happened, if they have. -/
def bothEnd (a b : Option Nat) : Option Nat := a.bind fun x => b.map (max x)

/-- What the waiting comes to with a line that has been passed on and with readers that may have
ended. -/
def judge (pattern : String) (moment : Nat) (line : Option Line) (ends : Option Nat) :
    Option Verdict :=
  if line.any (·.shows pattern) then some (.ready moment) else ends.map fun _ => .silent moment

/-- What the waiting comes to with all lines and the end of both readers. -/
def judgeAll (pattern : String) (lines : List Line) (ends : Option Nat) : Option Verdict :=
  ((((lines.filter (·.shows pattern)).map (·.moment)).min?).map .ready).or (ends.map .silent)

/-- The two readers, and what the waiting has come to so far. -/
structure Watch where
  stdout : Reader := .reading []
  stderr : Reader := .reading []
  verdict : Option Verdict := none
  deriving DecidableEq, Repr

namespace Watch

/-- One of the streams delivers something. What the waiting has come to stays. -/
def step (pattern : String) (w : Watch) (e : Event) : Watch :=
  match e.side with
  | .stdout =>
    let (stdout, line) := w.stdout.step e.delivery
    let verdict := judge pattern e.delivery.1 line (bothEnd stdout.ended? w.stderr.ended?)
    { w with stdout, verdict := w.verdict.or verdict }
  | .stderr =>
    let (stderr, line) := w.stderr.step e.delivery
    let verdict := judge pattern e.delivery.1 line (bothEnd w.stdout.ended? stderr.ended?)
    { w with stderr, verdict := w.verdict.or verdict }

/-- The streams deliver some things. -/
def run (pattern : String) (w : Watch) (events : List Event) : Watch :=
  events.foldl (step pattern) w

end Watch

/-! ## One delivery -/

/-- A line that holds the pattern and is not later than any other one decides. -/
theorem judgeAll_of_shows {pattern : String} {lines : List Line} {ends : Option Nat} {l : Line}
    (hl : l ∈ lines) (hshows : l.shows pattern = true)
    (hleast : ∀ x ∈ lines, l.moment ≤ x.moment) :
    judgeAll pattern lines ends = some (.ready l.moment) := by
  have hmin : (((lines.filter (·.shows pattern)).map (·.moment)).min?) = some l.moment := by
    rw [List.min?_eq_some_iff]
    refine ⟨List.mem_map_of_mem (List.mem_filter.mpr ⟨hl, hshows⟩), fun m hm => ?_⟩
    obtain ⟨x, hx, rfl⟩ := List.mem_map.mp hm
    exact hleast x (List.mem_filter.mp hx).1
  rw [judgeAll, hmin]
  rfl

/-- Without a line that holds the pattern the end of both readers decides. -/
theorem judgeAll_of_forall_not {pattern : String} {lines : List Line} {ends : Option Nat}
    (h : ∀ x ∈ lines, ¬ x.shows pattern = true) :
    judgeAll pattern lines ends = ends.map .silent := by
  rw [judgeAll, List.filter_eq_nil_iff.mpr h]
  rfl

/-- A line that does not hold the pattern counts for nothing. -/
theorem judgeAll_append_of_forall_not {pattern : String} {front lines : List Line}
    {ends : Option Nat} (h : ∀ x ∈ front, ¬ x.shows pattern = true) :
    judgeAll pattern (front ++ lines) ends = judgeAll pattern lines ends := by
  rw [judgeAll, judgeAll, List.filter_append, List.filter_eq_nil_iff.mpr h, List.nil_append]

/-- One delivery to a reader and all that follow come to the same as all of them together. -/
theorem judge_or_judgeAll (pattern : String) {r other : Reader} {d : Nat × Delivery}
    {rest otherRest : List (Nat × Delivery)}
    (hrest : ∀ x ∈ rest, d.1 ≤ x.1) (hother : ∀ x ∈ otherRest, d.1 ≤ x.1)
    (hended : ∀ moment ∈ other.ended?, moment ≤ d.1)
    (hopen : bothEnd r.ended? other.ended? = none) :
    (judge pattern d.1 (r.step d).2 (bothEnd (r.step d).1.ended? other.ended?)).or
        (judgeAll pattern ((r.step d).1.passed rest ++ other.passed otherRest)
          (bothEnd ((r.step d).1.end? rest) (other.end? otherRest))) =
      judgeAll pattern (r.passed (d :: rest) ++ other.passed otherRest)
        (bothEnd (r.end? (d :: rest)) (other.end? otherRest)) := by
  obtain ⟨hline, hstops⟩ := r.step_spec d
  rw [Reader.passed, Reader.end?, List.append_assoc, judge]
  by_cases hshows : (r.step d).2.any (·.shows pattern) = true
  · -- The line of this delivery holds the pattern, and no other one is earlier.
    obtain ⟨l, hl, hpattern⟩ := (Option.any_eq_true _ _).mp hshows
    have hmoment : l.moment = d.1 := hline l hl
    have hleast : ∀ x ∈ (r.step d).2.toList ++
        ((r.step d).1.passed rest ++ other.passed otherRest), l.moment ≤ x.moment := by
      intro x hx
      rw [hmoment]
      simp only [List.mem_append, Option.mem_toList] at hx
      rcases hx with hx | hx | hx
      · exact Nat.le_of_eq (hline x hx).symm
      · obtain ⟨e, he, hxe⟩ := Reader.exists_of_mem_passed hx
        exact hxe ▸ hrest e he
      · obtain ⟨e, he, hxe⟩ := Reader.exists_of_mem_passed hx
        exact hxe ▸ hother e he
    have hmem : l ∈ (r.step d).2.toList ++
        ((r.step d).1.passed rest ++ other.passed otherRest) :=
      List.mem_append_left _ (Option.mem_toList.mpr hl)
    rw [if_pos hshows, judgeAll_of_shows hmem hpattern hleast, hmoment]
    rfl
  · have hnone : ∀ x ∈ (r.step d).2.toList, ¬ x.shows pattern = true := by
      intro x hx hpattern
      rw [Option.mem_toList] at hx
      exact hshows (by rw [hx]; exact hpattern)
    rw [if_neg hshows, judgeAll_append_of_forall_not hnone]
    cases hboth : bothEnd (r.step d).1.ended? other.ended? with
    | none => rfl
    | some last =>
      -- This delivery ends the last of the two readers, and nothing is passed on any more.
      obtain ⟨a, ha, hmax⟩ := Option.bind_eq_some_iff.mp hboth
      obtain ⟨b, hb, rfl⟩ := Option.map_eq_some_iff.mp hmax
      have hnow : a = d.1 := by
        refine (hstops a ha).resolve_left fun hr => ?_
        rw [hr, hb] at hopen
        cases hopen
      have hlast : max a b = d.1 := by
        rw [hnow]
        exact Nat.max_eq_left (hended b hb)
      rw [Reader.eq_ended_of_ended? ha, Reader.eq_ended_of_ended? hb, Reader.passed_ended,
        Reader.passed_ended, Reader.end?_ended, Reader.end?_ended,
        judgeAll_of_forall_not (by simp)]
      change _ = some (Verdict.silent (max a b))
      rw [hlast]
      rfl

/-! ## All deliveries -/

private theorem bothEnd_comm (a b : Option Nat) : bothEnd a b = bothEnd b a := by
  cases a <;> cases b <;> simp [bothEnd, Nat.max_comm]

/-- It does not matter which stream a line comes from. -/
theorem judgeAll_comm (pattern : String) (a b : List Line) (ends : Option Nat) :
    judgeAll pattern (a ++ b) ends = judgeAll pattern (b ++ a) ends := by
  have hmin : (((a ++ b).filter (·.shows pattern)).map (·.moment)).min? =
      (((b ++ a).filter (·.shows pattern)).map (·.moment)).min? := by
    apply Option.ext
    intro moment
    simp only [List.min?_eq_some_iff, List.mem_map, List.mem_filter, List.mem_append,
      or_comm (a := _ ∈ a)]
  rw [judgeAll, judgeAll, hmin]

/-- Nothing is decided by a delivery only if one of the readers goes on. -/
theorem eq_none_of_judge_eq_none {pattern : String} {moment : Nat} {line : Option Line}
    {ends : Option Nat} (h : judge pattern moment line ends = none) : ends = none := by
  rw [judge] at h
  split at h
  · cases h
  · exact Option.map_eq_none_iff.mp h

/-- The deliveries of each stream keep their order. -/
theorem Interleaving.sublist {out err : List (Nat × Delivery)} {events : List Event}
    (h : Interleaving out err events) :
    out.Sublist (events.map (·.delivery)) ∧ err.Sublist (events.map (·.delivery)) := by
  induction h with
  | nil => exact ⟨List.Sublist.refl [], List.Sublist.refl []⟩
  | @stdout d out err events h ih => exact ⟨ih.1.cons_cons d, ih.2.cons d⟩
  | @stderr d out err events h ih => exact ⟨ih.1.cons d, ih.2.cons_cons d⟩

private theorem Interleaving.exists_mem {out err : List (Nat × Delivery)} {events : List Event}
    (h : Interleaving out err events) {d : Nat × Delivery} (hd : d ∈ out ∨ d ∈ err) :
    ∃ e ∈ events, e.delivery = d :=
  List.mem_map.mp
    (hd.elim (fun hout => h.sublist.1.subset hout) fun herr => h.sublist.2.subset herr)

namespace Watch

variable {pattern : String} {w : Watch} {out err : List (Nat × Delivery)} {events : List Event}

/-- What the waiting comes to with what the streams still deliver. -/
def expected (pattern : String) (w : Watch) (out err : List (Nat × Delivery)) : Option Verdict :=
  w.verdict.or (judgeAll pattern (w.stdout.passed out ++ w.stderr.passed err)
    (bothEnd (w.stdout.end? out) (w.stderr.end? err)))

/-- Before some events: readers have ended no later than these, and one of them goes on while
nothing is decided. -/
structure Ongoing (w : Watch) (events : List Event) : Prop where
  stdout : ∀ e ∈ events, ∀ moment ∈ w.stdout.ended?, moment ≤ e.delivery.1
  stderr : ∀ e ∈ events, ∀ moment ∈ w.stderr.ended?, moment ≤ e.delivery.1
  undecided : w.verdict = none → bothEnd w.stdout.ended? w.stderr.ended? = none

/-- A reader that takes the first of some events has ended no later than the others. -/
theorem ended_step_le {r : Reader} {e : Event}
    (hended : ∀ x ∈ e :: events, ∀ moment ∈ r.ended?, moment ≤ x.delivery.1)
    (hfirst : ∀ x ∈ events, e.delivery.1 ≤ x.delivery.1) :
    ∀ x ∈ events, ∀ moment ∈ (r.step e.delivery).1.ended?, moment ≤ x.delivery.1 := by
  intro x hx moment hmoment
  rcases (r.step_spec e.delivery).2 moment hmoment with hbefore | rfl
  · exact hended x (List.mem_cons_of_mem e hx) moment hbefore
  · exact hfirst x hx

/-- An event that is handled leaves a watch that goes on with the others. -/
theorem Ongoing.step {e : Event} (h : w.Ongoing (e :: events))
    (hfirst : ∀ x ∈ events, e.delivery.1 ≤ x.delivery.1) :
    (w.step pattern e).Ongoing events := by
  obtain ⟨side, d⟩ := e
  cases side with
  | stdout =>
    exact ⟨ended_step_le h.stdout hfirst, fun x hx => h.stderr x (List.mem_cons_of_mem _ hx),
      fun hnone => eq_none_of_judge_eq_none (Option.or_eq_none_iff.mp hnone).2⟩
  | stderr =>
    exact ⟨fun x hx => h.stdout x (List.mem_cons_of_mem _ hx), ended_step_le h.stderr hfirst,
      fun hnone => eq_none_of_judge_eq_none (Option.or_eq_none_iff.mp hnone).2⟩

/-- A delivery of the standard output changes nothing in what the waiting comes to. -/
theorem expected_step_stdout {d : Nat × Delivery} (h : w.Ongoing (⟨.stdout, d⟩ :: events))
    (hout : ∀ x ∈ out, d.1 ≤ x.1) (herr : ∀ x ∈ err, d.1 ≤ x.1) :
    (w.step pattern ⟨.stdout, d⟩).expected pattern out err =
      w.expected pattern (d :: out) err := by
  cases hverdict : w.verdict with
  | some verdict => simp [expected, Watch.step, hverdict]
  | none =>
    have hone := judge_or_judgeAll pattern hout herr
      (h.stderr _ List.mem_cons_self) (h.undecided hverdict)
    simpa [expected, Watch.step, hverdict] using hone

/-- A delivery of the standard error changes nothing in what the waiting comes to. -/
theorem expected_step_stderr {d : Nat × Delivery} (h : w.Ongoing (⟨.stderr, d⟩ :: events))
    (hout : ∀ x ∈ out, d.1 ≤ x.1) (herr : ∀ x ∈ err, d.1 ≤ x.1) :
    (w.step pattern ⟨.stderr, d⟩).expected pattern out err =
      w.expected pattern out (d :: err) := by
  cases hverdict : w.verdict with
  | some verdict => simp [expected, Watch.step, hverdict]
  | none =>
    have hopen : bothEnd w.stderr.ended? w.stdout.ended? = none :=
      (bothEnd_comm _ _).trans (h.undecided hverdict)
    have hone := judge_or_judgeAll pattern herr hout
      (h.stdout _ List.mem_cons_self) hopen
    simp only [expected, Watch.step, hverdict, Option.none_or]
    rw [bothEnd_comm w.stdout.ended?, bothEnd_comm (w.stdout.end? out), judgeAll_comm,
      bothEnd_comm (w.stdout.end? out), judgeAll_comm pattern (w.stdout.passed out)]
    exact hone

/-- In the order of time, the waiting comes to what all lines and the end of both readers come
to. -/
theorem verdict_run (h : Interleaving out err events)
    (horder : events.Pairwise fun a b => a.delivery.1 ≤ b.delivery.1)
    (hongoing : w.Ongoing events) :
    (w.run pattern events).verdict = w.expected pattern out err := by
  induction h generalizing w with
  | nil =>
    change w.verdict = w.verdict.or (judgeAll pattern [] (bothEnd w.stdout.ended? w.stderr.ended?))
    cases hverdict : w.verdict with
    | some verdict => rfl
    | none =>
      rw [hongoing.undecided hverdict]
      rfl
  | @stdout d out err events h ih =>
    obtain ⟨hfirst, horder⟩ := List.pairwise_cons.mp horder
    have hlater {x : Nat × Delivery} (hx : x ∈ out ∨ x ∈ err) : d.1 ≤ x.1 := by
      obtain ⟨e, he, rfl⟩ := h.exists_mem hx
      exact hfirst e he
    rw [← expected_step_stdout hongoing (fun x hx => hlater (.inl hx))
      (fun x hx => hlater (.inr hx))]
    exact ih horder (hongoing.step hfirst)
  | @stderr d out err events h ih =>
    obtain ⟨hfirst, horder⟩ := List.pairwise_cons.mp horder
    have hlater {x : Nat × Delivery} (hx : x ∈ out ∨ x ∈ err) : d.1 ≤ x.1 := by
      obtain ⟨e, he, rfl⟩ := h.exists_mem hx
      exact hfirst e he
    rw [← expected_step_stderr hongoing (fun x hx => hlater (.inl hx))
      (fun x hx => hlater (.inr hx))]
    exact ih horder (hongoing.step hfirst)

end Watch

/-! ## The two streams -/

/-- Streams that are delivered in the order of time are written in it. -/
theorem Interleaving.ordered {out err : Outflow} {events : List Event}
    (h : Interleaving out.deliveries err.deliveries events)
    (horder : events.Pairwise fun a b => a.delivery.1 ≤ b.delivery.1) :
    out.Ordered ∧ err.Ordered := by
  have hmoments : ((events.map (·.delivery)).map (·.1)).Pairwise (· ≤ ·) := by
    rw [List.map_map, List.pairwise_map]
    exact horder
  have hordered {o : Outflow} (ho : o.deliveries.Sublist (events.map (·.delivery))) :
      o.Ordered := by
    rw [Outflow.Ordered, ← o.map_deliveries]
    exact hmoments.sublist (ho.map _)
  exact ⟨hordered h.sublist.1, hordered h.sublist.2⟩

/-- The readers of two streams and the one who waits come to what the lines that are taken and
the ends of the readers come to. -/
theorem Watch.verdict_of_deliveries {pattern : String} {out err : Outflow} {events : List Event}
    (h : Interleaving out.deliveries err.deliveries events)
    (horder : events.Pairwise fun a b => a.delivery.1 ≤ b.delivery.1) :
    (Watch.run pattern {} events).verdict =
      judgeAll pattern (out.readLines ++ err.readLines)
        (bothEnd out.readerEnd? err.readerEnd?) := by
  have hongoing : Ongoing {} events :=
    ⟨by simp [Reader.ended?], by simp [Reader.ended?], fun _ => rfl⟩
  rw [verdict_run h horder hongoing, expected, out.passed_deliveries, err.passed_deliveries,
    out.end?_deliveries, err.end?_deliveries]
  rfl

end GatewayProbe.Server
