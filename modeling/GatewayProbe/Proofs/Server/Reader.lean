import GatewayProbe.Proofs.Server.Lines

/-!
# The reader of a stream

A reader is given what its stream delivers, byte by byte and then the closing, and passes the
lines on as they are complete. It ends with the closing or at the first line that is no text. Step
by step it passes on the lines that are taken of the stream, each one at the moment of its last
delivery, and ends when the reader of the stream does.
-/

namespace GatewayProbe.Server

/-- What a stream delivers to its reader. -/
inductive Delivery where
  | byte (b : UInt8)
  | closing
  deriving DecidableEq, Repr

/-- Bytes and a closing as they are delivered. -/
def deliveriesOf (bytes : List (Nat × UInt8)) (closed : Option Nat) : List (Nat × Delivery) :=
  (bytes.map fun b => (b.1, .byte b.2)) ++ closed.toList.map fun moment => (moment, .closing)

/-- What a stream delivers, each thing with its moment. -/
def Outflow.deliveries (o : Outflow) : List (Nat × Delivery) := deliveriesOf o.bytes o.closed

/-- A reader. In the middle of a line it has the bytes of that so far, in reverse. -/
inductive Reader where
  | reading (seen : List UInt8)
  | ended (moment : Nat)
  deriving DecidableEq, Repr

namespace Reader

/-- When a reader has ended. -/
def ended? : Reader → Option Nat
  | .reading _ => none
  | .ended moment => some moment

/-- Pass a line on and go on as `next`, or end at a line that is no text. -/
def pass (l : Line) (next : Reader) : Reader × Option Line :=
  if Outflow.isText l then (next, some l) else (.ended l.moment, none)

/-- What a reader does with a delivery: how it goes on, and the line that it passes on, if any. -/
def step : Reader → Nat × Delivery → Reader × Option Line
  | .ended moment, _ => (.ended moment, none)
  | .reading seen, (moment, .byte b) =>
    if b = Outflow.lineEnd then pass ⟨moment, Outflow.endedLine seen⟩ (.reading [])
    else (.reading (b :: seen), none)
  | .reading seen, (moment, .closing) =>
    if seen.isEmpty then (.ended moment, none)
    else pass ⟨moment, seen.reverse⟩ (.ended moment)

/-- The lines that a reader passes on. -/
def passed (r : Reader) : List (Nat × Delivery) → List Line
  | [] => []
  | d :: rest => (r.step d).2.toList ++ passed (r.step d).1 rest

/-- When a reader has ended after all deliveries, if it has. -/
def end? (r : Reader) : List (Nat × Delivery) → Option Nat
  | [] => r.ended?
  | d :: rest => end? (r.step d).1 rest

/-- A reader that has ended passes nothing on. -/
@[simp] theorem passed_ended (moment : Nat) (rest : List (Nat × Delivery)) :
    (ended moment).passed rest = [] := by
  induction rest with
  | nil => rfl
  | cons d rest ih => exact ih

@[simp] theorem end?_ended (moment : Nat) (rest : List (Nat × Delivery)) :
    (ended moment).end? rest = some moment := by
  induction rest with
  | nil => rfl
  | cons d rest ih => exact ih

/-- A reader passes on the lines up to the first one that is no text, and ends with that one or
with the closing. -/
structure Reads (r : Reader) (deliveries : List (Nat × Delivery)) (lines : List Line)
    (closed : Option Nat) : Prop where
  passed : r.passed deliveries = lines.takeWhile Outflow.isText
  ended : r.end? deliveries =
    ((lines.dropWhile Outflow.isText).head?.map (·.moment)).or closed

/-- Passing on a line before others. -/
theorem reads_cons {r : Reader} {d : Nat × Delivery} {rest : List (Nat × Delivery)} {l : Line}
    {next : Reader} {lines : List Line} {closed : Option Nat} (hstep : r.step d = pass l next)
    (h : next.Reads rest lines closed) : r.Reads (d :: rest) (l :: lines) closed := by
  cases htext : Outflow.isText l with
  | true =>
    have hpass : r.step d = (next, some l) := hstep.trans (if_pos htext)
    constructor
    · rw [Reader.passed, hpass, h.passed, List.takeWhile_cons_of_pos htext]
      rfl
    · rw [end?, hpass, h.ended, List.dropWhile_cons_of_pos htext]
  | false =>
    have hfault : ¬ Outflow.isText l = true := by simp [htext]
    have hpass : r.step d = (.ended l.moment, none) := hstep.trans (if_neg hfault)
    constructor
    · rw [Reader.passed, hpass, List.takeWhile_cons_of_neg hfault, passed_ended]
      rfl
    · rw [end?, hpass, List.dropWhile_cons_of_neg hfault, end?_ended]
      rfl

/-- Going on without passing on a line. -/
theorem reads_of_step {r next : Reader} {d : Nat × Delivery} {rest : List (Nat × Delivery)}
    {lines : List Line} {closed : Option Nat} (hstep : r.step d = (next, none))
    (h : next.Reads rest lines closed) : r.Reads (d :: rest) lines closed := by
  constructor
  · rw [Reader.passed, hstep]
    exact h.passed
  · rw [end?, hstep]
    exact h.ended

end Reader

namespace Outflow

open Reader

/-- Deliveries come at the moments of the outflow. -/
theorem map_deliveries (o : Outflow) : o.deliveries.map (·.1) = o.moments := by
  simp [deliveries, deliveriesOf, moments, Function.comp_def]

/-- The lines of the bytes and the closing that follow some bytes of a line. -/
def linesAfter (seen : List UInt8) (bytes : List (Nat × UInt8)) (closed : Option Nat) :
    List Line :=
  (splitLines seen bytes).1 ++ lastLine closed (splitLines seen bytes).2

private theorem linesAfter_cons (seen : List UInt8) (moment : Nat) (b : UInt8)
    (rest : List (Nat × UInt8)) (closed : Option Nat) :
    linesAfter seen ((moment, b) :: rest) closed =
      if b = lineEnd then ⟨moment, endedLine seen⟩ :: linesAfter [] rest closed
      else linesAfter (b :: seen) rest closed := by
  rw [linesAfter, splitLines]
  split <;> rfl

/-- A reader that has some bytes of a line reads the lines that begin with them. -/
theorem reads_reading (seen : List UInt8) (bytes : List (Nat × UInt8)) (closed : Option Nat) :
    (reading seen).Reads (deliveriesOf bytes closed) (linesAfter seen bytes closed) closed := by
  induction bytes generalizing seen with
  | nil =>
    have hlines : linesAfter seen [] closed = lastLine closed seen.reverse := rfl
    rw [hlines, lastLine, List.isEmpty_reverse]
    cases closed with
    | none => exact ⟨by simp [deliveriesOf, Reader.passed], by simp [deliveriesOf, end?, ended?]⟩
    | some moment =>
      by_cases hempty : seen.isEmpty = true
      · rw [if_pos hempty]
        exact reads_of_step (if_pos hempty) ⟨rfl, rfl⟩
      · rw [if_neg hempty]
        exact reads_cons (if_neg hempty) ⟨rfl, rfl⟩
  | cons b rest ih =>
    obtain ⟨moment, b⟩ := b
    rw [linesAfter_cons]
    by_cases hend : b = lineEnd
    · rw [if_pos hend]
      exact reads_cons (if_pos hend) (ih [])
    · rw [if_neg hend]
      exact reads_of_step (if_neg hend) (ih (b :: seen))

/-- A reader of a stream passes on the lines that are taken. -/
theorem passed_deliveries (o : Outflow) : (reading []).passed o.deliveries = o.readLines := by
  rw [deliveries, (reads_reading [] o.bytes o.closed).passed, readLines, lines_eq, linesAfter]

/-- A reader of a stream ends when the lines that are taken have an end. -/
theorem end?_deliveries (o : Outflow) : (reading []).end? o.deliveries = o.readerEnd? := by
  rw [deliveries, (reads_reading [] o.bytes o.closed).ended, readerEnd?, lines_eq, ← linesAfter]
  cases (linesAfter [] o.bytes o.closed).dropWhile isText <;> rfl

end Outflow

/-! ## The moments of a reader -/

namespace Reader

/-- A reader that tells its end has ended then. -/
theorem eq_ended_of_ended? {r : Reader} {moment : Nat} (h : r.ended? = some moment) :
    r = .ended moment := by
  cases r with
  | reading seen => cases h
  | ended last => rw [Option.some.inj h]

/-- Only the line itself is passed on, and a reader ends with it unless it goes on to an end. -/
theorem pass_spec (l : Line) (next : Reader) :
    (∀ x ∈ (pass l next).2, x = l) ∧
      ∀ moment ∈ (pass l next).1.ended?, next.ended? = some moment ∨ moment = l.moment := by
  rw [pass]
  split
  · exact ⟨fun x hx => (Option.some.inj hx).symm, fun moment hm => .inl hm⟩
  · exact ⟨fun x hx => (nomatch hx), fun moment hm => .inr (Option.some.inj hm).symm⟩

/-- What is passed on has the moment of the delivery, and so has the end of a reader that ends. -/
theorem step_spec (r : Reader) (d : Nat × Delivery) :
    (∀ l ∈ (r.step d).2, l.moment = d.1) ∧
      ∀ moment ∈ (r.step d).1.ended?, r.ended? = some moment ∨ moment = d.1 := by
  obtain ⟨now, delivery⟩ := d
  cases r with
  | ended last => exact ⟨fun l hl => (nomatch hl), fun moment hm => .inl hm⟩
  | reading seen =>
    cases delivery with
    | byte b =>
      rw [step]
      split
      · obtain ⟨hline, hend⟩ := pass_spec ⟨now, Outflow.endedLine seen⟩ (.reading [])
        exact ⟨fun l hl => congrArg Line.moment (hline l hl),
          fun moment hm => .inr ((hend moment hm).elim nofun id)⟩
      · exact ⟨fun l hl => (nomatch hl), fun moment hm => (nomatch hm)⟩
    | closing =>
      rw [step]
      split
      · exact ⟨fun l hl => (nomatch hl), fun moment hm => .inr (Option.some.inj hm).symm⟩
      · obtain ⟨hline, hend⟩ := pass_spec ⟨now, seen.reverse⟩ (.ended now)
        exact ⟨fun l hl => congrArg Line.moment (hline l hl),
          fun moment hm => .inr ((hend moment hm).elim (fun h => (Option.some.inj h).symm) id)⟩

/-- The lines that are passed on have the moments of deliveries. -/
theorem exists_of_mem_passed {r : Reader} {deliveries : List (Nat × Delivery)} {l : Line}
    (h : l ∈ r.passed deliveries) : ∃ d ∈ deliveries, l.moment = d.1 := by
  induction deliveries generalizing r with
  | nil => cases h
  | cons d rest ih =>
    rw [passed, List.mem_append, Option.mem_toList] at h
    rcases h with h | h
    · exact ⟨d, List.mem_cons_self, (step_spec r d).1 l h⟩
    · obtain ⟨e, he, hl⟩ := ih h
      exact ⟨e, List.mem_cons_of_mem d he, hl⟩

end Reader

end GatewayProbe.Server
