import GatewayProbe.Proofs.Server.Watch

/-!
# When a server is ready

A server is ready when a line that its readers take holds the pattern by the deadline, it has
exited when there is no such line and both readers have ended by then, and in any other case its
time has expired. If all that it writes is text, the readers take every line and end with the
streams. Otherwise a reader ends at the first line that is no text: the lines after it are not
seen, and the end of the reader is taken for that of the stream.
-/

namespace GatewayProbe.Server

open GatewayProbe.Text

/-! ## What decides -/

/-- A line with the bytes of a pattern is there by the deadline. -/
def ShownBy (deadline : Nat) (pattern : String) (lines : List Line) : Prop :=
  ∃ l ∈ lines, bytesOf pattern <:+: l.bytes ∧ l.moment ≤ deadline

/-- Two things have happened by the deadline. -/
def BothBy (deadline : Nat) (a b : Option Nat) : Prop :=
  ∃ x ∈ a, ∃ y ∈ b, x ≤ deadline ∧ y ≤ deadline

/-- The result of waiting by what has been shown and by whether the readers are silent. -/
structure Settled (result : Except Fault Unit) (pattern : String) (timeout : Duration)
    (shown silent : Prop) : Prop where
  ready : result = .ok () ↔ shown
  exited : result = .error (.exitedBeforeReady pattern) ↔ ¬ shown ∧ silent
  expired : result = .error (.startupTimeout pattern timeout) ↔ ¬ shown ∧ ¬ silent

/-- The result of waiting by what it has come to. -/
def outcome (pattern : String) (timeout : Duration) (deadline : Nat) :
    Option Verdict → Except Fault Unit
  | some (.ready moment) =>
    if moment ≤ deadline then .ok () else .error (.startupTimeout pattern timeout)
  | some (.silent moment) =>
    if moment ≤ deadline then .error (.exitedBeforeReady pattern)
    else .error (.startupTimeout pattern timeout)
  | none => .error (.startupTimeout pattern timeout)

namespace Settled

variable {pattern : String} {timeout : Duration} {shown silent : Prop}

private theorem of_shown (h : shown) : Settled (.ok ()) pattern timeout shown silent :=
  ⟨by simp [h], by simp [h], by simp [h]⟩

private theorem of_silent (h : ¬ shown) (hsilent : silent) :
    Settled (.error (.exitedBeforeReady pattern)) pattern timeout shown silent :=
  ⟨by simp [h], by simp [h, hsilent], by simp [h, hsilent]⟩

private theorem of_neither (h : ¬ shown) (hsilent : ¬ silent) :
    Settled (.error (.startupTimeout pattern timeout)) pattern timeout shown silent :=
  ⟨by simp [h], by simp [h, hsilent], by simp [h, hsilent]⟩

end Settled

/-- Two things have happened by the deadline when the later one has. -/
theorem bothBy_iff {deadline : Nat} {a b : Option Nat} :
    BothBy deadline a b ↔ ∃ last ∈ bothEnd a b, last ≤ deadline := by
  constructor
  · rintro ⟨x, hx, y, hy, hxd, hyd⟩
    rw [Option.mem_def] at hx hy
    exact ⟨max x y, by rw [hx, hy]; rfl, Nat.max_le.mpr ⟨hxd, hyd⟩⟩
  · rintro ⟨last, hlast, hmoment⟩
    obtain ⟨x, hx, hmax⟩ := Option.bind_eq_some_iff.mp hlast
    obtain ⟨y, hy, rfl⟩ := Option.map_eq_some_iff.mp hmax
    exact ⟨x, hx, y, hy, Nat.max_le.mp hmoment⟩

/-- Either the first line that holds the pattern decides, or no line holds it and the end of both
readers does. -/
theorem judgeAll_cases (pattern : String) (lines : List Line) (ends : Option Nat) :
    (∃ l ∈ lines, l.shows pattern = true ∧
        (∀ x ∈ lines, x.shows pattern = true → l.moment ≤ x.moment) ∧
        judgeAll pattern lines ends = some (.ready l.moment)) ∨
      (∀ x ∈ lines, ¬ x.shows pattern = true) ∧ judgeAll pattern lines ends = ends.map .silent := by
  cases hmin : ((lines.filter (·.shows pattern)).map (·.moment)).min? with
  | none =>
    have hnone : ∀ x ∈ lines, ¬ x.shows pattern = true := by
      rw [List.min?_eq_none_iff, List.map_eq_nil_iff] at hmin
      exact List.filter_eq_nil_iff.mp hmin
    exact .inr ⟨hnone, judgeAll_of_forall_not hnone⟩
  | some moment =>
    obtain ⟨hmem, hleast⟩ := List.min?_eq_some_iff.mp hmin
    obtain ⟨l, hl, rfl⟩ := List.mem_map.mp hmem
    obtain ⟨hl, hshows⟩ := List.mem_filter.mp hl
    refine .inl ⟨l, hl, hshows, fun x hx hpattern => ?_, by rw [judgeAll, hmin]; rfl⟩
    exact hleast _ (List.mem_map_of_mem (List.mem_filter.mpr ⟨hx, hpattern⟩))

/-- The lines and the ends of the readers decide, if no line comes after the readers have
ended. -/
theorem settled_outcome {pattern : String} {timeout : Duration} {deadline : Nat}
    {lines : List Line} {a b : Option Nat} (htext : ∀ l ∈ lines, Outflow.isText l = true)
    (hends : ∀ last ∈ bothEnd a b, ∀ l ∈ lines, l.moment ≤ last) :
    Settled (outcome pattern timeout deadline (judgeAll pattern lines (bothEnd a b)))
      pattern timeout (ShownBy deadline pattern lines) (BothBy deadline a b) := by
  rw [bothBy_iff]
  rcases judgeAll_cases pattern lines (bothEnd a b) with
    ⟨l, hl, hshows, hleast, hjudge⟩ | ⟨hnone, hjudge⟩
  · rw [hjudge, outcome]
    by_cases hby : l.moment ≤ deadline
    · rw [if_pos hby]
      exact .of_shown ⟨l, hl, (Line.shows_iff (htext l hl)).mp hshows, hby⟩
    · rw [if_neg hby]
      refine .of_neither ?_ ?_
      · rintro ⟨x, hx, hpattern, hmoment⟩
        have := hleast x hx ((Line.shows_iff (htext x hx)).mpr hpattern)
        omega
      · rintro ⟨last, hlast, hmoment⟩
        have := hends last hlast l hl
        omega
  · have hshown : ¬ ShownBy deadline pattern lines := by
      rintro ⟨x, hx, hpattern, -⟩
      exact hnone x hx ((Line.shows_iff (htext x hx)).mpr hpattern)
    rw [hjudge]
    cases hboth : bothEnd a b with
    | none => exact .of_neither hshown (by simp)
    | some last =>
      rw [Option.map_some, outcome]
      by_cases hby : last ≤ deadline
      · rw [if_pos hby]
        exact .of_silent hshown ⟨last, rfl, hby⟩
      · rw [if_neg hby]
        exact .of_neither hshown (by simpa using hby)

namespace Course

variable {c : Course} {events : List Event}

private theorem silence?_eq (c : Course) :
    c.silence? = bothEnd c.stdout.readerEnd? c.stderr.readerEnd? := by
  rw [silence?, bothEnd]
  cases c.stdout.readerEnd? <;> cases c.stderr.readerEnd? <;> rfl

/-- The result of waiting is what the lines and the ends of the readers come to. -/
theorem awaitReady_eq (c : Course) (pattern : String) (timeout : Duration) (now : Nat) :
    (c.awaitReady pattern timeout now).1 =
      outcome pattern timeout (Clock.after now timeout)
        (judgeAll pattern c.readLines (bothEnd c.stdout.readerEnd? c.stderr.readerEnd?)) := by
  rw [← silence?_eq, awaitReady, sightings, judgeAll]
  cases ((c.readLines.filter (·.shows pattern)).map (·.moment)).min? with
  | some moment =>
    simp only [Option.map_some, Option.some_or, outcome]
    split <;> rfl
  | none =>
    cases c.silence? with
    | some moment =>
      simp only [Option.map_some, Option.map_none, Option.none_or, outcome]
      split <;> rfl
    | none => rfl

/-- Readers that have ended have passed on all their lines before. -/
theorem le_of_mem_readLines (hout : c.stdout.Ordered) (herr : c.stderr.Ordered) :
    ∀ last ∈ bothEnd c.stdout.readerEnd? c.stderr.readerEnd?, ∀ l ∈ c.readLines,
      l.moment ≤ last := by
  intro last hlast l hl
  obtain ⟨a, ha, hmax⟩ := Option.bind_eq_some_iff.mp hlast
  obtain ⟨b, hb, rfl⟩ := Option.map_eq_some_iff.mp hmax
  rcases List.mem_append.mp hl with hl | hl
  · exact (hout.le_readerEnd hl ha).trans (Nat.le_max_left a b)
  · exact (herr.le_readerEnd hl hb).trans (Nat.le_max_right a b)

/-- All lines that are read are texts. -/
theorem isText_of_mem_readLines {l : Line} (hl : l ∈ c.readLines) : Outflow.isText l = true :=
  (List.mem_append.mp hl).elim Outflow.isText_of_mem_readLines Outflow.isText_of_mem_readLines

/-- A course whose streams are text goes on in the same way while they are read. -/
theorem whileRead_eq_self (hout : c.stdout.ReadToEnd) (herr : c.stderr.ReadToEnd) :
    c.whileRead = c := by
  have hnone : c.brokenAt? = none := by
    rw [brokenAt?, Outflow.brokenAt?_eq_none hout.text, Outflow.brokenAt?_eq_none herr.text]
    rfl
  rw [whileRead, hnone]

/-- Whatever the streams deliver and in which order, waiting for the two readers step by step
gives the result. It is settled by the lines that the readers take and by their ends. Each reader
takes all lines and ends with its stream, or ends at the first line that is no text. So if every
line is text, the result is settled by all lines of the streams and by their closings. -/
theorem awaitReady_settled (h : Interleaving c.stdout.deliveries c.stderr.deliveries events)
    (horder : events.Pairwise fun a b => a.delivery.1 ≤ b.delivery.1) (pattern : String)
    (timeout : Duration) (now : Nat) :
    let deadline := Clock.after now timeout
    let result := (c.awaitReady pattern timeout now).1
    result = outcome pattern timeout deadline ((Watch.run pattern {} events).verdict) ∧
      Settled result pattern timeout (ShownBy deadline pattern c.readLines)
        (BothBy deadline c.stdout.readerEnd? c.stderr.readerEnd?) ∧
      (∀ o ∈ [c.stdout, c.stderr], o.ReadToEnd ∨ ∃ l, o.ReadUpTo l) ∧
      ((∀ l ∈ c.stdout.lines ++ c.stderr.lines, Outflow.isText l = true) →
        Settled result pattern timeout (ShownBy deadline pattern (c.stdout.lines ++ c.stderr.lines))
            (BothBy deadline c.stdout.closed c.stderr.closed) ∧
          c.whileRead = c) := by
  have hordered := h.ordered horder
  have hsettled : Settled _ pattern timeout (ShownBy (Clock.after now timeout) pattern c.readLines)
      (BothBy (Clock.after now timeout) c.stdout.readerEnd? c.stderr.readerEnd?) :=
    awaitReady_eq c pattern timeout now ▸ settled_outcome (fun l => isText_of_mem_readLines)
      (le_of_mem_readLines hordered.1 hordered.2)
  refine ⟨?_, hsettled, fun o _ => o.read_cases, fun htext => ?_⟩
  · rw [Watch.verdict_of_deliveries h horder]
    exact awaitReady_eq c pattern timeout now
  · have hout := Outflow.readToEnd_of_isText fun l hl => htext l (List.mem_append_left _ hl)
    have herr := Outflow.readToEnd_of_isText fun l hl => htext l (List.mem_append_right _ hl)
    rw [readLines, hout.lines, herr.lines, hout.ended, herr.ended] at hsettled
    exact ⟨hsettled, whileRead_eq_self hout herr⟩

/-- A server that writes a line of text to one stream and something else to the other one. -/
def mixed : Course :=
  { stdout := ⟨[(2, bytesOf "up\n")], none⟩, stderr := ⟨[(1, [0xFF, 0x0A])], none⟩ }

/-- A line of text is seen whatever the other stream holds. -/
theorem awaitReady_settled_mixed : (mixed.awaitReady "up" ⟨5⟩ 0).1 = .ok () := by
  have hevents : Interleaving mixed.stdout.deliveries mixed.stderr.deliveries
      [⟨.stderr, 1, .byte 0xFF⟩, ⟨.stderr, 1, .byte 0x0A⟩, ⟨.stdout, 2, .byte 0x75⟩,
        ⟨.stdout, 2, .byte 0x70⟩, ⟨.stdout, 2, .byte 0x0A⟩] :=
    .stderr (.stderr (.stdout (.stdout (.stdout .nil))))
  have hsettled := (awaitReady_settled hevents (by decide) "up" ⟨5⟩ 0).2.1
  exact hsettled.ready.mpr ⟨⟨2, bytesOf "up"⟩, by decide +kernel, List.infix_rfl, by decide⟩

/-- A server that writes a line after bytes that are no text, with another stream like that. -/
def muted (stderr : Outflow) : Course :=
  { stdout := ⟨[(1, [0xFF, 0x0A]), (2, bytesOf "up\n")], none⟩, stderr }

/-- A line after bytes that are no text is not seen in time. If the other stream breaks off as
well, the server is taken for one that has exited, though no stream is closed. -/
theorem awaitReady_unseen :
    ShownBy 5 "up" (muted {}).stdout.lines ∧
      ((muted {}).awaitReady "up" ⟨5⟩ 0).1 = .error (.startupTimeout "up" ⟨5⟩) ∧
      ((muted ⟨[(1, [0xFF, 0x0A])], none⟩).awaitReady "up" ⟨5⟩ 0).1 =
        .error (.exitedBeforeReady "up") := by
  refine ⟨⟨⟨2, bytesOf "up"⟩, ?_, List.infix_rfl, ?_⟩, ?_, ?_⟩ <;> decide +kernel

end Course

end GatewayProbe.Server
