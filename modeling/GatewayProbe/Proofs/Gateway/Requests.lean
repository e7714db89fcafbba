import GatewayProbe.Gateway.Body
import GatewayProbe.Proofs.Json.Writing

/-!
# What submissions say

The body of a submission is a record of the program, its arguments and the timeout on the wire,
and it is read back as these. So the bodies of two commands are the same exactly if they have the
same program, the same arguments and the same timeout on the wire.
-/

namespace GatewayProbe.Gateway

open GatewayProbe.Json GatewayProbe.Text

/-- The known names of a submission. -/
abbrev submissionNames : List String := ["command", "args", "timeout"]

/-- The program, the arguments and the seconds that a submission holds, each of which has to be
there. -/
def submission? (v : Value) : Option (String × List String × Int) :=
  match v.fields? submissionNames with
  | some [program, arguments, seconds] => do
    let program ← required? Value.text? program
    let arguments ← required? Value.texts? arguments
    let seconds ← required? (Value.integer? 0 max64) seconds
    return (program, arguments, seconds)
  | _ => none

namespace Command

/-- The program of a command as it is written. -/
def programValue (c : Command) : Value := .string (writtenSpelling c.program)

/-- The arguments of a command as they are written. -/
def argumentsValue (c : Command) : Value :=
  .list (c.arguments.map fun a => .string (writtenSpelling a))

/-- The timeout of a command as it is written. -/
def secondsValue (c : Command) : Value := .number (Nat.toDigits 10 c.wireSeconds)

/-- The value that the body of a submission is. -/
def value (c : Command) : Value :=
  .record [(plain "command", c.programValue), (plain "args", c.argumentsValue),
    (plain "timeout", c.secondsValue)]

private theorem bytesOf_requestText (c : Command) :
    bytesOf c.requestText = encode c.document.line := by
  rw [requestText, Document.compact, bytesOf, String.toList_ofList]

/-- The names are spelled by their own bytes. -/
theorem writtenSpelling_names : ∀ name ∈ submissionNames, writtenSpelling name = plain name := by
  have hlow : ∀ name ∈ submissionNames, ∀ c ∈ name.toList, 0x20 ≤ c.toNat := by
    simp [submissionNames]
  intro name hname
  apply writtenSpelling_eq_plain
  exact hlow name hname

/-- The body of a submission is a written form of its value. -/
theorem written_requestText (c : Command) : c.value.Written (bytesOf c.requestText) := by
  have hnames := writtenSpelling_names
  simp only [List.forall_mem_cons] at hnames
  obtain ⟨hcommand, hargs, htimeout, -⟩ := hnames
  have hitems : List.Forall₂ Document.Writes (c.arguments.map .text)
      (c.arguments.map fun a => .string (writtenSpelling a)) := by
    rw [List.forall₂_map_left_iff, List.forall₂_map_right_iff]
    exact List.forall₂_same.mpr fun a _ => writes_text a
  rw [bytesOf_requestText]
  exact writes_record
    (.cons ⟨hcommand.symm, writes_text c.program⟩
      (.cons ⟨hargs.symm, writes_list hitems⟩
        (.cons ⟨htimeout.symm, writes_count c.wireSeconds⟩ .nil)))

private theorem parse_requestText (c : Command) : parse (bytesOf c.requestText) = some c.value :=
  parse_eq_some_iff.mpr c.written_requestText

private theorem text?_writtenSpelling (s : String) :
    (Value.string (writtenSpelling s)).text? = some s :=
  text?_eq_some_iff.mpr (.mk (spells_writtenSpelling s))

private theorem texts?_argumentsValue (c : Command) :
    c.argumentsValue.texts? = some c.arguments := by
  rw [argumentsValue, Value.texts?, mapM_eq_some_iff, List.forall₂_map_left_iff]
  exact List.forall₂_same.mpr fun a _ => text?_writtenSpelling a

private theorem integer?_secondsValue (c : Command) (h : c.wireSeconds ≤ max64) :
    c.secondsValue.integer? 0 max64 = some (c.wireSeconds : Int) := by
  rw [secondsValue, integer?_eq_some_iff (spellsNumber_toDigits _) (by decide) (by decide)
    (by decide) (by decide), scalar_natCast]
  exact ⟨Int.natCast_nonneg _, by exact_mod_cast h, rfl⟩

private theorem fields?_value (c : Command) :
    c.value.fields? submissionNames =
      some [some c.programValue, some c.argumentsValue, some c.secondsValue] := by
  simp [value, Value.fields?, namedMembers?, valuesOf, atMostOne?]

/-- The value of a submission is read back as what is submitted. -/
theorem submission?_value (c : Command) (h : c.wireSeconds ≤ max64) :
    submission? c.value = some (c.program, c.arguments, (c.wireSeconds : Int)) := by
  have hprogram : c.programValue.text? = some c.program := text?_writtenSpelling c.program
  simp [submission?, fields?_value, required?, hprogram, texts?_argumentsValue,
    integer?_secondsValue c h]

/-- Two commands with one value agree on what is submitted. -/
theorem eq_of_value_eq {c d : Command} (h : c.value = d.value) :
    c.program = d.program ∧ c.arguments = d.arguments ∧ c.wireSeconds = d.wireSeconds := by
  have hfields := congrArg (Value.fields? submissionNames) h
  simp only [fields?_value, Option.some.injEq, List.cons.injEq, and_true] at hfields
  obtain ⟨hprogram, harguments, hseconds⟩ := hfields
  refine ⟨?_, ?_, ?_⟩
  · have htext := congrArg Value.text? hprogram
    simpa [programValue, text?_writtenSpelling] using htext
  · have htexts := congrArg Value.texts? harguments
    simpa [texts?_argumentsValue] using htexts
  · have hdigits := congrArg (Nat.ofDigitChars 10 · 0) (Value.number.inj hseconds)
    simpa using hdigits

/-- Two commands have one request text exactly if they agree on what is submitted. -/
theorem requestText_eq_iff (c d : Command) :
    c.requestText = d.requestText ↔
      c.program = d.program ∧ c.arguments = d.arguments ∧ c.wireSeconds = d.wireSeconds := by
  constructor
  · intro h
    have hparse := c.parse_requestText
    rw [h, d.parse_requestText] at hparse
    exact eq_of_value_eq (Option.some.inj hparse).symm
  · rintro ⟨hprogram, harguments, hseconds⟩
    rw [requestText, requestText, document, document, hprogram, harguments, hseconds]

private theorem wireSeconds_eq (c : Command) : c.wireSeconds = max 1 c.timeout.wholeSeconds :=
  Nat.max_comm _ _

/-- A submission arrives as it is sent. Its body is one record with the three names in their order
and nothing else; it is read back as the program, the arguments and the whole seconds of the
timeout, or one second; and no other command has the same body unless it agrees on these. -/
theorem requestText_roundTrip (c : Command) :
    (∃ program arguments seconds : Value,
      (Value.record [(plain "command", program), (plain "args", arguments),
          (plain "timeout", seconds)]).Written (bytesOf c.requestText) ∧
        program.text? = some c.program ∧ arguments.texts? = some c.arguments ∧
        seconds = .number (Nat.toDigits 10 (max 1 c.timeout.wholeSeconds))) ∧
      (c.timeout.wholeSeconds ≤ max64 →
        (parse (bytesOf c.requestText)).bind submission? =
          some (c.program, c.arguments, ((max 1 c.timeout.wholeSeconds : Nat) : Int))) ∧
      ∀ d : Command, c.requestText = d.requestText ↔
        c.program = d.program ∧ c.arguments = d.arguments ∧
          max 1 c.timeout.wholeSeconds = max 1 d.timeout.wholeSeconds := by
  simp only [← wireSeconds_eq]
  refine ⟨?_, ?_, c.requestText_eq_iff⟩
  · exact ⟨_, _, _, c.written_requestText, text?_writtenSpelling c.program,
      c.texts?_argumentsValue, rfl⟩
  · intro h
    have hseconds : c.wireSeconds ≤ max64 := max_le h (by decide)
    rw [parse_requestText, Option.bind_some, submission?_value c hseconds]

/-- A command with a quote, a backslash, a control character, characters of several bytes and an
empty argument. -/
def sampleCommand : Command :=
  ⟨"say \"hi\"", ["", "a\\b\n", String.ofList ['é', '😀', Char.ofNat 1]], ⟨1999999999⟩⟩

/-- A command with quotes, a line break and characters outside of ASCII is read back from its
request. -/
theorem requestText_roundTrip_sample :
    sampleCommand.timeout.wholeSeconds ≤ max64 ∧
      (parse (bytesOf sampleCommand.requestText)).bind submission? =
        some ("say \"hi\"",
          ["", "a\\b\n", String.ofList ['é', '😀', Char.ofNat 1]], 1) :=
  have htime : sampleCommand.timeout.wholeSeconds ≤ max64 := by decide
  ⟨htime, (requestText_roundTrip sampleCommand).2.1 htime⟩

end Command

end GatewayProbe.Gateway
