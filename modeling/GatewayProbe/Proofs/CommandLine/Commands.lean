import GatewayProbe.CommandLine.Keys
import GatewayProbe.Proofs.Text.Words

/-!
# Commands as texts

A command on the command line is its words: the first one is the program and the others are its
arguments. It does not matter which blanks stand between the words and how many, and quotes do not
keep words together. A text without words is the only one that is no command.
-/

namespace GatewayProbe.CommandLine

open GatewayProbe.Settings GatewayProbe.Text

/-- A command is read from the words of its text. -/
theorem readCommand_of_words {s program : String} {arguments : List String}
    (h : wordsOf s = program :: arguments) : readCommand s = .ok ⟨program, arguments, none⟩ := by
  rw [readCommand, CommandText.parse?, h]
  rfl

/-- What is read is the words of the text and has no timeout of its own. -/
theorem readCommand_eq_ok_iff {s : String} {c : CommandText} :
    readCommand s = .ok c ↔ wordsOf s = c.program :: c.arguments ∧ c.timeout = none := by
  constructor
  · intro h
    cases hwords : wordsOf s with
    | nil => simp [readCommand, CommandText.parse?, hwords] at h
    | cons program arguments =>
      rw [readCommand_of_words hwords] at h
      obtain rfl := Except.ok.inj h
      exact ⟨rfl, rfl⟩
  · rintro ⟨hwords, htimeout⟩
    rw [readCommand_of_words hwords, ← htimeout]

/-- A text without words is refused, and for nothing else. -/
theorem readCommand_eq_error_iff {s : String} {fault : ValueFault} :
    readCommand s = .error fault ↔ isAllBlank s = true ∧ fault = .invalid .emptyCommand := by
  rw [← wordsOf_eq_nil_iff]
  cases hwords : wordsOf s with
  | nil => simp [readCommand, CommandText.parse?, hwords, eq_comm]
  | cons program arguments => simp [readCommand_of_words hwords]

/-- A command is read as exactly the words that its text was put together from, whatever blanks
stand between and around them, and is handed on with them unchanged. What is read from any text is
words, and these joined with single blanks are read as the same command. The texts that are refused
are those of blanks alone. -/
theorem readCommand_words :
    (∀ {before first after : String} {pieces : List (String × String)},
      isAllBlank before = true → IsWord first.toList →
      (∀ piece ∈ pieces, IsGap piece.1.toList ∧ IsWord piece.2.toList) →
      isAllBlank after = true →
      ∃ c, readCommand (spaced before first pieces after) = .ok c ∧
        c = ⟨first, pieces.map (·.2), none⟩ ∧
        ∀ timeout, c.command timeout = ⟨first, pieces.map (·.2), timeout⟩) ∧
    (∀ {s : String} {c : CommandText}, readCommand s = .ok c →
      (∀ word ∈ c.program :: c.arguments, IsWord word.toList) ∧ c.timeout = none ∧
        readCommand (" ".intercalate (c.program :: c.arguments)) = .ok c) ∧
    ∀ {s : String} {fault : ValueFault}, readCommand s = .error fault ↔
      isAllBlank s = true ∧ fault = .invalid .emptyCommand := by
  refine ⟨?_, ?_, readCommand_eq_error_iff⟩
  · intro before first after pieces hbefore hfirst hpieces hafter
    have hwords := wordsOf_spaced hbefore hfirst hpieces hafter
    exact ⟨_, readCommand_of_words hwords, rfl, fun _ => rfl⟩
  · intro s c h
    obtain ⟨hwords, htimeout⟩ := readCommand_eq_ok_iff.mp h
    have hall : ∀ word ∈ c.program :: c.arguments, IsWord word.toList :=
      fun word hword => isWord_of_mem_wordsOf (hwords ▸ hword)
    exact ⟨hall, htimeout, readCommand_eq_ok_iff.mpr ⟨wordsOf_unwords hall, htimeout⟩⟩

/-- A program with arguments that look quoted, with blanks of several kinds. -/
theorem readCommand_words_quoted :
    let pieces := [(" ", "-c"), ("\u3000 ", "'echo"), ("\t", "hi'")]
    let c : CommandText := ⟨"sh", ["-c", "'echo", "hi'"], none⟩
    isAllBlank "\n" = true ∧ IsWord "sh".toList ∧
      (∀ piece ∈ pieces, IsGap piece.1.toList ∧ IsWord piece.2.toList) ∧
      isAllBlank "\u00a0" = true ∧ readCommand (spaced "\n" "sh" pieces "\u00a0") = .ok c ∧
      readCommand "sh -c 'echo hi'" = .ok c ∧
      readCommand "\u2003\t" = .error (.invalid .emptyCommand) := by
  intro pieces c
  have hbefore : isAllBlank "\n" = true := by decide
  have hfirst : IsWord "sh".toList := by simp [IsWord, isBlank]
  have hpieces : ∀ piece ∈ pieces, IsGap piece.1.toList ∧ IsWord piece.2.toList := by
    simp [pieces, IsGap, IsWord, allBlank, isBlank]
  have hafter : isAllBlank "\u00a0" = true := by decide
  obtain ⟨hjoined, hread, hrefused⟩ := readCommand_words
  obtain ⟨_, hc, rfl, -⟩ := hjoined hbefore hfirst hpieces hafter
  exact ⟨hbefore, hfirst, hpieces, hafter, hc, (hread hc).2.2, hrefused.mpr ⟨by decide, rfl⟩⟩

end GatewayProbe.CommandLine
