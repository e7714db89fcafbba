import GatewayProbe.Text.Column
import GatewayProbe.Proofs.Text.Joining

/-!
# Words that are found again

Splitting at a blank splits the words, and blanks around words change nothing. So words that are
put together with blanks between them are found again, each of them whole, whatever the blanks
and however many of them.
-/

namespace GatewayProbe.Text

/-- A word is not empty and holds no blank. -/
def IsWord (w : List Char) : Prop := w ≠ [] ∧ ∀ c ∈ w, isBlank c = false

/-- A gap between words is not empty and holds nothing but blanks. -/
def IsGap (gap : List Char) : Prop := gap ≠ [] ∧ allBlank gap = true

/-- The pieces on both sides of a character of the class are split apart. -/
theorem splitWhere_append_cons {p : Char → Bool} {sep : Char} (hsep : p sep = true)
    (s rest : List Char) :
    splitWhere p (s ++ sep :: rest) = splitWhere p s ++ splitWhere p rest := by
  induction s with
  | nil => simp [splitWhere, hsep]
  | cons c s ih =>
    cases hc : p c with
    | true => simp [splitWhere, hc, ih]
    | false =>
      obtain ⟨piece, pieces, hs, hcs⟩ := splitWhere_cons_of_not hc s
      obtain ⟨first, others, hall, hcall⟩ := splitWhere_cons_of_not hc (s ++ sep :: rest)
      rw [ih, hs, List.cons_append] at hall
      obtain ⟨rfl, rfl⟩ := List.cons.inj hall
      rw [List.cons_append, hcall, hcs, List.cons_append]

/-- A blank parts the words before it from those behind it. -/
theorem words_append_cons {c : Char} (hc : isBlank c = true) (s rest : List Char) :
    words (s ++ c :: rest) = words s ++ words rest := by
  rw [words, splitWhere_append_cons hc, List.filter_append, words, words]

private theorem words_cons {c : Char} (hc : isBlank c = true) (rest : List Char) :
    words (c :: rest) = words rest := words_append_cons hc [] rest

/-- So words end where a text ends or goes on with a blank. -/
theorem words_append (s : List Char) {rest : List Char}
    (h : ∀ c ∈ rest.head?, isBlank c = true) : words (s ++ rest) = words s ++ words rest := by
  cases rest with
  | nil => rw [List.append_nil, show words [] = [] from rfl, List.append_nil]
  | cons c rest =>
    have hc : isBlank c = true := h c rfl
    rw [words_append_cons hc, words_cons hc]

/-- Blanks in front of a text change none of its words. -/
theorem words_append_left {before : List Char} (h : allBlank before = true) (s : List Char) :
    words (before ++ s) = words s := by
  induction before with
  | nil => rfl
  | cons c before ih =>
    obtain ⟨hc, hbefore⟩ := List.forall_mem_cons.mp (List.all_eq_true.mp h)
    rw [List.cons_append, words_cons hc, ih (List.all_eq_true.mpr hbefore)]

/-- A word stands for itself. -/
theorem words_eq_singleton {w : List Char} (h : IsWord w) : words w = [w] := by
  have hne : w.isEmpty = false := by simpa using h.1
  rw [words, splitWhere_eq_singleton h.2]
  simp [hne]

private theorem isWord_of_mem_words {s w : List Char} (h : w ∈ words s) : IsWord w := by
  obtain ⟨hpiece, hne⟩ := List.mem_filter.mp h
  exact ⟨by simpa using hne, not_of_mem_splitWhere hpiece⟩

/-- A text has no words exactly if it is blank. -/
theorem words_eq_nil_iff {s : List Char} : words s = [] ↔ allBlank s = true := by
  induction s with
  | nil => exact ⟨fun _ => rfl, fun _ => rfl⟩
  | cons c s ih =>
    cases hc : isBlank c with
    | true =>
      rw [words_cons hc, ih, allBlank, allBlank, List.all_cons, hc, Bool.true_and]
    | false =>
      obtain ⟨piece, pieces, -, hall⟩ := splitWhere_cons_of_not hc s
      simp [words, hall, allBlank, hc]

/-- A word in front of a trimmed text leaves it trimmed. -/
theorem trim_append_of_isWord {w s : List Char} (hw : IsWord w) (hs : trim s = s) :
    trim (w ++ s) = w ++ s := by
  obtain ⟨c, rest, rfl⟩ := List.exists_cons_of_ne_nil hw.1
  refine trim_eq_self_iff.mpr ⟨fun d hd => ?_, fun d hd => ?_⟩
  · obtain rfl : c = d := Option.some.inj hd
    exact hw.2 c List.mem_cons_self
  · rw [List.getLast?_append, Option.mem_def, Option.or_eq_some_iff] at hd
    obtain hlast | ⟨-, hlast⟩ := hd
    · exact (trim_eq_self_iff.mp hs).2 d hlast
    · exact hw.2 d (List.mem_of_mem_getLast? hlast)

/-! ### Words behind gaps -/

/-- Words, each behind a gap. -/
def gapped (pieces : List (List Char × List Char)) : List Char :=
  pieces.flatMap fun piece => piece.1 ++ piece.2

/-- Words behind gaps, or blanks alone, begin with a blank if they begin at all. -/
theorem isBlank_of_head?_gapped {pieces : List (List Char × List Char)}
    (hpieces : ∀ piece ∈ pieces, IsGap piece.1) {after : List Char}
    (hafter : allBlank after = true) :
    ∀ c ∈ (gapped pieces ++ after).head?, isBlank c = true := by
  intro c hc
  cases pieces with
  | nil => exact List.all_eq_true.mp hafter c (List.mem_of_mem_head? hc)
  | cons piece pieces =>
    obtain ⟨hne, hgap⟩ := hpieces piece List.mem_cons_self
    obtain ⟨d, gap, hcons⟩ := List.exists_cons_of_ne_nil hne
    have hfirst : (gapped (piece :: pieces) ++ after).head? = some d := by
      simp [gapped, hcons]
    obtain rfl := Option.some.inj (hc.symm.trans hfirst)
    exact List.all_eq_true.mp hgap c (hcons ▸ List.mem_cons_self)

/-- Words behind gaps are found again, with blanks at the end or without. -/
theorem words_gapped {pieces : List (List Char × List Char)}
    (hgaps : ∀ piece ∈ pieces, IsGap piece.1) (hwords : ∀ piece ∈ pieces, IsWord piece.2)
    {after : List Char} (hafter : allBlank after = true) :
    words (gapped pieces ++ after) = pieces.map (·.2) := by
  induction pieces with
  | nil => exact words_eq_nil_iff.mpr hafter
  | cons piece pieces ih =>
    obtain ⟨hgap, hgaps⟩ := List.forall_mem_cons.mp hgaps
    obtain ⟨hword, hwords⟩ := List.forall_mem_cons.mp hwords
    have hsplit : gapped (piece :: pieces) ++ after =
        piece.1 ++ (piece.2 ++ (gapped pieces ++ after)) := by
      simp [gapped]
    rw [hsplit, words_append_left hgap.2, words_append _ (isBlank_of_head?_gapped hgaps hafter),
      words_eq_singleton hword, ih hgaps hwords, List.map_cons, List.singleton_append]

/-- Words with gaps between them and blanks around them are the words of the text. -/
theorem words_spaced {before first after : List Char} {pieces : List (List Char × List Char)}
    (hbefore : allBlank before = true) (hfirst : IsWord first)
    (hgaps : ∀ piece ∈ pieces, IsGap piece.1) (hwords : ∀ piece ∈ pieces, IsWord piece.2)
    (hafter : allBlank after = true) :
    words (before ++ first ++ gapped pieces ++ after) = first :: pieces.map (·.2) := by
  rw [List.append_assoc, List.append_assoc, words_append_left hbefore,
    words_append _ (isBlank_of_head?_gapped hgaps hafter), words_eq_singleton hfirst,
    words_gapped hgaps hwords hafter, List.singleton_append]

/-- Texts with one blank between any two of them keep their words. -/
theorem words_intercalate (texts : List (List Char)) :
    words ([' '].intercalate texts) = texts.flatMap words := by
  induction texts with
  | nil => rfl
  | cons s texts ih =>
    cases texts with
    | nil => rw [List.intercalate_singleton, List.flatMap_singleton]
    | cons t texts =>
      rw [List.intercalate_cons_cons, List.append_assoc, List.singleton_append,
        words_append_cons (by decide), ih]
      exact List.flatMap_cons.symm

/-! ### Strings -/

/-- A string of words: the first one, the others each behind a gap, and blanks around. -/
def spaced (before first : String) (pieces : List (String × String)) (after : String) : String :=
  before ++ first ++ String.join (pieces.map fun piece => piece.1 ++ piece.2) ++ after

private theorem toList_spaced (before first : String) (pieces : List (String × String))
    (after : String) :
    (spaced before first pieces after).toList = before.toList ++ first.toList ++
      gapped (pieces.map fun piece => (piece.1.toList, piece.2.toList)) ++ after.toList := by
  simp [spaced, gapped, List.flatMap_map]

/-- Strings that are put together with gaps are the words of the string. -/
theorem wordsOf_spaced {before first after : String} {pieces : List (String × String)}
    (hbefore : isAllBlank before = true) (hfirst : IsWord first.toList)
    (hpieces : ∀ piece ∈ pieces, IsGap piece.1.toList ∧ IsWord piece.2.toList)
    (hafter : isAllBlank after = true) :
    wordsOf (spaced before first pieces after) = first :: pieces.map (·.2) := by
  rw [wordsOf, toList_spaced, words_spaced hbefore hfirst _ _ hafter]
  · simp [Function.comp_def]
  · exact List.forall_mem_map.mpr fun piece h => (hpieces piece h).1
  · exact List.forall_mem_map.mpr fun piece h => (hpieces piece h).2

/-- Strings that are joined with single blanks keep their words. -/
theorem wordsOf_intercalate (texts : List String) :
    wordsOf (" ".intercalate texts) = texts.flatMap wordsOf := by
  rw [wordsOf, String.toList_intercalate, show " ".toList = [' '] from rfl, words_intercalate,
    List.flatMap_map, List.map_flatMap]
  rfl

/-- A string that is one word has no other words. -/
theorem wordsOf_eq_singleton {w : String} (h : IsWord w.toList) : wordsOf w = [w] := by
  rw [wordsOf, words_eq_singleton h, List.map_singleton, String.ofList_toList]

/-- Words that are joined with single blanks are the words of the string. -/
theorem wordsOf_unwords {ws : List String} (h : ∀ w ∈ ws, IsWord w.toList) :
    wordsOf (" ".intercalate ws) = ws := by
  rw [wordsOf_intercalate, List.flatMap_congr fun w hw => wordsOf_eq_singleton (h w hw)]
  exact List.flatMap_singleton' ws

/-- What is a word of a string is a word. -/
theorem isWord_of_mem_wordsOf {s w : String} (h : w ∈ wordsOf s) : IsWord w.toList := by
  obtain ⟨word, hword, rfl⟩ := List.mem_map.mp h
  rw [String.toList_ofList]
  exact isWord_of_mem_words hword

/-- Only a blank text has no words. -/
theorem wordsOf_eq_nil_iff {s : String} : wordsOf s = [] ↔ isAllBlank s = true := by
  rw [wordsOf, List.map_eq_nil_iff, words_eq_nil_iff, isAllBlank]

/-! ### Columns -/

private theorem allBlank_filling (width : Nat) (cell : String) :
    allBlank (filling width cell).toList = true := by
  rw [filling, String.toList_ofList]
  exact List.all_eq_true.mpr fun c hc => (List.eq_of_mem_replicate hc) ▸ rfl

/-- A column adds blanks alone to its cell, on either side. -/
theorem wordsOf_alignLeft (width : Nat) (cell : String) :
    wordsOf (alignLeft width cell) = wordsOf cell := by
  have hblank := allBlank_filling width cell
  rw [wordsOf, alignLeft, String.toList_append, words_append _ fun c hc =>
    List.all_eq_true.mp hblank c (List.mem_of_mem_head? hc), words_eq_nil_iff.mpr hblank,
    List.append_nil, wordsOf]

/-- Blanks in front of a cell leave its words as they are. -/
theorem wordsOf_alignRight (width : Nat) (cell : String) :
    wordsOf (alignRight width cell) = wordsOf cell := by
  rw [wordsOf, alignRight, String.toList_append, words_append_left (allBlank_filling width cell),
    wordsOf]

end GatewayProbe.Text
