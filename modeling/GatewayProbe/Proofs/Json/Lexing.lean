import GatewayProbe.Json.Token
import Mathlib.Data.List.TakeWhile
import Mathlib.Data.List.Chain

/-!
# The written forms of tokens

A token has one or more written forms, and tokens are written one after another with any
blanks around them. Reading a text into tokens finds the tokens of which the text is a
written form; two words may not follow each other, since nothing would part them.
-/

namespace GatewayProbe.Json

/-! ### Strings -/

/-- The written forms of a piece of a string. -/
inductive Piece.Written : Piece → List UInt8 → Prop
  /-- A byte that is no control character, quote or backslash stands for itself. -/
  | plain {b : UInt8} (hlow : ¬ b < 0x20) (hquote : b ≠ 0x22) (hslash : b ≠ 0x5C) :
      Written (.byte b) [b]
  | short {e b : UInt8} (h : shortEscape? e = some b) : Written (.byte b) [0x5C, e]
  | codeUnit {a b c d : UInt8} {n : Nat} (h : codeUnit? a b c d = some n) :
      Written (.codeUnit n) [0x5C, 0x75, a, b, c, d]

/-- The written forms of the pieces of a string. -/
inductive PiecesWritten : List Piece → List UInt8 → Prop
  | nil : PiecesWritten [] []
  | cons {p : Piece} {ps : List Piece} {text rest : List UInt8} (hp : p.Written text)
      (hps : PiecesWritten ps rest) : PiecesWritten (p :: ps) (text ++ rest)

private theorem shortEscape?_u : shortEscape? 0x75 = none := by decide

private theorem readEscape?_eq_some_iff {bytes rest : List UInt8} {p : Piece} :
    readEscape? bytes = some (p, rest) ↔
      ∃ text, p.Written (0x5C :: text) ∧ bytes = text ++ rest := by
  constructor
  · intro h
    unfold readEscape? at h
    split at h
    · simp at h
    · split at h
      · rename_i he
        split at h
        · simp only [Option.map_eq_some_iff, Prod.mk.injEq] at h
          obtain ⟨n, hn, rfl, rfl⟩ := h
          exact ⟨_, .codeUnit hn, by rw [he]; rfl⟩
        · simp at h
      · simp only [Option.map_eq_some_iff, Prod.mk.injEq] at h
        obtain ⟨b, hb, rfl, rfl⟩ := h
        exact ⟨_, .short hb, rfl⟩
  · rintro ⟨text, hp, rfl⟩
    cases hp with
    | plain _ _ hslash => exact absurd rfl hslash
    | @short e b h =>
      have he : e ≠ 0x75 := by
        rintro rfl
        simp [shortEscape?_u] at h
      simp [readEscape?, he, h]
    | codeUnit h => simp [readEscape?, h]

/-- A string goes on behind a written piece with this piece read. -/
theorem readStringOnto_piece {p : Piece} {text : List UInt8} (hp : p.Written text)
    (seen : List Piece) (rest : List UInt8) :
    readStringOnto seen (text ++ rest) = readStringOnto (p :: seen) rest := by
  have hescape {text : List UInt8} (h : p.Written (0x5C :: text)) :
      readStringOnto seen (0x5C :: text ++ rest) = readStringOnto (p :: seen) rest := by
    have hread : readEscape? (text ++ rest) = some (p, rest) :=
      readEscape?_eq_some_iff.mpr ⟨text, h, rfl⟩
    rw [List.cons_append, readStringOnto, if_neg (by decide), if_neg (by decide), if_pos rfl]
    split
    · simp_all
    · simp_all
  cases hp with
  | plain hlow hquote hslash => simp [readStringOnto, hlow, hquote, hslash]
  | short h => exact hescape (.short h)
  | codeUnit h => exact hescape (.codeUnit h)

private theorem readStringOnto_eq_some_iff {seen spelling : List Piece} {bytes rest : List UInt8} :
    readStringOnto seen bytes = some (spelling, rest) ↔
      ∃ ps text, PiecesWritten ps text ∧ spelling = seen.reverse ++ ps ∧
        bytes = text ++ 0x22 :: rest := by
  constructor
  · intro h
    fun_induction readStringOnto seen bytes with
    | case1 => simp at h
    | case2 =>
      simp only [Option.some.injEq, Prod.mk.injEq] at h
      exact ⟨[], [], .nil, by simp [h.1], by simp [h.2]⟩
    | case3 => simp at h
    | case4 => simp at h
    | case5 seen more p after hread _ _ ih =>
      obtain ⟨ps, text, hps, rfl, rfl⟩ := ih h
      obtain ⟨escape, hp, rfl⟩ := readEscape?_eq_some_iff.mp hread
      exact ⟨p :: ps, _, .cons hp hps, by simp, by simp⟩
    | case6 seen b more hquote hlow hslash ih =>
      obtain ⟨ps, text, hps, rfl, rfl⟩ := ih h
      exact ⟨.byte b :: ps, _, .cons (.plain hlow hquote hslash) hps, by simp, by simp⟩
  · rintro ⟨ps, text, hps, rfl, rfl⟩
    induction hps generalizing seen with
    | nil => simp [readStringOnto]
    | cons hp hps ih =>
      rw [List.append_assoc, readStringOnto_piece hp, ih]
      simp

/-! ### Tokens -/

/-- The written forms of a token. -/
inductive Token.Written : Token → List UInt8 → Prop
  | punctuation {b : UInt8} {t : Token} (h : punctuation? b = some t) : Written t [b]
  | string {spelling : List Piece} {text : List UInt8} (h : PiecesWritten spelling text) :
      Written (.string spelling) (0x22 :: text ++ [0x22])
  | word {b : UInt8} {rest : List UInt8} (hb : isWordByte b = true)
      (hrest : ∀ x ∈ rest, isWordByte x = true) :
      Written (.word ((b :: rest).map fun x => Char.ofNat x.toNat)) (b :: rest)

/-- Tokens written one after another, with any blanks before, between and behind them. -/
inductive Spaced : List Token → List UInt8 → Prop
  | nil : Spaced [] []
  | blank {b : UInt8} {tokens : List Token} {bytes : List UInt8} (hb : isSpace b = true)
      (h : Spaced tokens bytes) : Spaced tokens (b :: bytes)
  | token {t : Token} {tokens : List Token} {text bytes : List UInt8} (ht : t.Written text)
      (h : Spaced tokens bytes) : Spaced (t :: tokens) (text ++ bytes)

/-- Whether a token is a literal or a number. -/
def Token.isWord : Token → Bool
  | .word _ => true
  | _ => false

/-- No two words follow each other. -/
def Separate (tokens : List Token) : Prop :=
  tokens.IsChain fun t u => t.isWord = false ∨ u.isWord = false

/-- A token that is no word separates what stands before it from what stands behind it. -/
theorem separate_append_cons {t : Token} (ht : t.isWord = false) (front rest : List Token) :
    Separate (front ++ t :: rest) ↔ Separate front ∧ Separate rest := by
  induction front with
  | nil => cases rest <;> simp [Separate, ht]
  | cons u front ih =>
    cases front with
    | nil => cases rest <;> simp [Separate, ht]
    | cons v front =>
      simp only [Separate, List.cons_append, List.isChain_cons_cons] at ih ⊢
      rw [ih, and_assoc]

theorem separate_cons {t : Token} (ht : t.isWord = false) (rest : List Token) :
    Separate (t :: rest) ↔ Separate rest := by
  rw [← List.nil_append (t :: rest), separate_append_cons ht]
  exact and_iff_right .nil

private theorem isWordByte_of_isSpace {b : UInt8} (h : isSpace b = true) :
    isWordByte b = false := by
  simp only [isSpace, Bool.or_eq_true, decide_eq_true_eq] at h
  obtain ((rfl | rfl) | rfl) | rfl := h <;> decide

/-- A byte that is a token on its own is no blank and stands in no word. -/
theorem of_punctuation? {b : UInt8} {t : Token} (h : punctuation? b = some t) :
    isSpace b = false ∧ isWordByte b = false ∧ t.isWord = false := by
  unfold punctuation? at h
  split_ifs at h with h₁ h₂ h₃ h₄ h₅ h₆ <;> cases h <;> subst b <;> decide

private theorem of_isWordByte {b : UInt8} (h : isWordByte b = true) :
    isSpace b = false ∧ punctuation? b = none ∧ b ≠ 0x22 := by
  refine ⟨?_, ?_, ?_⟩
  · by_contra hspace
    simp [isWordByte_of_isSpace (Bool.not_eq_false _ ▸ hspace)] at h
  · by_contra hsome
    obtain ⟨t, ht⟩ := Option.ne_none_iff_exists'.mp hsome
    simp [(of_punctuation? ht).2.1] at h
  · rintro rfl
    exact absurd h (by decide)

/-- Behind a word stands no byte that would go on with it, unless another word follows. -/
theorem Spaced.not_isWordByte {tokens : List Token} {bytes : List UInt8} (h : Spaced tokens bytes)
    (hfirst : ∀ t ∈ tokens.head?, t.isWord = false) : ∀ b ∈ bytes.head?, isWordByte b = false := by
  cases h with
  | nil => simp
  | blank hb => simpa using isWordByte_of_isSpace hb
  | token ht =>
    cases ht with
    | punctuation hb => simpa using (of_punctuation? hb).2.1
    | string => simpa using (by decide : isWordByte 0x22 = false)
    | word => simp [Token.isWord] at hfirst

/-- A front with a property ends where the first item without it stands. -/
theorem takeWhile_append_of_head? {α : Type} {p : α → Bool} {front rest : List α}
    (hfront : ∀ x ∈ front, p x = true) (hrest : ∀ x ∈ rest.head?, p x = false) :
    (front ++ rest).takeWhile p = front ∧ (front ++ rest).dropWhile p = rest := by
  have hnone : rest.takeWhile p = [] ∧ rest.dropWhile p = rest := by
    cases rest with
    | nil => simp
    | cons x rest => simp_all
  rw [List.takeWhile_append_of_pos hfront, List.dropWhile_append_of_pos hfront, hnone.1, hnone.2]
  simp

/-- Reading goes on behind a written token with this token read, if a word is not followed by
another one. -/
theorem lexOnto_token {t : Token} {text rest : List UInt8} (ht : t.Written text)
    (hapart : t.isWord = true → ∀ b ∈ rest.head?, isWordByte b = false) (seen : List Token) :
    lexOnto seen (text ++ rest) = lexOnto (t :: seen) rest := by
  cases ht with
  | punctuation hb =>
    obtain ⟨hspace, -, -⟩ := of_punctuation? hb
    rw [List.singleton_append, lexOnto]
    simp [hspace, hb]
  | @string spelling text h =>
    have hread : readStringOnto [] (text ++ 0x22 :: rest) = some (spelling, rest) :=
      readStringOnto_eq_some_iff.mpr ⟨spelling, text, h, rfl, rfl⟩
    have hspace : isSpace 0x22 = false := by decide
    have hnone : punctuation? 0x22 = none := by decide
    rw [List.append_assoc, List.cons_append, List.singleton_append, lexOnto]
    simp only [hspace, hnone, Bool.false_eq_true, if_false, if_true]
    split
    · simp_all
    · simp_all
  | @word b run hb hrun =>
    obtain ⟨hspace, hnone, hquote⟩ := of_isWordByte hb
    obtain ⟨htake, hdrop⟩ := takeWhile_append_of_head? hrun (hapart rfl)
    rw [List.cons_append, lexOnto]
    simp [hspace, hnone, hquote, hb, htake, hdrop]

/-- Reading finds the tokens of which a text is a written form. -/
theorem lexOnto_of_spaced {tokens : List Token} {bytes : List UInt8} (h : Spaced tokens bytes)
    (hapart : Separate tokens) (seen : List Token) :
    lexOnto seen bytes = some (seen.reverse ++ tokens) := by
  induction h generalizing seen with
  | nil => simp [lexOnto]
  | blank hb _ ih =>
    rw [lexOnto, if_pos hb]
    exact ih hapart seen
  | @token t tokens text bytes ht hrest ih =>
    have hnext : t.isWord = true → ∀ b ∈ bytes.head?, isWordByte b = false := by
      intro hword
      apply hrest.not_isWordByte
      intro u hu
      simpa [hword] using hapart.rel_head? hu
    rw [lexOnto_token ht hnext, ih hapart.tail]
    simp

private theorem spaced_of_lexOnto {seen tokens : List Token} {bytes : List UInt8}
    (h : lexOnto seen bytes = some tokens) :
    ∃ more, tokens = seen.reverse ++ more ∧ Spaced more bytes := by
  fun_induction lexOnto seen bytes with
  | case1 => exact ⟨[], by simpa using h.symm, .nil⟩
  | case2 seen b rest hb ih =>
    obtain ⟨more, htokens, hmore⟩ := ih h
    exact ⟨more, htokens, .blank hb hmore⟩
  | case3 seen b rest hb t ht ih =>
    obtain ⟨more, htokens, hmore⟩ := ih h
    exact ⟨t :: more, by simpa using htokens, .token (.punctuation ht) hmore⟩
  | case4 => simp at h
  | case5 seen rest spelling after hread _ _ ih =>
    obtain ⟨more, htokens, hmore⟩ := ih h
    obtain ⟨_, text, hpieces, rfl, rfl⟩ := readStringOnto_eq_some_iff.mp hread
    have hspaced := Spaced.token (.string hpieces) hmore
    exact ⟨_ :: more, by simpa using htokens, by simpa using hspaced⟩
  | case6 seen b rest _ _ _ hb spelling ih =>
    obtain ⟨more, htokens, hmore⟩ := ih h
    have hrun : ∀ x ∈ rest.takeWhile isWordByte, isWordByte x = true :=
      fun x hx => List.mem_takeWhile_imp hx
    have hspaced := Spaced.token (.word hb hrun) hmore
    rw [List.cons_append, List.takeWhile_append_dropWhile] at hspaced
    exact ⟨.word spelling :: more, by simpa using htokens, hspaced⟩
  | case7 => simp at h

/-- The tokens read from a text are those of which it is a written form. -/
theorem lex_eq_some_iff {tokens : List Token} {bytes : List UInt8} (hapart : Separate tokens) :
    lex bytes = some tokens ↔ Spaced tokens bytes := by
  constructor
  · intro h
    obtain ⟨more, rfl, hmore⟩ := spaced_of_lexOnto h
    exact hmore
  · intro h
    exact lexOnto_of_spaced h hapart []

end GatewayProbe.Json
