import GatewayProbe.Decimal.Reading
import GatewayProbe.Proofs.Text.Joining

/-!
# The characters of numbers

A text that is read as a double is written with digits, signs, the point, the exponent mark and the
letters of the words for infinities and for no number. In particular it holds no blank and no colon,
it does not begin with the mark of a percentile, and it does not end with the unit of a latency.
-/

namespace GatewayProbe.Decimal

open GatewayProbe.Text

/-- The characters that numbers are written with. -/
def isNumeral (c : Char) : Bool := c.isDigit || "+-.einftya".toList.contains c.toLower

private theorem isNumeral_of_isDigit {c : Char} (h : c.isDigit = true) : isNumeral c = true := by
  simp [isNumeral, h]

/-- A text whose lower case is one of the words is written with their letters. -/
theorem isNumeral_of_lower {s : List Char} {word : String} (h : String.ofList (lower s) = word)
    (hword : word.toList.all "+-.einftya".toList.contains = true) :
    ∀ c ∈ s, isNumeral c = true := by
  intro c hc
  have hlower : c.toLower ∈ word.toList := by
    rw [← h, String.toList_ofList]
    exact List.mem_map_of_mem hc
  have hletter := List.all_eq_true.mp hword _ hlower
  simp only [isNumeral, hletter, Bool.or_true]

/-- The leading digits of a text are digits, and nothing is lost. -/
theorem spanDigits_eq (s : List Char) :
    s = (spanDigits s).1 ++ (spanDigits s).2 ∧ ∀ c ∈ (spanDigits s).1, isNumeral c = true := by
  refine ⟨List.takeWhile_append_dropWhile.symm, fun c hc => isNumeral_of_isDigit ?_⟩
  exact List.all_eq_true.mp (List.all_takeWhile) c hc

private theorem isNumeral_of_readExponent {s : List Char} (h : (readExponent s).isSome) :
    ∀ c ∈ s, isNumeral c = true := by
  unfold readExponent at h
  split at h <;> simp at h
  · exact List.forall_mem_cons.mpr ⟨by decide, fun c hc => isNumeral_of_isDigit (h.2 c hc)⟩
  · exact List.forall_mem_cons.mpr ⟨by decide, fun c hc => isNumeral_of_isDigit (h.2 c hc)⟩
  · exact fun c hc => isNumeral_of_isDigit (h.2 c hc)

/-- What follows the digits is an exponent with its mark. -/
private theorem isNumeral_of_tail {α : Type} {c : Char} {more : List Char} {p : Prop} [Decidable p]
    {f : Int → α} (h : (if p then none else
      if c = 'e' || c = 'E' then (readExponent more).map f else none).isSome) :
    ∀ d ∈ c :: more, isNumeral d = true := by
  split at h
  · cases h
  · split at h
    · rename_i hmark
      have hc : isNumeral c = true := by
        rcases Bool.or_eq_true _ _ ▸ hmark with he | he
        · rw [of_decide_eq_true he]
          decide
        · rw [of_decide_eq_true he]
          decide
      exact List.forall_mem_cons.mpr ⟨hc, isNumeral_of_readExponent (Option.isSome_map ▸ h)⟩
    · cases h

private theorem isNumeral_of_readScaled {s : List Char} (h : (readScaled s).isSome) :
    ∀ c ∈ s, isNumeral c = true := by
  obtain ⟨hs, hwhole⟩ := spanDigits_eq s
  unfold readScaled at h
  dsimp only at h
  rw [hs]
  refine List.forall_mem_append.mpr ⟨hwhole, ?_⟩
  split at h
  -- A point, and digits of a fraction after it.
  · rename_i more hmore
    obtain ⟨hm, hfraction⟩ := spanDigits_eq more
    rw [hmore, hm]
    refine List.forall_mem_cons.mpr ⟨by decide, List.forall_mem_append.mpr ⟨hfraction, ?_⟩⟩
    cases hrest : (spanDigits more).2 with
    | nil => exact nofun
    | cons c tail =>
      simp only [hrest] at h
      exact isNumeral_of_tail h
  · cases hrest : (spanDigits s).2 with
    | nil => exact nofun
    | cons c tail =>
      simp only [hrest] at h
      exact isNumeral_of_tail h

private theorem isNumeral_of_readUnsigned {s : List Char} (h : (readUnsigned s).isSome) :
    ∀ c ∈ s, isNumeral c = true := by
  unfold readUnsigned at h
  dsimp only at h
  split at h
  · rename_i hword
    rcases Bool.or_eq_true _ _ ▸ hword with hinf | hinfinity
    · exact isNumeral_of_lower (of_decide_eq_true hinf) (by decide)
    · exact isNumeral_of_lower (of_decide_eq_true hinfinity) (by decide)
  · split at h
    · rename_i hnan
      exact isNumeral_of_lower hnan (by decide)
    · exact isNumeral_of_readScaled (by simpa using h)

/-- A text that is read as a double is written with the characters of numbers. -/
theorem isNumeral_of_parse {s : List Char} {x : Float} (h : parse s = some x) :
    ∀ c ∈ s, isNumeral c = true := by
  unfold parse at h
  split at h
  · have hrest := isNumeral_of_readUnsigned (Option.isSome_map ▸ Option.isSome_of_mem h)
    exact List.forall_mem_cons.mpr ⟨by decide, hrest⟩
  · exact List.forall_mem_cons.mpr ⟨by decide, isNumeral_of_readUnsigned (Option.isSome_of_mem h)⟩
  · exact isNumeral_of_readUnsigned (Option.isSome_of_mem h)

/-- None of these characters is blank. -/
theorem isBlank_of_isNumeral {c : Char} (h : isNumeral c = true) : isBlank c = false := by
  obtain hdigit | hletter := Bool.or_eq_true _ _ ▸ h
  · exact isBlank_of_isDigit hdigit
  · have hnone : "+-.einftya".toList.all (fun d => !isBlank d) = true := by decide
    rw [← isBlank_toLower]
    simpa using List.all_eq_true.mp hnone _ (List.contains_iff_mem.mp hletter)

end GatewayProbe.Decimal
