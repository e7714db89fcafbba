import GatewayProbe.Text.Blank

/-!
# Parts of texts

A text begins with another one exactly when a rest remains after it, and holds another one
exactly when that one is a contiguous part of it.
-/

namespace GatewayProbe.Text

/-- What remains after the beginning of a text completes it. -/
theorem afterStart_eq_some {start text rest : List Char} :
    afterStart start text = some rest ↔ text = start ++ rest := by
  induction start generalizing text with
  | nil => simp [afterStart, eq_comm]
  | cons a as ih =>
    cases text with
    | nil => simp [afterStart]
    | cons c text =>
      by_cases heq : a = c
      · subst heq
        simp [afterStart, ih]
      · simp [afterStart, heq, Ne.symm heq]

/-- A text begins with another one when something remains after it. -/
theorem isSome_afterStart_iff {start text : List Char} :
    (afterStart start text).isSome ↔ start <+: text := by
  rw [Option.isSome_iff_exists]
  constructor
  · rintro ⟨rest, hrest⟩
    exact ⟨rest, (afterStart_eq_some.mp hrest).symm⟩
  · rintro ⟨rest, hrest⟩
    exact ⟨rest, afterStart_eq_some.mpr hrest.symm⟩

/-- A text holds its contiguous parts and no other text. -/
theorem holds_iff {part text : List Char} : holds part text ↔ part <:+: text := by
  induction text with
  | nil => simp [holds]
  | cons c text ih =>
    rw [holds, Bool.or_eq_true, isSome_afterStart_iff, ih]
    exact List.infix_cons_iff.symm

/-- A string holds the strings whose letters are a contiguous part of its own. -/
theorem holdsText_iff {part text : String} :
    holdsText part text ↔ part.toList <:+: text.toList := holds_iff

end GatewayProbe.Text
