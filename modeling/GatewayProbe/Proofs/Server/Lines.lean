import GatewayProbe.Proofs.Text.Parts
import GatewayProbe.Proofs.Text.Utf8
import GatewayProbe.Server.Process
import Mathlib.Data.List.TakeWhile

/-!
# What a reader takes of a stream

The lines of a stream come in the order of their moments and not after it is closed. A reader
takes all of them while they are text, and then ends when the stream is closed. At the first line
that is no text it ends, with the lines before that one. A line of text holds a pattern exactly
when its bytes hold those of the pattern.
-/

namespace GatewayProbe.Server

open GatewayProbe.Text

/-! ## Lines of text -/

/-- A line is text when its bytes are those of a string. -/
theorem Outflow.isText_iff {l : Line} : isText l = true ↔ ∃ s, bytesOf s = l.bytes := by
  rw [isText, Option.isSome_iff_exists]
  exact exists_congr fun s => stringOf?_eq_some_iff

/-- A line of text holds a pattern when its bytes hold those of the pattern. -/
theorem Line.shows_iff {pattern : String} {l : Line} (h : Outflow.isText l = true) :
    l.shows pattern = true ↔ bytesOf pattern <:+: l.bytes := by
  obtain ⟨s, hbytes⟩ := Outflow.isText_iff.mp h
  have hs : stringOf? l.bytes = some s := stringOf?_eq_some_iff.mpr hbytes
  have htext : l.text = s := by rw [Line.text, hs, Option.getD_some]
  rw [Line.shows, htext, holdsText_iff, ← hbytes, bytesOf, bytesOf, encode_infix_iff]

namespace Outflow

variable {o : Outflow} {l : Line}

/-! ## The order of lines -/

/-- The moments at which a stream delivers something: its bytes, and then its closing. -/
def moments (o : Outflow) : List Nat := o.bytes.map (·.1) ++ o.closed.toList

/-- A stream is written in the order of time, and not after it is closed. -/
def Ordered (o : Outflow) : Prop := o.moments.Pairwise (· ≤ ·)

/-- The line that is left when a stream is closed. -/
def lastLine (closed : Option Nat) (left : List UInt8) : List Line :=
  if left.isEmpty then [] else closed.toList.map fun moment => ⟨moment, left⟩

private theorem lastLine_none (left : List UInt8) : lastLine none left = [] := by
  rw [lastLine]
  split <;> rfl

/-- The lines of a stream are its complete ones and the one that is left. -/
theorem lines_eq (o : Outflow) :
    o.lines = (splitLines [] o.bytes).1 ++ lastLine o.closed (splitLines [] o.bytes).2 := by
  rw [lines, lastLine]
  cases o.closed with
  | none => simp
  | some moment =>
    by_cases hleft : (splitLines [] o.bytes).2.isEmpty = true <;> simp [hleft]

/-- Every complete line has the moment of one of the bytes, in their order. -/
theorem moments_splitLines_sublist (seen : List UInt8) (bytes : List (Nat × UInt8)) :
    ((splitLines seen bytes).1.map (·.moment)).Sublist (bytes.map (·.1)) := by
  induction bytes generalizing seen with
  | nil => exact List.Sublist.refl []
  | cons b rest ih =>
    obtain ⟨moment, b⟩ := b
    rw [splitLines]
    split
    · exact (ih []).cons_cons moment
    · exact (ih (b :: seen)).cons moment

/-- Every line has the moment of one of the deliveries, in their order. -/
theorem moments_lines_sublist (o : Outflow) :
    (o.lines.map (·.moment)).Sublist o.moments := by
  rw [lines_eq, List.map_append]
  refine (moments_splitLines_sublist [] o.bytes).append ?_
  rw [lastLine]
  split
  · exact List.nil_sublist _
  · simp [Function.comp_def]

/-- The lines of a stream come in the order of their moments. -/
theorem Ordered.pairwise_lines (h : o.Ordered) :
    (o.lines.map (·.moment)).Pairwise (· ≤ ·) := h.sublist (moments_lines_sublist o)

/-- No line comes after the stream is closed. -/
theorem Ordered.le_closed (h : o.Ordered) {moment : Nat} (hl : l ∈ o.lines)
    (hclosed : o.closed = some moment) : l.moment ≤ moment := by
  have hmem : l.moment ∈ o.moments :=
    (moments_lines_sublist o).subset (List.mem_map_of_mem hl)
  rw [Ordered, moments, hclosed, List.pairwise_append] at h
  rw [moments, hclosed, List.mem_append] at hmem
  rcases hmem with hbyte | hlast
  · exact h.2.2 _ hbyte moment List.mem_cons_self
  · exact Nat.le_of_eq (List.mem_singleton.mp hlast)

/-! ## The lines that a reader takes -/

/-- A reader takes all lines of a stream and ends when that is closed. -/
structure ReadToEnd (o : Outflow) : Prop where
  text : ∀ l ∈ o.lines, isText l = true
  lines : o.readLines = o.lines
  ended : o.readerEnd? = o.closed

/-- A reader takes the lines of a stream before one that is no text, and ends with that. -/
structure ReadUpTo (o : Outflow) (l : Line) : Prop where
  fault : isText l = false
  lines : ∃ rest, o.lines = o.readLines ++ l :: rest
  ended : o.readerEnd? = some l.moment

/-- A stream is read to its end, or up to the first line that is no text. -/
theorem read_cases (o : Outflow) : o.ReadToEnd ∨ ∃ l, o.ReadUpTo l := by
  cases hrest : o.lines.dropWhile isText with
  | nil =>
    have hall : ∀ l ∈ o.lines, isText l = true := List.dropWhile_eq_nil_iff.mp hrest
    exact .inl ⟨hall, List.takeWhile_eq_self_iff.mpr hall, by rw [readerEnd?, hrest]⟩
  | cons l rest =>
    have hfault : isText l = false := by
      have hhead := List.head?_dropWhile_not isText o.lines
      rw [hrest] at hhead
      simpa using hhead
    refine .inr ⟨l, hfault, ⟨rest, ?_⟩, by rw [readerEnd?, hrest]⟩
    rw [← hrest, readLines, List.takeWhile_append_dropWhile]

/-- Every line that a reader takes is text. -/
theorem isText_of_mem_readLines (h : l ∈ o.readLines) : isText l = true :=
  List.mem_takeWhile_imp h

/-- A stream of text is read to its end. -/
theorem readToEnd_of_isText (h : ∀ l ∈ o.lines, isText l = true) : o.ReadToEnd := by
  refine o.read_cases.resolve_right ?_
  rintro ⟨l, hfault, ⟨rest, hlines⟩, -⟩
  have hl : l ∈ o.lines := hlines ▸ List.mem_append_right _ List.mem_cons_self
  rw [h l hl] at hfault
  cases hfault

/-- No line that a reader takes comes after it has ended. -/
theorem Ordered.le_readerEnd (h : o.Ordered) {moment : Nat} (hl : l ∈ o.readLines)
    (hend : o.readerEnd? = some moment) : l.moment ≤ moment := by
  rcases o.read_cases with hread | ⟨last, -, ⟨rest, hlines⟩, hlast⟩
  · exact h.le_closed (hread.lines ▸ hl) (hread.ended.symm.trans hend)
  · have horder := h.pairwise_lines
    rw [hlines, List.map_append, List.pairwise_append] at horder
    have hmoment : last.moment = moment := Option.some.inj (hlast.symm.trans hend)
    exact hmoment ▸
      horder.2.2 _ (List.mem_map_of_mem hl) _ (List.mem_map_of_mem List.mem_cons_self)

/-- A stream of text does not break. -/
theorem brokenAt?_eq_none (h : ∀ l ∈ o.lines, isText l = true) : o.brokenAt? = none := by
  have hcomplete : ∀ l ∈ lines { o with closed := none }, isText l = true := by
    intro l hl
    rw [lines_eq, List.mem_append, lastLine_none] at hl
    exact h l (o.lines_eq ▸ List.mem_append_left _ (hl.resolve_right List.not_mem_nil))
  rw [brokenAt?, (readToEnd_of_isText hcomplete).ended]

end Outflow

end GatewayProbe.Server
