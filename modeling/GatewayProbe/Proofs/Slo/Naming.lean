import GatewayProbe.Proofs.CommandLine.Reading
import GatewayProbe.Proofs.Gateway.Names
import GatewayProbe.Proofs.Text.Joining
import GatewayProbe.Settings.Entry
import GatewayProbe.Slo.Threshold

/-!
# Targets name what is measured

The percentile and the limit of a target are split off from the right, so any name can stand in
front of them. It is taken without the blanks around it, and no name under which something is
measured has any: the fixed names have none, and a program has none where it is accepted.
-/

namespace GatewayProbe.Slo

open GatewayProbe.Text GatewayProbe.Gateway GatewayProbe.Settings GatewayProbe.CommandLine

/-- The text of a target. -/
def spelling (endpoint percentile limit : String) : String :=
  endpoint ++ ":" ++ percentile ++ ":" ++ limit

/-! ### What a target is read from -/

/-- The two last parts of a target are split off from its name, which may have colons. -/
theorem parts?_spelling (endpoint : String) {percentile limit : String}
    (hpercentile : ':' ∉ percentile.toList) (hlimit : ':' ∉ limit.toList) :
    parts? (spelling endpoint percentile limit).toList =
      some (endpoint.toList, percentile.toList, limit.toList) := by
  have hsplit : (spelling endpoint percentile limit).toList =
      (endpoint.toList ++ ':' :: percentile.toList) ++ ':' :: limit.toList := by
    simp [spelling]
  rw [parts?, hsplit, splitLast_append _ hlimit]
  simp [splitLast_append _ hpercentile]

private theorem create_eq_ok_iff {endpoint : String} {quantile maxMillis : Float} {t : Threshold} :
    Threshold.create endpoint quantile maxMillis = .ok t ↔
      isAllBlank endpoint = false ∧ isQuantile quantile = true ∧ isLimit maxMillis = true ∧
        t = ⟨endpoint, quantile, maxMillis⟩ := by
  unfold Threshold.create
  cases isAllBlank endpoint with
  | true => simp
  | false =>
    cases isQuantile quantile with
    | false => simp
    | true =>
      cases isLimit maxMillis with
      | false => simp
      | true => simp [eq_comm]

/-- A target of a name that is not blank, with a quantile and a latency that are allowed. -/
structure Threshold.Allowed (t : Threshold) : Prop where
  endpoint : isAllBlank t.endpoint = false
  quantile : isQuantile t.quantile = true
  limit : isLimit t.maxMillis = true

/-- No target is created that is not allowed. -/
theorem ensures_create (endpoint : String) (quantile maxMillis : Float) :
    Ensures Threshold.Allowed (Threshold.create endpoint quantile maxMillis) := by
  intro t h
  obtain ⟨hendpoint, hquantile, hlimit, rfl⟩ := create_eq_ok_iff.mp h
  exact ⟨hendpoint, hquantile, hlimit⟩

/-- So none is read from a text. -/
theorem ensures_parse (value : String) : Ensures Threshold.Allowed (Threshold.parse value) := by
  unfold Threshold.parse
  split
  · exact Ensures.error _
  · dsimp only
    split
    · exact Ensures.error _
    · exact Ensures.bind_any fun _ => Ensures.bind_any fun _ => ensures_create _ _ _

/-- The numbers of a target, whatever its name is. -/
structure Reads (percentile limit : List Char) (t : Threshold) : Prop where
  limit : readLimit limit = .ok t.maxMillis
  percentile : readQuantile percentile = .ok t.quantile
  isQuantile : isQuantile t.quantile = true
  isLimit : isLimit t.maxMillis = true

/-- A text is a target exactly if its name is not blank and its numbers are those of one. -/
theorem parse_spelling_eq_ok_iff (endpoint : String) {percentile limit : String} {t : Threshold}
    (hpercentile : ':' ∉ percentile.toList) (hlimit : ':' ∉ limit.toList) :
    Threshold.parse (spelling endpoint percentile limit) = .ok t ↔
      isAllBlank endpoint = false ∧ t.endpoint = trimmed endpoint ∧
        Reads percentile.toList limit.toList t := by
  have hparse : Threshold.parse (spelling endpoint percentile limit) = .ok t ↔
      isAllBlank endpoint = false ∧ ∃ m, readLimit limit.toList = .ok m ∧
        ∃ q, readQuantile percentile.toList = .ok q ∧
          Threshold.create (trimmed endpoint) q m = .ok t := by
    simp only [Threshold.parse, parts?_spelling endpoint hpercentile hlimit, List.isEmpty_iff,
      trim_eq_nil_iff]
    cases hblank : allBlank endpoint.toList with
    | true => simp [isAllBlank, hblank]
    | false =>
      cases hm : readLimit limit.toList with
      | error fault => simp [isAllBlank, hblank, bind, Except.bind]
      | ok m =>
        cases hq : readQuantile percentile.toList with
        | error fault => simp [isAllBlank, hblank, bind, Except.bind]
        | ok q => simp [isAllBlank, hblank, bind, Except.bind, trimmed]
  rw [hparse]
  constructor
  · rintro ⟨hblank, m, hm, q, hq, hcreate⟩
    obtain ⟨-, hquantile, hbound, rfl⟩ := create_eq_ok_iff.mp hcreate
    exact ⟨hblank, rfl, hm, hq, hquantile, hbound⟩
  · rintro ⟨hblank, hendpoint, hm, hq, hquantile, hbound⟩
    have hcreate : Threshold.create (trimmed endpoint) t.quantile t.maxMillis = .ok t := by
      apply create_eq_ok_iff.mpr
      refine ⟨?_, hquantile, hbound, ?_⟩
      · rw [isAllBlank_trimmed, hblank]
      · rw [← hendpoint]
    exact ⟨hblank, _, hm, _, hq, hcreate⟩

/-! ### The names under which something is measured -/

/-- A name that stays as it is in the text of a target. -/
structure Kept (name : String) : Prop where
  isAllBlank : isAllBlank name = false
  trim : trim name.toList = name.toList

/-- A program that is accepted in a text of words or in an entry of a settings file. -/
inductive IsProgram : String → Prop
  | text {s : String} {c : CommandText} (h : CommandText.parse? s = some c) : IsProgram c.program
  | entry {e : CommandEntry} {place : Nat} {c : CommandText} (h : e.command place = .ok c) :
      IsProgram c.program

/-- The names under which something is measured when the programs are accepted ones. -/
inductive IsMeasured : String → Prop
  | endpoint (e : Endpoint) : IsMeasured e.name
  | poll : IsMeasured pollName
  | completion : IsMeasured completionName
  | execute {program : String} (h : IsProgram program) : IsMeasured (executeName program)

private theorem kept_trimmed {s : String} (h : isAllBlank s = false) : Kept (trimmed s) := by
  constructor
  · rw [isAllBlank_trimmed, h]
  · rw [trimmed, String.toList_ofList, trim_trim]

/-- The first word of a text is kept. -/
theorem kept_of_parse? {s : String} {c : CommandText} (h : CommandText.parse? s = some c) :
    Kept c.program := by
  unfold CommandText.parse? wordsOf at h
  cases hwords : words s.toList with
  | nil => simp [hwords] at h
  | cons w rest =>
    rw [hwords, List.map_cons] at h
    obtain rfl := Option.some.inj h
    have hw : w ∈ words s.toList := hwords ▸ List.mem_cons_self
    constructor
    · rw [isAllBlank, String.toList_ofList]
      exact allBlank_of_mem_words hw
    · rw [String.toList_ofList]
      exact trim_eq_self (not_of_mem_splitWhere (List.mem_filter.mp hw).1)

/-- The program of an accepted entry is kept, since it is trimmed. -/
theorem ensures_kept (place : Nat) (e : CommandEntry) :
    Ensures (fun c : CommandText => Kept c.program) (e.command place) := by
  cases e with
  | line s =>
    simp only [CommandEntry.command]
    split
    · exact Ensures.error _
    · exact Ensures.ok (kept_of_parse? ‹_›)
  | parts program arguments timeout =>
    simp only [CommandEntry.command]
    split
    · exact Ensures.error _
    · rename_i hprogram
      have hkept := kept_trimmed (Bool.eq_false_iff.mpr hprogram)
      exact Ensures.bind_any fun _ => Ensures.ok hkept

/-- An accepted program has no blanks around it and is not blank. -/
theorem IsProgram.kept {program : String} (h : IsProgram program) : Kept program := by
  cases h with
  | text h => exact kept_of_parse? h
  | @entry e place c h => exact ensures_kept place e c h

/-- The name of a kept program is kept. -/
theorem Kept.executeName {program : String} (h : Kept program) : Kept (executeName program) := by
  have hne : program.toList ≠ [] := by
    intro hnil
    have hblank := h.isAllBlank
    rw [Text.isAllBlank, hnil] at hblank
    exact absurd hblank (by decide)
  constructor
  · rw [isAllBlank_eq_false_iff, toList_executeName]
    exact ⟨'E', List.mem_append_left _ (by decide), by decide⟩
  · rw [toList_executeName, trim_eq_self_iff, List.getLast?_append_of_ne_nil _ hne]
    exact ⟨by simp; decide, (trim_eq_self_iff.mp h.trim).2⟩

/-- A name under which something is measured is kept. -/
theorem IsMeasured.kept {name : String} (h : IsMeasured name) : Kept name := by
  cases h with
  | endpoint e => cases e <;> exact ⟨by decide, by decide⟩
  | poll => exact ⟨by decide, by decide⟩
  | completion => exact ⟨by decide, by decide⟩
  | execute h => exact h.kept.executeName

end GatewayProbe.Slo
