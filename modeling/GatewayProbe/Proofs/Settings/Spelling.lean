import GatewayProbe.CommandLine.Keys
import GatewayProbe.Proofs.Decimal.Characters
import GatewayProbe.Proofs.Duration.Grammar
import GatewayProbe.Proofs.Settings.WeightTables
import GatewayProbe.Proofs.Slo.Naming

/-!
# Settings in two spellings

What is given on the command line as one text stands in a settings file as data. Both are accepted
or refused alike, and both come to the same setting: latency targets, durations, weights and
commands.
-/

namespace GatewayProbe.Slo

open GatewayProbe.Text

/-- A number is no marked percentile. -/
theorem unmark_eq_self {s : List Char} (h : ∀ c ∈ s, Decimal.isNumeral c = true) :
    unmark s = (s, false) := by
  unfold unmark
  split
  · exact absurd (h 'p' List.mem_cons_self) (by decide)
  · exact absurd (h 'P' List.mem_cons_self) (by decide)
  · rfl

/-- A number has no unit. -/
theorem dropUnit_eq_self {s : List Char} (h : ∀ c ∈ s, Decimal.isNumeral c = true) :
    dropUnit s = s := by
  have hgo : dropUnit.go s.reverse = s.reverse := by
    unfold dropUnit.go
    split
    · rename_i rest heq
      have hmem : 's' ∈ s := List.mem_reverse.mp (heq ▸ List.mem_cons_self)
      exact absurd (h 's' hmem) (by decide)
    · rfl
  rw [dropUnit, hgo, List.reverse_reverse]

variable {endpoint percentile limit : String} {p m : Float}

/-- A percentile without a mark is the quantile that its number stands for, if that is one. -/
theorem toOption_readQuantile (hp : Decimal.parse percentile.toList = some p) :
    (readQuantile percentile.toList).toOption =
      if isQuantile (quantileOf p false) then some (quantileOf p false) else none := by
  have hnumeral := Decimal.isNumeral_of_parse hp
  have htrim := trim_eq_self fun c hc => Decimal.isBlank_of_isNumeral (hnumeral c hc)
  simp only [readQuantile, htrim, unmark_eq_self hnumeral, hp]
  split <;> rfl

/-- A latency without its unit is its number. -/
theorem readLimit_eq (hm : Decimal.parse limit.toList = some m) :
    readLimit limit.toList = .ok m := by
  have hnumeral := Decimal.isNumeral_of_parse hm
  have htrim := trim_eq_self fun c hc => Decimal.isBlank_of_isNumeral (hnumeral c hc)
  simp only [readLimit, htrim, dropUnit_eq_self hnumeral, hm]

/-- The numbers of a target are split off from its name. -/
theorem parts?_eq (hp : Decimal.parse percentile.toList = some p)
    (hm : Decimal.parse limit.toList = some m) :
    parts? (endpoint ++ ":" ++ percentile ++ ":" ++ limit).toList =
      some (endpoint.toList, percentile.toList, limit.toList) := by
  have hlimit : ':' ∉ limit.toList := fun h =>
    absurd (Decimal.isNumeral_of_parse hm ':' h) (by decide)
  have hpercentile : ':' ∉ percentile.toList := fun h =>
    absurd (Decimal.isNumeral_of_parse hp ':' h) (by decide)
  exact parts?_spelling endpoint hpercentile hlimit

/-- There is no target without a quantile. -/
theorem toOption_create_eq_none (name : String) {q : Float} (limit : Float)
    (h : isQuantile q = false) : (Threshold.create name q limit).toOption = none := by
  simp only [Threshold.create, h]
  split <;> rfl

/-- A target as a text is accepted where its parts are. -/
theorem toOption_parse (hp : Decimal.parse percentile.toList = some p)
    (hm : Decimal.parse limit.toList = some m) :
    (Threshold.parse (endpoint ++ ":" ++ percentile ++ ":" ++ limit)).toOption =
      (Threshold.create (trimmed endpoint) (quantileOf p false) m).toOption := by
  have hquantile := toOption_readQuantile hp
  simp only [Threshold.parse, parts?_eq hp hm, readLimit_eq hm]
  -- A blank name is refused on both sides: in the text at once, among the parts by their check.
  cases hname : trim endpoint.toList with
  | nil => simp [Threshold.create, trimmed, hname, isAllBlank, allBlank, Except.toOption]
  | cons c rest =>
    rw [trimmed, hname]
    cases hread : readQuantile percentile.toList with
    | ok q =>
      obtain ⟨-, rfl⟩ : isQuantile (quantileOf p false) = true ∧ q = quantileOf p false := by
        simpa [hread, Except.toOption] using hquantile
      rfl
    | error fault =>
      have hnone : isQuantile (quantileOf p false) = false := by
        simpa [hread, Except.toOption] using hquantile
      rw [toOption_create_eq_none _ _ hnone]
      rfl

end GatewayProbe.Slo

namespace GatewayProbe.Duration

open GatewayProbe.Text

/-- A number alone counts seconds. -/
theorem toOption_parse_toString {n : Nat} (h : n ≤ max64) :
    (parse (toString n)).toOption = if n = 0 then none else some (ofSeconds n) := by
  by_cases hn : n = 0
  · rw [if_pos hn, hn]
    decide
  · have hunit : "" ∈ TimeUnit.seconds.names := by decide
    have hparse := parse_written hunit (Nat.pos_of_ne_zero hn) (Nat.lt_of_le_pred (by decide) h)
      trivial
    rw [String.append_empty] at hparse
    rw [if_neg hn, hparse]
    rfl

end GatewayProbe.Duration

namespace GatewayProbe.Settings

open GatewayProbe.Text GatewayProbe.Load GatewayProbe.CommandLine

/-- The three parts of a latency target as a table of a settings file. -/
def SloEntry.data (e : SloEntry) : Data :=
  .table [("endpoint", .text e.endpoint), ("percentile", .real e.percentile),
    ("max_ms", .real e.maxMillis)]

private theorem SloEntry.read?_data (surplus : Data.Surplus) (e : SloEntry) :
    read? surplus e.data = some e := by
  simp [read?, data, Data.fields?, Data.valuesOf]
  rfl

/-- It does not matter for the value how a fault is put. -/
theorem toOption_mapError {α ε ε' : Type} (f : ε → ε') (x : Except ε α) :
    (x.mapError f).toOption = x.toOption := by
  cases x <;> rfl

/-- A settings file and the command line give each kind the same weight. -/
theorem WeightTable.exists_read_spelling {kind : String → TaskKind} {pairs : List (String × Nat)}
    (h : Weights.Named kind pairs) (hne : pairs ≠ []) :
    ∃ table, read? (data pairs) = some table ∧
      (readWeights (Weights.spelling pairs)).toOption.map (fun ws k => ws.lookup k) =
        table.weights.toOption.map fun ws k => ws.lookup k := by
  obtain ⟨table, hread, hperm⟩ := exists_read_data h.nodup_names h.bound
  refine ⟨table, hread, ?_⟩
  rw [readWeights, Weights.parse_spelling h hne, weights_eq (h.of_perm hperm), toOption_mapError,
    toOption_mapError]
  exact Weights.lookup_requireSome_of_perm (hperm.map _).symm h.nodup_ofNames

/-- What can be given on the command line and in a settings file is accepted or refused by both,
and comes to the same. For a latency target the numbers may be any texts that are read as these
doubles; a count of seconds stands for itself unless it is zero; the names of a weight table are any
names of different kinds. -/
theorem spelled_alike :
    (∀ (e percentile limit : String) (p m : Float) (surplus : Data.Surplus) (place : Nat),
      Decimal.parse? percentile = some p → Decimal.parse? limit = some m →
      ∃ entry, SloEntry.read? surplus (SloEntry.data ⟨e, p, m⟩) = some entry ∧
        (readSlo (e ++ ":" ++ percentile ++ ":" ++ limit)).toOption =
          (entry.threshold place).toOption) ∧
    (∀ (n : Nat) (field : String), n ≤ max64 →
      ∃ entry, DurationEntry.read? (.integer n) = some entry ∧
        (readDuration (toString n)).toOption = (entry.durationOf field).toOption ∧
        (readDuration (toString n)).toOption = if n = 0 then none else some (.ofSeconds n)) ∧
    (∀ s field : String, ∃ entry, DurationEntry.read? (.text s) = some entry ∧
      (readDuration s).toOption = (entry.durationOf field).toOption) ∧
    (∀ (kind : String → TaskKind) (pairs : List (String × Nat)), Weights.Named kind pairs →
      pairs ≠ [] → ∃ table, WeightTable.read? (WeightTable.data pairs) = some table ∧
        (readWeights (Weights.spelling pairs)).toOption.map (fun ws k => ws.lookup k) =
          table.weights.toOption.map fun ws k => ws.lookup k) ∧
    ∀ (s : String) (place : Nat), ∃ entry, CommandEntry.read? (.text s) = some entry ∧
      (readCommand s).toOption = (entry.command place).toOption := by
  refine ⟨fun e percentile limit p m surplus place hp hm => ⟨_, SloEntry.read?_data surplus _, ?_⟩,
    fun n field hn => ⟨.seconds n, ?_, ?_, ?_⟩, fun s field => ⟨.text s, rfl, ?_⟩,
    fun kind pairs => WeightTable.exists_read_spelling, fun s place => ⟨.line s, rfl, ?_⟩⟩
  · rw [readSlo, SloEntry.threshold, toOption_mapError, toOption_mapError]
    exact Slo.toOption_parse hp hm
  · simp [DurationEntry.read?, Data.count?, hn]
  · rw [readDuration, DurationEntry.durationOf, toOption_mapError, toOption_mapError]
    rfl
  · rw [readDuration, toOption_mapError]
    exact Duration.toOption_parse_toString hn
  · rw [readDuration, DurationEntry.durationOf, toOption_mapError, toOption_mapError]
    rfl
  · rw [readCommand, CommandEntry.command]
    cases CommandText.parse? s <;> rfl

/-- A name with colons, a percentage, the largest count of seconds, and names of kinds in their
loosest form. -/
theorem spelled_alike_loosely :
    (readSlo " tasks:poll :99.9:1e3").toOption =
      (SloEntry.threshold 2 ⟨" tasks:poll ", 99.9, 1e3⟩).toOption ∧
    (readDuration "18446744073709551615").toOption = some (.ofSeconds 18446744073709551615) ∧
    (∃ table, WeightTable.read? (WeightTable.data [("Status_Check", 0), (" exec ", 4294967295)]) =
        some table ∧
      (readWeights "Status_Check=0, exec =4294967295").toOption.map (fun ws k => ws.lookup k) =
        table.weights.toOption.map fun ws k => ws.lookup k) := by
  obtain ⟨hslo, hduration, -, hweights, -⟩ := spelled_alike
  refine ⟨?_, ?_, ?_⟩
  · obtain ⟨entry, hread, hspelled⟩ := hslo " tasks:poll " "99.9" "1e3" 99.9 1e3 .refused 2
      (by decide +kernel) (by decide +kernel)
    obtain rfl := Option.some.inj ((SloEntry.read?_data _ _).symm.trans hread)
    exact hspelled
  · obtain ⟨entry, -, -, hvalue⟩ := hduration 18446744073709551615 "load.duration" (by decide)
    exact hvalue
  · refine hweights (fun name => if name = " exec " then .execute else .status) _
      ⟨List.forall_mem_cons.mpr ⟨rfl, List.forall_mem_singleton.mpr rfl⟩, by decide, by decide⟩
      (List.cons_ne_nil _ _)

end GatewayProbe.Settings
