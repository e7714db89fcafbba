import GatewayProbe.Proofs.CommandLine.Reading
import GatewayProbe.Proofs.Settings.Precedence
import GatewayProbe.Proofs.Slo.Naming
import GatewayProbe.Proofs.Text.Joining

/-!
# Settings that are allowed

No duration is empty, there are users, a rate and a weight, no command is blank, and every target
has a name, a quantile and a latency that are allowed. The usual settings are so; a value is
accepted on the command line or found in a settings file only if it is so; and therefore the
settings of every load run are so, wherever each of them comes from.
-/

namespace GatewayProbe.Settings

open GatewayProbe.Text GatewayProbe.CommandLine

/-! ## Values that are allowed -/

/-- A command with a program and, if it has a timeout of its own, one that is not empty. -/
structure CommandText.Allowed (c : CommandText) : Prop where
  program : isAllBlank c.program = false
  timeout : ∀ d, c.timeout = some d → d.isZero = false

/-- The values that a key may have. -/
def GatewayKey.Allowed : (k : GatewayKey) → k.Value → Prop
  | .url, _ | .serverCommand, _ | .serverArguments, _ | .readyPattern, _ => True
  | .readyTimeout, d | .stopGrace, d | .requestTimeout, d | .commandTimeout, d => d.isZero = false

/-- The values that a key may have. -/
def LoadKey.Allowed : (k : LoadKey) → k.Value → Prop
  | .gateway k, v => k.Allowed v
  | .users, n => n ≠ 0
  | .userRate, rate => Load.isRate rate = true
  | .duration, d | .spawnInterval, d | .pollInterval, d | .pollMaxWait, d => d.isZero = false
  | .spawnRate, n => n ≠ some 0
  | .weights, ws => ws.isNull = false
  | .commands, cs => ∀ c ∈ cs, c.Allowed
  | .slos, ts => ∀ t ∈ ts, t.Allowed
  | .exportJson, _ | .failOnSlo, _ | .seed, _ => True

/-- Settings, each of which may be so. -/
def LoadSettings.Allowed (s : LoadSettings) : Prop := ∀ k : LoadKey, k.Allowed (k.get s)

/-- The usual settings are allowed. -/
theorem LoadSettings.allowed_usual : LoadSettings.Allowed {} := by
  intro k
  cases k with
  | gateway k => cases k <;> trivial
  | users => exact (by decide : (20 : Nat) ≠ 0)
  | userRate => exact (by decide +kernel : Load.isRate 5.0 = true)
  | spawnRate => exact (by decide : (none : Option Nat) ≠ some 0)
  | commands | slos => exact nofun
  | _ => trivial

/-! ## Values that are read -/

private theorem ensures_ofCount (n : Nat) (name : List Char) :
    Ensures (fun d : Duration => d.isZero = false) (Duration.ofCount n name) := by
  unfold Duration.ofCount
  split
  · exact Ensures.error _
  · split
    · exact Ensures.error _
    · split
      · exact Ensures.error _
      · exact Ensures.ok (Bool.eq_false_iff.mpr ‹_›)

/-- No text is read as an empty duration. -/
theorem ensures_duration (s : String) :
    Ensures (fun d : Duration => d.isZero = false) (Duration.parse s) := by
  unfold Duration.parse Duration.readTrimmed
  dsimp only
  split
  · exact Ensures.error _
  · split
    · exact Ensures.error _
    · split
      · exact Ensures.error _
      · exact ensures_ofCount _ _

private theorem ensures_positive (n : Nat) : Ensures (· ≠ 0) (requirePositive n) := by
  unfold requirePositive
  split
  · exact Ensures.error _
  · exact Ensures.ok ‹_›

private theorem ensures_count (s : String) : Ensures (· ≠ 0) (parseCount s) := by
  unfold parseCount
  split
  · exact Ensures.error _
  · exact ensures_positive _

private theorem ensures_weights (ws : Load.Weights) :
    Ensures (fun ws : Load.Weights => ws.isNull = false) ws.requireSome := by
  unfold Load.Weights.requireSome
  split
  · exact Ensures.error _
  · exact Ensures.ok (Bool.eq_false_iff.mpr ‹_›)

/-- The first word of a command is its program. -/
theorem allowed_of_parse? {s : String} {c : CommandText} (h : CommandText.parse? s = some c) :
    c.Allowed := by
  unfold CommandText.parse? at h
  split at h
  · cases h
  · rename_i program arguments hwords
    cases h
    refine ⟨?_, nofun⟩
    have hmem : program ∈ wordsOf s := hwords ▸ List.mem_cons_self
    obtain ⟨w, hw, rfl⟩ := List.mem_map.mp hmem
    rw [isAllBlank, String.toList_ofList]
    exact allBlank_of_mem_words hw

/-! ## Values on the command line -/

private theorem ensures_readDuration (s : String) :
    Ensures (fun d : Duration => d.isZero = false) (readDuration s) :=
  (ensures_duration s).mapError _

private theorem ensures_readCount (s : String) : Ensures (· ≠ 0) (readCount s) :=
  (ensures_count s).mapError _

private theorem ensures_readRate (s : String) :
    Ensures (fun rate => Load.isRate rate = true) (readRate s) := by
  unfold readRate Load.readRate?
  cases hrate : (Decimal.parse (trim s.toList)).filter Load.isRate with
  | none => exact Ensures.error _
  | some rate => exact Ensures.ok (Option.filter_eq_some_iff.mp hrate).2

private theorem ensures_readWeights (s : String) :
    Ensures (fun ws : Load.Weights => ws.isNull = false) (readWeights s) :=
  (Ensures.bind_any ensures_weights).mapError _

private theorem ensures_readCommand (s : String) : Ensures CommandText.Allowed (readCommand s) := by
  unfold readCommand
  cases hparse : CommandText.parse? s with
  | none => exact Ensures.error _
  | some c => exact Ensures.ok (allowed_of_parse? hparse)

private theorem ensures_readSlo (s : String) : Ensures Slo.Threshold.Allowed (readSlo s) :=
  (Slo.ensures_parse s).mapError _

private theorem ensures_acceptGateway (k : GatewayKey) (old : k.Value) (s : String) :
    Ensures k.Allowed (acceptGateway k old s) := by
  cases k with
  | readyTimeout | stopGrace | requestTimeout | commandTimeout => exact ensures_readDuration s
  | _ => exact Ensures.ok trivial

/-- A value that is accepted on the command line is allowed, if the one before it was. -/
theorem ensures_acceptLoad {k : LoadKey} {old : k.Value} (hold : k.Allowed old) (s : String) :
    Ensures k.Allowed (acceptLoad k old s) := by
  cases k with
  | gateway k => exact ensures_acceptGateway k old s
  | users => exact ensures_readCount s
  | userRate => exact ensures_readRate s
  | duration | spawnInterval | pollInterval | pollMaxWait => exact ensures_readDuration s
  | spawnRate =>
    refine (ensures_readCount s).map fun n hn heq => hn ?_
    exact Option.some.inj heq
  | weights => exact ensures_readWeights s
  | commands =>
    refine (ensures_readCommand s).map fun c hc => ?_
    exact List.forall_mem_append.mpr ⟨hold, List.forall_mem_singleton.mpr hc⟩
  | slos =>
    refine (ensures_readSlo s).map fun t ht => ?_
    exact List.forall_mem_append.mpr ⟨hold, List.forall_mem_singleton.mpr ht⟩
  | seed => exact fun _ _ => trivial
  | _ => exact Ensures.ok trivial

/-! ## Values of a settings file -/

private theorem ensures_durationOf (field : String) (e : DurationEntry) :
    Ensures (fun d : Duration => d.isZero = false) (e.durationOf field) := by
  cases e with
  | seconds n => exact (ensures_duration (toString n)).mapError _
  | text s => exact (ensures_duration s).mapError _

private theorem ensures_command (place : Nat) (e : CommandEntry) :
    Ensures CommandText.Allowed (e.command place) := by
  cases e with
  | line s =>
    simp only [CommandEntry.command]
    split
    · exact Ensures.error _
    · exact Ensures.ok (allowed_of_parse? ‹_›)
  | parts program arguments timeout =>
    simp only [CommandEntry.command]
    split
    · exact Ensures.error _
    · rename_i hprogram
      have hblank : isAllBlank (trimmed program) = false :=
        (isAllBlank_trimmed program).trans (Bool.eq_false_iff.mpr hprogram)
      refine Ensures.bind (p := fun t : Option Duration => ∀ d, t = some d → d.isZero = false) ?_
        fun t ht => Ensures.ok ⟨hblank, ht⟩
      cases timeout with
      | none =>
        refine Ensures.ok fun d h => ?_
        cases h
      | some entry =>
        refine (ensures_durationOf _ entry).map fun d hd d' heq => ?_
        rw [← Option.some.inj heq]
        exact hd

private theorem ensures_threshold (place : Nat) (e : SloEntry) :
    Ensures Slo.Threshold.Allowed (e.threshold place) :=
  (Slo.ensures_create _ _ _).mapError _

private theorem ensures_forPlaces {α β ε : Type} {p : β → Prop} {f : Nat → α → Except ε β}
    (h : ∀ place a, Ensures p (f place a)) (place : Nat) (as : List α) :
    Ensures (fun bs => ∀ b ∈ bs, p b) (forPlaces f place as) := by
  induction as generalizing place with
  | nil => exact Ensures.ok nofun
  | cons a rest ih =>
    exact (h place a).bind fun b hb => (ih (place + 1)).bind fun bs hbs =>
      Ensures.ok (List.forall_mem_cons.mpr ⟨hb, hbs⟩)

private theorem GatewayKey.ensures_inFile {f : File} {k : GatewayKey}
    {x : Except SettingsFault k.Value} (h : inFile f k = some x) : Ensures k.Allowed x := by
  cases k with
  | requestTimeout | commandTimeout =>
    obtain ⟨e, -, rfl⟩ := Option.map_eq_some_iff.mp h
    exact ensures_durationOf _ e
  | readyTimeout | stopGrace =>
    obtain ⟨section_, -, hvalue⟩ := Option.bind_eq_some_iff.mp h
    obtain ⟨e, -, rfl⟩ := Option.map_eq_some_iff.mp hvalue
    exact ensures_durationOf _ e
  | _ => exact fun _ _ => trivial

private theorem ensures_rateOf (rate : Float) :
    Ensures (fun rate => Load.isRate rate = true) (LoadKey.rateOf rate) := by
  unfold LoadKey.rateOf
  split
  · exact Ensures.ok ‹_›
  · exact Ensures.error _

private theorem ensures_tableWeights (table : WeightTable) :
    Ensures (fun ws : Load.Weights => ws.isNull = false) table.weights :=
  Ensures.bind_any fun ws => (ensures_weights ws).mapError _

private theorem LoadKey.ensures_inSection {s : LoadSection} {k : LoadKey}
    {x : Except SettingsFault k.Value} (h : inSection s k = some x) : Ensures k.Allowed x := by
  cases k with
  | gateway k => cases h
  | users =>
    obtain ⟨n, -, rfl⟩ := Option.map_eq_some_iff.mp h
    exact (ensures_positive n).mapError _
  | userRate =>
    obtain ⟨rate, -, rfl⟩ := Option.map_eq_some_iff.mp h
    exact ensures_rateOf rate
  | duration | spawnInterval | pollInterval | pollMaxWait =>
    obtain ⟨e, -, rfl⟩ := Option.map_eq_some_iff.mp h
    exact ensures_durationOf _ e
  | spawnRate =>
    obtain ⟨n, -, rfl⟩ := Option.map_eq_some_iff.mp h
    exact ((ensures_positive n).mapError _).map fun n hn heq => hn (Option.some.inj heq)
  | weights =>
    obtain ⟨table, -, rfl⟩ := Option.map_eq_some_iff.mp h
    exact ensures_tableWeights table
  | commands =>
    obtain ⟨entries, -, rfl⟩ := Option.map_eq_some_iff.mp h
    exact ensures_forPlaces ensures_command 0 entries
  | slos =>
    obtain ⟨entries, -, rfl⟩ := Option.map_eq_some_iff.mp h
    exact ensures_forPlaces ensures_threshold 0 entries
  | exportJson | failOnSlo | seed => exact fun _ _ => trivial

/-- A value that is found in a settings file is allowed. -/
theorem LoadKey.ensures_inFile {f : File} {k : LoadKey} {x : Except SettingsFault k.Value}
    (h : inFile f k = some x) : Ensures k.Allowed x := by
  cases k with
  | gateway k => exact GatewayKey.ensures_inFile h
  | _ =>
    obtain ⟨s, -, hvalue⟩ := Option.bind_eq_some_iff.mp h
    exact ensures_inSection hvalue

/-! ## Settings of a load run -/

namespace LoadSettings

/-- An allowed value leaves settings allowed. -/
theorem Allowed.set {s : LoadSettings} (h : s.Allowed) {k : LoadKey} {v : k.Value}
    (hv : k.Allowed v) : (k.set s v).Allowed := by
  intro j
  by_cases hj : j = k
  · subst hj
    have hget : j.get (j.set s v) = v := LawfulKeyed.get_set_self (S := LoadSettings) s j v
    rw [hget]
    exact hv
  · have hget : j.get (k.set s v) = j.get s :=
      LawfulKeyed.get_set_of_ne (S := LoadSettings) s v hj
    rw [hget]
    exact h j

/-- So every value that is accepted on the command line does. -/
theorem keptByValues_allowed :
    KeptByValues fun s : Globals × LoadSettings => s.2.Allowed := by
  intro s k value v hs haccept
  cases k with
  | inl k => exact hs
  | inr k => exact hs.set (ensures_acceptLoad (hs k) value v haccept)

/-- Settings stay allowed when a settings file is merged into them. -/
theorem Allowed.merge {given : LoadKey → Bool} {f : File} {s : LoadSettings} (h : s.Allowed) :
    Ensures LoadSettings.Allowed (s.merge given f) := by
  intro t ht k
  have hvalue : k.get t = valueAt given (LoadKey.inFile f) s k :=
    ((precedence given).merges f s).value t ht k
  rw [hvalue, valueAt]
  split
  · exact h k
  · cases hfile : LoadKey.inFile f k with
    | none => exact h k
    | some value =>
      cases value with
      | error fault => exact h k
      | ok v => exact LoadKey.ensures_inFile hfile v rfl

/-- There is no base address that is not allowed. -/
theorem Allowed.withUrl {s : LoadSettings} (h : s.Allowed) (url : Option String) (isGiven : Bool) :
    LoadSettings.Allowed { s with gateway := withUrl url isGiven s.gateway } := by
  intro k
  cases isGiven with
  | true => exact h k
  | false =>
    cases k with
    | gateway k => cases k <;> first | trivial | exact h (.gateway _)
    | _ => exact h _

end LoadSettings

end GatewayProbe.Settings
