import GatewayProbe.Proofs.Load.Apportioning
import GatewayProbe.Proofs.Load.Audit
import GatewayProbe.Proofs.Settings.Allowed

/-!
# From settings to a plan

Whatever load run is asked for, on the command line and in a settings file, its settings are
allowed; so they make a plan, and the plan leaves something to do. Its commands are those that were
asked for, in their order, each with its own timeout or else with the usual one.
-/

namespace GatewayProbe.Load

/-- A plan that a run can rely on: nothing it waits for, divides by or chooses from is empty. -/
structure Plan.Sound (p : Plan) : Prop where
  commands : p.commands ≠ []
  rate : isRate p.rate = true
  users : 1 ≤ p.users
  spawnRate : 1 ≤ p.spawnRate
  duration : p.duration.isZero = false
  spawnInterval : p.spawnInterval.isZero = false
  pollInterval : p.poll.interval.isZero = false
  pollMaxWait : p.poll.maxWait.isZero = false
  /-- Some kind can be chosen, and the number that chooses it is a 32-bit word. -/
  mix : 0 < p.mix.weights.total ∧ p.mix.weights.total ≤ Text.max32
  programs : ∀ c ∈ p.commands, Text.isAllBlank c.program = false
  timeouts : ∀ c ∈ p.commands, c.timeout.isZero = false

/-- A sound plan is accepted. -/
theorem Plan.Sound.validate {p : Plan} (h : p.Sound) : p.validate = .ok () :=
  Run.validate_eq_ok.mpr ⟨h.commands, h.rate,
    ⟨Nat.one_le_iff_ne_zero.mp h.users, Nat.one_le_iff_ne_zero.mp h.spawnRate⟩,
    h.duration, h.spawnInterval⟩

end GatewayProbe.Load

namespace GatewayProbe.Settings

open GatewayProbe.Load GatewayProbe.Gateway GatewayProbe.Text GatewayProbe.CommandLine

/-- What comes of an item stands where the item stood. -/
theorem getElem?_forPlaces {α β ε : Type} {f : Nat → α → Except ε β} {place : Nat} {as : List α}
    {bs : List β} (h : forPlaces f place as = .ok bs) {j : Nat} {a : α} (hj : as[j]? = some a) :
    ∃ b, f (place + j) a = .ok b ∧ bs[j]? = some b := by
  induction as generalizing place bs j with
  | nil => simp at hj
  | cons first rest ih =>
    obtain ⟨b, hfirst, hafter⟩ := exists_of_bind_eq_ok h
    obtain ⟨others, hrest, hall⟩ := exists_of_bind_eq_ok hafter
    obtain rfl := Except.ok.inj hall
    cases j with
    | zero =>
      obtain rfl := Option.some.inj hj
      exact ⟨b, hfirst, rfl⟩
    | succ j =>
      obtain ⟨c, hc, hj'⟩ := ih hrest hj
      rw [Nat.add_right_comm] at hc
      exact ⟨c, hc, hj'⟩

namespace LoadSettings

/-- The commands of a plan are those of the settings with their timeouts, or else the usual ones. -/
theorem gatewayCommands_eq (s : LoadSettings) : s.gatewayCommands =
    if s.commands = [] then Command.standardMix s.gateway.commandTimeout
    else s.commands.map fun c =>
      ⟨c.program, c.arguments, c.timeout.getD s.gateway.commandTimeout⟩ := by
  unfold gatewayCommands
  cases s.commands <;> rfl

/-- Commands that are not given are those of the file, in its order. -/
theorem commands_of_merge {given : LoadKey → Bool} {f : File} {s t : LoadSettings}
    (h : s.merge given f = .ok t) (hgiven : given .commands = false) {entries : List CommandEntry}
    (hentries : (f.load.bind fun l => l.commands) = some entries) :
    forPlaces CommandEntry.command 0 entries = .ok t.commands := by
  have hmerges := (precedence given).merges f s
  have hfile : LoadKey.inFile f .commands = some (forPlaces CommandEntry.command 0 entries) := by
    obtain ⟨l, hl, hcommands⟩ := Option.bind_eq_some_iff.mp hentries
    simp [LoadKey.inFile, LoadKey.inSection, hl, hcommands]
  have hvalue : t.commands = valueAt given (LoadKey.inFile f) s LoadKey.commands :=
    hmerges.value t h .commands
  cases hplaces : forPlaces CommandEntry.command 0 entries with
  | error fault =>
    rw [hplaces] at hfile
    exact absurd ⟨hgiven, hfile⟩ (hmerges.ok_iff.mp ⟨t, h⟩ LoadKey.commands fault)
  | ok cs =>
    rw [hplaces] at hfile
    rw [hvalue, valueAt, hfile]
    simp [hgiven, Except.toOption]

variable {s : LoadSettings}

/-- No command of a load run is blank or has an empty timeout. -/
theorem Allowed.gatewayCommands (h : s.Allowed) : ∀ c ∈ s.gatewayCommands,
    isAllBlank c.program = false ∧ c.timeout.isZero = false := by
  have htimeout : s.gateway.commandTimeout.isZero = false := h (.gateway .commandTimeout)
  rw [gatewayCommands_eq]
  split
  · intro c hc
    have hprogram : c.program ∈ ["ls", "cat", "find", "echo", "grep"] := List.mem_map_of_mem hc
    have hnone : ∀ name ∈ ["ls", "cat", "find", "echo", "grep"], isAllBlank name = false := by
      decide
    refine ⟨hnone _ hprogram, ?_⟩
    simp only [Command.standardMix, List.mem_cons, List.not_mem_nil, or_false] at hc
    rcases hc with rfl | rfl | rfl | rfl | rfl <;> exact htimeout
  · intro command hcommand
    obtain ⟨c, hc, rfl⟩ := List.mem_map.mp hcommand
    have hallowed : c.Allowed := h .commands c hc
    refine ⟨hallowed.program, ?_⟩
    cases hown : c.timeout with
    | none => exact htimeout
    | some d => exact hallowed.timeout d hown

/-- Allowed settings make a sound plan. -/
theorem Allowed.exists_plan (h : s.Allowed) (htotal : s.weights.total ≤ max32) :
    ∃ plan, s.plan = .ok plan ∧ plan.Sound ∧ plan.mix.weights = s.weights ∧
      plan.commands = s.gatewayCommands := by
  have hpos : 0 < s.weights.total := Weights.total_pos_iff.mpr (h .weights)
  have hmix : s.weights.mix = .ok ⟨s.weights, hpos, htotal⟩ := Weights.mix_eq_ok_iff.mpr rfl
  have hcommands := h.gatewayCommands
  refine ⟨_, by rw [plan, hmix]; rfl, ?_, rfl, rfl⟩
  exact {
    commands := by
      change s.gatewayCommands ≠ []
      rw [gatewayCommands_eq]
      split
      · exact List.cons_ne_nil _ _
      · exact mt List.map_eq_nil_iff.mp ‹_›
    rate := h .userRate
    users := Nat.one_le_iff_ne_zero.mpr (h .users)
    spawnRate := by
      change 1 ≤ s.spawnRate.getD s.users
      refine Nat.one_le_iff_ne_zero.mpr ?_
      cases hrate : s.spawnRate with
      | none => exact h .users
      | some n => exact fun hzero => h .spawnRate (hrate.trans (congrArg some hzero))
    duration := h .duration
    spawnInterval := h .spawnInterval
    pollInterval := h .pollInterval
    pollMaxWait := h .pollMaxWait
    mix := ⟨hpos, htotal⟩
    programs := fun c hc => (hcommands c hc).1
    timeouts := fun c hc => (hcommands c hc).2 }

end LoadSettings

end GatewayProbe.Settings

namespace GatewayProbe.CommandLine

open GatewayProbe.Settings GatewayProbe.Load GatewayProbe.Text

/-- The settings of a load run are allowed. -/
def Command.Allowed : Command → Prop
  | .load s _ => s.Allowed
  | .check _ _ => True

private theorem ensures_readLoad (url : Option String) (words : List String) :
    Ensures (fun r : Globals × List GlobalKey × Command => r.2.2.Allowed) (readLoad url words) :=
  (ensures_readCommandWords LoadSettings.keptByValues_allowed LoadSettings.allowed_usual words).bind
    fun _ hr => Ensures.ok (LoadSettings.Allowed.withUrl hr _ _)

private theorem ensures_readCheck (url : Option String) (words : List String) :
    Ensures (fun r : Globals × List GlobalKey × Command => r.2.2.Allowed) (readCheck url words) :=
  Ensures.bind_any fun _ => Ensures.ok trivial

/-- Whatever command line is understood, its settings are allowed. -/
theorem ensures_read (url : Option String) (words : List String) :
    Ensures (fun i : Invocation => i.command.Allowed) (read url words) := by
  refine Ensures.bind_any fun level => ?_
  obtain ⟨outer, ending⟩ := level
  cases ending with
  | words => exact Ensures.bind_any fun _ => Ensures.error _
  | command name rest =>
    dsimp only
    split
    · exact (ensures_readLoad url rest).bind fun r hr => Ensures.bind_any fun _ => Ensures.ok hr
    · exact (ensures_readCheck url rest).bind fun r hr => Ensures.bind_any fun _ => Ensures.ok hr

/-- And they are so after a settings file has been merged into them. -/
theorem Command.Allowed.merge {i : Invocation} (h : i.command.Allowed) (f : File) :
    Ensures (fun i : Invocation => i.command.Allowed) (i.merge f) := by
  obtain ⟨globals, command⟩ := i
  cases command with
  | load s given => exact (LoadSettings.Allowed.merge h).map fun _ ht => ht
  | check s given => exact Ensures.map (p := fun _ => True) (fun _ _ => trivial) fun _ _ => trivial

/-- So the settings of every command that is accepted, on the command line and in a settings file,
are allowed. -/
theorem allowed_of_read {url : Option String} {words : List String} {i i' : Invocation}
    {f : Option File} (hread : read url words = .ok i) (hmerge : f.elim (.ok i) i.merge = .ok i') :
    i'.command.Allowed := by
  have hi := ensures_read url words i hread
  cases f with
  | none =>
    obtain rfl := Except.ok.inj hmerge
    exact hi
  | some file => exact hi.merge file i' hmerge

/-- The settings of a load run come from such settings by a merge, with the same keys given. -/
theorem exists_merge_of_load {i i' : Invocation} {f : File} {s : LoadSettings}
    {given : List LoadKey} (hmerge : i.merge f = .ok i') (hload : i'.command = .load s given) :
    ∃ s₀ : LoadSettings, s₀.merge given.contains f = .ok s := by
  obtain ⟨globals, command⟩ := i
  cases command with
  | load s₀ given₀ =>
    obtain ⟨t, ht, rfl⟩ := exists_of_map_eq_ok hmerge
    obtain ⟨rfl, rfl⟩ := Command.load.inj hload
    exact ⟨s₀, ht⟩
  | check s₀ given₀ =>
    obtain ⟨t, -, rfl⟩ := exists_of_map_eq_ok hmerge
    cases hload

/-- Whatever load run is accepted, on the command line and in a settings file, there is a plan for
it, which is sound and is not refused. Its kinds are drawn by the weights of the settings, and its
commands are those of the settings in their order, with their own timeouts or else the usual one;
those of the file stand in the order of the file. -/
theorem exists_plan_of_read {url : Option String} {words : List String} {i i' : Invocation}
    {f : Option File} {s : LoadSettings} {given : List LoadKey}
    (hread : read url words = .ok i) (hmerge : f.elim (.ok i) i.merge = .ok i')
    (hload : i'.command = .load s given) (htotal : s.weights.total ≤ max32) :
    ∃ plan, s.plan = .ok plan ∧ plan.validate = .ok () ∧ plan.Sound ∧
      plan.mix.weights = s.weights ∧
      (plan.commands =
        if s.commands = [] then Gateway.Command.standardMix s.gateway.commandTimeout
        else s.commands.map fun c =>
          ⟨c.program, c.arguments, c.timeout.getD s.gateway.commandTimeout⟩) ∧
      ∀ file entries, f = some file → given.contains .commands = false →
        (file.load.bind fun l => l.commands) = some entries →
        ∀ (j : Nat) (entry : CommandEntry), entries[j]? = some entry →
          ∃ c, entry.command j = .ok c ∧
            plan.commands[j]? = some (c.command s.gateway.commandTimeout) := by
  have hallowed := allowed_of_read hread hmerge
  rw [hload] at hallowed
  obtain ⟨plan, hplan, hsound, hmix, hcommands⟩ := LoadSettings.Allowed.exists_plan hallowed htotal
  refine ⟨plan, hplan, hsound.validate, hsound, hmix,
    hcommands.trans (LoadSettings.gatewayCommands_eq s), ?_⟩
  rintro file entries rfl hgiven hentries j entry hj
  obtain ⟨s₀, hs₀⟩ := exists_merge_of_load hmerge hload
  obtain ⟨c, hc, hplace⟩ :=
    getElem?_forPlaces (LoadSettings.commands_of_merge hs₀ hgiven hentries) hj
  -- There is an entry, so the usual commands are not taken.
  have hne : s.commands ≠ [] := fun hnil => by simp [hnil] at hplace
  refine ⟨c, by rw [← hc, Nat.zero_add], ?_⟩
  rw [hcommands, LoadSettings.gatewayCommands_eq, if_neg hne, List.getElem?_map, hplace]
  rfl

deriving instance DecidableEq for Slo.Threshold, LoadSettings

deriving instance DecidableEq for Command

deriving instance DecidableEq for Invocation

/-- A settings file with a number of users that is not allowed. -/
def crowdless : File :=
  { commandTimeout := some (.text "2s"),
    load := some
      { users := some 0, userRate := some 0.5, pollInterval := some (.text " 1 ms"),
        commands := some [.line "ls  -la", .parts " sh " ["-c", "true"] (some (.seconds 7))] } }

/-- The number of users is given, and so is the largest weight; the rest is from the file. -/
theorem exists_plan_of_read_crowdless : ∃ s : LoadSettings, s.users = 3 ∧
    s.weights.total = max32 ∧ ∃ plan, s.plan = .ok plan ∧ plan.validate = .ok () ∧
    plan.commands = [⟨"ls", ["-la"], .ofSeconds 2⟩, ⟨"sh", ["-c", "true"], .ofSeconds 7⟩] := by
  have hread : read none ["load", "--users", "3", "--weights", "exec=4294967295"] =
      .ok ⟨{}, .load { users := 3, weights := [(.execute, max32)] } [.weights, .users]⟩ := by
    decide +kernel
  have hmerge : (some crowdless).elim
      (.ok ⟨{}, .load { users := 3, weights := [(.execute, max32)] } [.weights, .users]⟩)
      (Invocation.merge ⟨{}, .load { users := 3, weights := [(.execute, max32)] }
        [.weights, .users]⟩) =
      .ok ⟨{}, .load {
        gateway := { commandTimeout := .ofSeconds 2 }, users := 3, userRate := 0.5,
        pollInterval := .ofMillis 1, weights := [(.execute, max32)],
        commands := [⟨"ls", ["-la"], none⟩, ⟨"sh", ["-c", "true"], some (.ofSeconds 7)⟩] }
        [.weights, .users]⟩ := by
    decide +kernel
  obtain ⟨plan, hplan, hvalid, -, -, hcommands, -⟩ :=
    exists_plan_of_read hread hmerge rfl (by decide)
  exact ⟨_, rfl, rfl, plan, hplan, hvalid, hcommands⟩

end GatewayProbe.CommandLine
