import GatewayProbe.CommandLine.Invocation
import GatewayProbe.Proofs.Settings.Merging

/-!
# Which setting wins

The settings of both commands are nothing but the values under their keys, and each merge takes
every key: first those at the top of the file, then those about the server, then those of the
command. So what is given wins over the file and the file over the usual values, key by key and
whatever the other keys hold. A value that is not allowed stops the merge unless it is shadowed by
what is given, and the section of the other command is never looked at.
-/

namespace GatewayProbe.Settings

/-! ## Settings as values under keys -/

namespace GatewayKey

/-- A setting that is set has its value. -/
theorem get_set_self (s : GatewaySettings) (k : GatewayKey) (v : k.Value) :
    get (set s k v) k = v := by
  cases k <;> rfl

/-- A value that is put in leaves those of the other keys alone. -/
theorem get_set_of_ne (s : GatewaySettings) {j k : GatewayKey} (v : k.Value) (h : j ≠ k) :
    get (set s k v) j = get s j := by
  cases k <;> cases j <;> first | rfl | exact absurd rfl h

/-- There is nothing in the settings but the values. -/
theorem ext_get {s t : GatewaySettings} (h : ∀ k, get s k = get t k) : s = t := by
  cases s
  cases t
  exact GatewaySettings.mk.injEq .. ▸ ⟨h .url, h .serverCommand, h .serverArguments,
    h .readyPattern, h .readyTimeout, h .stopGrace, h .requestTimeout, h .commandTimeout⟩

private theorem mem_mergeOrder (k : GatewayKey) : k ∈ mergeOrder := by
  cases k <;> decide

end GatewayKey

instance : LawfulKeyed LoadSettings where
  get_set_self s k v := by
    cases k with
    | gateway k => exact GatewayKey.get_set_self s.gateway k v
    | _ => rfl
  get_set_of_ne s j k v h := by
    cases k with
    | gateway k =>
      cases j with
      | gateway j => exact GatewayKey.get_set_of_ne s.gateway v fun heq => h (congrArg _ heq)
      | _ => rfl
    | _ => cases j <;> first | rfl | exact absurd rfl h
  ext {s t} h := by
    cases s
    cases t
    exact LoadSettings.mk.injEq .. ▸ ⟨GatewayKey.ext_get fun k => h (.gateway k), h .users,
      h .userRate, h .duration, h .spawnRate, h .spawnInterval, h .pollInterval, h .pollMaxWait,
      h .weights, h .commands, h .slos, h .exportJson, h .failOnSlo, h .seed⟩

instance : LawfulKeyed CheckSettings where
  get_set_self s k v := by
    cases k with
    | gateway k => exact GatewayKey.get_set_self s.gateway k v
    | _ => rfl
  get_set_of_ne s j k v h := by
    cases k with
    | gateway k =>
      cases j with
      | gateway j => exact GatewayKey.get_set_of_ne s.gateway v fun heq => h (congrArg _ heq)
      | _ => rfl
    | _ => cases j <;> first | rfl | exact absurd rfl h
  ext {s t} h := by
    cases s
    cases t
    exact CheckSettings.mk.injEq .. ▸ ⟨GatewayKey.ext_get fun k => h (.gateway k), h .workspace,
      h .pollInterval, h .pollMaxWait⟩

/-! ## The parts of a settings file -/

/-- Where a settings file has the value of a key. -/
inductive FilePart where
  /-- Outside of all sections. -/
  | top
  /-- In the section about the server. -/
  | server
  /-- In the section about the command. -/
  | command
  deriving DecidableEq, Repr

/-- The place of a part among those that are merged. -/
def FilePart.rank : FilePart → Nat
  | .top => 0
  | .server => 1
  | .command => 2

/-- The part that has the value of a key. -/
def GatewayKey.part : GatewayKey → FilePart
  | .url | .requestTimeout | .commandTimeout => .top
  | .serverCommand | .serverArguments | .readyPattern | .readyTimeout | .stopGrace => .server

/-- The part that has the value of a key. -/
def LoadKey.part : LoadKey → FilePart
  | .gateway k => k.part
  | _ => .command

/-- The part that has the value of a key. -/
def CheckKey.part : CheckKey → FilePart
  | .gateway k => k.part
  | _ => .command

/-- What is to hold of a merge of settings files: which value each key gets and when the merge
fails, where a file has the values, and what the merge does not depend on. `own` says whether a
file has a section about the command. -/
structure Precedence {S : Type} [Keyed S] (given : Keyed.Key S → Bool) (inFile : File → Source S)
    (own : File → Bool) (part : Keyed.Key S → FilePart) (order : List (Keyed.Key S))
    (merge : File → S → Except SettingsFault S) : Prop where
  /-- What is given wins over the file, and the first value of it that is refused is the fault. -/
  merges : ∀ f s, Merges given (inFile f) order s (merge f s)
  /-- The keys are taken part by part. -/
  sections : order.Pairwise fun j k => (part j).rank ≤ (part k).rank
  /-- There is no value for the keys of a section that is absent. -/
  absent_server : ∀ f k, part k = .server → f.server = none → inFile f k = none
  absent_command : ∀ f k, part k = .command → own f = false → inFile f k = none
  /-- The values of the file for keys that are given do not matter. -/
  shadowed : ∀ f f' s, (∀ k, given k = false → inFile f k = inFile f' k) → merge f s = merge f' s
  /-- Merging the same file again changes nothing. -/
  again : ∀ f s, (merge f s).bind (merge f) = merge f s

private theorem GatewayKey.inFile_eq_none {f : File} {k : GatewayKey} (hpart : k.part = .server)
    (hserver : f.server = none) : inFile f k = none := by
  cases k <;> first | cases hpart; done | simp [inFile, hserver]

private theorem LoadKey.mem_mergeOrder (k : LoadKey) : k ∈ mergeOrder := by
  cases k with
  | gateway k => exact List.mem_append_left _ (List.mem_map_of_mem (GatewayKey.mem_mergeOrder k))
  | _ => decide

private theorem CheckKey.mem_mergeOrder (k : CheckKey) : k ∈ mergeOrder := by
  cases k with
  | gateway k => exact List.mem_append_left _ (List.mem_map_of_mem (GatewayKey.mem_mergeOrder k))
  | _ => decide

/-- Key by key, in an order that has every key and goes through the parts, a merge has
precedence. -/
theorem Precedence.of_order {S : Type} [Keyed S] [LawfulKeyed S] {given : Keyed.Key S → Bool}
    {inFile : File → Source S} {own : File → Bool} {part : Keyed.Key S → FilePart}
    {order : List (Keyed.Key S)} (hall : ∀ k, k ∈ order)
    (hsections : order.Pairwise fun j k => (part j).rank ≤ (part k).rank)
    (hserver : ∀ f k, part k = .server → f.server = none → inFile f k = none)
    (hcommand : ∀ f k, part k = .command → own f = false → inFile f k = none) :
    Precedence given inFile own part order fun f s => mergeKeys given (inFile f) order s where
  merges f s := merges_mergeKeys hall given (inFile f) s
  sections := hsections
  absent_server := hserver
  absent_command := hcommand
  shadowed _ _ s h := mergeKeys_congr h order s
  again f s := bind_mergeKeys hall given (inFile f) s

/-- Load runs take their settings from the command line first, and then from the file. -/
theorem LoadSettings.precedence (given : LoadKey → Bool) :
    Precedence given LoadKey.inFile (·.load.isSome) LoadKey.part LoadKey.mergeOrder
      (LoadSettings.merge given) := by
  refine Precedence.of_order LoadKey.mem_mergeOrder (by decide) ?_ ?_
  · intro f k hpart hserver
    cases k with
    | gateway k => exact GatewayKey.inFile_eq_none hpart hserver
    | _ => cases hpart
  · intro f k hpart hown
    have hnone : f.load = none :=
      Option.isNone_iff_eq_none.mp (Option.isSome_eq_false_iff.mp hown)
    cases k with
    | gateway k => cases k <;> cases hpart
    | _ => simp [LoadKey.inFile, hnone]

/-- So does the check. -/
theorem CheckSettings.precedence (given : CheckKey → Bool) :
    Precedence given CheckKey.inFile (·.check.isSome) CheckKey.part CheckKey.mergeOrder
      (CheckSettings.merge given) := by
  refine Precedence.of_order CheckKey.mem_mergeOrder (by decide) ?_ ?_
  · intro f k hpart hserver
    cases k with
    | gateway k => exact GatewayKey.inFile_eq_none hpart hserver
    | _ => cases hpart
  · intro f k hpart hown
    have hnone : f.check = none :=
      Option.isNone_iff_eq_none.mp (Option.isSome_eq_false_iff.mp hown)
    cases k with
    | gateway k => cases k <;> cases hpart
    | _ => simp [CheckKey.inFile, hnone]

end GatewayProbe.Settings

namespace GatewayProbe.CommandLine

open GatewayProbe.Settings

/-- A step that changes nothing when taken again does not do so behind a constructor either. -/
private theorem bind_of_map {S T ε : Type} {f : S → Except ε S} {w : S → T} {g : T → Except ε T}
    (hmap : ∀ s, g (w s) = (f s).map w) {s : S} (h : (f s).bind f = f s) :
    (g (w s)).bind g = g (w s) := by
  rw [hmap]
  cases hs : f s with
  | error fault => rfl
  | ok t =>
    have ht : f t = .ok t := by simpa only [hs, Except.bind] using h
    simp only [Except.map, Except.bind, hmap, ht]

/-- For both commands, whatever has been given: the file is merged into the settings of the command
and into nothing else; what is given wins over the file and the file over what was there; the
first value that is refused decides the fault; the section of the other command does not matter,
and neither does it matter whether the file is merged once or twice. -/
theorem Invocation.merge_precedence (g : Globals) :
    (∀ given : List LoadKey,
      (∀ s f, (⟨g, .load s given⟩ : Invocation).merge f =
        (s.merge given.contains f).map fun t => ⟨g, .load t given⟩) ∧
      Precedence given.contains LoadKey.inFile (·.load.isSome) LoadKey.part LoadKey.mergeOrder
        (LoadSettings.merge given.contains) ∧
      ∀ (s : LoadSettings) f check,
        s.merge given.contains { f with check } = s.merge given.contains f) ∧
    (∀ given : List CheckKey,
      (∀ s f, (⟨g, .check s given⟩ : Invocation).merge f =
        (s.merge given.contains f).map fun t => ⟨g, .check t given⟩) ∧
      Precedence given.contains CheckKey.inFile (·.check.isSome) CheckKey.part CheckKey.mergeOrder
        (CheckSettings.merge given.contains) ∧
      ∀ (s : CheckSettings) f load,
        s.merge given.contains { f with load } = s.merge given.contains f) ∧
    ∀ (command : Command) f, let i : Invocation := ⟨g, command⟩
      (i.merge f).bind (·.merge f) = i.merge f := by
  refine ⟨fun given => ⟨fun s f => rfl, LoadSettings.precedence _, fun s f check => ?_⟩,
    fun given => ⟨fun s f => rfl, CheckSettings.precedence _, fun s f load => ?_⟩,
    fun command f => ?_⟩
  · refine (LoadSettings.precedence _).shadowed _ _ s fun k _ => ?_
    cases k with
    | gateway k => cases k <;> rfl
    | _ => rfl
  · refine (CheckSettings.precedence _).shadowed _ _ s fun k _ => ?_
    cases k with
    | gateway k => cases k <;> rfl
    | _ => rfl
  · cases command with
    | load s given =>
      exact bind_of_map (g := fun i : Invocation => i.merge f) (w := fun t => ⟨g, .load t given⟩)
        (fun _ => rfl) ((LoadSettings.precedence given.contains).again f s)
    | check s given =>
      exact bind_of_map (g := fun i : Invocation => i.merge f) (w := fun t => ⟨g, .check t given⟩)
        (fun _ => rfl) ((CheckSettings.precedence given.contains).again f s)

/-- A file with two values that are not allowed, and another one in the section about the check. -/
def contested : File :=
  { url := some "http://10.0.0.1", requestTimeout := some (.text "soon"),
    load := some { users := some 0, seed := some 7 },
    check := some { pollInterval := some (.seconds 0) } }

/-- Where both are shadowed the rest of the file counts; else the first one decides the fault. -/
theorem Invocation.merge_precedence_contested :
    (∃ t : LoadSettings, t.users = 9 ∧ t.gateway.url = "http://10.0.0.1" ∧ t.seed = some 7 ∧
      (⟨{}, .load { users := 9 } [.users, .gateway .requestTimeout]⟩ : Invocation).merge contested =
        .ok ⟨{}, .load t [.users, .gateway .requestTimeout]⟩) ∧
    (⟨{}, .load { users := 9 } []⟩ : Invocation).merge contested =
      .error (.duration "request_timeout" (.form "soon")) := by
  obtain ⟨hload, -, -⟩ := merge_precedence {}
  constructor
  · obtain ⟨hmerge, hprecedence, -⟩ := hload [.users, .gateway .requestTimeout]
    have hmerges := hprecedence.merges contested { users := 9 }
    obtain ⟨t, ht⟩ := hmerges.ok_iff.mpr (by
      rintro k fault ⟨hgiven, hvalue⟩
      cases k with
      | gateway k => cases k <;> first | cases hgiven; done | cases hvalue
      | _ => first | cases hgiven; done | cases hvalue)
    refine ⟨t, hmerges.value t ht .users, hmerges.value t ht (.gateway .url),
      hmerges.value t ht .seed, ?_⟩
    rw [hmerge, ht]
    rfl
  · obtain ⟨hmerge, hprecedence, -⟩ := hload []
    have hfault := (hprecedence.merges contested { users := 9 }).error_iff
      (.duration "request_timeout" (.form "soon"))
    rw [hmerge, hfault.mpr ⟨[.gateway .url], .gateway .requestTimeout, _, rfl, ?_, rfl, rfl⟩]
    · rfl
    · intro j hj other hrefused
      obtain rfl := List.mem_singleton.mp hj
      cases hrefused.2

end GatewayProbe.CommandLine
