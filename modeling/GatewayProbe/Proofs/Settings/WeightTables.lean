import GatewayProbe.Proofs.Text.Joining
import GatewayProbe.Settings.Entry

/-!
# Weight tables in two spellings

A table whose names stand for different kinds keeps every weight. As a text it gives the kinds in
the order in which they stand there; as data it gives them in the order of their names. So the two
spellings differ in nothing but the order, and every kind has the same weight in both.
-/

namespace GatewayProbe

/-- Where every step succeeds, so does the whole. -/
theorem foldlM_eq_pure {σ α : Type} {m : Type → Type} [Monad m] [LawfulMonad m]
    {f : σ → α → m σ} {g : σ → α → σ} {as : List α} (h : ∀ a ∈ as, ∀ s, f s a = pure (g s a))
    (s : σ) : as.foldlM f s = pure (as.foldl g s) := by
  induction as generalizing s with
  | nil => rfl
  | cons a as ih =>
    obtain ⟨ha, has⟩ := List.forall_mem_cons.mp h
    rw [List.foldlM_cons, ha, pure_bind, ih has, List.foldl_cons]

end GatewayProbe

namespace GatewayProbe.Load

open GatewayProbe.Text

/-! ## Names of kinds -/

namespace TaskKind

/-- A name means the first kind that has it among its own, whatever its case and the blanks around
it. -/
theorem parse_eq_ok_iff {value : String} {kind : TaskKind} : parse value = .ok kind ↔
    [health, execute, status].find? (fun k => isOneOf k.aliases (lower (trim value.toList))) =
      some kind := by
  simp only [parse]
  split
  · rename_i k hfind
    simp [hfind]
  · rename_i hfind
    simp [hfind]

/-- The blanks around a name do not matter. -/
theorem parse_of_trim_eq {value other : String} {kind : TaskKind} (h : parse value = .ok kind)
    (htrim : trim other.toList = trim value.toList) : parse other = .ok kind := by
  rw [parse_eq_ok_iff] at h ⊢
  rw [htrim]
  exact h

/-- No name of a kind has a separator in it. -/
theorem not_mem_of_parse {value : String} {kind : TaskKind} (h : parse value = .ok kind)
    {sep : Char} (hsep : sep = ',' ∨ sep = '=') : sep ∉ value.toList := by
  intro hmem
  obtain htrim | hblank := mem_trim_or hmem
  · have halias := List.find?_some (parse_eq_ok_iff.mp h)
    obtain ⟨name, hname, heq⟩ := List.mem_map.mp (of_decide_eq_true halias)
    have hletter : sep.toLower ∈ name.toList := heq ▸ List.mem_map_of_mem htrim
    have hnone : ∀ k : TaskKind, ∀ name ∈ k.aliases, ',' ∉ name.toList ∧ '=' ∉ name.toList := by
      rintro (_ | _ | _) <;> decide
    rcases hsep with rfl | rfl
    · exact (hnone kind name hname).1 hletter
    · exact (hnone kind name hname).2 hletter
  · rcases hsep with rfl | rfl <;> exact absurd hblank (by decide)

end TaskKind

/-! ## Tables as texts -/

namespace Weights

/-- A name with its weight as it stands in a table. -/
def spelledPair (pair : String × Nat) : String := pair.1 ++ "=" ++ toString pair.2

/-- Names with weights as a text. -/
def spelling (pairs : List (String × Nat)) : String := ",".intercalate (pairs.map spelledPair)

/-- The names of a table stand for different kinds, and its weights are 32-bit words. -/
structure Named (kind : String → TaskKind) (pairs : List (String × Nat)) : Prop where
  parse : ∀ pair ∈ pairs, TaskKind.parse pair.1 = .ok (kind pair.1)
  nodup : (pairs.map fun pair => kind pair.1).Nodup
  bound : ∀ pair ∈ pairs, pair.2 ≤ max32

/-- The kinds of a table with their weights. -/
def ofNames (kind : String → TaskKind) (pairs : List (String × Nat)) : Weights :=
  pairs.map fun pair => (kind pair.1, pair.2)

private theorem toList_spelledPair (pair : String × Nat) :
    (spelledPair pair).toList = pair.1.toList ++ '=' :: Nat.toDigits 10 pair.2 := by
  simp [spelledPair]

private theorem trim_spelledPair (pair : String × Nat) : trim (spelledPair pair).toList =
    pair.1.toList.dropWhile isBlank ++ '=' :: Nat.toDigits 10 pair.2 := by
  rw [toList_spelledPair, trim_append_cons (by decide) isBlank_of_mem_toDigits]

/-- A name with its weight is read as the kind and the weight. -/
theorem readPair_spelledPair {pair : String × Nat} {kind : TaskKind}
    (hkind : TaskKind.parse pair.1 = .ok kind) (hbound : pair.2 ≤ max32) (whole : String) :
    readPair whole (trim (spelledPair pair).toList) = .ok (kind, pair.2) := by
  have hsep : '=' ∉ pair.1.toList.dropWhile isBlank := fun hmem =>
    TaskKind.not_mem_of_parse hkind (Or.inr rfl) (List.dropWhile_subset _ hmem)
  have hname : TaskKind.parse (String.ofList (pair.1.toList.dropWhile isBlank)) = .ok kind :=
    TaskKind.parse_of_trim_eq hkind (by rw [String.toList_ofList, trim_dropWhile])
  rw [trim_spelledPair, readPair, splitFirst_append hsep]
  simp only [hname, trim_eq_self isBlank_of_mem_toDigits, readUnsigned_toDigits hbound]
  rfl

/-- Pairs are separated by commas, and have none in them. -/
theorem comma_not_mem {pair : String × Nat} {kind : TaskKind}
    (hkind : TaskKind.parse pair.1 = .ok kind) : ',' ∉ (spelledPair pair).toList := by
  rw [toList_spelledPair, List.mem_append, List.mem_cons]
  rintro (hname | heq | hdigit)
  · exact TaskKind.not_mem_of_parse hkind (Or.inl rfl) hname
  · exact absurd heq (by decide)
  · exact absurd (isDigit_of_mem_toDigits ',' hdigit) (by decide)

/-- Weights of different kinds stand one after the other. -/
theorem foldl_set {ws entries : Weights} (h : ((ws ++ entries).map (·.1)).Nodup) :
    entries.foldl (fun ws e => ws.set e.1 e.2) ws = ws ++ entries := by
  induction entries generalizing ws with
  | nil => simp
  | cons e rest ih =>
    have hset : ws.set e.1 e.2 = ws ++ [e] := by
      rw [List.map_append, List.nodup_append] at h
      have hnew : ∀ old ∈ ws, decide (old.1 ≠ e.1) = true := fun old hold =>
        decide_eq_true (h.2.2 _ (List.mem_map_of_mem hold) _ List.mem_cons_self)
      rw [Weights.set, List.filter_eq_self.mpr hnew]
    rw [List.foldl_cons, hset, ih (by simpa using h)]
    simp

section

variable {kind : String → TaskKind} {pairs table : List (String × Nat)}

/-- The order of a table does not matter. -/
theorem Named.of_perm (h : Named kind pairs) (hperm : table.Perm pairs) : Named kind table where
  parse pair hpair := h.parse pair (hperm.mem_iff.mp hpair)
  nodup := (hperm.map _).nodup_iff.mpr h.nodup
  bound pair hpair := h.bound pair (hperm.mem_iff.mp hpair)

/-- Names of different kinds are different. -/
theorem Named.nodup_names (h : Named kind pairs) : (pairs.map (·.1)).Nodup := by
  have hkinds : ((pairs.map (·.1)).map kind).Nodup := by
    rw [List.map_map]
    exact h.nodup
  exact List.Pairwise.of_map kind (fun _ _ hne heq => hne (congrArg kind heq)) hkinds

/-- No kind stands twice in the table of some names. -/
theorem Named.nodup_ofNames (h : Named kind pairs) : ((ofNames kind pairs).map (·.1)).Nodup := by
  rw [ofNames, List.map_map]
  exact h.nodup

/-- Put in one after the other, all weights of a table are kept. -/
theorem Named.foldl_set (h : Named kind pairs) :
    pairs.foldl (fun (ws : Weights) pair => ws.set (kind pair.1) pair.2) [] =
      ofNames kind pairs := by
  calc pairs.foldl (fun (ws : Weights) pair => ws.set (kind pair.1) pair.2) []
    _ = (ofNames kind pairs).foldl (fun (ws : Weights) e => ws.set e.1 e.2) [] := by
      rw [ofNames, List.foldl_map]
    _ = [] ++ ofNames kind pairs := Weights.foldl_set h.nodup_ofNames

/-- The pieces of the text are the names with their weights. -/
theorem pieces_spelling (h : Named kind pairs) (hne : pairs ≠ []) :
    pieces (spelling pairs).toList = pairs.map fun pair => trim (spelledPair pair).toList := by
  have hsplit : splitWhere (· = ',') (spelling pairs).toList =
      (pairs.map spelledPair).map String.toList := by
    rw [spelling, String.toList_intercalate]
    refine splitWhere_intercalate (by simpa using hne) ?_ (by decide)
    intro piece hpiece c hc
    simp only [List.map_map, List.mem_map, Function.comp_apply] at hpiece
    obtain ⟨pair, hpair, rfl⟩ := hpiece
    refine decide_eq_false ?_
    rintro rfl
    exact comma_not_mem (h.parse pair hpair) hc
  -- A pair has its sign even after it is trimmed, so no piece is dropped.
  rw [pieces, hsplit, List.map_map, List.map_map, List.filter_eq_self.mpr]
  · rfl
  · intro piece hpiece
    obtain ⟨pair, -, rfl⟩ := List.mem_map.mp hpiece
    simp [trim_spelledPair]

/-- The text of a table gives the kinds with their weights, in the order of the text. -/
theorem parse_spelling (h : Named kind pairs) (hne : pairs ≠ []) :
    parse (spelling pairs) = .ok (ofNames kind pairs) := by
  rw [parse, pieces_spelling h hne, List.foldlM_map,
    foldlM_eq_pure (g := fun ws pair => set ws (kind pair.1) pair.2), h.foldl_set]
  · simp [ofNames, hne]
  · intro pair hpair ws
    rw [readPair_spelledPair (h.parse pair hpair) (h.bound pair hpair)]
    rfl

end

/-- Both orders of a table give a kind the same weight. -/
theorem lookup_eq_of_perm {ws ws' : Weights} (h : ws.Perm ws') (hnodup : (ws.map (·.1)).Nodup)
    (kind : TaskKind) : ws.lookup kind = ws'.lookup kind := by
  induction h with
  | nil => rfl
  | cons e _ ih =>
    rw [List.map_cons, List.nodup_cons] at hnodup
    rw [List.lookup_cons, List.lookup_cons, ih hnodup.2]
  | swap a b l =>
    have hne : b.1 ≠ a.1 := fun heq => by simp [heq] at hnodup
    rw [List.lookup_cons, List.lookup_cons, List.lookup_cons, List.lookup_cons]
    by_cases hkind : kind = b.1
    · subst hkind
      rw [beq_eq_false_iff_ne.mpr hne, beq_self_eq_true]
    · rw [beq_eq_false_iff_ne.mpr hkind]
  | trans h₁ h₂ ih₁ ih₂ => exact (ih₁ hnodup).trans (ih₂ ((h₁.map _).nodup_iff.mp hnodup))

/-- Both orders are refused alike, because none or both have a weight. -/
theorem lookup_requireSome_of_perm {ws ws' : Weights} (h : ws.Perm ws')
    (hnodup : (ws.map (·.1)).Nodup) :
    (requireSome ws).toOption.map (fun ws k => ws.lookup k) =
      (requireSome ws').toOption.map fun ws k => ws.lookup k := by
  have hnull : ws.isNull = ws'.isNull := h.all_eq
  rw [requireSome, requireSome, hnull]
  split
  · rfl
  · exact congrArg some (funext (lookup_eq_of_perm h hnodup))

end Weights

end GatewayProbe.Load

namespace GatewayProbe.Settings.WeightTable

open GatewayProbe.Text GatewayProbe.Load

/-- A new name with its weight is added. -/
theorem perm_put {name : String} {weight : Nat} {table : WeightTable}
    (h : name ∉ table.map (·.1)) : (put name weight table).Perm ((name, weight) :: table) := by
  induction table with
  | nil => exact List.Perm.refl _
  | cons entry rest ih =>
    obtain ⟨hne, hrest⟩ := not_or.mp (mt List.mem_cons.mpr h)
    rw [put]
    split
    · exact List.Perm.refl _
    · exact ((ih hrest).cons entry).trans (List.Perm.swap _ _ _)

/-- New names with their weights are added one after the other. -/
theorem perm_foldl_put {pairs : List (String × Nat)} {table : WeightTable}
    (h : ((table ++ pairs).map (·.1)).Nodup) :
    (pairs.foldl (fun table pair => put pair.1 pair.2 table) table).Perm (table ++ pairs) := by
  induction pairs generalizing table with
  | nil => simp
  | cons pair rest ih =>
    have hnew : pair.1 ∉ table.map (·.1) := by
      rw [List.map_append, List.nodup_append] at h
      exact fun hmem => h.2.2 _ hmem _ List.mem_cons_self rfl
    have hput : (put pair.1 pair.2 table).Perm (pair :: table) := perm_put hnew
    have hall : (put pair.1 pair.2 table ++ rest).Perm (table ++ pair :: rest) :=
      (hput.append_right rest).trans List.perm_middle.symm
    rw [List.foldl_cons]
    exact (ih ((hall.map _).nodup_iff.mpr h)).trans hall

/-- Names with weights as the table of a settings file. -/
def data (pairs : List (String × Nat)) : Data :=
  .table (pairs.map fun pair => (pair.1, .integer pair.2))

/-- A table of different names is read, and holds them in some order. -/
theorem exists_read_data {pairs : List (String × Nat)} (hnodup : (pairs.map (·.1)).Nodup)
    (hbound : ∀ pair ∈ pairs, pair.2 ≤ max32) :
    ∃ table, read? (data pairs) = some table ∧ table.Perm pairs := by
  have hstep : ∀ pair ∈ pairs, ∀ table : WeightTable,
      ((Data.integer pair.2).count? max32).map (fun w => table.put pair.1 w) =
        pure (table.put pair.1 pair.2) := by
    intro pair hpair table
    have hcount : (Data.integer pair.2).count? max32 = some pair.2 := by
      simp [Data.count?, hbound pair hpair]
    rw [hcount]
    rfl
  refine ⟨pairs.foldl (fun table pair => table.put pair.1 pair.2) [], ?_, ?_⟩
  · rw [data, read?, List.foldlM_map]
    exact foldlM_eq_pure hstep []
  · exact perm_foldl_put hnodup

/-- The weights of a table are those of its names, unless all are zero. -/
theorem weights_eq {kind : String → TaskKind} {table : WeightTable}
    (h : Weights.Named kind table) :
    table.weights = (Weights.ofNames kind table).requireSome.mapError .weights := by
  rw [weights, foldlM_eq_pure (g := fun ws pair => ws.set (kind pair.1) pair.2), h.foldl_set]
  · rfl
  · intro pair hpair ws
    rw [h.parse pair hpair]
    rfl

end GatewayProbe.Settings.WeightTable
