import GatewayProbe.Proofs.Url.Segments

/-!
# Paths that are settled

The path of an address of the web has no segment that means a directory, since these are carried
out while it is read, and no character that is still to be encoded. So the path is read back from
its text as it is. A slash behind the text is an empty segment at the end of the path, and what is
joined to an address takes the place of the last segment and of no other.
-/

namespace GatewayProbe.Url

open GatewayProbe.Text

/-- A segment that stays as it is when it is read. -/
structure Settled (name : String) : Prop where
  chars : ∀ c ∈ name.toList, IsSegmentChar c
  upper : isUpperDirectory name = false
  same : isSameDirectory name = false

private theorem settled_iff {name : String} : Settled name ↔
    (name.toList.all fun c => !isPathSet c && !isSlash true c) = true ∧
      isUpperDirectory name = false ∧ isSameDirectory name = false := by
  have hchars : (∀ c ∈ name.toList, IsSegmentChar c) ↔
      (name.toList.all fun c => !isPathSet c && !isSlash true c) = true := by
    simp [IsSegmentChar, isSlash]
  exact ⟨fun h => ⟨hchars.mp h.chars, h.upper, h.same⟩, fun h => ⟨hchars.mpr h.1, h.2.1, h.2.2⟩⟩

instance (name : String) : Decidable (Settled name) := decidable_of_iff' _ settled_iff

theorem settled_empty : Settled "" := by decide

/-- A path with a segment whose segments stay as they are when they are read. -/
structure SettledPath (names : List String) : Prop where
  nonempty : names ≠ []
  settled : ∀ name ∈ names, Settled name

variable {names rest : List String} {name : String} {special : Bool} {s : List Char}

/-! ### Paths that are extended -/

/-- A settled segment is one more of a path. -/
theorem Settled.addSegment_eq (h : Settled name) (names : List String) (isLast : Bool) :
    addSegment names name isLast = names ++ [name] :=
  Url.addSegment_eq names name isLast (Bool.eq_false_iff.mp h.upper) (Bool.eq_false_iff.mp h.same)

/-- Settled segments are put at the end of a path. -/
theorem addSegments_of_settled (h : ∀ name ∈ rest, Settled name) (names : List String) :
    addSegments names rest = names ++ rest := by
  fun_induction addSegments names rest with
  | case1 => simp
  | case2 names name => exact (h name List.mem_cons_self).addSegment_eq names true
  | case3 names name rest _ ih =>
    obtain ⟨hname, hrest⟩ := List.forall_mem_cons.mp h
    rw [ih hrest, hname.addSegment_eq, List.append_assoc]
    rfl

/-- A path stays settled if one more segment has no other characters than segments have. -/
theorem settled_addSegment (h : ∀ name ∈ names, Settled name)
    (hname : ∀ c ∈ name.toList, IsSegmentChar c) (isLast : Bool) :
    ∀ n ∈ addSegment names name isLast, Settled n := by
  have hempty : ∀ n ∈ (if isLast = true then [""] else []), Settled n := by
    intro n hn
    cases isLast with
    | true => exact List.mem_singleton.mp hn ▸ settled_empty
    | false => exact absurd hn List.not_mem_nil
  rw [addSegment]
  split
  · refine List.forall_mem_append.mpr ⟨fun n hn => h n ?_, hempty⟩
    exact List.dropLast_subset names hn
  · split
    · exact List.forall_mem_append.mpr ⟨h, hempty⟩
    · rename_i hupper hsame
      refine List.forall_mem_append.mpr ⟨h, List.forall_mem_singleton.mpr ⟨hname, ?_, ?_⟩⟩
      · exact Bool.eq_false_iff.mpr hupper
      · exact Bool.eq_false_iff.mpr hsame

private theorem settled_addSegments (h : ∀ name ∈ names, Settled name)
    (hrest : ∀ name ∈ rest, ∀ c ∈ name.toList, IsSegmentChar c) :
    ∀ n ∈ addSegments names rest, Settled n := by
  fun_induction addSegments names rest with
  | case1 => exact h
  | case2 names name => exact settled_addSegment h (hrest name List.mem_cons_self) true
  | case3 names name rest _ ih =>
    obtain ⟨hname, hrest⟩ := List.forall_mem_cons.mp hrest
    exact ih (settled_addSegment h hname false) hrest

/-- A path has a segment once it has been extended. -/
theorem addSegments_ne_nil (h : rest ≠ []) (names : List String) : addSegments names rest ≠ [] := by
  fun_induction addSegments names rest with
  | case1 => exact absurd rfl h
  | case2 names name =>
    rw [addSegment]
    split
    · simp
    · split <;> simp
  | case3 names name rest hrest ih => exact ih hrest

/-! ### Paths that are read -/

private theorem isSegmentChar_of_mem_readSegments :
    ∀ name ∈ readSegments true s, ∀ c ∈ name.toList, IsSegmentChar c := by
  intro name hname c hc
  obtain ⟨piece, hpiece, rfl⟩ := List.mem_map.mp hname
  rw [String.toList_ofList] at hc
  refine isSegmentChar_of_mem_percentEncode (fun d hd hset => ⟨hset, ?_⟩) hc
  simpa [isSlash] using not_of_mem_splitWhere hpiece d hd

private theorem readSegments_ne_nil (special : Bool) (s : List Char) :
    readSegments special s ≠ [] :=
  mt List.map_eq_nil_iff.mp (splitWhere_ne_nil _ s)

/-- The path of a special address is settled when it has been read. -/
theorem settledPath_readPath (s : List Char) : SettledPath (readPath true s) := by
  have hread (t : List Char) : SettledPath (addSegments [] (readSegments true t)) :=
    ⟨addSegments_ne_nil (readSegments_ne_nil true t) [],
      settled_addSegments nofun isSegmentChar_of_mem_readSegments⟩
  cases s with
  | nil => exact ⟨List.cons_ne_nil _ _, List.forall_mem_singleton.mpr settled_empty⟩
  | cons c rest =>
    rw [readPath]
    split
    · exact hread rest
    · exact hread (c :: rest)

/-! ### Paths that are read back -/

/-- A text without a character of the set is not changed. -/
theorem percentEncode_eq_self {inSet : Char → Bool} (h : ∀ c ∈ s, inSet c = false) :
    percentEncode inSet s = s := by
  induction s with
  | nil => rfl
  | cons c s ih =>
    obtain ⟨hc, hs⟩ := List.forall_mem_cons.mp h
    rw [percentEncode_cons, if_neg (Bool.eq_false_iff.mp hc), ih hs]
    rfl

/-- The text of a path is a slash and the segments with slashes between them. -/
theorem toList_segmentsText_eq (h : names ≠ []) :
    (segmentsText names).toList = '/' :: ['/'].intercalate (names.map String.toList) := by
  rw [toList_segmentsText]
  induction names with
  | nil => exact absurd rfl h
  | cons name rest ih =>
    cases rest with
    | nil => simp
    | cons next rest =>
      rw [List.flatMap_cons, ih (List.cons_ne_nil _ _)]
      simp [List.intercalate_cons_cons]

/-- Segments are written one after the other. -/
theorem segmentsText_append (names rest : List String) :
    segmentsText (names ++ rest) = segmentsText names ++ segmentsText rest := by
  rw [segmentsText, List.map_append, String.join_append]
  rfl

/-- Settled segments are read back from their text between slashes. -/
theorem readSegments_intercalate (h : SettledPath names) :
    readSegments special (['/'].intercalate (names.map String.toList)) = names := by
  have hpieces : splitWhere (isSlash special) (['/'].intercalate (names.map String.toList)) =
      names.map String.toList := by
    refine splitWhere_intercalate (mt List.map_eq_nil_iff.mp h.nonempty) ?_ (by simp [isSlash])
    intro piece hpiece c hc
    obtain ⟨name, hname, rfl⟩ := List.mem_map.mp hpiece
    obtain ⟨-, hfore, hback⟩ := (h.settled name hname).chars c hc
    simp [isSlash, hfore, hback]
  rw [readSegments, hpieces, List.map_map]
  refine (List.map_congr_left fun name hname => ?_).trans (List.map_id names)
  have hself := percentEncode_eq_self fun c hc => ((h.settled name hname).chars c hc).1
  exact (congrArg String.ofList hself).trans String.ofList_toList

/-- A settled path is read back from its text. -/
theorem readPath_segmentsText (special : Bool) (h : SettledPath names) :
    readPath special (segmentsText names).toList = names := by
  have hslash : isSlash special '/' = true := by simp [isSlash]
  rw [toList_segmentsText_eq h.nonempty, readPath, if_pos hslash, readSegments_intercalate h,
    addSegments_of_settled h.settled]
  rfl

/-- Different settled paths have different texts. -/
theorem SettledPath.eq_of_text_eq (h : SettledPath names) (hrest : SettledPath rest)
    (htext : segmentsText names = segmentsText rest) : names = rest := by
  rw [← readPath_segmentsText true h, htext, readPath_segmentsText true hrest]

/-- The text of a settled path has nothing in it that would be encoded. -/
theorem isPathSet_of_mem_segmentsText (h : SettledPath names) :
    ∀ c ∈ (segmentsText names).toList, isPathSet c = false := by
  intro c hc
  rw [toList_segmentsText] at hc
  obtain ⟨name, hname, hmem⟩ := List.mem_flatMap.mp hc
  rcases List.mem_cons.mp hmem with rfl | hmem
  · decide
  · exact ((h.settled name hname).chars c hmem).1

/-- Readers skip no character that stands in a path. -/
theorem isSkipped_eq_false {c : Char} (h : isPathSet c = false) : isSkipped c = false := by
  rw [Bool.eq_false_iff] at h ⊢
  intro hskipped
  simp only [isSkipped, Bool.or_eq_true, decide_eq_true_eq] at hskipped
  rcases hskipped with (rfl | rfl) | rfl <;> exact h rfl

/-- An address is given a path by the text of that path. -/
theorem Address.withPath_segmentsText (a : Address) (h : SettledPath names) :
    a.withPath (segmentsText names) = { a with path := .segments names } := by
  have hkept : ((segmentsText names).toList.filter fun c => !isSkipped c) =
      (segmentsText names).toList := by
    refine List.filter_eq_self.mpr fun c hc => ?_
    rw [isSkipped_eq_false (isPathSet_of_mem_segmentsText h c hc)]
    rfl
  simp only [withPath, hkept, readPath_segmentsText _ h]

/-- Settled segments that are joined to an address take the place of its last one. -/
theorem Address.join_of_settled {a : Address} (hpath : a.path = .segments names) {text : String}
    (htext : "/" ++ text = segmentsText rest) (h : SettledPath rest) :
    a.join text =
      { a with path := .segments (names.dropLast ++ rest), query := none, fragment := none } := by
  have htoList : text.toList = ['/'].intercalate (rest.map String.toList) := by
    have hslash := congrArg String.toList htext
    rw [String.toList_append, toList_segmentsText_eq h.nonempty] at hslash
    exact (List.cons.inj hslash).2
  -- Neither a query nor a fragment begins in the text.
  have hend : ∀ c ∈ text.toList, (!(c = '?' || c = '#')) = true := by
    intro c hc
    have hset : isPathSet c = false := by
      apply isPathSet_of_mem_segmentsText h
      rw [toList_segmentsText_eq h.nonempty, ← htoList]
      exact List.mem_cons_of_mem _ hc
    by_contra hnot
    simp only [Bool.not_eq_true, Bool.not_eq_false', Bool.or_eq_true, decide_eq_true_eq] at hnot
    rcases hnot with rfl | rfl <;> exact absurd hset (by decide)
  rw [join, hpath]
  simp only [List.takeWhile_eq_self_iff.mpr hend, List.dropWhile_eq_nil_iff.mpr hend]
  rw [htoList, readSegments_intercalate h, addSegments_of_settled h.settled]
  rfl

/-! ### Addresses of the web -/

private theorem readHierarchy_eq_ok {scheme : String} {a : Address}
    (h : readHierarchy scheme s = .ok a) :
    a.scheme = scheme ∧ ∃ t, a.path = .segments (readPath (isSpecial scheme) t) := by
  simp only [readHierarchy, bind, Except.bind, pure, Except.pure] at h
  split at h
  · cases h
  · split at h
    · cases h
    · obtain rfl := Except.ok.inj h
      exact ⟨rfl, _, rfl⟩

private theorem readFile_eq_ok {a : Address} (h : readFile s = .ok a) : a.scheme = "file" := by
  simp only [readFile, bind, Except.bind, pure, Except.pure] at h
  split at h
  · split_ifs at h
    · obtain rfl := Except.ok.inj h
      rfl
    · split at h
      · cases h
      · obtain rfl := Except.ok.inj h
        rfl
    · obtain rfl := Except.ok.inj h
      rfl
  · obtain rfl := Except.ok.inj h
    rfl

private theorem readOther_eq_ok {scheme : String} {a : Address} (h : readOther scheme s = .ok a) :
    a.scheme = scheme := by
  unfold readOther at h
  split at h
  · exact (readHierarchy_eq_ok h).1
  · obtain rfl := Except.ok.inj h
    rfl
  · obtain rfl := Except.ok.inj h
    rfl

/-- An address of the web has a settled path. -/
theorem exists_settledPath_of_parse {text : String} {a : Address} (h : Address.parse text = .ok a)
    (hweb : a.scheme = "http" ∨ a.scheme = "https") :
    ∃ names, a.path = .segments names ∧ SettledPath names := by
  have hspecial : isSpecial a.scheme = true := by
    rcases hweb with hweb | hweb <;> rw [hweb] <;> decide
  simp only [Address.parse] at h
  split at h
  · cases h
  · rename_i scheme rest _
    split_ifs at h with hfile hscheme
    · rw [readFile_eq_ok h] at hweb
      exact absurd hweb (by decide)
    · obtain ⟨-, t, hpath⟩ := readHierarchy_eq_ok h
      rw [hscheme] at hpath
      exact ⟨_, hpath, settledPath_readPath t⟩
    · rw [readOther_eq_ok h] at hspecial
      exact absurd hspecial hscheme

end GatewayProbe.Url
