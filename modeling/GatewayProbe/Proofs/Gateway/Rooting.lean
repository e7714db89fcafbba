import GatewayProbe.Gateway.Routes
import GatewayProbe.Proofs.Url.Paths

/-!
# Resources below the path of a base

The path of an address of the web is settled, so the slash that it may lack is one more empty
segment, even though the path is read anew for it. Each resource takes the place of this segment.
So no segment of the base is lost, and with a slash at its end the base has the same resources.
-/

namespace GatewayProbe.Gateway.Routes

open GatewayProbe.Url

variable {base : Address} {names root : List String} {last : String} {r : Routes}

/-! ### The base with a slash at its end -/

/-- The text of a path ends in a slash if the last segment is empty. -/
theorem endsInSlash_segmentsText (h : Settled last) (root : List String) :
    endsInSlash (segmentsText (root ++ [last])) = true ↔ last = "" := by
  have hlast : (segmentsText (root ++ [last])).toList.getLast? =
      some (last.toList.getLast?.getD '/') := by
    rw [toList_segmentsText, List.flatMap_append, List.flatMap_singleton, List.getLast?_append,
      List.getLast?_cons]
    rfl
  rw [endsInSlash, decide_eq_true_iff, hlast, Option.some.injEq]
  constructor
  · intro hslash
    by_contra hne
    obtain ⟨c, hc⟩ : ∃ c, last.toList.getLast? = some c := by
      rw [← Option.isSome_iff_exists, List.getLast?_isSome]
      exact mt String.toList_eq_nil_iff.mp hne
    rw [hc] at hslash
    exact (h.chars c (List.mem_of_getLast? hc)).2.1 hslash
  · rintro rfl
    rfl

/-- The path of a base without an empty segment at its end. -/
structure HasRoot (base : Address) (root : List String) : Prop where
  settled : SettledPath (root ++ [""])
  path : (base.path = .segments (root ++ [""]) ∧ endsInSlash base.path.text = true) ∨
    (base.path = .segments root ∧ endsInSlash base.path.text = false)

/-- A settled path has a root. -/
theorem exists_hasRoot (hpath : base.path = .segments names) (h : SettledPath names) :
    ∃ root, HasRoot base root := by
  have hconcat := List.dropLast_concat_getLast h.nonempty
  have hlast := h.settled _ (List.getLast_mem h.nonempty)
  have hslash := endsInSlash_segmentsText hlast names.dropLast
  rw [hconcat] at hslash
  by_cases hempty : names.getLast h.nonempty = ""
  · rw [hempty] at hconcat
    refine ⟨names.dropLast, by rwa [hconcat], .inl ?_⟩
    rw [hconcat, hpath]
    exact ⟨rfl, hslash.mpr hempty⟩
  · refine ⟨names, ⟨List.append_ne_nil_of_left_ne_nil h.nonempty _, ?_⟩, .inr ⟨hpath, ?_⟩⟩
    · exact List.forall_mem_append.mpr ⟨h.settled, List.forall_mem_singleton.mpr settled_empty⟩
    · rw [hpath]
      exact Bool.eq_false_iff.mpr (mt hslash.mp hempty)

/-- An address has one root. -/
theorem HasRoot.unique {root' : List String} (h : HasRoot base root) (h' : HasRoot base root') :
    root = root' := by
  rcases h.path with ⟨hpath, hslash⟩ | ⟨hpath, hslash⟩ <;>
    rcases h'.path with ⟨hpath', hslash'⟩ | ⟨hpath', hslash'⟩
  · exact List.append_cancel_right (Path.segments.inj (hpath.symm.trans hpath'))
  · rw [hslash] at hslash'
    cases hslash'
  · rw [hslash] at hslash'
    cases hslash'
  · exact Path.segments.inj (hpath.symm.trans hpath')

/-- A slash behind the text of a path is an empty segment behind the path. -/
theorem segmentsText_concat_empty (root : List String) :
    segmentsText (root ++ [""]) = segmentsText root ++ "/" := by
  rw [segmentsText_append]
  rfl

/-- A base gets an empty segment behind its root, if it has none yet. -/
theorem HasRoot.rooted_eq (h : HasRoot base root) :
    rooted base = { base with path := .segments (root ++ [""]) } := by
  rcases h.path with ⟨hpath, hslash⟩ | ⟨hpath, hslash⟩
  · rw [rooted, if_pos hslash, ← hpath]
  · have htext : base.path.text ++ "/" = segmentsText (root ++ [""]) := by
      rw [hpath, segmentsText_concat_empty]
      rfl
    rw [rooted, if_neg (Bool.eq_false_iff.mp hslash), htext]
    exact base.withPath_segmentsText h.settled

/-! ### What lies below it -/

/-- An address with other segments as its path, and with neither a query nor a fragment. -/
def resource (base : Address) (names : List String) : Address :=
  { base with path := .segments names, query := none, fragment := none }

/-- The resources of a gateway below the root of a base. -/
def belowRoot (base : Address) (root : List String) : Routes where
  health := resource base (root ++ ["health"])
  execute := resource base (root ++ ["v1", "execute"])
  tasks := resource base (root ++ ["v1", "tasks", ""])

/-- Every resource takes the place of the empty segment at the end of a path. -/
theorem below_eq (hpath : base.path = .segments (root ++ [""])) :
    below base = belowRoot base root := by
  have hjoin {text : String} {rest : List String} (htext : "/" ++ text = segmentsText rest)
      (hrest : SettledPath rest) : base.join text = resource base (root ++ rest) := by
    rw [Address.join_of_settled hpath htext hrest, List.dropLast_concat]
    rfl
  have hhealth : SettledPath ["health"] := ⟨by decide, by decide⟩
  have hexecute : SettledPath ["v1", "execute"] := ⟨by decide, by decide⟩
  have htasks : SettledPath ["v1", "tasks", ""] := ⟨by decide, by decide⟩
  rw [below, hjoin (by decide) hhealth, hjoin (by decide) hexecute, hjoin (by decide) htasks]
  rfl

/-- The base addresses of gateways are those of the web, and the resources lie below their
roots. -/
theorem ofBase_eq_ok_iff {text : String} : ofBase text = .ok r ↔
    ∃ base root, Address.parse text = .ok base ∧
      (base.scheme = "http" ∨ base.scheme = "https") ∧ HasRoot base root ∧
        r = belowRoot base root := by
  have hread {base : Address} (hparse : Address.parse text = .ok base)
      (hweb : base.scheme = "http" ∨ base.scheme = "https") :
      ∃ root, HasRoot base root ∧ ofBase text = .ok (belowRoot base root) := by
    obtain ⟨names, hpath, hsettled⟩ := exists_settledPath_of_parse hparse hweb
    obtain ⟨root, hroot⟩ := exists_hasRoot hpath hsettled
    refine ⟨root, hroot, ?_⟩
    simp only [ofBase, hparse, hpath, if_pos hweb, hroot.rooted_eq]
    rw [below_eq rfl]
    rfl
  constructor
  · intro h
    cases hparse : Address.parse text with
    | error cause => simp [ofBase, hparse] at h
    | ok base =>
      by_cases hweb : base.scheme = "http" ∨ base.scheme = "https"
      · obtain ⟨root, hroot, hbase⟩ := hread hparse hweb
        exact ⟨base, root, rfl, hweb, hroot, Except.ok.inj (h.symm.trans hbase)⟩
      · cases hpath : base.path with
        | plain rest => simp [ofBase, hparse, hpath] at h
        | segments names => simp [ofBase, hparse, hpath, hweb] at h
  · rintro ⟨base, root, hparse, hweb, hroot, rfl⟩
    obtain ⟨root', hroot', hbase⟩ := hread hparse hweb
    rw [hbase, hroot.unique hroot']

/-! ### The texts of the paths -/

/-- A text with a slash at its end. -/
def withSlash (text : String) : String := if endsInSlash text then text else text ++ "/"

/-- The resources have the place of a base, and their paths are that of the base, with a slash at
its end, and their names. No segment of the base is lost but an empty one at its end. -/
structure RootedAt (r : Routes) (base : Address) : Prop where
  health : r.health.LiesAt base
  execute : r.execute.LiesAt base
  tasks : r.tasks.LiesAt base
  health_path : r.health.path.text = withSlash base.path.text ++ "health"
  execute_path : r.execute.path.text = withSlash base.path.text ++ "v1/execute"
  tasks_path : r.tasks.path.text = withSlash base.path.text ++ "v1/tasks/"
  segments : ∃ root, (base.path = .segments root ∨ base.path = .segments (root ++ [""])) ∧
    r.health.path = .segments (root ++ ["health"]) ∧
    r.execute.path = .segments (root ++ ["v1", "execute"]) ∧
    r.tasks.path = .segments (root ++ ["v1", "tasks", ""])

private theorem HasRoot.withSlash_eq (h : HasRoot base root) :
    withSlash base.path.text = segmentsText root ++ "/" := by
  rcases h.path with ⟨hpath, hslash⟩ | ⟨hpath, hslash⟩
  · rw [withSlash, if_pos hslash, hpath, ← segmentsText_concat_empty]
    rfl
  · rw [withSlash, if_neg (Bool.eq_false_iff.mp hslash), hpath]
    rfl

/-- The text of a resource below the root of a base. -/
theorem HasRoot.text_resource (h : HasRoot base root) {text : String} {rest : List String}
    (htext : "/" ++ text = segmentsText rest) :
    (resource base (root ++ rest)).path.text = withSlash base.path.text ++ text := by
  rw [h.withSlash_eq, String.append_assoc, htext, ← segmentsText_append]
  rfl

private theorem HasRoot.rootedAt (h : HasRoot base root) : (belowRoot base root).RootedAt base where
  health := ⟨rfl, rfl, rfl, rfl, rfl, rfl, rfl⟩
  execute := ⟨rfl, rfl, rfl, rfl, rfl, rfl, rfl⟩
  tasks := ⟨rfl, rfl, rfl, rfl, rfl, rfl, rfl⟩
  health_path := h.text_resource (by decide)
  execute_path := h.text_resource (by decide)
  tasks_path := h.text_resource (by decide)
  segments := ⟨root, h.path.symm.imp And.left And.left, rfl, rfl, rfl⟩

/-- A base with a slash behind its path has the same root. -/
theorem HasRoot.of_slash {other : Address} {root' : List String} (h : HasRoot base root)
    (hslash : endsInSlash base.path.text = false) (h' : HasRoot other root')
    (htext : other.path.text = base.path.text ++ "/") : root' = root := by
  have hroot : withSlash base.path.text = base.path.text ++ "/" :=
    if_neg (Bool.eq_false_iff.mp hslash)
  have hother : withSlash other.path.text = other.path.text := by
    rw [withSlash, if_pos]
    simp [endsInSlash, htext]
  -- Both paths are read back from the same text.
  have hread : segmentsText (root' ++ [""]) = segmentsText (root ++ [""]) := by
    rw [segmentsText_concat_empty, segmentsText_concat_empty, ← h'.withSlash_eq, ← h.withSlash_eq,
      hother, htext, hroot]
  exact List.append_cancel_right (h'.settled.eq_of_text_eq h.settled hread)

/-- Texts are base addresses of gateways if they are addresses of the web. All resources have the
place of the base, without its query and its fragment, and their paths are the path of the base,
with a slash at its end if it has none, and their names. So a base whose path does not end in a
slash has the same resources as one with a slash behind the path, whatever their queries and
fragments are. -/
theorem ofBase_rooted (text : String) :
    ((∃ r, ofBase text = .ok r) ↔
      ∃ base, Address.parse text = .ok base ∧ (base.scheme = "http" ∨ base.scheme = "https")) ∧
    ∀ r, ofBase text = .ok r → ∃ base, Address.parse text = .ok base ∧ r.RootedAt base ∧
      ∀ (other : String) (path : Path) (query fragment : Option String),
        endsInSlash base.path.text = false → path.text = base.path.text ++ "/" →
        Address.parse other = .ok { base with path, query, fragment } → ofBase other = .ok r := by
  refine ⟨⟨?_, ?_⟩, ?_⟩
  · rintro ⟨r, h⟩
    obtain ⟨base, -, hparse, hweb, -, -⟩ := ofBase_eq_ok_iff.mp h
    exact ⟨base, hparse, hweb⟩
  · rintro ⟨base, hparse, hweb⟩
    obtain ⟨names, hpath, hsettled⟩ := exists_settledPath_of_parse hparse hweb
    obtain ⟨root, hroot⟩ := exists_hasRoot hpath hsettled
    exact ⟨_, ofBase_eq_ok_iff.mpr ⟨base, root, hparse, hweb, hroot, rfl⟩⟩
  · intro r h
    obtain ⟨base, root, hparse, hweb, hroot, rfl⟩ := ofBase_eq_ok_iff.mp h
    refine ⟨base, hparse, hroot.rootedAt, ?_⟩
    intro other path query fragment hslash htext hother
    obtain ⟨names, hpath, hsettled⟩ := exists_settledPath_of_parse hother hweb
    obtain ⟨root', hroot'⟩ := exists_hasRoot hpath hsettled
    obtain rfl := hroot.of_slash hslash hroot' htext
    exact ofBase_eq_ok_iff.mpr ⟨_, _, hother, hweb, hroot', rfl⟩

/-- A base with a user, a port, a blank in its path, a query and a fragment. -/
def spaced : Address :=
  { scheme := "http", username := "u", password := some "p", host := some (.domain "h"),
    port := some 8081, path := .segments ["a%20b"], query := some "q", fragment := some "f" }

/-- It has the same resources with a slash behind the path. -/
theorem ofBase_rooted_spaced : ∃ r, ofBase "http://u:p@h:8081/a b?q#f" = .ok r ∧
    r.RootedAt spaced ∧ r.tasks.path.text = "/a%20b/v1/tasks/" ∧
    ofBase "http://u:p@h:8081/a%20b/?x" = .ok r := by
  have hparse : Address.parse "http://u:p@h:8081/a b?q#f" = .ok spaced := by decide +kernel
  have hother : Address.parse "http://u:p@h:8081/a%20b/?x" =
      .ok { spaced with path := .segments ["a%20b", ""], query := some "x", fragment := none } := by
    decide +kernel
  obtain ⟨r, h⟩ := (ofBase_rooted _).1.mpr ⟨spaced, hparse, .inl rfl⟩
  obtain ⟨base, hbase, hrooted, hslash⟩ := (ofBase_rooted _).2 r h
  obtain rfl := Except.ok.inj (hbase.symm.trans hparse)
  refine ⟨r, h, hrooted, ?_, ?_⟩
  · rw [hrooted.tasks_path]
    decide
  · exact hslash _ _ _ _ (by decide) (by decide) hother

end GatewayProbe.Gateway.Routes
