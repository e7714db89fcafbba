import GatewayProbe.Proofs.Gateway.NewTasks
import GatewayProbe.Proofs.Gateway.Rooting

/-!
# Addresses of tasks

The tasks lie below a base address, and a task lies below the tasks as one more segment. The
segment is read back as the id of the task without its tabs and line breaks. An id that is left
as one point or two points by that has no segment of its own: it goes to the tasks themselves or
to the directory above. So the ids that share an address are those that differ in tabs and line
breaks alone, and the two that are written as the points.
-/

namespace GatewayProbe.Gateway

open GatewayProbe.Text GatewayProbe.Url

namespace Routes

variable {r : Routes} {root : List String} {taskId other : String}

/-! ## The resources below a base -/

/-- The resources that a text gives lie below the base it is read as. -/
theorem tasks_of_ofBase {text : String} (h : ofBase text = .ok r) :
    ∃ base, Address.parse text = .ok base ∧ r.tasks.LiesAt base ∧
      ∃ root, r.tasks.path = .segments (root ++ ["v1", "tasks", ""]) := by
  obtain ⟨base, root, hparse, -, -, rfl⟩ := ofBase_eq_ok_iff.mp h
  exact ⟨base, hparse, ⟨rfl, rfl, rfl, rfl, rfl, rfl, rfl⟩, root, rfl⟩

/-! ## What an address shows of an id -/

/-- What readers of addresses leave of a task id: its tabs and line breaks are gone. -/
def kept (taskId : String) : String :=
  String.ofList (taskId.toList.filter fun c => !isSkipped c)

/-- The text that is pushed for a task, unless the id is one that is not pushed at all. -/
def pushed? (taskId : String) : Option String :=
  if taskId = "." ∨ taskId = ".." then none else some (kept taskId)

/-- The path of a task below the root of the gateway. -/
def pathBelow : Option String → List String
  | none => ["v1", "tasks"]
  | some text =>
    if text = ".." then ["v1", ""]
    else if text = "." then ["v1", "tasks", ""]
    else ["v1", "tasks", segmentOf text]

/-- A blank id apart, something of an id is kept. -/
theorem kept_ne_empty (h : isAllBlank taskId = false) : kept taskId ≠ "" := by
  intro hempty
  have hnil : (taskId.toList.filter fun c => !isSkipped c) = [] := by
    rw [← String.toList_ofList (l := taskId.toList.filter _)]
    exact congrArg String.toList hempty
  have hall : taskId.toList.all isBlank = true := by
    rw [List.all_eq_true]
    intro c hc
    have hskipped : isSkipped c = true := by
      simpa using List.filter_eq_nil_iff.mp hnil c hc
    simp only [isSkipped, Bool.or_eq_true, decide_eq_true_eq] at hskipped
    rcases hskipped with (rfl | rfl) | rfl <;> decide
  rw [isAllBlank, allBlank, hall] at h
  cases h

private theorem opened_tasks (root : List String) :
    opened (root ++ ["v1", "tasks", ""]) = root ++ ["v1", "tasks"] := by
  have hparts : root ++ ["v1", "tasks", ""] = (root ++ ["v1", "tasks"]) ++ [""] := by simp
  rw [opened, hparts, List.getLast?_concat, List.dropLast_concat, if_pos]
  simp

/-- The path of a task is that of the tasks with the text that is pushed. -/
theorem path_task (hroot : r.tasks.path = .segments (root ++ ["v1", "tasks", ""])) :
    (r.task taskId).path = .segments (root ++ pathBelow (pushed? taskId)) := by
  have hpath : (r.task taskId).path =
      .segments (pushText (root ++ ["v1", "tasks"]) taskId) := by
    rw [← opened_tasks]
    simp only [task, hroot]
  have hnames : ¬ root ++ ["v1", "tasks"] = [""] := by
    intro h
    simpa using congrArg List.length h
  have hsegment : String.ofList (percentEncode isSegmentSet
      (taskId.toList.filter fun c => !isSkipped c)) = segmentOf (kept taskId) := by
    rw [segmentOf, kept, String.toList_ofList]
  rw [hpath, pushText, pushed?]
  by_cases hpoints : taskId = "." ∨ taskId = ".."
  · rw [if_pos (by simpa using hpoints), if_pos hpoints, pathBelow]
  · rw [if_neg (by simpa using hpoints), if_neg hpoints, if_neg hnames]
    simp only [hsegment, pathBelow]
    split_ifs with hupper hsame
    · rw [addSegment, if_pos (isUpperDirectory_segmentOf.mpr hupper)]
      simp
    · have hstays : ¬ isUpperDirectory (segmentOf (kept taskId)) = true :=
        mt isUpperDirectory_segmentOf.mp hupper
      rw [addSegment, if_neg hstays, if_pos (isSameDirectory_segmentOf.mpr hsame)]
      simp
    · rw [addSegment_eq _ _ true (mt isUpperDirectory_segmentOf.mp hupper)
        (mt isSameDirectory_segmentOf.mp hsame), List.append_assoc]
      rfl

private theorem segmentsText_tasks (segment : String) :
    segmentsText ["v1", "tasks", segment] = "/v1/tasks/" ++ segment := by
  apply String.toList_inj.mp
  rw [toList_segmentsText, String.toList_append]
  simp

/-- What is pushed is two points, one point or one more segment. -/
theorem pathBelow_some_cases (text : String) :
    text = ".." ∨ text = "." ∨ pathBelow (some text) = ["v1", "tasks", segmentOf text] := by
  rw [pathBelow]
  by_cases hupper : text = ".."
  · exact .inl hupper
  by_cases hsame : text = "."
  · exact .inr (.inl hsame)
  · exact .inr (.inr (by rw [if_neg hupper, if_neg hsame]))

/-- How long the text of the path below the root is tells whether one more segment is pushed. -/
theorem segmentsText_pathBelow_cases {pushed : Option String} (h : pushed ≠ some "") :
    (pushed = none ∧ (segmentsText (pathBelow pushed)).length = 9) ∨
      (pushed = some ".." ∧ (segmentsText (pathBelow pushed)).length = 4) ∨
      (pushed = some "." ∧ (segmentsText (pathBelow pushed)).length = 10) ∨
      ∃ text, pushed = some text ∧
        segmentsText (pathBelow pushed) = "/v1/tasks/" ++ segmentOf text ∧
        10 < (segmentsText (pathBelow pushed)).length := by
  cases pushed with
  | none => exact .inl ⟨rfl, by decide⟩
  | some text =>
    rcases pathBelow_some_cases text with rfl | rfl | hpath
    · exact .inr (.inl ⟨rfl, by decide⟩)
    · exact .inr (.inr (.inl ⟨rfl, by decide⟩))
    · have hnonempty : (segmentOf text).length ≠ 0 := by
        simpa using segmentOf_ne_empty fun heq => h (congrArg some heq)
      have hfront : ("/v1/tasks/" : String).length = 10 := rfl
      refine .inr (.inr (.inr ⟨text, rfl, ?_, ?_⟩))
      · rw [hpath, segmentsText_tasks]
      · rw [hpath, segmentsText_tasks, String.length_append]
        omega

/-- The text of the path below the root of the gateway tells what is pushed. -/
theorem pathBelow_injective {s t : Option String} (hs : s ≠ some "") (ht : t ≠ some "")
    (h : segmentsText (pathBelow s) = segmentsText (pathBelow t)) : s = t := by
  have hlength := congrArg String.length h
  rcases segmentsText_pathBelow_cases hs with ⟨rfl, hlong⟩ | ⟨rfl, hlong⟩ | ⟨rfl, hlong⟩ |
      ⟨text, rfl, htext, hlong⟩ <;>
    rcases segmentsText_pathBelow_cases ht with ⟨rfl, hother⟩ | ⟨rfl, hother⟩ | ⟨rfl, hother⟩ |
      ⟨word, rfl, hword, hother⟩ <;>
    try first | rfl | omega
  -- Only two segments are left that may have the same length.
  rw [htext, hword, String.append_right_inj] at h
  exact congrArg some (segmentOf_injective h)

/-! ## Ids and their segments -/

/-- A task is addressed by a segment: the path of its address is that of the tasks and this
segment, which is not empty, stays one, and is read back as the id without its tabs and line
breaks. -/
structure Addresses (r : Routes) (taskId : String) (segment : String) : Prop where
  path : ∃ names, r.tasks.path = .segments (names ++ [""]) ∧
    (r.task taskId).path = .segments (names ++ [segment])
  nonempty : segment ≠ ""
  chars : ∀ c ∈ segment.toList, IsSegmentChar c
  reads : stringOf? (percentDecode segment.toList) = some (kept taskId)

/-- An id that is left as one point or two points without its tabs and line breaks. -/
def MeansDirectory (taskId : String) : Prop := kept taskId = "." ∨ kept taskId = ".."

/-- An id that is pushed as it is: it has no tabs and line breaks and is not just one point or
two points. -/
structure IsPlain (taskId : String) : Prop where
  unbroken : ∀ c ∈ taskId.toList, isSkipped c = false
  not_same : taskId ≠ "."
  not_upper : taskId ≠ ".."

private theorem IsPlain.kept_eq (h : IsPlain taskId) : kept taskId = taskId := by
  have hall : (taskId.toList.filter fun c => !isSkipped c) = taskId.toList :=
    List.filter_eq_self.mpr fun c hc => by simp [h.unbroken c hc]
  rw [kept, hall, String.ofList_toList]

private theorem IsPlain.pushed?_eq (h : IsPlain taskId) : pushed? taskId = some taskId := by
  have hpoints : ¬ (taskId = "." ∨ taskId = "..") := fun hor => hor.elim h.not_same h.not_upper
  rw [pushed?, if_neg hpoints, h.kept_eq]

private theorem IsPlain.not_meansDirectory (h : IsPlain taskId) : ¬ MeansDirectory taskId := by
  rw [MeansDirectory, h.kept_eq]
  exact fun hor => hor.elim h.not_same h.not_upper

/-- The target of a request is the path of an address without a query. -/
theorem target_of_query_eq_none {a : Address} (h : a.query = none) : target a = a.path.text := by
  rw [target, h]
  exact String.append_empty

private theorem pushed?_ne_some_empty (h : isAllBlank taskId = false) :
    pushed? taskId ≠ some "" := by
  rw [pushed?]
  split
  · exact Option.some_ne_none "" |>.symm
  · simpa using kept_ne_empty h

private theorem query_task (r : Routes) (taskId : String) :
    (r.task taskId).query = r.tasks.query := by
  rw [task]
  split <;> rfl

private theorem liesAt_task {base : Address} (h : r.tasks.LiesAt base) :
    (r.task taskId).LiesAt base := by
  rw [task]
  split
  · exact ⟨h.scheme, h.username, h.password, h.host, h.port, h.query, h.fragment⟩
  · exact h

/-- Two ids that are not blank have the same target exactly when the same is pushed for them. -/
theorem target_task_eq_iff (hquery : r.tasks.query = none)
    (hroot : r.tasks.path = .segments (root ++ ["v1", "tasks", ""]))
    (hid : isAllBlank taskId = false) (hother : isAllBlank other = false) :
    target (r.task taskId) = target (r.task other) ↔ pushed? taskId = pushed? other := by
  have htarget (id : String) :
      target (r.task id) = segmentsText root ++ segmentsText (pathBelow (pushed? id)) := by
    rw [target_of_query_eq_none ((query_task r id).trans hquery), path_task hroot, Path.text,
      segmentsText, List.map_append, String.join_append]
    rfl
  rw [htarget, htarget, String.append_right_inj]
  exact ⟨pathBelow_injective (pushed?_ne_some_empty hid) (pushed?_ne_some_empty hother),
    fun h => by rw [h]⟩

/-- An id that means a directory has no segment of its own in its path. -/
theorem pathBelow_of_meansDirectory (h : MeansDirectory taskId) :
    pathBelow (pushed? taskId) = ["v1", "tasks"] ∨
      pathBelow (pushed? taskId) = ["v1", "tasks", ""] ∨
        pathBelow (pushed? taskId) = ["v1", ""] := by
  rw [pushed?]
  split
  · exact .inl rfl
  · rcases h with h | h
    · exact .inr (.inl (by rw [h]; rfl))
    · exact .inr (.inr (by rw [h]; rfl))

/-- Any other id is pushed and is one more segment. -/
theorem pathBelow_of_not_meansDirectory (h : ¬ MeansDirectory taskId) :
    pathBelow (pushed? taskId) = ["v1", "tasks", segmentOf (kept taskId)] := by
  have hpoints : ¬ (taskId = "." ∨ taskId = "..") := by
    rintro (rfl | rfl)
    · exact h (.inl (by decide))
    · exact h (.inr (by decide))
  rw [pushed?, if_neg hpoints]
  rcases pathBelow_some_cases (kept taskId) with hupper | hsame | hpath
  · exact absurd (.inr hupper) h
  · exact absurd (.inl hsame) h
  · exact hpath

/-- An id is addressed by a segment exactly when it does not mean a directory. -/
theorem exists_addresses_iff (hroot : r.tasks.path = .segments (root ++ ["v1", "tasks", ""]))
    (hid : isAllBlank taskId = false) :
    (∃ segment, r.Addresses taskId segment) ↔ ¬ MeansDirectory taskId := by
  have htasks : root ++ ["v1", "tasks", ""] = (root ++ ["v1", "tasks"]) ++ [""] := by simp
  constructor
  · rintro ⟨segment, ⟨names, hnames, hpath⟩, hnonempty, -, -⟩ hdirectory
    have hfront : names = root ++ ["v1", "tasks"] := by
      rw [hroot, htasks, Path.segments.injEq] at hnames
      exact (List.append_cancel_right hnames).symm
    have hbelow : pathBelow (pushed? taskId) = ["v1", "tasks", segment] := by
      rw [path_task hroot, hfront, List.append_assoc, Path.segments.injEq] at hpath
      exact List.append_cancel_left hpath
    rcases pathBelow_of_meansDirectory hdirectory with h | h | h <;> rw [h] at hbelow
    · simp at hbelow
    · exact hnonempty (by simpa using hbelow.symm)
    · simp at hbelow
  · intro hplain
    refine ⟨segmentOf (kept taskId), ⟨root ++ ["v1", "tasks"], hroot.trans (by rw [htasks]), ?_⟩,
      segmentOf_ne_empty (kept_ne_empty hid), isSegmentChar_of_mem_segmentOf,
      stringOf?_percentDecode_segmentOf _⟩
    rw [path_task hroot, pathBelow_of_not_meansDirectory hplain, List.append_assoc]
    rfl

/-- The address of a task has the place of the base. Unless the id means a directory, it is
addressed by one more segment below the tasks. Two ids have the same target exactly when the same
is pushed for them. So an id that is pushed as it is can be read back from its segment, and no
other such id has its target. -/
theorem task_addressed {text : String} {body : List UInt8} (hbase : ofBase text = .ok r)
    (hid : readTaskId body = .ok taskId) :
    (∃ base, Address.parse text = .ok base ∧ (r.task taskId).LiesAt base) ∧
      ((∃ segment, r.Addresses taskId segment) ↔ ¬ MeansDirectory taskId) ∧
      (IsPlain taskId → ∃ segment, r.Addresses taskId segment ∧
        stringOf? (percentDecode segment.toList) = some taskId) ∧
      ∀ (otherBody : List UInt8) (other : String), readTaskId otherBody = .ok other →
        (target (r.task taskId) = target (r.task other) ↔ pushed? taskId = pushed? other) ∧
          (IsPlain taskId → IsPlain other → target (r.task taskId) = target (r.task other) →
            taskId = other) := by
  obtain ⟨base, hparse, hplace, root, hroot⟩ := tasks_of_ofBase hbase
  have hblank := isAllBlank_of_readTaskId hid
  have hiff := exists_addresses_iff hroot hblank
  refine ⟨⟨base, hparse, liesAt_task hplace⟩, hiff, ?_, ?_⟩
  · intro hplain
    obtain ⟨segment, hsegment⟩ := hiff.mpr hplain.not_meansDirectory
    exact ⟨segment, hsegment, by rw [hsegment.reads, hplain.kept_eq]⟩
  · intro otherBody other hother
    have hshared :=
      target_task_eq_iff hplace.query hroot hblank (isAllBlank_of_readTaskId hother)
    refine ⟨hshared, fun hplain hplainOther htarget => ?_⟩
    have hpushed := hshared.mp htarget
    rw [hplain.pushed?_eq, hplainOther.pushed?_eq] at hpushed
    exact Option.some.inj hpushed

/-- The resources of a gateway on a host. -/
def hosted : Routes :=
  below { scheme := "http", host := some (.domain "h"), path := .segments ["api", ""] }

private theorem ofBase_hosted : ofBase "http://h/api" = .ok hosted := by decide +kernel

/-- An id with a slash and a percent sign is one segment. -/
theorem task_addressed_slash :
    ∃ segment, hosted.Addresses "a/b%" segment ∧
      stringOf? (percentDecode segment.toList) = some "a/b%" := by
  have hid : readTaskId (bytesOf "\x7b\"task_id\":\"a/b%\"\x7d") = .ok "a/b%" := by
    decide +kernel
  have hunbroken : ∀ c ∈ "a/b%".toList, isSkipped c = false := by simp [isSkipped]
  exact (task_addressed ofBase_hosted hid).2.2.1 ⟨hunbroken, by decide, by decide⟩

/-- Two ids that differ in a tab are both announced and have the same target, and an id that is one
point is announced and has the target of the tasks themselves. -/
theorem ids_not_addressed :
    readTaskId (bytesOf "\x7b\"task_id\":\"a\\tb\"\x7d") = .ok "a\tb" ∧
      readTaskId (bytesOf "\x7b\"task_id\":\"ab\"\x7d") = .ok "ab" ∧
      readTaskId (bytesOf "\x7b\"task_id\":\".\"\x7d") = .ok "." ∧
      target (hosted.task "a\tb") = "/api/v1/tasks/ab" ∧
      target (hosted.task "ab") = "/api/v1/tasks/ab" ∧
      target (hosted.task ".") = "/api/v1/tasks" := by
  refine ⟨?_, ?_, ?_, ?_, ?_, ?_⟩ <;> decide +kernel

end Routes

end GatewayProbe.Gateway
