import GatewayProbe.Gateway.Body
import GatewayProbe.Proofs.Json.Rearranging

/-!
# What status replies say

A status reply is read by what it says: the state at the top, the state inside the task
information, and the result. Blanks between tokens, the order of members, the spelling of names
and strings, and members under foreign names make no difference. The state at the top decides,
and without one that inside the task information.
-/

namespace GatewayProbe.Gateway

open GatewayProbe.Json GatewayProbe.Text

/-- The known names of a status reply. -/
abbrev bodyNames : List String := ["status", "task_info", "result"]

/-- The known name of the task information. -/
abbrev infoNames : List String := ["status"]

/-- The known names of a result. -/
abbrev resultNames : List String := ["stdout", "stderr", "exit_code"]

/-! ### What the parts of a reply mean -/

/-- Task information with the state text that it gives. -/
inductive IsTaskInfo : Value → Option String → Prop
  | mk {v : Value} {status : Option Value} {text : Option String}
      (h : HasFields infoNames v [status]) (hstatus : Optionally IsText status text) :
      IsTaskInfo v text

/-- An exit code of 32 bits, as it is written. -/
inductive IsExitCode : Value → Int → Prop
  | mk {code : Int} (hlow : -(2 ^ 31) ≤ code) (hhigh : code ≤ 2 ^ 31 - 1) :
      IsExitCode (.number (Document.integer code).scalar) code

/-- A result with its outputs, which are empty where they are left out, and its exit code. -/
inductive IsTaskResult : Value → TaskResult → Prop
  | mk {v : Value} {out err code : Option Value} {stdout stderr : Option String}
      {exitCode : Option Int} (h : HasFields resultNames v [out, err, code])
      (hout : Optionally IsText out stdout) (herr : Optionally IsText err stderr)
      (hcode : Optionally IsExitCode code exitCode) :
      IsTaskResult v ⟨stdout.getD "", stderr.getD "", exitCode⟩

/-- A status reply with its two places of the state and its result. -/
inductive IsStatusBody : Value → StatusBody → Prop
  | mk {v : Value} {status info result : Option Value} {flat : Option String}
      {nested : Option (Option String)} {outcome : Option TaskResult}
      (h : HasFields bodyNames v [status, info, result])
      (hstatus : Optionally IsText status flat) (hinfo : Optionally IsTaskInfo info nested)
      (hresult : Optionally IsTaskResult result outcome) :
      IsStatusBody v ⟨flat, nested.join, outcome⟩

private theorem statusField?_eq_some_iff {v : Value} {text : Option String} :
    statusField? v = some text ↔ IsTaskInfo v text := by
  have hread : statusField? v = some text ↔
      ∃ status, HasFields infoNames v [status] ∧ Optionally IsText status text :=
    textField_eq_some_iff
  rw [hread]
  constructor
  · rintro ⟨status, hfields, hstatus⟩
    exact .mk hfields hstatus
  · rintro ⟨hfields, hstatus⟩
    exact ⟨_, hfields, hstatus⟩

private theorem integer?_eq_some_iff_isExitCode {v : Value} (hv : v.WellFormed) {code : Int} :
    v.integer? (-(2 ^ 31)) (2 ^ 31 - 1) = some code ↔ IsExitCode v code := by
  cases hv with
  | number h =>
    rw [integer?_eq_some_iff h (by decide) (by decide) (by decide) (by decide)]
    constructor
    · rintro ⟨hlow, hhigh, rfl⟩
      exact .mk hlow hhigh
    · rintro ⟨hlow, hhigh⟩
      exact ⟨hlow, hhigh, rfl⟩
  | null => exact ⟨nofun, nofun⟩
  | bool => exact ⟨nofun, nofun⟩
  | string => exact ⟨nofun, nofun⟩
  | list => exact ⟨nofun, nofun⟩
  | record => exact ⟨nofun, nofun⟩

private theorem result?_eq_some_iff {v : Value} (hv : v.WellFormed) {r : TaskResult} :
    result? v = some r ↔ IsTaskResult v r := by
  have hcode {out err code : Option Value} (h : HasFields resultNames v [out, err, code])
      {exitCode : Option Int} :
      optional? (Value.integer? (-(2 ^ 31)) (2 ^ 31 - 1)) code = some exitCode ↔
        Optionally IsExitCode code exitCode :=
    optional?_eq_some_iff (fun w hw _ => integer?_eq_some_iff_isExitCode
      (h.wellFormed hv (by simp [Option.mem_def.mp hw]))) nofun
  constructor
  · intro h
    unfold result? at h
    split at h
    · rename_i out err code hfields
      rw [fields?_eq_some_iff] at hfields
      simp only [Option.bind_eq_bind, Option.bind_eq_some_iff, Option.pure_def, Option.some.injEq,
        optional?_text?_eq_some_iff, hcode hfields] at h
      obtain ⟨stdout, hout, stderr, herr, exitCode, hexit, rfl⟩ := h
      exact .mk hfields hout herr hexit
    · simp at h
  · rintro ⟨hfields, hout, herr, hexit⟩
    simp only [result?, fields?_eq_some_iff.mpr hfields, Option.bind_eq_bind,
      optional?_text?_eq_some_iff.mpr hout, optional?_text?_eq_some_iff.mpr herr,
      (hcode hfields).mpr hexit, Option.bind_some, Option.pure_def]

/-- A value is read as the body of a status answer exactly when it is laid out as one. -/
theorem statusBody?_eq_some_iff {v : Value} (hv : v.WellFormed) {b : StatusBody} :
    statusBody? v = some b ↔ IsStatusBody v b := by
  have hinfo {o : Option Value} {nested : Option (Option String)} :
      optional? statusField? o = some nested ↔ Optionally IsTaskInfo o nested :=
    optional?_eq_some_iff (fun _ _ _ => statusField?_eq_some_iff) nofun
  have hresult {status info result : Option Value}
      (h : HasFields bodyNames v [status, info, result]) {outcome : Option TaskResult} :
      optional? result? result = some outcome ↔ Optionally IsTaskResult result outcome :=
    optional?_eq_some_iff (fun w hw _ => result?_eq_some_iff
      (h.wellFormed hv (by simp [Option.mem_def.mp hw]))) fun _ ⟨h, _, _, _⟩ => nomatch h
  constructor
  · intro h
    unfold statusBody? at h
    split at h
    · rename_i status info result hfields
      rw [fields?_eq_some_iff] at hfields
      simp only [Option.bind_eq_bind, Option.bind_eq_some_iff, Option.pure_def, Option.some.injEq,
        optional?_text?_eq_some_iff, hinfo, hresult hfields] at h
      obtain ⟨flat, hflat, nested, hnested, outcome, houtcome, rfl⟩ := h
      exact .mk hfields hflat hnested houtcome
    · simp at h
  · rintro ⟨hfields, hflat, hnested, houtcome⟩
    simp only [statusBody?, fields?_eq_some_iff.mpr hfields, Option.bind_eq_bind,
      optional?_text?_eq_some_iff.mpr hflat, hinfo.mpr hnested, (hresult hfields).mpr houtcome,
      Option.bind_some, Option.pure_def]

/-! ### Replies that say the same -/

/-- Values of one part of a reply that say the same: the task information and the result may be
rearranged, and every text may be spelled in another way. -/
def PartsAgree (name : String) : Value → Value → Prop :=
  if name = "task_info" then Recast infoNames fun _ => Respelled
  else if name = "result" then Recast resultNames fun _ => Respelled
  else Respelled

/-- Replies that say the same. -/
abbrev RepliesAgree : Value → Value → Prop := Recast bodyNames PartsAgree

private theorem partsAgree_refl (name : String) (v : Value) : PartsAgree name v v := by
  unfold PartsAgree
  split
  · exact .same v
  · split
    · exact .same v
    · exact .same v

theorem PartsAgree.symm (name : String) (v w : Value) (h : PartsAgree name v w) :
    PartsAgree name w v := by
  unfold PartsAgree at h ⊢
  split_ifs at h ⊢
  · exact Recast.symm (fun _ _ _ => Respelled.symm) h
  · exact Recast.symm (fun _ _ _ => Respelled.symm) h
  · exact h.symm

private theorem text_congr {o o' : Option Value} (h : Option.Rel Respelled o o') :
    optional? Value.text? o = optional? Value.text? o' :=
  optional?_congr (fun _ _ h => h.text?) (fun _ _ h => h.eq_null_iff) h

private theorem statusField?_recast {v w : Value} (h : Recast infoNames (fun _ => Respelled) v w) :
    statusField? v = statusField? w := by
  obtain ⟨hv, hw⟩ | ⟨fields, fields', hv, hw, halike⟩ :=
    fields?_recast (fun _ => .same) (fun _ _ _ => Respelled.symm) h
  · simp only [statusField?, hv, hw]
  · obtain - | ⟨hstatus, - | -⟩ := halike
    simpa only [statusField?, hv, hw] using text_congr hstatus

private theorem result?_recast {v w : Value} (h : Recast resultNames (fun _ => Respelled) v w) :
    result? v = result? w := by
  obtain ⟨hv, hw⟩ | ⟨fields, fields', hv, hw, halike⟩ :=
    fields?_recast (fun _ => .same) (fun _ _ _ => Respelled.symm) h
  · simp only [result?, hv, hw]
  · obtain - | ⟨hout, - | ⟨herr, - | ⟨hcode, - | -⟩⟩⟩ := halike
    have hexit := optional?_congr (fun _ _ h => h.integer? (-(2 ^ 31)) (2 ^ 31 - 1))
      (fun _ _ h => h.eq_null_iff) hcode
    simp only [result?, hv, hw, text_congr hout, text_congr herr, hexit]

/-- Replies that say the same have the same parts. -/
theorem statusBody?_recast {v w : Value} (h : RepliesAgree v w) :
    statusBody? v = statusBody? w := by
  obtain ⟨hv, hw⟩ | ⟨fields, fields', hv, hw, halike⟩ :=
    fields?_recast partsAgree_refl PartsAgree.symm h
  · simp only [statusBody?, hv, hw]
  · obtain - | ⟨hstatus, - | ⟨hinfo, - | ⟨hresult, - | -⟩⟩⟩ := halike
    have hinfo' := optional?_congr (fun _ _ h => statusField?_recast h)
      (fun _ _ h => h.eq_null_iff) hinfo
    have hresult' := optional?_congr (fun _ _ h => result?_recast h)
      (fun _ _ h => h.eq_null_iff) hresult
    simp only [statusBody?, hv, hw, text_congr hstatus, hinfo', hresult']

/-! ### The state that decides -/

/-- A reply with a state at the top. -/
def flatReply (status : String) (result : Value) : Value :=
  .record [(plain "status", .string (plain status)), (plain "result", result)]

/-- A reply with a state inside the task information. -/
def nestedReply (status : String) (result : Value) : Value :=
  .record [(plain "task_info", .record [(plain "status", .string (plain status))]),
    (plain "result", result)]

/-- A reply with a state in both places. -/
def doubleReply (flat nested : String) (result : Value) : Value :=
  .record [(plain "status", .string (plain flat)),
    (plain "task_info", .record [(plain "status", .string (plain nested))]),
    (plain "result", result)]

private theorem statusBody?_of_fields {v : Value} {status info result : Option Value}
    {flat : Option String} {nested : Option (Option String)}
    (h : v.fields? bodyNames = some [status, info, result])
    (hflat : optional? Value.text? status = some flat)
    (hnested : optional? statusField? info = some nested) :
    statusBody? v = (optional? result? result).map fun r => ⟨flat, nested.join, r⟩ := by
  simp only [statusBody?, h, hflat, hnested]
  cases optional? result? result with
  | none => rfl
  | some r => rfl

private theorem text_plain (text : String) :
    optional? Value.text? (some (.string (plain text))) = some (some text) := by
  simp [optional?, Value.text?]

private theorem statusField_plain (status : String) :
    optional? statusField? (some (.record [(plain "status", .string (plain status))])) =
      some (some (some status)) := by
  have hfields : (Value.record [(plain "status", .string (plain status))]).fields? ["status"] =
      some [some (.string (plain status))] := by
    simp [Value.fields?, namedMembers?, valuesOf, atMostOne?]
  have hread : statusField? (.record [(plain "status", .string (plain status))]) =
      some (some status) := by
    simpa only [statusField?, hfields] using text_plain status
  simp only [optional?, hread, Option.map_some]

private theorem statusBody?_flatReply (status : String) (result : Value) :
    statusBody? (flatReply status result) =
      (optional? result? (some result)).map fun r => ⟨some status, none, r⟩ := by
  have hfields : (flatReply status result).fields? bodyNames =
      some [some (.string (plain status)), none, some result] := by
    simp [flatReply, Value.fields?, namedMembers?, valuesOf, atMostOne?]
  exact statusBody?_of_fields hfields (text_plain status) rfl

private theorem statusBody?_nestedReply (status : String) (result : Value) :
    statusBody? (nestedReply status result) =
      (optional? result? (some result)).map fun r => ⟨none, some status, r⟩ := by
  have hfields : (nestedReply status result).fields? bodyNames =
      some [none, some (.record [(plain "status", .string (plain status))]), some result] := by
    simp [nestedReply, Value.fields?, namedMembers?, valuesOf, atMostOne?]
  exact statusBody?_of_fields hfields rfl (statusField_plain status)

private theorem statusBody?_doubleReply (flat nested : String) (result : Value) :
    statusBody? (doubleReply flat nested result) =
      (optional? result? (some result)).map fun r => ⟨some flat, some nested, r⟩ := by
  have hfields : (doubleReply flat nested result).fields? bodyNames =
      some [some (.string (plain flat)),
        some (.record [(plain "status", .string (plain nested))]), some result] := by
    simp [doubleReply, Value.fields?, namedMembers?, valuesOf, atMostOne?]
  exact statusBody?_of_fields hfields (text_plain flat) (statusField_plain nested)

/-! ### What is read from a reply -/

/-- A reply is read as what its parts say about the task. -/
theorem readTaskInfo_of_some {v : Value} {body : List UInt8} {b : StatusBody}
    (hv : v.Written body) (hb : statusBody? v = some b) (taskId : String) :
    readTaskInfo taskId body = b.info taskId := by
  simp only [readTaskInfo, parse_eq_some_iff.mpr hv, Option.bind_some, hb]

private theorem readTaskInfo_of_none {v : Value} {body : List UInt8} (hv : v.Written body)
    (hb : statusBody? v = none) (taskId : String) :
    readTaskInfo taskId body = .error (.malformed .status .notJson) := by
  simp only [readTaskInfo, parse_eq_some_iff.mpr hv, Option.bind_some, hb]

/-- Only the deciding state and the result of a reply matter. -/
theorem info_congr {b c : StatusBody} (hdeciding : b.deciding? = c.deciding?)
    (hresult : b.result = c.result) (taskId : String) : b.info taskId = c.info taskId := by
  simp only [StatusBody.info, hdeciding, hresult]

/-- Replies with one result are read alike if the same state decides in both. -/
theorem readTaskInfo_congr {v w : Value} {body other : List UInt8} (hv : v.Written body)
    (hw : w.Written other) {result : Option (Option TaskResult)}
    {flat nested flat' nested' : Option String}
    (hbody : statusBody? v = result.map fun r => ⟨flat, nested, r⟩)
    (hother : statusBody? w = result.map fun r => ⟨flat', nested', r⟩)
    (hdeciding : flat.or nested = flat'.or nested') (taskId : String) :
    readTaskInfo taskId body = readTaskInfo taskId other := by
  cases result with
  | none =>
    rw [readTaskInfo_of_none hv hbody, readTaskInfo_of_none hw hother]
  | some r =>
    rw [readTaskInfo_of_some hv hbody, readTaskInfo_of_some hw hother]
    apply info_congr
    · exact hdeciding
    · rfl

private theorem info_eq_ok_iff {b : StatusBody} {taskId : String} {info : TaskInfo} :
    b.info taskId = .ok info ↔ ∃ text, b.deciding? = some text ∧
      TaskStatus.ofWire? text = some info.status ∧ info.taskId = taskId ∧
      info.result = b.result := by
  constructor
  · intro h
    unfold StatusBody.info at h
    split at h
    · simp at h
    · rename_i text htext
      split at h
      · simp at h
      · rename_i status hstatus
        obtain rfl := Except.ok.inj h
        exact ⟨text, htext, hstatus, rfl, rfl⟩
  · rintro ⟨text, htext, hstatus, rfl, hresult⟩
    simp only [StatusBody.info, htext, hstatus, ← hresult]

/-- A reply is accepted exactly if it is a written form of a value with the parts of a reply
whose deciding state has a meaning; this, the task id and the result are what is told. -/
theorem readTaskInfo_eq_ok_iff {taskId : String} {body : List UInt8} {info : TaskInfo} :
    readTaskInfo taskId body = .ok info ↔ ∃ v b text, v.Written body ∧ IsStatusBody v b ∧
      b.deciding? = some text ∧ TaskStatus.ofWire? text = some info.status ∧
      info.taskId = taskId ∧ info.result = b.result := by
  constructor
  · intro h
    cases hread : (parse body).bind statusBody? with
    | none => simp [readTaskInfo, hread] at h
    | some b =>
      obtain ⟨v, hv, hb⟩ := Option.bind_eq_some_iff.mp hread
      rw [parse_eq_some_iff] at hv
      rw [readTaskInfo_of_some hv hb, info_eq_ok_iff] at h
      obtain ⟨text, htext⟩ := h
      exact ⟨v, b, text, hv, (statusBody?_eq_some_iff hv.1).mp hb, htext⟩
  · rintro ⟨v, b, text, hv, hb, htext⟩
    rw [readTaskInfo_of_some hv ((statusBody?_eq_some_iff hv.1).mpr hb), info_eq_ok_iff]
    exact ⟨text, htext⟩

/-- A status reply is read by what it says. Replies that say the same are read alike, however
they are written. A state inside the task information is read as one at the top, and one at the
top decides over it. A reply that is accepted gives the task id asked for, the state that its
deciding text names, and its result as it is written. -/
theorem readTaskInfo_by_content (taskId : String) :
    (∀ {v w : Value} {body other : List UInt8}, RepliesAgree v w → v.Written body →
      w.Written other → readTaskInfo taskId body = readTaskInfo taskId other) ∧
    (∀ (status : String) (result : Value) {v w : Value} {body other : List UInt8},
      RepliesAgree (flatReply status result) v → RepliesAgree (nestedReply status result) w →
      v.Written body → w.Written other →
      readTaskInfo taskId body = readTaskInfo taskId other) ∧
    (∀ (flat nested : String) (result : Value) {v w : Value} {body other : List UInt8},
      RepliesAgree (doubleReply flat nested result) v → RepliesAgree (flatReply flat result) w →
      v.Written body → w.Written other →
      readTaskInfo taskId body = readTaskInfo taskId other) ∧
    ∀ {body : List UInt8} {info : TaskInfo}, readTaskInfo taskId body = .ok info ↔
      ∃ v b text, v.Written body ∧ IsStatusBody v b ∧ b.flat.or b.nested = some text ∧
        TaskStatus.ofWire? text = some info.status ∧ info.taskId = taskId ∧
        info.result = b.result := by
  refine ⟨?_, ?_, ?_, readTaskInfo_eq_ok_iff⟩
  · intro v w body other hagree hv hw
    have hsame := statusBody?_recast hagree
    cases hb : statusBody? v with
    | none => rw [readTaskInfo_of_none hv hb, readTaskInfo_of_none hw (hsame ▸ hb)]
    | some b => rw [readTaskInfo_of_some hv hb, readTaskInfo_of_some hw (hsame ▸ hb)]
  · intro status result v w body other hv hw hbody hother
    have hflat := statusBody?_flatReply status result
    have hnested := statusBody?_nestedReply status result
    rw [statusBody?_recast hv] at hflat
    rw [statusBody?_recast hw] at hnested
    exact readTaskInfo_congr hbody hother hflat hnested (Option.or_none) taskId
  · intro flat nested result v w body other hv hw hbody hother
    have hdouble := statusBody?_doubleReply flat nested result
    have hflat := statusBody?_flatReply flat result
    rw [statusBody?_recast hv] at hdouble
    rw [statusBody?_recast hw] at hflat
    exact readTaskInfo_congr hbody hother hdouble hflat rfl taskId

/-- A result with an exit code alone. -/
private def exitSeven : Value := .record [(plain "exit_code", .number ['7'])]

/-- A reply with a further member, in another order. -/
private def reorderedReply : Value :=
  .record [(plain "x", .list [.record []]), (plain "result", exitSeven),
    (plain "status", .string (plain "RUNNING"))]

private def flatBytes : List UInt8 :=
  bytesOf "\x7b\"status\":\"RUNNING\",\"result\":\x7b\"exit_code\":7\x7d\x7d"

private def reorderedBytes : List UInt8 :=
  bytesOf " \x7b\"x\":[\x7b\x7d], \"result\":\x7b\"exit_code\":7\x7d, \"status\":\"RUNNING\"\x7d\n"

private def nestedBytes : List UInt8 :=
  bytesOf "\x7b\"task_info\":\x7b\"status\":\"RUNNING\"\x7d,\"result\":\x7b\"exit_code\":7\x7d\x7d"

private def doubleBytes : List UInt8 :=
  bytesOf ("\x7b\"status\":\"RUNNING\",\"task_info\":\x7b\"status\":\"FAILED\"\x7d," ++
    "\"result\":\x7b\"exit_code\":7\x7d\x7d")

private theorem repliesAgree_reordered :
    RepliesAgree (flatReply "RUNNING" exitSeven) reorderedReply := by
  have hforeign : ∀ m ∈ [(plain "x", Value.list [.record []])], IsForeign bodyNames m := by
    intro m hm
    obtain rfl := List.mem_singleton.mp hm
    exact ⟨"x", spells_plain "x", by decide⟩
  exact .record (rearranged_of_perm partsAgree_refl hforeign (List.reverse_perm [_, _, _]))

/-- Four written forms of a task that runs are read alike. -/
theorem readTaskInfo_by_content_running :
    RepliesAgree (flatReply "RUNNING" exitSeven) reorderedReply ∧
      (flatReply "RUNNING" exitSeven).Written flatBytes ∧ reorderedReply.Written reorderedBytes ∧
      (nestedReply "RUNNING" exitSeven).Written nestedBytes ∧
      (doubleReply "RUNNING" "FAILED" exitSeven).Written doubleBytes ∧
      readTaskInfo "t" flatBytes = readTaskInfo "t" reorderedBytes ∧
      readTaskInfo "t" reorderedBytes = readTaskInfo "t" nestedBytes ∧
      readTaskInfo "t" doubleBytes = readTaskInfo "t" reorderedBytes := by
  have hagree := repliesAgree_reordered
  have hflat : (flatReply "RUNNING" exitSeven).Written flatBytes :=
    written_of_lex (by decide +kernel) rfl
  have hreordered : reorderedReply.Written reorderedBytes :=
    written_of_lex (by decide +kernel) rfl
  have hnested : (nestedReply "RUNNING" exitSeven).Written nestedBytes :=
    written_of_lex (by decide +kernel) rfl
  have hdouble : (doubleReply "RUNNING" "FAILED" exitSeven).Written doubleBytes :=
    written_of_lex (by decide +kernel) rfl
  obtain ⟨hlayout, hplace, hprecedence, -⟩ := readTaskInfo_by_content "t"
  exact ⟨hagree, hflat, hreordered, hnested, hdouble, hlayout hagree hflat hreordered,
    hplace "RUNNING" exitSeven hagree (.same _) hreordered hnested,
    hprecedence "RUNNING" "FAILED" exitSeven (.same _) hagree hdouble hreordered⟩

end GatewayProbe.Gateway
