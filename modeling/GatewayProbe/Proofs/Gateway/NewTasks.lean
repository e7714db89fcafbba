import GatewayProbe.Gateway.Body
import GatewayProbe.Proofs.Json.Fields

/-!
# The ids of new tasks

A reply to a submission announces a task by the text under the one name that counts, in whatever
spelling, or by the only item of a list. The id is this text as it is, and a reply that announces
none, or only blanks, is malformed. What stands under other names is never looked at, so its
strings need not be texts; the names themselves have to be.
-/

namespace GatewayProbe.Gateway

open GatewayProbe.Json GatewayProbe.Text

/-- A value that announces the task with an id. -/
inductive Announces : Value → String → Prop
  | member {before after : List (List Piece × Value)} {name spelling : List Piece} {id : String}
      (hname : Spells name "task_id".toList) (hid : Spells spelling id.toList)
      (hothers : ∀ m ∈ before ++ after, ∃ t, Spells m.1 t ∧ t ≠ "task_id".toList) :
      Announces (.record (before ++ (name, .string spelling) :: after)) id
  | item {spelling : List Piece} {id : String} (hid : Spells spelling id.toList) :
      Announces (.list [.string spelling]) id

/-- The values from which an id is read are those that announce it. -/
theorem taskIdField?_eq_some_some_iff {v : Value} {id : String} :
    taskIdField? v = some (some id) ↔ Announces v id := by
  have hread : taskIdField? v = some (some id) ↔
      ∃ field, HasFields ["task_id"] v [field] ∧ Optionally IsText field (some id) :=
    textField_eq_some_iff
  rw [hread]
  constructor
  · rintro ⟨_, hfields, hfield⟩
    cases hfield with
    | given htext =>
      cases htext with
      | mk hid =>
        rcases hasFields_singleton_iff.mp hfields with
          ⟨members, rfl, hnames, honly⟩ | ⟨item, rfl, hitem⟩
        · obtain ⟨before, name, after, rfl, hname, hothers⟩ := only_some_iff.mp honly
          apply Announces.member hname hid
          intro m hm
          obtain ⟨t, ht⟩ := hnames m (List.perm_middle.mem_iff.mpr (List.mem_cons_of_mem _ hm))
          exact ⟨t, ht, fun heq => hothers m hm (heq ▸ ht)⟩
        · exact Option.some.inj hitem ▸ .item hid
  · intro h
    cases h with
    | @member before after name spelling _ hname hid hothers =>
      refine ⟨_, hasFields_singleton_iff.mpr (.inl ⟨_, rfl, fun m hm => ?_, ?_⟩), .given (.mk hid)⟩
      · obtain rfl | hm := List.mem_cons.mp (List.perm_middle.mem_iff.mp hm)
        · exact ⟨_, hname⟩
        · obtain ⟨t, ht, -⟩ := hothers m hm
          exact ⟨t, ht⟩
      · refine only_some_iff.mpr ⟨_, _, _, rfl, hname, fun m hm hspells => ?_⟩
        obtain ⟨t, ht, hne⟩ := hothers m hm
        exact hne (ht.eq hspells)
    | item hid => exact ⟨_, .list rfl, .given (.mk hid)⟩

/-- A reply from which an id is taken is a written form of a value that announces it. -/
theorem bind_taskIdField?_iff {body : List UInt8} {id : String} :
    (parse body).bind taskIdField? = some (some id) ↔
      ∃ v : Value, v.Written body ∧ Announces v id := by
  simp only [Option.bind_eq_some_iff, parse_eq_some_iff, taskIdField?_eq_some_some_iff]

/-- A task id is read from a reply, or the reply is malformed. -/
theorem readTaskId_cases (body : List UInt8) :
    (∃ id, (parse body).bind taskIdField? = some (some id) ∧ readTaskId body =
      if isAllBlank id then .error (.malformed .execute .emptyTaskId) else .ok id) ∨
    (∃ what, readTaskId body = .error (.malformed .execute what)) ∧
      ∀ id, (parse body).bind taskIdField? ≠ some (some id) := by
  unfold readTaskId
  cases (parse body).bind taskIdField? with
  | none => exact .inr ⟨⟨_, rfl⟩, nofun⟩
  | some o =>
    cases o with
    | none => exact .inr ⟨⟨_, rfl⟩, nofun⟩
    | some id => exact .inl ⟨id, rfl, rfl⟩

/-- An id that is read from a reply is not blank. -/
theorem isAllBlank_of_readTaskId {body : List UInt8} {id : String} (h : readTaskId body = .ok id) :
    isAllBlank id = false := by
  obtain ⟨other, -, hread⟩ | ⟨⟨what, hread⟩, -⟩ := readTaskId_cases body
  · rw [hread] at h
    split_ifs at h with hblank
    exact Except.ok.inj h ▸ Bool.eq_false_iff.mpr hblank
  · simp [hread] at h

/-- The id that a reply announces is taken as it is, if a character of it is not blank. All other
replies are malformed: those that announce only blanks, and those that announce no task. -/
theorem readTaskId_verbatim (body : List UInt8) :
    (∀ (v : Value) (id : String), v.Written body → Announces v id →
      ((∃ c ∈ id.toList, isBlank c = false) → readTaskId body = .ok id) ∧
      ((∀ c ∈ id.toList, isBlank c = true) →
        readTaskId body = .error (.malformed .execute .emptyTaskId))) ∧
    ((∀ (v : Value) (id : String), v.Written body → ¬ Announces v id) →
      ∃ what, readTaskId body = .error (.malformed .execute what)) ∧
    ∀ id, readTaskId body = .ok id → ∃ c ∈ id.toList, isBlank c = false := by
  refine ⟨?_, ?_, ?_⟩
  · intro v id hv hannounces
    have hread : readTaskId body =
        if isAllBlank id then .error (.malformed .execute .emptyTaskId) else .ok id := by
      rw [readTaskId, bind_taskIdField?_iff.mpr ⟨v, hv, hannounces⟩]
    constructor
    · intro hsome
      rw [hread, isAllBlank_eq_false_iff.mpr hsome]
      rfl
    · intro hall
      have hblank : isAllBlank id = true := List.all_eq_true.mpr hall
      rw [hread, if_pos hblank]
  · intro hnone
    obtain ⟨id, hid, -⟩ | ⟨hmalformed, -⟩ := readTaskId_cases body
    · obtain ⟨v, hv, hannounces⟩ := bind_taskIdField?_iff.mp hid
      exact absurd hannounces (hnone v id hv)
    · exact hmalformed
  · intro id hok
    exact isAllBlank_eq_false_iff.mp (isAllBlank_of_readTaskId hok)

/-- A reply with a byte that is no character in the string under another name. -/
private def strayByteReply : List UInt8 :=
  bytesOf "\x7b\"task_id\":\"a\",\"x\":\"" ++ 0xFF :: bytesOf "\"\x7d"

/-- A reply with another name that is half of a character. -/
private def halfNameReply : List UInt8 := bytesOf "\x7b\"task_id\":\"a\",\"\\ud800\":1\x7d"

/-- Bytes that are no text announce a task if the strange byte stands in a string that is passed
over; and a well-formed record with an id announces no task if another name is half of a
character. -/
theorem readTaskId_verbatim_skipped :
    (stringOf? strayByteReply = none ∧ readTaskId strayByteReply = .ok "a") ∧
      (Value.record [(plain "task_id", .string (plain "a")),
        ([.codeUnit 0xD800], .number ['1'])]).Written halfNameReply ∧
      readTaskId halfNameReply = .error (.malformed .execute .notJson) := by
  refine ⟨⟨?_, ?_⟩, written_of_lex ?_ rfl, ?_⟩
  · decide +kernel
  · decide +kernel
  · decide +kernel
  · decide +kernel

/-- An id that is spelled with escapes between blanks and other members. -/
private def escapedReply : List UInt8 :=
  bytesOf " \x7b\"x\":[1],\"task\\u005fid\":\" \\n\\ud83d\\ude00é\",\"y\":null\x7d"

/-- The id in that reply as it is spelled. -/
private def escapedId : List Piece :=
  [.byte 0x20, .byte 0x0A, .codeUnit 0xD83D, .codeUnit 0xDE00, .byte 0xC3, .byte 0xA9]

/-- The name of the id in that reply as it is spelled. -/
private def escapedName : List Piece := plain "task" ++ .codeUnit 0x5F :: plain "id"

/-- The members of that reply. -/
private def escapedMembers : List (List Piece × Value) :=
  [(plain "x", .list [.number ['1']])] ++ (escapedName, .string escapedId) :: [(plain "y", .null)]

/-- An id is the text that is spelled, with its blanks; a reply whose id is half of a character
announces no task. -/
theorem readTaskId_verbatim_escaped :
    (Value.record escapedMembers).Written escapedReply ∧
      Announces (.record escapedMembers) " \n😀é" ∧ readTaskId escapedReply = .ok " \n😀é" ∧
      ∃ what, readTaskId (bytesOf "[\"\\ud83d\"]") = .error (.malformed .execute what) := by
  have hwritten : (Value.record escapedMembers).Written escapedReply :=
    written_of_lex (by decide +kernel) rfl
  have hname : Spells escapedName "task_id".toList :=
    spelledText?_eq_some_iff.mp (by decide +kernel)
  have hid : Spells escapedId " \n😀é".toList := spelledText?_eq_some_iff.mp (by decide +kernel)
  have hothers : ∀ m ∈ [(plain "x", Value.list [.number ['1']])] ++ [(plain "y", .null)],
      ∃ t, Spells m.1 t ∧ t ≠ "task_id".toList := by
    simp only [List.mem_append, List.mem_singleton]
    rintro m (rfl | rfl)
    · exact ⟨_, spells_plain "x", by decide⟩
    · exact ⟨_, spells_plain "y", by decide⟩
  have hannounces : Announces (.record escapedMembers) " \n😀é" := .member hname hid hothers
  have hnone : (parse (bytesOf "[\"\\ud83d\"]")).bind taskIdField? = none := by decide +kernel
  have hhalf (v : Value) (id : String) (hv : v.Written (bytesOf "[\"\\ud83d\"]")) :
      ¬ Announces v id := by
    intro h
    simp [bind_taskIdField?_iff.mpr ⟨v, hv, h⟩] at hnone
  obtain ⟨hverbatim, -⟩ := readTaskId_verbatim escapedReply
  obtain ⟨-, hmalformed, -⟩ := readTaskId_verbatim (bytesOf "[\"\\ud83d\"]")
  exact ⟨hwritten, hannounces, (hverbatim _ _ hwritten hannounces).1 ⟨'😀', by decide, by decide⟩,
    hmalformed hhalf⟩

end GatewayProbe.Gateway
