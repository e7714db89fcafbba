import GatewayProbe.Proofs.Json.Numbers

/-!
# What a JSON text says

A value has one sequence of tokens. A text is read as a value exactly if it is a written
form of the tokens of that value and the numbers in the value are spelled well. Nesting is
not bounded.
-/

namespace GatewayProbe.Json

mutual

/-- The tokens of a value. -/
def Value.tokens : Value → List Token
  | .null => [.word ['n', 'u', 'l', 'l']]
  | .bool true => [.word ['t', 'r', 'u', 'e']]
  | .bool false => [.word ['f', 'a', 'l', 's', 'e']]
  | .number spelling => [.word spelling]
  | .string spelling => [.string spelling]
  | .list [] => [.openList, .closeList]
  | .list (v :: rest) => .openList :: (v.tokens ++ (moreItems rest ++ [.closeList]))
  | .record [] => [.openRecord, .closeRecord]
  | .record ((name, v) :: rest) =>
    .openRecord :: .string name :: .colon :: (v.tokens ++ (moreMembers rest ++ [.closeRecord]))

/-- The tokens of the further items of a list, each behind a comma. -/
def moreItems : List Value → List Token
  | [] => []
  | v :: rest => .comma :: (v.tokens ++ moreItems rest)

/-- The tokens of the further members of a record, each behind a comma. -/
def moreMembers : List (List Piece × Value) → List Token
  | [] => []
  | (name, v) :: rest => .comma :: .string name :: .colon :: (v.tokens ++ moreMembers rest)

end

/-- The tokens of a member. -/
@[simp]
def memberTokens (m : List Piece × Value) : List Token := .string m.1 :: .colon :: m.2.tokens

/-- The tokens of parts, with a comma before each. -/
def withCommasBefore {α : Type} (f : α → List Token) (parts : List α) : List Token :=
  parts.flatMap fun a => .comma :: f a

/-- The tokens of parts, with a comma behind each. -/
def withCommasBehind {α : Type} (f : α → List Token) (parts : List α) : List Token :=
  parts.flatMap fun a => f a ++ [.comma]

/-- Values in which every number is spelled well. -/
inductive Value.WellFormed : Value → Prop
  | null : WellFormed .null
  | bool (b : Bool) : WellFormed (.bool b)
  | number {spelling : List Char} (h : SpellsNumber spelling) : WellFormed (.number spelling)
  | string (spelling : List Piece) : WellFormed (.string spelling)
  | list {items : List Value} (h : ∀ v ∈ items, WellFormed v) : WellFormed (.list items)
  | record {members : List (List Piece × Value)} (h : ∀ m ∈ members, WellFormed m.2) :
      WellFormed (.record members)

/-- The written forms of a value. -/
def Value.Written (v : Value) (bytes : List UInt8) : Prop :=
  v.WellFormed ∧ Spaced v.tokens bytes

/-! ### Words -/

private theorem Value.ofWord?_eq_some_iff {w : List Char} {v : Value} :
    Value.ofWord? w = some v ↔ v.WellFormed ∧ v.tokens = [.word w] := by
  constructor
  · intro h
    unfold Value.ofWord? at h
    split at h
    · obtain rfl := Option.some.inj h
      exact ⟨.null, by simp [Value.tokens]⟩
    · obtain rfl := Option.some.inj h
      exact ⟨.bool true, by simp [Value.tokens]⟩
    · obtain rfl := Option.some.inj h
      exact ⟨.bool false, by simp [Value.tokens]⟩
    · split at h
      · rename_i hnumber
        obtain rfl := Option.some.inj h
        exact ⟨.number (isNumber_iff.mp hnumber), by simp [Value.tokens]⟩
      · simp at h
  · rintro ⟨hv, htokens⟩
    cases hv with
    | null =>
      simp only [Value.tokens, List.cons.injEq, Token.word.injEq, and_true] at htokens
      rw [← htokens, Value.ofWord?]
    | bool b =>
      cases b <;> simp only [Value.tokens, List.cons.injEq, Token.word.injEq, and_true] at htokens
      · rw [← htokens, Value.ofWord?]
      · rw [← htokens, Value.ofWord?]
    | @number spelling h =>
      simp only [Value.tokens, List.cons.injEq, Token.word.injEq, and_true] at htokens
      have hnumber := isNumber_iff.mpr (htokens ▸ h)
      unfold Value.ofWord?
      -- The literals are no numbers.
      split
      · exact absurd hnumber (by decide)
      · exact absurd hnumber (by decide)
      · exact absurd hnumber (by decide)
      · rw [if_pos hnumber, htokens]
    | string => simp [Value.tokens] at htokens
    | @list items => cases items <;> simp [Value.tokens] at htokens
    | @record members => cases members <;> simp [Value.tokens] at htokens

/-! ### Commas -/

section

variable {α : Type} {f : α → List Token}

@[simp] theorem withCommasBefore_nil : withCommasBefore f [] = [] := rfl

@[simp] theorem withCommasBehind_nil : withCommasBehind f [] = [] := rfl

/-- The last part has its comma behind it. -/
@[simp] theorem withCommasBehind_append (parts : List α) (a : α) :
    withCommasBehind f (parts ++ [a]) = withCommasBehind f parts ++ (f a ++ [.comma]) := by
  simp [withCommasBehind]

theorem withCommasBefore_cons (a : α) (parts : List α) :
    withCommasBefore f (a :: parts) = .comma :: (f a ++ withCommasBefore f parts) := rfl

private theorem withCommasBefore_append (parts : List α) (a : α) :
    withCommasBefore f (parts ++ [a]) = .comma :: (withCommasBehind f parts ++ f a) := by
  induction parts with
  | nil => simp [withCommasBefore_cons]
  | cons b parts ih =>
    rw [List.cons_append, withCommasBefore_cons, ih]
    simp [withCommasBehind]

/-- Commas part the words of the parts. -/
theorem separate_withCommasBefore {parts : List α} (h : ∀ a ∈ parts, Separate (f a))
    {front : List Token} (hfront : Separate front) {close : Token}
    (hclose : close.isWord = false) :
    Separate (front ++ (withCommasBefore f parts ++ [close])) := by
  induction parts generalizing front with
  | nil => exact (separate_append_cons hclose front []).mpr ⟨hfront, .nil⟩
  | cons a parts ih =>
    obtain ⟨ha, hparts⟩ := List.forall_mem_cons.mp h
    rw [withCommasBefore_cons, List.cons_append, separate_append_cons rfl, List.append_assoc]
    exact ⟨hfront, ih hparts ha⟩

end

private theorem moreItems_eq (items : List Value) :
    moreItems items = withCommasBefore Value.tokens items := by
  induction items with
  | nil => simp [moreItems]
  | cons v items ih => simp [moreItems, withCommasBefore_cons, ih]

private theorem moreMembers_eq (members : List (List Piece × Value)) :
    moreMembers members = withCommasBefore memberTokens members := by
  induction members with
  | nil => simp [moreMembers]
  | cons m members ih => simp [moreMembers, withCommasBefore_cons, ih]

/-- The tokens of a list that is not empty. -/
theorem tokens_list_cons (v : Value) (items : List Value) :
    (Value.list (v :: items)).tokens =
      .openList :: (v.tokens ++ (withCommasBefore Value.tokens items ++ [.closeList])) := by
  rw [Value.tokens, moreItems_eq]

/-- The tokens of a record that is not empty. -/
theorem tokens_record_cons (m : List Piece × Value) (members : List (List Piece × Value)) :
    (Value.record (m :: members)).tokens =
      .openRecord :: (memberTokens m ++
        (withCommasBefore memberTokens members ++ [.closeRecord])) := by
  rw [Value.tokens, moreMembers_eq]
  rfl

/-! ### From a value to its tokens and back -/

/-- In front of an item the machine takes a list for begun. -/
theorem build_firstItem {t : Token} (h : t ≠ .closeList) (stack : List Frame)
    (rest : List Token) :
    build .firstItem stack (t :: rest) = build .value (.list [] :: stack) (t :: rest) := by
  cases t <;> simp [build] at h ⊢

/-- No value begins with the end of a list. -/
theorem Value.exists_tokens_eq_cons (v : Value) :
    ∃ t rest, v.tokens = t :: rest ∧ t ≠ .closeList := by
  cases v with
  | null => simp [Value.tokens]
  | bool b => cases b <;> simp [Value.tokens]
  | number => simp [Value.tokens]
  | string => simp [Value.tokens]
  | list items => cases items <;> simp [Value.tokens]
  | record members => cases members <;> simp [Value.tokens]

private theorem build_word {v : Value} (hv : v.WellFormed) {w : List Char}
    (htokens : v.tokens = [.word w])
    (stack : List Frame) (rest : List Token) :
    build .value stack (.word w :: rest) = build (.done v) stack rest := by
  simp [build, Value.ofWord?_eq_some_iff.mpr ⟨hv, htokens⟩]

/-- A value that the machine gets through wherever it stands. -/
def Value.IsBuilt (v : Value) : Prop :=
  ∀ stack rest, build .value stack (v.tokens ++ rest) = build (.done v) stack rest

private theorem build_items {items : List Value} (h : ∀ v ∈ items, v.IsBuilt) (v : Value)
    (seen : List Value) (stack : List Frame) (rest : List Token) :
    build (.done v) (.list seen :: stack)
        (withCommasBefore Value.tokens items ++ .closeList :: rest) =
      build (.done (.list (seen.reverse ++ v :: items))) stack rest := by
  induction items generalizing v seen with
  | nil => simp [build]
  | cons w items ih =>
    obtain ⟨hw, hitems⟩ := List.forall_mem_cons.mp h
    rw [withCommasBefore_cons, List.cons_append, List.append_assoc, build, hw, ih hitems]
    simp

private theorem build_members {members : List (List Piece × Value)} (h : ∀ m ∈ members, m.2.IsBuilt)
    (name : List Piece) (v : Value) (seen : List (List Piece × Value)) (stack : List Frame)
    (rest : List Token) :
    build (.done v) (.record seen name :: stack)
        (withCommasBefore memberTokens members ++ .closeRecord :: rest) =
      build (.done (.record (seen.reverse ++ (name, v) :: members))) stack rest := by
  induction members generalizing name v seen with
  | nil => simp [build]
  | cons m members ih =>
    obtain ⟨hm, hmembers⟩ := List.forall_mem_cons.mp h
    rw [withCommasBefore_cons, memberTokens, List.cons_append, List.append_assoc,
      List.cons_append, List.cons_append, build, build, build, hm, ih hmembers]
    simp

/-- The machine is done with a value behind the tokens of the value. -/
theorem Value.WellFormed.isBuilt {v : Value} (hv : v.WellFormed) : v.IsBuilt := by
  induction hv with
  | null => exact build_word .null (by simp [Value.tokens])
  | bool b =>
    cases b
    · exact build_word (.bool false) (by simp [Value.tokens])
    · exact build_word (.bool true) (by simp [Value.tokens])
  | number h => exact build_word (.number h) (by simp [Value.tokens])
  | string spelling =>
    intro stack rest
    simp [Value.tokens, build]
  | @list items _ ih =>
    intro stack rest
    cases items with
    | nil => simp [Value.tokens, build]
    | cons v items =>
      obtain ⟨hv, hitems⟩ := List.forall_mem_cons.mp ih
      obtain ⟨t, more, htokens, ht⟩ := v.exists_tokens_eq_cons
      have hfirst := build_firstItem ht stack
        (more ++ (withCommasBefore Value.tokens items ++ .closeList :: rest))
      rw [← List.cons_append, ← htokens, hv, build_items hitems] at hfirst
      simpa [tokens_list_cons, build] using hfirst
  | @record members _ ih =>
    intro stack rest
    cases members with
    | nil => simp [Value.tokens, build]
    | cons m members =>
      obtain ⟨hm, hmembers⟩ := List.forall_mem_cons.mp ih
      have hmore := build_members hmembers m.1 m.2 [] stack rest
      rw [← hm] at hmore
      simpa [tokens_record_cons, build] using hmore

/-! ### The tokens behind a state of the machine -/

/-- The tokens of the known part of a list or record. -/
@[simp]
def Frame.tokens : Frame → List Token
  | .list items => .openList :: withCommasBehind Value.tokens items.reverse
  | .record members name =>
    .openRecord :: (withCommasBehind memberTokens members.reverse ++ [.string name, .colon])

/-- The tokens since the last value or the last beginning of a list or record. -/
@[simp]
def Mode.tokens : Mode → List Token
  | .value => []
  | .firstItem => [.openList]
  | .firstName => [.openRecord]
  | .name members => .openRecord :: withCommasBehind memberTokens members.reverse
  | .colon members n =>
    .openRecord :: (withCommasBehind memberTokens members.reverse ++ [.string n])
  | .done v => v.tokens

/-- The tokens behind a state of the machine. -/
@[simp]
def tokensBefore (mode : Mode) (stack : List Frame) : List Token :=
  stack.reverse.flatMap Frame.tokens ++ mode.tokens

/-- A list or record of which the known values are well formed. -/
@[simp]
def Frame.WellFormed : Frame → Prop
  | .list items => ∀ v ∈ items, v.WellFormed
  | .record members _ => ∀ m ∈ members, m.2.WellFormed

/-- A mode of which the known values are well formed. -/
@[simp]
def Mode.WellFormed : Mode → Prop
  | .name members => ∀ m ∈ members, m.2.WellFormed
  | .colon members _ => ∀ m ∈ members, m.2.WellFormed
  | .done v => v.WellFormed
  | _ => True

private theorem tokens_list_append (items : List Value) (v : Value) :
    (Value.list (items ++ [v])).tokens =
      .openList :: (withCommasBehind Value.tokens items ++ (v.tokens ++ [.closeList])) := by
  cases items with
  | nil => simp [tokens_list_cons]
  | cons w items => simp [tokens_list_cons, withCommasBefore_append, withCommasBehind]

private theorem tokens_record_append (members : List (List Piece × Value))
    (m : List Piece × Value) :
    (Value.record (members ++ [m])).tokens =
      .openRecord :: (withCommasBehind memberTokens members ++
        (memberTokens m ++ [.closeRecord])) := by
  cases members with
  | nil => simp [tokens_record_cons]
  | cons n members => simp [tokens_record_cons, withCommasBefore_append, withCommasBehind]

/-- What the machine builds has the tokens behind it and those it still reads. -/
theorem eq_of_build {mode : Mode} {stack : List Frame} {tokens : List Token} {v : Value}
    (h : build mode stack tokens = some v) (hmode : mode.WellFormed)
    (hstack : ∀ f ∈ stack, f.WellFormed) :
    v.WellFormed ∧ v.tokens = tokensBefore mode stack ++ tokens := by
  fun_induction build mode stack tokens
  case case1 w =>
    obtain rfl := Option.some.inj h
    exact ⟨hmode, by simp⟩
  -- The machine expects a value, then the first item of a list.
  case case3 ih => simpa using ih h trivial hstack
  case case4 ih => simpa using ih h trivial hstack
  case case5 s ih => simpa [Value.tokens] using ih h (.string s) hstack
  case case6 hw ih =>
    obtain ⟨hv, htokens⟩ := Value.ofWord?_eq_some_iff.mp hw
    simpa [htokens] using ih h hv hstack
  case case9 ih => simpa [Value.tokens] using ih h (.list nofun) hstack
  case case10 ih => simpa using ih h trivial (by simpa using hstack)
  case case11 ih => simpa using ih h trivial (by simpa using hstack)
  case case12 s ih => simpa [Value.tokens] using ih h (.string s) (by simpa using hstack)
  case case13 hw ih =>
    obtain ⟨hv, htokens⟩ := Value.ofWord?_eq_some_iff.mp hw
    simpa [htokens] using ih h hv (by simpa using hstack)
  -- It expects a name or a colon.
  case case16 ih => simpa [Value.tokens] using ih h (.record nofun) hstack
  case case17 ih => simpa using ih h nofun hstack
  case case19 ih => simpa using ih h hmode hstack
  case case21 ih => simpa using ih h trivial (List.forall_mem_cons.mpr ⟨hmode, hstack⟩)
  -- It is done with a value that stands in a list or in a record.
  case case23 w stack _ items ih =>
    obtain ⟨hitems, hstack⟩ := List.forall_mem_cons.mp hstack
    have hmore : ∀ v ∈ w :: items, v.WellFormed := List.forall_mem_cons.mpr ⟨hmode, hitems⟩
    simpa using ih h trivial (List.forall_mem_cons.mpr ⟨hmore, hstack⟩)
  case case24 w stack _ items ih =>
    obtain ⟨hitems, hstack⟩ := List.forall_mem_cons.mp hstack
    have hmore : ∀ v ∈ w :: items, v.WellFormed := List.forall_mem_cons.mpr ⟨hmode, hitems⟩
    simpa [tokens_list_append] using
      ih h (.list fun v hv => hmore v (List.mem_reverse.mp hv)) hstack
  case case25 w stack _ members name ih =>
    obtain ⟨hmembers, hstack⟩ := List.forall_mem_cons.mp hstack
    have hmore : ∀ m ∈ (name, w) :: members, m.2.WellFormed :=
      List.forall_mem_cons.mpr ⟨hmode, hmembers⟩
    simpa using ih h hmore hstack
  case case26 w stack _ members name ih =>
    obtain ⟨hmembers, hstack⟩ := List.forall_mem_cons.mp hstack
    have hmore : ∀ m ∈ (name, w) :: members, m.2.WellFormed :=
      List.forall_mem_cons.mpr ⟨hmode, hmembers⟩
    simpa [tokens_record_append] using
      ih h (.record fun m hm => hmore m (List.mem_reverse.mp hm)) hstack
  -- In all other states the machine stops.
  all_goals simp at h

/-! ### From a text to its value and back -/

/-- In the tokens of a value no two words follow each other. -/
theorem Value.WellFormed.separate {v : Value} (hv : v.WellFormed) : Separate v.tokens := by
  induction hv with
  | null => exact .singleton _
  | bool b => cases b <;> exact .singleton _
  | number => exact .singleton _
  | string => exact .singleton _
  | @list items _ ih =>
    cases items with
    | nil => exact (separate_cons rfl _).mpr (.singleton _)
    | cons v items =>
      obtain ⟨hv, hitems⟩ := List.forall_mem_cons.mp ih
      rw [tokens_list_cons, separate_cons rfl]
      exact separate_withCommasBefore hitems hv rfl
  | @record members _ ih =>
    have hmember (m : List Piece × Value) (hm : m ∈ members) : Separate (memberTokens m) := by
      rw [memberTokens, separate_cons rfl, separate_cons rfl]
      exact ih m hm
    cases members with
    | nil => exact (separate_cons rfl _).mpr (.singleton _)
    | cons m members =>
      obtain ⟨hm, hmembers⟩ := List.forall_mem_cons.mp hmember
      rw [tokens_record_cons, separate_cons rfl]
      exact separate_withCommasBefore hmembers hm rfl

/-- The value read from a text is the one of which it is a written form. -/
theorem parse_eq_some_iff {bytes : List UInt8} {v : Value} :
    parse bytes = some v ↔ v.Written bytes := by
  constructor
  · intro h
    obtain ⟨tokens, hlex, hbuild⟩ := Option.bind_eq_some_iff.mp h
    obtain ⟨hv, htokens⟩ := eq_of_build hbuild trivial nofun
    obtain rfl : v.tokens = tokens := by simpa using htokens
    exact ⟨hv, (lex_eq_some_iff hv.separate).mp hlex⟩
  · rintro ⟨hv, hspaced⟩
    have hbuild : Value.ofTokens? v.tokens = some v := by
      simpa [Value.ofTokens?, build] using hv.isBuilt [] []
    rw [parse, (lex_eq_some_iff hv.separate).mpr hspaced]
    exact hbuild

/-- A value that is built from its tokens is written wherever these are read. -/
theorem written_of_lex {v : Value} {bytes : List UInt8} (hlex : lex bytes = some v.tokens)
    (hbuild : Value.ofTokens? v.tokens = some v) : v.Written bytes := by
  rw [← parse_eq_some_iff, parse, hlex]
  exact hbuild

end GatewayProbe.Json
