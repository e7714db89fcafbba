import GatewayProbe.Proofs.Settings.WeightTables
import Mathlib.Data.List.Forall2
import Mathlib.Data.List.Nodup

/-!
# The last weight of each kind

A text of weights is read piece by piece, and each piece puts the weight of its kind at the end in
place of an earlier one. So after any number of pieces there is one weight for each kind that was
named, the last one, and the kinds stand in the order of their last pieces. The first piece that is
no weight is the fault of the whole. A table that was read is read again from its own text.
-/

namespace GatewayProbe

section

variable {α β σ ε : Type} {f : α → Except ε β} {g : σ → β → σ} {as : List α}

/-- A fold over what each item is read as, which ends at the first fault. -/
def foldRead (f : α → Except ε β) (g : σ → β → σ) (as : List α) (s : σ) : Except ε σ :=
  as.foldlM (fun s a => (f a).bind fun b => .ok (g s b)) s

private theorem foldRead_cons (a : α) (s : σ) :
    foldRead f g (a :: as) s = (f a).bind fun b => foldRead f g as (g s b) := by
  rw [foldRead, List.foldlM_cons]
  cases f a with
  | error e => rfl
  | ok b => rfl

/-- The fold succeeds if every item is read. -/
theorem foldRead_eq_ok_iff {s t : σ} : foldRead f g as s = .ok t ↔
    ∃ bs, List.Forall₂ (fun a b => f a = .ok b) as bs ∧ bs.foldl g s = t := by
  induction as generalizing s with
  | nil =>
    constructor
    · intro h
      exact ⟨[], .nil, Except.ok.inj h⟩
    · rintro ⟨bs, hbs, rfl⟩
      cases hbs
      rfl
  | cons a as ih =>
    rw [foldRead_cons]
    constructor
    · intro h
      cases ha : f a with
      | error e =>
        rw [ha] at h
        cases h
      | ok b =>
        rw [ha] at h
        obtain ⟨bs, hbs, ht⟩ := ih.mp h
        exact ⟨b :: bs, .cons ha hbs, ht⟩
    · rintro ⟨bs, hbs, ht⟩
      cases hbs with
      | cons ha hbs =>
        rw [ha]
        exact ih.mpr ⟨_, hbs, ht⟩

/-- The fold fails with the fault of the first item that is not read. -/
theorem foldRead_eq_error_iff {s : σ} {e : ε} : foldRead f g as s = .error e ↔
    ∃ before a after, as = before ++ a :: after ∧ (∀ x ∈ before, ∃ b, f x = .ok b) ∧
      f a = .error e := by
  induction as generalizing s with
  | nil =>
    constructor
    · intro h
      cases h
    · rintro ⟨before, a, after, h, -⟩
      simp at h
  | cons a as ih =>
    rw [foldRead_cons]
    cases ha : f a with
    | error e' =>
      constructor
      · intro h
        obtain rfl := Except.error.inj h
        exact ⟨[], a, as, rfl, nofun, ha⟩
      · rintro ⟨before, x, after, h, hbefore, hx⟩
        cases before with
        | nil =>
          obtain ⟨rfl, rfl⟩ := List.cons.inj h
          rw [Except.error.inj (ha.symm.trans hx)]
          rfl
        | cons y before =>
          obtain ⟨rfl, -⟩ := List.cons.inj h
          obtain ⟨b, hb⟩ := hbefore a List.mem_cons_self
          rw [ha] at hb
          cases hb
    | ok b =>
      constructor
      · intro h
        obtain ⟨before, x, after, rfl, hbefore, hx⟩ := ih.mp h
        exact ⟨a :: before, x, after, rfl, List.forall_mem_cons.mpr ⟨⟨b, ha⟩, hbefore⟩, hx⟩
      · rintro ⟨before, x, after, h, hbefore, hx⟩
        cases before with
        | nil =>
          obtain ⟨rfl, rfl⟩ := List.cons.inj h
          rw [ha] at hx
          cases hx
        | cons y before =>
          obtain ⟨rfl, rfl⟩ := List.cons.inj h
          exact ih.mpr ⟨before, x, after, rfl, (List.forall_mem_cons.mp hbefore).2, hx⟩

end

end GatewayProbe

namespace GatewayProbe.Load

open GatewayProbe.Text

namespace Weights

variable {entries ws ws' : Weights} {e a b : TaskKind × Nat} {i j : Nat}

/-! ### The last entry of each kind -/

/-- An entry that stands at a place and is the last one of its kind. -/
structure IsLast (entries : Weights) (i : Nat) (e : TaskKind × Nat) : Prop where
  at_place : entries[i]? = some e
  last : ∀ j later, entries[j]? = some later → i < j → later.1 ≠ e.1

/-- A table that keeps the last entry of each kind, in the order of these entries. -/
structure KeepsLast (entries ws : Weights) : Prop where
  nodup : (ws.map (·.1)).Nodup
  kinds : ∀ kind, kind ∈ ws.map (·.1) ↔ kind ∈ entries.map (·.1)
  last : ∀ e ∈ ws, ∃ i, IsLast entries i e
  order : ws.Pairwise fun a b => ∃ i j, i < j ∧ IsLast entries i a ∧ IsLast entries j b

/-- A kind has one last entry. -/
theorem IsLast.unique (ha : IsLast entries i a) (hb : IsLast entries j b) (h : a.1 = b.1) :
    i = j ∧ a = b := by
  rcases Nat.lt_trichotomy i j with hlt | rfl | hlt
  · exact absurd h.symm (ha.last j b hb.at_place hlt)
  · exact ⟨rfl, Option.some.inj (ha.at_place.symm.trans hb.at_place)⟩
  · exact absurd h (hb.last i a ha.at_place hlt)

/-- The last entry of a kind stays so when one of another kind is added. -/
theorem IsLast.append (h : IsLast entries i e) (hne : a.1 ≠ e.1) :
    IsLast (entries ++ [a]) i e := by
  have hi : i < entries.length := (List.getElem?_eq_some_iff.mp h.at_place).1
  refine ⟨(List.getElem?_append_left hi).trans h.at_place, fun j later hj hlt => ?_⟩
  by_cases hjlt : j < entries.length
  · exact h.last j later ((List.getElem?_append_left hjlt).symm.trans hj) hlt
  · rw [List.getElem?_append_right (Nat.le_of_not_lt hjlt)] at hj
    obtain rfl := List.mem_singleton.mp (List.mem_of_getElem? hj)
    exact hne

/-- An entry that is added is the last one of its kind. -/
theorem isLast_concat (entries : Weights) (e : TaskKind × Nat) :
    IsLast (entries ++ [e]) entries.length e := by
  refine ⟨by simp, fun j later hj hlt => ?_⟩
  have hlength := (List.getElem?_eq_some_iff.mp hj).1
  rw [List.length_append, List.length_singleton] at hlength
  omega

/-- To put in the weight of a kind brings in no other kind and removes none. -/
theorem mem_kinds_set {kind other : TaskKind} {weight : Nat} :
    kind ∈ (ws.set other weight).map (·.1) ↔ kind = other ∨ kind ∈ ws.map (·.1) := by
  rw [Weights.set, List.map_append, List.mem_append, List.map_singleton, List.mem_singleton,
    or_comm]
  refine or_congr_right' fun hne => ?_
  constructor
  · intro h
    exact (List.filter_sublist.map _).subset h
  · intro h
    obtain ⟨entry, hentry, rfl⟩ := List.mem_map.mp h
    exact List.mem_map_of_mem (List.mem_filter.mpr ⟨hentry, decide_eq_true hne⟩)

/-- To put in the weight of a kind keeps the last entries of one entry more. -/
theorem KeepsLast.set (h : KeepsLast entries ws) (e : TaskKind × Nat) :
    KeepsLast (entries ++ [e]) (ws.set e.1 e.2) := by
  have hold : ∀ a ∈ ws.filter (fun entry => entry.1 ≠ e.1), a ∈ ws ∧ a.1 ≠ e.1 := by
    intro a ha
    simpa using ha
  have hlast : ∀ a ∈ ws.filter (fun entry => entry.1 ≠ e.1),
      ∃ i, i < entries.length ∧ IsLast (entries ++ [e]) i a := by
    intro a ha
    obtain ⟨hmem, hne⟩ := hold a ha
    obtain ⟨i, hi⟩ := h.last a hmem
    exact ⟨i, (List.getElem?_eq_some_iff.mp hi.at_place).1, hi.append hne.symm⟩
  refine ⟨?_, fun kind => ?_, ?_, ?_⟩
  · rw [Weights.set, List.map_append, List.nodup_append]
    refine ⟨(List.filter_sublist.map _).nodup h.nodup, by simp, ?_⟩
    intro kind hkind other hother
    obtain ⟨a, ha, rfl⟩ := List.mem_map.mp hkind
    obtain rfl := List.mem_singleton.mp hother
    exact (hold a ha).2
  · rw [mem_kinds_set, h.kinds, List.map_append, List.mem_append, List.map_singleton,
      List.mem_singleton, or_comm]
  · rw [Weights.set]
    refine List.forall_mem_append.mpr ⟨fun a ha => ?_, List.forall_mem_singleton.mpr ?_⟩
    · obtain ⟨i, -, hi⟩ := hlast a ha
      exact ⟨i, hi⟩
    · exact ⟨_, isLast_concat entries e⟩
  · rw [Weights.set, List.pairwise_append]
    refine ⟨?_, List.pairwise_singleton _ _, ?_⟩
    · refine (h.order.filter _).imp_of_mem fun {a b} ha hb hab => ?_
      obtain ⟨i, j, hlt, hi, hj⟩ := hab
      exact ⟨i, j, hlt, hi.append (hold a ha).2.symm, hj.append (hold b hb).2.symm⟩
    · intro a ha new hnew
      obtain rfl := List.mem_singleton.mp hnew
      obtain ⟨i, hi, hlast⟩ := hlast a ha
      exact ⟨i, _, hi, hlast, isLast_concat entries _⟩

/-- So after any number of entries the last one of each kind is kept. -/
theorem keepsLast_foldl_set (entries : Weights) :
    KeepsLast entries (entries.foldl (fun (ws : Weights) e => ws.set e.1 e.2) []) := by
  induction entries using List.reverseRecOn with
  | nil => exact ⟨List.Pairwise.nil, fun kind => Iff.rfl, nofun, List.Pairwise.nil⟩
  | append_singleton entries e ih =>
    rw [List.foldl_append]
    exact ih.set e

/-- The entries that are kept are the last ones of their kinds. -/
theorem KeepsLast.mem_iff (h : KeepsLast entries ws) : e ∈ ws ↔ ∃ i, IsLast entries i e := by
  constructor
  · exact h.last e
  · rintro ⟨i, hi⟩
    have hkind : e.1 ∈ entries.map (·.1) :=
      List.mem_map_of_mem (List.mem_of_getElem? hi.at_place)
    obtain ⟨a, ha, heq⟩ := List.mem_map.mp ((h.kinds e.1).mpr hkind)
    obtain ⟨j, hj⟩ := h.last a ha
    rw [← (hj.unique hi heq).2]
    exact ha

/-- There is one table that keeps the last entry of each kind. -/
theorem KeepsLast.unique (h : KeepsLast entries ws) (h' : KeepsLast entries ws') : ws = ws' := by
  have hperm : ws.Perm ws' :=
    (List.perm_ext_iff_of_nodup (List.Nodup.of_map _ h.nodup) (List.Nodup.of_map _ h'.nodup)).mpr
      fun e => h.mem_iff.trans h'.mem_iff.symm
  refine hperm.eq_of_pairwise (fun a b _ _ hab hba => ?_) h.order h'.order
  -- Two entries cannot stand before each other.
  obtain ⟨i, j, hlt, hi, hj⟩ := hab
  obtain ⟨j', i', hgt, hj', hi'⟩ := hba
  obtain ⟨rfl, -⟩ := hi.unique hi' rfl
  obtain ⟨rfl, -⟩ := hj.unique hj' rfl
  exact absurd hlt (Nat.lt_asymm hgt)

/-- Entries put in one after the other make the table that keeps the last one of each kind. -/
theorem foldl_set_eq_iff :
    entries.foldl (fun (ws : Weights) e => ws.set e.1 e.2) [] = ws ↔ KeepsLast entries ws := by
  constructor
  · rintro rfl
    exact keepsLast_foldl_set entries
  · exact (keepsLast_foldl_set entries).unique

end Weights

/-! ### The kind that a text names -/

namespace TaskKind

variable {kind other : TaskKind} {text : List Char}

/-- A text names a kind if it is one of its names in any case, with blanks around. -/
def IsCalled (kind : TaskKind) (text : List Char) : Prop :=
  ∃ name ∈ kind.aliases, lower (trim text) = name.toList

private theorem isCalled_iff :
    IsCalled kind text ↔ isOneOf kind.aliases (lower (trim text)) = true := by
  rw [isOneOf, decide_eq_true_iff, List.mem_map]
  exact exists_congr fun name => and_congr_right fun _ => eq_comm

/-- No name is that of two kinds. -/
theorem IsCalled.unique (h : IsCalled kind text) (h' : IsCalled other text) : kind = other := by
  have hnames : ∀ kind other : TaskKind, ∀ name ∈ kind.aliases, name ∈ other.aliases →
      kind = other := by
    intro kind other
    cases kind <;> cases other <;> decide
  obtain ⟨name, hname, heq⟩ := h
  obtain ⟨name', hname', heq'⟩ := h'
  obtain rfl := String.toList_injective (heq.symm.trans heq')
  exact hnames kind other name hname hname'

private theorem parse_of_isCalled (h : IsCalled kind text) :
    parse (String.ofList text) = .ok kind := by
  rw [parse_eq_ok_iff, String.toList_ofList]
  have hsome : ([health, execute, status].find? fun k =>
      isOneOf k.aliases (lower (trim text))).isSome = true := by
    refine List.find?_isSome.mpr ⟨kind, ?_, isCalled_iff.mp h⟩
    cases kind <;> decide
  obtain ⟨k, hk⟩ := Option.isSome_iff_exists.mp hsome
  have hcalled : isOneOf k.aliases (lower (trim text)) = true := by
    simpa using List.find?_some hk
  rw [hk, h.unique (isCalled_iff.mpr hcalled)]

private theorem parse_of_not_isCalled (h : ∀ kind, ¬ IsCalled kind text) :
    parse (String.ofList text) = .error (.unknownKind (String.ofList text)) := by
  cases hparse : parse (String.ofList text) with
  | ok kind =>
    rw [parse_eq_ok_iff, String.toList_ofList] at hparse
    have hcalled : isOneOf kind.aliases (lower (trim text)) = true := by
      simpa using List.find?_some hparse
    exact absurd (isCalled_iff.mpr hcalled) (h kind)
  | error fault =>
    simp only [parse] at hparse
    split at hparse
    · cases hparse
    · exact hparse.symm

end TaskKind

/-! ### The pieces of a text -/

namespace Weights

/-- What a piece of the text `whole` says. Its first sign of equality stands between the name of a
kind and a number, and both may have blanks around them. -/
inductive ReadsPiece (whole : String) : List Char → Except WeightsFault (TaskKind × Nat) → Prop
  | weight {name number : List Char} {kind : TaskKind} {n : Nat} : '=' ∉ name →
      kind.IsCalled name → SpellsCount (trim number) n → n < 2 ^ 32 →
      ReadsPiece whole (name ++ '=' :: number) (.ok (kind, n))
  | form {piece : List Char} : '=' ∉ piece → ReadsPiece whole piece (.error (.form whole))
  | unknownKind {name number : List Char} : '=' ∉ name → (∀ kind, ¬ TaskKind.IsCalled kind name) →
      ReadsPiece whole (name ++ '=' :: number) (.error (.unknownKind (String.ofList name)))
  | noWeight {name number : List Char} {kind : TaskKind} {cause : IntegerError} : '=' ∉ name →
      kind.IsCalled name → RefusesCount max32 (trim number) cause →
      ReadsPiece whole (name ++ '=' :: number)
        (.error (.weight (String.ofList (name ++ '=' :: number)) cause))

variable {whole : String} {piece : List Char} {r : Except WeightsFault (TaskKind × Nat)}

private theorem readPair_of_readsPiece (h : ReadsPiece whole piece r) :
    readPair whole piece = r := by
  cases h with
  | @weight _ number _ n hname hkind hnumber hlt =>
    have hread : readUnsigned max32 (trim number) = .ok n :=
      readUnsigned_eq_ok_iff_spellsCount.mpr ⟨hnumber, Nat.le_pred_of_lt hlt⟩
    rw [readPair, splitFirst_append hname]
    simp only [TaskKind.parse_of_isCalled hkind, hread]
    rfl
  | form hname => rw [readPair, splitFirst_eq_none hname]
  | unknownKind hname hkind =>
    rw [readPair, splitFirst_append hname]
    simp only [TaskKind.parse_of_not_isCalled hkind]
    rfl
  | noWeight hname hkind hnumber =>
    rw [readPair, splitFirst_append hname]
    simp only [TaskKind.parse_of_isCalled hkind, readUnsigned_eq_error_iff.mpr hnumber]
    rfl

private theorem exists_readsPiece (whole : String) (piece : List Char) :
    ∃ r, ReadsPiece whole piece r := by
  by_cases hmem : '=' ∈ piece
  · obtain ⟨name, number, rfl, hname⟩ := List.eq_append_cons_of_mem hmem
    by_cases hkind : ∃ kind, TaskKind.IsCalled kind name
    · obtain ⟨kind, hkind⟩ := hkind
      cases hnumber : readUnsigned max32 (trim number) with
      | ok n =>
        obtain ⟨hspells, hle⟩ := readUnsigned_eq_ok_iff_spellsCount.mp hnumber
        exact ⟨_, .weight hname hkind hspells (Nat.lt_of_le_pred (by decide) hle)⟩
      | error cause => exact ⟨_, .noWeight hname hkind (readUnsigned_eq_error_iff.mp hnumber)⟩
    · exact ⟨_, .unknownKind hname (not_exists.mp hkind)⟩
  · exact ⟨_, .form hmem⟩

/-- A piece is read as what it says and as nothing else. -/
theorem readPair_eq_iff : readPair whole piece = r ↔ ReadsPiece whole piece r := by
  constructor
  · rintro rfl
    obtain ⟨r, h⟩ := exists_readsPiece whole piece
    rwa [readPair_of_readsPiece h]
  · exact readPair_of_readsPiece

/-! ### Whole texts -/

/-- The pieces are read one after the other, and there has to be one. -/
theorem parse_eq (value : String) : parse value =
    (foldRead (readPair value) (fun (ws : Weights) e => ws.set e.1 e.2)
      (pieces value.toList) []).bind
        fun ws => if ws.isEmpty then .error (.form value) else .ok ws := rfl

/-- A table as a text. -/
def text (ws : Weights) : String := spelling (ws.map fun e => (e.1.name, e.2))

variable {value : String} {entries ws : Weights} {fault : WeightsFault}

/-- What the pieces of a text are read as. -/
def Reads (value : String) (entries : Weights) : Prop :=
  List.Forall₂ (fun piece e => ReadsPiece value piece (.ok e)) (pieces value.toList) entries

/-- A table that keeps the last entry of each kind is empty if there is no entry. -/
theorem KeepsLast.eq_nil_iff (h : KeepsLast entries ws) : ws = [] ↔ entries = [] := by
  constructor
  · rintro rfl
    exact List.eq_nil_iff_forall_not_mem.mpr fun e he =>
      absurd ((h.kinds e.1).mpr (List.mem_map_of_mem he)) List.not_mem_nil
  · rintro rfl
    exact List.eq_nil_iff_forall_not_mem.mpr fun e he =>
      absurd ((h.kinds e.1).mp (List.mem_map_of_mem he)) List.not_mem_nil

private theorem foldRead_pieces_eq_ok_iff : foldRead (readPair value)
    (fun (ws : Weights) e => ws.set e.1 e.2) (pieces value.toList) [] = .ok ws ↔
      ∃ entries, Reads value entries ∧ KeepsLast entries ws := by
  rw [foldRead_eq_ok_iff]
  refine exists_congr fun entries => and_congr ?_ foldl_set_eq_iff
  simp only [Reads, readPair_eq_iff]

/-- A text that is read has a piece, all of its pieces are weights, and the last weight of each
kind is kept. -/
theorem parse_eq_ok_iff : parse value = .ok ws ↔
    ∃ entries, entries ≠ [] ∧ Reads value entries ∧ KeepsLast entries ws := by
  rw [parse_eq]
  constructor
  · intro h
    cases hfold : foldRead (readPair value) (fun (ws : Weights) e => ws.set e.1 e.2)
        (pieces value.toList) [] with
    | error fault =>
      rw [hfold] at h
      cases h
    | ok table =>
      obtain ⟨entries, hreads, hkeeps⟩ := foldRead_pieces_eq_ok_iff.mp hfold
      rw [hfold] at h
      by_cases hempty : table.isEmpty = true
      · rw [Except.bind, if_pos hempty] at h
        cases h
      · rw [Except.bind, if_neg hempty] at h
        obtain rfl := Except.ok.inj h
        refine ⟨entries, fun hnil => hempty ?_, hreads, hkeeps⟩
        exact List.isEmpty_iff.mpr (hkeeps.eq_nil_iff.mpr hnil)
  · rintro ⟨entries, hne, hreads, hkeeps⟩
    rw [foldRead_pieces_eq_ok_iff.mpr ⟨entries, hreads, hkeeps⟩, Except.bind, if_neg]
    exact fun hempty => hne (hkeeps.eq_nil_iff.mp (List.isEmpty_iff.mp hempty))

/-- A text is refused for its first piece that is no weight, or because it has no piece. -/
theorem parse_eq_error_iff : parse value = .error fault ↔
    (pieces value.toList = [] ∧ fault = .form value) ∨
    ∃ before piece after, pieces value.toList = before ++ piece :: after ∧
      (∀ p ∈ before, ∃ e, ReadsPiece value p (.ok e)) ∧
      ReadsPiece value piece (.error fault) := by
  have hfirst : (∃ before piece after, pieces value.toList = before ++ piece :: after ∧
      (∀ p ∈ before, ∃ e, ReadsPiece value p (.ok e)) ∧ ReadsPiece value piece (.error fault)) ↔
      foldRead (readPair value) (fun (ws : Weights) e => ws.set e.1 e.2)
        (pieces value.toList) [] = .error fault := by
    simp only [foldRead_eq_error_iff, readPair_eq_iff]
  rw [hfirst, parse_eq]
  cases hfold : foldRead (readPair value) (fun (ws : Weights) e => ws.set e.1 e.2)
      (pieces value.toList) [] with
  | error cause =>
    constructor
    · exact .inr
    · rintro (⟨hnil, rfl⟩ | h)
      · rw [hnil] at hfold
        cases hfold
      · exact h
  | ok table =>
    obtain ⟨entries, hreads, hkeeps⟩ := foldRead_pieces_eq_ok_iff.mp hfold
    by_cases hempty : table.isEmpty = true
    · have hnil : pieces value.toList = [] := by
        have hentries := hkeeps.eq_nil_iff.mp (List.isEmpty_iff.mp hempty)
        rw [Reads, hentries] at hreads
        exact List.forall₂_nil_right_iff.mp hreads
      rw [Except.bind, if_pos hempty]
      constructor
      · intro h
        exact .inl ⟨hnil, (Except.error.inj h).symm⟩
      · rintro (⟨-, rfl⟩ | h)
        · rfl
        · cases h
    · rw [Except.bind, if_neg hempty]
      constructor
      · intro h
        cases h
      · rintro (⟨hnil, -⟩ | h)
        · rw [hnil] at hfold
          obtain rfl := Except.ok.inj hfold
          exact absurd rfl hempty
        · cases h

/-- A weight that is read is a 32-bit word. -/
theorem Reads.lt (h : Reads value entries) {e : TaskKind × Nat} (he : e ∈ entries) :
    e.2 < 2 ^ 32 := by
  rw [Reads] at h
  generalize pieces value.toList = pieces at h
  induction h with
  | nil => exact absurd he List.not_mem_nil
  | cons hpiece _ ih =>
    rcases List.mem_cons.mp he with rfl | he
    · cases hpiece with
      | weight _ _ _ hlt => exact hlt
    · exact ih he

/-- The kind that a name stands for. -/
def kindOf (name : String) : TaskKind := (TaskKind.parse name).toOption.getD .health

private theorem parse_name (kind : TaskKind) : TaskKind.parse kind.name = .ok kind := by
  cases kind <;> decide

private theorem kindOf_name (kind : TaskKind) : kindOf kind.name = kind := by
  rw [kindOf, parse_name]
  rfl

/-- The kinds of a table are those of their names. -/
theorem ofNames_names (ws : Weights) : ofNames kindOf (ws.map fun e => (e.1.name, e.2)) = ws := by
  rw [ofNames, List.map_map]
  refine (List.map_congr_left fun e _ => ?_).trans (List.map_id ws)
  exact Prod.ext (kindOf_name e.1) rfl

/-- The names of a table that was read stand for its kinds. -/
theorem named_names (hreads : Reads value entries) (hkeeps : KeepsLast entries ws) :
    Named kindOf (ws.map fun e => (e.1.name, e.2)) := by
  refine ⟨?_, ?_, ?_⟩
  · intro pair hpair
    obtain ⟨e, -, rfl⟩ := List.mem_map.mp hpair
    rw [kindOf_name]
    exact parse_name e.1
  · have hnodup := hkeeps.nodup
    rw [← ofNames_names ws, ofNames, List.map_map] at hnodup
    exact hnodup
  · intro pair hpair
    obtain ⟨e, he, rfl⟩ := List.mem_map.mp hpair
    obtain ⟨i, hi⟩ := hkeeps.last e he
    exact Nat.le_pred_of_lt (hreads.lt (List.mem_of_getElem? hi.at_place))

/-- A text is read if it has a piece and each of its pieces gives a kind a weight. The table keeps
the last weight of each kind, in the order of these last pieces. Otherwise the text is refused for
its first piece that gives none, or because it has no piece. A table that was read is read again
from its own text. -/
theorem parse_keepsLast (value : String) :
    (∀ ws, parse value = .ok ws ↔
      ∃ entries, entries ≠ [] ∧ Reads value entries ∧ KeepsLast entries ws) ∧
    (∀ fault, parse value = .error fault ↔
      (pieces value.toList = [] ∧ fault = .form value) ∨
      ∃ before piece after, pieces value.toList = before ++ piece :: after ∧
        (∀ p ∈ before, ∃ e, ReadsPiece value p (.ok e)) ∧
        ReadsPiece value piece (.error fault)) ∧
    ∀ ws, parse value = .ok ws → parse ws.text = .ok ws := by
  refine ⟨fun ws => parse_eq_ok_iff, fun fault => parse_eq_error_iff, ?_⟩
  intro ws h
  obtain ⟨entries, hne, hreads, hkeeps⟩ := parse_eq_ok_iff.mp h
  have hws : ws.map (fun e => (e.1.name, e.2)) ≠ [] := by
    rw [ne_eq, List.map_eq_nil_iff]
    exact mt hkeeps.eq_nil_iff.mp hne
  rw [text, parse_spelling (named_names hreads hkeeps) hws, ofNames_names]

/-- A kind that is named twice, by two of its names, has the second weight. -/
theorem parse_keepsLast_twice :
    parse " exec=1, HEALTH = 2 ,, execute=+3" = .ok [(.health, 2), (.execute, 3)] ∧
    text [(.health, 2), (.execute, 3)] = "health=2,execute=3" ∧
    parse (text [(.health, 2), (.execute, 3)]) = .ok [(.health, 2), (.execute, 3)] := by
  have hparse : parse " exec=1, HEALTH = 2 ,, execute=+3" =
      .ok [(.health, 2), (.execute, 3)] := by decide
  exact ⟨hparse, by decide, (parse_keepsLast _).2.2 _ hparse⟩

end Weights

end GatewayProbe.Load
