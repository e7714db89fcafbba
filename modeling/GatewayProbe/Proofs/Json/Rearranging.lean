import GatewayProbe.Proofs.Json.Fields

/-!
# Records that say the same

A record says the same if its members stand in another order, if names and strings are spelled
in another way, and if it has further members under foreign names. What is read under the known
names is then the same.
-/

namespace GatewayProbe.Json

/-! ### Spellings of one text -/

/-- Spellings that are one or stand for one text. -/
inductive SameText : List Piece → List Piece → Prop
  | same (ps : List Piece) : SameText ps ps
  | spelled {ps qs : List Piece} {s : List Char} (hp : Spells ps s) (hq : Spells qs s) :
      SameText ps qs

theorem SameText.symm {ps qs : List Piece} (h : SameText ps qs) : SameText qs ps := by
  cases h with
  | same => exact .same ps
  | spelled hp hq => exact .spelled hq hp

private theorem SameText.spells_iff {ps qs : List Piece} (h : SameText ps qs) {s : List Char} :
    Spells ps s ↔ Spells qs s := by
  cases h with
  | same => exact Iff.rfl
  | spelled hp hq =>
    constructor
    · intro hs
      exact hp.eq hs ▸ hq
    · intro hs
      exact hq.eq hs ▸ hp

/-- Values that are one or strings of one text. -/
inductive Respelled : Value → Value → Prop
  | same (v : Value) : Respelled v v
  | string {ps qs : List Piece} (h : SameText ps qs) : Respelled (.string ps) (.string qs)

/-! ### Records -/

section

variable (names : List String) (alike : String → Value → Value → Prop)

/-- A member with a name that is a text, but none of the known ones. -/
def IsForeign (m : List Piece × Value) : Prop :=
  ∃ name : String, Spells m.1 name.toList ∧ name ∉ names

/-- Members of one name, with values that are alike if the name is known. -/
def AlikeMembers (m n : List Piece × Value) : Prop :=
  SameText m.1 n.1 ∧ ∀ name ∈ names, Spells m.1 name.toList → alike name m.2 n.2

/-- Members that are alike in some order, with foreign ones added on both sides. -/
def Rearranged (members others : List (List Piece × Value)) : Prop :=
  ∃ foreign foreign' between, (∀ m ∈ foreign, IsForeign names m) ∧
    (∀ m ∈ foreign', IsForeign names m) ∧
    List.Forall₂ (AlikeMembers names alike) (members ++ foreign) between ∧
    between.Perm (others ++ foreign')

/-- Values that are one or records with rearranged members. -/
inductive Recast : Value → Value → Prop
  | same (v : Value) : Recast v v
  | record {members others : List (List Piece × Value)}
    (h : Rearranged names alike members others) : Recast (.record members) (.record others)

/-- Values under each known name that are alike. -/
inductive AlikeFields : List String → List (Option Value) → List (Option Value) → Prop
  | nil : AlikeFields [] [] []
  | cons {name : String} {names : List String} {o o' : Option Value}
      {fields fields' : List (Option Value)} (ho : Option.Rel (alike name) o o')
      (h : AlikeFields names fields fields') :
      AlikeFields (name :: names) (o :: fields) (o' :: fields')

end

section

variable {names : List String} {alike : String → Value → Value → Prop}

/-- Values are alike on both sides. -/
theorem AlikeMembers.symm (hsymm : ∀ name v w, alike name v w → alike name w v)
    {m n : List Piece × Value} (h : AlikeMembers names alike m n) : AlikeMembers names alike n m :=
  ⟨h.1.symm, fun name hname hspells => hsymm name _ _ (h.2 name hname (h.1.spells_iff.mpr hspells))⟩

/-- Members that have been rearranged can be rearranged back. -/
theorem Rearranged.symm (hsymm : ∀ name v w, alike name v w → alike name w v)
    {members others : List (List Piece × Value)} (h : Rearranged names alike members others) :
    Rearranged names alike others members := by
  obtain ⟨foreign, foreign', between, hforeign, hforeign', halike, hperm⟩ := h
  have hback : List.Forall₂ (AlikeMembers names alike) between (members ++ foreign) :=
    (halike.imp fun _ _ hm => hm.symm hsymm).flip
  obtain ⟨between', halike', hperm'⟩ := List.perm_comp_forall₂ hperm.symm hback
  exact ⟨foreign', foreign, between', hforeign', hforeign, halike', hperm'⟩

/-- Members in another order, with foreign ones added. -/
theorem rearranged_of_perm (hrefl : ∀ name v, alike name v v)
    {members foreign others : List (List Piece × Value)}
    (hforeign : ∀ m ∈ foreign, IsForeign names m) (h : (members ++ foreign).Perm others) :
    Rearranged names alike members others := by
  refine ⟨foreign, [], members ++ foreign, hforeign, nofun, ?_, by simpa using h⟩
  exact List.forall₂_same.mpr fun m _ => ⟨.same m.1, fun name _ _ => hrefl name m.2⟩

/-- Values are alike in both directions. -/
theorem Recast.symm (hsymm : ∀ name v w, alike name v w → alike name w v) {v w : Value}
    (h : Recast names alike v w) : Recast names alike w v := by
  cases h with
  | same => exact .same v
  | record h => exact .record (h.symm hsymm)

/-! ### What stands under a name -/

private theorem Only.perm {name : String} {members others : List (List Piece × Value)}
    {o : Option Value}
    (h : Only name members o) (hperm : members.Perm others) : Only name others o := by
  cases h with
  | absent h => exact .absent fun m hm => h m (hperm.mem_iff.mpr hm)
  | member hmembers hname hothers => exact .member (hperm.symm.trans hmembers) hname hothers

/-- Foreign members do not matter under a known name. -/
theorem only_append_foreign {name : String} (hname : name ∈ names)
    {members foreign : List (List Piece × Value)} (hforeign : ∀ m ∈ foreign, IsForeign names m)
    {o : Option Value} : Only name (members ++ foreign) o ↔ Only name members o := by
  have hnone : (foreign.filter fun m => spelledText? m.1 = some name) = [] := by
    refine List.filter_eq_nil_iff.mpr fun m hm => ?_
    obtain ⟨other, hother, hnot⟩ := hforeign m hm
    rw [spelledText?_eq_some_iff.mpr hother]
    rintro heq
    simp at heq
    exact hnot (heq ▸ hname)
  rw [only_iff, only_iff, List.filter_append, hnone, List.append_nil]

/-- Under a name stand values that are alike in members that are alike. -/
theorem Only.of_alike {name : String} (hname : name ∈ names)
    {members others : List (List Piece × Value)} {o : Option Value} (h : Only name members o)
    (halike : List.Forall₂ (AlikeMembers names alike) members others) :
    ∃ o', Only name others o' ∧ Option.Rel (alike name) o o' := by
  cases h with
  | absent h =>
    refine ⟨none, .absent fun n hn hspells => ?_, .none⟩
    obtain ⟨m, hm, hmn⟩ := exists_of_mem_right halike hn
    exact h m hm (hmn.1.spells_iff.mpr hspells)
  | @member spelling v rest hmembers hspelling hrest =>
    obtain ⟨between, hbetween, hperm⟩ := List.perm_comp_forall₂ hmembers.symm halike
    cases hbetween with
    | @cons _ n _ rest' hn hrest' =>
      refine ⟨some n.2, .member hperm.symm (hn.1.spells_iff.mp hspelling) ?_,
        .some (hn.2 name hname hspelling)⟩
      intro m hm hspells
      obtain ⟨x, hx, hxm⟩ := exists_of_mem_right hrest' hm
      exact hrest x hx (hxm.1.spells_iff.mpr hspells)

/-- The only member with a known name has one that is alike among the others. -/
theorem Rearranged.only {members others : List (List Piece × Value)}
    (h : Rearranged names alike members others) {name : String} (hname : name ∈ names)
    {o : Option Value} (honly : Only name members o) :
    ∃ o', Only name others o' ∧ Option.Rel (alike name) o o' := by
  obtain ⟨foreign, foreign', between, hforeign, hforeign', halike, hperm⟩ := h
  obtain ⟨o', ho', hrel⟩ := ((only_append_foreign hname hforeign).mpr honly).of_alike hname halike
  exact ⟨o', (only_append_foreign hname hforeign').mp (ho'.perm hperm), hrel⟩

/-- Names that are texts stay texts. -/
theorem Rearranged.spelled {members others : List (List Piece × Value)}
    (h : Rearranged names alike members others) (hnames : ∀ m ∈ members, ∃ t, Spells m.1 t) :
    ∀ m ∈ others, ∃ t, Spells m.1 t := by
  obtain ⟨foreign, foreign', between, hforeign, -, halike, hperm⟩ := h
  intro n hn
  have hbetween : n ∈ between := hperm.mem_iff.mpr (List.mem_append_left foreign' hn)
  obtain ⟨m, hm, hmn⟩ := exists_of_mem_right halike hbetween
  have hspelled : ∃ t, Spells m.1 t := by
    obtain hm | hm := List.mem_append.mp hm
    · exact hnames m hm
    · obtain ⟨name, hname, -⟩ := hforeign m hm
      exact ⟨_, hname⟩
  obtain ⟨t, ht⟩ := hspelled
  exact ⟨t, hmn.1.spells_iff.mp ht⟩

/-! ### What is read from records that say the same -/

/-- There is one field for each name. -/
theorem HasFields.length_eq {v : Value} {fields : List (Option Value)}
    (h : HasFields names v fields) : fields.length = names.length := by
  cases h with
  | record _ hfields => exact hfields.length_eq.symm
  | list hlength => rw [List.length_map, hlength]

private theorem alikeFields_refl (hrefl : ∀ name v, alike name v v) {known : List String}
    {fields : List (Option Value)} (h : fields.length = known.length) :
    AlikeFields alike known fields fields := by
  induction known generalizing fields with
  | nil =>
    obtain rfl := List.length_eq_zero_iff.mp h
    exact .nil
  | cons name known ih =>
    cases fields with
    | nil => simp at h
    | cons o fields =>
      refine .cons ?_ (ih (by simpa using h))
      cases o with
      | none => exact .none
      | some v => exact .some (hrefl name v)

/-- What is under the known names of a record is alike in one that says the same. -/
theorem HasFields.recast (hrefl : ∀ name v, alike name v v) {v w : Value}
    {fields : List (Option Value)} (h : HasFields names v fields)
    (hrecast : Recast names alike v w) :
    ∃ fields', HasFields names w fields' ∧ AlikeFields alike names fields fields' := by
  cases hrecast with
  | same => exact ⟨fields, h, alikeFields_refl hrefl h.length_eq⟩
  | @record members others hmembers =>
    cases h with
    | record hnames hfields =>
      have hall {known : List String} (hknown : known ⊆ names) {fields : List (Option Value)}
          (hfields : List.Forall₂ (fun name o => Only name members o) known fields) :
          ∃ fields', List.Forall₂ (fun name o => Only name others o) known fields' ∧
            AlikeFields alike known fields fields' := by
        induction hfields with
        | nil => exact ⟨[], .nil, .nil⟩
        | cons ho _ ih =>
          obtain ⟨hname, hrest⟩ := List.cons_subset.mp hknown
          obtain ⟨o', ho', hrel⟩ := hmembers.only hname ho
          obtain ⟨fields', hfields', halike⟩ := ih hrest
          exact ⟨o' :: fields', .cons ho' hfields', .cons hrel halike⟩
      obtain ⟨fields', hfields', halike⟩ := hall (List.Subset.refl names) hfields
      exact ⟨fields', .record (hmembers.spelled hnames) hfields', halike⟩

/-- Values that say the same have known fields that are alike, or neither can be read. -/
theorem fields?_recast (hrefl : ∀ name v, alike name v v)
    (hsymm : ∀ name v w, alike name v w → alike name w v) {v w : Value}
    (h : Recast names alike v w) :
    (v.fields? names = none ∧ w.fields? names = none) ∨
      ∃ fields fields', v.fields? names = some fields ∧ w.fields? names = some fields' ∧
        AlikeFields alike names fields fields' := by
  cases hv : v.fields? names with
  | some fields =>
    obtain ⟨fields', hw, halike⟩ := (fields?_eq_some_iff.mp hv).recast hrefl h
    exact .inr ⟨fields, fields', rfl, fields?_eq_some_iff.mpr hw, halike⟩
  | none =>
    cases hw : w.fields? names with
    | none => exact .inl ⟨rfl, rfl⟩
    | some fields =>
      obtain ⟨fields', hfields', -⟩ := (fields?_eq_some_iff.mp hw).recast hrefl (h.symm hsymm)
      exact nomatch hv.symm.trans (fields?_eq_some_iff.mpr hfields')

/-- A null says the same as nothing but a null. -/
theorem Recast.eq_null_iff {v w : Value} (h : Recast names alike v w) :
    v = .null ↔ w = .null := by
  cases h with
  | same => exact Iff.rfl
  | record => exact ⟨nofun, nofun⟩

end

/-- Only null is spelled as null. -/
theorem Respelled.eq_null_iff {v w : Value} (h : Respelled v w) : v = .null ↔ w = .null := by
  cases h with
  | same => exact Iff.rfl
  | string => exact ⟨nofun, nofun⟩

/-- A value that has been respelled can be respelled back. -/
theorem Respelled.symm {v w : Value} (h : Respelled v w) : Respelled w v := by
  cases h with
  | same => exact .same v
  | string h => exact .string h.symm

/-- However a value is spelled, it has the same text. -/
theorem Respelled.text? {v w : Value} (h : Respelled v w) : v.text? = w.text? := by
  cases h with
  | same => rfl
  | @string ps qs h =>
    ext text
    simp only [Value.text?, spelledText?_eq_some_iff, h.spells_iff]

/-- However a value is spelled, it is the same whole number. -/
theorem Respelled.integer? {v w : Value} (h : Respelled v w) (least greatest : Int) :
    v.integer? least greatest = w.integer? least greatest := by
  cases h with
  | same => rfl
  | string => rfl

/-- Fields that are alike are read alike. -/
theorem optional?_congr {α : Type} {read : Value → Option α} {r : Value → Value → Prop}
    (hread : ∀ v w, r v w → read v = read w) (hnull : ∀ v w, r v w → (v = .null ↔ w = .null))
    {o o' : Option Value} (h : Option.Rel r o o') : optional? read o = optional? read o' := by
  cases h with
  | none => rfl
  | @some v w hvw =>
    by_cases hv : v = .null
    · rw [hv, (hnull v w hvw).mp hv]
    · rw [optional?_some read hv, optional?_some read (mt (hnull v w hvw).mpr hv), hread v w hvw]

end GatewayProbe.Json
