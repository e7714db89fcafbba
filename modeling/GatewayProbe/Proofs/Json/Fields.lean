import GatewayProbe.Proofs.Json.Parsing
import GatewayProbe.Proofs.Json.Spelling
import Mathlib.Data.List.Perm.Basic

/-!
# What a value holds under known names

The members of a record are named by texts, however these are spelled. A record holds under a
name the value of the only member of that name, or nothing; with several members of one known
name, or with a name that is no text, it cannot be read. A list holds its items under the known
names in their order.
-/

namespace GatewayProbe.Json

/-- The value of the only member with a name, or nothing if no member has it. -/
inductive Only (name : String) (members : List (List Piece × Value)) : Option Value → Prop
  | absent (h : ∀ m ∈ members, ¬ Spells m.1 name.toList) : Only name members none
  | member {spelling : List Piece} {v : Value} {others : List (List Piece × Value)}
      (hmembers : members.Perm ((spelling, v) :: others)) (hname : Spells spelling name.toList)
      (hothers : ∀ m ∈ others, ¬ Spells m.1 name.toList) : Only name members (some v)

/-- What a value holds under each known name. -/
inductive HasFields (names : List String) : Value → List (Option Value) → Prop
  | record {members : List (List Piece × Value)} {fields : List (Option Value)}
      (hnames : ∀ m ∈ members, ∃ t, Spells m.1 t)
      (hfields : List.Forall₂ (fun name o => Only name members o) names fields) :
      HasFields names (.record members) fields
  | list {items : List Value} (h : items.length = names.length) :
      HasFields names (.list items) (items.map some)

/-- Pieces spell one text only. -/
theorem Spells.eq {ps : List Piece} {s t : List Char} (hs : Spells ps s) (ht : Spells ps t) :
    s = t := by
  have hbytes := (textBytes?_of_spells hs).symm.trans (textBytes?_of_spells ht)
  exact Text.encode_injective (Option.some.inj hbytes)

/-- All items of a list are read exactly when each one is. -/
theorem mapM_eq_some_iff {α β : Type} {f : α → Option β} {l : List α} {r : List β} :
    l.mapM f = some r ↔ List.Forall₂ (fun a b => f a = some b) l r := by
  induction l generalizing r with
  | nil => simp [eq_comm]
  | cons a l ih =>
    rw [List.mapM_cons, List.forall₂_cons_left_iff]
    simp only [← ih, Option.bind_eq_bind, Option.bind_eq_some_iff, Option.pure_def,
      Option.some.injEq]
    exact ⟨fun ⟨b, hb, bs, hbs, h⟩ => ⟨b, bs, hb, hbs, h.symm⟩,
      fun ⟨b, bs, hb, hbs, h⟩ => ⟨b, hb, bs, hbs, h.symm⟩⟩

theorem exists_of_mem_right {α β : Type} {r : α → β → Prop} {l : List α} {l' : List β}
    (h : List.Forall₂ r l l') {b : β} (hb : b ∈ l') : ∃ a ∈ l, r a b := by
  induction h with
  | nil => simp at hb
  | @cons a c l l' hac _ ih =>
    obtain rfl | hb := List.mem_cons.mp hb
    · exact ⟨a, List.mem_cons_self, hac⟩
    · obtain ⟨x, hx, hxb⟩ := ih hb
      exact ⟨x, List.mem_cons_of_mem a hx, hxb⟩

/-! ### The members of a record -/

/-- The members of a record under their names as texts. -/
theorem namedMembers?_eq_some_iff {members : List (List Piece × Value)}
    {named : List (String × Value)} :
    namedMembers? members = some named ↔
      List.Forall₂ (fun m n => Spells m.1 n.1.toList ∧ m.2 = n.2) members named := by
  have hmember (m : List Piece × Value) (n : String × Value) :
      ((spelledText? m.1).map fun name => (name, m.2)) = some n ↔
        Spells m.1 n.1.toList ∧ m.2 = n.2 := by
    rw [← spelledText?_eq_some_iff, Option.map_eq_some_iff]
    constructor
    · rintro ⟨name, hname, rfl⟩
      exact ⟨hname, rfl⟩
    · rintro ⟨hname, hvalue⟩
      exact ⟨n.1, hname, Prod.ext rfl hvalue⟩
  rw [namedMembers?, mapM_eq_some_iff]
  simp only [hmember]

/-- The values with a name are those of the members whose names spell it. -/
theorem valuesOf_eq {members : List (List Piece × Value)} {named : List (String × Value)}
    (h : List.Forall₂ (fun m n => Spells m.1 n.1.toList ∧ m.2 = n.2) members named)
    (name : String) :
    valuesOf name named =
      (members.filter fun m => spelledText? m.1 = some name).map (·.2) := by
  induction h with
  | nil => rfl
  | @cons m n members named hm _ ih =>
    have hname : spelledText? m.1 = some n.1 := spelledText?_eq_some_iff.mpr hm.1
    rw [valuesOf] at ih ⊢
    by_cases heq : n.1 = name
    · simp [hname, heq, ih, hm.2]
    · simp [hname, heq, ih]

private theorem atMostOne?_eq_some_iff {values : List Value} {o : Option Value} :
    atMostOne? values = some o ↔ values = o.toList := by
  unfold atMostOne?
  split
  · cases o <;> simp
  · cases o <;> simp
  · cases o <;> simp_all

/-- Nothing or one value is under a name exactly if the members with this name have it. -/
theorem only_iff {name : String} {members : List (List Piece × Value)} {o : Option Value} :
    Only name members o ↔
      (members.filter fun m => spelledText? m.1 = some name).map (·.2) = o.toList := by
  constructor
  · intro h
    cases h with
    | absent h =>
      have hnone : (members.filter fun m => spelledText? m.1 = some name) = [] :=
        List.filter_eq_nil_iff.mpr fun m hm => by simpa [spelledText?_eq_some_iff] using h m hm
      rw [hnone]
      rfl
    | @member spelling v others hmembers hname hothers =>
      have hone := hmembers.filter fun m => spelledText? m.1 = some name
      have hnone : (others.filter fun m => spelledText? m.1 = some name) = [] :=
        List.filter_eq_nil_iff.mpr fun m hm => by
          simpa [spelledText?_eq_some_iff] using hothers m hm
      rw [List.filter_cons_of_pos (by simpa [spelledText?_eq_some_iff] using hname), hnone,
        List.perm_singleton] at hone
      rw [hone]
      rfl
  · intro h
    cases o with
    | none =>
      refine .absent fun m hm hname => ?_
      have hnone := List.filter_eq_nil_iff.mp (List.map_eq_nil_iff.mp h) m hm
      simp [spelledText?_eq_some_iff, hname] at hnone
    | some v =>
      obtain ⟨m, hone, rfl⟩ := List.map_eq_singleton_iff.mp h
      have hall := List.filter_append_perm (fun m => spelledText? m.1 = some name) members
      rw [hone, List.singleton_append] at hall
      have hm := List.mem_filter.mp (hone ▸ List.mem_singleton_self m)
      refine .member hall.symm (spelledText?_eq_some_iff.mp (by simpa using hm.2)) ?_
      intro n hn hname
      simp [spelledText?_eq_some_iff, hname] at hn

/-- The one member with a name, between the others. -/
theorem only_some_iff {name : String} {members : List (List Piece × Value)} {v : Value} :
    Only name members (some v) ↔
      ∃ before spelling after, members = before ++ (spelling, v) :: after ∧
        Spells spelling name.toList ∧ ∀ m ∈ before ++ after, ¬ Spells m.1 name.toList := by
  constructor
  · intro h
    cases h with
    | @member spelling v others hperm hname hothers =>
      have hmem : (spelling, v) ∈ members := hperm.mem_iff.mpr List.mem_cons_self
      obtain ⟨before, after, rfl⟩ := List.append_of_mem hmem
      have hrest := (List.perm_cons _).mp (List.perm_middle.symm.trans hperm)
      exact ⟨before, spelling, after, rfl, hname, fun m hm => hothers m (hrest.mem_iff.mp hm)⟩
  · rintro ⟨before, spelling, after, rfl, hname, hothers⟩
    exact .member List.perm_middle hname hothers

private theorem exists_named_iff {members : List (List Piece × Value)} :
    (∃ named : List (String × Value),
      List.Forall₂ (fun m n => Spells m.1 n.1.toList ∧ m.2 = n.2) members named) ↔
      ∀ m ∈ members, ∃ t, Spells m.1 t := by
  induction members with
  | nil => simp
  | cons m members ih =>
    simp only [List.forall₂_cons_left_iff, List.forall_mem_cons, ← ih]
    constructor
    · rintro ⟨_, n, named, hn, hnamed, rfl⟩
      exact ⟨⟨_, hn.1⟩, named, hnamed⟩
    · rintro ⟨⟨t, ht⟩, named, hnamed⟩
      exact ⟨_, (String.ofList t, m.2), named, ⟨by simpa using ht, rfl⟩, hnamed, rfl⟩

/-- The known fields are read as what a value holds under their names. -/
theorem fields?_eq_some_iff {names : List String} {v : Value} {fields : List (Option Value)} :
    v.fields? names = some fields ↔ HasFields names v fields := by
  cases v with
  | record members =>
    have honly {named : List (String × Value)} (h : namedMembers? members = some named)
        (name : String) (o : Option Value) :
        atMostOne? (valuesOf name named) = some o ↔ Only name members o := by
      rw [atMostOne?_eq_some_iff, only_iff, valuesOf_eq (namedMembers?_eq_some_iff.mp h)]
    simp only [Value.fields?, Option.bind_eq_bind, Option.bind_eq_some_iff, mapM_eq_some_iff]
    constructor
    · rintro ⟨named, hnamed, hfields⟩
      simp only [honly hnamed] at hfields
      exact .record (exists_named_iff.mp ⟨named, namedMembers?_eq_some_iff.mp hnamed⟩) hfields
    · rintro ⟨hnames, hfields⟩
      obtain ⟨named, hnamed⟩ := exists_named_iff.mpr hnames
      rw [← namedMembers?_eq_some_iff] at hnamed
      refine ⟨named, hnamed, ?_⟩
      simpa only [honly hnamed] using hfields
  | list items =>
    simp only [Value.fields?]
    constructor
    · intro h
      split at h
      · rename_i hlength
        obtain rfl := Option.some.inj h
        exact .list hlength
      · simp at h
    · intro h
      cases h with
      | list hlength => rw [if_pos hlength]
  | null => exact ⟨nofun, nofun⟩
  | bool b => exact ⟨nofun, nofun⟩
  | number spelling => exact ⟨nofun, nofun⟩
  | string spelling => exact ⟨nofun, nofun⟩

/-- The fields of a value are parts of it. -/
theorem HasFields.wellFormed {names : List String} {v w : Value} {fields : List (Option Value)}
    (h : HasFields names v fields) (hv : v.WellFormed) (hw : some w ∈ fields) :
    w.WellFormed := by
  cases h with
  | list =>
    cases hv with
    | list hitems =>
      obtain ⟨u, hu, heq⟩ := List.mem_map.mp hw
      exact Option.some.inj heq ▸ hitems u hu
  | record _ hfields =>
    cases hv with
    | record hmembers =>
      obtain ⟨name, -, honly⟩ := exists_of_mem_right hfields hw
      cases honly with
      | member hperm => exact hmembers _ (hperm.mem_iff.mpr List.mem_cons_self)

/-- A value with one known field is a record with it, or a list of it alone. -/
theorem hasFields_singleton_iff {name : String} {v : Value} {field : Option Value} :
    HasFields [name] v [field] ↔
      (∃ members, v = .record members ∧ (∀ m ∈ members, ∃ t, Spells m.1 t) ∧
        Only name members field) ∨
      ∃ item, v = .list [item] ∧ field = some item := by
  constructor
  · intro h
    generalize hone : [field] = fields at h
    cases h with
    | @record members _ hnames hfields =>
      rw [← hone, List.forall₂_cons] at hfields
      exact .inl ⟨members, rfl, hnames, hfields.1⟩
    | @list items hlength =>
      obtain ⟨item, rfl⟩ := List.length_eq_one_iff.mp hlength
      exact .inr ⟨item, rfl, (List.cons.inj hone).1⟩
  · rintro (⟨members, rfl, hnames, honly⟩ | ⟨item, rfl, rfl⟩)
    · exact .record hnames (.cons honly .nil)
    · exact .list rfl

/-! ### Fields that may be left out -/

/-- What is meant by a field that may be absent or null. -/
inductive Optionally {α : Type} (means : Value → α → Prop) : Option Value → Option α → Prop
  | absent : Optionally means none none
  | null : Optionally means (some .null) none
  | given {v : Value} {a : α} (h : means v a) : Optionally means (some v) (some a)

/-- A field that is given and not null is read as what it is. -/
theorem optional?_some {α : Type} (read : Value → Option α) {v : Value} (h : v ≠ .null) :
    optional? read (some v) = (read v).map some := by
  unfold optional?
  split
  · simp_all
  · simp_all
  · simp_all

/-- An optional field is read as what it means, if its values are. -/
theorem optional?_eq_some_iff {α : Type} {read : Value → Option α} {means : Value → α → Prop}
    {o : Option Value} {a : Option α} (h : ∀ v ∈ o, ∀ a, read v = some a ↔ means v a)
    (hnull : ∀ a, ¬ means .null a) : optional? read o = some a ↔ Optionally means o a := by
  constructor
  · intro hread
    unfold optional? at hread
    split at hread
    · obtain rfl := Option.some.inj hread
      exact .absent
    · obtain rfl := Option.some.inj hread
      exact .null
    · obtain ⟨b, hb, rfl⟩ := Option.map_eq_some_iff.mp hread
      exact .given ((h _ rfl b).mp hb)
  · intro hmeans
    cases hmeans with
    | absent => rfl
    | null => rfl
    | @given v a hv =>
      have hne : v ≠ .null := fun heq => hnull a (heq ▸ hv)
      rw [optional?_some read hne, (h v rfl a).mpr hv]
      rfl

/-- A string means the text that it spells. -/
inductive IsText : Value → String → Prop
  | mk {spelling : List Piece} {text : String} (h : Spells spelling text.toList) :
      IsText (.string spelling) text

/-- A value is read as a text exactly when it is a string that spells it. -/
theorem text?_eq_some_iff {v : Value} {text : String} : v.text? = some text ↔ IsText v text := by
  constructor
  · intro h
    unfold Value.text? at h
    split at h
    · exact .mk (spelledText?_eq_some_iff.mp h)
    · simp at h
  · rintro ⟨h⟩
    exact spelledText?_eq_some_iff.mpr h

/-- A text that may be left out. -/
theorem optional?_text?_eq_some_iff {o : Option Value} {text : Option String} :
    optional? Value.text? o = some text ↔ Optionally IsText o text :=
  optional?_eq_some_iff (fun _ _ _ => text?_eq_some_iff) nofun

/-- A value with one text, which may be left out. -/
theorem textField_eq_some_iff {name : String} {v : Value} {text : Option String} :
    (match v.fields? [name] with
      | some [field] => optional? Value.text? field
      | _ => none) = some text ↔
        ∃ field, HasFields [name] v [field] ∧ Optionally IsText field text := by
  constructor
  · intro h
    split at h
    · rename_i field hfields
      exact ⟨field, fields?_eq_some_iff.mp hfields, optional?_text?_eq_some_iff.mp h⟩
    · simp at h
  · rintro ⟨field, hfields, hfield⟩
    simp only [fields?_eq_some_iff.mpr hfields]
    exact optional?_text?_eq_some_iff.mpr hfield

end GatewayProbe.Json
