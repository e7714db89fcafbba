import GatewayProbe.CommandLine.Invocation

/-!
# What reading a command line keeps

The settings change while a command line is read by nothing but values that are accepted for their
keys. So what holds of the settings at first, and is kept by every such value, holds of whatever is
read in the end.
-/

namespace GatewayProbe.CommandLine

open GatewayProbe.Settings

/-- What a computation comes to has a property, if it comes to anything. -/
def Ensures {ε α : Type} (p : α → Prop) (x : Except ε α) : Prop := ∀ a, x = .ok a → p a

namespace Ensures

variable {ε α β : Type} {p : α → Prop} {q : β → Prop}

theorem error (e : ε) : Ensures p (.error e : Except ε α) := nofun

theorem ok {a : α} (h : p a) : Ensures p (.ok a : Except ε α) := by
  rintro _ ⟨⟩
  exact h

/-- What follows on a value that has one property has another one, if each such value leads to it.
-/
theorem bind {x : Except ε α} {f : α → Except ε β} (hx : Ensures p x)
    (hf : ∀ a, p a → Ensures q (f a)) : Ensures q (x.bind f) := by
  cases x with
  | error e => exact error e
  | ok a => exact hf a (hx a rfl)

/-- What the first computation comes to may not matter. -/
theorem bind_any {x : Except ε α} {f : α → Except ε β} (hf : ∀ a, Ensures q (f a)) :
    Ensures q (x.bind f) :=
  bind (p := fun _ => True) (fun _ _ => trivial) fun a _ => hf a

/-- Another error leaves a value as it is. -/
theorem mapError {ε' : Type} {x : Except ε α} (hx : Ensures p x) (f : ε → ε') :
    Ensures p (x.mapError f) := by
  cases x with
  | error e => exact error (f e)
  | ok a => exact ok (hx a rfl)

/-- What is made of a value has the property that it has for every such value. -/
theorem map {x : Except ε α} {f : α → β} (hx : Ensures p x) (hf : ∀ a, p a → q (f a)) :
    Ensures q (x.map f) := by
  cases x with
  | error e => exact error e
  | ok a => exact ok (hf a (hx a rfl))

end Ensures

section

variable {ε α β : Type} {x : Except ε α} {b : β}

/-- What two computations come to one after the other, both of them come to. -/
theorem exists_of_bind_eq_ok {f : α → Except ε β} (h : x.bind f = .ok b) :
    ∃ a, x = .ok a ∧ f a = .ok b := by
  cases x with
  | error e => cases h
  | ok a => exact ⟨a, rfl, h⟩

/-- A value that has been mapped comes from a value. -/
theorem exists_of_map_eq_ok {f : α → β} (h : x.map f = .ok b) : ∃ a, x = .ok a ∧ f a = b := by
  cases x with
  | error e => cases h
  | ok a => exact ⟨a, rfl, Except.ok.inj h⟩

end

section

variable {S : Type} [Keyed S] [Options S]

/-- A property of settings that every accepted value keeps. -/
def KeptByValues (p : S → Prop) : Prop :=
  ∀ s k value v, p s → Options.accept k (Keyed.get s k) value = .ok v → p (Keyed.set s k v)

variable {p : S → Prop} {r : Reading S}

namespace Reading

/-- To take an option is to put in an accepted value. -/
theorem ensures_take (hp : KeptByValues p) (h : p r.settings) (k : Keyed.Key S) (value : String) :
    Ensures (fun r : Reading S => p r.settings) (r.take k value) := by
  intro r' htake
  unfold take at htake
  dsimp only at htake
  split at htake
  · cases htake
  · split at htake
    · cases htake
    · cases htake
    · rename_i v haccept
      cases htake
      exact hp r.settings k value v h haccept

private theorem ensures_resolve (hp : KeptByValues p) (h : p r.settings) :
    Ensures (fun r : Reading S => p r.settings) r.resolve := by
  unfold resolve
  split
  · exact Ensures.ok h
  · exact Ensures.error _
  · exact ensures_take (r := { r with pending := none }) hp h _ _

private theorem ensures_flag (hp : KeptByValues p) (h : p r.settings) (m : Meaning S) :
    Ensures (fun r : Reading S => p r.settings) (r.flag m) := by
  have hresolve := ensures_resolve hp h
  cases m with
  | help => exact hresolve.bind fun _ _ => Ensures.error _
  | version => exact hresolve.bind fun _ _ => Ensures.error _
  | key k => exact hresolve.bind fun _ h => ensures_take hp h k ""

private theorem ensures_begin (hp : KeptByValues p) (h : p r.settings) (k : Keyed.Key S)
    (value : Option String) : Ensures (fun r : Reading S => p r.settings) (r.begin k value) := by
  have hresolve := ensures_resolve hp h
  cases value with
  | none => exact hresolve.map fun _ h => h
  | some value => exact hresolve.bind fun _ h => ensures_take hp h k value

end Reading

private theorem ensures_readLong (hp : KeptByValues p) (g : Grammar) (h : p r.settings)
    (word : List Char) : Ensures (fun r : Reading S => p r.settings) (readLong g r word) := by
  unfold readLong
  dsimp only
  split
  · exact Ensures.error _
  · split
    · split
      · exact r.ensures_begin hp h _ _
      · rename_i k _ _
        cases (nameAndValue word).2 with
        | none => exact r.ensures_flag hp h (.key k)
        | some value => exact Ensures.error _
    · exact Ensures.error _
    · exact r.ensures_flag hp h _

private theorem ensures_readShorts (hp : KeptByValues p) (g : Grammar) (h : p r.settings)
    (word : List Char) : Ensures (fun r : Reading S => p r.settings) (readShorts g r word) := by
  induction word generalizing r with
  | nil => exact Ensures.ok h
  | cons c rest ih =>
    unfold readShorts
    split
    · exact Ensures.error _
    · split
      · exact r.ensures_begin hp h _ _
      · exact (r.ensures_flag hp h _).bind fun _ => ih
    · exact (r.ensures_flag hp h _).bind fun _ => ih

/-- Whatever is read of the words of a level, the settings keep what accepted values keep. -/
theorem ensures_readWords (hp : KeptByValues p) (g : Grammar) (h : p r.settings)
    (words : List String) :
    Ensures (fun level : Reading S × Ending => p level.1.settings) (readWords g r words) := by
  induction words generalizing r with
  | nil => exact Ensures.ok h
  | cons word rest ih =>
    unfold readWords
    dsimp only
    split
    · exact ih h
    · split
      -- The word names a command, or asks for the description of one.
      · split
        · exact Ensures.error _
        · exact Ensures.ok h
      · split
        -- The word is two dashes: a further word is not expected.
        · split
          · exact Ensures.ok h
          · exact Ensures.error _
        · exact (ensures_readLong hp g h _).bind fun _ => ih
        · exact (ensures_readShorts hp g h _).bind fun _ => ih
        -- The word is no option, and a value only if one is waited for.
        · split
          · exact ih h
          · exact Ensures.error _

/-- So do the settings of a command that are read to the end. -/
theorem ensures_readCommandWords {p : Globals × S → Prop} (hp : KeptByValues p) {standard : S}
    (h : p ({}, standard)) (words : List String) :
    Ensures (fun r : Reading (Globals × S) => p r.settings) (readCommandWords standard words) := by
  have hread := ensures_readWords (r := { settings := (({} : Globals), standard) }) hp {} h words
  exact hread.bind fun level hlevel => level.1.ensures_resolve hp hlevel

end

end GatewayProbe.CommandLine
