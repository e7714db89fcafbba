import GatewayProbe.Failure

/-!
# Settings addressed by keys

Settings are a record of values under keys. Every key has a type of values, a value can
be taken out and put in, and putting one in leaves the others alone. Settings from
another source are merged key by key in a fixed order: a key that is already given
keeps its value, and the first value of the source that is not allowed stops the merge.
-/

namespace GatewayProbe.Settings

/-- Settings addressed by keys. -/
class Keyed (S : Type) where
  Key : Type
  Value : Key → Type
  get : S → (k : Key) → Value k
  set : S → (k : Key) → Value k → S

/-- A source of settings: for each key a value, a fault, or nothing. -/
abbrev Source (S : Type) [Keyed S] : Type :=
  (k : Keyed.Key S) → Option (Except SettingsFault (Keyed.Value k))

/-- The settings after the key of a source, unless the key is given already. -/
def mergeKey {S : Type} [Keyed S] (given : Keyed.Key S → Bool) (source : Source S) (s : S)
    (k : Keyed.Key S) : Except SettingsFault S :=
  if given k then .ok s
  else
    match source k with
    | none => .ok s
    | some (.error fault) => .error fault
    | some (.ok v) => .ok (Keyed.set s k v)

/-- The settings after the keys of a source, in order. -/
def mergeKeys {S : Type} [Keyed S] (given : Keyed.Key S → Bool) (source : Source S) :
    List (Keyed.Key S) → S → Except SettingsFault S
  | [], s => .ok s
  | k :: rest, s => (mergeKey given source s k).bind (mergeKeys given source rest)

end GatewayProbe.Settings
