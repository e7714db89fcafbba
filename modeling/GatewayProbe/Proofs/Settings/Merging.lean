import GatewayProbe.Settings.Keyed

/-!
# Merging settings key by key

Settings that are nothing but the values under their keys can be described by what each key holds
after a merge: a given key keeps its value, any other key takes the value of the source, and keeps
its own where the source has none. The source refuses a key if its value is not allowed there and
the key is not given; the first refused key in the order of the merge decides the fault. Merging
the same source again changes nothing, because every key already holds what it would be given.
-/

namespace GatewayProbe.Settings

/-- Settings that are nothing but the values under their keys. -/
class LawfulKeyed (S : Type) [Keyed S] : Prop where
  get_set_self (s : S) (k : Keyed.Key S) (v : Keyed.Value k) : Keyed.get (Keyed.set s k v) k = v
  get_set_of_ne (s : S) {j k : Keyed.Key S} (v : Keyed.Value k) (h : j ≠ k) :
    Keyed.get (Keyed.set s k v) j = Keyed.get s j
  ext {s t : S} (h : ∀ k, Keyed.get s k = Keyed.get t k) : s = t

section

variable {S : Type} [Keyed S]

/-- What a key holds after a source has been merged. -/
def valueAt (given : Keyed.Key S → Bool) (source : Source S) (s : S) (k : Keyed.Key S) :
    Keyed.Value k :=
  if given k then Keyed.get s k else ((source k).bind Except.toOption).getD (Keyed.get s k)

/-- A source refuses a key that is not given, and for which it has a value that is not allowed. -/
def Refuses (given : Keyed.Key S → Bool) (source : Source S) (k : Keyed.Key S)
    (fault : SettingsFault) : Prop :=
  given k = false ∧ source k = some (.error fault)

/-- What a merge comes to that takes the keys in an order. -/
structure Merges (given : Keyed.Key S → Bool) (source : Source S) (order : List (Keyed.Key S))
    (s : S) (result : Except SettingsFault S) : Prop where
  /-- A given key keeps its value, another one takes that of the source, or else keeps its own. -/
  value : ∀ t, result = .ok t → ∀ k, Keyed.get t k = valueAt given source s k
  /-- The merge fails exactly if some key is refused. -/
  ok_iff : (∃ t, result = .ok t) ↔ ∀ k fault, ¬Refuses given source k fault
  /-- It fails with the fault of the first key that is refused. -/
  error_iff : ∀ fault, result = .error fault ↔ ∃ before k after, order = before ++ k :: after ∧
    (∀ j ∈ before, ∀ other, ¬Refuses given source j other) ∧ Refuses given source k fault

variable [LawfulKeyed S] {given : Keyed.Key S → Bool} {source : Source S} {s : S}

open LawfulKeyed

/-- Putting back what is there changes nothing. -/
theorem set_get (s : S) (k : Keyed.Key S) : Keyed.set s k (Keyed.get s k) = s := by
  refine ext fun j => ?_
  by_cases hj : j = k
  · subst hj
    exact get_set_self s j _
  · exact get_set_of_ne s _ hj

/-- One key is either refused, or put in as it is to be. -/
theorem mergeKey_cases (given : Keyed.Key S → Bool) (source : Source S) (s : S)
    (k : Keyed.Key S) :
    (∃ fault, Refuses given source k fault ∧ mergeKey given source s k = .error fault) ∨
    (∀ fault, ¬Refuses given source k fault) ∧
      mergeKey given source s k = .ok (Keyed.set s k (valueAt given source s k)) := by
  unfold mergeKey valueAt Refuses
  cases hgiven : given k with
  | true => exact Or.inr ⟨by simp, by simp [set_get]⟩
  | false =>
    cases hvalue : source k with
    | none => exact Or.inr ⟨by simp, by simp [set_get]⟩
    | some value =>
      cases value with
      | error fault => exact Or.inl ⟨fault, ⟨rfl, rfl⟩, by simp⟩
      | ok v => exact Or.inr ⟨by simp, by simp [Except.toOption]⟩

omit [LawfulKeyed S] in
/-- A key that holds what it is to hold is to hold it still. -/
theorem valueAt_of_get_eq {t : S} {k : Keyed.Key S}
    (h : Keyed.get t k = valueAt given source s k) :
    valueAt given source t k = valueAt given source s k := by
  unfold valueAt at h ⊢
  cases hgiven : given k with
  | true => simpa [hgiven] using h
  | false =>
    cases hvalue : (source k).bind Except.toOption with
    | none => simpa [hgiven, hvalue] using h
    | some v => simp

/-- A key that has been merged leaves open the same values for all keys. -/
theorem valueAt_set (k j : Keyed.Key S) :
    valueAt given source (Keyed.set s k (valueAt given source s k)) j =
      valueAt given source s j := by
  by_cases hj : j = k
  · subst hj
    exact valueAt_of_get_eq (get_set_self s j _)
  · simp only [valueAt, get_set_of_ne _ _ hj]

/-- Where no key is refused, each key of the order holds what it is to hold, and no other key
changes. -/
theorem exists_mergeKeys_eq_ok {order : List (Keyed.Key S)}
    (h : ∀ k ∈ order, ∀ fault, ¬Refuses given source k fault) (s : S) :
    ∃ t, mergeKeys given source order s = .ok t ∧
      (∀ k ∈ order, Keyed.get t k = valueAt given source s k) ∧
      ∀ k ∉ order, Keyed.get t k = Keyed.get s k := by
  induction order generalizing s with
  | nil => exact ⟨s, rfl, nofun, fun _ _ => rfl⟩
  | cons k rest ih =>
    obtain ⟨hk, hrest⟩ := List.forall_mem_cons.mp h
    obtain ⟨fault, hfault, -⟩ | ⟨-, hone⟩ := mergeKey_cases given source s k
    · exact absurd hfault (hk fault)
    · obtain ⟨t, ht, hin, hout⟩ := ih hrest (Keyed.set s k (valueAt given source s k))
      refine ⟨t, ?_, ?_, ?_⟩
      · rw [mergeKeys, hone]
        exact ht
      · intro j hj
        by_cases hmem : j ∈ rest
        · rw [hin j hmem, valueAt_set]
        · obtain rfl : j = k := (List.mem_cons.mp hj).resolve_right hmem
          rw [hout j hmem, get_set_self]
      · intro j hj
        obtain ⟨hne, hmem⟩ := not_or.mp (mt List.mem_cons.mpr hj)
        rw [hout j hmem, get_set_of_ne _ _ hne]

/-- The first refused key of the order decides the fault. -/
theorem mergeKeys_eq_error {before : List (Keyed.Key S)} {k : Keyed.Key S} {fault : SettingsFault}
    (hbefore : ∀ j ∈ before, ∀ other, ¬Refuses given source j other)
    (hk : Refuses given source k fault) (after : List (Keyed.Key S)) (s : S) :
    mergeKeys given source (before ++ k :: after) s = .error fault := by
  induction before generalizing s with
  | nil =>
    obtain ⟨hgiven, hvalue⟩ := hk
    simp [mergeKeys, mergeKey, hgiven, hvalue, Except.bind]
  | cons j before ih =>
    obtain ⟨hj, hrest⟩ := List.forall_mem_cons.mp hbefore
    obtain ⟨other, hother, -⟩ | ⟨-, hone⟩ := mergeKey_cases given source s j
    · exact absurd hother (hj other)
    · rw [List.cons_append, mergeKeys, hone]
      exact ih hrest _

omit [LawfulKeyed S] in
/-- Either no key of an order is refused, or there is a first one that is. -/
theorem first_refused (given : Keyed.Key S → Bool) (source : Source S)
    (order : List (Keyed.Key S)) :
    (∀ k ∈ order, ∀ fault, ¬Refuses given source k fault) ∨
    ∃ before k after fault, order = before ++ k :: after ∧
      (∀ j ∈ before, ∀ other, ¬Refuses given source j other) ∧ Refuses given source k fault := by
  induction order with
  | nil => exact Or.inl nofun
  | cons k rest ih =>
    by_cases hk : ∃ fault, Refuses given source k fault
    · obtain ⟨fault, hfault⟩ := hk
      exact Or.inr ⟨[], k, rest, fault, rfl, nofun, hfault⟩
    · have hnone := not_exists.mp hk
      obtain hrest | ⟨before, j, after, fault, rfl, hbefore, hj⟩ := ih
      · exact Or.inl (List.forall_mem_cons.mpr ⟨hnone, hrest⟩)
      · exact Or.inr ⟨k :: before, j, after, fault, rfl,
          List.forall_mem_cons.mpr ⟨hnone, hbefore⟩, hj⟩

/-- A merge in an order that has every key comes to what it has to. -/
theorem merges_mergeKeys {order : List (Keyed.Key S)} (hall : ∀ k, k ∈ order)
    (given : Keyed.Key S → Bool) (source : Source S) (s : S) :
    Merges given source order s (mergeKeys given source order s) := by
  obtain hnone | ⟨before, k, after, fault, rfl, hbefore, hk⟩ := first_refused given source order
  · obtain ⟨t, ht, hin, -⟩ := exists_mergeKeys_eq_ok hnone s
    refine ⟨?_, ⟨fun _ k => hnone k (hall k), fun _ => ⟨t, ht⟩⟩, fun fault => ⟨?_, ?_⟩⟩
    · rintro t' ht' k
      obtain rfl := Except.ok.inj (ht.symm.trans ht')
      exact hin k (hall k)
    · rw [ht]
      nofun
    · rintro ⟨before, k, after, rfl, -, hk⟩
      exact absurd hk (hnone k (hall k) fault)
  · have herror := mergeKeys_eq_error hbefore hk after s
    refine ⟨?_, ⟨?_, fun h => absurd hk (h k fault)⟩, fun other => ⟨?_, ?_⟩⟩
    · rw [herror]
      nofun
    · rw [herror]
      nofun
    · intro hother
      obtain rfl := Except.error.inj (herror.symm.trans hother)
      exact ⟨before, k, after, rfl, hbefore, hk⟩
    · rintro ⟨before', k', after', heq, hbefore', hk'⟩
      rw [heq]
      exact mergeKeys_eq_error hbefore' hk' after' s

/-- Merging the same source again changes nothing. -/
theorem bind_mergeKeys {order : List (Keyed.Key S)} (hall : ∀ k, k ∈ order)
    (given : Keyed.Key S → Bool) (source : Source S) (s : S) :
    (mergeKeys given source order s).bind (mergeKeys given source order) =
      mergeKeys given source order s := by
  have hfirst := merges_mergeKeys hall given source s
  cases hmerge : mergeKeys given source order s with
  | error fault => rfl
  | ok t =>
    obtain ⟨u, hu, hin, -⟩ :=
      exists_mergeKeys_eq_ok (fun k _ => hfirst.ok_iff.mp ⟨t, hmerge⟩ k) t
    have hsame : u = t := by
      refine ext fun k => ?_
      have ht := hfirst.value t hmerge k
      rw [hin k (hall k), valueAt_of_get_eq ht, ht]
    rw [← hsame] at hu ⊢
    exact hu

omit [LawfulKeyed S] in
/-- What a source has for the keys that are given does not matter. -/
theorem mergeKeys_congr {source' : Source S}
    (h : ∀ k, given k = false → source k = source' k) (order : List (Keyed.Key S)) (s : S) :
    mergeKeys given source order s = mergeKeys given source' order s := by
  induction order generalizing s with
  | nil => rfl
  | cons k rest ih =>
    have hone : mergeKey given source s k = mergeKey given source' s k := by
      unfold mergeKey
      cases hgiven : given k with
      | true => rfl
      | false => rw [h k hgiven]
    rw [mergeKeys, mergeKeys, hone, funext ih]

end

end GatewayProbe.Settings
