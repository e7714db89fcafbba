import Mathlib.Data.List.Perm.Basic
import GatewayProbe.Proofs.Metrics.Percentiles

/-!
# Recording by several users at once

The buckets are shared. A user that has a sample to record looks for the bucket of its name; if
there is none, it makes an empty one, unless another user has made it in the meantime; and at
last it counts the sample in the bucket. Other users may take their steps in between, so a
sample is counted some time after its bucket was found. Whatever the turns, each bucket holds
the samples of its name that have been counted.
-/

namespace GatewayProbe.Metrics

/-- Make an empty bucket for a name, unless it has one. -/
def Aggregator.ensure (a : Aggregator) (name : String) : Aggregator :=
  { a with buckets := a.buckets.update name id }

/-- How far a user has come with its next sample. -/
inductive Search
  /-- It has yet to look for the bucket. -/
  | seeking
  /-- It has found that there is no bucket. -/
  | missing
  /-- It has hold of the bucket. -/
  | holding
  deriving DecidableEq

/-- A user with the samples that it has yet to record. -/
structure Recorder.User where
  search : Search
  remaining : List Sample

/-- Users that record samples into the same buckets. -/
structure Recorder where
  aggregator : Aggregator
  users : List Recorder.User
  /-- The samples counted so far, in this order. -/
  counted : List Sample

namespace Recorder

/-- No sample has been recorded yet. -/
def begin (started : Nat) (issued : List (List Sample)) : Recorder :=
  ⟨.create started, issued.map (User.mk .seeking), []⟩

/-- One user takes one step, if it has a sample to record. -/
def step (i : Nat) (r : Recorder) : Option Recorder :=
  match r.users[i]? with
  | some ⟨.seeking, s :: rest⟩ =>
    let search := if (r.aggregator.buckets.find? s.name).isSome then .holding else .missing
    some { r with users := r.users.set i ⟨search, s :: rest⟩ }
  | some ⟨.missing, s :: rest⟩ =>
    some { r with
      aggregator := r.aggregator.ensure s.name, users := r.users.set i ⟨.holding, s :: rest⟩ }
  | some ⟨.holding, s :: rest⟩ =>
    some ⟨r.aggregator.record s, r.users.set i ⟨.seeking, rest⟩, r.counted ++ [s]⟩
  | _ => none

/-- The users take their steps in some order. -/
def run : List Nat → Recorder → Option Recorder
  | [], r => some r
  | i :: turns, r => (r.step i).bind (run turns)

/-- No user has a sample left. -/
def IsDone (r : Recorder) : Prop := ∀ u ∈ r.users, u.remaining = []

instance (r : Recorder) : Decidable r.IsDone :=
  inferInstanceAs (Decidable (∀ u ∈ r.users, u.remaining = []))

/-- The samples that have yet to be counted. -/
def remaining (r : Recorder) : List Sample := (r.users.map User.remaining).flatten

/-- A step either moves one user on in its search, or counts its sample. -/
theorem step_cases {i : Nat} {r r' : Recorder} (h : r.step i = some r') :
    ∃ search s rest, r.users[i]? = some ⟨search, s :: rest⟩ ∧
      ((∃ search', r' = { r with users := r.users.set i ⟨search', s :: rest⟩ } ∧
          (search' = .holding → (r.aggregator.buckets.find? s.name).isSome)) ∨
        r' = { r with
          aggregator := r.aggregator.ensure s.name, users := r.users.set i ⟨.holding, s :: rest⟩ } ∨
        (search = .holding ∧
          r' = ⟨r.aggregator.record s, r.users.set i ⟨.seeking, rest⟩, r.counted ++ [s]⟩)) := by
  unfold step at h
  split at h
  · rename_i s rest hu
    refine ⟨_, s, rest, hu, Or.inl ⟨_, (Option.some.inj h).symm, ?_⟩⟩
    split_ifs with hfound
    · exact fun _ => hfound
    · exact nofun
  · rename_i s rest hu
    exact ⟨_, s, rest, hu, Or.inr (Or.inl (Option.some.inj h).symm)⟩
  · rename_i s rest hu
    exact ⟨_, s, rest, hu, Or.inr (Or.inr ⟨rfl, (Option.some.inj h).symm⟩)⟩
  · cases h

/-- What holds of a recorder whatever the turns: each bucket holds the samples counted under its
name, whoever has hold of a bucket finds it there, and no sample is lost or counted twice. -/
structure Kept (started : Nat) (issued : List (List Sample)) (r : Recorder) : Prop where
  window : ∀ now, r.aggregator.window now = (Aggregator.create started).window now
  ordered : r.aggregator.buckets.Ordered
  held : ∀ name, r.aggregator.buckets.held name =
    (r.counted.filter fun s => s.name = name).foldl Bucket.add {}
  holding : ∀ s rest, ⟨.holding, s :: rest⟩ ∈ r.users → s.name ∈ r.aggregator.buckets.names
  counted : ∀ s ∈ r.counted, s.name ∈ r.aggregator.buckets.names
  named : ∀ name ∈ r.aggregator.buckets.names, ∃ s ∈ issued.flatten, s.name = name
  conserved : (r.counted ++ r.remaining).Perm issued.flatten

/-- All of this holds before the first turn. -/
theorem kept_begin (started : Nat) (issued : List (List Sample)) :
    (begin started issued).Kept started issued := by
  refine ⟨fun _ => rfl, List.Pairwise.nil, fun _ => rfl, ?_, nofun, nofun, ?_⟩
  · intro s rest hmem
    obtain ⟨ss, -, hu⟩ := List.mem_map.mp hmem
    cases hu
  · simp [begin, remaining, Function.comp_def]

variable {started : Nat} {issued : List (List Sample)} {r r' : Recorder}

/-- A user that keeps its samples changes nothing about what remains. -/
theorem remaining_set_of_eq {users : List User} {i : Nat} {u v : User} (hu : users[i]? = some u)
    (hv : v.remaining = u.remaining) :
    (users.set i v).map User.remaining = users.map User.remaining := by
  obtain ⟨hlt, rfl⟩ := List.getElem?_eq_some_iff.mp hu
  have hbound : i < (users.map User.remaining).length := by simpa using hlt
  rw [List.map_set, hv, ← List.getElem_map (h := hbound), List.set_getElem_self]

/-- A user that drops a sample takes it from what remains. -/
theorem perm_remaining_set {users : List User} {i : Nat} {u v : User} {s : Sample}
    (hu : users[i]? = some u) (hv : u.remaining = s :: v.remaining) :
    (users.map User.remaining).flatten.Perm
      (s :: ((users.set i v).map User.remaining).flatten) := by
  induction users generalizing i with
  | nil => cases hu
  | cons w users ih =>
    cases i with
    | zero =>
      obtain rfl := Option.some.inj hu
      simp [hv]
    | succ i =>
      simp only [List.set_cons_succ, List.map_cons, List.flatten_cons]
      exact ((ih hu).append_left _).trans List.perm_middle

/-- A sample that has yet to be counted was issued. -/
theorem Kept.mem_issued (h : r.Kept started issued) {s : Sample} {rest : List Sample} {u : User}
    (hu : u ∈ r.users) (hremaining : u.remaining = s :: rest) : s ∈ issued.flatten := by
  apply h.conserved.subset
  apply List.mem_append_right
  refine List.mem_flatten.mpr ⟨_, List.mem_map_of_mem hu, ?_⟩
  rw [hremaining]
  exact List.mem_cons_self

/-- Looking for a bucket changes none. -/
theorem Kept.search (h : r.Kept started issued) {i : Nat} {search search' : Search} {s : Sample}
    {rest : List Sample} (hu : r.users[i]? = some ⟨search, s :: rest⟩)
    (hfound : search' = .holding → (r.aggregator.buckets.find? s.name).isSome) :
    ({ r with users := r.users.set i ⟨search', s :: rest⟩ } : Recorder).Kept started issued := by
  refine ⟨h.window, h.ordered, h.held, ?_, h.counted, h.named, ?_⟩
  · intro t rest' hmem
    rcases List.mem_or_eq_of_mem_set hmem with hmem | heq
    · exact h.holding t rest' hmem
    · cases heq
      by_contra hnot
      have hsome := hfound rfl
      rw [Buckets.find?_eq_none hnot] at hsome
      cases hsome
  · have hsame := remaining_set_of_eq (v := ⟨search', s :: rest⟩) hu rfl
    simpa only [remaining, hsame] using h.conserved

/-- Making a bucket changes none that there is. -/
theorem Kept.ensure (h : r.Kept started issued) {i : Nat} {search : Search} {s : Sample}
    {rest : List Sample} (hu : r.users[i]? = some ⟨search, s :: rest⟩) :
    ({ r with
      aggregator := r.aggregator.ensure s.name
      users := r.users.set i ⟨.holding, s :: rest⟩ } : Recorder).Kept started issued := by
  refine ⟨h.window, h.ordered.update, ?_, ?_, ?_, ?_, ?_⟩
  · intro name
    rw [← h.held name]
    refine (h.ordered.held_update s.name name id).trans ?_
    split_ifs with hname
    · rw [hname]
      rfl
    · rfl
  · intro t rest' hmem
    apply Buckets.mem_names_update.mpr
    rcases List.mem_or_eq_of_mem_set hmem with hmem | heq
    · exact Or.inr (h.holding t rest' hmem)
    · cases heq
      exact Or.inl rfl
  · intro t ht
    exact Buckets.mem_names_update.mpr (Or.inr (h.counted t ht))
  · intro name hname
    rcases Buckets.mem_names_update.mp hname with rfl | hname
    · exact ⟨s, h.mem_issued (List.mem_of_getElem? hu) rfl, rfl⟩
    · exact h.named name hname
  · have hsame := remaining_set_of_eq (v := ⟨.holding, s :: rest⟩) hu rfl
    simpa only [remaining, hsame] using h.conserved

/-- Counting a sample changes the bucket of its name and no other. -/
theorem Kept.count (h : r.Kept started issued) {i : Nat} {s : Sample} {rest : List Sample}
    (hu : r.users[i]? = some ⟨.holding, s :: rest⟩) :
    (⟨r.aggregator.record s, r.users.set i ⟨.seeking, rest⟩, r.counted ++ [s]⟩ : Recorder).Kept
      started issued := by
  have hmem := List.mem_of_getElem? hu
  have hbuckets := Aggregator.buckets_record r.aggregator s
  have hnames : ∀ {name}, name ∈ (r.aggregator.record s).buckets.names ↔
      name = s.name ∨ name ∈ r.aggregator.buckets.names := by
    intro name
    rw [hbuckets]
    exact Buckets.mem_names_update
  refine ⟨?_, ?_, ?_, ?_, ?_, ?_, ?_⟩
  · intro now
    rw [Aggregator.window_record, h.window]
  · rw [hbuckets]
    exact h.ordered.update
  · intro name
    rw [hbuckets, h.ordered.held_update, List.filter_append, List.foldl_append]
    by_cases hname : s.name = name
    · subst hname
      simp [h.held]
    · simp [h.held, hname, Ne.symm hname]
  · intro t rest' ht
    apply hnames.mpr
    rcases List.mem_or_eq_of_mem_set ht with ht | heq
    · exact Or.inr (h.holding t rest' ht)
    · cases heq
  · intro t ht
    apply hnames.mpr
    rcases List.mem_append.mp ht with ht | ht
    · exact Or.inr (h.counted t ht)
    · exact Or.inl (List.mem_singleton.mp ht ▸ rfl)
  · intro name hname
    rcases hnames.mp hname with rfl | hname
    · exact ⟨s, h.mem_issued hmem rfl, rfl⟩
    · exact h.named name hname
  · have hperm := perm_remaining_set (v := ⟨.seeking, rest⟩) hu rfl
    refine List.Perm.trans ?_ h.conserved
    rw [List.append_assoc]
    exact (hperm.symm).append_left r.counted

/-- A step of any user keeps it all. -/
theorem Kept.step (h : r.Kept started issued) {i : Nat} (hstep : r.step i = some r') :
    r'.Kept started issued := by
  obtain ⟨search, s, rest, hu, ⟨search', rfl, hfound⟩ | rfl | ⟨rfl, rfl⟩⟩ := step_cases hstep
  · exact h.search hu hfound
  · exact h.ensure hu
  · exact h.count hu

/-- So does any number of steps, whoever takes them. -/
theorem Kept.run (h : r.Kept started issued) {turns : List Nat} (hrun : run turns r = some r') :
    r'.Kept started issued := by
  induction turns generalizing r with
  | nil => exact Option.some.inj hrun ▸ h
  | cons i turns ih =>
    obtain ⟨r₁, hstep, hrest⟩ := Option.bind_eq_some_iff.mp hrun
    exact ih (h.step hstep) hrest

/-- Once all users are done, the samples counted are those issued. -/
theorem Kept.counted_perm (h : r.Kept started issued) (hdone : r.IsDone) :
    r.counted.Perm issued.flatten := by
  have hnone : r.remaining = [] := by
    simpa [remaining, IsDone] using hdone
  simpa [hnone] using h.conserved

/-- Whatever the turns of the users, at every moment the percentiles of a name exist if samples
have been counted under it, and fit these; what is seen under a name is what its own samples
alone would show; and the names ascend. Once all users are done, the samples counted are those
issued, and the names are exactly theirs. -/
theorem buckets_observed {started : Nat} {issued : List (List Sample)} {turns : List Nat}
    {r : Recorder} (hrun : run turns (begin started issued) = some r)
    (hmax : issued.flatten.length < 2 ^ 53) :
    (∀ now name,
      let own := r.counted.filter fun s => s.name = name
      let alone := (Aggregator.create started).recordAll own
      ((r.aggregator.percentiles now name).isSome ↔ ∃ s ∈ r.counted, s.name = name) ∧
      (∀ p, r.aggregator.percentiles now name = some p → p.Fits own ∧ p.failures ≤ p.count) ∧
      r.aggregator.percentiles now name = alone.percentiles now name ∧
      ∀ q, r.aggregator.quantileMillis name q = alone.quantileMillis name q) ∧
    r.aggregator.buckets.names.Pairwise (· < ·) ∧
    (r.IsDone → r.counted.Perm issued.flatten ∧
      ∀ name, name ∈ r.aggregator.buckets.names ↔ ∃ s ∈ issued.flatten, s.name = name) := by
  have hkept := (kept_begin started issued).run hrun
  refine ⟨fun now name => ?_, hkept.ordered.pairwise_names, fun hdone => ?_⟩
  · intro own alone
    have hlength : own.length < 2 ^ 53 := by
      have hcounted := hkept.conserved.length_eq
      have hown : own.length ≤ r.counted.length := List.length_filter_le _ _
      rw [List.length_append] at hcounted
      omega
    have hheld : r.aggregator.buckets.held name = own.foldl Bucket.add {} := hkept.held name
    have halone : r.aggregator.buckets.held name = alone.buckets.held name := by
      rw [hheld, Aggregator.held_recordAll_create]
      simp [own]
    have hwindow : r.aggregator.window now = alone.window now := by
      rw [hkept.window, Aggregator.window_recordAll]
    refine ⟨?_, ?_, ?_, ?_⟩
    · rw [Aggregator.isSome_percentiles_iff hheld hlength]
      simp [own]
    · intro p hp
      have hfits := Aggregator.fits_of_percentiles hheld hlength hp
      exact ⟨hfits, hfits.failures_le⟩
    · rw [Aggregator.percentiles_eq_held, Aggregator.percentiles_eq_held, halone, hwindow]
    · intro q
      rw [Aggregator.quantileMillis_eq_held, Aggregator.quantileMillis_eq_held, halone]
  · have hperm := hkept.counted_perm hdone
    refine ⟨hperm, fun name => ⟨hkept.named name, ?_⟩⟩
    rintro ⟨s, hs, rfl⟩
    exact hkept.counted s (hperm.mem_iff.mpr hs)

/-- Two users look for a bucket of the same name before either has made it. One of their samples
takes no time and is a failure; the other name is recorded by the first user alone. -/
theorem buckets_observed_raced :
    ∃ r, run [0, 1, 0, 1, 1, 0, 0, 0, 0]
        (begin 5 [[⟨"b", 0.0, false⟩, ⟨"a", 2.5, true⟩], [⟨"b", 3.0, true⟩]]) = some r ∧
      r.IsDone ∧ r.counted.length = 3 ∧ r.aggregator.buckets.names = ["a", "b"] ∧
      ∃ p, r.aggregator.percentiles 7 "b" = some p ∧ p.count = 2 ∧ p.failures = 1 ∧
        p.p50 ≤ p.p90 ∧ p.p90 ≤ p.p95 ∧ p.p95 ≤ p.p99 := by
  have hend : ∃ r, run [0, 1, 0, 1, 1, 0, 0, 0, 0]
      (begin 5 [[⟨"b", 0.0, false⟩, ⟨"a", 2.5, true⟩], [⟨"b", 3.0, true⟩]]) = some r ∧
      r.IsDone ∧ r.aggregator.buckets.names = ["a", "b"] ∧
      (r.counted.filter fun s => s.name = "b").map (·.success) = [true, false] :=
    ⟨_, rfl, by decide +kernel, by decide +kernel, by decide +kernel⟩
  obtain ⟨r, hrun, hdone, hnames, hown⟩ := hend
  obtain ⟨hobserved, -, hall⟩ := buckets_observed hrun (by decide)
  obtain ⟨hsome, hfits, -, -⟩ := hobserved 7 "b"
  obtain ⟨hperm, hnamed⟩ := hall hdone
  have hrecorded : ∃ s ∈ r.counted, s.name = "b" := by
    obtain ⟨s, hs, hname⟩ := (hnamed "b").mp (by rw [hnames]; decide)
    exact ⟨s, hperm.mem_iff.mpr hs, hname⟩
  obtain ⟨p, hp⟩ := Option.isSome_iff_exists.mp (hsome.mpr hrecorded)
  obtain ⟨hfit, -⟩ := hfits p hp
  refine ⟨r, hrun, hdone, hperm.length_eq, hnames, p, hp, ?_, ?_, hfit.p50_le, hfit.p90_le,
    hfit.p95_le⟩
  · have hlength := congrArg List.length hown
    rw [List.length_map] at hlength
    exact hfit.count.trans hlength
  · have hfailed := congrArg (List.countP (!·)) hown
    rw [List.countP_map] at hfailed
    exact hfit.failures.trans hfailed

end Recorder

end GatewayProbe.Metrics
