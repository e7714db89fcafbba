import Mathlib.Data.List.Perm.Basic
import Mathlib.Data.List.Sort
import GatewayProbe.Proofs.Metrics.Recorder
import GatewayProbe.Slo.Outcome

/-!
# Reports do not tell the order of samples

Cells and buckets are lists of entries under ascending keys. Two entries of such a list can be
changed in either order, whether a change makes its entry or finds it, so two samples can be
recorded in either order and all samples in any order. Users that record at the same time leave
the buckets that their samples would leave one after the other. A report on the same samples over
the same window is therefore the same to everyone who looks at it.
-/

namespace GatewayProbe.Metrics

section Entries

variable {K V : Type} [LinearOrder K]

/-- Change the entry under a key, which is put in its place with a change of `new` if there is
none yet. -/
def changeAt (new : V) (key : K) (f : V → V) : List (K × V) → List (K × V)
  | [] => [(key, f new)]
  | (k, v) :: rest =>
    if key < k then (key, f new) :: (k, v) :: rest
    else if key = k then (k, f v) :: rest
    else (k, v) :: changeAt new key f rest

variable {new : V} {a b : K} {f g : V → V}

/-- The entries under two keys can be changed in either order. -/
private theorem changeAt_comm_of_lt (hab : a < b) (entries : List (K × V)) :
    changeAt new a f (changeAt new b g entries) = changeAt new b g (changeAt new a f entries) := by
  induction entries with
  | nil => simp [changeAt, hab, hab.not_gt, hab.ne']
  | cons entry rest ih =>
    obtain ⟨k, v⟩ := entry
    rcases lt_trichotomy a k with hak | rfl | hka
    · rcases lt_trichotomy b k with hbk | rfl | hkb
      · simp [changeAt, hab, hab.not_gt, hab.ne', hak, hbk]
      · simp [changeAt, hab, hab.not_gt, hab.ne']
      · simp [changeAt, hab.not_gt, hab.ne', hak, hkb.not_gt, hkb.ne']
    · simp [changeAt, hab.not_gt, hab.ne']
    · have hkb := hka.trans hab
      simp [changeAt, hka.not_gt, hka.ne', hkb.not_gt, hkb.ne', ih]

/-- Two changes under one key are one change that does both. -/
private theorem changeAt_changeAt (entries : List (K × V)) :
    changeAt new a f (changeAt new a g entries) = changeAt new a (f ∘ g) entries := by
  induction entries with
  | nil => simp [changeAt]
  | cons entry rest ih =>
    obtain ⟨k, v⟩ := entry
    rcases lt_trichotomy a k with hak | rfl | hka
    · simp [changeAt, hak]
    · simp [changeAt]
    · simp [changeAt, hka.not_gt, hka.ne', ih]

/-- Two entries can be changed in either order, and so can one, by changes that commute. -/
theorem changeAt_comm (h : a = b → f ∘ g = g ∘ f) (entries : List (K × V)) :
    changeAt new a f (changeAt new b g entries) = changeAt new b g (changeAt new a f entries) := by
  rcases lt_trichotomy a b with hab | rfl | hba
  · exact changeAt_comm_of_lt hab entries
  · rw [changeAt_changeAt, changeAt_changeAt, h rfl]
  · exact (changeAt_comm_of_lt hba entries).symm

end Entries

namespace Histogram

/-- A cell that holds nothing yet has the count zero. -/
theorem addTo_eq_changeAt (low times : Nat) (cells : List (Nat × Nat)) :
    addTo low times cells = changeAt 0 low (· + times) cells := by
  induction cells with
  | nil => simp [addTo, changeAt]
  | cons cell rest ih => simp [addTo, changeAt, ih]

/-- Two values can be counted in either order. -/
theorem record_comm (h : Histogram) (u m v n : Nat) :
    (h.record u m).record v n = (h.record v n).record u m := by
  by_cases hm : m = 0
  · simp [record, hm]
  by_cases hn : n = 0
  · simp [record, hn]
  have hcells (low low' : Nat) :
      addTo low n (addTo low' m h.cells) = addTo low' m (addTo low n h.cells) := by
    have hadd : (· + n) ∘ (· + m) = (· + m) ∘ (· + n) := funext fun k => Nat.add_right_comm k m n
    simp only [addTo_eq_changeAt]
    exact changeAt_comm (fun _ => hadd) h.cells
  simp only [record, if_neg hm, if_neg hn, hcells]
  rw [Nat.max_right_comm]

end Histogram

/-- Two samples can be added to a bucket in either order. -/
theorem Bucket.add_comm (b : Bucket) (s t : Sample) : (b.add s).add t = (b.add t).add s := by
  unfold add record
  rw [Histogram.record_comm]
  congr 1
  split_ifs <;> rfl

namespace Buckets

/-- A name without a bucket gets an empty one. -/
theorem update_eq_changeAt (name : String) (f : Bucket → Bucket) (bs : Buckets) :
    bs.update name f = changeAt {} name f bs := by
  induction bs with
  | nil => rfl
  | cons b rest ih => simp [update, changeAt, ih]

/-- Where names ascend, the names and what is held under each of them are all there is. -/
theorem Ordered.ext {bs cs : Buckets} (hbs : bs.Ordered) (hcs : cs.Ordered)
    (hnames : bs.names = cs.names) (hheld : ∀ name, bs.held name = cs.held name) : bs = cs := by
  induction bs generalizing cs with
  | nil => exact (List.map_eq_nil_iff.mp hnames.symm).symm
  | cons b bs ih =>
    obtain ⟨n, b⟩ := b
    cases cs with
    | nil => cases hnames
    | cons c cs =>
      obtain ⟨n', c⟩ := c
      obtain ⟨rfl, hrest⟩ := List.cons.inj hnames
      obtain ⟨hbelow, hbs⟩ := ordered_cons.mp hbs
      obtain ⟨hbelow', hcs⟩ := ordered_cons.mp hcs
      have hhead : b = c := by simpa [held, find?] using hheld n
      have htail : bs = cs := by
        refine ih hbs hcs hrest fun name => ?_
        by_cases hname : n = name
        · subst hname
          rw [held, held, find?_eq_none fun h => lt_irrefl _ (hbelow n h),
            find?_eq_none fun h => lt_irrefl _ (hbelow' n h)]
        · simpa [held, find?, hname] using hheld name
      rw [hhead, htail]

end Buckets

namespace Aggregator

/-- Recording changes nothing but buckets. -/
theorem record_eq (a : Aggregator) (s : Sample) :
    a.record s = { a with buckets := a.buckets.update s.name fun b => b.add s } := by
  simp [record, recordMicros, Bucket.add]

/-- Two samples can be recorded in either order. -/
theorem record_comm (a : Aggregator) (s t : Sample) :
    (a.record s).record t = (a.record t).record s := by
  simp only [record_eq, Buckets.update_eq_changeAt]
  rw [changeAt_comm fun _ => funext fun b => b.add_comm s t]

instance : RightCommutative record := ⟨record_comm⟩

/-- Samples can be recorded in any order. -/
theorem recordAll_perm {ss ts : List Sample} (h : ss.Perm ts) (a : Aggregator) :
    a.recordAll ss = a.recordAll ts := h.foldl_eq a

/-- Recording changes equal buckets equally. -/
theorem buckets_recordAll_congr {a b : Aggregator} (h : a.buckets = b.buckets)
    (ss : List Sample) : (a.recordAll ss).buckets = (b.recordAll ss).buckets := by
  induction ss generalizing a b with
  | nil => exact h
  | cons s ss ih =>
    apply ih
    rw [buckets_record, buckets_record, h]

/-- The buckets of fresh aggregators depend on the samples alone. -/
theorem buckets_recordAll_create (started started' : Nat) (ss : List Sample) :
    ((create started).recordAll ss).buckets = ((create started').recordAll ss).buckets :=
  buckets_recordAll_congr (a := create started) (b := create started') rfl ss

/-- A report shows the window up to the moment it is frozen, and all buckets. -/
theorem report_freeze (a : Aggregator) (now : Nat) :
    (a.freeze now).report now = ⟨a.window now, a.buckets⟩ := rfl

/-- The names are those there were before and those of the samples. -/
theorem mem_names_recordAll {a : Aggregator} {ss : List Sample} {name : String} :
    name ∈ (a.recordAll ss).buckets.names ↔
      name ∈ a.buckets.names ∨ ∃ s ∈ ss, s.name = name := by
  induction ss generalizing a with
  | nil => simp
  | cons s ss ih =>
    rw [recordAll_cons, ih, buckets_record, Buckets.mem_names_update, List.exists_mem_cons_iff,
      or_comm (a := name = s.name), or_assoc, eq_comm (a := name)]

end Aggregator

/-- Users that are done leave the buckets that their samples leave one after the other. -/
theorem Recorder.Kept.buckets_eq {started : Nat} {issued : List (List Sample)} {r : Recorder}
    (h : r.Kept started issued) (hdone : r.IsDone) :
    r.aggregator.buckets = ((Aggregator.create started).recordAll issued.flatten).buckets := by
  have hperm := h.counted_perm hdone
  have hnone : (Aggregator.create started).buckets.Ordered := List.Pairwise.nil
  have hordered := Aggregator.ordered_recordAll hnone issued.flatten
  refine h.ordered.ext hordered ?_ fun name => ?_
  · refine h.ordered.pairwise_names.eq_of_mem_iff hordered.pairwise_names fun name => ?_
    rw [Aggregator.mem_names_recordAll]
    refine ⟨fun hname => Or.inr (h.named name hname), ?_⟩
    rintro (hbefore | ⟨s, hs, rfl⟩)
    · cases hbefore
    · exact h.counted s (hperm.mem_iff.mpr hs)
  · rw [← Aggregator.recordAll_perm hperm, h.held, Aggregator.held_recordAll_create]

/-- Two reports that show the same, whatever is asked. -/
structure Report.Agrees (r r' : Report) : Prop where
  names : r.buckets.names = r'.buckets.names
  count : ∀ name, r.countOf name = r'.countOf name
  failures : ∀ name, r.failuresOf name = r'.failuresOf name
  percentiles : ∀ name, r.percentiles name = r'.percentiles name
  quantiles : ∀ name q, r.quantileMillis name q = r'.quantileMillis name q
  endpoints : r.endpoints = r'.endpoints
  total : r.totalRequests = r'.totalRequests
  verdicts : ∀ targets,
    Slo.evaluate r.quantileMillis targets = Slo.evaluate r'.quantileMillis targets

/-- A report agrees with itself. -/
theorem Report.Agrees.refl (r : Report) : r.Agrees r :=
  ⟨rfl, fun _ => rfl, fun _ => rfl, fun _ => rfl, fun _ _ => rfl, rfl, rfl, fun _ => rfl⟩

namespace Aggregator

/-- Reports over the same window on the same samples agree, in whatever order the samples were
recorded; and so do the reports of users that record them at the same time, whatever the turns. -/
theorem order_unseen {ss ts : List Sample} (hperm : ss.Perm ts) {started now started' now' : Nat}
    (hwindow : Clock.since started now = Clock.since started' now') :
    (reportOf started now ss).Agrees (reportOf started' now' ts) ∧
    ∀ issued turns r, Recorder.run turns (.begin started issued) = some r → r.IsDone →
      issued.flatten.Perm ss →
      ((r.aggregator.freeze now).report now).Agrees (reportOf started' now' ts) := by
  have hreport (us : List Sample) (hus : us.Perm ts) :
      (⟨Clock.since started now, ((create started).recordAll us).buckets⟩ : Report) =
        reportOf started' now' ts := by
    rw [reportOf, report_freeze, window_recordAll, recordAll_perm hus,
      buckets_recordAll_create started started', hwindow]
    rfl
  refine ⟨?_, fun issued turns r hrun hdone hissued => ?_⟩
  · have hserial := hreport ss hperm
    rw [← hserial, reportOf, report_freeze, window_recordAll]
    exact .refl _
  · have hkept := (Recorder.kept_begin started issued).run hrun
    have hshared := hreport issued.flatten (hissued.trans hperm)
    rw [← hshared, report_freeze, hkept.window, hkept.buckets_eq hdone]
    exact .refl _

/-- The samples of two users, of which the first ones have the same name. -/
def rivals : List (List Sample) :=
  [[⟨"b", 0.0, false⟩, ⟨"a", 2.5, true⟩], [⟨"b", 3000.0, true⟩]]

/-- Both users look for the bucket of that name before there is one. Their report is that of a
single user who records all samples from the last to the first. -/
theorem order_unseen_rivals :
    ∃ r, Recorder.run [0, 1, 0, 1, 1, 0, 0, 0, 0] (.begin 5 rivals) = some r ∧ r.IsDone ∧
      let report := (r.aggregator.freeze 7).report 7
      let reversed := reportOf 1 3 rivals.flatten.reverse
      report.Agrees reversed ∧ report.countOf "b" = 2 ∧ reversed.failuresOf "b" = 1 := by
  have hend : ∃ r, Recorder.run [0, 1, 0, 1, 1, 0, 0, 0, 0] (.begin 5 rivals) = some r ∧
      r.IsDone := ⟨_, rfl, by decide +kernel⟩
  obtain ⟨r, hrun, hdone⟩ := hend
  have hwindow : Clock.since 5 7 = Clock.since 1 3 := rfl
  have hreversed : rivals.flatten.Perm rivals.flatten.reverse := (List.reverse_perm _).symm
  obtain ⟨-, hshared⟩ := order_unseen hreversed hwindow
  have hagrees := hshared rivals _ r hrun hdone (.refl _)
  refine ⟨r, hrun, hdone, hagrees, ?_, by decide +kernel⟩
  exact (hagrees.count "b").trans (by decide +kernel)

end Aggregator

end GatewayProbe.Metrics
