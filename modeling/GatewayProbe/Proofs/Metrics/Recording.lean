import GatewayProbe.Metrics.Tally
import GatewayProbe.Proofs.Metrics.Buckets
import GatewayProbe.Proofs.Metrics.Cells

/-!
# What recorded samples and failures leave behind

Samples are recorded one after the other. The bucket of a name then holds exactly the
samples of that name, and a sum over buckets counts the samples whose names are in the
class. A tally counts the failures of each kind.
-/

namespace GatewayProbe.Metrics

/-- A bucket with one more sample. -/
def Bucket.add (b : Bucket) (s : Sample) : Bucket := b.record s.micros s.success 1

/-- A sample is counted once. -/
@[simp] theorem Bucket.count_add (b : Bucket) (s : Sample) :
    (b.add s).histogram.count = b.histogram.count + 1 := by
  simp [Bucket.add, Bucket.record]

/-- A sample that failed is counted as a failure. -/
@[simp] theorem Bucket.failures_add (b : Bucket) (s : Sample) :
    (b.add s).failures = b.failures + if s.success then 0 else 1 := by
  by_cases hs : s.success <;> simp [Bucket.add, Bucket.record, hs]

/-- The failures of a bucket grow by the failures among the samples added to it. -/
theorem failures_foldl_add (b : Bucket) (ss : List Sample) :
    (ss.foldl Bucket.add b).failures = b.failures + ss.countP fun s => !s.success := by
  induction ss generalizing b with
  | nil => rfl
  | cons s ss ih =>
    rw [List.foldl_cons, ih, Bucket.failures_add, List.countP_cons]
    cases s.success <;> simp [Nat.add_assoc, Nat.add_comm 1]

namespace Aggregator

/-- Record one sample after the other. -/
def recordAll (a : Aggregator) (ss : List Sample) : Aggregator := ss.foldl record a

/-- A sample goes into the bucket of its name. -/
theorem buckets_record (a : Aggregator) (s : Sample) :
    (a.record s).buckets = a.buckets.update s.name fun b => b.add s := by
  simp [record, recordMicros, Bucket.add]

/-- A sample does not change the window of time. -/
@[simp] theorem window_record (a : Aggregator) (s : Sample) (now : Nat) :
    (a.record s).window now = a.window now := by
  simp [record, recordMicros, window]

@[simp] theorem recordAll_nil (a : Aggregator) : a.recordAll [] = a := rfl

theorem recordAll_cons (a : Aggregator) (s : Sample) (ss : List Sample) :
    a.recordAll (s :: ss) = (a.record s).recordAll ss := rfl

/-- Samples are recorded one after the other. -/
theorem recordAll_append (a : Aggregator) (ss ts : List Sample) :
    a.recordAll (ss ++ ts) = (a.recordAll ss).recordAll ts := List.foldl_append

/-- What is recorded leaves the window as it is. -/
@[simp] theorem window_recordAll (a : Aggregator) (ss : List Sample) (now : Nat) :
    (a.recordAll ss).window now = a.window now := by
  induction ss generalizing a with
  | nil => rfl
  | cons s ss ih => rw [recordAll_cons, ih, window_record]

/-- Recording keeps the names in order. -/
theorem ordered_recordAll {a : Aggregator} (h : a.buckets.Ordered) (ss : List Sample) :
    (a.recordAll ss).buckets.Ordered := by
  induction ss generalizing a with
  | nil => exact h
  | cons s ss ih =>
    refine ih ?_
    rw [buckets_record]
    exact h.update

/-- The bucket of a name holds what it held before and the new samples of that name. -/
theorem find?_recordAll {a : Aggregator} (h : a.buckets.Ordered) (ss : List Sample)
    (name : String) : (a.recordAll ss).buckets.find? name =
      let own := ss.filter fun s => s.name = name
      if own = [] then a.buckets.find? name
      else some (own.foldl Bucket.add ((a.buckets.find? name).getD {})) := by
  induction ss generalizing a with
  | nil => rfl
  | cons s ss ih =>
    have hord : (a.record s).buckets.Ordered := by
      rw [buckets_record]
      exact h.update
    rw [recordAll_cons, ih hord, buckets_record, Buckets.find?_update h]
    by_cases hs : s.name = name
    · subst hs
      by_cases hown : (ss.filter fun t => t.name = s.name) = [] <;> simp [hown]
    · simp [hs, Ne.symm hs]

/-- No bucket has more failures than samples. -/
theorem failures_le_count_recordAll {a : Aggregator}
    (h : ∀ b ∈ a.buckets, b.2.failures ≤ b.2.histogram.count) (ss : List Sample) :
    ∀ b ∈ (a.recordAll ss).buckets, b.2.failures ≤ b.2.histogram.count := by
  induction ss generalizing a with
  | nil => exact h
  | cons s ss ih =>
    refine ih ?_
    rw [buckets_record]
    refine Buckets.forall_update (P := fun b => b.failures ≤ b.histogram.count) s.name
      (Nat.zero_le _) (fun b hb => ?_) h
    rw [Bucket.failures_add, Bucket.count_add]
    split_ifs <;> omega

/-- A measure that grows by a fixed amount with each sample counts the samples of a class. -/
private theorem sumOver_recordAll {measure : Bucket → Nat} {k : Sample → Nat}
    (hzero : measure {} = 0) (hadd : ∀ b s, measure (b.add s) = measure b + k s)
    (p : String → Bool) (a : Aggregator) (ss : List Sample) :
    (a.recordAll ss).buckets.sumOver measure p =
      a.buckets.sumOver measure p + (ss.map fun s => if p s.name then k s else 0).sum := by
  induction ss generalizing a with
  | nil => rfl
  | cons s ss ih =>
    rw [recordAll_cons, ih, buckets_record,
      Buckets.sumOver_update hzero (fun b => hadd b s), List.map_cons, List.sum_cons,
      Nat.add_assoc]

private theorem sum_ite_eq_countP (q : Sample → Bool) (ss : List Sample) :
    (ss.map fun s => if q s then 1 else 0).sum = ss.countP q := by
  induction ss with
  | nil => rfl
  | cons s ss ih =>
    rw [List.map_cons, List.sum_cons, ih, List.countP_cons]
    omega

/-- The counts of a class of names grow by the samples of that class. -/
theorem sumOver_count_recordAll (p : String → Bool) (a : Aggregator) (ss : List Sample) :
    (a.recordAll ss).buckets.sumOver (·.histogram.count) p =
      a.buckets.sumOver (·.histogram.count) p + ss.countP fun s => p s.name := by
  rw [sumOver_recordAll rfl Bucket.count_add, sum_ite_eq_countP]

/-- The failures of a class of names grow by the failed samples of that class. -/
theorem sumOver_failures_recordAll (p : String → Bool) (a : Aggregator) (ss : List Sample) :
    (a.recordAll ss).buckets.sumOver (·.failures) p =
      a.buckets.sumOver (·.failures) p + ss.countP fun s => p s.name && !s.success := by
  rw [sumOver_recordAll rfl Bucket.failures_add, ← sum_ite_eq_countP]
  congr 3
  funext s
  cases p s.name <;> cases s.success <;> rfl

end Aggregator

namespace Report

/-- How many samples a report has under a name, none if the name is absent. -/
def countOf (r : Report) (name : String) : Nat :=
  (r.buckets.find? name).elim 0 fun b => b.histogram.count

/-- How many failures a report has under a name, none if the name is absent. -/
def failuresOf (r : Report) (name : String) : Nat :=
  (r.buckets.find? name).elim 0 fun b => b.failures

/-- How many samples a report has under a class of names. -/
def countWhere (r : Report) (p : String → Bool) : Nat :=
  r.buckets.sumOver (·.histogram.count) p

/-- How many failures a report has under a class of names. -/
def failuresWhere (r : Report) (p : String → Bool) : Nat := r.buckets.sumOver (·.failures) p

/-- How many samples without failure a report has under a class of names. -/
def successesWhere (r : Report) (p : String → Bool) : Nat :=
  r.buckets.sumOver (fun b => b.histogram.count - b.failures) p

end Report

namespace Tally

/-- Record one failure after the other. -/
def recordAll (t : Tally) (kinds : List FailureKind) : Tally := kinds.foldl record t

theorem recordAll_append (t : Tally) (kinds more : List FailureKind) :
    t.recordAll (kinds ++ more) = (t.recordAll kinds).recordAll more := List.foldl_append

/-- The count of a kind. -/
def of (t : Tally) : FailureKind → Nat
  | .transport => t.transport
  | .malformed => t.malformed
  | .unknownStatus => t.unknownStatus
  | .pollTimeout => t.pollTimeout
  | .taskFailed => t.taskFailed

/-- Recording a failure adds one to its kind and nothing to the others. -/
theorem of_record (t : Tally) (kind k : FailureKind) :
    (t.record kind).of k = t.of k + if kind = k then 1 else 0 := by
  cases kind <;> cases k <;> rfl

/-- The count of a kind grows by the recorded failures of that kind. -/
theorem of_recordAll (t : Tally) (kinds : List FailureKind) (k : FailureKind) :
    (t.recordAll kinds).of k = t.of k + kinds.countP (· = k) := by
  induction kinds generalizing t with
  | nil => rfl
  | cons kind kinds ih =>
    change ((t.record kind).recordAll kinds).of k = _
    rw [ih, of_record, List.countP_cons]
    simp only [decide_eq_true_eq]
    omega

end Tally

end GatewayProbe.Metrics
