import GatewayProbe.Proofs.Metrics.Reordering

/-!
# Reports and the aggregator they are taken from

An aggregator is asked for reports, windows, percentiles and quantiles at any moments, with
samples recorded in between. A report shows the samples recorded before it was asked for. The
first one freezes the window, and from then on the window is the same to everyone who asks. As
long as nothing is recorded after a report, the aggregator shows what the report shows.
-/

namespace GatewayProbe.Metrics

/-- What an aggregator may be asked to do. -/
inductive Request
  | record (sample : Sample)
  | finish
  | window
  | percentiles (name : String)
  | quantile (name : String) (q : Float)

/-- What an aggregator answers. -/
inductive Reply
  | recorded
  | report (r : Report)
  | window (length : Duration)
  | percentiles (p : Option Percentiles)
  | quantile (millis : Option Float)

/-- A request at a moment. -/
structure Call where
  moment : Nat
  request : Request

/-- A request that changes nothing. -/
def Request.IsQuestion : Request → Prop
  | .record _ | .finish => False
  | .window | .percentiles _ | .quantile _ _ => True

/-- The sample that a request records. -/
def Request.sample? : Request → Option Sample
  | .record sample => some sample
  | _ => none

/-- A question records no sample. -/
theorem Request.IsQuestion.sample?_eq_none {request : Request} (h : request.IsQuestion) :
    request.sample? = none := by
  cases request with
  | record sample => exact h.elim
  | finish => rfl
  | window => rfl
  | percentiles name => rfl
  | quantile name q => rfl

/-- The samples that calls record, in order. -/
def recorded (calls : List Call) : List Sample := calls.filterMap fun c => c.request.sample?

/-- A reply that knows of one window only. -/
def Reply.IsWithin (window : Duration) : Reply → Prop
  | .report r => r.window = window
  | .window length => length = window
  | _ => True

namespace Aggregator

/-- Answer a call. -/
def serve (a : Aggregator) (c : Call) : Reply × Aggregator :=
  match c.request with
  | .record sample => (.recorded, a.record sample)
  | .finish =>
    let frozen := a.freeze c.moment
    (.report (frozen.report c.moment), frozen)
  | .window => (.window (a.window c.moment), a)
  | .percentiles name => (.percentiles (a.percentiles c.moment name), a)
  | .quantile name q => (.quantile (a.quantileMillis name q), a)

/-- The aggregator after some calls. -/
def after (a : Aggregator) (calls : List Call) : Aggregator :=
  calls.foldl (fun a c => (a.serve c).2) a

/-- The answers to some calls, one after the other. -/
def replies (a : Aggregator) : List Call → List Reply
  | [] => []
  | c :: calls => (a.serve c).1 :: (a.serve c).2.replies calls

private theorem after_append (a : Aggregator) (calls more : List Call) :
    a.after (calls ++ more) = (a.after calls).after more := List.foldl_append

private theorem after_cons (a : Aggregator) (c : Call) (calls : List Call) :
    a.after (c :: calls) = (a.serve c).2.after calls := rfl

private theorem replies_append (a : Aggregator) (calls more : List Call) :
    a.replies (calls ++ more) = a.replies calls ++ (a.after calls).replies more := by
  induction calls generalizing a with
  | nil => rfl
  | cons c calls ih => simp [replies, after_cons, ih]

/-- Every call has one reply. -/
@[simp] theorem length_replies (a : Aggregator) (calls : List Call) :
    (a.replies calls).length = calls.length := by
  induction calls generalizing a with
  | nil => rfl
  | cons c calls ih => simp [replies, ih]

/-! ## What calls change -/

/-- A call records its sample, if it has one, and changes no bucket otherwise. -/
theorem buckets_serve (a : Aggregator) (c : Call) :
    (a.serve c).2.buckets = (a.recordAll (recorded [c])).buckets := by
  obtain ⟨moment, request⟩ := c
  cases request <;> rfl

/-- The buckets hold what was recorded, whatever else was asked. -/
theorem buckets_after (a : Aggregator) (calls : List Call) :
    (a.after calls).buckets = (a.recordAll (recorded calls)).buckets := by
  induction calls generalizing a with
  | nil => rfl
  | cons c calls ih =>
    have hsplit : recorded (c :: calls) = recorded [c] ++ recorded calls :=
      List.filterMap_append (l := [c])
    rw [after_cons, ih, hsplit, recordAll_append]
    exact buckets_recordAll_congr (a.buckets_serve c) _

/-- The window is the same at every moment. -/
def IsFrozen (a : Aggregator) (window : Duration) : Prop := ∀ now, a.window now = window

/-- Freezing keeps the window of that moment. -/
theorem isFrozen_freeze (a : Aggregator) (now : Nat) : (a.freeze now).IsFrozen (a.window now) :=
  fun _ => rfl

variable {a : Aggregator} {window : Duration}

/-- No call thaws a window, and each is answered with that window. -/
theorem IsFrozen.serve (h : a.IsFrozen window) (c : Call) :
    (a.serve c).2.IsFrozen window ∧ (a.serve c).1.IsWithin window := by
  obtain ⟨moment, request⟩ := c
  cases request with
  | record sample =>
    refine ⟨fun now => ?_, trivial⟩
    exact (a.window_record sample now).trans (h now)
  | finish => exact ⟨fun _ => h moment, h moment⟩
  | window => exact ⟨h, h moment⟩
  | percentiles name => exact ⟨h, trivial⟩
  | quantile name q => exact ⟨h, trivial⟩

/-- Nor do any number of calls. -/
theorem IsFrozen.run (h : a.IsFrozen window) (calls : List Call) :
    (a.after calls).IsFrozen window ∧ ∀ reply ∈ a.replies calls, reply.IsWithin window := by
  induction calls generalizing a with
  | nil => exact ⟨h, nofun⟩
  | cons c calls ih =>
    obtain ⟨hserved, hreply⟩ := h.serve c
    obtain ⟨hlater, hreplies⟩ := ih hserved
    exact ⟨hlater, List.forall_mem_cons.mpr ⟨hreply, hreplies⟩⟩

/-- Calls that ask for no report leave the window open. -/
theorem window_after (a : Aggregator) {calls : List Call} (h : ∀ c ∈ calls, c.request ≠ .finish)
    (now : Nat) : (a.after calls).window now = a.window now := by
  induction calls generalizing a with
  | nil => rfl
  | cons c calls ih =>
    obtain ⟨hc, hcalls⟩ := List.forall_mem_cons.mp h
    rw [after_cons, ih _ hcalls]
    obtain ⟨moment, request⟩ := c
    cases request with
    | record sample => exact a.window_record sample now
    | finish => exact absurd rfl hc
    | window => rfl
    | percentiles name => rfl
    | quantile name q => rfl

/-- Questions record nothing. -/
theorem recorded_eq_nil {calls : List Call} (h : ∀ c ∈ calls, c.request.IsQuestion) :
    recorded calls = [] :=
  List.filterMap_eq_nil_iff.mpr fun c hc => (h c hc).sample?_eq_none

end Aggregator

/-! ## What reports show -/

/-- A report on exactly some samples: it has the names of the samples in ascending order, and
under each name the latencies of its own samples and the failures among them. -/
structure Report.Reflects (r : Report) (ss : List Sample) : Prop where
  ascending : r.buckets.names.Pairwise (· < ·)
  names : ∀ name, name ∈ r.buckets.names ↔ ∃ s ∈ ss, s.name = name
  histogram : ∀ name, (r.buckets.held name).histogram =
    .ofMicros ((ss.filter fun s => s.name = name).map Sample.micros)
  failures : ∀ name, (r.buckets.held name).failures =
    ss.countP fun s => s.name = name ∧ s.success = false

/-- An aggregator that shows what a report shows, at every moment. -/
structure Aggregator.Mirrors (a : Aggregator) (r : Report) : Prop where
  percentiles : ∀ now name, a.percentiles now name = r.percentiles name
  quantiles : ∀ name q, a.quantileMillis name q = r.quantileMillis name q
  outcomes : ∀ targets,
    Slo.evaluate a.quantileMillis targets = Slo.evaluate r.quantileMillis targets

/-- Samples that are added to a bucket are counted by its histogram. -/
theorem histogram_foldl_add (ss : List Sample) :
    (ss.foldl Bucket.add {}).histogram = .ofMicros (ss.map Sample.micros) := by
  have hadd : ∀ (b : Bucket) (s : Sample),
      b.histogram.record s.micros 1 = (b.add s).histogram := fun _ _ => rfl
  rw [Histogram.ofMicros, List.foldl_map]
  exact (List.foldl_hom Bucket.histogram hadd).symm

namespace Aggregator

/-- The report on a fresh aggregator reflects what was recorded. -/
theorem reflects_report (started now : Nat) (calls : List Call) :
    ((((create started).after calls).freeze now).report now).Reflects (recorded calls) := by
  have hnone : (create started).buckets.Ordered := List.Pairwise.nil
  have hheld (name : String) := held_recordAll_create started (recorded calls) name
  rw [report_freeze, buckets_after]
  refine ⟨(ordered_recordAll hnone _).pairwise_names, fun name => ?_, fun name => ?_,
    fun name => ?_⟩
  · rw [mem_names_recordAll]
    exact or_iff_right (List.not_mem_nil)
  · rw [hheld, histogram_foldl_add]
  · rw [hheld, failures_foldl_add, List.countP_filter]
    refine (Nat.zero_add _).trans (List.countP_congr fun s _ => ?_)
    cases s.success <;> simp

/-- With the same buckets and the same window an aggregator shows what the report shows. -/
theorem mirrors_of_isFrozen {a : Aggregator} {r : Report} (hbuckets : a.buckets = r.buckets)
    (hfrozen : a.IsFrozen r.window) : a.Mirrors r := by
  have hquantiles : a.quantileMillis = r.quantileMillis := by
    funext name q
    rw [quantileMillis, hbuckets, Report.quantileMillis]
  refine ⟨fun now name => ?_, fun name q => ?_, fun targets => ?_⟩
  · rw [percentiles, hbuckets, hfrozen now, Report.percentiles]
  · rw [hquantiles]
  · rw [hquantiles]

/-- A report shows exactly the samples recorded before it; the first one has the window up to its
own moment, and whatever is answered after a report has its window. As long as nothing but
questions follows a report, the aggregator shows what it shows. -/
theorem finish_freezes (started now : Nat) (before after : List Call) :
    let a := create started
    ∃ r earlier later, a.replies (before ++ ⟨now, .finish⟩ :: after) =
        earlier ++ .report r :: later ∧ earlier.length = before.length ∧
      r.Reflects (recorded before) ∧
      ((∀ c ∈ before, c.request ≠ .finish) → r.window = Clock.since started now) ∧
      (∀ reply ∈ later, reply.IsWithin r.window) ∧
      ∀ questions, (∀ c ∈ questions, c.request.IsQuestion) →
        (a.after (before ++ ⟨now, .finish⟩ :: questions)).Mirrors r := by
  intro a
  have hfrozen := (a.after before).isFrozen_freeze now
  refine ⟨((a.after before).freeze now).report now, a.replies before,
    ((a.after before).freeze now).replies after, a.replies_append before _,
    a.length_replies before, reflects_report started now before, fun hopen => ?_,
    (hfrozen.run after).2, fun questions hquestions => ?_⟩
  · exact window_after a hopen now
  · have hbuckets : (a.after (before ++ ⟨now, .finish⟩ :: questions)).buckets =
        (a.after before).buckets := by
      rw [after_append, after_cons, buckets_after, recorded_eq_nil hquestions]
      rfl
    apply mirrors_of_isFrozen hbuckets
    rw [after_append, after_cons]
    exact (hfrozen.run questions).1

/-- A question and, once it has been answered, a further sample and a further report. -/
def resumed : List Call :=
  [⟨8, .percentiles "a"⟩, ⟨9, .record ⟨"a", 4.0, false⟩⟩, ⟨12, .finish⟩]

/-- The first report has one sample and a window of four, which the second report has as well. The
question in between is answered from what the first report shows. -/
theorem finish_freezes_resumed :
    let before : List Call := [⟨5, .record ⟨"a", 2.5, true⟩⟩]
    let question : Call := ⟨8, .percentiles "a"⟩
    (∀ c ∈ before, c.request ≠ .finish) ∧ question.request.IsQuestion ∧
      ∃ r earlier later, (create 3).replies (before ++ ⟨7, .finish⟩ :: resumed) =
          earlier ++ .report r :: later ∧ earlier.length = 1 ∧
        r.Reflects [⟨"a", 2.5, true⟩] ∧ r.window = ⟨4⟩ ∧
        (∀ reply ∈ later, reply.IsWithin ⟨4⟩) ∧
        ((create 3).after (before ++ [⟨7, .finish⟩, question])).Mirrors r := by
  intro before question
  have hopen : ∀ c ∈ before, c.request ≠ .finish := List.forall_mem_singleton.mpr nofun
  have hquestion : ∀ c ∈ [question], c.request.IsQuestion := List.forall_mem_singleton.mpr trivial
  obtain ⟨r, earlier, later, hreplies, hlength, hreflects, hwindow, hwithin, hmirrors⟩ :=
    finish_freezes 3 7 before resumed
  have hfour : r.window = ⟨4⟩ := hwindow hopen
  exact ⟨hopen, trivial, r, earlier, later, hreplies, hlength, hreflects, hfour,
    fun reply hreply => hfour ▸ hwithin reply hreply, hmirrors [question] hquestion⟩

end Aggregator

end GatewayProbe.Metrics
