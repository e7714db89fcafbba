import GatewayProbe.Proofs.Decimal.Layout
import GatewayProbe.Proofs.Json.Fields
import GatewayProbe.Proofs.Load.Totals
import GatewayProbe.Proofs.Metrics.Recorder

/-!
# The report and the summary

A run is told twice, as a document for programs and as lines for readers. Both list the names that
have samples, in ascending order and with the same numbers, and give the same total; the lines say
so where there is none, and likewise for the failures. Both end with the targets in their order.
-/

namespace GatewayProbe.Metrics

/-! ## Buckets made of samples -/

/-- Buckets as recording makes them: the names ascend strictly, and each cell counts a value. -/
structure Buckets.Sound (bs : Buckets) : Prop where
  ordered : bs.Ordered
  counted : ∀ b ∈ bs, ∀ cell ∈ b.2.histogram.cells, 0 < cell.2

/-- Adding to a cell leaves none without a count. -/
theorem Histogram.counted_addTo {low times : Nat} (htimes : 0 < times) {cells : List (Nat × Nat)}
    (h : ∀ cell ∈ cells, 0 < cell.2) : ∀ cell ∈ addTo low times cells, 0 < cell.2 := by
  induction cells with
  | nil => simpa [addTo] using htimes
  | cons c rest ih =>
    obtain ⟨l, n⟩ := c
    obtain ⟨hc, hrest⟩ := List.forall_mem_cons.mp h
    simp only [addTo]
    split_ifs
    · exact List.forall_mem_cons.mpr ⟨htimes, h⟩
    · exact List.forall_mem_cons.mpr ⟨Nat.add_pos_left hc _, hrest⟩
    · exact List.forall_mem_cons.mpr ⟨hc, ih hrest⟩

/-- A histogram without empty cells counts something as soon as it has a cell. -/
theorem Histogram.count_pos_iff {h : Histogram} (hcells : ∀ cell ∈ h.cells, 0 < cell.2) :
    0 < h.count ↔ h.cells ≠ [] := by
  rw [Histogram.count, Nat.pos_iff_ne_zero, ne_eq, List.sum_eq_zero_iff]
  constructor
  · rintro hsum hnone
    exact hsum (by simp [hnone])
  · intro hne hsum
    obtain ⟨cell, hcell⟩ := List.exists_mem_of_ne_nil _ hne
    exact (hcells cell hcell).ne' (hsum _ (List.mem_map_of_mem hcell))

/-- No bucket is sound, and so is an empty one that is made for a name. -/
theorem Aggregator.sound_create (now : Nat) : (create now).buckets.Sound :=
  ⟨List.Pairwise.nil, nofun⟩

private theorem Aggregator.sound_ensure {a : Aggregator} (h : a.buckets.Sound) (name : String) :
    (a.ensure name).buckets.Sound :=
  ⟨h.ordered.update, Buckets.forall_update (P := fun b => ∀ cell ∈ b.histogram.cells, 0 < cell.2)
    name nofun (fun _ hb => hb) h.counted⟩

/-- Recording keeps buckets sound. -/
theorem Aggregator.sound_recordMicros {a : Aggregator} (h : a.buckets.Sound) (name : String)
    (micros : Nat) (success : Bool) (times : Nat) :
    (a.recordMicros name micros success times).buckets.Sound := by
  unfold recordMicros
  split_ifs with hnone
  · exact h
  · refine ⟨h.ordered.update, ?_⟩
    refine Buckets.forall_update (P := fun b => ∀ cell ∈ b.histogram.cells, 0 < cell.2) name
      nofun (fun b hb => ?_) h.counted
    simp only [Bucket.record, Histogram.record, if_neg hnone]
    exact Histogram.counted_addTo (Nat.pos_of_ne_zero hnone) hb

/-- So whatever is recorded, the buckets are sound. -/
theorem Aggregator.sound_recordAll {a : Aggregator} (h : a.buckets.Sound) (ss : List Sample) :
    (a.recordAll ss).buckets.Sound := by
  induction ss generalizing a with
  | nil => exact h
  | cons s ss ih => exact ih (sound_recordMicros h _ _ _ _)

/-! ## The names that have samples -/

/-- Members that are chosen and changed stand in the order of those they come from. -/
theorem forall₂_filterMap_filter {α β : Type} {f : α → Option β} {p : α → Bool}
    {r : β → α → Prop} {l : List α} (hp : ∀ a ∈ l, (f a).isSome = p a)
    (hr : ∀ a b, f a = some b → r b a) : List.Forall₂ r (l.filterMap f) (l.filter p) := by
  induction l with
  | nil => exact .nil
  | cons a l ih =>
    obtain ⟨ha, hl⟩ := List.forall_mem_cons.mp hp
    cases hfa : f a with
    | none =>
      rw [List.filterMap_cons_none hfa, List.filter_cons_of_neg (by rw [← ha, hfa]; simp)]
      exact ih hl
    | some b =>
      rw [List.filterMap_cons_some hfa, List.filter_cons_of_pos (by rw [← ha, hfa]; rfl)]
      exact .cons (hr a b hfa) (ih hl)

/-- The percentiles of a bucket count its samples and failures. -/
theorem Bucket.counts_of_percentiles {b : Bucket} {window : Duration} {p : Percentiles}
    (h : b.percentiles window = some p) :
    p.count = b.histogram.count ∧ p.failures = b.failures := by
  have hcells := (b.isSome_percentiles_iff window).mp (Option.isSome_of_eq_some h)
  obtain ⟨p', hp', hcounts⟩ := exists_percentiles_of_ne_nil hcells window
  obtain rfl := Option.some.inj (h.symm.trans hp')
  exact hcounts

/-- A name with its percentiles stands for a bucket of this name with as many samples and
failures. -/
structure RowOf (row : String × Percentiles) (b : String × Bucket) : Prop where
  name : row.1 = b.1
  count : row.2.count = b.2.histogram.count
  failures : row.2.failures = b.2.failures

namespace Report

variable {r : Report}

/-- The names with percentiles are those of the buckets with samples, once each and in order. -/
theorem endpoints_forall₂ (h : r.buckets.Sound) : List.Forall₂ RowOf r.endpoints
    (r.buckets.filter fun b => 0 < b.2.histogram.count) := by
  have hrows : r.endpoints =
      r.buckets.filterMap fun b => (b.2.percentiles r.window).map fun p => (b.1, p) := by
    rw [endpoints, Buckets.names, List.filterMap_map]
    refine List.filterMap_congr fun b hb => ?_
    have hfound : r.percentiles b.1 = b.2.percentiles r.window := by
      rw [percentiles, h.ordered.find?_of_mem hb]
      rfl
    rw [Function.comp_apply, hfound]
  rw [hrows]
  refine forall₂_filterMap_filter (fun b hb => ?_) fun b row hrow => ?_
  · rw [Option.isSome_map, Bool.eq_iff_iff, Bucket.isSome_percentiles_iff, decide_eq_true_iff,
      Histogram.count_pos_iff (h.counted b hb)]
  · obtain ⟨p, hp, rfl⟩ := Option.map_eq_some_iff.mp hrow
    obtain ⟨hcount, hfailures⟩ := Bucket.counts_of_percentiles hp
    exact ⟨rfl, hcount, hfailures⟩

/-- So they ascend strictly. -/
theorem endpoints_ascending (h : r.buckets.Sound) :
    (r.endpoints.map Prod.fst).Pairwise (· < ·) := by
  have hnames : r.endpoints.map Prod.fst =
      (r.buckets.filter fun b => 0 < b.2.histogram.count).map Prod.fst := by
    refine List.forall₂_eq_eq_eq ▸ ?_
    exact List.forall₂_map_left_iff.mpr (List.forall₂_map_right_iff.mpr
      ((endpoints_forall₂ h).imp fun _ _ hrow => hrow.name))
  rw [hnames]
  exact List.pairwise_map.mpr (h.ordered.sublist List.filter_sublist)

/-- The total is the sum over these names, up to the largest number that is counted to. -/
theorem totalRequests_eq_sum (h : r.buckets.Sound) :
    r.totalRequests = min (r.endpoints.map fun row => row.2.count).sum (2 ^ 64 - 1) := by
  have hcounts : r.endpoints.map (fun row => row.2.count) =
      (r.buckets.filter fun b => 0 < b.2.histogram.count).map fun b => b.2.histogram.count := by
    refine List.forall₂_eq_eq_eq ▸ ?_
    exact List.forall₂_map_left_iff.mpr (List.forall₂_map_right_iff.mpr
      ((endpoints_forall₂ h).imp fun _ _ hrow => hrow.count))
  have hsum (bs : Buckets) : (bs.map fun b => b.2.histogram.count).sum =
      ((bs.filter fun b => 0 < b.2.histogram.count).map fun b => b.2.histogram.count).sum := by
    induction bs with
    | nil => rfl
    | cons b bs ih =>
      by_cases hb : 0 < b.2.histogram.count
      · simp [hb, ih]
      · simp [Nat.eq_zero_of_not_pos hb, ih]
  rw [totalRequests, hcounts, ← hsum]

end Report

end GatewayProbe.Metrics

namespace GatewayProbe.Json.Document

/-! ## Documents that are looked into -/

/-- The member of a record with a name. -/
def member? (name : String) : Document → Option Document
  | .record members => members.lookup name
  | _ => none

/-- The items of a list. -/
def items? : Document → Option (List Document)
  | .list items => some items
  | _ => none

/-- A number of things. -/
def count? : Document → Option Nat
  | .count n => some n
  | _ => none

/-- A double. -/
def real? : Document → Option Float
  | .real x => some x
  | _ => none

/-- A text. -/
def text? : Document → Option String
  | .text s => some s
  | _ => none

end GatewayProbe.Json.Document

namespace GatewayProbe.Load

open GatewayProbe.Json GatewayProbe.Metrics GatewayProbe.Text

/-- The buckets that a run leaves behind are sound. -/
theorem Run.Audited.sound {r : Run} {plan : Plan} {es : List Effect} (h : r.Audited plan es) :
    r.outcome.report.buckets.Sound := by
  change r.aggregator.buckets.Sound
  rw [h.aggregator]
  exact Aggregator.sound_recordAll (Aggregator.sound_create r.started) _

/-! ## What the report tells -/

/-- What is told of a run. -/
structure Story where
  /-- The names that have samples, with their numbers. -/
  rows : List (String × Percentiles)
  total : Nat
  /-- The failures of each kind. -/
  errors : List Nat
  targets : List Document

/-- The name and the numbers that an entry of a report holds. -/
def row? (entry : Document) : Option (String × Percentiles) := do
  let p50 ← (← entry.member? "p50").real?
  let p90 ← (← entry.member? "p90").real?
  let p95 ← (← entry.member? "p95").real?
  let p99 ← (← entry.member? "p99").real?
  let rate ← (← entry.member? "rps").real?
  let count ← (← entry.member? "count").count?
  let failures ← (← entry.member? "failures").count?
  return (← (← entry.member? "name").text?, ⟨p50, p90, p95, p99, count, rate, failures⟩)

/-- The names under which a report holds the failures of each kind. -/
def errorNames : List String :=
  ["transport", "malformed", "unknown_status", "poll_timeout", "task_failed"]

/-- The story that a report tells. -/
def Story.ofReport? (report : Document) : Option Story := do
  let rows ← (← (← report.member? "endpoints").items?).mapM row?
  let total ← (← report.member? "total_requests").count?
  let errors ← report.member? "errors"
  let errors ← errorNames.mapM fun name => do (← errors.member? name).count?
  let targets ← (← report.member? "slos").items?
  return ⟨rows, total, errors, targets⟩

/-- The failures of each kind, in the order of the report. -/
def errorCounts (t : Tally) : List Nat :=
  [t.transport, t.malformed, t.unknownStatus, t.pollTimeout, t.taskFailed]

private theorem row?_endpointDocument (name : String) (p : Percentiles) :
    row? (endpointDocument name p) = some (name, p) := rfl

private theorem mapM_row? (rows : List (String × Percentiles)) :
    (rows.map fun row => endpointDocument row.1 row.2).mapM row? = some rows :=
  mapM_eq_some_iff.mpr (List.forall₂_map_left_iff.mpr
    (List.forall₂_same.mpr fun row _ => row?_endpointDocument row.1 row.2))

/-- The report of a run tells its endpoints, its total, its failures and its targets. -/
theorem ofReport?_reportDocument (startedAt : String) (o : Outcome) (targets : List Slo.Outcome) :
    Story.ofReport? (reportDocument startedAt o targets) =
      some ⟨o.report.endpoints, o.report.totalRequests, errorCounts o.tally,
        targets.map (·.document)⟩ := by
  change (List.mapM row? (o.report.endpoints.map fun row => endpointDocument row.1 row.2)).bind
    (fun rows => some (Story.mk rows o.report.totalRequests (errorCounts o.tally)
      (targets.map Slo.Outcome.document))) = _
  rw [mapM_row?, Option.bind_some]

/-! ## What the summary shows -/

/-- A line begins with the name of a row, and the words behind those of the name are its numbers. -/
structure RowShown (row : String × Percentiles) (line : String) : Prop where
  name : row.1.toList <+: line.toList
  words : wordsOf line = wordsOf row.1 ++ [toString row.2.count, toString row.2.failures,
    Decimal.fixed 1 row.2.p50, Decimal.fixed 1 row.2.p90, Decimal.fixed 1 row.2.p95,
    Decimal.fixed 1 row.2.p99, Decimal.fixed 2 row.2.rate]

private theorem isWord_toString (n : Nat) : IsWord (toString n).toList := by
  have hdigits : (toString n).toList = Nat.toDigits 10 n := Nat.toList_repr
  rw [hdigits]
  exact ⟨Nat.toDigits_ne_nil, isBlank_of_mem_toDigits⟩

private theorem rowShown_tableRow (row : String × Percentiles) :
    RowShown row (tableRow row.1 row.2) where
  name := by
    rw [tableRow, alignLeft]
    simp
  words := by
    have hnumber (n : Nat) := wordsOf_eq_singleton (isWord_toString n)
    have hfixed (places : Nat) (x : Float) :=
      wordsOf_eq_singleton (Decimal.isWord_fixed places x)
    rw [tableRow, wordsOf_intercalate]
    simp only [List.flatMap_cons, List.flatMap_nil, wordsOf_alignLeft, wordsOf_alignRight, hnumber,
      hfixed, List.singleton_append]

/-- The table of the summary: a row for each name, and the total; or a line that says there is
none. -/
inductive TableShown (rows : List (String × Percentiles)) (total : Nat) : List String → Prop
  | none (h : rows = []) : TableShown rows total ["No requests recorded."]
  | rows {lines : List String} (hne : rows ≠ []) (h : List.Forall₂ RowShown rows lines) :
      TableShown rows total (titleRow :: lines ++ [totalLine total])

/-- The line of the summary that gives the number of all failures. -/
def errorLine (total : Nat) : String := "Errors: " ++ toString total

/-- What the summary calls the kinds of failures. -/
def errorTitles : List String :=
  ["  Transport: ", "  Malformed response: ", "  Unknown status: ", "  Poll timeout: ",
    "  Task failed: "]

/-- The failures in the summary: their number and those of each kind; or a line that says there
is none. The number stops at the largest one that is counted to. -/
inductive ErrorsShown (errors : List Nat) : List String → Prop
  | none (h : ∀ n ∈ errors, n = 0) : ErrorsShown errors ["Errors: none"]
  | kinds (h : ∃ n ∈ errors, n ≠ 0) : ErrorsShown errors
      (errorLine (min errors.sum (2 ^ 64 - 1)) ::
        (errorTitles.zip errors).map fun kind => kind.1 ++ toString kind.2)

private theorem tableShown_tableLines (r : Report) :
    TableShown r.endpoints r.totalRequests (tableLines r) := by
  unfold tableLines
  split
  · rename_i hnone
    exact .none hnone
  · rename_i rows hrows
    refine .rows (fun hnone => hrows hnone) ?_
    exact List.forall₂_map_right_iff.mpr (List.forall₂_same.mpr fun row _ => rowShown_tableRow row)

/-- The total of the errors is their sum, up to the greatest number it can hold. -/
theorem total_eq (t : Tally) : t.total = min (errorCounts t).sum (2 ^ 64 - 1) := by
  simp [Tally.total, errorCounts, Nat.add_assoc]

private theorem errorsShown_tallyLines (t : Tally) :
    ErrorsShown (errorCounts t) (tallyLines t) := by
  have hzero : t.total = 0 ↔ ∀ n ∈ errorCounts t, n = 0 := by
    rw [total_eq, ← List.sum_eq_zero_iff]
    omega
  unfold tallyLines
  split_ifs with hnone
  · exact .none (hzero.mp hnone)
  · have hsome : ∃ n ∈ errorCounts t, n ≠ 0 := by simpa using mt hzero.mpr hnone
    rw [total_eq]
    exact .kinds hsome

/-! ## Lines that say there is none -/

/-- A line that is neither a row of a table nor one that gives a number of failures, and begins as
no other line of a summary does. -/
structure IsNotice (line : String) : Prop where
  first : line.toList.head? ∉ [some 'W', some 'S', some 'T', some ' ']
  words : (wordsOf line).length ≤ 6
  noNumber : ∀ n, line ≠ errorLine n

/-- The number of all failures is no word. -/
theorem errorLine_ne (n : Nat) : errorLine n ≠ "Errors: none" := by
  intro heq
  have hlist : "Errors: ".toList ++ (toString n).toList = "Errors: ".toList ++ "none".toList := by
    rw [← String.toList_append, ← String.toList_append]
    exact congrArg String.toList heq
  have hdigits : Nat.toDigits 10 n = "none".toList :=
    (Nat.toList_repr).symm.trans (List.append_cancel_left hlist)
  have hletter : 'n' ∈ Nat.toDigits 10 n := hdigits ▸ (by decide)
  exact absurd (isDigit_of_mem_toDigits 'n' hletter) (by decide)

/-- What begins with a text that is not empty begins with its first character. -/
theorem head?_append {s : String} {c : Char} (h : s.toList.head? = some c) (t : String) :
    (s ++ t).toList.head? = some c := by
  rw [String.toList_append, List.head?_append, h, Option.some_or]

private theorem isNotice_noRequests : IsNotice "No requests recorded." where
  first := by decide
  words := by decide
  noNumber n heq := by
    have hhead : (errorLine n).toList.head? = some 'E' := head?_append (by decide) _
    exact absurd (heq ▸ hhead) (by decide)

private theorem isNotice_noErrors : IsNotice "Errors: none" where
  first := by decide
  words := by decide
  noNumber n heq := errorLine_ne n heq.symm

/-- The first lines of a summary begin otherwise. -/
theorem IsNotice.not_mem_headLines {notice : String} (h : IsNotice notice) (o : Outcome) :
    notice ∉ headLines o := by
  have hwindow (a b c d e : String) :
      ("Window: " ++ a ++ b ++ c ++ d ++ e).toList.head? = some 'W' :=
    head?_append (head?_append (head?_append (head?_append (head?_append (by decide) _) _) _) _) _
  have hskipped (a : String) :
      ("Status checks skipped (no task seen yet): " ++ a).toList.head? = some 'S' :=
    head?_append (by decide) _
  intro hmem
  refine h.first ?_
  unfold headLines at hmem
  split_ifs at hmem
  · rw [List.mem_singleton.mp hmem, hwindow]
    exact List.mem_cons_self
  · obtain rfl | hmem := List.mem_cons.mp hmem
    · rw [hwindow]
      exact List.mem_cons_self
    · rw [List.mem_singleton.mp hmem, hskipped]
      exact List.mem_cons_of_mem _ List.mem_cons_self

/-- So do the lines of the targets. -/
theorem IsNotice.ne_line {notice : String} (h : IsNotice notice) (t : Slo.Outcome) :
    notice ≠ t.line := by
  have hfirst : t.line.toList.head? = some 'W' ∨ t.line.toList.head? = some 'S' := by
    unfold Slo.Outcome.line
    dsimp only
    split
    · right
      repeat refine head?_append ?_ _
      decide
    · left
      repeat refine head?_append ?_ _
      decide
    · left
      repeat refine head?_append ?_ _
      decide
  rintro rfl
  refine h.first ?_
  obtain hfirst | hfirst := hfirst <;> simp [hfirst]

/-- A row of the table has more than six words. -/
theorem RowShown.lt_length_words {row : String × Percentiles} {line : String}
    (h : RowShown row line) : 6 < (wordsOf line).length := by
  rw [h.words, List.length_append]
  simp

/-- Of the lines of a table one alone is such a line. -/
theorem TableShown.notice_mem_iff {rows : List (String × Percentiles)} {total : Nat}
    {lines : List String} (h : TableShown rows total lines) {notice : String}
    (hnotice : IsNotice notice) :
    notice ∈ lines ↔ notice = "No requests recorded." ∧ rows = [] := by
  cases h with
  | none h => simp [h]
  | rows hne h =>
    refine ⟨fun hmem => ?_, fun hnone => absurd hnone.2 hne⟩
    have htitle : 6 < (wordsOf titleRow).length := by decide +kernel
    obtain hmem | hmem := List.mem_append.mp hmem
    · refine absurd hnotice.words (Nat.not_le.mpr ?_)
      obtain rfl | hmem := List.mem_cons.mp hmem
      · exact htitle
      · obtain ⟨row, -, hrow⟩ := exists_of_mem_right h hmem
        exact hrow.lt_length_words
    · have hfirst : (totalLine total).toList.head? = some 'T' := head?_append (by decide) _
      obtain rfl := List.mem_singleton.mp hmem
      exact absurd (by simp [hfirst]) hnotice.first

/-- So of the lines on the failures. -/
theorem ErrorsShown.notice_mem_iff {errors : List Nat} {lines : List String}
    (h : ErrorsShown errors lines) {notice : String} (hnotice : IsNotice notice) :
    notice ∈ lines ↔ notice = "Errors: none" ∧ ∀ n ∈ errors, n = 0 := by
  cases h with
  | none h => simpa using fun _ => h
  | kinds h =>
    obtain ⟨n, hn, hne⟩ := h
    refine ⟨fun hmem => ?_, fun hnone => absurd (hnone.2 n hn) hne⟩
    obtain heq | hmem := List.mem_cons.mp hmem
    · exact absurd heq (hnotice.noNumber _)
    · obtain ⟨kind, hkind, rfl⟩ := List.mem_map.mp hmem
      have htitles : ∀ title ∈ errorTitles, title.toList.head? = some ' ' := by decide
      have hfirst := head?_append (htitles kind.1 (List.of_mem_zip hkind).1) (toString kind.2)
      exact absurd (by rw [hfirst]; decide) hnotice.first

/-! ## The same story -/

/-- A story is that of a report: its rows stand for the buckets that have samples, once each and
in ascending order of the names, and its total is the sum of their counts, as far as is counted. -/
structure Story.IsOf (s : Story) (r : Report) : Prop where
  ascending : (s.rows.map Prod.fst).Pairwise (· < ·)
  buckets : List.Forall₂ RowOf s.rows (r.buckets.filter fun b => 0 < b.2.histogram.count)
  total : s.total = min (s.rows.map fun row => row.2.count).sum (2 ^ 64 - 1)

/-- Lines show a story with targets: behind the first ones a table with its rows and its total,
then the failures, then a line for each target; and they say that there are no requests or no
failures exactly if there are none. -/
structure Story.ShownBy (s : Story) (o : Outcome) (targets : List Slo.Outcome)
    (lines : List String) : Prop where
  parts : ∃ table errors, lines = headLines o ++ table ++ errors ++ targets.map (·.line) ∧
    TableShown s.rows s.total table ∧ ErrorsShown s.errors errors
  noRequests_iff : "No requests recorded." ∈ lines ↔ s.rows = []
  noErrors_iff : "Errors: none" ∈ lines ↔ ∀ n ∈ s.errors, n = 0

private theorem Story.shownBy_of_parts {s : Story} {o : Outcome} {targets : List Slo.Outcome}
    {lines table errors : List String}
    (hlines : lines = headLines o ++ table ++ errors ++ targets.map (·.line))
    (htable : TableShown s.rows s.total table) (herrors : ErrorsShown s.errors errors) :
    s.ShownBy o targets lines := by
  have hmem {notice : String} (h : IsNotice notice) : notice ∈ lines ↔
      notice = "No requests recorded." ∧ s.rows = [] ∨
        notice = "Errors: none" ∧ ∀ n ∈ s.errors, n = 0 := by
    rw [hlines, List.mem_append, List.mem_append, List.mem_append, htable.notice_mem_iff h,
      herrors.notice_mem_iff h, or_iff_right (h.not_mem_headLines o)]
    refine or_iff_left fun hline => ?_
    obtain ⟨t, -, ht⟩ := List.mem_map.mp hline
    exact h.ne_line t ht.symm
  refine ⟨⟨table, errors, hlines, htable, herrors⟩, ?_, ?_⟩
  · rw [hmem isNotice_noRequests]
    simp
  · rw [hmem isNotice_noErrors]
    simp

/-- The report of a run and the lines of its summary tell the same story, and it is that of the
samples. -/
theorem renderings_agree {o : Outcome} (h : o.report.buckets.Sound) (startedAt : String)
    (targets : List Slo.Outcome) :
    ∃ s, Story.ofReport? (reportDocument startedAt o targets) = some s ∧ s.IsOf o.report ∧
      s.targets = targets.map (·.document) ∧ s.ShownBy o targets (summaryLines o targets) := by
  refine ⟨_, ofReport?_reportDocument startedAt o targets, ?_, rfl, ?_⟩
  · exact ⟨Report.endpoints_ascending h, Report.endpoints_forall₂ h, Report.totalRequests_eq_sum h⟩
  · exact Story.shownBy_of_parts rfl (tableShown_tableLines _) (errorsShown_tallyLines _)

/-- A run with a bucket that nothing was counted in, and one that counts three failures. -/
def sparseOutcome : Outcome where
  usersStarted := 1
  iterations := 3
  idleChecks := 0
  report := (((Aggregator.create 0).ensure "a").recordMicros "b" 1500 false 3).report 1000000000
  tally := { transport := 3 }

/-- Of the two buckets one is told of. -/
theorem renderings_agree_sparse : sparseOutcome.report.buckets.Sound ∧
    ∃ s, Story.ofReport? (reportDocument "" sparseOutcome []) = some s ∧
      s.IsOf sparseOutcome.report ∧ s.ShownBy sparseOutcome [] (summaryLines sparseOutcome []) := by
  have hsound : sparseOutcome.report.buckets.Sound :=
    Aggregator.sound_recordMicros (Aggregator.sound_ensure (Aggregator.sound_create 0) "a") _ _ _ _
  obtain ⟨s, hs, hof, -, hshown⟩ := renderings_agree hsound "" []
  exact ⟨hsound, s, hs, hof, hshown⟩

/-- A run with more failures than are counted to. -/
def floodedOutcome : Outcome where
  usersStarted := 1
  iterations := 1
  idleChecks := 0
  report := ⟨.ofSeconds 1, []⟩
  tally := ⟨2 ^ 62, 2 ^ 62, 2 ^ 62, 2 ^ 62, 0⟩

/-- The number of failures that the summary gives is not always the sum of those in the report. -/
theorem errors_not_summed : ¬ ∀ o startedAt targets s, o.report.buckets.Sound →
    Story.ofReport? (reportDocument startedAt o targets) = some s → (∃ n ∈ s.errors, n ≠ 0) →
      errorLine s.errors.sum ∈ summaryLines o targets := by
  intro hall
  have hnone : floodedOutcome.report.buckets.Sound := ⟨List.Pairwise.nil, nofun⟩
  have hmem := hall floodedOutcome "" [] _ hnone (ofReport?_reportDocument "" floodedOutcome [])
    ⟨2 ^ 62, by decide, by decide⟩
  exact absurd hmem (by decide +kernel)

end GatewayProbe.Load
