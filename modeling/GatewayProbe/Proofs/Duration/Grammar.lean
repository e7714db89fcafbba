import GatewayProbe.Duration.Reading
import GatewayProbe.Proofs.Text.Joining

/-!
# The grammar of durations

A duration is written as digits and the name of a unit, with blanks around the two and between
them. The grammar says for every text what it is read as: a duration, or the first of the faults
that it has. So what is read has a length, and a number that is written with a unit is read as that
many of the unit.
-/

namespace GatewayProbe.Duration

open GatewayProbe.Text

/-! ### Units -/

namespace TimeUnit

/-- The names of a unit. Seconds need none. -/
def names : TimeUnit → List String
  | .milliseconds => ["ms"]
  | .seconds => ["", "s"]
  | .minutes => ["m"]
  | .hours => ["h"]

/-- The nanoseconds in a unit. -/
def nanos : TimeUnit → Nat
  | .milliseconds => 1000000
  | .seconds => 1000000000
  | .minutes => 60 * 1000000000
  | .hours => 3600 * 1000000000

/-- Whether the seconds in a number of minutes or hours make a 64-bit word. Nothing is counted in
milliseconds and seconds. -/
def Fits : TimeUnit → Nat → Prop
  | .milliseconds, _ | .seconds, _ => True
  | .minutes, n => n * 60 < 2 ^ 64
  | .hours, n => n * 3600 < 2 ^ 64

/-- A unit is found by its names and by nothing else. -/
theorem ofName?_eq_some_iff {name : String} {unit : TimeUnit} :
    ofName? name.toList = some unit ↔ name ∈ unit.names := by
  constructor
  · intro h
    rw [← String.ofList_toList (s := name)]
    unfold ofName? at h
    split at h <;> cases h
    all_goals
      rename_i hname
      rw [hname]
      decide
  · intro h
    cases unit with
    | milliseconds | minutes | hours =>
      obtain rfl := List.mem_singleton.mp h
      rfl
    | seconds =>
      obtain rfl | rfl := List.mem_pair.mp h
      · rfl
      · rfl

private theorem nanos_pos (unit : TimeUnit) : 0 < unit.nanos := by
  cases unit <;> decide

/-- A number of units is a duration if its seconds make a 64-bit word. -/
theorem times?_of_fits {unit : TimeUnit} {n : Nat} (h : unit.Fits n) :
    unit.times? n = some ⟨n * unit.nanos⟩ := by
  cases unit with
  | milliseconds | seconds => rfl
  | minutes =>
    have hbound : n * 60 ≤ max64 := Nat.le_pred_of_lt h
    rw [times?, if_pos hbound, ofSeconds, Nat.mul_assoc, nanos]
  | hours =>
    have hbound : n * 3600 ≤ max64 := Nat.le_pred_of_lt h
    rw [times?, if_pos hbound, ofSeconds, Nat.mul_assoc, nanos]

private theorem times?_of_not_fits {unit : TimeUnit} {n : Nat} (h : ¬ unit.Fits n) :
    unit.times? n = none := by
  cases unit with
  | milliseconds | seconds => exact absurd trivial h
  | minutes => exact if_neg fun hle => h (Nat.lt_of_le_pred (by decide) hle)
  | hours => exact if_neg fun hle => h (Nat.lt_of_le_pred (by decide) hle)

end TimeUnit

/-! ### The parts of a text -/

/-- A text that is digits, as many as there are, and the name of a unit behind some blanks. -/
structure Parts (text digits : List Char) (name : String) : Prop where
  nonempty : digits ≠ []
  isDigit : ∀ c ∈ digits, c.isDigit = true
  name_head : ∀ c ∈ name.toList.head?, isBlank c = false
  split : ∃ gap, allBlank gap = true ∧ text = digits ++ (gap ++ name.toList) ∧
    ∀ c ∈ (gap ++ name.toList).head?, c.isDigit = false

/-- What a text without blanks around it is read as. The faults stand in the order in which they
are found. -/
inductive Reads : List Char → Except Fault Duration → Prop
  | empty : Reads [] (.error .empty)
  | form {c : Char} {rest : List Char} (h : c.isDigit = false) :
      Reads (c :: rest) (.error (.form (String.ofList (c :: rest))))
  | number {text digits : List Char} {name : String} (h : Parts text digits name)
      (hlarge : 2 ^ 64 ≤ Nat.ofDigitChars 10 digits 0) :
      Reads text (.error (.number (String.ofList text) .tooLarge))
  | unit {text digits : List Char} {name : String} (h : Parts text digits name)
      (hword : Nat.ofDigitChars 10 digits 0 < 2 ^ 64)
      (hunit : ∀ unit : TimeUnit, name ∉ unit.names) : Reads text (.error (.unit name))
  | overflow {text digits : List Char} {name : String} {unit : TimeUnit}
      (h : Parts text digits name) (hword : Nat.ofDigitChars 10 digits 0 < 2 ^ 64)
      (hunit : name ∈ unit.names) (hfits : ¬ unit.Fits (Nat.ofDigitChars 10 digits 0)) :
      Reads text (.error .overflow)
  | zero {text digits : List Char} {name : String} {unit : TimeUnit}
      (h : Parts text digits name) (hzero : Nat.ofDigitChars 10 digits 0 = 0)
      (hunit : name ∈ unit.names) : Reads text (.error .zero)
  | duration {text digits : List Char} {name : String} {unit : TimeUnit}
      (h : Parts text digits name) (hpos : 0 < Nat.ofDigitChars 10 digits 0)
      (hword : Nat.ofDigitChars 10 digits 0 < 2 ^ 64) (hunit : name ∈ unit.names)
      (hfits : unit.Fits (Nat.ofDigitChars 10 digits 0)) :
      Reads text (.ok ⟨Nat.ofDigitChars 10 digits 0 * unit.nanos⟩)

/-- The digits of the parts are those that the text begins with. -/
theorem Parts.takeWhile_eq {text digits : List Char} {name : String} (h : Parts text digits name) :
    text.takeWhile Char.isDigit = digits := by
  obtain ⟨gap, -, rfl, hrest⟩ := h.split
  rw [List.takeWhile_append_of_pos h.isDigit]
  cases hhead : gap ++ name.toList with
  | nil => simp
  | cons c more => simp [hrest c (by rw [hhead]; rfl)]

/-- The name of the parts is what stands behind the digits, without the blanks around it. -/
theorem Parts.trim_dropWhile_eq {text digits : List Char} {name : String}
    (h : Parts text digits name) (htext : ∀ c ∈ text.getLast?, isBlank c = false) :
    trim (text.dropWhile Char.isDigit) = name.toList := by
  obtain ⟨gap, hgap, rfl, hrest⟩ := h.split
  have hdrop : (gap ++ name.toList).dropWhile Char.isDigit = gap ++ name.toList := by
    cases hhead : gap ++ name.toList with
    | nil => rfl
    | cons c more => simp [hrest c (by rw [hhead]; rfl)]
  rw [List.dropWhile_append_of_pos h.isDigit, hdrop, trim_append_left hgap, trim_eq_self_iff]
  refine ⟨h.name_head, fun c hc => htext c ?_⟩
  rw [← List.append_assoc]
  exact List.mem_getLast?_append_of_mem_getLast? hc

/-- A text that begins with a digit and does not end with a blank has parts. -/
theorem exists_parts {text : List Char} (hhead : ∃ c ∈ text.head?, c.isDigit = true)
    (hlast : ∀ c ∈ text.getLast?, isBlank c = false) : ∃ digits name, Parts text digits name := by
  obtain ⟨c, hc, hdigit⟩ := hhead
  obtain ⟨rest, rfl⟩ := List.head?_eq_some_iff.mp hc
  set tail := (c :: rest).dropWhile Char.isDigit with htail
  have hsplit := List.takeWhile_append_dropWhile (p := Char.isDigit) (l := c :: rest)
  obtain ⟨gap, after, hgap, hafter, heq⟩ := exists_eq_trim tail
  -- The text does not end with a blank, so no blank stands behind the name.
  have hnone : after = [] := by
    by_contra hne
    have hblank := List.all_eq_true.mp hafter _ (List.getLast_mem hne)
    have hend : (c :: rest).getLast? = some (after.getLast hne) := by
      rw [← hsplit, ← htail, heq, ← List.append_assoc, List.getLast?_append_of_ne_nil _ hne,
        List.getLast?_eq_some_getLast hne]
    exact Bool.false_ne_true ((hlast _ hend).symm.trans hblank)
  rw [hnone, List.append_nil] at heq
  refine ⟨(c :: rest).takeWhile Char.isDigit, String.ofList (trim tail),
    ?_, ?_, ?_, gap, hgap, ?_, ?_⟩
  · simp [hdigit]
  · exact fun d hd => List.mem_takeWhile_imp hd
  · rw [String.toList_ofList]
    exact isBlank_of_head?_trim
  · rw [String.toList_ofList, ← heq, hsplit]
  · rw [String.toList_ofList, ← heq]
    intro d hd
    have hnot := List.head?_dropWhile_not Char.isDigit (c :: rest)
    rw [← htail, Option.mem_def.mp hd] at hnot
    exact hnot

/-! ### Reading by the grammar -/

section

variable {text digits : List Char} {name : String}

/-- A number that is no 64-bit word is refused before the unit is looked at. -/
theorem readTrimmed_of_large (h : Parts text digits name)
    (hlarge : 2 ^ 64 ≤ Nat.ofDigitChars 10 digits 0) :
    readTrimmed text = .error (.number (String.ofList text) .tooLarge) := by
  have htext : text ≠ [] := by
    obtain ⟨gap, -, rfl, -⟩ := h.split
    simp [h.nonempty]
  have hread : readUnsigned max64 digits = .error .tooLarge := by
    have hdigits := readDigits_eq_error (Nat.zero_le max64) h.isDigit hlarge []
    rwa [List.append_nil, ← readUnsigned_of_isDigit h.nonempty h.isDigit] at hdigits
  simp [readTrimmed, h.takeWhile_eq, htext, h.nonempty, hread]

/-- A 64-bit word is taken as a number of the unit. -/
theorem readTrimmed_of_word (h : Parts text digits name)
    (htext : ∀ c ∈ text.getLast?, isBlank c = false)
    (hword : Nat.ofDigitChars 10 digits 0 < 2 ^ 64) :
    readTrimmed text = ofCount (Nat.ofDigitChars 10 digits 0) name.toList := by
  have hne : text ≠ [] := by
    obtain ⟨gap, -, rfl, -⟩ := h.split
    simp [h.nonempty]
  have hread : readUnsigned max64 digits = .ok (Nat.ofDigitChars 10 digits 0) := by
    rw [readUnsigned_of_isDigit h.nonempty h.isDigit]
    exact readDigits_eq_ok h.isDigit (Nat.le_pred_of_lt hword)
  simp [readTrimmed, h.takeWhile_eq, h.trim_dropWhile_eq htext, hne, h.nonempty, hread]

private theorem ofCount_of_no_unit (hunit : ∀ unit : TimeUnit, name ∉ unit.names) (n : Nat) :
    ofCount n name.toList = .error (.unit name) := by
  have hnone : TimeUnit.ofName? name.toList = none :=
    Option.eq_none_iff_forall_ne_some.mpr fun unit h =>
      hunit unit (TimeUnit.ofName?_eq_some_iff.mp h)
  simp [ofCount, hnone]

variable {unit : TimeUnit} {n : Nat}

private theorem ofCount_of_not_fits (hunit : name ∈ unit.names) (hfits : ¬ unit.Fits n) :
    ofCount n name.toList = .error .overflow := by
  simp [ofCount, TimeUnit.ofName?_eq_some_iff.mpr hunit, TimeUnit.times?_of_not_fits hfits]

private theorem ofCount_zero (hunit : name ∈ unit.names) :
    ofCount 0 name.toList = .error .zero := by
  have hfits : unit.Fits 0 := by cases unit <;> simp [TimeUnit.Fits]
  simp [ofCount, TimeUnit.ofName?_eq_some_iff.mpr hunit, TimeUnit.times?_of_fits hfits, isZero]

private theorem ofCount_of_fits (hunit : name ∈ unit.names) (hfits : unit.Fits n) (hpos : 0 < n) :
    ofCount n name.toList = .ok ⟨n * unit.nanos⟩ := by
  have hlength : n * unit.nanos ≠ 0 := (Nat.mul_pos hpos unit.nanos_pos).ne'
  have hzero : isZero ⟨n * unit.nanos⟩ = false := decide_eq_false hlength
  simp [ofCount, TimeUnit.ofName?_eq_some_iff.mpr hunit, TimeUnit.times?_of_fits hfits, hzero]

variable {r : Except Fault Duration}

/-- What the grammar says of a text is what it is read as. -/
theorem readTrimmed_eq_of_reads (htext : ∀ c ∈ text.getLast?, isBlank c = false)
    (h : Reads text r) : readTrimmed text = r := by
  cases h with
  | empty => rfl
  | form h => simp [readTrimmed, h]
  | number h hlarge => exact readTrimmed_of_large h hlarge
  | unit h hword hunit => rw [readTrimmed_of_word h htext hword, ofCount_of_no_unit hunit]
  | overflow h hword hunit hfits =>
    rw [readTrimmed_of_word h htext hword, ofCount_of_not_fits hunit hfits]
  | zero h hzero hunit =>
    rw [readTrimmed_of_word h htext (by omega), hzero, ofCount_zero hunit]
  | duration h hpos hword hunit hfits =>
    rw [readTrimmed_of_word h htext hword, ofCount_of_fits hunit hfits hpos]

/-- The grammar says something of every text. -/
theorem exists_reads (htext : ∀ c ∈ text.getLast?, isBlank c = false) : ∃ r, Reads text r := by
  cases text with
  | nil => exact ⟨_, .empty⟩
  | cons c rest =>
    by_cases hdigit : c.isDigit = true
    · obtain ⟨digits, name, h⟩ := exists_parts ⟨c, rfl, hdigit⟩ htext
      by_cases hword : Nat.ofDigitChars 10 digits 0 < 2 ^ 64
      · by_cases hunit : ∃ unit : TimeUnit, name ∈ unit.names
        · obtain ⟨unit, hunit⟩ := hunit
          by_cases hfits : unit.Fits (Nat.ofDigitChars 10 digits 0)
          · rcases Nat.eq_zero_or_pos (Nat.ofDigitChars 10 digits 0) with hzero | hpos
            · exact ⟨_, .zero h hzero hunit⟩
            · exact ⟨_, .duration h hpos hword hunit hfits⟩
          · exact ⟨_, .overflow h hword hunit hfits⟩
        · exact ⟨_, .unit h hword (not_exists.mp hunit)⟩
      · exact ⟨_, .number h (Nat.le_of_not_lt hword)⟩
    · exact ⟨_, .form (Bool.eq_false_iff.mpr hdigit)⟩

/-- A text is read as what the grammar says of it and as nothing else. -/
theorem readTrimmed_eq_iff (htext : ∀ c ∈ text.getLast?, isBlank c = false) :
    readTrimmed text = r ↔ Reads text r := by
  constructor
  · rintro rfl
    obtain ⟨r, h⟩ := exists_reads htext
    rwa [readTrimmed_eq_of_reads htext h]
  · exact readTrimmed_eq_of_reads htext

end

/-- A number with a unit has the parts that it is written with. -/
theorem parts_written {unit : TimeUnit} {name : String} (hunit : name ∈ unit.names) (n : Nat) :
    Parts (Nat.toDigits 10 n ++ name.toList) (Nat.toDigits 10 n) name := by
  have hletters : ∀ unit : TimeUnit, ∀ name ∈ unit.names,
      (name.toList.head?.all fun c => !isBlank c && !c.isDigit) = true := by
    intro unit
    cases unit <;> decide
  have hhead : ∀ c ∈ name.toList.head?, isBlank c = false ∧ c.isDigit = false := by
    intro c hc
    simpa using Option.all_eq_true _ _ |>.mp (hletters unit name hunit) c hc
  exact ⟨Nat.toDigits_ne_nil, isDigit_of_mem_toDigits, fun c hc => (hhead c hc).1, [], rfl, rfl,
    fun c hc => (hhead c hc).2⟩

private theorem trims_written {unit : TimeUnit} {name : String} (hunit : name ∈ unit.names)
    (n : Nat) :
    Trims (toString n ++ name).toList (Nat.toDigits 10 n ++ name.toList) := by
  have hletters : ∀ unit : TimeUnit, ∀ name ∈ unit.names, name.toList.all (!isBlank ·) = true := by
    intro unit
    cases unit <;> decide
  have hnone : ∀ c ∈ Nat.toDigits 10 n ++ name.toList, isBlank c = false := by
    refine List.forall_mem_append.mpr ⟨isBlank_of_mem_toDigits, fun c hc => ?_⟩
    simpa using List.all_eq_true.mp (hletters unit name hunit) c hc
  refine ⟨⟨[], [], rfl, rfl, by simp⟩, fun c hc => ?_, fun c hc => ?_⟩
  · exact hnone c (List.mem_of_mem_head? hc)
  · exact hnone c (List.mem_of_mem_getLast? hc)

/-- Every text is read as what the grammar says of it without the blanks around it. -/
theorem parse_eq_iff {s : String} {r : Except Fault Duration} :
    parse s = r ↔ ∃ text, Trims s.toList text ∧ Reads text r := by
  constructor
  · intro h
    exact ⟨_, trim_eq_iff.mp rfl, (readTrimmed_eq_iff isBlank_of_getLast?_trim).mp h⟩
  · rintro ⟨text, htrims, hreads⟩
    rw [parse, trim_eq_iff.mpr htrims]
    exact (readTrimmed_eq_iff htrims.last).mpr hreads

/-- A number that is written with the name of a unit is read as that many of the unit. -/
theorem parse_written {n : Nat} {unit : TimeUnit} {name : String} (hunit : name ∈ unit.names)
    (hpos : 0 < n) (hword : n < 2 ^ 64) (hfits : unit.Fits n) :
    parse (toString n ++ name) = .ok ⟨n * unit.nanos⟩ := by
  have hvalue : Nat.ofDigitChars 10 (Nat.toDigits 10 n) 0 = n := Nat.ofDigitChars_ten_toDigits
  have hreads := Reads.duration (parts_written hunit n) (hvalue.symm ▸ hpos)
    (hvalue.symm ▸ hword) hunit (hvalue.symm ▸ hfits)
  rw [hvalue] at hreads
  exact parse_eq_iff.mpr ⟨_, trims_written hunit n, hreads⟩

/-- Every text is read as what the grammar says of it without the blanks around it. What is read
has a length. A positive 64-bit word that is written with the name of a unit is read as that many
of the unit, as long as its seconds make a 64-bit word. -/
theorem parse_by_grammar :
    (∀ (s : String) (r : Except Fault Duration),
      parse s = r ↔ ∃ text, Trims s.toList text ∧ Reads text r) ∧
    (∀ (s : String) (d : Duration), parse s = .ok d → d.nanos ≠ 0) ∧
    ∀ (n : Nat) (unit : TimeUnit) (name : String), name ∈ unit.names → 0 < n → n < 2 ^ 64 →
      unit.Fits n → parse (toString n ++ name) = .ok ⟨n * unit.nanos⟩ := by
  refine ⟨fun s r => parse_eq_iff, ?_, ?_⟩
  · intro s d h
    obtain ⟨text, -, hreads⟩ := parse_eq_iff.mp h
    cases hreads with
    | @duration _ digits name unit _ hpos => exact (Nat.mul_pos hpos unit.nanos_pos).ne'
  · intro n unit name hunit hpos hword hfits
    exact parse_written hunit hpos hword hfits

/-- The largest number of hours whose seconds make a 64-bit word. -/
theorem parse_by_grammar_longest : "h" ∈ TimeUnit.hours.names ∧
    TimeUnit.hours.Fits 5124095576030431 ∧
    parse (toString 5124095576030431 ++ "h") = .ok ⟨5124095576030431 * TimeUnit.hours.nanos⟩ := by
  have hunit : "h" ∈ TimeUnit.hours.names := by decide
  have hfits : TimeUnit.hours.Fits 5124095576030431 := by
    change 5124095576030431 * 3600 < 2 ^ 64
    decide
  exact ⟨hunit, hfits, parse_by_grammar.2.2 _ _ _ hunit (by decide) (by decide) hfits⟩

end GatewayProbe.Duration
