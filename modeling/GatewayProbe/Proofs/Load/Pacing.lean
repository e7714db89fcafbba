import Mathlib.Data.Set.Card
import GatewayProbe.Proofs.Decimal.Arithmetic
import GatewayProbe.Proofs.Load.Chronicle
import GatewayProbe.Proofs.Load.Punctuality

/-!
# The pace of iterations

The slots of a user are laid out from its start, whatever its iterations take: the one after
`k` iterations lies `k` over the rate seconds after the start. An iteration begins in its slot,
or when the one before it has ended if that is later, and only before the deadline and before
any shutdown. In a punctual run it begins at once then, and it does begin unless the deadline or
a shutdown comes first. The runs that are carried out are punctual.
-/

namespace GatewayProbe.Load

open GatewayProbe.Gateway
open Decimal (Denotes halfEven rounded)

/-- A rate denotes a positive number. -/
theorem exists_denotes_rate {rate : Float} (h : isRate rate = true) :
    ∃ q : ℚ, 0 < q ∧ Denotes rate q := by
  obtain ⟨hfinite, hpos⟩ := Bool.and_eq_true_iff.mp h
  have hunpacked : (Decimal.read rate).unpacked.isFinite = true := by
    rw [← Decimal.unpack_eq]
    exact hfinite
  cases hread : Decimal.read rate with
  | nan => exact absurd (hread ▸ hunpacked) (by decide)
  | infinite negative => exact absurd (hread ▸ hunpacked) (by cases negative <;> decide)
  | finite negative m =>
    have hdenotes : Denotes rate (m.signed negative) := by
      rw [Denotes, Decimal.value?, hread]
      rfl
    exact ⟨_, (Denotes.zero.lt_iff hdenotes).mp (of_decide_eq_true hpos), hdenotes⟩

/-- No time passes before the first slot. -/
theorem slotOffset_zero {rate : Float} (h : isRate rate = true) :
    slotOffset rate 0 = some ⟨0⟩ := by
  obtain ⟨q, hq, hdenotes⟩ := exists_denotes_rate h
  obtain ⟨m, hm, _, _, hunpack⟩ := hdenotes.exists_unpack hq
  have hdiv : Decimal.ofNat 0 / rate = .ofModel (Float.Model.pack
      (Float.Model.UnpackedFloat.div Float.Model.Format.binary64 (0.0 : Float).toModel.unpack
        rate.toModel.unpack)) := rfl
  have hzero : (0.0 : Float).toModel.unpack = .zero .positive := by
    rw [Decimal.unpack_eq]
    rfl
  rw [slotOffset, hdiv, hunpack, hzero]
  change Duration.ofSecondsFloat (.ofModel (Float.Model.pack (.zero .positive))) = _
  decide +kernel

/-- The slot after some iterations lies as many seconds after the start as their number divided
by the rate, which is rounded to a double and then to the nearest nanosecond. -/
theorem nanos_slotOffset {rate : Float} {q : ℚ} (hrate : Denotes rate q) (hq : 0 < q) {k : ℕ}
    (hk : 0 < k) (hexact : k < 2 ^ 53) (hleast : 2 ^ (-1074 : ℤ) ≤ k / q)
    (hmost : k / q < 2 ^ (1023 : ℤ)) {offset : Duration} (h : slotOffset rate k = some offset) :
    (offset.nanos : ℤ) = halfEven (rounded (k / q) * 1000000000) := by
  have hself : rounded (k : ℚ) = k := by
    have hscaled := Decimal.rounded_eq_self hk hexact (e := 0) (by norm_num)
    rwa [zpow_zero, mul_one] at hscaled
  have hcount : Denotes (Decimal.ofNat k) k := by
    have hlt : (k : ℚ) < 2 ^ (53 : ℤ) := by exact_mod_cast hexact
    have hnearest := Denotes.ofNat hk (hlt.trans (zpow_lt_zpow_right₀ (by norm_num) (by norm_num)))
    rwa [hself] at hnearest
  have hquotient := hcount.div hrate (by exact_mod_cast hk) hq hleast hmost
  obtain ⟨m, hread, _, _, hvalue⟩ := hquotient.exists_read (Decimal.rounded_pos hleast)
  obtain ⟨hden, hscaled⟩ := Decimal.scaleBy_eq (m.mantissa * 1000000000) Nat.one_pos m.exponent
  have hnanos : ((m.quotient 1000000000).1 : ℚ) / (m.quotient 1000000000).2 =
      rounded (k / q) * 1000000000 := by
    rw [Decimal.Binary.quotient, hscaled, ← hvalue, Decimal.Binary.value]
    push_cast
    ring
  unfold slotOffset Duration.ofSecondsFloat at h
  simp only [hread, Bool.false_and, Bool.false_eq_true, if_false] at h
  split_ifs at h
  obtain rfl := Option.some.inj h
  rw [← hnanos]
  exact Decimal.roundQuotient_eq _ hden

/-- The slot itself lies that long after the start of its user. -/
theorem slot_eq {plan : Plan} (hrate : isRate plan.rate = true) {q : ℚ}
    (hdenotes : Denotes plan.rate q) {k : ℕ} (hk : 0 < k) (hexact : k < 2 ^ 53)
    (hleast : 2 ^ (-1074 : ℤ) ≤ k / q) (hmost : k / q < 2 ^ (1023 : ℤ)) {start slot : ℕ}
    (h : slot? start plan.rate k = some slot) :
    (slot : ℤ) = start + halfEven (rounded (k / q) * 1000000000) := by
  obtain ⟨q', hq', hdenotes'⟩ := exists_denotes_rate hrate
  have hsame : q = q' :=
    WithTop.coe_injective (WithBot.coe_injective (Option.some.inj (hdenotes.symm.trans hdenotes')))
  obtain ⟨offset, hoffset, rfl⟩ := Option.map_eq_some_iff.mp h
  rw [← nanos_slotOffset hdenotes (hsame ▸ hq') hk hexact hleast hmost hoffset]
  exact Nat.cast_add start offset.nanos

namespace Diary

/-- Whether an iteration is under way. -/
def isOpen : Diary → Bool
  | [] | (_, .start) :: _ | (_, .ended) :: _ => false
  | _ => true

end Diary

/-- When an iteration begins after `k` others have: at the start, or in its slot and after the
one before it has ended. -/
inductive Opening (plan : Plan) (deadline start : Nat) (onTime : Prop) (endings : List Nat) :
    Nat → Nat → Prop where
  | first : Opening plan deadline start onTime endings 0 start
  | further {k ended slot begun : Nat} (hended : endings[k]? = some ended)
    (hslot : slot? start plan.rate (k + 1) = some slot) (hearly : slot < deadline)
    (hbegun : max ended (Clock.wake slot) ≤ begun)
    (hprompt : onTime → begun ≤ max ended (Clock.wake slot)) :
    Opening plan deadline start onTime endings (k + 1) begun

section Told

variable {plan : Plan} {deadline start : Nat} {onTime : Prop} {d : Diary}

/-- Every iteration that has begun has ended, but for the one under way. -/
theorem Told.length_beginnings (h : Told plan deadline start onTime d) :
    d.beginnings.length = d.endings.length + if d.isOpen then 1 else 0 := by
  induction h with
  | nil => rfl
  | @cons before now deed _ hnext ih =>
    rw [Diary.beginnings_cons, Diary.endings_cons]
    cases hnext <;> simp_all [Diary.isOpen]

/-- Ends of later iterations change nothing about a beginning. -/
theorem Opening.mono {endings more : List Nat} {k begun : Nat}
    (h : Opening plan deadline start onTime endings k begun) :
    Opening plan deadline start onTime (endings ++ more) k begun := by
  cases h with
  | first => exact .first
  | further hended hslot hearly hbegun hprompt =>
    obtain ⟨hlt, _⟩ := List.getElem?_eq_some_iff.mp hended
    exact .further ((List.getElem?_append_left hlt).trans hended) hslot hearly hbegun hprompt

/-- Every iteration begins before the deadline, the first one at the start and each further one
in its slot. -/
theorem Told.opening (h : Told plan deadline start onTime d) {k begun : Nat}
    (hbegun : d.beginnings[k]? = some begun) :
    begun < deadline ∧ Opening plan deadline start onTime d.endings k begun := by
  induction h generalizing k begun with
  | nil => exact absurd hbegun (by simp [Diary.beginnings])
  | @cons before now deed hbefore hnext ih =>
    rw [Diary.beginnings_cons] at hbegun
    rw [Diary.endings_cons]
    have hlength := hbefore.length_beginnings
    rcases Nat.lt_or_ge k before.beginnings.length with hlt | hge
    · rw [List.getElem?_append_left hlt] at hbegun
      obtain ⟨hopen, hopening⟩ := ih hbegun
      exact ⟨hopen, hopening.mono⟩
    · rw [List.getElem?_append_right hge] at hbegun
      cases hnext with
      | first hopen =>
        obtain ⟨hlast, rfl⟩ : k - 0 = 0 ∧ start = begun := by
          simpa [List.getElem?_singleton, Diary.beginnings] using hbegun
        obtain rfl : k = 0 := hlast
        exact ⟨hopen, .first⟩
      | @further ended due _ rest choice hslot hdue hprompt hopen =>
        obtain ⟨hlast, rfl⟩ : k - (Diary.beginnings ((ended, .ended) :: rest)).length = 0 ∧
            now = begun := by
          simpa [List.getElem?_singleton] using hbegun
        have hended : (rest.endings ++ [ended])[rest.endings.length]? = some ended := by simp
        have hcount : (Diary.beginnings ((ended, .ended) :: rest)).length =
            rest.endings.length + 1 := by
          rw [hlength, Diary.endings_cons]
          simp [Diary.isOpen]
        obtain rfl : k = rest.endings.length + 1 := by omega
        obtain ⟨slot, hsome, hearly, rfl⟩ := hslot
        rw [Diary.endings_cons] at hsome ⊢
        rw [List.length_append] at hsome
        exact ⟨hopen, (Opening.further hended hsome hearly hdue hprompt).mono⟩
      | _ => simp at hbegun

/-- A slot is due at one moment only. -/
theorem Slot.unique {ended due due' : Nat} {rest : Diary}
    (h : Slot plan deadline start ended rest due) (h' : Slot plan deadline start ended rest due') :
    due = due' := by
  obtain ⟨slot, hslot, _, rfl⟩ := h
  obtain ⟨slot', hslot', _, rfl⟩ := h'
  rw [Option.some.inj (hslot.symm.trans hslot')]

/-- The slot after the last iteration that has ended, if no other one has begun since. -/
theorem Told.slot_of_last {last : Nat} {rest : Diary}
    (h : Told plan deadline start onTime ((last, .ended) :: rest)) {k ended slot : Nat}
    (hlast : (Diary.beginnings ((last, .ended) :: rest)).length ≤ k + 1)
    (hended : (Diary.endings ((last, .ended) :: rest))[k]? = some ended)
    (hslot : slot? start plan.rate (k + 1) = some slot) (hearly : slot < deadline) :
    Slot plan deadline start last rest (max ended (Clock.wake slot)) := by
  have hlength := h.length_beginnings
  obtain ⟨hlt, _⟩ := List.getElem?_eq_some_iff.mp hended
  have hcount : (Diary.endings ((last, .ended) :: rest)).length = k + 1 := by
    simp only [Diary.isOpen, Bool.false_eq_true, if_false] at hlength
    omega
  have hsame : last = ended := by
    rw [Diary.endings_cons, List.length_append] at hcount
    obtain rfl : k = rest.endings.length := Nat.succ.inj hcount.symm
    simpa [Diary.endings_cons] using hended
  exact ⟨slot, hcount ▸ hslot, hearly, hsame ▸ rfl⟩

end Told

namespace User

/-- How the iterations of a user keep its pace in a run that began as `r₀` and went through
some events. -/
structure Paced (plan : Plan) (r₀ : Run) (events : List (Nat × Event)) (user : Nat) (u : User) :
    Prop where
  /-- The first slot is at the start. -/
  start : slot? u.startedAt plan.rate 0 = some u.startedAt
  /-- A further slot lies as many seconds after the start as the iterations before it over the
  rate: the quotient is rounded to a double, and this to the nearest nanosecond. -/
  offset : ∀ (k : ℕ) (q : ℚ) (slot : ℕ), 0 < k → k < 2 ^ 53 → Denotes plan.rate q →
    2 ^ (-1074 : ℤ) ≤ k / q → k / q < 2 ^ (1023 : ℤ) → slot? u.startedAt plan.rate k = some slot →
      (slot : ℤ) = u.startedAt + halfEven (rounded (k / q) * 1000000000)
  /-- Each iteration begins no earlier than its slot, and both lie before the deadline. -/
  slot : ∀ k begun, (Diary.beginnings u.diary)[k]? = some begun → begun < r₀.deadline ∧
    ∃ slot, slot? u.startedAt plan.rate k = some slot ∧ slot < r₀.deadline ∧ slot ≤ begun
  /-- Each iteration begins no earlier than the one before it has ended. -/
  turn : ∀ k begun, (Diary.beginnings u.diary)[k + 1]? = some begun →
    ∃ ended, (Diary.endings u.diary)[k]? = some ended ∧ ended ≤ begun
  /-- There are no more iterations than slots before the deadline. -/
  count : ((Diary.beginnings u.diary).length : ℕ∞) ≤
    {k | ∃ slot, slot? u.startedAt plan.rate k = some slot ∧ slot < r₀.deadline}.encard
  /-- After a shutdown no iteration begins. -/
  shutdown : ∀ before moment after r₁, events = before ++ (moment, .shutdown) :: after →
    Run.replay before r₀ = some r₁ → ∃ v : User, r₁.users[user]? = some v ∧
      Diary.beginnings u.diary = Diary.beginnings v.diary ∧
        ∀ begun ∈ Diary.beginnings u.diary, begun ≤ moment
  /-- A user that has been released before the deadline and before a shutdown begins at once. -/
  begins : u.hasStarted = true → u.startedAt < r₀.deadline →
    ¬ Run.HaltedBy events u.startedAt → (Diary.beginnings u.diary)[0]? = some u.startedAt
  /-- A further iteration begins when the wait for its slot is over, however long the one before
  it took, unless the deadline or a shutdown comes first. -/
  prompt : Run.isPunctual events r₀ = true → ∀ k ended slot,
    (Diary.endings u.diary)[k]? = some ended →
      slot? u.startedAt plan.rate (k + 1) = some slot →
        (∀ begun, (Diary.beginnings u.diary)[k + 1]? = some begun →
          begun = max ended (Clock.wake slot)) ∧
        (u.isOver = true → slot < r₀.deadline → max ended (Clock.wake slot) < r₀.deadline →
          ¬ Run.HaltedBy events (max ended (Clock.wake slot)) →
            (Diary.beginnings u.diary)[k + 1]? = some (max ended (Clock.wake slot)))

variable {plan : Plan} {deadline : Nat} {onTime : Prop} {halted : Nat → Prop} {u : User}

/-- A user that has been released begins its first iteration, if it may. -/
theorem Chronicled.begins (h : Chronicled plan deadline onTime halted u)
    (hstarted : u.hasStarted = true) (hearly : u.startedAt < deadline)
    (hopen : ¬ halted u.startedAt) :
    (Diary.beginnings u.diary)[0]? = some u.startedAt := by
  have hpos : 0 < (Diary.beginnings u.diary).length := by
    rw [h.told.length_beginnings]
    have hstanding := h.standing
    unfold hasStarted at hstarted
    generalize u.stage = stage at hstanding hstarted
    generalize u.diary = d at hstanding ⊢
    cases hstanding with
    | waiting | gone => exact absurd hstarted (by simp)
    | calling | resting => exact Nat.succ_pos _
    | tooLate hover => exact absurd hover (by simp [hopen, hearly])
    | pacing | noSlot | cutOff => simp [Diary.endings_cons]
  obtain ⟨begun, hbegun⟩ : ∃ begun, (Diary.beginnings u.diary)[0]? = some begun :=
    ⟨_, List.getElem?_eq_getElem hpos⟩
  obtain ⟨_, hopening⟩ := h.told.opening hbegun
  cases hopening
  exact hbegun

/-- A user that has stopped on time has begun the iteration of every slot before the deadline,
as long as it was not halted. -/
theorem Chronicled.goesOn (h : Chronicled plan deadline onTime halted u) (ht : onTime)
    (hover : u.isOver = true) {k ended slot : Nat}
    (hended : (Diary.endings u.diary)[k]? = some ended)
    (hslot : slot? u.startedAt plan.rate (k + 1) = some slot) (hearly : slot < deadline)
    (hwake : max ended (Clock.wake slot) < deadline)
    (hopen : ∀ moment ≤ max ended (Clock.wake slot), ¬ halted moment) :
    k + 1 < (Diary.beginnings u.diary).length := by
  by_contra hlast
  have htold := h.told
  have hstanding := h.standing
  unfold isOver at hover
  generalize u.stage = stage at hstanding hover
  generalize u.diary = d at htold hstanding hended hlast
  cases hstanding with
  | waiting | calling | resting | pacing => exact absurd hover (by simp)
  | gone | tooLate => exact absurd hended (by simp [Diary.endings])
  | noSlot hnone =>
    exact hnone _ (htold.slot_of_last (not_lt.mp hlast) hended hslot hearly)
  | cutOff hcut hprompt hover =>
    have hdue := hcut.unique (htold.slot_of_last (not_lt.mp hlast) hended hslot hearly)
    subst hdue
    rcases hover with ⟨hdue, hend⟩ | hhalted
    · exact absurd (hend.trans (hprompt ht)) (not_le.mpr hwake)
    · exact hopen _ (hprompt ht) hhalted

end User

namespace Run

/-- A user keeps its pace in every run that goes through some events. -/
theorem paced_replay {plan : Plan} {started : Nat} {entropy : Nat → Random.Stream}
    {events : List (Nat × Event)} {r₀ r : Run} (hbegin : begin plan started entropy = .ok r₀)
    (hreplay : replay events r₀ = some r) {user : Nat} {u : User} (hu : r.users[user]? = some u) :
    u.Paced plan r₀ events user := by
  have h := (chronicled_replay hbegin hreplay).users user u hu
  have hrate := (validate_eq_ok.mp (begin_eq_ok.mp hbegin).1).2.1
  have hstart : slot? u.startedAt plan.rate 0 = some u.startedAt := by
    rw [slot?, slotOffset_zero hrate]
    rfl
  have hslot : ∀ k begun, (Diary.beginnings u.diary)[k]? = some begun → begun < r₀.deadline ∧
      ∃ slot, slot? u.startedAt plan.rate k = some slot ∧ slot < r₀.deadline ∧ slot ≤ begun := by
    intro k begun hbegun
    obtain ⟨hearly, hopening⟩ := h.told.opening hbegun
    refine ⟨hearly, ?_⟩
    cases hopening with
    | first => exact ⟨_, hstart, hearly, le_rfl⟩
    | @further _ ended slot _ _ hsome hslot hwake =>
      have hle := (Clock.le_wake slot).trans ((le_max_right ended _).trans hwake)
      exact ⟨slot, hsome, hslot, hle⟩
  refine ⟨hstart, fun k q slot hk hexact hdenotes hleast hmost =>
    slot_eq hrate hdenotes hk hexact hleast hmost, hslot, ?_, ?_, ?_, h.begins, ?_⟩
  · intro k begun hbegun
    obtain ⟨_, hopening⟩ := h.told.opening hbegun
    cases hopening with
    | further hended _ _ hwake => exact ⟨_, hended, (le_max_left _ _).trans hwake⟩
  · rw [← Finset.card_range (Diary.beginnings u.diary).length, ← Set.encard_coe_eq_coe_finsetCard]
    refine Set.encard_le_encard fun k hk => ?_
    rw [Finset.coe_range, Set.mem_Iio] at hk
    obtain ⟨_, slot, hsome, hearly, _⟩ := hslot k _ (List.getElem?_eq_getElem hk)
    exact ⟨slot, hsome, hearly⟩
  · rintro before moment after r₁ rfl hbefore
    exact beginnings_eq_of_shutdown hbegin hbefore hreplay hu
  · intro ht k ended slot hended hsome
    have hprompt : ∀ begun, (Diary.beginnings u.diary)[k + 1]? = some begun →
        begun = max ended (Clock.wake slot) := by
      intro begun hbegun
      obtain ⟨_, hopening⟩ := h.told.opening hbegun
      cases hopening with
      | further hended' hsome' _ hwake hprompt =>
        obtain rfl := Option.some.inj (hended.symm.trans hended')
        obtain rfl := Option.some.inj (hsome.symm.trans hsome')
        exact le_antisymm (hprompt ht) hwake
    refine ⟨hprompt, fun hover hearly hwake hopen => ?_⟩
    have hlt := h.goesOn ht hover hended hsome hearly hwake fun moment hmoment hhalted => ?_
    · have hbegun := List.getElem?_eq_getElem hlt
      rw [hbegun, hprompt _ hbegun]
    · obtain ⟨m, hm, hmem⟩ := hhalted
      exact hopen ⟨m, hm.trans hmoment, hmem⟩

/-- The iterations of every user keep its pace, whatever the gateway answers, in whatever order
the users go on, and whenever a shutdown is announced. What holds in punctual runs holds in those
that are carried out. -/
theorem iterations_paced {plan : Plan} {started : Nat} {entropy : Nat → Random.Stream} {r₀ : Run}
    (hbegin : begin plan started entropy = .ok r₀) :
    (∀ (events : List (Nat × Event)) (r : Run), replay events r₀ = some r →
      ∀ (user : Nat) (u : User), r.users[user]? = some u → u.Paced plan r₀ events user) ∧
    ∀ (σ : Type) (service : Service σ) (gateway : σ) (shutdown : Option Nat), ∃ events,
      replay events r₀ = some (r₀.carriedOut service gateway shutdown).1 ∧
        isPunctual events r₀ = true :=
  ⟨fun _ _ hreplay _ _ hu => paced_replay hbegin hreplay hu,
    fun _ service gateway shutdown => exists_punctual_carriedOut hbegin service gateway shutdown⟩

/-- One user with a slot in each quarter of a second. -/
def quarterPlan : Plan where
  users := 1
  rate := 4
  duration := .ofSeconds 1
  spawnRate := 1
  spawnInterval := .ofSeconds 1
  poll := .standard
  mix := ([(.health, 1)] : Weights)
  commands := [⟨"echo", ["hi"], .ofSeconds 30⟩]
  seed := none

/-- The first iteration takes longer than two slots. The next two begin as soon as they can, and
the last one in its slot. -/
def catchUpEvents : List (Nat × Event) :=
  let healthy : Answer := .body (Text.bytesOf "\x7b\"status\":\"ok\"\x7d")
  [(0, .release), (0, .start 0), (600000000, .answer 0 healthy), (600000000, .wake 0),
    (650000000, .answer 0 healthy), (650000000, .wake 0), (700000000, .answer 0 healthy),
    (750000000, .wake 0), (800000000, .answer 0 healthy)]

/-- The slow iteration does not move the slot of the last one. -/
theorem iterations_paced_catchUp : ∃ r₀ r u, begin quarterPlan 0 = .ok r₀ ∧
    replay catchUpEvents r₀ = some r ∧ r.users[0]? = some u ∧
      (Diary.endings u.diary)[2]? = some 700000000 ∧
        (Diary.beginnings u.diary)[3]? = some 750000000 := by
  have hvalid : quarterPlan.validate = .ok () := by decide +kernel
  have hdeadline : quarterPlan.deadline? 0 = some 1000000000 := by decide +kernel
  have hbegin : begin quarterPlan 0 = .ok (ofPlan quarterPlan 0 1000000000 .numbered) :=
    begin_eq_ok.mpr ⟨hvalid, _, hdeadline, rfl⟩
  have hpunctual : isPunctual catchUpEvents (ofPlan quarterPlan 0 1000000000 .numbered) = true := by
    decide +kernel
  have hend : (replay catchUpEvents (ofPlan quarterPlan 0 1000000000 .numbered)).any (fun r =>
      r.users[0]?.any fun u => u.isOver && u.startedAt == 0 &&
        (Diary.endings u.diary)[2]? == some 700000000) = true := by
    decide +kernel
  have hslot : slot? 0 quarterPlan.rate 3 = some 750000000 := by decide +kernel
  obtain ⟨r, hreplay, hr⟩ := (Option.any_eq_true _ _).mp hend
  obtain ⟨u, hu, hparts⟩ := (Option.any_eq_true _ _).mp hr
  obtain ⟨hfirst, hended⟩ := Bool.and_eq_true_iff.mp hparts
  obtain ⟨hover, hstart⟩ := Bool.and_eq_true_iff.mp hfirst
  have hended := eq_of_beq hended
  have hpaced := (iterations_paced hbegin).1 _ _ hreplay 0 u hu
  refine ⟨_, r, u, hbegin, hreplay, hu, hended, ?_⟩
  refine (hpaced.prompt hpunctual 2 _ _ hended ((eq_of_beq hstart).symm ▸ hslot)).2 hover
    (by decide +kernel) (by decide +kernel) ?_
  rintro ⟨moment, _, hmem⟩
  simp [catchUpEvents] at hmem

end Run

end GatewayProbe.Load
