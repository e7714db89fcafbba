import GatewayProbe.Duration

/-!
# Moments of a run

A moment is the number of nanoseconds since the clock was started. A timer wakes who
sleeps until a moment, and never before it. The usual timer works in whole milliseconds:
it wakes a sleeper at the first one that does not lie before the moment.
-/

namespace GatewayProbe.Clock

/-- The nanoseconds between two ticks of the timer. -/
def tick : Nat := 1000000

/-- The tick at which a sleeper wakes who waits for a moment. -/
def wake (deadline : Nat) : Nat := (deadline + (tick - 1)) / tick * tick

/-- The time that has passed since a moment. -/
def since (start now : Nat) : Duration := ⟨now - start⟩

/-- The moment a duration after another one. -/
def after (start : Nat) (d : Duration) : Nat := start + d.nanos

/-- No sleeper wakes before the moment it waits for. -/
theorem le_wake (deadline : Nat) : deadline ≤ wake deadline := by
  unfold wake tick
  omega

/-- A sleeper wakes less than one tick late. -/
theorem wake_lt (deadline : Nat) : wake deadline < deadline + tick := by
  unfold wake tick
  omega

/-- A timer, by the moments at which it wakes those who sleep until others. -/
structure Timer where
  wake : Nat → Nat
  /-- Nobody is woken early. -/
  le_wake : ∀ deadline, deadline ≤ wake deadline

/-- The timer that works in whole milliseconds. -/
def Timer.ticking : Timer := ⟨Clock.wake, Clock.le_wake⟩

/-- The timer that wakes every sleeper exactly at the end of its sleep. -/
def Timer.exact : Timer := ⟨id, fun _ => Nat.le_refl _⟩

instance : Inhabited Timer := ⟨.ticking⟩

end GatewayProbe.Clock
