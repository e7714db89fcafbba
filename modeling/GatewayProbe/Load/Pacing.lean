import GatewayProbe.Clock
import GatewayProbe.Decimal.Reading
import GatewayProbe.Text.Blank

/-!
# Constant pace

A user keeps a constant rate of iterations: after `k` of them the next one may begin
`k` over the rate seconds after the start. A slow iteration does not move the later
slots.
-/

namespace GatewayProbe.Load

/-- A rate of iterations for each second, finite and above zero. -/
def isRate (rate : Float) : Bool := rate.isFinite && 0.0 < rate

/-- Read a rate with blanks around it. -/
def readRate? (value : String) : Option Float :=
  (Decimal.parse (Text.trim value.toList)).filter isRate

/-- The time from the start to the slot after some iterations, unless it is too long. -/
def slotOffset (rate : Float) (completed : Nat) : Option Duration :=
  Duration.ofSecondsFloat (Decimal.ofNat completed / rate)

/-- The slot after some iterations of a user who began at `start`. -/
def slot? (start : Nat) (rate : Float) (completed : Nat) : Option Nat :=
  (slotOffset rate completed).map fun offset => Clock.after start offset

end GatewayProbe.Load
