/-!
# Powers and sums

An algebra library has its own powers of numbers, and its own zero that a sum starts from.
The ones below are found first, so that a power or a sum is the plain one wherever it is
read.
-/

namespace GatewayProbe

/-- The power of a natural number. -/
@[default_instance 20000]
instance (priority := 2000) powNat : Pow Nat Nat := instPowNat

/-- The power of an integer. -/
@[default_instance 20000]
instance (priority := 2000) powInt : Pow Int Nat := instPowNat

/-- The number that a sum of naturals starts from. -/
instance (priority := 2000) zeroNat : Zero Nat := Zero.ofOfNat0

end GatewayProbe
