import GatewayProbe.Failure
import GatewayProbe.Log
import GatewayProbe.Slo.Outcome

/-!
# Enforcing targets

Violated targets are always reported, and they are a failure of the program where
that is asked for.
-/

namespace GatewayProbe.Load

/-- Report violated targets, and fail on them if `failing` is set. -/
def enforce (targets : List Slo.Outcome) (failing : Bool) : Except Failure Unit × List Message :=
  let n := Slo.violations targets
  if n = 0 then (.ok (), [])
  else
    (if failing then .error (.invalid (.violated n)) else .ok (),
      [warning (toString n ++ " SLO threshold(s) violated")])

end GatewayProbe.Load
