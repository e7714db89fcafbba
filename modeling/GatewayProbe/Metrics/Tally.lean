import GatewayProbe.Gateway.Call

/-!
# Counts of failures by kind

Every fault of a call belongs to one of four kinds. A task that ends without success
is a fifth kind, though none of its calls failed.
-/

namespace GatewayProbe.Metrics

/-- The kinds of failures. -/
inductive FailureKind where
  | transport
  | malformed
  | unknownStatus
  | pollTimeout
  /-- The gateway reported a task that failed. -/
  | taskFailed
  deriving DecidableEq, Repr

/-- The kind of a fault. -/
def FailureKind.ofFault : Gateway.Fault → FailureKind
  | .transport .. | .unexpectedStatus .. => .transport
  | .malformed .. => .malformed
  | .unknownStatus .. => .unknownStatus
  | .pollTimeout .. => .pollTimeout

/-- The counts of all kinds. -/
structure Tally where
  transport : Nat := 0
  malformed : Nat := 0
  unknownStatus : Nat := 0
  pollTimeout : Nat := 0
  taskFailed : Nat := 0
  deriving DecidableEq, Repr, Inhabited

/-- Count one failure. -/
def Tally.record (t : Tally) : FailureKind → Tally
  | .transport => { t with transport := t.transport + 1 }
  | .malformed => { t with malformed := t.malformed + 1 }
  | .unknownStatus => { t with unknownStatus := t.unknownStatus + 1 }
  | .pollTimeout => { t with pollTimeout := t.pollTimeout + 1 }
  | .taskFailed => { t with taskFailed := t.taskFailed + 1 }

/-- How many failures are counted. -/
def Tally.total (t : Tally) : Nat :=
  min (t.transport + t.malformed + t.unknownStatus + t.pollTimeout + t.taskFailed) (2 ^ 64 - 1)

end GatewayProbe.Metrics
