import Mathlib.Tactic.SplitIfs
import GatewayProbe.Gateway.Body
import GatewayProbe.Metrics.Tally

/-!
# Where faults come from

A call fails because the gateway was not reached, refused, or sent a body that is not
what it should be. Only a poll can run out of time; no single reply is such a fault.
-/

namespace GatewayProbe.Gateway

/-- A fault of one call, as opposed to a poll that ran out of time. -/
def Fault.OfCall : Fault → Prop
  | .pollTimeout .. => False
  | _ => True

/-- A fault of one call is of one of three kinds. -/
theorem Fault.OfCall.kind {f : Fault} (h : f.OfCall) :
    Metrics.FailureKind.ofFault f = .transport ∨ Metrics.FailureKind.ofFault f = .malformed ∨
      Metrics.FailureKind.ofFault f = .unknownStatus := by
  cases f with
  | transport => exact Or.inl rfl
  | unexpectedStatus => exact Or.inl rfl
  | malformed => exact Or.inr (Or.inl rfl)
  | unknownStatus => exact Or.inr (Or.inr rfl)
  | pollTimeout => exact h.elim

private theorem ofCall_bind {α : Type} {endpoint : Endpoint} {elapsed : Duration} {a : Answer}
    {read : List UInt8 → Except Fault α} {f : Fault}
    (hread : ∀ bytes f, read bytes = .error f → f.OfCall)
    (h : (a.body? endpoint elapsed >>= read) = .error f) : f.OfCall := by
  cases a with
  | body bytes => exact hread bytes f h
  | refused status text =>
    obtain rfl := Except.error.inj h
    trivial
  | unreachable =>
    obtain rfl := Except.error.inj h
    trivial

/-- A health check fails with the fault of one call. -/
theorem ofCall_health {elapsed : Duration} {a : Answer} {f : Fault}
    (h : a.health elapsed = .error f) : f.OfCall := by
  refine ofCall_bind (fun bytes f hf => ?_) h
  unfold readHealth at hf
  split at hf
  · obtain rfl := Except.error.inj hf
    trivial
  · obtain rfl := Except.error.inj hf
    trivial
  · exact absurd hf (by simp)

/-- A submission fails with the fault of one call. -/
theorem ofCall_taskId {elapsed : Duration} {a : Answer} {f : Fault}
    (h : a.taskId elapsed = .error f) : f.OfCall := by
  refine ofCall_bind (fun bytes f hf => ?_) h
  unfold readTaskId at hf
  split at hf
  · obtain rfl := Except.error.inj hf
    trivial
  · obtain rfl := Except.error.inj hf
    trivial
  · split_ifs at hf
    obtain rfl := Except.error.inj hf
    trivial

/-- What a status body says of a task fails with the fault of one call. -/
theorem ofCall_info {taskId : String} {b : StatusBody} {f : Fault}
    (h : b.info taskId = .error f) : f.OfCall := by
  unfold StatusBody.info at h
  split at h
  · obtain rfl := Except.error.inj h
    trivial
  · split at h
    · obtain rfl := Except.error.inj h
      trivial
    · exact absurd h (by simp)

/-- A status query fails with the fault of one call. -/
theorem ofCall_taskInfo {taskId : String} {elapsed : Duration} {a : Answer} {f : Fault}
    (h : a.taskInfo taskId elapsed = .error f) : f.OfCall := by
  refine ofCall_bind (fun bytes f hf => ?_) h
  unfold readTaskInfo at hf
  split at hf
  · obtain rfl := Except.error.inj hf
    trivial
  · exact ofCall_info hf

end GatewayProbe.Gateway
