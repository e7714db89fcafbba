import GatewayProbe.Gateway.Call
import GatewayProbe.Proofs.Text.Parts

/-!
# The names of latencies

Submissions are measured under names that begin with one mark and end with the program,
so two programs never share a name, and none of the fixed names is such a name.
-/

namespace GatewayProbe.Gateway

/-- Whether a name is one under which submissions are measured. -/
def isExecuteName (name : String) : Bool :=
  (Text.afterStart "Execute ".toList name.toList).isSome

/-- The letters of the name of a program. -/
theorem toList_executeName (program : String) :
    (executeName program).toList = "Execute ".toList ++ program.toList := by
  simp only [executeName, Endpoint.name, String.toList_append]
  rfl

/-- Submissions are measured under the names of programs. -/
theorem isExecuteName_iff {name : String} :
    isExecuteName name = true ↔ ∃ program, name = executeName program := by
  unfold isExecuteName
  rw [Option.isSome_iff_exists]
  constructor
  · rintro ⟨rest, hrest⟩
    refine ⟨String.ofList rest, String.toList_injective ?_⟩
    rw [toList_executeName, Text.afterStart_eq_some.mp hrest]
    exact congrArg _ String.toList_ofList.symm
  · rintro ⟨program, rfl⟩
    exact ⟨program.toList, Text.afterStart_eq_some.mpr (toList_executeName program)⟩

@[simp] theorem isExecuteName_executeName (program : String) :
    isExecuteName (executeName program) = true := isExecuteName_iff.mpr ⟨program, rfl⟩

/-- Two programs do not share a name. -/
theorem executeName_inj {p q : String} : executeName p = executeName q ↔ p = q := by
  refine ⟨fun h => String.toList_injective ?_, congrArg executeName⟩
  have hlist := congrArg String.toList h
  rw [toList_executeName, toList_executeName] at hlist
  exact List.append_cancel_left hlist

/-- A name under which no submission is measured is the name of no program. -/
theorem executeName_ne {name : String} (h : isExecuteName name = false) (program : String) :
    executeName program ≠ name := by
  rintro rfl
  exact absurd h (by simp)

@[simp] theorem isExecuteName_health : isExecuteName Endpoint.health.name = false := by decide

@[simp] theorem isExecuteName_status : isExecuteName Endpoint.status.name = false := by decide

@[simp] theorem isExecuteName_pollName : isExecuteName pollName = false := by decide

@[simp] theorem isExecuteName_completionName : isExecuteName completionName = false := by decide

end GatewayProbe.Gateway
