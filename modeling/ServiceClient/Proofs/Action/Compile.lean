import ServiceClient.Action.Compile
import ServiceClient.Proofs.Outcome

/-!
# Compiling operations in order

The operations are compiled one after another up to the first that fails, which is what traversing
them does; `compileAll_eq` puts it so. Keeping the actions from before a failure matters to nobody
but those who report progress.
-/

namespace ServiceClient.Action

variable {transport : Transport} {language : Language} {api docs : Json}

/-- Compiling in order is a traversal. -/
theorem compileInOrder_eq_mapM (operations : Fields) :
    (match compileInOrder transport language api docs operations with
      | (actions, none) => .ok actions
      | (_, some fault) => .error fault) =
      operations.mapM fun operation ↦
        compile transport language api docs operation.1 operation.2 := by
  induction operations with
  | nil => rfl
  | cons field rest ih =>
    obtain ⟨name, operation⟩ := field
    rw [List.mapM_cons, ← ih, compileInOrder]
    cases compile transport language api docs name operation with
    | error fault => rfl
    | ok action =>
      obtain ⟨actions, fault?⟩ := compileInOrder transport language api docs rest
      cases fault? <;> rfl

/-- The operations are compiled in their order, and the actions are arranged. -/
theorem compileAll_eq :
    compileAll transport language api docs = (do
      let operations ← (← Spec.operations api).fields
      let actions ← operations.mapM fun operation ↦
        compile transport language api docs operation.1 operation.2
      arrange api actions) := by
  simp only [compileAll, ← compileInOrder_eq_mapM]
  congr 1
  funext operations
  congr 1
  funext fields
  obtain ⟨actions, fault?⟩ := compileInOrder transport language api docs fields
  cases fault? <;> rfl

/-- Where the operations are found, they are compiled and the actions arranged. -/
theorem compileAll_of_fields {operations : Fields}
    (h : (Spec.operations api >>= Json.fields) = .ok operations) :
    compileAll transport language api docs =
      (operations.mapM fun operation ↦
        compile transport language api docs operation.1 operation.2) >>= arrange api := by
  rw [compileAll_eq, ← bind_assoc, h, ok_bind]

end ServiceClient.Action
