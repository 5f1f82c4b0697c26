import LoongClaw.Spec.ExecutionLog

namespace LoongClaw.Spec

open Foundation Contracts Kernel Program

/-!
# Denied calls

The deny list of the approval policy is compared with the key of the operation
of the spec, and only with that.  The keys of the connector calls inside a
programmatic tool call are not looked at, and an entry of the list is trimmed
before the comparison while the key is not.
-/

def RunnerSpec.deniedCalls (spec : RunnerSpec) : List String :=
  (spec.approval.getD .default).deniedCalls

theorem operationApprovalKey_ne_empty {operation : OperationSpec} :
    operationApprovalKey operation ≠ "" := by
  have longer : ∀ {first : String}, first ≠ "" -> ∀ second, first ++ second ≠ "" :=
    fun nonempty _ empty => nonempty (String.append_eq_empty_iff.mp empty).1
  cases operation <;> unfold operationApprovalKey <;> try unfold connectorCoreKey
  all_goals repeat' apply longer
  all_goals decide

/-- No run executes an operation whose key is listed, provided that the key is not
that of a step or batch call inside the operation of the spec, and that trimming
leaves it alone if it is the key of the operation itself. -/
theorem denied_call_not_executed {π ω : Type} [PolicyEngine π] (environment : SpecEnvironment ω)
    (spec : RunnerSpec) (kernel : LoongClawKernel π ω) {key : String}
    (listed : key ∈ spec.deniedCalls) (notInner : key ∉ innerCallKeys spec.operation)
    (trimmed : key = operationApprovalKey spec.operation -> Text.trim key = key) :
    (executeSpec environment spec).Ensures
      (fun _ later => ∀ execution, execution ∈ later.executions -> execution.key ≠ key)
      (initialState kernel) := by
  refine ensures_mono (executeSpec_executions spec) ?_
  intro result later logged execution member isKey
  rcases logged execution member with ⟨approved, ⟨adapter, same⟩ | ⟨call, isCall, inner⟩⟩
  · have ownKey : key = operationApprovalKey spec.operation := by
      rw [<- isKey, same]
      rfl
    have kept := trimmed ownKey
    rw [ownKey] at listed kept
    have denied := isOperationPreapproved_of_listed listed kept operationApprovalKey_ne_empty
    cases denied.symm.trans (approved_not_denied approved)
  · rw [isCall] at notInner
    exact notInner (isKey ▸ inner.listed)

/-- A connector call whose key is listed is not executed as the operation of a
spec. -/
theorem denied_operation_not_executed :
    let spec := RunSample.spec ["connector_core:webhook:send"]
      (.connectorCore (RunSample.command "webhook" .null) none)
    (executeSpec (RunSample.environment { providers := [], channels := [] }) spec).Ensures
      (fun _ later => ∀ execution, execution ∈ later.executions ->
        execution.key ≠ "connector_core:webhook:send")
      (initialState RunSample.kernel) :=
  denied_call_not_executed _ _ _ (by decide) (by decide) fun _ => by decide +kernel

/-- A programmatic tool call with one connector step. -/
def deniedStepCall : OperationSpec :=
  .programmaticToolCall
    { caller := "planner"
      maxCalls := 1
      includeIntermediate := false
      allowedConnectors := []
      connectorRateLimits := []
      connectorCircuitBreakers := []
      concurrency := defaultProgrammaticConcurrencyPolicy
      returnStep := none
      steps := [.connectorCall "step" "webhook" "send" {.invokeConnector} none .normal
        (.object [])] }

/-- The step is executed although its key is listed, and the run is not
blocked. -/
theorem denied_step_is_executed : "connector_core:webhook:send" ∈
        (RunSample.spec ["connector_core:webhook:send"] deniedStepCall).deniedCalls /\
      (RunSample.executions { providers := [], channels := [] }
        (RunSample.spec ["connector_core:webhook:send"] deniedStepCall)).map Execution.key =
        ["connector_core:webhook:send"] := by
  decide +kernel

end LoongClaw.Spec
