import LoongClaw.Spec.Batch

namespace LoongClaw.Spec

open Foundation Contracts Kernel Fallible OrderedMap Text

/-!
# Programmatic tool calls

The steps of a programmatic tool call are executed in order.  Each writes one
output, which later steps may refer to.  Connector calls, alone or in batches,
are charged against a budget, and the runtime adds to their payloads where they
come from.
-/

/-! ## Validation -/

def invalidSpec {α : Type} (message : String) : Except String α :=
  .error (programmaticError .invalidSpec message)

/-- Fail with a message unless the condition holds. -/
def require (condition : Bool) (message : String) : Except String Unit :=
  if condition then .ok () else invalidSpec message

def validateRetryPolicy (policy : Option ProgrammaticRetryPolicy) (stepId : String)
    (callId : Option String) : Except String ProgrammaticRetryPolicy := do
  let resolved := policy.getD defaultProgrammaticRetryPolicy
  let label := (callId.map fun callId => " (call_id=" ++ callId ++ ")").getD ""
  require (decide (0 < resolved.maxAttempts))
    ("programmatic step " ++ stepId ++ " retry.max_attempts must be greater than 0" ++ label)
  require (decide (resolved.initialBackoffMs <= resolved.maxBackoffMs))
    ("programmatic step " ++ stepId ++
      " retry.max_backoff_ms must be >= retry.initial_backoff_ms" ++ label)
  require (resolved.jitterRatio.value.any fun ratio => decide (0 <= ratio /\ ratio <= 1))
    ("programmatic step " ++ stepId ++ " retry.jitter_ratio must be within [0.0, 1.0]" ++ label)
  .ok resolved

def validateProgrammaticRateLimits :
    OrderedMap String ProgrammaticConnectorRateLimit -> Except String Unit
  | [] => .ok ()
  | (connectorName, limit) :: rest => do
    require (decide (trim connectorName ≠ ""))
      "connector_rate_limits contains an empty connector key"
    require (decide (0 < limit.minIntervalMs))
      ("connector_rate_limits[" ++ connectorName ++ "] min_interval_ms must be greater than 0")
    validateProgrammaticRateLimits rest

def validateProgrammaticCircuitBreakers :
    OrderedMap String ProgrammaticCircuitBreakerPolicy -> Except String Unit
  | [] => .ok ()
  | (connectorName, policy) :: rest => do
    let field := "connector_circuit_breakers[" ++ connectorName ++ "] "
    require (decide (trim connectorName ≠ ""))
      "connector_circuit_breakers contains an empty connector key"
    require (decide (0 < policy.failureThreshold))
      (field ++ "failure_threshold must be greater than 0")
    require (decide (0 < policy.cooldownMs)) (field ++ "cooldown_ms must be greater than 0")
    require (decide (0 < policy.halfOpenMaxCalls))
      (field ++ "half_open_max_calls must be greater than 0")
    require (decide (0 < policy.successThreshold))
      (field ++ "success_threshold must be greater than 0")
    require (decide (policy.successThreshold <= policy.halfOpenMaxCalls))
      (field ++ "success_threshold must be <= half_open_max_calls")
    validateProgrammaticCircuitBreakers rest

def validateProgrammaticConcurrencyPolicy (concurrency : ProgrammaticConcurrencyPolicy) :
    Except String Unit := do
  require (decide (0 < concurrency.maxInFlight))
    "programmatic concurrency.max_in_flight must be greater than 0"
  require (decide (0 < concurrency.minInFlight))
    "programmatic concurrency.min_in_flight must be greater than 0"
  require (decide (concurrency.minInFlight <= concurrency.maxInFlight))
    "programmatic concurrency.min_in_flight must be <= max_in_flight"
  require (decide (0 < concurrency.highWeight /\ 0 < concurrency.normalWeight /\
      0 < concurrency.lowWeight))
    "programmatic concurrency priority weights must all be greater than 0"
  require (decide (0 < concurrency.adaptiveUpshiftStep /\ 0 < concurrency.adaptiveDownshiftStep))
    ("programmatic concurrency adaptive_upshift_step and adaptive_downshift_step must be " ++
      "greater than 0")
  require (!concurrency.adaptiveBudget || decide (0 < concurrency.adaptiveRecoverySuccesses))
    ("programmatic concurrency.adaptive_recovery_successes must be greater than 0 when " ++
      "adaptive_budget is enabled")
  require (!concurrency.adaptiveBudget || !concurrency.adaptiveReduceOn.isEmpty)
    ("programmatic concurrency.adaptive_reduce_on must include at least one trigger when " ++
      "adaptive_budget is enabled")

def ensureNewStepId (outputs : StepOutputs) (stepId : String) : Except String Unit := do
  require (decide (trim stepId ≠ "")) "programmatic step_id cannot be empty"
  require (!contains stepId outputs) ("programmatic step_id " ++ stepId ++ " is duplicated")

/-! ## Preparation of calls -/

def connectorAllowed (allowedConnectors : List String) (connectorName : String) : Bool :=
  allowedConnectors.isEmpty || decide (connectorName ∈ allowedConnectors)

def requireConnector (allowedConnectors : List String) (step connectorName : String) :
    Except String Unit :=
  if connectorAllowed allowedConnectors connectorName then .ok ()
  else
    .error (programmaticError .connectorNotAllowed
      (step ++ " connector " ++ connectorName ++ " is not in allowed_connectors"))

/-- What the calls of a step have in common. -/
structure StepContext where
  jsonText : Json -> String
  outputs : StepOutputs
  (caller stepId : String)
  stepIndex : Nat

/-- A call whose templates are resolved. -/
def prepareCall (context : StepContext) (callId : Option String)
    (connectorName operation : String) (requiredCapabilities : CapabilitySet)
    (retry : Option ProgrammaticRetryPolicy) (priorityClass : ProgrammaticPriorityClass)
    (payload : Json) : Except String ConnectorInvocation := do
  let retryPolicy <- validateRetryPolicy retry context.stepId callId
  let supplied <- resolveProgrammaticPayloadTemplates context.jsonText context.outputs payload
  .ok
    { provenance :=
        { caller := context.caller
          stepId := context.stepId
          stepIndex := context.stepIndex
          callId := callId
          supplied := supplied }
      connectorName := connectorName
      operation := operation
      requiredCapabilities := requiredCapabilities
      retryPolicy := retryPolicy
      priorityClass := priorityClass }

def prepareProgrammaticBatchCall (context : StepContext) (allowedConnectors : List String)
    (seenCallIds : List String) (call : ProgrammaticBatchCall) :
    Except String ConnectorInvocation := do
  let callId := trim call.callId
  let step := "programmatic batch step " ++ context.stepId
  require (decide (callId ≠ "")) (step ++ " has a call with empty call_id")
  require (decide (callId ∉ seenCallIds)) (step ++ " has duplicated call_id " ++ callId)
  requireConnector allowedConnectors step call.connectorName
  prepareCall context (some callId) call.connectorName call.operation call.requiredCapabilities
    call.retry call.priorityClass call.payload

def prepareProgrammaticBatchCalls (context : StepContext) (allowedConnectors : List String) :
    List String -> List ProgrammaticBatchCall -> Except String (List ConnectorInvocation)
  | _, [] => .ok []
  | seenCallIds, call :: rest => do
    let prepared <- prepareProgrammaticBatchCall context allowedConnectors seenCallIds call
    let others <- prepareProgrammaticBatchCalls context allowedConnectors
      (trim call.callId :: seenCallIds) rest
    .ok (prepared :: others)

/-! ## Steps -/

/-- What the steps before have left. -/
structure StepProgress where
  stepOutputs : StepOutputs
  connectorCalls : Nat
  lastStepId : Option String
  stepTrace : List Json

/-- Store the output of a step, and the trace of it. -/
def StepProgress.wrote (progress : StepProgress) (stepId : String) (output : Json)
    (trace : List (String × Json)) : StepProgress :=
  { progress with
    stepOutputs := insert stepId output progress.stepOutputs
    lastStepId := some stepId
    stepTrace := progress.stepTrace ++ [.ofFields (("step_id", .string stepId) :: trace)] }

def readStep (outputs : StepOutputs) (stepId fromStep : String) : Except String Json :=
  okOr (lookup fromStep outputs) (programmaticError .unknownStep
      ("programmatic step " ++ stepId ++ " references unknown from_step " ++ fromStep))

def executeJsonPointer (progress : StepProgress) (stepId fromStep pointer : String) :
    Except String StepProgress := do
  let source <- readStep progress.stepOutputs stepId fromStep
  let extracted <- okOr (jsonPointer pointer source) (programmaticError .pointerNotFound
      ("programmatic step " ++ stepId ++ " pointer " ++ pointer ++ " not found in " ++ fromStep))
  .ok (progress.wrote stepId extracted
    [("kind", .string "json_pointer"), ("from_step", .string fromStep),
      ("pointer", .string pointer), ("output", extracted)])

/-- The value that a condition looks at. -/
def evaluatedValue (source : Json) : Option String -> Except String (Option Json)
  | none => .ok (some source)
  | some pointer => do
    let normalizedPointer <- normalizeProgrammaticPointer pointer
    .ok (jsonPointer normalizedPointer source)

def conditionHolds (equals : Option Json) (expectedExists : Option Bool)
    (evaluated : Option Json) : Bool :=
  expectedExists.all (fun expected => decide (evaluated.isSome = expected)) &&
    equals.all (fun expected => evaluated.any (Json.equals expected))

def executeConditional (jsonText : Json -> String) (progress : StepProgress)
    (stepId fromStep : String) (pointer : Option String) (equals : Option Json)
    (expectedExists : Option Bool) (whenTrue : Json) (whenFalse : Option Json) :
    Except String StepProgress := do
  require (equals.isSome || expectedExists.isSome) ("programmatic conditional step " ++ stepId ++
      " requires at least one predicate (equals or exists)")
  let source <- readStep progress.stepOutputs stepId fromStep
  let evaluated <- evaluatedValue source pointer
  let holds := conditionHolds equals expectedExists evaluated
  let selected := if holds then whenTrue else whenFalse.getD .null
  let output <- resolveProgrammaticPayloadTemplates jsonText progress.stepOutputs selected
  .ok (progress.wrote stepId output
    [("kind", .string "conditional"), ("from_step", .string fromStep),
      ("pointer", .ofText pointer), ("exists", (expectedExists.map Json.bool).getD .null),
      ("equals", equals.getD .null), ("evaluated", evaluated.getD .null),
      ("matched", .bool holds), ("output", output)])

/-- The call of a connector step, if the step may make it. -/
def prepareConnectorStep (call : ProgrammaticToolCall) (context : StepContext)
    (connectorCalls : Nat) (connectorName operation : String)
    (requiredCapabilities : CapabilitySet) (retry : Option ProgrammaticRetryPolicy)
    (priorityClass : ProgrammaticPriorityClass) (payload : Json) :
    Except String ConnectorInvocation := do
  requireConnector call.allowedConnectors ("programmatic step " ++ context.stepId) connectorName
  if call.maxCalls <= connectorCalls then
    .error (programmaticError .callBudgetExceeded
      ("programmatic connector call budget exceeded: max_calls=" ++ toString call.maxCalls))
  else
    prepareCall context none connectorName operation requiredCapabilities retry priorityClass
      payload

def connectorStepResult (call : ConnectorInvocation) (result : InvocationResult) : Json :=
  .ofFields
    [("connector_name", .string result.dispatch.connectorName),
      ("outcome", outcomeJson result.dispatch.outcome),
      ("priority_class", .string call.priorityClass.asStr),
      ("execution", result.metrics.toJson)]

/-- The calls of a batch step, if the step may make them. -/
def prepareBatchStep (call : ProgrammaticToolCall) (context : StepContext)
    (connectorCalls : Nat) (calls : List ProgrammaticBatchCall) :
    Except String (List ConnectorInvocation) := do
  require (!calls.isEmpty)
    ("programmatic batch step " ++ context.stepId ++ " requires at least one call")
  if call.maxCalls < connectorCalls + calls.length then
    .error (programmaticError .callBudgetExceeded
      ("programmatic connector call budget exceeded: max_calls=" ++ toString call.maxCalls ++
        ", attempted=" ++ toString (connectorCalls + calls.length)))
  else prepareProgrammaticBatchCalls context call.allowedConnectors [] calls

def reportFailed (report : Json) : Bool :=
  decide ((report.get "status").bind Json.asStr = some "error")

def batchStepResult (parallel continueOnError : Bool) (callReports : List Json)
    (scheduler : ProgrammaticBatchExecutionSummary) : Json :=
  let failedCalls := (callReports.filter reportFailed).length
  let byCall := callReports.filterMap fun report =>
    ((report.get "call_id").bind Json.asStr).map fun callId => (callId, report)
  .ofFields
    [("parallel", .bool parallel), ("continue_on_error", .bool continueOnError),
      ("total_calls", .ofNat callReports.length),
      ("success_calls", .ofNat (callReports.length - failedCalls)),
      ("failed_calls", .ofNat failedCalls), ("calls", .array callReports),
      ("by_call", .ofFields byCall), ("scheduler", scheduler.toJson)]

section Interpreter

variable {π ω : Type} [PolicyEngine π] (session : SpecSession) (call : ProgrammaticToolCall)
  (progress : StepProgress)

def executeConnectorStep (prepared : ConnectorInvocation) : SpecProgram π ω StepProgress := do
  let result <- invokeProgrammaticConnectorWithResilience session call.connectorRateLimits
    call.connectorCircuitBreakers prepared
  let output := connectorStepResult prepared result
  return { progress with connectorCalls := progress.connectorCalls + 1 }.wrote
    prepared.provenance.stepId output
    [("kind", .string "connector_call"), ("connector_name", .string prepared.connectorName),
      ("operation", .string prepared.operation), ("output", output)]

def executeBatchStep (stepId : String) (parallel continueOnError : Bool)
    (prepared : List ConnectorInvocation) :
    SpecProgram π ω StepProgress := do
  let executed <- executeProgrammaticBatchCalls session call.connectorRateLimits
    call.connectorCircuitBreakers call.concurrency parallel continueOnError prepared
  let output := batchStepResult parallel continueOnError executed.1 executed.2
  return { progress with
      connectorCalls := progress.connectorCalls + prepared.length }.wrote stepId output
    [("kind", .string "connector_batch"), ("parallel", .bool parallel),
      ("continue_on_error", .bool continueOnError), ("output", output)]

def stepContext (stepId : String) (stepIndex : Nat) : StepContext where
  jsonText := session.jsonText
  outputs := progress.stepOutputs
  caller := call.caller
  stepId := stepId
  stepIndex := stepIndex

def executeProgrammaticStep (index : Nat) : ProgrammaticStep -> SpecProgram π ω StepProgress
  | .setLiteral stepId value => do
    Program.lift (ensureNewStepId progress.stepOutputs stepId)
    return progress.wrote stepId value [("kind", .string "set_literal"), ("output", value)]
  | .jsonPointer stepId fromStep pointer => do
    Program.lift (ensureNewStepId progress.stepOutputs stepId)
    Program.lift (executeJsonPointer progress stepId fromStep pointer)
  | .connectorCall stepId connectorName operation requiredCapabilities retry priorityClass
      payload => do
      Program.lift (ensureNewStepId progress.stepOutputs stepId)
      let prepared <- Program.lift (prepareConnectorStep call
        (stepContext session call progress stepId index) progress.connectorCalls connectorName
        operation requiredCapabilities retry priorityClass payload)
      executeConnectorStep session call progress prepared
  | .connectorBatch stepId parallel continueOnError calls => do
    Program.lift (ensureNewStepId progress.stepOutputs stepId)
    let prepared <- Program.lift (prepareBatchStep call
      (stepContext session call progress stepId index) progress.connectorCalls calls)
    executeBatchStep session call progress stepId parallel continueOnError prepared
  | .conditional stepId fromStep pointer equals expectedExists whenTrue whenFalse => do
    Program.lift (ensureNewStepId progress.stepOutputs stepId)
    Program.lift (executeConditional session.jsonText progress stepId fromStep pointer equals
      expectedExists whenTrue whenFalse)

def executeProgrammaticSteps :
    Nat -> List ProgrammaticStep -> StepProgress -> SpecProgram π ω StepProgress
  | _, [], progress => pure progress
  | index, step :: rest, progress => do
    let progress <- executeProgrammaticStep session call progress index step
    executeProgrammaticSteps (index + 1) rest progress

/-! ## The answer -/

def concurrencyJson (concurrency : ProgrammaticConcurrencyPolicy) : Json :=
  .ofFields
    [("max_in_flight", .ofNat concurrency.maxInFlight),
      ("min_in_flight", .ofNat concurrency.minInFlight),
      ("fairness", .string concurrency.fairness.asStr),
      ("adaptive_budget", .bool concurrency.adaptiveBudget),
      ("high_weight", .ofNat concurrency.highWeight),
      ("normal_weight", .ofNat concurrency.normalWeight),
      ("low_weight", .ofNat concurrency.lowWeight),
      ("adaptive_recovery_successes", .ofNat concurrency.adaptiveRecoverySuccesses),
      ("adaptive_upshift_step", .ofNat concurrency.adaptiveUpshiftStep),
      ("adaptive_downshift_step", .ofNat concurrency.adaptiveDownshiftStep),
      ("adaptive_reduce_on",
        .array (concurrency.adaptiveReduceOn.map fun rule => .string rule.asStr))]

def circuitBreakerJson (policy : ProgrammaticCircuitBreakerPolicy) : Json :=
  .ofFields
    [("failure_threshold", .ofNat policy.failureThreshold),
      ("cooldown_ms", .ofNat policy.cooldownMs),
      ("half_open_max_calls", .ofNat policy.halfOpenMaxCalls),
      ("success_threshold", .ofNat policy.successThreshold)]

/-- The settings and the intermediate results that the answer may carry. -/
def responseDetails : List (String × Json) :=
  (if call.connectorRateLimits.isEmpty then []
    else [("connector_rate_limits", .object (call.connectorRateLimits.map fun entry =>
      (entry.1, .ofFields [("min_interval_ms", .ofNat entry.2.minIntervalMs)])))]) ++
  (if call.connectorCircuitBreakers.isEmpty then []
    else [("connector_circuit_breakers", .object (call.connectorCircuitBreakers.map fun entry =>
      (entry.1, circuitBreakerJson entry.2)))]) ++
  [("concurrency", concurrencyJson call.concurrency)] ++
  (if call.includeIntermediate then
    [("steps", .array progress.stepTrace), ("step_outputs", .object progress.stepOutputs)]
    else [])

def programmaticResponse : Except String Json := do
  let returnStep := (call.returnStep.map trim).filter fun stepId => decide (stepId ≠ "")
  let finalStepId <- okOr (returnStep.or progress.lastStepId)
    (programmaticError .invalidSpec "programmatic workflow produced no step output")
  let finalOutput <- okOr (lookup finalStepId progress.stepOutputs) (programmaticError .unknownStep
      ("programmatic return_step " ++ finalStepId ++ " does not exist"))
  .ok (.ofFields
    ([("caller", .string call.caller), ("max_calls", .ofNat call.maxCalls),
      ("connector_calls", .ofNat progress.connectorCalls), ("return_step", .string finalStepId),
      ("result", finalOutput)] ++ responseDetails call progress))

def validateProgrammaticToolCall : Except String Unit := do
  require (decide (0 < call.maxCalls)) "programmatic_tool_call max_calls must be greater than 0"
  require (!call.steps.isEmpty) "programmatic_tool_call requires at least one step"
  validateProgrammaticRateLimits call.connectorRateLimits
  validateProgrammaticCircuitBreakers call.connectorCircuitBreakers
  validateProgrammaticConcurrencyPolicy call.concurrency

/-- A call starts with rate limits and circuits of its own. -/
def resetConnectors : SpecProgram π ω Unit :=
  Program.atomic fun _ state => (.ok (), { state with rates := [], circuits := [] })

def executeProgrammaticToolCall : SpecProgram π ω Json := do
  Program.lift (validateProgrammaticToolCall call)
  resetConnectors
  let progress <- executeProgrammaticSteps session call 0 call.steps
    { stepOutputs := [], connectorCalls := 0, lastStepId := none, stepTrace := [] }
  Program.lift (programmaticResponse call progress)

end Interpreter

end LoongClaw.Spec
