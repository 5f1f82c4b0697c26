import LoongClaw.Kernel.Kernel

namespace LoongClaw.Spec

open Foundation Contracts

/-!
# Operations of a spec

A spec names one operation.  A programmatic tool call is an operation with
steps of its own, some of which call connectors.  An operation has a key, under
which a policy approves or denies it.
-/

/-! ## Policies of programmatic calls -/

inductive ProgrammaticPriorityClass where
  | high
  | normal
  | low
  deriving DecidableEq

def ProgrammaticPriorityClass.asStr : ProgrammaticPriorityClass -> String
  | .high => "high"
  | .normal => "normal"
  | .low => "low"

inductive ProgrammaticFairnessPolicy where
  | strictRoundRobin
  | weightedRoundRobin

def ProgrammaticFairnessPolicy.asStr : ProgrammaticFairnessPolicy -> String
  | .strictRoundRobin => "strict_round_robin"
  | .weightedRoundRobin => "weighted_round_robin"

inductive ProgrammaticAdaptiveReduceOn where
  | anyError
  | connectorExecutionError
  | circuitOpen
  | connectorNotFound
  | connectorNotAllowed
  | capabilityDenied
  | policyDenied
  deriving DecidableEq

def ProgrammaticAdaptiveReduceOn.asStr : ProgrammaticAdaptiveReduceOn -> String
  | .anyError => "any_error"
  | .connectorExecutionError => "connector_execution_error"
  | .circuitOpen => "circuit_open"
  | .connectorNotFound => "connector_not_found"
  | .connectorNotAllowed => "connector_not_allowed"
  | .capabilityDenied => "capability_denied"
  | .policyDenied => "policy_denied"

/-- A floating-point number: its value, if it is finite, and how it is
printed. -/
structure FloatNumber where
  value : Option Rat
  text : String

structure ProgrammaticRetryPolicy where
  (maxAttempts initialBackoffMs maxBackoffMs : Nat)
  jitterRatio : FloatNumber
  adaptiveJitter : Bool

/-- The policy of a call that names none. -/
def defaultProgrammaticRetryPolicy : ProgrammaticRetryPolicy where
  maxAttempts := 1
  initialBackoffMs := 100
  maxBackoffMs := 2000
  jitterRatio := { value := some (1 / 5), text := "0.2" }
  adaptiveJitter := true

structure ProgrammaticConnectorRateLimit where
  minIntervalMs : Nat

structure ProgrammaticCircuitBreakerPolicy where
  (failureThreshold cooldownMs halfOpenMaxCalls successThreshold : Nat)

structure ProgrammaticConcurrencyPolicy where
  (maxInFlight minInFlight : Nat)
  fairness : ProgrammaticFairnessPolicy
  adaptiveBudget : Bool
  (highWeight normalWeight lowWeight adaptiveRecoverySuccesses adaptiveUpshiftStep : Nat)
  adaptiveDownshiftStep : Nat
  adaptiveReduceOn : List ProgrammaticAdaptiveReduceOn

def defaultProgrammaticConcurrencyPolicy : ProgrammaticConcurrencyPolicy where
  maxInFlight := 4
  minInFlight := 1
  fairness := .weightedRoundRobin
  adaptiveBudget := true
  highWeight := 4
  normalWeight := 2
  lowWeight := 1
  adaptiveRecoverySuccesses := 2
  adaptiveUpshiftStep := 1
  adaptiveDownshiftStep := 1
  adaptiveReduceOn := [.connectorExecutionError, .circuitOpen]

/-! ## Steps -/

structure ProgrammaticBatchCall where
  (callId connectorName operation : String)
  requiredCapabilities : CapabilitySet
  retry : Option ProgrammaticRetryPolicy
  priorityClass : ProgrammaticPriorityClass
  payload : Json

inductive ProgrammaticStep where
  | setLiteral (stepId : String) (value : Json)
  | jsonPointer (stepId fromStep pointer : String)
  | connectorCall (stepId connectorName operation : String)
      (requiredCapabilities : CapabilitySet) (retry : Option ProgrammaticRetryPolicy)
      (priorityClass : ProgrammaticPriorityClass) (payload : Json)
  | connectorBatch (stepId : String) (parallel continueOnError : Bool)
      (calls : List ProgrammaticBatchCall)
  | conditional (stepId fromStep : String) (pointer : Option String) (equals : Option Json)
      (expectedExists : Option Bool) (whenTrue : Json) (whenFalse : Option Json)

structure ProgrammaticToolCall where
  caller : String
  maxCalls : Nat
  includeIntermediate : Bool
  allowedConnectors : List String
  connectorRateLimits : OrderedMap String ProgrammaticConnectorRateLimit
  connectorCircuitBreakers : OrderedMap String ProgrammaticCircuitBreakerPolicy
  concurrency : ProgrammaticConcurrencyPolicy
  returnStep : Option String
  steps : List ProgrammaticStep

/-! ## Operations -/

inductive OperationSpec where
  | task (task : TaskIntent)
  | connectorLegacy (command : ConnectorCommand)
  | connectorCore (command : ConnectorCommand) (core : Option String)
  | connectorExtension (command : ConnectorCommand) (extension : String) (core : Option String)
  | runtimeCore (requiredCapabilities : CapabilitySet) (request : RuntimeCoreRequest)
      (core : Option String)
  | runtimeExtension (requiredCapabilities : CapabilitySet) (request : RuntimeExtensionRequest)
      (extension : String) (core : Option String)
  | toolCore (requiredCapabilities : CapabilitySet) (request : ToolCoreRequest)
      (core : Option String)
  | toolExtension (requiredCapabilities : CapabilitySet) (request : ToolExtensionRequest)
      (extension : String) (core : Option String)
  | memoryCore (requiredCapabilities : CapabilitySet) (request : MemoryCoreRequest)
      (core : Option String)
  | memoryExtension (requiredCapabilities : CapabilitySet) (request : MemoryExtensionRequest)
      (extension : String) (core : Option String)
  | toolSearch (query : String) (limit : Nat) (includeDeferred includeExamples : Bool)
  | programmaticToolCall (call : ProgrammaticToolCall)

def operationApprovalKind : OperationSpec -> String
  | .task _ => "task"
  | .connectorLegacy _ => "connector_legacy"
  | .connectorCore _ _ => "connector_core"
  | .connectorExtension _ _ _ => "connector_extension"
  | .runtimeCore _ _ _ => "runtime_core"
  | .runtimeExtension _ _ _ _ => "runtime_extension"
  | .toolCore _ _ _ => "tool_core"
  | .toolExtension _ _ _ _ => "tool_extension"
  | .memoryCore _ _ _ => "memory_core"
  | .memoryExtension _ _ _ _ => "memory_extension"
  | .toolSearch _ _ _ _ => "tool_search"
  | .programmaticToolCall _ => "programmatic_tool_call"

/-- The key of a connector call on a core adapter. -/
def connectorCoreKey (connectorName operation : String) : String :=
  "connector_core:" ++ connectorName ++ ":" ++ operation

def operationApprovalKey : OperationSpec -> String
  | .task task => "task:" ++ task.taskId
  | .connectorLegacy command =>
    "connector_legacy:" ++ command.connectorName ++ ":" ++ command.operation
  | .connectorCore command _ => connectorCoreKey command.connectorName command.operation
  | .connectorExtension command extension _ =>
    "connector_extension:" ++ extension ++ ":" ++ command.connectorName ++ ":" ++ command.operation
  | .runtimeCore _ request _ => "runtime_core:" ++ request.action
  | .runtimeExtension _ request extension _ =>
    "runtime_extension:" ++ extension ++ ":" ++ request.action
  | .toolCore _ request _ => "tool_core:" ++ request.toolName
  | .toolExtension _ request extension _ =>
    "tool_extension:" ++ extension ++ ":" ++ request.extensionAction
  | .memoryCore _ request _ => "memory_core:" ++ request.operation
  | .memoryExtension _ request extension _ =>
    "memory_extension:" ++ extension ++ ":" ++ request.operation
  | .toolSearch query _ _ _ => "tool_search:" ++ query
  | .programmaticToolCall call => "programmatic_tool_call:" ++ call.caller

/-- The command that an operation gives to a connector itself. -/
def operationCommand : OperationSpec -> Option ConnectorCommand
  | .connectorLegacy command => some command
  | .connectorCore command _ => some command
  | .connectorExtension command _ _ => some command
  | _ => none

/-! ## Inner calls -/

/-- The keys of the connector calls of a step. -/
def stepCallKeys : ProgrammaticStep -> List String
  | .connectorCall _ connectorName operation _ _ _ _ => [connectorCoreKey connectorName operation]
  | .connectorBatch _ _ _ calls =>
    calls.map fun call => connectorCoreKey call.connectorName call.operation
  | _ => []

/-- The keys of the connector calls inside an operation. -/
def innerCallKeys : OperationSpec -> List String
  | .programmaticToolCall call => call.steps.flatMap stepCallKeys
  | _ => []

end LoongClaw.Spec
