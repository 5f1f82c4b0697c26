import LoongClaw.Spec.Approval
import LoongClaw.Spec.Connectors

namespace LoongClaw.Spec

open Foundation Contracts Kernel LoongClawKernel
open Plugins (IntegrationCatalog)

/-!
# Running a spec

A spec is run only if no guard blocks it.  The approval guard is one of them.
Then its plugins and provisioning fill the integration catalog and the pack, the
kernel is set up with them, and the operation is executed.  What the other
guards find and what the preparation gives are parameters.
-/

structure DefaultCoreSelection where
  (connector runtime tool memory : Option String)

structure RunnerSpec where
  pack : VerticalPackManifest
  agentId : String
  ttlS : UInt64
  approval : Option HumanApprovalSpec
  defaults : Option DefaultCoreSelection
  operation : OperationSpec

/-- What the guards besides the approval guard find. -/
structure SpecGuards where
  (securityPolicyError bridgeMismatch awarenessBlock : Option String)

/-- What plugins, provisioning and hotfixes leave. -/
structure PreparedSpec where
  catalog : IntegrationCatalog
  pack : VerticalPackManifest
  searchTools : String -> Nat -> Bool -> Bool -> List Json

structure SpecEnvironment (ω : Type) where
  host : SpecHost ω
  approval : ApprovalEnvironment
  guards : SpecGuards
  preparation : Except String PreparedSpec

structure SpecRunReport where
  (packId agentId operationKind : String)
  blockedReason : Option String
  approvalGuard : ApprovalDecisionReport
  outcome : Json

/-! ## The operation -/

def routeJson (route : ExecutionRoute) : Json :=
  .ofFields
    [("harness_kind", .string route.harnessKind.debugName), ("adapter", .ofText route.adapter)]

def taskJson (dispatch : KernelDispatch) : Json :=
  .ofFields
    [("route", routeJson dispatch.adapterRoute), ("outcome", .ofFields
        [("status", .string dispatch.outcome.status), ("output", dispatch.outcome.output)])]

def connectorJson (dispatch : ConnectorDispatch) : Json :=
  .ofFields
    [("connector_name", .string dispatch.connectorName), ("outcome", outcomeJson dispatch.outcome)]

def planeJson (outcome : PlaneOutcome) : Json :=
  .ofFields
    [("outcome", .ofFields [("status", .string outcome.status), ("payload", outcome.payload)])]

section Operation

variable {π ω : Type} [PolicyEngine π] (session : SpecSession) (prepared : PreparedSpec)
  (operation : OperationSpec)

/-- The record that an operation of a spec was executed itself. -/
def ownExecution (adapter : Option AdapterRun) : Execution where
  key := operationApprovalKey operation
  origin := .operation
  adapter := adapter
  command := operationCommand operation

/-- Execute an operation with one call of the kernel. -/
def executeDirectly {α : Type} (label : String) (answer : α -> Json)
    (action : Ambient ω -> KernelM π ω α) : SpecProgram π ω (String × Json) := do
  let result <- onKernel
    (fun error => label ++ " execution from spec failed: " ++ session.kernelErrorText error)
    (fun run => ownExecution operation (some run)) action
  return (operationApprovalKind operation, answer result)

def executeToolSearch (query : String) (limit : Nat) (includeDeferred includeExamples : Bool) :
    SpecProgram π ω (String × Json) :=
  let found := prepared.searchTools query limit includeDeferred includeExamples
  Program.atomic fun _ state =>
    (.ok (operationApprovalKind operation, .ofFields
        [("query", .string query), ("limit", .ofNat limit),
          ("include_deferred", .bool includeDeferred),
          ("include_examples", .bool includeExamples), ("returned", .ofNat found.length),
          ("results", .array found)]),
      { state with executions := state.executions ++ [ownExecution operation none] })

def executeSpecOperation : SpecProgram π ω (String × Json) :=
  let packId := session.packId
  let token := session.token
  match operation with
  | .task task =>
    executeDirectly session operation "task" taskJson fun ambient =>
      executeTask ambient packId token task
  | .connectorLegacy command =>
    executeDirectly session operation "legacy connector" connectorJson
      fun ambient => executeConnectorCore ambient packId token (some command.connectorName) command
  | .connectorCore command core =>
    executeDirectly session operation "core connector" connectorJson
      fun ambient => executeConnectorCore ambient packId token core command
  | .connectorExtension command extension core =>
    executeDirectly session operation "extension connector" connectorJson
      fun ambient => executeConnectorExtension ambient packId token extension core command
  | .runtimeCore requiredCapabilities request core =>
    executeDirectly session operation "runtime core" planeJson fun ambient =>
      executeRuntimeCore ambient packId token requiredCapabilities core request
  | .runtimeExtension requiredCapabilities request extension core =>
    executeDirectly session operation "runtime extension" planeJson fun ambient =>
      executeRuntimeExtension ambient packId token requiredCapabilities extension core request
  | .toolCore requiredCapabilities request core =>
    executeDirectly session operation "tool core" planeJson fun ambient =>
      executeToolCore ambient packId token requiredCapabilities core request
  | .toolExtension requiredCapabilities request extension core =>
    executeDirectly session operation "tool extension" planeJson fun ambient =>
      executeToolExtension ambient packId token requiredCapabilities extension core request
  | .memoryCore requiredCapabilities request core =>
    executeDirectly session operation "memory core" planeJson fun ambient =>
      executeMemoryCore ambient packId token requiredCapabilities core request
  | .memoryExtension requiredCapabilities request extension core =>
    executeDirectly session operation "memory extension" planeJson fun ambient =>
      executeMemoryExtension ambient packId token requiredCapabilities extension core request
  | .toolSearch query limit includeDeferred includeExamples =>
    executeToolSearch prepared operation query limit includeDeferred includeExamples
  | .programmaticToolCall call => do
    let outcome <- executeProgrammaticToolCall session call
    return (operationApprovalKind operation, outcome)

end Operation

/-! ## The run -/

section Run

variable {π ω : Type} [PolicyEngine π] (environment : SpecEnvironment ω) (spec : RunnerSpec)

/-- A later guard replaces the reason of an earlier one, and none takes it
back. -/
def guardReason (guards : SpecGuards) (guard : ApprovalDecisionReport) : Option String :=
  guards.awarenessBlock.or (guards.bridgeMismatch.or
    (if guard.approved then guards.securityPolicyError else some guard.reason))

/-- Change the kernel without executing anything. -/
def configure {α : Type} (errorText : String -> String)
    (action : Ambient ω -> KernelM π ω α) : SpecProgram π ω α :=
  Program.atomic fun moment state =>
    let outcome := action moment.ambient state.kernel
    (outcome.1.mapError fun error => errorText (environment.host.kernelErrorText error),
      { state with kernel := outcome.2 })

/-- The default adapter of a plane, if the spec names one. -/
def selectDefault (plane : String) (name : Option String)
    (select : String -> KernelM π ω Unit) : SpecProgram π ω Unit :=
  match name with
  | none => pure ()
  | some name =>
    configure environment (fun error =>
        "invalid default " ++ plane ++ " core adapter (" ++ name ++ "): " ++ error)
      fun _ => select name

def applyDefaultSelection (defaults : Option DefaultCoreSelection) : SpecProgram π ω Unit := do
  selectDefault environment "connector" (defaults.bind DefaultCoreSelection.connector)
    setDefaultCoreConnectorAdapter
  selectDefault environment "runtime" (defaults.bind DefaultCoreSelection.runtime)
    setDefaultCoreRuntimeAdapter
  selectDefault environment "tool" (defaults.bind DefaultCoreSelection.tool)
    setDefaultCoreToolAdapter
  selectDefault environment "memory" (defaults.bind DefaultCoreSelection.memory)
    setDefaultCoreMemoryAdapter

variable (prepared : PreparedSpec)

def registerConnectors : SpecProgram π ω Unit :=
  configure environment (fun error => error) fun _ kernel =>
    (.ok (), { kernel with
      connectorPlane := registerDynamicCatalogConnectors environment.host prepared.catalog
        kernel.connectorPlane })

def specSession (token : CapabilityToken) : SpecSession where
  packId := prepared.pack.packId
  token := token
  jsonText := environment.host.jsonText
  kernelErrorText := environment.host.kernelErrorText
  scaled := environment.host.scaled

def runPrepared : SpecProgram π ω (String × Json) := do
  registerConnectors environment prepared
  configure environment (fun error => "spec pack registration failed: " ++ error) fun _ =>
    registerPack environment.host.parsesAsVersion prepared.pack
  applyDefaultSelection environment spec.defaults
  let token <- configure environment (fun error => "token issue for spec failed: " ++ error)
    fun ambient => issueToken ambient.nowEpochS prepared.pack.packId spec.agentId spec.ttlS
  executeSpecOperation (specSession environment prepared token) prepared spec.operation

def blockedOutcome (reason : String) : Json :=
  .ofFields [("status", .string "blocked"), ("reason", .string reason)]

def blockedReport (guard : ApprovalDecisionReport) (packId reason : String) : SpecRunReport where
  packId := packId
  agentId := spec.agentId
  operationKind := "blocked"
  blockedReason := some reason
  approvalGuard := guard
  outcome := blockedOutcome reason

def runReport (guard : ApprovalDecisionReport) (prepared : PreparedSpec) :
    Except String (String × Json) -> SpecRunReport
  | .error reason => blockedReport spec guard prepared.pack.packId reason
  | .ok (operationKind, outcome) =>
    { packId := prepared.pack.packId
      agentId := spec.agentId
      operationKind := operationKind
      blockedReason := none
      approvalGuard := guard
      outcome := outcome }

def specGuard : ApprovalDecisionReport :=
  evaluateApprovalGuard environment.approval spec.approval spec.operation

def executeSpec : SpecProgram π ω SpecRunReport :=
  let guard := specGuard environment spec
  match guardReason environment.guards guard with
  | some reason => pure (blockedReport spec guard spec.pack.packId reason)
  | none =>
    match environment.preparation with
    | .error reason => pure (blockedReport spec guard spec.pack.packId reason)
    | .ok prepared => do
      let result <- (runPrepared environment spec prepared).caught
      return runReport spec guard prepared result

/-- A run starts with the built-in connectors. -/
def initialState (kernel : LoongClawKernel π ω) : SpecState π ω where
  kernel := { kernel with connectorPlane := builtinConnectorPlane }
  rates := []
  circuits := []
  executions := []

end Run

end LoongClaw.Spec
