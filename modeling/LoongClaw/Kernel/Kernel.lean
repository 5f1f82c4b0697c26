import LoongClaw.Foundation.Attempt
import LoongClaw.Kernel.Policy
import LoongClaw.Kernel.Planes

namespace LoongClaw.Kernel

open Foundation Contracts Attempt CapabilitySet

/-!
# The kernel

State and entry points of the kernel.  The clock reading and the state of the
world that external code may consult are arguments of each call.  The record
of adapter runs is not in the source: it is what the mediation results speak
about, and no kernel code reads it.
-/

variable {π ω : Type}

/-- The engine behind the token checks.  Authorization only reads it. -/
class PolicyEngine (π : Type) where
  issueToken : π -> VerticalPackManifest -> String -> UInt64 -> UInt64 ->
    Except PolicyError CapabilityToken × π
  authorize : π -> CapabilityToken -> String -> UInt64 -> CapabilitySet -> Except PolicyError Unit
  revokeToken : π -> String -> Except PolicyError Unit × π
  revokeGeneration : π -> UInt64 -> π

instance : PolicyEngine StaticPolicyEngine where
  issueToken engine pack agentId nowEpochS ttlS :=
    ((engine.issueToken pack agentId nowEpochS ttlS).map .ok id)
  authorize := StaticPolicyEngine.authorize
  revokeToken engine tokenId := (.ok (), engine.revokeToken tokenId)
  revokeGeneration := StaticPolicyEngine.revokeGeneration

structure PolicyExtensionContext where
  pack : VerticalPackManifest
  token : CapabilityToken
  nowEpochS : UInt64
  requiredCapabilities : CapabilitySet
  requestParameters : Option Json

structure PolicyExtension (ω : Type) where
  name : String
  authorizeExtension : PolicyExtensionContext -> ω -> Except PolicyError Unit

/-- The extensions in registration order. -/
abbrev PolicyExtensionChain (ω : Type) :=
  List (PolicyExtension ω)

namespace PolicyExtensionChain

def register (chain : PolicyExtensionChain ω) (extension : PolicyExtension ω) :
    PolicyExtensionChain ω :=
  chain ++ [extension]

/-- The first denial ends the walk. -/
def authorize (context : PolicyExtensionContext) (world : ω) :
    PolicyExtensionChain ω -> Except PolicyError Unit
  | [] => .ok ()
  | extension :: rest =>
    match extension.authorizeExtension context world with
    | .error error => .error error
    | .ok () => authorize context world rest

theorem authorize_eq_ok_iff {context : PolicyExtensionContext} {world : ω}
    {chain : PolicyExtensionChain ω} :
    authorize context world chain = .ok () ↔ ∀ extension, extension ∈ chain ->
        extension.authorizeExtension context world = .ok () := by
  induction chain with
  | nil => simp [authorize]
  | cons extension rest ih =>
    cases answer : extension.authorizeExtension context world with
    | error error => simp [authorize, answer]
    | ok accepted => simp [authorize, answer, ih]

end PolicyExtensionChain

/-- An adapter run, with the plane it was on; the harness has none. -/
structure Invocation where
  plane : Option ExecutionPlane
  run : AdapterRun
  deriving DecidableEq

/-- What is around a call: the clock reading and the rest of the world. -/
structure Ambient (ω : Type) where
  nowEpochS : UInt64
  world : ω

structure LoongClawKernel (π ω : Type) where
  policy : π
  packs : OrderedMap String VerticalPackManifest
  namespaces : OrderedMap String Namespace
  harness : HarnessBroker ω
  connectorPlane : ConnectorPlane ω
  runtimePlane : RuntimePlane ω
  toolPlane : ToolPlane ω
  memoryPlane : MemoryPlane ω
  policyExtensions : PolicyExtensionChain ω
  /-- The sink refuses an event with an error, given what it already holds. -/
  auditRefuses : List AuditEvent -> AuditEvent -> Option AuditError
  auditLog : List AuditEvent
  eventSeq : UInt64
  invocations : List Invocation

/-- Kernel code: it keeps its state changes when it returns an error. -/
abbrev KernelM (π ω α : Type) :=
  Attempt (LoongClawKernel π ω) KernelError α

namespace LoongClawKernel

def withRuntime (policy : π) (auditRefuses : List AuditEvent -> AuditEvent -> Option AuditError) :
    LoongClawKernel π ω where
  policy
  packs := []
  namespaces := []
  harness := .new
  connectorPlane := .new
  runtimePlane := .new
  toolPlane := .new
  memoryPlane := .new
  policyExtensions := []
  auditRefuses
  auditLog := []
  eventSeq := 0
  invocations := []

/-! ## Registration of extensions and adapters -/

def registerPolicyExtension (extension : PolicyExtension ω) (kernel : LoongClawKernel π ω) :
    LoongClawKernel π ω :=
  { kernel with policyExtensions := kernel.policyExtensions.register extension }

def registerHarnessAdapter (adapter : HarnessAdapter ω) (kernel : LoongClawKernel π ω) :
    LoongClawKernel π ω :=
  { kernel with harness := kernel.harness.register adapter }

def registerCoreConnectorAdapter (adapter : CoreAdapter ConnectorCommand ConnectorOutcome ω)
    (kernel : LoongClawKernel π ω) : LoongClawKernel π ω :=
  { kernel with connectorPlane := kernel.connectorPlane.registerCoreAdapter adapter }

def registerConnectorExtensionAdapter
    (adapter : ExtensionAdapter ConnectorCommand ConnectorCommand ConnectorOutcome ω)
    (kernel : LoongClawKernel π ω) : LoongClawKernel π ω :=
  { kernel with connectorPlane := kernel.connectorPlane.registerExtensionAdapter adapter }

def registerCoreRuntimeAdapter (adapter : CoreAdapter RuntimeCoreRequest PlaneOutcome ω)
    (kernel : LoongClawKernel π ω) : LoongClawKernel π ω :=
  { kernel with runtimePlane := kernel.runtimePlane.registerCoreAdapter adapter }

def registerRuntimeExtensionAdapter
    (adapter : ExtensionAdapter RuntimeCoreRequest RuntimeExtensionRequest PlaneOutcome ω)
    (kernel : LoongClawKernel π ω) : LoongClawKernel π ω :=
  { kernel with runtimePlane := kernel.runtimePlane.registerExtensionAdapter adapter }

def registerCoreToolAdapter (adapter : CoreAdapter ToolCoreRequest PlaneOutcome ω)
    (kernel : LoongClawKernel π ω) : LoongClawKernel π ω :=
  { kernel with toolPlane := kernel.toolPlane.registerCoreAdapter adapter }

def registerToolExtensionAdapter
    (adapter : ExtensionAdapter ToolCoreRequest ToolExtensionRequest PlaneOutcome ω)
    (kernel : LoongClawKernel π ω) : LoongClawKernel π ω :=
  { kernel with toolPlane := kernel.toolPlane.registerExtensionAdapter adapter }

def registerCoreMemoryAdapter (adapter : CoreAdapter MemoryCoreRequest PlaneOutcome ω)
    (kernel : LoongClawKernel π ω) : LoongClawKernel π ω :=
  { kernel with memoryPlane := kernel.memoryPlane.registerCoreAdapter adapter }

def registerMemoryExtensionAdapter
    (adapter : ExtensionAdapter MemoryCoreRequest MemoryExtensionRequest PlaneOutcome ω)
    (kernel : LoongClawKernel π ω) : LoongClawKernel π ω :=
  { kernel with memoryPlane := kernel.memoryPlane.registerExtensionAdapter adapter }

variable (name : String)

def setDefaultCoreConnectorAdapter : KernelM π ω Unit :=
  fun kernel =>
    match kernel.connectorPlane.setDefaultCoreAdapter name with
    | .error error => (.error (.connector error), kernel)
    | .ok connectorPlane => (.ok (), { kernel with connectorPlane })

def setDefaultCoreRuntimeAdapter : KernelM π ω Unit :=
  fun kernel =>
    match kernel.runtimePlane.setDefaultCoreAdapter name with
    | .error error => (.error (.runtimePlane error), kernel)
    | .ok runtimePlane => (.ok (), { kernel with runtimePlane })

def setDefaultCoreToolAdapter : KernelM π ω Unit :=
  fun kernel =>
    match kernel.toolPlane.setDefaultCoreAdapter name with
    | .error error => (.error (.toolPlane error), kernel)
    | .ok toolPlane => (.ok (), { kernel with toolPlane })

def setDefaultCoreMemoryAdapter : KernelM π ω Unit :=
  fun kernel =>
    match kernel.memoryPlane.setDefaultCoreAdapter name with
    | .error error => (.error (.memoryPlane error), kernel)
    | .ok memoryPlane => (.ok (), { kernel with memoryPlane })

/-! ## Audit records -/

/-- `evt-` followed by sixteen hexadecimal digits. -/
def eventIdText (seq : UInt64) : String :=
  "evt-" ++ String.ofList (Hex.fixedHex 16 seq.toNat)

/-- Number the event and hand it to the sink. -/
def record (timestampEpochS : UInt64) (agentId : Option String) (kind : AuditEventKind) :
    KernelM π ω Unit :=
  fun kernel =>
    let seq := kernel.eventSeq + 1
    let event := { eventId := eventIdText seq, timestampEpochS, agentId, kind }
    match kernel.auditRefuses kernel.auditLog event with
    | some error => (.error (.audit error), { kernel with eventSeq := seq })
    | none => (.ok (), { kernel with eventSeq := seq, auditLog := kernel.auditLog ++ [event] })

def recordAuditEvent (nowEpochS : UInt64) (agentId : Option String) (kind : AuditEventKind) :
    KernelM π ω Unit :=
  record nowEpochS agentId kind

def recordPlaneInvocation (timestampEpochS : UInt64) (agentId packId : String)
    (plane : ExecutionPlane) (tier : PlaneTier) (primaryAdapter : String)
    (delegatedCoreAdapter : Option String) (operation : String)
    (requiredCapabilities : CapabilitySet) : KernelM π ω Unit :=
  record timestampEpochS (some agentId)
    (.planeInvoked packId plane tier primaryAdapter delegatedCoreAdapter operation
      (iter requiredCapabilities))

/-! ## Packs and tokens -/

def registerPack (parsesAsVersion : String -> Bool) (pack : VerticalPackManifest) :
    KernelM π ω Unit :=
  fun kernel =>
    match pack.validate parsesAsVersion with
    | .error error => (.error (.pack error), kernel)
    | .ok () =>
      if kernel.packs.contains pack.packId then (.error (.duplicatePack pack.packId), kernel)
      else
        let namespaceOfPack : Namespace :=
          { packId := pack.packId
            domain := pack.domain
            membrane := pack.packId
            defaultRoute := pack.defaultRoute
            grantedCapabilities := pack.grantedCapabilities }
        (.ok (), { kernel with
          namespaces := kernel.namespaces.insert pack.packId namespaceOfPack
          packs := kernel.packs.insert pack.packId pack })

def getPack (packId : String) : KernelM π ω VerticalPackManifest :=
  fun kernel =>
    match kernel.packs.lookup packId with
    | none => (.error (.packNotFound packId), kernel)
    | some pack => (.ok pack, kernel)

section Tokens

variable [PolicyEngine π]

/-- The engine's answer, with its state put back into the kernel. -/
def onPolicy {α : Type} (operation : π -> Except PolicyError α × π) : KernelM π ω α :=
  fun kernel =>
    let (answer, policy) := operation kernel.policy
    (answer.mapError .policy, { kernel with policy })

variable (ambient : Ambient ω) (packId : String) (nowEpochS : UInt64) (pack : VerticalPackManifest)
  (token : CapabilityToken) (extensionName : String) (requiredCapabilities : CapabilitySet)
  (coreName : Option String)

def issueToken (packId agentId : String) (ttlS : UInt64) : KernelM π ω CapabilityToken := do
  let pack <- getPack packId
  let token <- onPolicy (fun engine => PolicyEngine.issueToken engine pack agentId nowEpochS ttlS)
  record nowEpochS (some agentId) (.tokenIssued token)
  return token

def revokeToken (tokenId : String) (actorAgentId : Option String) : KernelM π ω Unit := do
  onPolicy (fun engine => PolicyEngine.revokeToken engine tokenId)
  record nowEpochS actorAgentId (.tokenRevoked tokenId)

def revokeGeneration (below : UInt64) : KernelM π ω Unit :=
  onPolicy (fun engine => (.ok (), PolicyEngine.revokeGeneration engine below))

/-! ## Access checks -/

/-- The first required capability, in iteration order, outside the pack. -/
def assertPackGrants : Except KernelError Unit :=
  match (iter requiredCapabilities).find? (fun capability =>
      !pack.grants capability) with
  | some capability => .error (.packCapabilityBoundary pack.packId capability)
  | none => .ok ()

def assertConnectorAllowed (connectorName : String) : Except KernelError Unit :=
  if pack.allowsConnector connectorName then .ok ()
  else .error (.connectorNotAllowed connectorName pack.packId)

/-- Record the denial, then return it. -/
def auditDenial {α : Type} (policyError : PolicyError) : KernelM π ω α := do
  record nowEpochS (some token.agentId)
    (.authorizationDenied pack.packId token.tokenId policyError.display)
  fail (.policy policyError)

def authorizeOrAuditDenial (requestParameters : Option Json) : KernelM π ω Unit := do
  let kernel <- read
  match PolicyEngine.authorize kernel.policy token pack.packId ambient.nowEpochS
      requiredCapabilities with
  | .error policyError => auditDenial ambient.nowEpochS pack token policyError
  | .ok () =>
    match kernel.policyExtensions.authorize
        { pack, token, nowEpochS := ambient.nowEpochS, requiredCapabilities, requestParameters }
        ambient.world with
    | .error policyError => auditDenial ambient.nowEpochS pack token policyError
    | .ok () => return ()

def authorizePackOperation (requestParameters : Option Json) : KernelM π ω UInt64 := do
  lift (assertPackGrants pack requiredCapabilities)
  authorizeOrAuditDenial ambient pack token requiredCapabilities requestParameters
  return ambient.nowEpochS

/-! ## Entry points -/

/-- How a plane invocation is named in its audit record. -/
structure PlaneTarget where
  tier : PlaneTier
  primaryAdapter : String
  delegatedCoreAdapter : Option String

variable (defaultName : Option String)

def resolvedCoreAdapter : String :=
  (coreName.or defaultName).getD "default"

def coreTarget : PlaneTarget where
  tier := .core
  primaryAdapter := resolvedCoreAdapter coreName defaultName
  delegatedCoreAdapter := none

def extensionTarget : PlaneTarget where
  tier := .extension
  primaryAdapter := extensionName
  delegatedCoreAdapter := some (resolvedCoreAdapter coreName defaultName)

/-- Run a dispatch and note the adapter it reached. -/
def invoke {ε α : Type} (plane : Option ExecutionPlane) (wrapError : ε -> KernelError)
    (dispatch : LoongClawKernel π ω -> Dispatch ε α) : KernelM π ω α :=
  fun kernel =>
    let attempt := dispatch kernel
    (attempt.result.mapError wrapError,
      { kernel with
        invocations := kernel.invocations ++
          (attempt.reached.map (fun run => { plane, run })).toList })

structure KernelDispatch where
  adapterRoute : ExecutionRoute
  outcome : HarnessOutcome

def executeTask (task : TaskIntent) : KernelM π ω KernelDispatch := do
  let pack <- getPack packId
  let now <- authorizePackOperation ambient pack token task.requiredCapabilities none
  let request : HarnessRequest :=
    { tokenId := token.tokenId
      packId := pack.packId
      agentId := token.agentId
      taskId := task.taskId
      objective := task.objective
      payload := task.payload }
  let route := pack.defaultRoute
  let outcome <- invoke none .harness (fun kernel =>
    kernel.harness.execute route request ambient.world)
  record now (some token.agentId)
    (.taskDispatched pack.packId task.taskId route (iter task.requiredCapabilities))
  return { adapterRoute := route, outcome }

structure ConnectorDispatch where
  connectorName : String
  outcome : ConnectorOutcome

/-- The body of the two connector entry points.  It alone checks the pack's
connector list and records the connector beside the plane. -/
def executeConnector (target : LoongClawKernel π ω -> PlaneTarget)
    (dispatch : LoongClawKernel π ω -> Dispatch PlaneError ConnectorOutcome)
    (command : ConnectorCommand) : KernelM π ω ConnectorDispatch := do
  let pack <- getPack packId
  lift (assertConnectorAllowed pack command.connectorName)
  let now <- authorizePackOperation ambient pack token command.requiredCapabilities none
  let kernel <- read
  let outcome <- invoke (some .connector) .connector dispatch
  record now (some token.agentId)
    (.connectorInvoked pack.packId command.connectorName command.operation
      (iter command.requiredCapabilities))
  recordPlaneInvocation now token.agentId pack.packId .connector (target kernel).tier
    (target kernel).primaryAdapter (target kernel).delegatedCoreAdapter command.operation
    command.requiredCapabilities
  return { connectorName := command.connectorName, outcome }

def executeConnectorCore (command : ConnectorCommand) : KernelM π ω ConnectorDispatch :=
  executeConnector ambient packId token
    (fun kernel => coreTarget coreName kernel.connectorPlane.defaultCoreAdapter)
    (fun kernel => kernel.connectorPlane.executeCore coreName command ambient.world) command

def executeConnectorExtension (command : ConnectorCommand) : KernelM π ω ConnectorDispatch :=
  executeConnector ambient packId token
    (fun kernel => extensionTarget extensionName coreName kernel.connectorPlane.defaultCoreAdapter)
    (fun kernel =>
      kernel.connectorPlane.executeExtension extensionName coreName command ambient.world) command

/-- What distinguishes the runtime, tool and memory entry points. -/
structure PlaneOperation (π ω : Type) where
  plane : ExecutionPlane
  wrapError : PlaneError -> KernelError
  operation : String
  requestParameters : Option Json
  target : LoongClawKernel π ω -> PlaneTarget
  dispatch : LoongClawKernel π ω -> ω -> Dispatch PlaneError PlaneOutcome

/-- The body of the runtime, tool and memory entry points. -/
def executeOnPlane (operation : PlaneOperation π ω) : KernelM π ω PlaneOutcome := do
  let pack <- getPack packId
  let now <- authorizePackOperation ambient pack token requiredCapabilities
    operation.requestParameters
  let kernel <- read
  let outcome <- invoke (some operation.plane) operation.wrapError (fun kernel =>
    operation.dispatch kernel ambient.world)
  recordPlaneInvocation now token.agentId pack.packId operation.plane
    (operation.target kernel).tier (operation.target kernel).primaryAdapter
    (operation.target kernel).delegatedCoreAdapter operation.operation requiredCapabilities
  return outcome

def runtimeCoreOperation (request : RuntimeCoreRequest) : PlaneOperation π ω where
  plane := .runtime
  wrapError := .runtimePlane
  operation := request.action
  requestParameters := none
  target kernel := coreTarget coreName kernel.runtimePlane.defaultCoreAdapter
  dispatch kernel world := kernel.runtimePlane.executeCore coreName request world

def runtimeExtensionOperation (request : RuntimeExtensionRequest) : PlaneOperation π ω where
  plane := .runtime
  wrapError := .runtimePlane
  operation := request.action
  requestParameters := none
  target kernel := extensionTarget extensionName coreName kernel.runtimePlane.defaultCoreAdapter
  dispatch kernel world :=
    kernel.runtimePlane.executeExtension extensionName coreName request world

/-- What the policy extensions are shown of a tool call. -/
def toolPolicyParams (toolName : String) (payload : Json) : Json :=
  .object [("payload", payload), ("tool_name", .string toolName)]

def toolCoreOperation (request : ToolCoreRequest) : PlaneOperation π ω where
  plane := .tool
  wrapError := .toolPlane
  operation := request.toolName
  requestParameters := some (toolPolicyParams request.toolName request.payload)
  target kernel := coreTarget coreName kernel.toolPlane.defaultCoreAdapter
  dispatch kernel world := kernel.toolPlane.executeCore coreName request world

def toolExtensionOperation (request : ToolExtensionRequest) : PlaneOperation π ω where
  plane := .tool
  wrapError := .toolPlane
  operation := request.extensionAction
  requestParameters := some (toolPolicyParams request.extensionAction request.payload)
  target kernel := extensionTarget extensionName coreName kernel.toolPlane.defaultCoreAdapter
  dispatch kernel world := kernel.toolPlane.executeExtension extensionName coreName request world

def memoryCoreOperation (request : MemoryCoreRequest) : PlaneOperation π ω where
  plane := .memory
  wrapError := .memoryPlane
  operation := request.operation
  requestParameters := none
  target kernel := coreTarget coreName kernel.memoryPlane.defaultCoreAdapter
  dispatch kernel world := kernel.memoryPlane.executeCore coreName request world

def memoryExtensionOperation (request : MemoryExtensionRequest) : PlaneOperation π ω where
  plane := .memory
  wrapError := .memoryPlane
  operation := request.operation
  requestParameters := none
  target kernel := extensionTarget extensionName coreName kernel.memoryPlane.defaultCoreAdapter
  dispatch kernel world :=
    kernel.memoryPlane.executeExtension extensionName coreName request world

def executeRuntimeCore (request : RuntimeCoreRequest) : KernelM π ω PlaneOutcome :=
  executeOnPlane ambient packId token requiredCapabilities (runtimeCoreOperation coreName request)

variable (extensionName : String)

def executeRuntimeExtension (coreName : Option String)
    (request : RuntimeExtensionRequest) : KernelM π ω PlaneOutcome :=
  executeOnPlane ambient packId token requiredCapabilities
    (runtimeExtensionOperation extensionName coreName request)

def executeToolCore (request : ToolCoreRequest) : KernelM π ω PlaneOutcome :=
  executeOnPlane ambient packId token requiredCapabilities (toolCoreOperation coreName request)

def executeToolExtension (coreName : Option String)
    (request : ToolExtensionRequest) : KernelM π ω PlaneOutcome :=
  executeOnPlane ambient packId token requiredCapabilities
    (toolExtensionOperation extensionName coreName request)

def executeMemoryCore (request : MemoryCoreRequest) : KernelM π ω PlaneOutcome :=
  executeOnPlane ambient packId token requiredCapabilities (memoryCoreOperation coreName request)

def executeMemoryExtension (coreName : Option String)
    (request : MemoryExtensionRequest) : KernelM π ω PlaneOutcome :=
  executeOnPlane ambient packId token requiredCapabilities
    (memoryExtensionOperation extensionName coreName request)

end Tokens

end LoongClawKernel

end LoongClaw.Kernel
