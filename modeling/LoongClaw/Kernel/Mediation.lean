import LoongClaw.Kernel.Kernel

namespace LoongClaw.Kernel

open Foundation Contracts Attempt CapabilitySet

/-!
# One reference monitor behind nine entry points

A call is judged by its pack, its token, the capabilities it requires and the
connector it names.  The verdict below is that judgement with no effects, and
`perform_eq_mediated` shows that every entry point acts on exactly this
verdict.  The results about access and about the audit trail read the verdict
and never the entry points.
-/

variable {π ω : Type}

/-- The nine entry points with their own arguments.  Pack and token are given
beside the call. -/
inductive KernelCall where
  | executeTask (task : TaskIntent)
  | executeConnectorCore (coreName : Option String) (command : ConnectorCommand)
  | executeConnectorExtension (extensionName : String) (coreName : Option String)
      (command : ConnectorCommand)
  | executeRuntimeCore (required : CapabilitySet) (coreName : Option String)
      (request : RuntimeCoreRequest)
  | executeRuntimeExtension (required : CapabilitySet) (extensionName : String)
      (coreName : Option String) (request : RuntimeExtensionRequest)
  | executeToolCore (required : CapabilitySet) (coreName : Option String)
      (request : ToolCoreRequest)
  | executeToolExtension (required : CapabilitySet) (extensionName : String)
      (coreName : Option String) (request : ToolExtensionRequest)
  | executeMemoryCore (required : CapabilitySet) (coreName : Option String)
      (request : MemoryCoreRequest)
  | executeMemoryExtension (required : CapabilitySet) (extensionName : String)
      (coreName : Option String) (request : MemoryExtensionRequest)

namespace KernelCall

def required : KernelCall -> CapabilitySet
  | executeTask task => task.requiredCapabilities
  | executeConnectorCore _ command => command.requiredCapabilities
  | executeConnectorExtension _ _ command => command.requiredCapabilities
  | executeRuntimeCore required _ _ => required
  | executeRuntimeExtension required _ _ _ => required
  | executeToolCore required _ _ => required
  | executeToolExtension required _ _ _ => required
  | executeMemoryCore required _ _ => required
  | executeMemoryExtension required _ _ _ => required

/-- The connector whose use the pack has to allow. -/
def connector : KernelCall -> Option String
  | executeConnectorCore _ command => some command.connectorName
  | executeConnectorExtension _ _ command => some command.connectorName
  | _ => none

/-- What the policy extensions see of the request. -/
def requestParameters : KernelCall -> Option Json
  | executeToolCore _ _ request =>
    some (LoongClawKernel.toolPolicyParams request.toolName request.payload)
  | executeToolExtension _ _ _ request =>
    some (LoongClawKernel.toolPolicyParams request.extensionAction request.payload)
  | _ => none

end KernelCall

namespace LoongClawKernel

variable [PolicyEngine π]

variable (ambient : Ambient ω) (packId : String) (token : CapabilityToken)
  (pack : VerticalPackManifest) (call : KernelCall) (kernel : LoongClawKernel π ω)

/-- Make the call and drop the value it returns. -/
def perform : KernelCall -> KernelM π ω Unit
  | .executeTask task => do
    let _ <- executeTask ambient packId token task
  | .executeConnectorCore coreName command => do
    let _ <- executeConnectorCore ambient packId token coreName command
  | .executeConnectorExtension extensionName coreName command => do
    let _ <- executeConnectorExtension ambient packId token extensionName coreName command
  | .executeRuntimeCore required coreName request => do
    let _ <- executeRuntimeCore ambient packId token required coreName request
  | .executeRuntimeExtension required extensionName coreName request => do
    let _ <- executeRuntimeExtension ambient packId token required extensionName coreName request
  | .executeToolCore required coreName request => do
    let _ <- executeToolCore ambient packId token required coreName request
  | .executeToolExtension required extensionName coreName request => do
    let _ <- executeToolExtension ambient packId token required extensionName coreName request
  | .executeMemoryCore required coreName request => do
    let _ <- executeMemoryCore ambient packId token required coreName request
  | .executeMemoryExtension required extensionName coreName request => do
    let _ <- executeMemoryExtension ambient packId token required extensionName coreName request

/-! ## The verdict -/

/-- How the access rules judge a call. -/
inductive Verdict where
  | unknownPack
  | connectorRefused (pack : VerticalPackManifest) (connector : String)
  | outsidePack (pack : VerticalPackManifest) (capability : Capability)
  | denied (pack : VerticalPackManifest) (error : PolicyError)
  | admitted (pack : VerticalPackManifest)

def extensionContext (pack : VerticalPackManifest) : PolicyExtensionContext where
  pack
  token
  nowEpochS := ambient.nowEpochS
  requiredCapabilities := call.required
  requestParameters := call.requestParameters

/-- The token policy and then the extensions. -/
def policyVerdict (pack : VerticalPackManifest) (kernel : LoongClawKernel π ω) : Verdict :=
  match PolicyEngine.authorize kernel.policy token pack.packId ambient.nowEpochS call.required with
  | .error error => .denied pack error
  | .ok () =>
    match kernel.policyExtensions.authorize (extensionContext ambient token call pack)
        ambient.world with
    | .error error => .denied pack error
    | .ok () => .admitted pack

def boundaryVerdict (pack : VerticalPackManifest) (kernel : LoongClawKernel π ω) : Verdict :=
  match firstMissing call.required pack.grantedCapabilities with
  | some capability => .outsidePack pack capability
  | none => policyVerdict ambient token call pack kernel

def packVerdict (pack : VerticalPackManifest) (kernel : LoongClawKernel π ω) : Verdict :=
  match call.connector.filter (fun connector => !pack.allowsConnector connector) with
  | some connector => .connectorRefused pack connector
  | none => boundaryVerdict ambient token call pack kernel

def verdict : Verdict :=
  match kernel.packs.lookup packId with
  | none => .unknownPack
  | some pack => packVerdict ambient token call pack kernel

/-- Within the boundary of the pack the policy decides. -/
theorem verdict_of_boundary (registered : kernel.packs.lookup packId = some pack)
    (allowed : ∀ connector, call.connector = some connector -> connector ∈ pack.allowedConnectors)
    (covered : call.required ⊆ pack.grantedCapabilities) :
    verdict ambient packId token call kernel = policyVerdict ambient token call pack kernel := by
  have admits : call.connector.filter (fun connector =>
    !pack.allowsConnector connector) = none := by
    simpa [Option.filter_eq_none_iff, VerticalPackManifest.allowsConnector] using allowed
  simp only [verdict, registered, packVerdict, admits, boundaryVerdict,
    firstMissing_eq_none_iff.mpr covered]

/-- What each verdict says about the pack and the call. -/
theorem verdict_facts :
    match verdict ambient packId token call kernel with
    | .unknownPack => kernel.packs.lookup packId = none
    | .connectorRefused pack connector => kernel.packs.lookup packId = some pack /\
        call.connector = some connector /\ connector ∉ pack.allowedConnectors
    | .outsidePack pack _ => kernel.packs.lookup packId = some pack /\
        ¬ call.required ⊆ pack.grantedCapabilities
    | .denied pack _ => kernel.packs.lookup packId = some pack /\
        (∀ connector, call.connector = some connector ->
          connector ∈ pack.allowedConnectors) /\ call.required ⊆ pack.grantedCapabilities
    | .admitted pack => kernel.packs.lookup packId = some pack /\
        (∀ connector, call.connector = some connector ->
          connector ∈ pack.allowedConnectors) /\ call.required ⊆ pack.grantedCapabilities := by
  cases registered : kernel.packs.lookup packId with
  | none => simp only [verdict, registered]
  | some pack =>
    cases refused : call.connector.filter (fun connector => !pack.allowsConnector connector) with
    | some connector =>
      have facts := Option.filter_eq_some_iff.mp refused
      simp only [verdict, registered, packVerdict, refused]
      simpa [VerticalPackManifest.allowsConnector] using facts
    | none =>
      have allowed : ∀ connector, call.connector = some connector ->
          connector ∈ pack.allowedConnectors := by
        simpa [Option.filter_eq_none_iff, VerticalPackManifest.allowsConnector] using refused
      cases missing : firstMissing call.required pack.grantedCapabilities with
      | some capability =>
        simp only [verdict, registered, packVerdict, refused, boundaryVerdict, missing]
        refine ⟨trivial, fun covered => ?_⟩
        rw [firstMissing_eq_none_iff.mpr covered] at missing
        cases missing
      | none =>
        have covered := firstMissing_eq_none_iff.mp missing
        rw [verdict_of_boundary ambient packId token pack call kernel registered allowed covered]
        unfold policyVerdict
        cases PolicyEngine.authorize kernel.policy token pack.packId ambient.nowEpochS
            call.required with
        | error error => exact ⟨rfl, allowed, covered⟩
        | ok accepted =>
          cases kernel.policyExtensions.authorize
              (extensionContext ambient token call pack) ambient.world <;>
            exact ⟨rfl, allowed, covered⟩

/-! ## What an admitted call does -/

/-- Erase the value a dispatch returns and lift its error. -/
def eraseDispatch {ε α : Type} (wrapError : ε -> KernelError) (attempt : Dispatch ε α) :
    Dispatch KernelError Unit where
  reached := attempt.reached
  result :=
    match attempt.result with
    | .error error => .error (wrapError error)
    | .ok _ => .ok ()

/-- The plane an admitted call goes to. -/
def calledPlane : KernelCall -> Option ExecutionPlane
  | .executeTask _ => none
  | .executeConnectorCore _ _ => some .connector
  | .executeConnectorExtension _ _ _ => some .connector
  | .executeRuntimeCore _ _ _ => some .runtime
  | .executeRuntimeExtension _ _ _ _ => some .runtime
  | .executeToolCore _ _ _ => some .tool
  | .executeToolExtension _ _ _ _ => some .tool
  | .executeMemoryCore _ _ _ => some .memory
  | .executeMemoryExtension _ _ _ _ => some .memory

def taskRequest (task : TaskIntent) : HarnessRequest where
  tokenId := token.tokenId
  packId := pack.packId
  agentId := token.agentId
  taskId := task.taskId
  objective := task.objective
  payload := task.payload

/-- The dispatch an admitted call runs. -/
def dispatchOf (world : ω) (token : CapabilityToken) (pack : VerticalPackManifest)
    (kernel : LoongClawKernel π ω) : KernelCall -> Dispatch KernelError Unit
  | .executeTask task => eraseDispatch .harness
      (kernel.harness.execute pack.defaultRoute (taskRequest token pack task) world)
  | .executeConnectorCore coreName command => eraseDispatch .connector
      (kernel.connectorPlane.executeCore coreName command world)
  | .executeConnectorExtension extensionName coreName command => eraseDispatch .connector
      (kernel.connectorPlane.executeExtension extensionName coreName command world)
  | .executeRuntimeCore _ coreName request => eraseDispatch .runtimePlane
      (kernel.runtimePlane.executeCore coreName request world)
  | .executeRuntimeExtension _ extensionName coreName request => eraseDispatch .runtimePlane
      (kernel.runtimePlane.executeExtension extensionName coreName request world)
  | .executeToolCore _ coreName request => eraseDispatch .toolPlane
      (kernel.toolPlane.executeCore coreName request world)
  | .executeToolExtension _ extensionName coreName request => eraseDispatch .toolPlane
      (kernel.toolPlane.executeExtension extensionName coreName request world)
  | .executeMemoryCore _ coreName request => eraseDispatch .memoryPlane
      (kernel.memoryPlane.executeCore coreName request world)
  | .executeMemoryExtension _ extensionName coreName request => eraseDispatch .memoryPlane
      (kernel.memoryPlane.executeExtension extensionName coreName request world)

def planeReport (plane : ExecutionPlane) (target : PlaneTarget) (operation : String)
    (required : CapabilitySet) : AuditEventKind :=
  .planeInvoked packId plane target.tier target.primaryAdapter target.delegatedCoreAdapter
    operation (iter required)

def connectorReport (command : ConnectorCommand) : AuditEventKind :=
  .connectorInvoked packId command.connectorName command.operation
    (iter command.requiredCapabilities)

/-- The audit records of a call whose adapter returned a value. -/
def reportsOf : KernelCall -> List AuditEventKind
  | .executeTask task =>
    [.taskDispatched pack.packId task.taskId pack.defaultRoute (iter task.requiredCapabilities)]
  | .executeConnectorCore coreName command =>
    [connectorReport pack.packId command, planeReport pack.packId .connector
        (coreTarget coreName kernel.connectorPlane.defaultCoreAdapter)
        command.operation command.requiredCapabilities]
  | .executeConnectorExtension extensionName coreName command =>
    [connectorReport pack.packId command, planeReport pack.packId .connector
        (extensionTarget extensionName coreName kernel.connectorPlane.defaultCoreAdapter)
        command.operation command.requiredCapabilities]
  | .executeRuntimeCore required coreName request =>
    [planeReport pack.packId .runtime
      (coreTarget coreName kernel.runtimePlane.defaultCoreAdapter) request.action required]
  | .executeRuntimeExtension required extensionName coreName request =>
    [planeReport pack.packId .runtime
      (extensionTarget extensionName coreName kernel.runtimePlane.defaultCoreAdapter)
      request.action required]
  | .executeToolCore required coreName request =>
    [planeReport pack.packId .tool
      (coreTarget coreName kernel.toolPlane.defaultCoreAdapter) request.toolName required]
  | .executeToolExtension required extensionName coreName request =>
    [planeReport pack.packId .tool
      (extensionTarget extensionName coreName kernel.toolPlane.defaultCoreAdapter)
      request.extensionAction required]
  | .executeMemoryCore required coreName request =>
    [planeReport pack.packId .memory
      (coreTarget coreName kernel.memoryPlane.defaultCoreAdapter) request.operation required]
  | .executeMemoryExtension required extensionName coreName request =>
    [planeReport pack.packId .memory
      (extensionTarget extensionName coreName kernel.memoryPlane.defaultCoreAdapter)
      request.operation required]

def recordAll (nowEpochS : UInt64) (agentId : String) : List AuditEventKind -> KernelM π ω Unit
  | [] => pure ()
  | kind :: rest => do
    record nowEpochS (some agentId) kind
    recordAll nowEpochS agentId rest

/-- Run the adapter and, if it returned a value, record the call. -/
def completeCall (pack : VerticalPackManifest) : KernelM π ω Unit := do
  let kernel <- read
  invoke (calledPlane call) id (fun kernel => dispatchOf ambient.world token pack kernel call)
  recordAll ambient.nowEpochS token.agentId (reportsOf pack kernel call)

/-- Act on a verdict.  Only a denial is recorded, and only an admitted call
goes on. -/
def underVerdict {α : Type} (judgement : Verdict) (next : VerticalPackManifest -> KernelM π ω α) :
    KernelM π ω α :=
  match judgement with
  | .unknownPack => fail (.packNotFound packId)
  | .connectorRefused pack connector => fail (.connectorNotAllowed connector pack.packId)
  | .outsidePack pack capability => fail (.packCapabilityBoundary pack.packId capability)
  | .denied pack error => auditDenial ambient.nowEpochS pack token error
  | .admitted pack => next pack

variable {α β : Type}

/-- The reference monitor. -/
def mediated : KernelM π ω Unit :=
  fun kernel =>
    underVerdict ambient packId token (verdict ambient packId token call kernel)
      (completeCall ambient token call) kernel

/-! ## Every entry point is the reference monitor -/

variable {kernel : LoongClawKernel π ω}
  {next : VerticalPackManifest -> UInt64 -> KernelM π ω α}

omit [PolicyEngine π] in
theorem auditDenial_bind {nowEpochS : UInt64} {pack : VerticalPackManifest}
    {token : CapabilityToken} {error : PolicyError} {next : α -> KernelM π ω β} :
    (auditDenial nowEpochS pack token error >>= next) kernel =
      auditDenial nowEpochS pack token error kernel := by
  simp only [auditDenial, bind_apply]
  cases record nowEpochS (some token.agentId)
      (.authorizationDenied pack.packId token.tokenId error.display) kernel with
  | mk outcome later => cases outcome <;> rfl

theorem authorizeOrAuditDenial_bind (token : CapabilityToken) (call : KernelCall)
    (next : VerticalPackManifest -> KernelM π ω α) (kernel : LoongClawKernel π ω) :
    (authorizeOrAuditDenial ambient pack token call.required call.requestParameters >>=
        fun _ => next pack) kernel =
      underVerdict ambient packId token (policyVerdict ambient token call pack kernel)
        next kernel := by
  simp only [authorizeOrAuditDenial, policyVerdict, bind_apply, read_apply]
  cases PolicyEngine.authorize kernel.policy token pack.packId ambient.nowEpochS call.required with
  | error error =>
    exact auditDenial_bind
  | ok accepted =>
    cases answer : kernel.policyExtensions.authorize (extensionContext ambient token call pack)
        ambient.world with
    | error error =>
      simp only [extensionContext] at answer
      simp only [answer]
      exact auditDenial_bind
    | ok accepted =>
      simp only [extensionContext] at answer
      simp only [answer]
      rfl

theorem authorizePackOperation_bind {token : CapabilityToken} {call : KernelCall} :
    (authorizePackOperation ambient pack token call.required call.requestParameters >>=
        next pack) kernel =
      underVerdict ambient packId token (boundaryVerdict ambient token call pack kernel)
        (fun admitted => next admitted ambient.nowEpochS) kernel := by
  have found : (iter call.required).find? (fun capability =>
      !pack.grants capability) = firstMissing call.required pack.grantedCapabilities := by
    simp only [firstMissing, VerticalPackManifest.grants, decide_not]
  cases missing : firstMissing call.required pack.grantedCapabilities with
  | some capability =>
    simp only [authorizePackOperation, assertPackGrants, boundaryVerdict, found, missing]
    rfl
  | none =>
    have admitted := authorizeOrAuditDenial_bind ambient packId pack token call
      (fun admitted => next admitted ambient.nowEpochS) kernel
    simp only [boundaryVerdict, missing]
    rw [<- admitted]
    simp only [authorizePackOperation, assertPackGrants, found, missing, bind_apply, lift_apply]
    cases authorizeOrAuditDenial ambient pack token call.required call.requestParameters kernel with
    | mk outcome later => cases outcome <;> rfl

omit [PolicyEngine π] in
theorem getPack_bind {next : VerticalPackManifest -> KernelM π ω α} :
    (getPack packId >>= next) kernel =
      match kernel.packs.lookup packId with
      | none => (.error (.packNotFound packId), kernel)
      | some pack => next pack kernel := by
  rw [bind_apply]
  unfold getPack
  cases kernel.packs.lookup packId <;> rfl

/-- The opening of the entry points that name no connector. -/
theorem plainOpening_eq (plain : call.connector = none) :
    (getPack packId >>= fun pack =>
        authorizePackOperation ambient pack token call.required call.requestParameters >>=
          next pack) kernel =
      underVerdict ambient packId token (verdict ambient packId token call kernel)
        (fun pack => next pack ambient.nowEpochS) kernel := by
  rw [getPack_bind]
  unfold verdict
  cases kernel.packs.lookup packId with
  | none => rfl
  | some pack =>
    simp only [packVerdict, plain, Option.filter_none]
    exact authorizePackOperation_bind ambient packId pack

/-- The opening of the two connector entry points. -/
theorem connectorOpening_eq {connector : String} (named : call.connector = some connector) :
    (getPack packId >>= fun pack =>
        lift (assertConnectorAllowed pack connector) >>= fun _ =>
          authorizePackOperation ambient pack token call.required call.requestParameters >>=
            next pack) kernel =
      underVerdict ambient packId token (verdict ambient packId token call kernel)
        (fun pack => next pack ambient.nowEpochS) kernel := by
  rw [getPack_bind]
  unfold verdict
  cases kernel.packs.lookup packId with
  | none => rfl
  | some pack =>
    cases allowed : pack.allowsConnector connector with
    | true =>
      simp only [packVerdict, named, Option.filter, allowed, Bool.not_true,
        assertConnectorAllowed, if_true]
      exact authorizePackOperation_bind ambient packId pack
    | false =>
      simp only [packVerdict, named, Option.filter, allowed, Bool.not_false,
        assertConnectorAllowed, if_true]
      rfl

omit [PolicyEngine π] in
theorem invoke_erase {ε : Type} {plane : Option ExecutionPlane} {wrapError : ε -> KernelError}
    {dispatch : LoongClawKernel π ω -> Dispatch ε α} {next : KernelM π ω β} :
    (invoke plane wrapError dispatch >>= fun _ => next) =
      (invoke plane id (fun kernel => eraseDispatch wrapError (dispatch kernel)) >>=
        fun _ => next) := by
  funext kernel
  simp only [bind_apply, invoke, eraseDispatch]
  cases (dispatch kernel).result <;> rfl

/-- The shared plane body, for a call with the same plane, parameters, dispatch
and record. -/
theorem mediated_eq_executeOnPlane {operation : PlaneOperation π ω} (plain : call.connector = none)
    (sameParameters : call.requestParameters = operation.requestParameters)
    (samePlane : calledPlane call = some operation.plane)
    (sameDispatch : ∀ pack (kernel : LoongClawKernel π ω),
      dispatchOf ambient.world token pack kernel call =
        eraseDispatch operation.wrapError (operation.dispatch kernel ambient.world))
    (sameReports : ∀ pack (kernel : LoongClawKernel π ω), reportsOf pack kernel call =
        [planeReport pack.packId operation.plane (operation.target kernel) operation.operation
          call.required]) :
    mediated ambient packId token call =
      (do let _ <- executeOnPlane ambient packId token call.required operation) := by
  symm
  funext kernel
  simp only [executeOnPlane, bind_assoc, pure_bind, <- sameParameters]
  refine (plainOpening_eq ambient packId token call plain).trans ?_
  congr 1
  funext pack
  simp only [completeCall, samePlane, sameDispatch, sameReports]
  congr 1
  funext current
  rw [invoke_erase]
  rfl

theorem mediated_eq_executeConnector {command : ConnectorCommand}
    {target : LoongClawKernel π ω -> PlaneTarget}
    {dispatch : LoongClawKernel π ω -> Dispatch PlaneError ConnectorOutcome}
    (named : call.connector = some command.connectorName)
    (sameRequired : call.required = command.requiredCapabilities)
    (noParameters : call.requestParameters = none) (samePlane : calledPlane call = some .connector)
    (sameDispatch : ∀ pack (kernel : LoongClawKernel π ω),
      dispatchOf ambient.world token pack kernel call = eraseDispatch .connector (dispatch kernel))
    (sameReports : ∀ pack (kernel : LoongClawKernel π ω), reportsOf pack kernel call =
        [connectorReport pack.packId command,
          planeReport pack.packId .connector (target kernel) command.operation
            command.requiredCapabilities]) :
    mediated ambient packId token call =
      (do let _ <- executeConnector ambient packId token target dispatch command) := by
  symm
  funext kernel
  simp only [executeConnector, bind_assoc, pure_bind, <- sameRequired, <- noParameters]
  refine (connectorOpening_eq ambient packId token call named).trans ?_
  congr 1
  funext pack
  simp only [completeCall, samePlane, sameDispatch, sameReports]
  congr 1
  funext current
  rw [invoke_erase]
  simp only [sameRequired]
  rfl

/-- All nine entry points act on the verdict, and on nothing else. -/
theorem perform_eq_mediated : (perform ambient packId token call : KernelM π ω Unit) =
      mediated ambient packId token call := by
  cases call with
  | executeTask task =>
    funext kernel
    simp only [perform, executeTask, bind_assoc, pure_bind]
    refine (plainOpening_eq ambient packId token (.executeTask task) rfl).trans ?_
    congr 1
    funext pack
    rw [invoke_erase]
    rfl
  | executeConnectorCore | executeConnectorExtension =>
    symm
    exact mediated_eq_executeConnector ambient packId token _ rfl rfl rfl rfl
      (fun _ _ => rfl) (fun _ _ => rfl)
  | executeRuntimeCore | executeRuntimeExtension | executeToolCore | executeToolExtension
  | executeMemoryCore | executeMemoryExtension =>
    symm
    exact mediated_eq_executeOnPlane ambient packId token _ rfl rfl rfl
      (fun _ _ => rfl) (fun _ _ => rfl)

end LoongClawKernel

end LoongClaw.Kernel
