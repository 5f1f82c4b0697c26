import Mathlib.Data.Finset.Basic
import LoongClaw.Foundation.Json
import LoongClaw.Foundation.Text

namespace LoongClaw.Contracts

open Foundation

/-!
# Shared contract types

Capabilities, tokens, pack manifests, requests, errors and audit events, as
the `contracts` crate declares them.  A set whose iteration order matters is
iterated through the declaration order of its element type, which is the
order the source derives.
-/

inductive Capability where
  | invokeTool
  | invokeConnector
  | memoryRead
  | memoryWrite
  | filesystemRead
  | filesystemWrite
  | networkEgress
  | scheduleTask
  | observeTelemetry
  deriving DecidableEq

/-- A capability set, iterated in declaration order. -/
abbrev CapabilitySet :=
  Finset Capability

namespace Capability

def all : List Capability :=
  [invokeTool, invokeConnector, memoryRead, memoryWrite, filesystemRead, filesystemWrite,
    networkEgress, scheduleTask, observeTelemetry]

theorem mem_all {capability : Capability} : capability ∈ all := by
  cases capability <;> decide

/-- The `Debug` rendering used inside error texts. -/
def debugName : Capability -> String
  | invokeTool => "InvokeTool"
  | invokeConnector => "InvokeConnector"
  | memoryRead => "MemoryRead"
  | memoryWrite => "MemoryWrite"
  | filesystemRead => "FilesystemRead"
  | filesystemWrite => "FilesystemWrite"
  | networkEgress => "NetworkEgress"
  | scheduleTask => "ScheduleTask"
  | observeTelemetry => "ObserveTelemetry"

end Capability

namespace CapabilitySet

def iter (set : CapabilitySet) : List Capability :=
  Capability.all.filter (fun capability => decide (capability ∈ set))

theorem mem_iter {set : CapabilitySet} {capability : Capability} :
    capability ∈ iter set ↔ capability ∈ set := by
  simp [iter, Capability.mem_all]

/-- The first element, in iteration order, that `allowed` lacks. -/
def firstMissing (required allowed : CapabilitySet) : Option Capability :=
  (iter required).find? (fun capability => decide (capability ∉ allowed))

theorem firstMissing_eq_none_iff {required allowed : CapabilitySet} :
    firstMissing required allowed = none ↔ required ⊆ allowed := by
  unfold firstMissing
  rw [List.find?_eq_none]
  constructor
  · intro covered capability member
    have found := covered capability (mem_iter.mpr member)
    simpa using found
  · intro included capability member
    have granted := included (mem_iter.mp member)
    simpa using granted

end CapabilitySet

inductive HarnessKind where
  | embeddedPi
  | acp
  deriving DecidableEq

namespace HarnessKind

def debugName : HarnessKind -> String
  | embeddedPi => "EmbeddedPi"
  | acp => "Acp"

end HarnessKind

structure ExecutionRoute where
  harnessKind : HarnessKind
  adapter : Option String

structure CapabilityToken where
  (tokenId packId agentId : String)
  allowedCapabilities : CapabilitySet
  (issuedAtEpochS expiresAtEpochS generation : UInt64)

structure TaskIntent where
  (taskId objective : String)
  requiredCapabilities : CapabilitySet
  payload : Json

structure HarnessRequest where
  (tokenId packId agentId taskId objective : String)
  payload : Json

structure HarnessOutcome where
  status : String
  output : Json

structure ConnectorCommand where
  (connectorName operation : String)
  requiredCapabilities : CapabilitySet
  payload : Json

structure ConnectorOutcome where
  status : String
  payload : Json

structure RuntimeCoreRequest where
  action : String
  payload : Json

structure RuntimeExtensionRequest where
  action : String
  payload : Json

structure ToolCoreRequest where
  toolName : String
  payload : Json

structure ToolCoreOutcome where
  status : String
  payload : Json

structure ToolExtensionRequest where
  extensionAction : String
  payload : Json

structure MemoryCoreRequest where
  operation : String
  payload : Json

structure MemoryExtensionRequest where
  operation : String
  payload : Json

/-- The outcome record that the runtime, tool and memory planes each declare
for both of their tiers. -/
structure PlaneOutcome where
  status : String
  payload : Json

inductive PackError where
  | emptyPackId
  | emptyDomain
  | invalidVersion (version : String)
  | emptyCapabilities

structure VerticalPackManifest where
  (packId domain version : String)
  defaultRoute : ExecutionRoute
  allowedConnectors : Finset String
  grantedCapabilities : CapabilitySet
  metadata : OrderedMap String String

namespace VerticalPackManifest

/-- Well-formedness of a manifest.  `parsesAsVersion` is the semantic-version
parser of the dependency that decides it. -/
def validate (parsesAsVersion : String -> Bool) (pack : VerticalPackManifest) :
    Except PackError Unit :=
  if Text.trim pack.packId = "" then .error .emptyPackId
  else if Text.trim pack.domain = "" then .error .emptyDomain
  else if parsesAsVersion pack.version = false then .error (.invalidVersion pack.version)
  else if pack.grantedCapabilities = ∅ then .error .emptyCapabilities
  else .ok ()

def grants (pack : VerticalPackManifest) (capability : Capability) : Bool :=
  decide (capability ∈ pack.grantedCapabilities)

def allowsConnector (pack : VerticalPackManifest) (connectorName : String) : Bool :=
  decide (connectorName ∈ pack.allowedConnectors)

/-- The manifest that the kernel's tests register. -/
def samplePack : VerticalPackManifest where
  packId := "sales-intel"
  domain := "sales"
  version := "0.1.0"
  defaultRoute := { harnessKind := .embeddedPi, adapter := some "pi-local" }
  allowedConnectors := {"crm"}
  grantedCapabilities := {.invokeTool, .invokeConnector, .memoryRead}
  metadata := [("owner", "revenue-team")]

end VerticalPackManifest

/-- The runtime projection of a registered pack. -/
structure Namespace where
  (packId domain membrane : String)
  defaultRoute : ExecutionRoute
  grantedCapabilities : CapabilitySet

inductive PolicyError where
  | expiredToken (tokenId : String) (expiresAtEpochS : UInt64)
  | missingCapability (tokenId : String) (capability : Capability)
  | packMismatch (tokenPackId runtimePackId : String)
  | revokedToken (tokenId : String)
  | extensionDenied (extension reason : String)
  | toolCallDenied (toolName reason : String)
  deriving DecidableEq

namespace PolicyError

/-- The rendered error text, which an audit record keeps as its reason. -/
def display : PolicyError -> String
  | expiredToken tokenId expiresAtEpochS =>
    "token " ++ tokenId ++ " expired at " ++ toString expiresAtEpochS.toNat
  | missingCapability tokenId capability =>
    "token " ++ tokenId ++ " missing required capability " ++ capability.debugName
  | packMismatch tokenPackId runtimePackId =>
    "token pack mismatch: token pack " ++ tokenPackId ++ " vs runtime pack " ++ runtimePackId
  | revokedToken tokenId => "token " ++ tokenId ++ " has been revoked"
  | extensionDenied extension reason =>
    "policy extension " ++ extension ++ " denied request: " ++ reason
  | toolCallDenied toolName reason =>
    "tool call denied by policy for `" ++ toolName ++ "`: " ++ reason

end PolicyError

inductive HarnessError where
  | adapterNotFound (adapter : String)
  | adapterKindMismatch (adapter : String) (expected actual : HarnessKind)
  | execution (reason : String)

/-- The errors of one execution plane.  The four planes declare the same
constructors under their own type; only the connector plane has `notFound`,
which no plane code raises. -/
inductive PlaneError where
  | notFound (name : String)
  | coreAdapterNotFound (name : String)
  | extensionNotFound (name : String)
  | noDefaultCoreAdapter
  | execution (reason : String)

inductive AuditError where
  | sink (reason : String)

inductive KernelError where
  | packNotFound (packId : String)
  | duplicatePack (packId : String)
  | connectorNotAllowed (connector packId : String)
  | packCapabilityBoundary (packId : String) (capability : Capability)
  | pack (error : PackError)
  | policy (error : PolicyError)
  | harness (error : HarnessError)
  | connector (error : PlaneError)
  | runtimePlane (error : PlaneError)
  | toolPlane (error : PlaneError)
  | memoryPlane (error : PlaneError)
  | audit (error : AuditError)

inductive ExecutionPlane where
  | connector
  | runtime
  | tool
  | memory
  deriving DecidableEq

inductive PlaneTier where
  | legacy
  | core
  | extension

/-- What an audit event reports.  The provider and scan reports that other
crates hand to `record_audit_event` are carried as one opaque kind. -/
inductive AuditEventKind where
  | tokenIssued (token : CapabilityToken)
  | tokenRevoked (tokenId : String)
  | taskDispatched (packId taskId : String) (route : ExecutionRoute)
      (requiredCapabilities : List Capability)
  | connectorInvoked (packId connectorName operation : String)
      (requiredCapabilities : List Capability)
  | planeInvoked (packId : String) (plane : ExecutionPlane) (tier : PlaneTier)
      (primaryAdapter : String) (delegatedCoreAdapter : Option String) (operation : String)
      (requiredCapabilities : List Capability)
  | authorizationDenied (packId tokenId reason : String)
  | external (report : String)

structure AuditEvent where
  eventId : String
  timestampEpochS : UInt64
  agentId : Option String
  kind : AuditEventKind

end LoongClaw.Contracts
