import LoongClaw.Plugins.WasmBridge
import LoongClaw.Spec.Programmatic

namespace LoongClaw.Spec

open Foundation Contracts Kernel OrderedMap
open Plugins (ProviderConfig ChannelConfig IntegrationCatalog DynamicCatalogConnector resolveCall)

/-!
# Connectors of a spec

The kernel of a spec has three built-in connectors, an extension that probes
another connector, and a connector for each provider of the integration catalog.
A provider may list the callers that it allows.  The connector looks for the
caller in the payload of the command.
-/

/-! ## Callers -/

/-- A set of texts in ascending order. -/
abbrev TextSet :=
  OrderedMap String Unit

def normalizedCaller (caller : String) : String :=
  Text.toAsciiLowercase (Text.trim caller)

def textSet (texts : List String) : TextSet :=
  extend [] (texts.map fun text => (text, ()))

def isListSeparator (c : Char) : Bool :=
  c == ',' || c == ';' || c == ' '

section Callers

variable (parseTexts : String -> Option (List String))

/-- The texts that a provider lists as callers. -/
def listedCallers (provider : ProviderConfig) : List String :=
  ((lookup "allowed_callers_json" provider.metadata).bind parseTexts).getD [] ++
    ((lookup "allowed_callers" provider.metadata).map fun rawList =>
      (rawList.toList.splitOnP isListSeparator).map String.ofList).getD []

def providerAllowedCallers (provider : ProviderConfig) : TextSet :=
  textSet (((listedCallers parseTexts provider).map normalizedCaller).filter fun caller =>
    decide (caller ≠ ""))

def callerFromPayload (payload : Json) : Option String :=
  (((lookup "caller" (reservedEntries payload)).bind Json.asStr).map
    normalizedCaller).filter fun caller => decide (caller ≠ "")

def callerIsAllowed (caller : Option String) (allowed : TextSet) : Bool :=
  allowed.isEmpty || contains "*" allowed ||
    caller.any fun caller => contains (normalizedCaller caller) allowed

def refuseCaller (connectorName : String) (provider : ProviderConfig) (payload : Json) :
    Option String :=
  let allowedCallers := providerAllowedCallers parseTexts provider
  if callerIsAllowed (callerFromPayload payload) allowedCallers then none
  else
    some ("caller " ++ (callerFromPayload payload).getD "unknown" ++
      " is not allowed for connector " ++ connectorName ++ " (allowed_callers=" ++
      ",".intercalate (allowedCallers.map Prod.fst) ++ ")")

end Callers

/-! ## Connectors of the catalog -/

/-- What libraries and the bridges of plugins give. -/
structure SpecHost (ω : Type) where
  jsonText : Json -> String
  kernelErrorText : KernelError -> String
  scaled : Nat -> FloatNumber -> Nat
  parsesAsVersion : String -> Bool
  parseTexts : String -> Option (List String)
  enforceExecutionSuccess : Bool
  bridgeExecutionPayload : ProviderConfig -> ChannelConfig -> ConnectorCommand -> ω -> Json

section Connectors

variable {π ω : Type} (host : SpecHost ω) (catalog : IntegrationCatalog)

def dynamicCatalogConnector (provider : ProviderConfig) : DynamicCatalogConnector where
  providerId := provider.providerId
  refuseCaller := refuseCaller host.parseTexts provider.connectorName

/-- The reason of a bridge that did not succeed. -/
def bridgeFailure (bridgeExecution : Json) : Option String :=
  match (bridgeExecution.get "status").bind Json.asStr with
  | some "blocked" | some "failed" =>
    some (((bridgeExecution.get "reason").bind Json.asStr).getD
      "bridge execution failed under strict runtime policy")
  | _ => none

/-- Hand a command to the bridge of a provider. -/
def executeBridge (connectorName : String) (command : ConnectorCommand) (world : ω)
    (provider : ProviderConfig) (channel : ChannelConfig) :
    Except PlaneError ConnectorOutcome :=
  let bridgeExecution := host.bridgeExecutionPayload provider channel command world
  match (bridgeFailure bridgeExecution).filter fun _ => host.enforceExecutionSuccess with
  | some reason => .error (.execution reason)
  | none =>
    .ok
      { status := "ok"
        payload := .ofFields
          [("connector", .string connectorName),
            ("provider_id", .string provider.providerId),
            ("provider_version", .string provider.version),
            ("channel_id", .string channel.channelId),
            ("endpoint", .string channel.endpoint),
            ("operation", .string command.operation), ("payload", command.payload),
            ("bridge_execution", bridgeExecution)] }

/-- The connector that is registered for a provider. -/
def dynamicAdapter (registered : ProviderConfig) :
    CoreAdapter ConnectorCommand ConnectorOutcome ω where
  name := registered.connectorName
  executeCore command world := do
    let target <- (resolveCall (dynamicCatalogConnector host registered) catalog
      command.payload).mapError PlaneError.execution
    executeBridge host registered.connectorName command world target.1 target.2

/-- The connectors are registered in the order of the providers. -/
def registerDynamicCatalogConnectors (plane : ConnectorPlane ω) : ConnectorPlane ω :=
  catalog.providers.values.foldl
    (fun plane provider => plane.registerCoreAdapter (dynamicAdapter host catalog provider)) plane

/-- The provider whose connector has a name.  A later one replaces an earlier. -/
def registeredProvider (connectorName : String) : Option ProviderConfig :=
  (catalog.providers.values.filter fun provider =>
    decide (provider.connectorName = connectorName)).getLast?

/-! ## Built-in connectors -/

def webhookConnector : CoreAdapter ConnectorCommand ConnectorOutcome ω where
  name := "webhook"
  executeCore command _ :=
    .ok
      { status := "ok"
        payload := .ofFields
          [("connector", .string "webhook"), ("operation", .string command.operation),
            ("payload", command.payload)] }

/-- The two built-in connectors for a CRM differ by name. -/
def crmConnector (name : String) : CoreAdapter ConnectorCommand ConnectorOutcome ω where
  name := name
  executeCore command _ :=
    .ok
      { status := "ok"
        payload := .ofFields
          [("tier", .string "core"), ("adapter", .string name),
            ("connector", .string command.connectorName),
            ("operation", .string command.operation), ("payload", command.payload)] }

def crmCoreConnector : CoreAdapter ConnectorCommand ConnectorOutcome ω :=
  crmConnector "http-core"

def crmGrpcCoreConnector : CoreAdapter ConnectorCommand ConnectorOutcome ω :=
  crmConnector "grpc-core"

/-- The command with which the extension tries a connector. -/
def probeCommand (command : ConnectorCommand) : ConnectorCommand where
  connectorName := command.connectorName
  operation := "probe"
  requiredCapabilities := ∅
  payload := .object []

def shieldedConnectorExtension :
    ExtensionAdapter ConnectorCommand ConnectorCommand ConnectorOutcome ω where
  name := "shielded-bridge"
  executeExtension command core world := do
    let probe <- core.executeCore (probeCommand command) world
    .ok
      { status := "ok"
        payload := .ofFields
          [("tier", .string "extension"), ("extension", .string "shielded-bridge"),
            ("operation", .string command.operation), ("core_probe", probe.payload),
            ("payload", command.payload)] }

def builtinConnectorPlane : ConnectorPlane ω :=
  (((Plane.new.registerCoreAdapter webhookConnector).registerCoreAdapter
    crmCoreConnector).registerCoreAdapter crmGrpcCoreConnector).registerExtensionAdapter
      shieldedConnectorExtension

end Connectors

end LoongClaw.Spec
