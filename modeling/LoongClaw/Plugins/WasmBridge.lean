import LoongClaw.Foundation.Attempt
import LoongClaw.Plugins.SecurityScan

namespace LoongClaw.Plugins

open Foundation Fallible

/-!
# Executing a wasm plugin

A connector call looks up its provider and a channel in the integration
catalog.  If the provider is a wasm plugin, the runtime finds the artifact in
the metadata of the provider, checks it against the runtime policy and the pin
for the plugin, and hands the module to the engine.  The engine, with its module
cache, is a parameter, as is the check of the caller.
-/

structure BridgeRuntimePolicy where
  executeWasmComponent : Bool
  wasmAllowedPathPrefixes : List Path
  wasmMaxComponentBytes : Option Nat
  wasmFuelLimit : Option UInt64
  wasmRequireHashPin : Bool
  wasmRequiredSha256ByPlugin : OrderedMap String String
  enforceExecutionSuccess : Bool

/-- The runtime takes over the pins of the scan policy. -/
def bridgeRuntimePolicy (files : ArtifactFiles) (policy : SecurityScanSpec)
    (enforceExecutionSuccess : Bool) : BridgeRuntimePolicy where
  executeWasmComponent := policy.runtime.executeWasmComponent
  wasmAllowedPathPrefixes :=
    policy.runtime.allowedPathPrefixes.map (fun allowed =>
      files.normalizePathForPolicy (Path.ofString allowed))
  wasmMaxComponentBytes := policy.runtime.maxComponentBytes
  wasmFuelLimit := policy.runtime.fuelLimit
  wasmRequireHashPin := policy.wasm.requireHashPin
  wasmRequiredSha256ByPlugin := policy.wasm.requiredSha256ByPlugin
  enforceExecutionSuccess

/-- What a compiled module is cached under. -/
structure WasmModuleCacheKey where
  artifactPath : Path
  moduleSizeBytes : Nat
  expectedSha256 : Option String
  fuelEnabled : Bool

/-- The engine: which modules it has cached, which it compiles, and what
running an export of a module gives. -/
structure WasmEngine where
  isCached : WasmModuleCacheKey -> Bool
  compile : List UInt8 -> Except String Unit
  run : WasmModuleCacheKey -> String -> Except String Unit

/-- How a bridge execution ended without a module being run. -/
structure BridgeFailure where
  (status reason : String)
  deriving DecidableEq

/-- A module that was handed to the engine. -/
structure WasmExecution where
  artifactPath : Path
  exportName : String
  expectedSha256 : Option String
  result : Except String Unit
  deriving DecidableEq

/-! ## The artifact -/

/-- The text that names the artifact for the runtime. -/
def runtimeArtifact (metadata : Metadata) (channelEndpoint : String) : Option String :=
  (((metadata.lookup "component_resolved_path").or (metadata.lookup "component_path")).or
    (metadata.lookup "component")).or
      (if Text.endsWith (Text.toAsciiLowercase (Text.trim channelEndpoint)) ".wasm" then
        some (Text.trim channelEndpoint)
      else none)

/-- The path that the text stands for. -/
def runtimeArtifactPath (metadata : Metadata) (raw : String) : Path :=
  if (Path.ofString raw).isAbsolute then Path.ofString raw
  else
    match metadata.lookup "plugin_source_path" with
    | some sourcePath => resolvePluginRelativePath sourcePath raw
    | none => Path.ofString raw

section Bridge

variable (files : ArtifactFiles) (tools : WasmTools) (engine : WasmEngine)
  (connector : DynamicCatalogConnector) (provider : ProviderConfig) (policy : BridgeRuntimePolicy)

def resolveWasmComponentArtifactPath (channelEndpoint : String) : Except String Path := do
  let raw <- okOr (runtimeArtifact provider.metadata channelEndpoint)
    "wasm_component execution requires component artifact path"
  if isHttpUrl raw then
    .error "wasm_component execution requires a local artifact path, remote URL is not allowed"
  else .ok (files.normalizePathForPolicy (runtimeArtifactPath provider.metadata raw))

def resolveWasmExportName (metadata : Metadata) : String :=
  let raw := ((metadata.lookup "entrypoint").or (metadata.lookup "entrypoint_hint")).getD "run"
  let segments := (raw.toList.splitOnP (fun c => c == ':' || c == '/')).map String.ofList
  ((segments.filter (fun segment => decide (Text.trim segment ≠ ""))).getLast?).getD "run"

/-! ## The pin -/

/-- The name under which the pin of a plugin is looked up. -/
def runtimePluginId : String :=
  (provider.metadata.lookup "plugin_id").getD provider.providerId

def checkedPin (describe : String -> String) (raw : Option String) :
    Except String (Option String) :=
  match raw.map normalizeWasmSha256Pin with
  | none => .ok none
  | some (.ok pin) => .ok (some pin)
  | some (.error reason) => .error (describe reason)

/-- The pins of the metadata with their sources, in the order of the keys. -/
def runtimeMetadataPins (metadata : Metadata) :
    List String -> Except String (List (String × String))
  | [] => .ok []
  | key :: rest => do
    let pin <- checkedPin (fun reason => "provider metadata `" ++ key ++ "` invalid: " ++ reason)
      (metadata.lookup key)
    let others <- runtimeMetadataPins metadata rest
    .ok ((pin.map (fun value => ("metadata." ++ key, value))).toList ++ others)

variable (pluginId : String)

def agreedPin : List (String × String) -> Except String (Option String)
  | [] => .ok none
  | first :: rest =>
    match rest.find? (fun candidate => decide (candidate.2 ≠ first.2)) with
    | none => .ok (some first.2)
    | some other =>
      .error ("conflicting wasm sha256 pins for plugin `" ++ pluginId ++ "`: " ++ first.1 ++
        " and " ++ other.1 ++ " differ")

def requireAgreement (metadataPin policyPin : Option String) :
    Except String Unit :=
  match metadataPin, policyPin with
  | some metadataPin, some policyPin =>
    if metadataPin ≠ policyPin then
      .error ("conflicting wasm sha256 pins for plugin `" ++ pluginId ++
        "` between provider metadata and security_scan.wasm.required_sha256_by_plugin")
    else .ok ()
  | _, _ => .ok ()

def requirePin (pin : Option String) : Except String (Option String) :=
  if policy.wasmRequireHashPin && pin.isNone then
    .error ("wasm sha256 pin is required for plugin `" ++ pluginId ++ "` but no pin was provided")
  else .ok pin

def resolveExpectedWasmSha256 : Except String (Option String) := do
  let pluginId := runtimePluginId provider
  let pins <- runtimeMetadataPins provider.metadata metadataPinKeys
  let metadataPin <- agreedPin pluginId pins
  let policyPin <- checkedPin (fun reason =>
    "security_scan.wasm.required_sha256_by_plugin pin invalid for plugin `" ++ pluginId ++ "`: " ++
      reason) (policy.wasmRequiredSha256ByPlugin.lookup pluginId)
  requireAgreement pluginId metadataPin policyPin
  requirePin policy pluginId (policyPin.or metadataPin)

/-! ## The execution -/

def blocked (reason : String) : BridgeFailure where
  status := "blocked"
  reason

def failed (reason : String) : BridgeFailure where
  status := "failed"
  reason

def requireAllowedPath (artifactPath : Path) : Except BridgeFailure Unit :=
  let allowed := policy.wasmAllowedPathPrefixes.map files.normalizePathForPolicy
  if !allowed.isEmpty && !allowed.any artifactPath.startsWith then
    .error (blocked "wasm artifact path is outside runtime allowed_path_prefixes")
  else .ok ()

/-- The regular file behind a path that exists. -/
def requireRegularFile (artifactPath : Path) : Except BridgeFailure Location :=
  match files.resolve artifactPath with
  | none => .error (failed ("failed to read wasm artifact metadata: " ++
      files.errorText artifactPath))
  | some loc =>
    if files.tree.node loc = some .file then .ok loc
    else .error (blocked "wasm artifact path must reference a regular file")

def requireSize (size : Nat) : Except BridgeFailure Unit :=
  match policy.wasmMaxComponentBytes with
  | none => .ok ()
  | some limit =>
    if limit < size then
      .error (blocked ("wasm artifact size " ++ toString size ++
        " exceeds runtime max_component_bytes " ++ toString limit))
    else .ok ()

def requireDigest (expected : Option String) (bytes : List UInt8) : Except BridgeFailure Unit :=
  match expected with
  | none => .ok ()
  | some pin =>
    if tools.sha256Hex bytes ≠ pin then
      .error (blocked ("wasm artifact sha256 mismatch: expected " ++ pin ++ ", actual " ++
        tools.sha256Hex bytes))
    else .ok ()

/-- Compile a module that is not cached, after its digest was checked. -/
def loadModule (key : WasmModuleCacheKey) (bytes : List UInt8) : Except BridgeFailure Unit :=
  if engine.isCached key then .ok ()
  else do
    requireDigest tools key.expectedSha256 bytes
    (engine.compile bytes).mapError failed

def executeWasmComponentBridge (channel : ChannelConfig) (policy : BridgeRuntimePolicy) :
    Except BridgeFailure WasmExecution := do
  let artifactPath <-
    (resolveWasmComponentArtifactPath files provider channel.endpoint).mapError blocked
  let canonical <- (files.canonicalize artifactPath).mapError (fun error =>
    failed ("failed to canonicalize wasm artifact path: " ++ error))
  let artifactPath := files.normalizePathForPolicy canonical
  requireAllowedPath files policy artifactPath
  let loc <- requireRegularFile files artifactPath
  requireSize policy (files.content loc).length
  let expectedSha256 <- (resolveExpectedWasmSha256 provider policy).mapError blocked
  let key : WasmModuleCacheKey :=
    { artifactPath
      moduleSizeBytes := (files.content loc).length
      expectedSha256
      fuelEnabled := policy.wasmFuelLimit.isSome }
  loadModule tools engine key (files.content loc)
  .ok
    { artifactPath
      exportName := resolveWasmExportName provider.metadata
      expectedSha256
      result := engine.run key (resolveWasmExportName provider.metadata) }

/-! ## Connector calls -/

def detectProviderBridgeKind (endpoint : String) : PluginBridgeKind :=
  match (provider.metadata.lookup "bridge_kind").bind PluginBridgeKind.parse with
  | some kind => kind
  | none => if isHttpUrl endpoint then .httpJson else .unknown

/-- What a connector call did with wasm modules. -/
inductive BridgeExecution where
  | noModule
  | refused (failure : BridgeFailure)
  | ran (execution : WasmExecution)
  deriving DecidableEq

def maybeExecuteBridge (channel : ChannelConfig) (policy : BridgeRuntimePolicy) : BridgeExecution :=
  if policy.executeWasmComponent &&
      decide (detectProviderBridgeKind provider channel.endpoint = .wasmComponent) then
    match executeWasmComponentBridge files tools engine provider channel policy with
    | .ok execution => .ran execution
    | .error failure => .refused failure
  else .noModule

/-- A connector, and its refusals of callers that a provider does not allow. -/
structure DynamicCatalogConnector where
  providerId : String
  refuseCaller : ProviderConfig -> Json -> Option String

variable (catalog : IntegrationCatalog)

def chooseChannel (provider : ProviderConfig) :
    Option String -> Except String ChannelConfig
  | some channelId => do
    let channel <- okOr (catalog.channels.lookup channelId)
      ("channel " ++ channelId ++ " not found")
    if !channel.enabled then .error ("channel " ++ channelId ++ " is disabled")
    else if channel.providerId ≠ provider.providerId then
      .error ("channel " ++ channel.channelId ++ " does not belong to provider " ++
        provider.providerId)
    else .ok channel
  | none =>
    okOr ((catalog.channelsForProvider provider.providerId).find? (fun channel =>
      channel.enabled)) ("no enabled channel for provider " ++ provider.providerId)

def requireCaller (payload : Json) : Except String Unit :=
  match connector.refuseCaller provider payload with
  | some refusal => .error refusal
  | none => .ok ()

def reportExecution : BridgeExecution -> Except String BridgeExecution
  | .refused failure =>
    if policy.enforceExecutionSuccess then .error failure.reason else .ok (.refused failure)
  | .noModule => .ok .noModule
  | .ran execution => .ok (.ran execution)

/-- The provider and the channel of a call. -/
def resolveCall (payload : Json) : Except String (ProviderConfig × ChannelConfig) := do
  let provider <- okOr (catalog.providers.lookup connector.providerId)
    ("provider " ++ connector.providerId ++ " is not registered in integration catalog")
  requireCaller connector provider payload
  let channel <- chooseChannel catalog provider ((payload.get "channel_id").bind Json.asStr)
  .ok (provider, channel)

def invokeCore (payload : Json) : Except String BridgeExecution := do
  let target <- resolveCall connector catalog payload
  reportExecution policy (maybeExecuteBridge files tools engine target.1 target.2 policy)

end Bridge

end LoongClaw.Plugins
