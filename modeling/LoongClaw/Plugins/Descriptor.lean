import LoongClaw.Foundation.FileTree
import LoongClaw.Foundation.Json
import LoongClaw.Foundation.Text

namespace LoongClaw.Plugins

open Foundation Text

/-!
# Plugin descriptors

A plugin is a file with a manifest in it.  Before it is scanned and absorbed,
its metadata is enriched: entries for the runtime are added unless the manifest
has them already.  Absorbing a plugin makes it a provider of the integration
catalog, with the enriched metadata, and adds its channel.  The JSON encoder
of the metadata texts is a parameter.
-/

/-! ## Manifests -/

abbrev Metadata :=
  OrderedMap String String

/-- Keep an entry that is there. -/
def Metadata.orInsert (metadata : Metadata) (key value : String) : Metadata :=
  if OrderedMap.contains key metadata then metadata else OrderedMap.insert key value metadata

inductive PluginBridgeKind where
  | httpJson
  | processStdio
  | nativeFfi
  | wasmComponent
  | mcpServer
  | acpBridge
  | acpRuntime
  | unknown
  deriving DecidableEq

namespace PluginBridgeKind

def asStr : PluginBridgeKind -> String
  | .httpJson => "http_json"
  | .processStdio => "process_stdio"
  | .nativeFfi => "native_ffi"
  | .wasmComponent => "wasm_component"
  | .mcpServer => "mcp_server"
  | .acpBridge => "acp_bridge"
  | .acpRuntime => "acp_runtime"
  | .unknown => "unknown"

/-- Both crates parse the label in the same way. -/
def parse (raw : String) : Option PluginBridgeKind :=
  let label := toAsciiLowercase (trim raw)
  if label ∈ ["http_json", "http"] then some .httpJson
  else if label ∈ ["process_stdio", "stdio"] then some .processStdio
  else if label ∈ ["native_ffi", "ffi"] then some .nativeFfi
  else if label ∈ ["wasm_component", "wasm"] then some .wasmComponent
  else if label ∈ ["mcp_server", "mcp"] then some .mcpServer
  else if label ∈ ["acp_bridge", "acp"] then some .acpBridge
  else if label ∈ ["acp_runtime", "acpx"] then some .acpRuntime
  else if label = "unknown" then some .unknown
  else none

end PluginBridgeKind

structure PluginManifest where
  (pluginId providerId connectorName : String)
  (channelId endpoint : Option String)
  metadata : Metadata
  summary : Option String
  tags : List String
  (inputExamples outputExamples : List Json)
  deferLoading : Bool

structure PluginDescriptor where
  (path language : String)
  manifest : PluginManifest

/-! ## Translation -/

structure PluginRuntimeProfile where
  sourceLanguage : String
  bridgeKind : PluginBridgeKind
  (adapterFamily entrypointHint : String)

variable (language : String) (manifest : PluginManifest)

def normalizeLanguage : String :=
  let normalized := toAsciiLowercase (trim language)
  if normalized = "rs" then "rust"
  else if normalized = "py" then "python"
  else if normalized = "js" then "javascript"
  else if normalized = "ts" then "typescript"
  else if normalized = "" then "unknown"
  else normalized

def isHttpUrl (text : String) : Bool :=
  startsWith text "http://" || startsWith text "https://"

def defaultBridgeKind (endpoint : Option String) : PluginBridgeKind :=
  if language ∈ ["rust", "go", "c", "cpp", "cxx"] then .nativeFfi
  else if language ∈ ["python", "javascript", "typescript", "java"] then .processStdio
  else if language ∈ ["wasm", "wat"] then .wasmComponent
  else if endpoint.any isHttpUrl then .httpJson
  else .unknown

def defaultAdapterFamily : PluginBridgeKind -> String
  | .httpJson => "http-adapter"
  | .processStdio => language ++ "-stdio-adapter"
  | .nativeFfi => language ++ "-ffi-adapter"
  | .wasmComponent => "wasm-component-adapter"
  | .mcpServer => "mcp-adapter"
  | .acpBridge => "acp-bridge-adapter"
  | .acpRuntime => "acp-runtime-adapter"
  | .unknown => language ++ "-unknown-adapter"

def defaultEntrypointHint (endpoint : Option String) : PluginBridgeKind -> Option String
  | .httpJson => some (endpoint.getD "https://localhost/invoke")
  | .processStdio => some "stdin/stdout::invoke"
  | .nativeFfi => some "lib::invoke"
  | .wasmComponent => some "component::run"
  | .mcpServer => some "mcp::stdio"
  | .acpBridge => some "acp::bridge"
  | .acpRuntime => some "acp::turn"
  | .unknown => none

def inferRuntimeProfile : PluginRuntimeProfile :=
  let sourceLanguage := normalizeLanguage language
  let declared := (manifest.metadata.lookup "bridge_kind").bind PluginBridgeKind.parse
  let protocol := ((manifest.metadata.lookup "protocol").filter
    (fun value => eqIgnoreAsciiCase value "mcp")).map (fun _ => PluginBridgeKind.mcpServer)
  let bridgeKind :=
    (declared.or protocol).getD (defaultBridgeKind sourceLanguage manifest.endpoint)
  { sourceLanguage
    bridgeKind
    adapterFamily :=
      (manifest.metadata.lookup "adapter_family").getD
        (defaultAdapterFamily sourceLanguage bridgeKind)
    entrypointHint :=
      ((manifest.metadata.lookup "entrypoint").or
        (defaultEntrypointHint manifest.endpoint bridgeKind)).getD "invoke" }

/-- The runtime profile of each plugin, by its file and its name.  A later
plugin with the same key replaces an earlier one. -/
def runtimeByKey (report : List PluginDescriptor) :
    String × String -> Option PluginRuntimeProfile :=
  fun key =>
    (report.reverse.find? (fun descriptor =>
      decide ((descriptor.path, descriptor.manifest.pluginId) = key))).map
        (fun descriptor => inferRuntimeProfile descriptor.language descriptor.manifest)

/-! ## Artifact files -/

/-- A file system with the contents of its files. -/
structure ArtifactFiles extends FileSystem where
  properNames : ∀ loc, (tree.node loc).isSome = true -> ∀ name, name ∈ loc -> ProperName name
  content : Location -> List UInt8

namespace ArtifactFiles

variable (files : ArtifactFiles)

/-- The regular file that a path leads to. -/
def fileAt (path : Path) : Option Location :=
  (files.resolve path).filter (fun loc => decide (files.tree.node loc = some .file))

/-- Read a whole file. -/
def read (path : Path) : Except String (List UInt8) :=
  match files.fileAt path with
  | some loc => .ok (files.content loc)
  | none => .error (files.errorText path)

def normalizePathForPolicy (path : Path) : Path :=
  match files.canonicalize path with
  | .ok canonical => canonical
  | .error _ => if path.isAbsolute then path else (Path.ofNames files.cwd).join path

end ArtifactFiles

def resolvePluginRelativePath (sourcePath artifact : String) : Path :=
  let candidate := Path.ofString artifact
  if candidate.isAbsolute then candidate
  else
    match (Path.ofString sourcePath).parent? with
    | some parent => parent.join candidate
    | none => candidate

/-! ## Enrichment -/

section Enrichment

variable (files : ArtifactFiles) (jsonText : List Json -> String) (metadata : Metadata)

/-- Add an encoded list, unless it is empty. -/
def orInsertJson (key : String) (values : List Json) : Metadata :=
  if values.isEmpty then metadata else metadata.orInsert key (jsonText values)

def orInsertSome (key : String) (value : Option String) : Metadata :=
  match value with
  | none => metadata
  | some text => metadata.orInsert key text

/-- Describe the plugin to its readers. -/
def describePlugin (descriptor : PluginDescriptor) : Metadata :=
  let manifest := descriptor.manifest
  let metadata := manifest.metadata.orInsert "plugin_source_path" descriptor.path
  let metadata := metadata.orInsert "plugin_id" manifest.pluginId
  let metadata := metadata.orInsert "defer_loading" (toString manifest.deferLoading)
  let metadata := orInsertSome metadata "summary" manifest.summary
  let metadata := orInsertJson jsonText metadata "tags_json" (manifest.tags.map .string)
  let metadata := orInsertJson jsonText metadata "input_examples_json" manifest.inputExamples
  orInsertJson jsonText metadata "output_examples_json" manifest.outputExamples

/-- Where the component of a plugin is. -/
def locateComponent (path : String) (metadata : Metadata) : Metadata :=
  orInsertSome metadata "component_resolved_path"
    ((metadata.lookup "component").map (fun component =>
      (files.normalizePathForPolicy (resolvePluginRelativePath path component)).display))

def addRuntimeProfile : Option PluginRuntimeProfile -> Metadata
  | none => metadata
  | some runtime =>
    let metadata := metadata.orInsert "bridge_kind" runtime.bridgeKind.asStr
    let metadata := metadata.orInsert "adapter_family" runtime.adapterFamily
    let metadata := metadata.orInsert "entrypoint_hint" runtime.entrypointHint
    metadata.orInsert "source_language" runtime.sourceLanguage

def enrichDescriptor (runtime : Option PluginRuntimeProfile) (descriptor : PluginDescriptor) :
    PluginDescriptor :=
  let metadata := locateComponent files descriptor.path (describePlugin jsonText descriptor)
  { descriptor with
    manifest := { descriptor.manifest with metadata := addRuntimeProfile metadata runtime } }

/-- Enrich some plugins of a report with the profiles of its translation. -/
def enrichScanReportWithTranslation (report : List PluginDescriptor)
    (selected : List PluginDescriptor) : List PluginDescriptor :=
  selected.map (fun descriptor =>
    enrichDescriptor files jsonText
      (runtimeByKey report (descriptor.path, descriptor.manifest.pluginId)) descriptor)

end Enrichment

/-! ## The integration catalog -/

structure ProviderConfig where
  (providerId connectorName version : String)
  metadata : Metadata
  deriving DecidableEq

structure ChannelConfig where
  (channelId providerId endpoint : String)
  enabled : Bool
  deriving DecidableEq

structure IntegrationCatalog where
  providers : OrderedMap String ProviderConfig
  channels : OrderedMap String ChannelConfig
  deriving DecidableEq

def PluginManifest.providerConfig : ProviderConfig where
  providerId := manifest.providerId
  connectorName := manifest.connectorName
  version := (manifest.metadata.lookup "version").getD "0.1.0"
  metadata := manifest.metadata

def PluginManifest.channelConfig (channelId : String) : ChannelConfig where
  channelId
  providerId := manifest.providerId
  endpoint :=
    manifest.endpoint.getD
      ("https://" ++ manifest.providerId ++ ".local/" ++ channelId ++ "/invoke")
  enabled := true

namespace IntegrationCatalog

variable (catalog : IntegrationCatalog)

def upsertProvider (provider : ProviderConfig) : IntegrationCatalog :=
  { catalog with providers := catalog.providers.insert provider.providerId provider }

def upsertChannel (channel : ChannelConfig) : IntegrationCatalog :=
  { catalog with channels := catalog.channels.insert channel.channelId channel }

def channelsForProvider (providerId : String) : List ChannelConfig :=
  catalog.channels.values.filter (fun channel => decide (channel.providerId = providerId))

def absorbPlugin (manifest : PluginManifest) : Except String IntegrationCatalog :=
  if manifest.providerId = "" then .error "provider_id must not be empty"
  else if manifest.connectorName = "" then .error "connector_name must not be empty"
  else
    let catalog := catalog.upsertProvider manifest.providerConfig
    match manifest.channelId with
    | some channelId => .ok (catalog.upsertChannel (manifest.channelConfig channelId))
    | none => .ok catalog

/-- Absorb plugins in order.  An error leaves the catalog as it was. -/
def absorb (catalog : IntegrationCatalog) : List PluginDescriptor ->
    Except String IntegrationCatalog
  | [] => .ok catalog
  | descriptor :: rest => do
    let next <- catalog.absorbPlugin descriptor.manifest
    absorb next rest

end IntegrationCatalog

end LoongClaw.Plugins
