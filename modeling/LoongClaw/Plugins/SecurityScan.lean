import LoongClaw.Plugins.Descriptor

namespace LoongClaw.Plugins

open Foundation Text

/-!
# The security scan of plugins

Before plugins are absorbed, each of them is scanned for what it would execute.
For a wasm plugin the scan finds the artifact that the manifest declares, reads
it, and checks its size, its digest against the pins of the manifest and of the
policy, and its imports.  The hash, the wasm parser and the texts of its errors
are parameters.
-/

inductive SecurityFindingSeverity where
  | low
  | medium
  | high
  deriving DecidableEq

structure SecurityFinding where
  severity : SecurityFindingSeverity
  (category pluginId sourcePath message : String)

structure WasmSecurityScanSpec where
  enabled : Bool
  maxModuleBytes : Nat
  allowWasi : Bool
  (blockedImportPrefixes allowedPathPrefixes : List String)
  requireHashPin : Bool
  requiredSha256ByPlugin : OrderedMap String String
  deriving DecidableEq

structure SecurityRuntimeExecutionSpec where
  executeWasmComponent : Bool
  allowedPathPrefixes : List String
  maxComponentBytes : Option Nat
  fuelLimit : Option UInt64
  deriving DecidableEq

structure SecurityProfileSignatureSpec where
  (publicKeyBase64 signatureBase64 : String)
  deriving DecidableEq

structure SecuritySiemExportSpec where
  enabled : Bool
  path : String
  deriving DecidableEq

structure SecurityScanSpec where
  (enabled blockOnHigh : Bool)
  (profilePath profileSha256 : Option String)
  profileSignature : Option SecurityProfileSignatureSpec
  siemExport : Option SecuritySiemExportSpec
  runtime : SecurityRuntimeExecutionSpec
  highRiskMetadataKeywords : List String
  wasm : WasmSecurityScanSpec
  deriving DecidableEq

/-- What a policy takes from its profile, or from the bundled one. -/
structure SecurityScanProfile where
  highRiskMetadataKeywords : List String
  wasm : WasmSecurityScanSpec

/-! ## The policy -/

def validateSecurityScanPolicy (policy : SecurityScanSpec) : Except String Unit :=
  if policy.profileSha256.isSome && policy.profilePath.isNone then
    .error "security scan profile_sha256 requires security_scan.profile_path to be set"
  else if policy.profileSignature.isSome && policy.profilePath.isNone then
    .error "security scan profile_signature requires security_scan.profile_path to be set"
  else if policy.profileSignature.any (fun signature => trim signature.publicKeyBase64 == "") then
    .error "security scan profile_signature.public_key_base64 cannot be empty"
  else if policy.profileSignature.any (fun signature => trim signature.signatureBase64 == "") then
    .error "security scan profile_signature.signature_base64 cannot be empty"
  else if policy.siemExport.any (fun target => target.enabled && trim target.path == "") then
    .error "security scan siem_export.path cannot be empty when enabled"
  else if policy.runtime.executeWasmComponent && policy.runtime.allowedPathPrefixes.isEmpty then
    .error ("security scan runtime.execute_wasm_component requires " ++
      "runtime.allowed_path_prefixes to be configured")
  else .ok ()

/-- The policy of a run: none if the scan is off, and otherwise a valid one with
what it leaves open taken from the profile.  How a profile is found and verified
is a parameter. -/
def securityScanPolicy (resolveSecurityScanProfile :
      SecurityScanSpec -> Except String SecurityScanProfile) (policy : SecurityScanSpec) :
    Except String (Option SecurityScanSpec) := do
  if policy.enabled = false then return none
  else
    validateSecurityScanPolicy policy
    let profile <- resolveSecurityScanProfile policy
    let wasm := policy.wasm
    return some { policy with
      highRiskMetadataKeywords :=
        if policy.highRiskMetadataKeywords.isEmpty then profile.highRiskMetadataKeywords
        else policy.highRiskMetadataKeywords
      wasm := { wasm with
        blockedImportPrefixes :=
          if wasm.blockedImportPrefixes.isEmpty then profile.wasm.blockedImportPrefixes
          else wasm.blockedImportPrefixes
        maxModuleBytes :=
          if wasm.maxModuleBytes = 0 then profile.wasm.maxModuleBytes else wasm.maxModuleBytes
        allowedPathPrefixes :=
          if wasm.allowedPathPrefixes.isEmpty then profile.wasm.allowedPathPrefixes
          else wasm.allowedPathPrefixes
        requiredSha256ByPlugin :=
          if wasm.requiredSha256ByPlugin.isEmpty then profile.wasm.requiredSha256ByPlugin
          else wasm.requiredSha256ByPlugin } }

/-- The hash and the parser that the scan uses. -/
structure WasmTools where
  sha256Hex : List UInt8 -> String
  parseWasmImportModules : List UInt8 -> Except String (List String)

/-! ## Pins -/

def isAsciiHexdigit (c : Char) : Bool :=
  ('0' <= c && c <= '9') || ('a' <= c && c <= 'f') || ('A' <= c && c <= 'F')

/-- The scan and the runtime normalize a pin in the same way. -/
def normalizeWasmSha256Pin (raw : String) : Except String String :=
  let trimmed := trim raw
  if trimmed = "" then .error "wasm sha256 pin must not be empty"
  else
    let digest := trim (stripStart "sha256:" (toAsciiLowercase trimmed))
    if digest.utf8ByteSize ≠ 64 \/ !digest.toList.all isAsciiHexdigit then
      .error "wasm sha256 pin must be 64 hex characters (optional prefix `sha256:`)"
    else .ok digest

/-- The keys of the pins that a manifest may have. -/
def metadataPinKeys : List String :=
  ["component_sha256", "component_sha256_pin", "component_sha256_hex"]

/-! ## Findings -/

section Scan

variable (files : ArtifactFiles) (tools : WasmTools) (descriptor : PluginDescriptor)
  (policy : WasmSecurityScanSpec) (blockedImportPrefixes : List String)

def descriptorBridgeKind : PluginBridgeKind :=
  match (descriptor.manifest.metadata.lookup "bridge_kind").bind PluginBridgeKind.parse with
  | some kind => kind
  | none =>
    let language := toAsciiLowercase (trim descriptor.language)
    if language ∈ ["wasm", "wat"] then .wasmComponent
    else if language ∈ ["rust", "go", "c", "cpp", "cxx"] then .nativeFfi
    else if language ∈ ["python", "javascript", "typescript", "java"] then .processStdio
    else
      match descriptor.manifest.endpoint.map toAsciiLowercase with
      | none => .unknown
      | some endpoint =>
        if isHttpUrl endpoint then .httpJson
        else if endsWith endpoint ".wasm" then .wasmComponent
        else .unknown

/-- A finding about a plugin. -/
def PluginDescriptor.finding (severity : SecurityFindingSeverity) (category message : String) :
    SecurityFinding where
  severity
  category
  pluginId := descriptor.manifest.pluginId
  sourcePath := descriptor.path
  message

/-- The keywords and prefixes of a policy, in lower case and in order. -/
def normalizeSignalList (list : List String) : List String :=
  (((list.map (fun value => toAsciiLowercase (trim value))).filter
    (fun value => decide (value ≠ ""))).dedup).mergeSort
      (fun first second => decide (first <= second))

def scanDescriptorMetadataKeywords (keywords : List String) : List SecurityFinding :=
  let haystack := " ".intercalate (descriptor.manifest.metadata.flatMap (fun entry =>
    [toAsciiLowercase entry.1, toAsciiLowercase entry.2]))
  (keywords.filter (containsText haystack)).map (fun keyword =>
    descriptor.finding .medium "metadata_keyword"
      ("metadata contains high-risk keyword: " ++ keyword))

def isProcessCommandAllowed (program : String) (allowed : List String) : Bool :=
  allowed.contains (toAsciiLowercase (trim program)) ||
    ((Path.ofString program).fileName?).any (fun name =>
      allowed.contains (toAsciiLowercase name))

def scanProcessStdioSecurity (processAllowlist : List String) : List SecurityFinding :=
  match descriptor.manifest.metadata.lookup "command" with
  | some command =>
    if isProcessCommandAllowed command processAllowlist then []
    else
      [descriptor.finding .high "process_command_not_allowlisted"
        ("process_stdio command " ++ command ++ " is not in runtime allowlist")]
  | none =>
    [descriptor.finding .medium "process_command_missing"
      "process_stdio plugin does not declare metadata.command"]

/-! ## The artifact -/

/-- The artifact that the scan looks at. -/
def descriptorWasmArtifact : Option String :=
  ((descriptor.manifest.metadata.lookup "component").or
    (descriptor.manifest.metadata.lookup "wasm_path")).or
      (descriptor.manifest.endpoint.filter (fun value =>
        endsWith (toAsciiLowercase value) ".wasm"))

/-- The path at which the scan reads the artifact. -/
def scannedArtifactPath (rawArtifact : String) : Path :=
  files.normalizePathForPolicy (resolvePluginRelativePath descriptor.path rawArtifact)

/-- The pins of the manifest, or why one of them is no pin. -/
def metadataPins (metadata : Metadata) : List (Except String String) :=
  metadataPinKeys.filterMap (fun key => (metadata.lookup key).map normalizeWasmSha256Pin)

def validPins (pins : List (Except String String)) : List String :=
  pins.filterMap Except.toOption

def invalidPinFindings (pins : List (Except String String)) : List SecurityFinding :=
  pins.filterMap (fun pin =>
    match pin with
    | .ok _ => none
    | .error _ =>
      some (descriptor.finding .high "wasm_sha256_pin_invalid" "wasm sha256 pin format is invalid"))

/-- The one pin of the manifest, with a finding if there are different ones. -/
def metadataPin (pins : List String) : Option String × List SecurityFinding :=
  match pins with
  | [] => (none, [])
  | pin :: rest =>
    if rest.all (fun candidate => decide (candidate = pin)) then (some pin, [])
    else
      (none,
        [descriptor.finding .high "wasm_sha256_pin_conflict"
          "multiple metadata wasm sha256 pins conflict with each other"])

/-- The pin of the policy for the plugin, with a finding if it is no pin. -/
def policyPin : Option String × List SecurityFinding :=
  match (policy.requiredSha256ByPlugin.lookup descriptor.manifest.pluginId).map
      normalizeWasmSha256Pin with
  | none => (none, [])
  | some (.ok pin) => (some pin, [])
  | some (.error _) =>
    (none, [descriptor.finding .high "wasm_sha256_pin_invalid" "wasm sha256 pin format is invalid"])

/-- The pin that the artifact is compared with. -/
def expectedPin : Option String -> Option String -> Option String × List SecurityFinding
  | some metadataPin, some policyPin =>
    if metadataPin ≠ policyPin then
      (none,
        [descriptor.finding .high "wasm_sha256_pin_conflict"
          "metadata wasm sha256 pin conflicts with required_sha256_by_plugin pin"])
    else (some policyPin, [])
  | some metadataPin, none => (some metadataPin, [])
  | none, some policyPin => (some policyPin, [])
  | none, none =>
    (none,
      if policy.requireHashPin then
        [descriptor.finding .high "wasm_sha256_pin_missing"
          "wasm hash pin is required but missing for plugin"]
      else [])

def scanPins (digestHex : String) : List SecurityFinding :=
  let pins := metadataPins descriptor.manifest.metadata
  let declared := metadataPin descriptor (validPins pins)
  let required := policyPin descriptor policy
  let expected := expectedPin descriptor policy declared.1 required.1
  let mismatch :=
    match expected.1 with
    | some pin =>
      if eqIgnoreAsciiCase pin digestHex then []
      else
        [descriptor.finding .high "wasm_sha256_mismatch" "wasm sha256 does not match required pin"]
    | none => []
  invalidPinFindings descriptor pins ++ declared.2 ++ required.2 ++ expected.2 ++ mismatch

def scanImport (moduleName : String) : List SecurityFinding :=
  let lowered := toAsciiLowercase moduleName
  (if !policy.allowWasi && startsWith lowered "wasi" then
    [descriptor.finding .high "wasm_wasi_import_blocked"
      "wasi import is blocked by wasm security policy"]
  else []) ++ (if blockedImportPrefixes.any (startsWith lowered) then
      [descriptor.finding .high "wasm_import_prefix_blocked"
        "wasm import module matched blocked prefix"]
    else [])

def scanImports (bytes : List UInt8) : List SecurityFinding :=
  match tools.parseWasmImportModules bytes with
  | .error _ =>
    [descriptor.finding .high "wasm_parse_failed" "wasm parser failed while reading module imports"]
  | .ok imports =>
    imports.flatMap (scanImport descriptor policy blockedImportPrefixes) ++
      [descriptor.finding .low "wasm_digest_observed" "wasm artifact digest captured for audit"]

def scanModule (bytes : List UInt8) : List SecurityFinding :=
  (if bytes.length > policy.maxModuleBytes then
    [descriptor.finding .high "wasm_module_too_large"
      ("wasm module size " ++ toString bytes.length ++ " exceeds max_module_bytes " ++
        toString policy.maxModuleBytes)]
  else []) ++ (if [0x00, 0x61, 0x73, 0x6d].isPrefixOf bytes then
      scanPins descriptor policy (tools.sha256Hex bytes) ++
        scanImports tools descriptor policy blockedImportPrefixes bytes
    else
      [descriptor.finding .high "wasm_magic_header_invalid"
        "artifact does not contain valid wasm magic header"])

def scanWasmPluginSecurity (allowedPathPrefixes : List Path) : List SecurityFinding :=
  match descriptorWasmArtifact descriptor with
  | none =>
    [descriptor.finding .high "wasm_artifact_missing"
      "wasm plugin does not declare metadata.component/metadata.wasm_path/endpoint artifact"]
  | some rawArtifact =>
    if isHttpUrl rawArtifact then
      [descriptor.finding .high "wasm_remote_artifact"
        "remote wasm artifact cannot be statically verified for local hotplug safety"]
    else
      let artifactPath := scannedArtifactPath files descriptor rawArtifact
      if !allowedPathPrefixes.isEmpty && !allowedPathPrefixes.any artifactPath.startsWith then
        [descriptor.finding .high "wasm_artifact_path_not_allowed"
          "wasm artifact path is outside allowed_path_prefixes"]
      else
        match files.read artifactPath with
        | .error _ =>
          [descriptor.finding .high "wasm_artifact_unreadable"
            "wasm artifact cannot be read from filesystem"]
        | .ok bytes => scanModule tools descriptor policy blockedImportPrefixes bytes

/-! ## The scan of a report -/

variable (policy : SecurityScanSpec)

def scanBridge (processAllowlist : List String)
    (descriptor : PluginDescriptor) : List SecurityFinding :=
  match descriptorBridgeKind descriptor with
  | .processStdio => scanProcessStdioSecurity descriptor processAllowlist
  | .nativeFfi =>
    [descriptor.finding .medium "native_ffi_review"
      "native_ffi plugin requires manual review and stronger sandboxing"]
  | .wasmComponent =>
    if policy.wasm.enabled then
      scanWasmPluginSecurity files tools descriptor policy.wasm
        (normalizeSignalList policy.wasm.blockedImportPrefixes)
        (policy.wasm.allowedPathPrefixes.map (fun allowed =>
          files.normalizePathForPolicy (Path.ofString allowed)))
    else []
  | _ => []

def scanDescriptor (processAllowlist : List String)
    (descriptor : PluginDescriptor) : List SecurityFinding :=
  scanDescriptorMetadataKeywords descriptor (normalizeSignalList policy.highRiskMetadataKeywords) ++
    scanBridge files tools policy processAllowlist descriptor

structure SecurityScanDelta where
  findings : List SecurityFinding
  blockReason : Option String

def highFindings (findings : List SecurityFinding) : Nat :=
  findings.countP (fun finding => decide (finding.severity = .high))

def evaluatePluginSecurityScan (processAllowlist : List String)
    (report : List PluginDescriptor) : SecurityScanDelta :=
  let findings := report.flatMap (scanDescriptor files tools policy processAllowlist)
  { findings
    blockReason :=
      if policy.blockOnHigh && decide (0 < highFindings findings) then
        some ("security scan blocked " ++ toString (highFindings findings) ++
          " high-risk finding(s)")
      else none }

end Scan

end LoongClaw.Plugins
