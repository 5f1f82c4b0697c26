import LoongClaw.Plugins.WasmBridge

namespace LoongClaw.Plugins

open Foundation Fallible FileTree

/-!
# The scanned artifact and the executed one

The scan and the runtime find the artifact of a plugin, and the name of the
plugin, in its metadata, but under different keys.  The manifest may have
entries under the keys that the enrichment is to fill.  This module says for
which manifests the file that is executed is the file that was scanned, and
the pin that is enforced the one that the policy has for the plugin.
-/

/-! ## Files behind paths -/

namespace ArtifactFiles

variable {files : ArtifactFiles} {path : Path} {loc : Location}

theorem resolve_canonical (found : files.resolve path = some loc) :
    files.resolve (Path.ofNames loc) = some loc :=
  locate_of_real (locate_real files.cwd_real found)

theorem fileAt_eq_some : files.fileAt path = some loc ↔
      files.resolve path = some loc /\ files.tree.node loc = some .file := by
  unfold fileAt
  rw [Option.filter_eq_some_iff, decide_eq_true_eq]

theorem resolve_relative (isRelative : path.absolute = false) (nonempty : path.steps ≠ []) :
    files.resolve path = files.tree.walk false files.linkLimit files.cwd path.steps := by
  unfold FileSystem.resolve locate startOf
  rw [if_neg (fun empty => nonempty empty.2), if_neg (by rw [isRelative]; decide)]

theorem resolve_cwd_join (isRelative : path.absolute = false) :
    files.resolve ((Path.ofNames files.cwd).join path) =
      files.tree.walk false files.linkLimit files.cwd
        (if path.steps = [] then [.here] else path.steps) := by
  have joined : (Path.ofNames files.cwd).join path =
      { absolute := true
        steps := files.cwd.map .name ++ (if path.steps = [] then [.here] else path.steps) } := by
    unfold Path.join
    rw [if_neg (by rw [isRelative]; decide), if_neg (by simp [Path.ofNames])]
    rfl
  rw [joined]
  unfold FileSystem.resolve locate
  rw [if_neg (by simp)]
  unfold startOf
  rw [if_pos rfl, walk_names files.cwd_real]

/-- Normalizing a path does not change the file behind it. -/
theorem fileAt_normalize (path : Path) :
    files.fileAt (files.normalizePathForPolicy path) = files.fileAt path := by
  unfold normalizePathForPolicy FileSystem.canonicalize
  cases found : files.resolve path with
  | some loc =>
    unfold fileAt
    rw [resolve_canonical found, found]
  | none =>
    dsimp only
    split
    · rfl
    · rename_i notAbsolute
      have isRelative : path.absolute = false := Bool.not_eq_true _ |>.mp notAbsolute
      unfold fileAt
      rw [resolve_cwd_join isRelative, found]
      split
      · rw [walk_eq, walkWith]
        split
        · rename_i isDirectory
          simp [walkWith, isDirectory]
        · rfl
      · rename_i nonempty
        rw [<- resolve_relative isRelative nonempty, found]

/-- The text of a normalized path to a file stands for that file. -/
theorem fileAt_display (found : files.fileAt path = some loc) :
    Path.ofString (files.normalizePathForPolicy path).display = Path.ofNames loc /\
      files.fileAt (Path.ofNames loc) = some loc := by
  rcases fileAt_eq_some.mp found with ⟨resolved, isFile⟩
  have normal : files.normalizePathForPolicy path = Path.ofNames loc := by
    unfold normalizePathForPolicy FileSystem.canonicalize
    rw [resolved]
  have nonempty : loc ≠ [] := by
    rintro rfl
    rw [files.tree.root_directory] at isFile
    cases isFile
  refine ⟨?_, fileAt_eq_some.mpr ⟨resolve_canonical resolved, isFile⟩⟩
  rw [normal]
  exact Path.ofString_display_ofNames nonempty (files.properNames loc (by rw [isFile]; rfl))

end ArtifactFiles

/-! ## What the enrichment adds -/

section Enrichment

variable {files : ArtifactFiles} {jsonText : List Json -> String} (metadata : Metadata)

theorem Metadata.lookup_orInsert (key value other : String) :
    (metadata.orInsert key value).lookup other =
      (metadata.lookup other).or (if other = key then some value else none) := by
  unfold Metadata.orInsert OrderedMap.contains
  by_cases same : other = key
  · subst same
    cases stored : metadata.lookup other with
    | some text => simp [stored]
    | none => simp
  · rw [if_neg same, Option.or_none]
    split
    · rfl
    · exact OrderedMap.lookup_insert_of_ne same _ _

theorem lookup_orInsertSome {key : String} {value : Option String} {other : String} :
    (orInsertSome metadata key value).lookup other =
      (metadata.lookup other).or (if other = key then value else none) := by
  cases value with
  | none => simp [orInsertSome]
  | some text => exact metadata.lookup_orInsert key text other

variable {key : String}

theorem lookup_orInsertJson_of_ne {other : String} {values : List Json} (different : other ≠ key) :
    (orInsertJson jsonText metadata key values).lookup other = metadata.lookup other := by
  unfold orInsertJson
  split
  · rfl
  · rw [Metadata.lookup_orInsert, if_neg different, Option.or_none]

theorem lookup_describePlugin {descriptor : PluginDescriptor}
    (plain : key ∉ ["defer_loading", "summary", "tags_json", "input_examples_json",
      "output_examples_json"]) :
    (describePlugin jsonText descriptor).lookup key = (descriptor.manifest.metadata.lookup key).or
        (if key = "plugin_source_path" then some descriptor.path
        else if key = "plugin_id" then some descriptor.manifest.pluginId
        else none) := by
  simp only [List.mem_cons, List.not_mem_nil, or_false, not_or] at plain
  rcases plain with ⟨notDefer, notSummary, notTags, notInput, notOutput⟩
  unfold describePlugin
  rw [lookup_orInsertJson_of_ne _ notOutput, lookup_orInsertJson_of_ne _ notInput,
    lookup_orInsertJson_of_ne _ notTags, lookup_orInsertSome, if_neg notSummary, Option.or_none,
    Metadata.lookup_orInsert, if_neg notDefer, Option.or_none, Metadata.lookup_orInsert,
    Metadata.lookup_orInsert]
  by_cases isSource : key = "plugin_source_path"
  · subst isSource
    simp
  · simp only [if_neg isSource, Option.or_none]

/-- The keys that a runtime profile may add. -/
def profileKeys : List String :=
  ["bridge_kind", "adapter_family", "entrypoint_hint", "source_language"]

variable (runtime : Option PluginRuntimeProfile)

theorem lookup_addRuntimeProfile (plain : key ∉ profileKeys) :
    (addRuntimeProfile metadata runtime).lookup key = metadata.lookup key := by
  unfold profileKeys at plain
  simp only [List.mem_cons, List.not_mem_nil, or_false, not_or] at plain
  rcases plain with ⟨notBridge, notFamily, notHint, notLanguage⟩
  cases runtime with
  | none => rfl
  | some profile =>
    unfold addRuntimeProfile
    rw [Metadata.lookup_orInsert, if_neg notLanguage, Option.or_none,
      Metadata.lookup_orInsert, if_neg notHint, Option.or_none, Metadata.lookup_orInsert,
      if_neg notFamily, Option.or_none, Metadata.lookup_orInsert, if_neg notBridge,
      Option.or_none]

/-- What the runtime finds under the keys of the artifact and of the plugin. -/
structure EnrichedMetadata (files : ArtifactFiles) (plugin : PluginDescriptor)
    (metadata : Metadata) : Prop where
  sourcePath : metadata.lookup "plugin_source_path" =
      some ((plugin.manifest.metadata.lookup "plugin_source_path").getD plugin.path)
  pluginId : metadata.lookup "plugin_id" =
      some ((plugin.manifest.metadata.lookup "plugin_id").getD plugin.manifest.pluginId)
  resolvedPath : metadata.lookup "component_resolved_path" =
      (plugin.manifest.metadata.lookup "component_resolved_path").or
        ((plugin.manifest.metadata.lookup "component").map (fun component =>
          (files.normalizePathForPolicy (resolvePluginRelativePath plugin.path component)).display))
  others :
    ∀ key, key ∈ ["component", "wasm_path", "component_path", "component_sha256",
        "component_sha256_pin", "component_sha256_hex"] ->
      metadata.lookup key = plugin.manifest.metadata.lookup key

theorem enrichedMetadata {plugin : PluginDescriptor} : EnrichedMetadata files plugin
      (enrichDescriptor files jsonText runtime plugin).manifest.metadata := by
  have component : (describePlugin jsonText plugin).lookup "component" =
      plugin.manifest.metadata.lookup "component" := by
    rw [lookup_describePlugin (by decide), if_neg (by decide), if_neg (by decide), Option.or_none]
  unfold enrichDescriptor
  refine ⟨?_, ?_, ?_, ?_⟩
  · rw [lookup_addRuntimeProfile _ _ (by decide), locateComponent, lookup_orInsertSome,
      if_neg (by decide), Option.or_none, lookup_describePlugin (by decide), if_pos rfl]
    cases plugin.manifest.metadata.lookup "plugin_source_path" <;> rfl
  · rw [lookup_addRuntimeProfile _ _ (by decide), locateComponent, lookup_orInsertSome,
      if_neg (by decide), Option.or_none, lookup_describePlugin (by decide),
      if_neg (by decide), if_pos rfl]
    cases plugin.manifest.metadata.lookup "plugin_id" <;> rfl
  · rw [lookup_addRuntimeProfile _ _ (by decide), locateComponent, lookup_orInsertSome, if_pos rfl,
      component, lookup_describePlugin (by decide), if_neg (by decide),
      if_neg (by decide), Option.or_none]
  · intro key member
    have plain : key ∉ profileKeys /\ key ≠ "component_resolved_path" /\
        key ∉ ["defer_loading", "summary", "tags_json", "input_examples_json",
          "output_examples_json"] /\ key ≠ "plugin_source_path" /\ key ≠ "plugin_id" := by
      revert key
      decide
    rw [lookup_addRuntimeProfile _ _ plain.1, locateComponent, lookup_orInsertSome,
      if_neg plain.2.1, Option.or_none, lookup_describePlugin plain.2.2.1,
      if_neg plain.2.2.2.1, if_neg plain.2.2.2.2, Option.or_none]

end Enrichment

/-! ## What an accepting scan has seen -/

/-- The pin that a policy has for a plugin. -/
def requiredPin (policy : WasmSecurityScanSpec) (pluginId : String) : Option String :=
  (policy.requiredSha256ByPlugin.lookup pluginId).bind (fun raw =>
    (normalizeWasmSha256Pin raw).toOption)

def NoHigh (findings : List SecurityFinding) : Prop :=
  ∀ finding, finding ∈ findings -> finding.severity ≠ .high

theorem NoHigh.append {first second : List SecurityFinding} :
    NoHigh (first ++ second) ↔ NoHigh first /\ NoHigh second :=
  List.forall_mem_append

variable {descriptor : PluginDescriptor}

theorem not_noHigh_singleton {category message : String} :
    ¬ NoHigh [descriptor.finding .high category message] :=
  fun clean => clean _ (List.mem_singleton.mpr rfl) rfl

/-- The pins of the manifest and the policy are well formed and agree. -/
structure PinsAccepted (descriptor : PluginDescriptor) (policy : WasmSecurityScanSpec) : Prop where
  declared : ∀ pin, pin ∈ metadataPins descriptor.manifest.metadata -> ∃ text, pin = .ok text
  agreed : ∀ pin, pin ∈ validPins (metadataPins descriptor.manifest.metadata) ->
    ∀ required, requiredPin policy descriptor.manifest.pluginId = some required -> pin = required

theorem metadataPin_noHigh {pins : List String} (clean : NoHigh (metadataPin descriptor pins).2) :
    (metadataPin descriptor pins).1 = pins.head? /\ ∀ pin, pin ∈ pins -> pins.head? = some pin := by
  cases pins with
  | nil => exact ⟨rfl, nofun⟩
  | cons first rest =>
    by_cases same : rest.all (fun candidate => decide (candidate = first)) = true
    · have chosen : metadataPin descriptor (first :: rest) = (some first, []) := if_pos same
      rw [chosen]
      refine ⟨rfl, List.forall_mem_cons.mpr ⟨rfl, fun pin inRest => ?_⟩⟩
      rw [List.head?_cons, of_decide_eq_true (List.all_eq_true.mp same pin inRest)]
    · have conflict : metadataPin descriptor (first :: rest) =
          (none, [descriptor.finding .high "wasm_sha256_pin_conflict"
            "multiple metadata wasm sha256 pins conflict with each other"]) := if_neg same
      rw [conflict] at clean
      exact absurd clean not_noHigh_singleton

theorem policyPin_noHigh {policy : WasmSecurityScanSpec}
    (clean : NoHigh (policyPin descriptor policy).2) :
    (policyPin descriptor policy).1 = requiredPin policy descriptor.manifest.pluginId := by
  unfold policyPin at clean ⊢
  unfold requiredPin
  cases stored : policy.requiredSha256ByPlugin.lookup descriptor.manifest.pluginId with
  | none => rfl
  | some raw =>
    rw [stored] at clean
    cases normalized : normalizeWasmSha256Pin raw with
    | ok pin => simp [normalized, Except.toOption]
    | error reason =>
      simp only [Option.map_some, normalized] at clean
      exact absurd clean not_noHigh_singleton

theorem pinsAccepted_of_noHigh {policy : WasmSecurityScanSpec} {digestHex : String}
    (clean : NoHigh (scanPins descriptor policy digestHex)) : PinsAccepted descriptor policy := by
  unfold scanPins at clean
  rw [NoHigh.append, NoHigh.append, NoHigh.append, NoHigh.append] at clean
  rcases clean with ⟨⟨⟨⟨invalid, conflict⟩, required⟩, expected⟩, _⟩
  have declared := metadataPin_noHigh conflict
  constructor
  · intro pin member
    cases pin with
    | ok text => exact ⟨text, rfl⟩
    | error reason =>
      refine absurd rfl (invalid (descriptor.finding .high "wasm_sha256_pin_invalid"
        "wasm sha256 pin format is invalid") ?_)
      exact List.mem_filterMap.mpr ⟨_, member, rfl⟩
  · intro pin member requiredText isRequired
    rw [policyPin_noHigh required, isRequired, declared.1, declared.2 pin member] at expected
    unfold expectedPin at expected
    dsimp only at expected
    split at expected
    · exact absurd expected not_noHigh_singleton
    · rename_i same
      exact not_not.mp same

/-- What the scan found out about a wasm plugin that it has no objection to. -/
structure ScannedWasm (files : ArtifactFiles) (descriptor : PluginDescriptor)
    (policy : WasmSecurityScanSpec) (raw : String) (loc : Location) : Prop where
  artifact : descriptorWasmArtifact descriptor = some raw
  file : files.fileAt (resolvePluginRelativePath descriptor.path raw) = some loc
  pins : PinsAccepted descriptor policy

section Scan

variable {files : ArtifactFiles} {tools : WasmTools} {descriptor : PluginDescriptor}

theorem scannedWasm_of_noHigh {policy : WasmSecurityScanSpec} {blockedImportPrefixes : List String}
    {allowedPathPrefixes : List Path}
    (clean : NoHigh (scanWasmPluginSecurity files tools descriptor policy blockedImportPrefixes
      allowedPathPrefixes)) :
    ∃ raw loc, ScannedWasm files descriptor policy raw loc := by
  unfold scanWasmPluginSecurity at clean
  cases artifact : descriptorWasmArtifact descriptor with
  | none =>
    rw [artifact] at clean
    exact absurd clean not_noHigh_singleton
  | some raw =>
    rw [artifact] at clean
    dsimp only at clean
    split at clean
    · exact absurd clean not_noHigh_singleton
    split at clean
    · exact absurd clean not_noHigh_singleton
    unfold ArtifactFiles.read scannedArtifactPath at clean
    rw [ArtifactFiles.fileAt_normalize] at clean
    cases found : files.fileAt (resolvePluginRelativePath descriptor.path raw) with
    | none =>
      rw [found] at clean
      exact absurd clean not_noHigh_singleton
    | some loc =>
      rw [found] at clean
      unfold scanModule at clean
      rw [NoHigh.append] at clean
      have scanned := clean.2
      split at scanned
      · rw [NoHigh.append] at scanned
        exact ⟨raw, loc, artifact, found, pinsAccepted_of_noHigh scanned.1⟩
      · exact absurd scanned not_noHigh_singleton

end Scan

/-! ## What the runtime executes -/

section Runtime

variable {files : ArtifactFiles} {tools : WasmTools} {engine : WasmEngine}
  {provider : ProviderConfig} {channel : ChannelConfig} {policy : BridgeRuntimePolicy}

/-- Where an executed module comes from. -/
structure ExecutedWasm (files : ArtifactFiles) (provider : ProviderConfig)
    (channel : ChannelConfig) (policy : BridgeRuntimePolicy) (execution : WasmExecution)
    (raw : String) (loc : Location) : Prop where
  artifact : runtimeArtifact provider.metadata channel.endpoint = some raw
  named : files.fileAt (runtimeArtifactPath provider.metadata raw) = some loc
  file : files.fileAt execution.artifactPath = some loc
  pin : resolveExpectedWasmSha256 provider policy = .ok execution.expectedSha256

variable {path : Path} {pin : Option String} {pins : List (String × String)}

theorem requireRegularFile_ok {loc : Location}
    (accepted : requireRegularFile files path = .ok loc) :
    files.fileAt path = some loc := by
  unfold requireRegularFile at accepted
  split at accepted
  · cases accepted
  · rename_i found resolved
    split at accepted
    · rename_i isFile
      cases accepted
      exact ArtifactFiles.fileAt_eq_some.mpr ⟨resolved, isFile⟩
    · cases accepted

theorem fileAt_canonicalize {canonical : Path}
    (canonicalized : files.canonicalize path = .ok canonical) :
    files.fileAt canonical = files.fileAt path := by
  unfold FileSystem.canonicalize at canonicalized
  split at canonicalized
  · rename_i loc found
    rw [<- Except.ok.inj canonicalized]
    unfold ArtifactFiles.fileAt
    rw [ArtifactFiles.resolve_canonical found, found]
  · cases canonicalized

theorem executedWasm_of_ok {execution : WasmExecution}
    (executed : executeWasmComponentBridge files tools engine provider channel policy =
      .ok execution) :
    ∃ raw loc, ExecutedWasm files provider channel policy execution raw loc := by
  rcases bind_eq_ok_iff.mp executed with ⟨path, resolves, executed⟩
  rcases bind_eq_ok_iff.mp executed with ⟨canonical, canonicalizes, executed⟩
  rcases bind_eq_ok_iff.mp executed with ⟨⟨⟩, _, executed⟩
  rcases bind_eq_ok_iff.mp executed with ⟨loc, regular, executed⟩
  rcases bind_eq_ok_iff.mp executed with ⟨⟨⟩, _, executed⟩
  rcases bind_eq_ok_iff.mp executed with ⟨pin, pinned, executed⟩
  rcases bind_eq_ok_iff.mp executed with ⟨⟨⟩, _, executed⟩
  rcases bind_eq_ok_iff.mp (mapError_eq_ok_iff.mp resolves) with ⟨raw, isRaw, resolved⟩
  split at resolved
  · cases resolved
  have isPath := Except.ok.inj resolved
  have file := requireRegularFile_ok regular
  have named : files.fileAt (runtimeArtifactPath provider.metadata raw) = some loc := by
    rw [<- ArtifactFiles.fileAt_normalize, isPath,
      <- fileAt_canonicalize (mapError_eq_ok_iff.mp canonicalizes),
      <- ArtifactFiles.fileAt_normalize]
    exact file
  rw [<- Except.ok.inj executed]
  exact ⟨raw, loc, okOr_eq_ok_iff.mp isRaw, named, file, mapError_eq_ok_iff.mp pinned⟩

theorem checkedPin_ok {describe : String -> String} {raw : Option String}
    (checked : checkedPin describe raw = .ok pin) :
    pin = raw.bind (fun text => (normalizeWasmSha256Pin text).toOption) := by
  unfold checkedPin at checked
  cases raw with
  | none => exact (Except.ok.inj checked).symm
  | some text =>
    cases normalized : normalizeWasmSha256Pin text with
    | ok value =>
      simp only [Option.map_some, normalized] at checked
      rw [<- Except.ok.inj checked]
      simp [normalized, Except.toOption]
    | error reason =>
      simp only [Option.map_some, normalized] at checked
      cases checked

theorem runtimeMetadataPins_ok {metadata : Metadata} {keys : List String}
    (read : runtimeMetadataPins metadata keys = .ok pins) :
    pins.map Prod.snd =
      validPins (keys.filterMap (fun key => (metadata.lookup key).map normalizeWasmSha256Pin)) := by
  induction keys generalizing pins with
  | nil =>
    rw [<- Except.ok.inj read]
    rfl
  | cons key rest ih =>
    rcases bind_eq_ok_iff.mp read with ⟨pin, checked, read⟩
    rcases bind_eq_ok_iff.mp read with ⟨others, readOthers, read⟩
    rw [<- Except.ok.inj read, List.map_append, ih readOthers, checkedPin_ok checked]
    cases stored : metadata.lookup key with
    | none => simp [stored]
    | some text =>
      cases normalized : normalizeWasmSha256Pin text with
      | ok value => simp [stored, normalized, validPins, Except.toOption]
      | error reason =>
        simp only [stored, Option.bind_some, normalized, Except.toOption, Option.map_none,
          Option.toList_none, List.map_nil, List.nil_append, List.filterMap_cons,
          Option.map_some, validPins]

theorem agreedPin_ok {pluginId : String} (agreed : agreedPin pluginId pins = .ok pin) :
    pin = (pins.map Prod.snd).head? := by
  cases pins with
  | nil => exact (Except.ok.inj agreed).symm
  | cons first rest =>
    unfold agreedPin at agreed
    dsimp only at agreed
    split at agreed
    · exact (Except.ok.inj agreed).symm
    · cases agreed

/-- The pin of the policy under the runtime's name of the plugin, and else
the first pin of the metadata. -/
theorem resolveExpectedWasmSha256_ok
    (resolved : resolveExpectedWasmSha256 provider policy = .ok pin) :
    pin = ((policy.wasmRequiredSha256ByPlugin.lookup (runtimePluginId provider)).bind (fun text =>
      (normalizeWasmSha256Pin text).toOption)).or
        (validPins (metadataPins provider.metadata)).head? := by
  rcases bind_eq_ok_iff.mp resolved with ⟨pins, read, resolved⟩
  rcases bind_eq_ok_iff.mp resolved with ⟨declared, agreed, resolved⟩
  rcases bind_eq_ok_iff.mp resolved with ⟨required, checked, resolved⟩
  rcases bind_eq_ok_iff.mp resolved with ⟨⟨⟩, _, resolved⟩
  unfold requirePin at resolved
  split at resolved
  · cases resolved
  · rw [<- Except.ok.inj resolved, checkedPin_ok checked, agreedPin_ok agreed,
      runtimeMetadataPins_ok read]
    rfl

/-- A call that ran a module did so for a wasm provider. -/
theorem ran_of_invokeCore {connector : DynamicCatalogConnector} {catalog : IntegrationCatalog}
    {payload : Json} {execution : WasmExecution}
    (called : resolveCall connector catalog payload = .ok (provider, channel))
    (ran : invokeCore files tools engine connector policy catalog payload = .ok (.ran execution)) :
    (provider.metadata.lookup "bridge_kind").bind PluginBridgeKind.parse = some .wasmComponent /\
      executeWasmComponentBridge files tools engine provider channel policy = .ok execution := by
  rcases bind_eq_ok_iff.mp ran with ⟨target, isTarget, reported⟩
  rw [called] at isTarget
  rw [<- Except.ok.inj isTarget] at reported
  unfold maybeExecuteBridge at reported
  split at reported
  · rename_i wasm
    rw [Bool.and_eq_true, decide_eq_true_eq] at wasm
    constructor
    · have isWasm := wasm.2
      unfold detectProviderBridgeKind at isWasm
      split at isWasm
      · rename_i kind parsed
        rw [parsed, isWasm]
      · split at isWasm <;> cases isWasm
    · cases executed : executeWasmComponentBridge files tools engine provider channel policy with
      | ok result =>
        rw [executed] at reported
        rw [BridgeExecution.ran.inj (Except.ok.inj reported)]
      | error failure =>
        rw [executed] at reported
        unfold reportExecution at reported
        dsimp only at reported
        split at reported <;> cases reported
  · cases reported

end Runtime

/-! ## Agreement -/

/-- Scan the ready plugins of a report with the policy of the run, and absorb
those that are applied. -/
def preparePlugins (files : ArtifactFiles) (tools : WasmTools) (jsonText : List Json -> String)
    (resolveSecurityScanProfile : SecurityScanSpec -> Except String SecurityScanProfile)
    (configured : SecurityScanSpec) (processAllowlist : List String)
    (report : List PluginDescriptor) (ready applied : PluginDescriptor -> Bool)
    (catalog : IntegrationCatalog) :
    Except String (Option SecurityScanSpec × IntegrationCatalog) := do
  let policy <- securityScanPolicy resolveSecurityScanProfile configured
  match policy.bind (fun policy => (evaluatePluginSecurityScan files tools policy processAllowlist
      (enrichScanReportWithTranslation files jsonText report
        (report.filter ready))).blockReason) with
  | some reason => .error reason
  | none => do
    let absorbed <- catalog.absorb
      (enrichScanReportWithTranslation files jsonText report (report.filter applied))
    .ok (policy, absorbed)

/-- The file that the scan of a plugin reads. -/
def scannedFile (files : ArtifactFiles) (policy : SecurityScanSpec)
    (descriptor : PluginDescriptor) : Option Location :=
  if policy.wasm.enabled && decide (descriptorBridgeKind descriptor = .wasmComponent) then
    (descriptorWasmArtifact descriptor).bind (fun raw =>
      files.fileAt (scannedArtifactPath files descriptor raw))
  else none

/-- The executed file was scanned, and the pin of the policy was enforced. -/
structure AgreesWithScan (files : ArtifactFiles) (policy : SecurityScanSpec)
    (descriptor : PluginDescriptor) (execution : WasmExecution) : Prop where
  file : ∃ loc, scannedFile files policy descriptor = some loc /\
    files.fileAt execution.artifactPath = some loc
  pin : ∀ pin, requiredPin policy.wasm descriptor.manifest.pluginId = some pin ->
    execution.expectedSha256 = some pin

/-- Two texts lead to one file: the first one beside the source that the
manifest names, the second one beside the file of the plugin. -/
def SameFile (files : ArtifactFiles) (plugin : PluginDescriptor) (executed scanned : String) :
    Prop :=
  ∃ loc, files.fileAt (resolvePluginRelativePath
      ((plugin.manifest.metadata.lookup "plugin_source_path").getD plugin.path) executed) =
        some loc /\ files.fileAt (resolvePluginRelativePath plugin.path scanned) = some loc

/-- The manifest declares its component and leaves it to the enrichment to
locate it. -/
def DeclaresComponent (metadata : Metadata) : Prop :=
  (metadata.lookup "component").isSome = true /\ metadata.lookup "component_resolved_path" = none

/-- The manifest, or the channel of a call, gives the runtime a text that the
enrichment has not made: a resolved path of its own or, without a component, a
component path or the endpoint. -/
inductive NamesArtifact (metadata : Metadata) (channelEndpoint : String) : String -> Prop
  | resolvedPath {text} : metadata.lookup "component_resolved_path" = some text ->
      NamesArtifact metadata channelEndpoint text
  | componentPath {text} : metadata.lookup "component_resolved_path" = none ->
      metadata.lookup "component" = none -> metadata.lookup "component_path" = some text ->
      NamesArtifact metadata channelEndpoint text
  | endpoint : metadata.lookup "component_resolved_path" = none ->
      metadata.lookup "component" = none -> metadata.lookup "component_path" = none ->
      Text.endsWith (Text.toAsciiLowercase (Text.trim channelEndpoint)) ".wasm" = true ->
      NamesArtifact metadata channelEndpoint (Text.trim channelEndpoint)

/-- The manifest leads the runtime to the file that it shows to the scan. -/
def LeadsToScanned (files : ArtifactFiles) (plugin : PluginDescriptor) (channelEndpoint : String) :
    Prop :=
  DeclaresComponent plugin.manifest.metadata \/ ∃ executed scanned,
    NamesArtifact plugin.manifest.metadata channelEndpoint executed /\
    descriptorWasmArtifact plugin = some scanned /\ SameFile files plugin executed scanned

/-- Under the name that the metadata has for the plugin there is the same
pin, or none and the metadata repeats it. -/
def KeepsPin (policy : SecurityScanSpec) (plugin : PluginDescriptor) : Prop :=
  ∀ pin, requiredPin policy.wasm plugin.manifest.pluginId = some pin ->
    let runtimeId :=
      (plugin.manifest.metadata.lookup "plugin_id").getD plugin.manifest.pluginId
    requiredPin policy.wasm runtimeId = some pin \/ requiredPin policy.wasm runtimeId = none /\
        ∃ key, key ∈ metadataPinKeys /\ (plugin.manifest.metadata.lookup key).isSome = true

section Agreement

variable {files : ArtifactFiles} {jsonText : List Json -> String} {policy : SecurityScanSpec}
  {plugin : PluginDescriptor} {runtime : Option PluginRuntimeProfile} {metadata : Metadata}
  {raw : String} {loc : Location} {descriptor : PluginDescriptor} {processAllowlist : List String}

section

variable (enriched : EnrichedMetadata files plugin metadata)

include enriched

theorem runtimeArtifactPath_enriched (raw : String) : runtimeArtifactPath metadata raw =
      resolvePluginRelativePath
        ((plugin.manifest.metadata.lookup "plugin_source_path").getD plugin.path) raw := by
  unfold runtimeArtifactPath
  rw [enriched.sourcePath]
  split
  · rename_i isAbsolute
    exact (if_pos isAbsolute).symm
  · rfl

/-- Without a component to locate, the runtime finds what the manifest has. -/
theorem runtimeArtifact_enriched_iff (notDeclared : ¬ DeclaresComponent plugin.manifest.metadata)
    {channelEndpoint text : String} :
    runtimeArtifact metadata channelEndpoint = some text ↔
      NamesArtifact plugin.manifest.metadata channelEndpoint text := by
  unfold runtimeArtifact
  rw [enriched.others "component_path" (by decide), enriched.others "component" (by decide),
    enriched.resolvedPath]
  unfold DeclaresComponent at notDeclared
  constructor
  · intro found
    cases supplied : plugin.manifest.metadata.lookup "component_resolved_path" with
    | some resolved =>
      rw [supplied] at found
      cases found
      exact .resolvedPath supplied
    | none =>
      cases component : plugin.manifest.metadata.lookup "component" with
      | some declared => simp [component, supplied] at notDeclared
      | none =>
        cases path : plugin.manifest.metadata.lookup "component_path" with
        | some text =>
          simp only [supplied, component, path, Option.map_none, Option.none_or,
            Option.some_or, Option.some.injEq] at found
          subst found
          exact .componentPath supplied component path
        | none =>
          simp only [supplied, component, path, Option.map_none, Option.none_or,
            Option.ite_none_right_eq_some, Option.some.injEq] at found
          rcases found with ⟨isWasm, rfl⟩
          exact .endpoint supplied component path isWasm
  · intro named
    cases named with
    | resolvedPath supplied => simp [supplied]
    | componentPath supplied component path => simp [supplied, component, path]
    | endpoint supplied component path isWasm => simp [supplied, component, path, isWasm]

theorem descriptorWasmArtifact_enriched
    (isMetadata : descriptor.manifest.metadata = metadata)
    (sameEndpoint : descriptor.manifest.endpoint = plugin.manifest.endpoint) :
    descriptorWasmArtifact descriptor = descriptorWasmArtifact plugin := by
  unfold descriptorWasmArtifact
  rw [isMetadata, sameEndpoint, enriched.others "component" (by decide),
    enriched.others "wasm_path" (by decide)]

theorem metadataPins_enriched : metadataPins metadata = metadataPins plugin.manifest.metadata := by
  apply List.filterMap_congr
  intro key member
  have listed : ∀ key, key ∈ metadataPinKeys ->
      key ∈ ["component", "wasm_path", "component_path", "component_sha256",
        "component_sha256_pin", "component_sha256_hex"] := by decide
  rw [enriched.others key (listed key member)]

end

/-- The runtime executes the file of a declared component. -/
theorem declared_component_executed {text : String}
    (enriched : EnrichedMetadata files plugin metadata)
    (declared : DeclaresComponent plugin.manifest.metadata)
    (isComponent : plugin.manifest.metadata.lookup "component" = some raw)
    (scanned : files.fileAt (resolvePluginRelativePath plugin.path raw) = some loc)
    {channelEndpoint : String} (artifact : runtimeArtifact metadata channelEndpoint = some text) :
    files.fileAt (runtimeArtifactPath metadata text) = some loc := by
  rcases ArtifactFiles.fileAt_display scanned with ⟨roundTrip, sameFile⟩
  have isText : text = (files.normalizePathForPolicy
      (resolvePluginRelativePath plugin.path raw)).display := by
    unfold runtimeArtifact at artifact
    rw [enriched.resolvedPath, declared.2, isComponent] at artifact
    exact (Option.some.inj artifact).symm
  have isAbsolute : (Path.ofNames loc).isAbsolute = true := rfl
  unfold runtimeArtifactPath
  rw [isText, roundTrip, if_pos isAbsolute]
  exact sameFile

theorem keepsPin_iff (enriched : EnrichedMetadata files plugin descriptor.manifest.metadata)
    (sameId : descriptor.manifest.pluginId = plugin.manifest.pluginId)
    (accepted : PinsAccepted descriptor policy.wasm) {expected : Option String}
    (isExpected : expected = (requiredPin policy.wasm
        ((plugin.manifest.metadata.lookup "plugin_id").getD plugin.manifest.pluginId)).or
          (validPins (metadataPins plugin.manifest.metadata)).head?) :
    (∀ pin, requiredPin policy.wasm plugin.manifest.pluginId = some pin ->
      expected = some pin) ↔ KeepsPin policy plugin := by
  constructor
  · intro enforced pin required
    have same := enforced pin required
    rw [isExpected] at same
    dsimp only
    cases other : requiredPin policy.wasm
        ((plugin.manifest.metadata.lookup "plugin_id").getD plugin.manifest.pluginId) with
    | some otherPin =>
      rw [other] at same
      exact Or.inl same
    | none =>
      rw [other, Option.none_or] at same
      rcases List.mem_filterMap.mp (List.mem_of_head? same) with ⟨declared, inPins, _⟩
      rcases List.mem_filterMap.mp inPins with ⟨key, member, found⟩
      refine Or.inr ⟨rfl, key, member, ?_⟩
      rcases Option.map_eq_some_iff.mp found with ⟨text, stored, _⟩
      rw [stored]
      rfl
  · intro keeps pin required
    rcases keeps pin required with same | ⟨absent, key, member, present⟩
    · rw [isExpected, same]
      rfl
    · rcases Option.isSome_iff_exists.mp present with ⟨text, stored⟩
      have inPins : normalizeWasmSha256Pin text ∈ metadataPins plugin.manifest.metadata := by
        refine List.mem_filterMap.mpr ⟨key, member, ?_⟩
        rw [stored]
        rfl
      rw [<- metadataPins_enriched enriched] at inPins isExpected
      rcases accepted.declared _ inPins with ⟨value, isValue⟩
      have inValid : value ∈ validPins (metadataPins descriptor.manifest.metadata) :=
        List.mem_filterMap.mpr ⟨_, inPins, by rw [isValue]; rfl⟩
      rw [isExpected, absent, Option.none_or]
      cases first : (validPins (metadataPins descriptor.manifest.metadata)).head? with
      | none =>
        rw [List.head?_eq_none_iff.mp first] at inValid
        cases inValid
      | some head =>
        rw [<- sameId] at required
        rw [accepted.agreed head (List.mem_of_head? first) pin required]

theorem enabled_of_scannedFile (scanned : scannedFile files policy descriptor = some loc) :
    policy.wasm.enabled = true := by
  unfold scannedFile at scanned
  split at scanned
  · rename_i both
    exact (Bool.and_eq_true _ _ |>.mp both).1
  · cases scanned

theorem scannedWasm_of_scanBridge {tools : WasmTools}
    (clean : NoHigh (scanBridge files tools policy processAllowlist descriptor))
    (isWasm : (descriptor.manifest.metadata.lookup "bridge_kind").bind PluginBridgeKind.parse =
      some .wasmComponent) (enabled : policy.wasm.enabled = true) :
    ∃ raw loc, ScannedWasm files descriptor policy.wasm raw loc /\
        scannedFile files policy descriptor = some loc := by
  have kind : descriptorBridgeKind descriptor = .wasmComponent := by
    unfold descriptorBridgeKind
    rw [isWasm]
  unfold scanBridge at clean
  rw [kind] at clean
  rw [if_pos enabled] at clean
  rcases scannedWasm_of_noHigh clean with ⟨raw, loc, scan⟩
  refine ⟨raw, loc, scan, ?_⟩
  unfold scannedFile scannedArtifactPath
  rw [if_pos (by rw [enabled, kind]; rfl), scan.artifact, Option.bind_some,
    ArtifactFiles.fileAt_normalize]
  exact scan.file

end Agreement

section Agreement

variable {files : ArtifactFiles} {tools : WasmTools} {jsonText : List Json -> String}
  {resolveSecurityScanProfile : SecurityScanSpec -> Except String SecurityScanProfile}
  {configured policy : SecurityScanSpec} {processAllowlist : List String}
  {report : List PluginDescriptor} {ready applied : PluginDescriptor -> Bool}
  {before catalog : IntegrationCatalog} {plugin : PluginDescriptor}

/-- The plugin as it is scanned and absorbed. -/
def enrichedPlugin (files : ArtifactFiles) (jsonText : List Json -> String)
    (report : List PluginDescriptor) (plugin : PluginDescriptor) : PluginDescriptor :=
  enrichDescriptor files jsonText (runtimeByKey report (plugin.path, plugin.manifest.pluginId))
    plugin

/-- A plugin of a report without a block reason has no high finding. -/
theorem noHigh_of_prepared (blocks : policy.blockOnHigh = true) (inReport : plugin ∈ report)
    (isReady : ready plugin = true)
    (prepared : preparePlugins files tools jsonText resolveSecurityScanProfile configured
      processAllowlist report ready applied before = .ok (some policy, catalog)) :
    NoHigh (scanBridge files tools policy processAllowlist
      (enrichedPlugin files jsonText report plugin)) := by
  rcases bind_eq_ok_iff.mp prepared with ⟨found, _, prepared⟩
  split at prepared
  · cases prepared
  · rename_i unblocked
    rcases bind_eq_ok_iff.mp prepared with ⟨_, _, same⟩
    cases same
    rw [Option.bind_some] at unblocked
    unfold evaluatePluginSecurityScan at unblocked
    simp only [blocks, Bool.true_and, decide_eq_true_eq, ite_eq_right_iff, reduceCtorEq,
      imp_false, not_lt, Nat.le_zero_eq] at unblocked
    unfold highFindings at unblocked
    rw [List.countP_eq_zero] at unblocked
    intro finding inScan isHigh
    refine unblocked finding ?_ (decide_eq_true isHigh)
    refine List.mem_flatMap.mpr ⟨_, ?_, List.mem_append_right _ inScan⟩
    exact List.mem_map.mpr ⟨plugin, List.mem_filter.mpr ⟨inReport, isReady⟩, rfl⟩

variable {scanned : PluginDescriptor} {raw text : String} {found loc : Location}
  {channelEndpoint : String}

/-- Of an executed file and a scanned one: they are the same exactly if the
manifest leads to the scanned one. -/
theorem executed_eq_scanned_iff (isScanned : scanned = enrichedPlugin files jsonText report plugin)
    (scan : ScannedWasm files scanned policy.wasm raw found)
    (artifact : runtimeArtifact scanned.manifest.metadata channelEndpoint = some text)
    (named : files.fileAt (runtimeArtifactPath scanned.manifest.metadata text) = some loc) :
    loc = found ↔ LeadsToScanned files plugin channelEndpoint := by
  subst isScanned
  have enriched : EnrichedMetadata files plugin
      (enrichedPlugin files jsonText report plugin).manifest.metadata := enrichedMetadata _
  have shown := (descriptorWasmArtifact_enriched enriched rfl rfl).symm.trans scan.artifact
  have file : files.fileAt (resolvePluginRelativePath plugin.path raw) = some found := scan.file
  by_cases declared : DeclaresComponent plugin.manifest.metadata
  · refine iff_of_true ?_ (.inl declared)
    rcases Option.isSome_iff_exists.mp declared.1 with ⟨component, stored⟩
    have isRaw : component = raw := by
      unfold descriptorWasmArtifact at shown
      rw [stored] at shown
      exact Option.some.inj shown
    rw [isRaw] at stored
    exact Option.some.inj (named.symm.trans
      (declared_component_executed enriched declared stored file artifact))
  · have names := (runtimeArtifact_enriched_iff enriched declared).mp artifact
    rw [runtimeArtifactPath_enriched enriched] at named
    constructor
    · rintro rfl
      exact .inr ⟨text, raw, names, shown, loc, named, file⟩
    · rintro (impossible | ⟨executed, other, alsoNames, alsoShown, same, leads, reads⟩)
      · exact absurd impossible declared
      · have also := (runtimeArtifact_enriched_iff enriched declared).mpr alsoNames
        cases artifact.symm.trans also
        cases shown.symm.trans alsoShown
        cases named.symm.trans leads
        cases file.symm.trans reads
        rfl

/-- The pin that is enforced for a plugin. -/
theorem expectedPin_of_executed {channel : ChannelConfig} {enforceExecutionSuccess : Bool}
    {execution : WasmExecution}
    (executed : ExecutedWasm files
      (enrichedPlugin files jsonText report plugin).manifest.providerConfig
      channel (bridgeRuntimePolicy files policy enforceExecutionSuccess) execution text loc) :
    execution.expectedSha256 = (requiredPin policy.wasm
        ((plugin.manifest.metadata.lookup "plugin_id").getD plugin.manifest.pluginId)).or
          (validPins (metadataPins plugin.manifest.metadata)).head? := by
  have enriched : EnrichedMetadata files plugin
      (enrichedPlugin files jsonText report plugin).manifest.metadata := enrichedMetadata _
  have runtimeId :
      runtimePluginId (enrichedPlugin files jsonText report plugin).manifest.providerConfig =
        (plugin.manifest.metadata.lookup "plugin_id").getD plugin.manifest.pluginId := by
    unfold runtimePluginId PluginManifest.providerConfig
    rw [enriched.pluginId]
    rfl
  have samePins :
      metadataPins (enrichedPlugin files jsonText report plugin).manifest.providerConfig.metadata =
        _ := metadataPins_enriched enriched
  have expected := resolveExpectedWasmSha256_ok executed.pin
  rw [runtimeId, samePins] at expected
  exact expected

end Agreement

namespace AgreementSample

def entries : OrderedMap Location FileNode :=
  [ ([], .directory), (["plugins"], .directory), (["plugins", "good.wasm"], .file),
    (["plugins", "evil.wasm"], .file) ]

def tree : FileTree :=
  .ofEntries entries (by decide) (by decide)

theorem properNames (loc : Location) (isSome : (tree.node loc).isSome = true) (name : String)
    (member : name ∈ loc) : ProperName name := by
  have each : ∀ entry, entry ∈ entries -> ∀ name, name ∈ entry.1 ->
      name ≠ "" /\ '/' ∉ name.toList /\ name ≠ "." /\ name ≠ ".." := by decide
  rcases Option.isSome_iff_exists.mp isSome with ⟨node, found⟩
  have proper := each _ (OrderedMap.mem_of_lookup found) name member
  exact ⟨proper.1, proper.2.1, proper.2.2.1, proper.2.2.2⟩

def magic : List UInt8 := [0x00, 0x61, 0x73, 0x6d]

def files : ArtifactFiles where
  tree := tree
  linkLimit := 8
  cwd := []
  cwd_real := FileTree.Real.nil
  errorText _ := "No such file or directory"
  properNames := properNames
  content loc := if loc = ["plugins", "good.wasm"] then magic ++ [1] else magic ++ [2]

def goodDigest : String :=
  "aaaaaaaaaaaaaaaaaaaaaaaaaaaaaaaaaaaaaaaaaaaaaaaaaaaaaaaaaaaaaaaa"

def tools : WasmTools where
  sha256Hex bytes := if bytes = magic ++ [1] then goodDigest else ""
  parseWasmImportModules _ := .ok []

def engine : WasmEngine where
  isCached _ := false
  compile _ := .ok ()
  run _ _ := .ok ()

/-- The policy, which is valid only with a prefix for what is executed. -/
def policy : SecurityScanSpec where
  enabled := true
  blockOnHigh := true
  profilePath := none
  profileSha256 := none
  profileSignature := none
  siemExport := none
  highRiskMetadataKeywords := ["token"]
  wasm :=
    { enabled := true
      maxModuleBytes := 1024
      allowWasi := false
      blockedImportPrefixes := ["wasi"]
      allowedPathPrefixes := ["/plugins"]
      requireHashPin := false
      requiredSha256ByPlugin := [("weather", goodDigest)] }
  runtime :=
    { executeWasmComponent := true
      allowedPathPrefixes := ["/plugins"]
      maxComponentBytes := none
      fuelLimit := none }

/-- The plugin with the given metadata, next to its component. -/
def plugin (metadata : Metadata) : PluginDescriptor where
  path := "/plugins/weather.rs"
  language := "rs"
  manifest :=
    { pluginId := "weather"
      providerId := "weather-provider"
      connectorName := "weather"
      channelId := some "main"
      endpoint := none
      metadata
      summary := none
      tags := []
      inputExamples := []
      outputExamples := []
      deferLoading := false }

def honest : PluginDescriptor :=
  plugin [("bridge_kind", "wasm"), ("component", "good.wasm")]

/-- The manifest sets the path and the name that the runtime uses. -/
def forged : PluginDescriptor :=
  plugin
    [ ("bridge_kind", "wasm"), ("component", "good.wasm"),
      ("component_resolved_path", "/plugins/evil.wasm"), ("plugin_id", "other") ]

def connector : DynamicCatalogConnector where
  providerId := "weather-provider"
  refuseCaller _ _ := none

def encode (_ : List Json) : String := "[]"

variable (plugin : PluginDescriptor)

def scanned : PluginDescriptor :=
  enrichedPlugin files encode [plugin] plugin

/-- The policy leaves nothing open, so that the profile does not matter. -/
def profile (_ : SecurityScanSpec) : Except String SecurityScanProfile :=
  .ok ⟨[], policy.wasm⟩

def prepared : Except String (Option SecurityScanSpec × IntegrationCatalog) :=
  preparePlugins files tools encode profile policy [] [plugin] (fun _ => true) (fun _ => true)
    ⟨[], []⟩

def catalog : IntegrationCatalog :=
  { providers := [("weather-provider", (scanned plugin).manifest.providerConfig)]
    channels := [("main", (scanned plugin).manifest.channelConfig "main")] }

/-- The module that a call of the plugin runs. -/
def execution (path : Path) (expectedSha256 : Option String) : WasmExecution where
  artifactPath := path
  exportName := "run"
  expectedSha256
  result := .ok ()

def call : Except String BridgeExecution :=
  invokeCore files tools engine connector (bridgeRuntimePolicy files policy false)
    (catalog plugin) .null

end AgreementSample

open AgreementSample

end LoongClaw.Plugins
