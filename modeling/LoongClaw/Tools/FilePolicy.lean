import LoongClaw.Tools.FilePath
import LoongClaw.Tools.ShellPolicy

namespace LoongClaw.Tools

open Foundation Contracts Kernel LoongClawKernel DanglingLinkSample

/-!
# File policy

The extension that the kernel consults before a file tool runs.  A request may
reach the kernel directly or wrapped in `tool.invoke`.  The shell extension
unwraps such a request before it decides; the file extension looks at the
outer name only, so a wrapped file request is accepted whatever it asks for.
-/

structure FilePolicyExtension where
  (fileRoot canonRoot : Option Path)

namespace FilePolicyExtension

variable (extension : FilePolicyExtension) (toolName : String) (fs : FileSystem)

/-- The root is canonicalized once, when the extension is built. -/
def new (fileRoot : Option Path) : FilePolicyExtension where
  fileRoot
  canonRoot := fileRoot.bind (fun root => (fs.canonicalize root).toOption)

def requiredCapability : Option Capability :=
  if toolName = "file.read" \/ toolName = "claw.migrate" then some .filesystemRead
  else if toolName = "file.write" \/ toolName = "file.edit" then some .filesystemWrite
  else none

/-- The layers of the check: the whole path, a dangling link, the parent of a
new file, and lexical normalization as the last resort. -/
def pathEscapesRoot (rawPath : String) : Bool :=
  match extension.fileRoot with
  | none => false
  | some root =>
    let candidate := Path.ofString rawPath
    let combined := if candidate.isAbsolute then candidate else root.join candidate
    let effectiveRoot := extension.canonRoot.getD root
    match fs.canonicalize combined with
    | .ok canon => !canon.startsWith effectiveRoot
    | .error _ =>
      match fs.readLink combined with
      | some target =>
        let resolved :=
          if target.isAbsolute then target
          else (combined.parent?.getD root).join target
        !(normalizeWithoutFs resolved).startsWith effectiveRoot
      | none =>
        match combined.parent?.map fs.canonicalize, combined.fileName? with
        | some (.ok canonParent), some fileName =>
          !(pushName canonParent fileName).startsWith effectiveRoot
        | _, _ => !(normalizeWithoutFs combined).startsWith effectiveRoot

/-- The field that holds the path of a file tool. -/
def pathKey : String :=
  if toolName = "claw.migrate" then "input_path" else "path"

def requestedPath (params : Json) : String :=
  (((params.get "payload").bind (Json.get (pathKey toolName))).bind Json.asStr).getD ""

/-- The denial for a path outside the root, if there is a root. -/
def authorizePath (rawPath : String) : Except PolicyError Unit :=
  match extension.fileRoot with
  | none => .ok ()
  | some root =>
    if rawPath ≠ "" /\ extension.pathEscapesRoot fs rawPath = true then
      .error (.extensionDenied "file-policy"
        ("path `" ++ rawPath ++ "` escapes file root `" ++ root.display ++ "`"))
    else .ok ()

def authorizeExtension (context : PolicyExtensionContext) (fs : FileSystem) :
    Except PolicyError Unit :=
  match context.requestParameters with
  | none => .ok ()
  | some params =>
    let toolName := canonicalToolName (((params.get "tool_name").bind Json.asStr).getD "")
    match requiredCapability toolName with
    | none => .ok ()
    | some requiredCap =>
      if requiredCap ∉ context.token.allowedCapabilities then
        .error (.extensionDenied "file-policy"
          ("tool `" ++ toolName ++ "` requires capability `" ++ requiredCap.debugName ++
            "` not granted to token"))
      else extension.authorizePath fs (requestedPath toolName params)

def toPolicyExtension : PolicyExtension FileSystem where
  name := "file-policy"
  authorizeExtension := extension.authorizeExtension

end FilePolicyExtension

open FilePolicyExtension

/-! ## Direct and wrapped requests -/

variable (others : OrderedMap String Json) (toolId : String)

/-- The payload of `tool.invoke` for a tool and its arguments, with whatever
other fields it has. -/
def invokePayload (arguments : Json) : Json :=
  .object ((others.insert "tool_id" (.string toolId)).insert "arguments" arguments)

def directContext (context : PolicyExtensionContext) (toolId : String) (arguments : Json) :
    PolicyExtensionContext :=
  { context with
    requestParameters := some (toolPolicyParams toolId arguments) }

def wrappedContext (context : PolicyExtensionContext) (others : OrderedMap String Json)
    (toolId : String) (arguments : Json) : PolicyExtensionContext :=
  { context with
    requestParameters :=
      some (toolPolicyParams "tool.invoke"
        (invokePayload others toolId arguments)) }

theorem toolPolicyParams_toolName {toolName : String} {payload : Json} :
    (((toolPolicyParams toolName payload).get "tool_name").bind
      Json.asStr).getD "" = toolName := rfl

theorem toolPolicyParams_payload {toolName : String} {payload : Json} :
    (toolPolicyParams toolName payload).get "payload" = some payload := rfl

theorem invokePayload_toolId {arguments : Json} :
    (invokePayload others toolId arguments).get "tool_id" = some (.string toolId) := by
  unfold invokePayload
  rw [Json.get_object, OrderedMap.lookup_insert_of_ne (by decide), OrderedMap.lookup_insert_self]

theorem invokePayload_arguments {arguments : Json} :
    (invokePayload others toolId arguments).get "arguments" = some arguments := by
  unfold invokePayload
  rw [Json.get_object, OrderedMap.lookup_insert_self]

section Decisions

variable (context : PolicyExtensionContext) (others : OrderedMap String Json) {toolId : String}
  (arguments : Json)

theorem shell_decision_wrapped {extension : ToolPolicyExtension}
    (discoverable : isDiscoverable toolId = true) :
    extension.authorizeExtension (wrappedContext context others toolId arguments) =
      extension.authorizeExtension (directContext context toolId arguments) := by
  have notInvoke := canonicalToolName_ne_invoke discoverable
  unfold ToolPolicyExtension.authorizeExtension ToolPolicyExtension.effectiveShellRequest
    wrappedContext directContext
  simp only [toolPolicyParams_toolName, toolPolicyParams_payload, canonicalToolName_invoke,
    ne_eq, not_true_eq_false, if_false, notInvoke, not_false_eq_true, if_true,
    Option.bind_some, invokePayload_toolId, invokePayload_arguments, Json.asStr,
    Option.map_some, Option.getD_some]

variable (extension : FilePolicyExtension) (fs : FileSystem)

/-- The file extension has no objection to any wrapped request. -/
theorem file_decision_wrapped {toolId : String} :
    extension.authorizeExtension (wrappedContext context others toolId arguments) fs = .ok () := by
  have noCapability : requiredCapability "tool.invoke" = none := by decide
  unfold authorizeExtension wrappedContext
  dsimp only
  rw [toolPolicyParams_toolName, canonicalToolName_invoke, noCapability]

/-- What the file extension asks of a direct request: the capability of the
tool, and a path that stays below the root. -/
def PermitsDirectly (token : CapabilityToken) (toolId : String) (arguments : Json) : Prop :=
  ∀ required, requiredCapability (canonicalToolName toolId) = some required ->
      required ∈ token.allowedCapabilities /\ (requestedPath (canonicalToolName toolId)
            (toolPolicyParams toolId arguments) = "" \/
          extension.pathEscapesRoot fs (requestedPath (canonicalToolName toolId)
              (toolPolicyParams toolId arguments)) = false)

theorem authorizePath_ok_iff {rawPath : String} : extension.authorizePath fs rawPath = .ok () ↔
      rawPath = "" \/ extension.pathEscapesRoot fs rawPath = false := by
  unfold authorizePath
  cases root : extension.fileRoot with
  | none =>
    have noRoot : extension.pathEscapesRoot fs rawPath = false := by
      unfold pathEscapesRoot
      rw [root]
    simp [noRoot]
  | some root =>
    by_cases empty : rawPath = ""
    · simp [empty]
    · cases escapes : extension.pathEscapesRoot fs rawPath <;> simp [empty]

theorem file_decision_direct_iff {toolId : String} :
    extension.authorizeExtension (directContext context toolId arguments) fs = .ok () ↔
      PermitsDirectly extension fs context.token toolId arguments := by
  unfold authorizeExtension directContext PermitsDirectly
  dsimp only
  rw [toolPolicyParams_toolName]
  cases required : requiredCapability (canonicalToolName toolId) with
  | none => simp
  | some capability =>
    dsimp only
    by_cases granted : capability ∈ context.token.allowedCapabilities
    · rw [if_neg (not_not.mpr granted), authorizePath_ok_iff]
      simp [granted]
    · simp [granted]

/-- Both extensions decide alike on the wrapped and the direct form exactly
when the file extension accepts what the direct form asks for. -/
theorem wrapped_decisions_agree_iff (shell : ToolPolicyExtension) (file : FilePolicyExtension)
    (fs : FileSystem) (discoverable : isDiscoverable toolId = true) :
    ((shell.authorizeExtension (wrappedContext context others toolId arguments)).isOk =
          (shell.authorizeExtension (directContext context toolId arguments)).isOk /\
        (file.authorizeExtension (wrappedContext context others toolId arguments) fs).isOk =
          (file.authorizeExtension (directContext context toolId arguments) fs).isOk) ↔
      PermitsDirectly file fs context.token toolId arguments := by
  rw [shell_decision_wrapped context others arguments discoverable,
    file_decision_wrapped, <- file_decision_direct_iff context arguments file fs]
  cases file.authorizeExtension (directContext context toolId arguments) fs with
  | ok | error => simp [Except.isOk, Except.toBool]

end Decisions

namespace WrappedRequestSample

/-- A token that may read files. -/
def context : PolicyExtensionContext where
  pack := VerticalPackManifest.samplePack
  token :=
    { tokenId := "tok-1"
      packId := "sales-intel"
      agentId := "agent-1"
      allowedCapabilities := {.invokeTool, .filesystemRead}
      issuedAtEpochS := 0
      expiresAtEpochS := 1000
      generation := 1 }
  nowEpochS := 1
  requiredCapabilities := {.invokeTool, .filesystemRead}
  requestParameters := none

def shell : ToolPolicyExtension :=
  ToolPolicyExtension.fromConfig ToolRuntimeConfig.default

def file : FilePolicyExtension :=
  new fs (some (Path.ofNames ["root"]))

def arguments (path : String) : Json :=
  .object [("path", .string path)]

end WrappedRequestSample

open WrappedRequestSample

theorem wrapped_decisions_agree_below_root : isDiscoverable "file.read" = true /\
      (file.authorizeExtension (wrappedContext context [] "file.read"
            (arguments "notes")) fs).isOk =
        (file.authorizeExtension (directContext context "file.read"
            (arguments "notes")) fs).isOk := by
  have discoverable : isDiscoverable "file.read" = true := by decide +kernel
  have permitted : PermitsDirectly file fs context.token "file.read" (arguments "notes") :=
    (file_decision_direct_iff context _ _ _).mp (by decide +kernel)
  exact ⟨discoverable, ((wrapped_decisions_agree_iff context [] _ shell
      file fs discoverable).mpr permitted).2⟩

/-- A read outside the root is denied when it is asked for directly and
accepted when it is wrapped. -/
theorem wrapped_read_outside_root_accepted : isDiscoverable "file.read" = true /\
      file.authorizeExtension (directContext context "file.read" (arguments "/outside")) fs =
        .error (.extensionDenied "file-policy" "path `/outside` escapes file root `/root`") /\
      file.authorizeExtension (wrappedContext context [] "file.read"
            (arguments "/outside")) fs = .ok () := by
  refine ⟨by decide +kernel, by decide +kernel, by decide +kernel⟩

end LoongClaw.Tools
