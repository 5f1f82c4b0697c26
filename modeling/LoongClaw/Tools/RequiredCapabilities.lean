import LoongClaw.Tools.Invoke

namespace LoongClaw.Tools

open Foundation Contracts Kernel

/-!
# Capabilities of a tool request

The kernel is asked for the capabilities of a request before the request is
executed.  They are those of the tool inside it, so a wrapped file request needs
the capability of the file tool although the kernel sees `tool.invoke`.
-/

/-! ## Required capabilities -/

def clawMigrateModeRequiresWrite (payload : Json) : Bool :=
  let mode := ((((payload.get "mode").bind Json.asStr).map Text.trim).filter
    (fun text => decide (text ≠ ""))).getD "plan"
  decide (mode ∈ ["apply", "apply_selected", "rollback_last_apply"])

/-- The capabilities of a tool that wraps no other. -/
def toolCapabilities (toolName : String) (payload : Json) : CapabilitySet :=
  if toolName = "file.read" then {.invokeTool, .filesystemRead}
  else if toolName = "file.write" \/ toolName = "file.edit" then {.invokeTool, .filesystemWrite}
  else if toolName = "claw.migrate" then
    if clawMigrateModeRequiresWrite payload then
      {.invokeTool, .filesystemRead, .filesystemWrite}
    else {.invokeTool, .filesystemRead}
  else {.invokeTool}

/-- The hidden tool inside an invocation.  Without arguments the invocation
itself stands in for them. -/
def invokedDiscoverableToolRequest (payload : Json) : Option (String × Json) :=
  (((payload.get "tool_id").bind Json.asStr).map canonicalToolName).bind (fun toolId =>
    if toolId = "tool.search" \/ toolId = "tool.invoke" then none
    else
      (resolveToolExecution toolId).bind (fun resolved =>
        if isProviderExposedToolName resolved.canonicalName then none
        else some (resolved.canonicalName, (payload.get "arguments").getD payload)))

def requiredCapabilitiesForRequest (request : ToolCoreRequest) : CapabilitySet :=
  let toolName := canonicalToolName request.toolName
  if toolName = "tool.invoke" then
    match invokedDiscoverableToolRequest request.payload with
    | none => {.invokeTool}
    | some (invokedToolName, invokedPayload) => toolCapabilities invokedToolName invokedPayload
  else toolCapabilities toolName request.payload

/-- A migration that writes is the only request whose payload matters. -/
theorem toolCapabilities_subset {toolName : String} {first second : Json}
    (writes : clawMigrateModeRequiresWrite first = true ->
      clawMigrateModeRequiresWrite second = true) :
    toolCapabilities toolName first ⊆ toolCapabilities toolName second := by
  unfold toolCapabilities
  by_cases migrates : toolName = "claw.migrate"
  · subst migrates
    cases firstWrites : clawMigrateModeRequiresWrite first with
    | true => simp [writes firstWrites]
    | false => cases clawMigrateModeRequiresWrite second <;> decide
  · simp [migrates]

theorem requiredCapabilities_canonical {request : ToolCoreRequest} :
    requiredCapabilitiesForRequest
        { request with toolName := canonicalToolName request.toolName } =
      requiredCapabilitiesForRequest request := by
  simp only [requiredCapabilitiesForRequest, canonicalToolName_canonical]

section Execution

variable {Bytes : Type} {runtime : ToolRuntime Bytes} {request : ToolCoreRequest}

theorem requiredCapabilities_inner {entry : ResolvedToolExecution} {inner : ToolCoreRequest}
    (resolves : resolveToolInvokeRequest runtime.scheme runtime.moment request =
      .ok (entry, inner)) :
    requiredCapabilitiesForRequest inner ⊆ requiredCapabilitiesForRequest request := by
  rcases resolveToolInvokeRequest_isInvoke resolves with ⟨isInvoke, payload, isObject⟩
  rcases (resolveToolInvokeRequest_ok_iff isInvoke isObject).mp resolves with
    ⟨accepted, arguments, merged, rfl⟩
  rcases Option.bind_eq_some_iff.mp accepted.tool with ⟨toolId, isToolId, found⟩
  have canonical : canonicalToolName toolId = toolId := by
    rcases Option.map_eq_some_iff.mp isToolId with ⟨raw, _, rfl⟩
    exact canonicalToolName_canonical
  have named : entry.canonicalName = toolId := (resolveToolExecution_name found).trans canonical
  have hidden := accepted.hidden
  have discoverable : isDiscoverable toolId = true := by
    simp [isDiscoverable, found, hidden]
  have notInvoke := canonicalToolName_ne_invoke discoverable
  have notSearch := canonicalToolName_ne_search discoverable
  rw [canonical] at notInvoke notSearch
  rw [named] at hidden
  have invoked : invokedDiscoverableToolRequest request.payload =
      some (toolId, (payload.lookup "arguments").getD (.object payload)) := by
    simp [invokedDiscoverableToolRequest, isObject, Json.get_object, isToolId, notInvoke,
      notSearch, found, named, hidden]
  unfold requiredCapabilitiesForRequest
  simp only [named, canonical, isInvoke, notInvoke, if_true, if_false, invoked]
  refine toolCapabilities_subset ?_
  intro writes
  have mode := invokeArguments_others merged (by decide : "mode" ≠ internalToolContextKey)
  cases given : payload.lookup "arguments" with
  | none =>
    rw [given] at mode
    simp [clawMigrateModeRequiresWrite, mode] at writes
  | some value =>
    rw [given] at mode
    simpa [clawMigrateModeRequiresWrite, mode] using writes

/-- Whatever the executor is given, the kernel has asked for its capabilities. -/
theorem requiredCapabilities_cover_execution (runtime : ToolRuntime Bytes)
    (request : ToolCoreRequest) :
    (∀ entry inner, resolveToolInvokeRequest runtime.scheme runtime.moment request =
        .ok (entry, inner) ->
      requiredCapabilitiesForRequest inner ⊆ requiredCapabilitiesForRequest request) /\
    ∀ trusted config call,
      executeToolCoreWithConfig runtime trusted request config = .ok call ->
        requiredCapabilitiesForRequest call.request ⊆ requiredCapabilitiesForRequest request := by
  refine ⟨fun _ _ => requiredCapabilities_inner, ?_⟩
  intro trusted config call executed
  rcases executeToolCore_ok executed with ⟨_, isRequest⟩ | ⟨_, _, entry, resolves, _⟩
  · rw [isRequest, requiredCapabilities_canonical]
  · have covered := requiredCapabilities_inner resolves
    rwa [requiredCapabilities_canonical] at covered

end Execution

end LoongClaw.Tools
