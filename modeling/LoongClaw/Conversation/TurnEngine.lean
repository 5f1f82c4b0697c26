import LoongClaw.Conversation.Ingress

namespace LoongClaw.Conversation

open Foundation Contracts Tools Fallible OrderedMap Text ToolCatalog

/-!
# Preparing and executing a tool call

A tool call of the model is validated and resolved, gets the internal context of
its ingress and of its session, and is then executed: core tools through the
kernel, app tools through the dispatcher of the application.  The decisions of
the kernel and of the dispatcher come from an environment, and the visibility of
tools from a function, so that what is proved here holds whatever they decide.
-/

/-! ## Results -/

inductive TurnFailureKind where
  | policyDenied
  | retryable
  | nonRetryable
  deriving DecidableEq

structure TurnFailure where
  kind : TurnFailureKind
  (code reason : String)
  deriving DecidableEq

/-- The results that end a tool call without an outcome. -/
inductive TurnResult where
  | needsApproval
  | toolDenied (failure : TurnFailure)
  | toolError (failure : TurnFailure)
  deriving DecidableEq

namespace TurnResult

def policyDenied (code reason : String) : TurnResult :=
  .toolDenied ⟨.policyDenied, code, reason⟩

def nonRetryableToolError (code reason : String) : TurnResult :=
  .toolError ⟨.nonRetryable, code, reason⟩

end TurnResult

def turnResultFromToolExecutionFailure (failure : TurnFailure) : TurnResult :=
  match failure.kind with
  | .policyDenied => .toolDenied failure
  | .retryable => .toolError failure
  | .nonRetryable => .toolError failure

/-- The failure that an error of the tool adapter is reported as. -/
def toolExecutionFailure (reason : String) : TurnFailure :=
  if startsWith reason "policy_denied: " then
    ⟨.policyDenied, "kernel_policy_denied", "tool execution failed: " ++
        String.ofList (reason.toList.drop "policy_denied: ".toList.length)⟩
  else ⟨.retryable, "tool_execution_failed", "tool execution failed: " ++ reason⟩

/-! ## The payload for the kernel -/

structure SessionContext where
  sessionId : String
  runtimeNarrowing : Option ToolRuntimeNarrowing

/-- The narrowing of the session, if it restricts anything. -/
def SessionContext.activeNarrowing (session : SessionContext) : Option ToolRuntimeNarrowing :=
  session.runtimeNarrowing.filter (fun narrowing => !narrowing.isEmpty)

def browserSessionScopeField : String := "__loongclaw_browser_scope"

def browserScopeInjectionRequired (toolName : String) : Bool :=
  decide (toolName ∈
    ["browser.open", "browser.extract", "browser.click", "browser.companion.session.start",
      "browser.companion.navigate", "browser.companion.snapshot", "browser.companion.wait",
      "browser.companion.session.stop", "browser.companion.click", "browser.companion.type"])

def injectBrowserScopeField (payload : Json) (sessionId : String) : Json :=
  match payload with
  | .object fields =>
    .object (insert browserSessionScopeField (.string sessionId) fields)
  | other => other

section Runtime

variable {Bytes : Type} (runtime : ToolRuntime Bytes)

/-- An internal context that is already there keeps its other entries. -/
def injectRuntimeNarrowingContext (payload : Json) (session : SessionContext) : Json :=
  match session.activeNarrowing, payload with
  | some narrowing, .object fields =>
    let internal :=
      ((lookup internalToolContextKey fields).bind Json.asObject).getD []
    .object (insert internalToolContextKey (.object (insert internalRuntimeNarrowingKey
        (runtime.narrowingJson.encode narrowing) internal))
      (erase internalToolContextKey fields))
  | _, payload => payload

/-- A wrapped browser call gets its scope inside the arguments, if any. -/
def injectNestedBrowserScope (payload : Json) (sessionId : String) : Json :=
  match payload with
  | .object outer =>
    match lookup "arguments" outer with
    | some arguments =>
      .object (insert "arguments" (injectBrowserScopeField arguments sessionId)
        (erase "arguments" outer))
    | none => .object outer
  | payload => payload

def augmentToolPayloadForKernel (canonicalToolName : String) (payload : Json)
    (session : SessionContext) : Json :=
  let payload := injectRuntimeNarrowingContext runtime payload session
  if browserScopeInjectionRequired canonicalToolName then
    injectBrowserScopeField payload session.sessionId
  else if decide (canonicalToolName = "tool.invoke") &&
      (invokedToolName payload).any browserScopeInjectionRequired then
    injectNestedBrowserScope payload session.sessionId
  else payload

/-! ## What the payload for the kernel keeps -/

/-- The outer context of a payload after the narrowing was written. -/
def narrowedContext (session : SessionContext) (context : Option Json) : Option Json :=
  match session.activeNarrowing with
  | none => context
  | some narrowing =>
    some (.object (insert internalRuntimeNarrowingKey
      (runtime.narrowingJson.encode narrowing) ((context.bind Json.asObject).getD [])))

variable (session : SessionContext) {fields : OrderedMap String Json}

theorem injectRuntimeNarrowingContext_object :
    ∃ result : OrderedMap String Json,
      injectRuntimeNarrowingContext runtime (.object fields) session = .object result /\
        result.lookup internalToolContextKey =
          narrowedContext runtime session (fields.lookup internalToolContextKey) /\
        ∀ key, key ≠ internalToolContextKey -> result.lookup key = fields.lookup key := by
  unfold injectRuntimeNarrowingContext narrowedContext
  cases session.activeNarrowing with
  | none => exact ⟨fields, rfl, rfl, fun _ _ => rfl⟩
  | some narrowing =>
    refine ⟨_, rfl, ?_, ?_⟩
    · rw [lookup_replace, if_pos rfl]
    · intro key different
      rw [lookup_replace, if_neg different]

theorem injectRuntimeNarrowingContext_other {payload : Json} (notObject : payload.asObject = none) :
    injectRuntimeNarrowingContext runtime payload session = payload := by
  unfold injectRuntimeNarrowingContext
  cases session.activeNarrowing with
  | none => rfl
  | some narrowing =>
    cases payload with
    | object fields => cases notObject
    | _ => rfl

theorem injectBrowserScopeField_context {payload : Json} {sessionId : String} :
    (injectBrowserScopeField payload sessionId).get internalToolContextKey =
      payload.get internalToolContextKey := by
  cases payload with
  | object fields => exact lookup_insert_of_ne (by decide) _ _
  | _ => rfl

/-- What augmenting the payload of an invocation leaves of it. -/
structure AugmentedInvocation (session : SessionContext) (fields result : OrderedMap String Json) :
    Prop where
  context : result.lookup internalToolContextKey =
      narrowedContext runtime session (fields.lookup internalToolContextKey)
  argumentsContext : argumentsContext result = argumentsContext fields
  arguments : hasObjectArguments result = hasObjectArguments fields
  others : ∀ key, key ≠ internalToolContextKey -> key ≠ "arguments" ->
      result.lookup key = fields.lookup key

theorem injectNestedBrowserScope_object {sessionId : String} :
    ∃ result : OrderedMap String Json,
      injectNestedBrowserScope (.object fields) sessionId = .object result /\
        argumentsContext result = argumentsContext fields /\
        hasObjectArguments result = hasObjectArguments fields /\
        ∀ key, key ≠ "arguments" -> result.lookup key = fields.lookup key := by
  cases found : lookup "arguments" fields with
  | none =>
    refine ⟨fields, ?_, rfl, rfl, fun _ _ => rfl⟩
    simp only [injectNestedBrowserScope, found]
  | some arguments =>
    have replaced : injectNestedBrowserScope (.object fields) sessionId =
        .object (insert "arguments" (injectBrowserScopeField arguments sessionId)
          (erase "arguments" fields)) := by
      simp only [injectNestedBrowserScope, found]
    refine ⟨_, replaced, ?_, ?_, ?_⟩
    · unfold argumentsContext
      rw [lookup_replace, if_pos rfl, found]
      exact injectBrowserScopeField_context
    · unfold hasObjectArguments
      rw [lookup_replace, if_pos rfl, found]
      cases arguments <;> rfl
    · intro key different
      rw [lookup_replace, if_neg different]

theorem augmentToolPayloadForKernel_invoke (fields : OrderedMap String Json) :
    ∃ result : OrderedMap String Json,
      augmentToolPayloadForKernel runtime "tool.invoke" (.object fields) session = .object result /\
        AugmentedInvocation runtime session fields result := by
  rcases injectRuntimeNarrowingContext_object runtime session with
    ⟨narrowed, isNarrowed, context, others⟩
  have argumentsSame : narrowed.lookup "arguments" = fields.lookup "arguments" :=
    others "arguments" (by decide)
  have notBrowser : browserScopeInjectionRequired "tool.invoke" = false := by decide
  unfold augmentToolPayloadForKernel
  simp only [isNarrowed, notBrowser, Bool.false_eq_true, if_false, decide_true, Bool.true_and]
  split
  · rcases injectNestedBrowserScope_object with
      ⟨result, isResult, sameContext, sameArguments, sameOthers⟩
    refine ⟨result, isResult, ?_, ?_, ?_, ?_⟩
    · rw [sameOthers _ (by decide), context]
    · rw [sameContext]
      unfold argumentsContext
      rw [argumentsSame]
    · rw [sameArguments]
      unfold hasObjectArguments
      rw [argumentsSame]
    · intro key notContext notArguments
      rw [sameOthers key notArguments, others key notContext]
  · refine ⟨narrowed, rfl, context, ?_, ?_, fun key notContext _ => others key notContext⟩
    · unfold argumentsContext
      rw [argumentsSame]
    · unfold hasObjectArguments
      rw [argumentsSame]

/-- A direct call keeps no context but the outer one. -/
theorem augmentToolPayloadForKernel_direct {toolName : String}
    (notInvoke : toolName ≠ "tool.invoke") (session : SessionContext) (payload : Json) :
    (augmentToolPayloadForKernel runtime toolName payload session).get internalToolContextKey =
      if payload.asObject.isSome then
        narrowedContext runtime session (payload.get internalToolContextKey)
      else none := by
  have sameContext :
      (augmentToolPayloadForKernel runtime toolName payload session).get internalToolContextKey =
        (injectRuntimeNarrowingContext runtime payload session).get internalToolContextKey := by
    unfold augmentToolPayloadForKernel
    simp only [notInvoke, decide_false, Bool.false_and, Bool.false_eq_true, if_false]
    split
    · exact injectBrowserScopeField_context
    · rfl
  rw [sameContext]
  cases isObject : payload.asObject with
  | none =>
    rw [injectRuntimeNarrowingContext_other runtime session isObject]
    cases payload with
    | object fields => cases isObject
    | _ => rfl
  | some fields =>
    rw [Json.asObject_eq_some.mp isObject]
    rcases injectRuntimeNarrowingContext_object runtime session with
      ⟨result, isResult, context, _⟩
    rw [isResult, Json.get_object, context]
    rfl

/-! ## Preparing a call -/

structure ToolIntent where
  toolName : String
  argsJson : Json

/-- The checks of a turn on one call.  `refuses` stands for the checks of the
session: whether the tool is visible, and whether its name is concealed.  A tool
with a descriptor has to be one that the provider sees. -/
def validateToolIntent (refuses : ToolIntent -> Option TurnFailure) (intent : ToolIntent) :
    Except TurnFailure Unit := do
  let _ <- okOr (resolveToolExecution intent.toolName)
    (⟨.policyDenied, "tool_not_found", "tool_not_found: " ++ intent.toolName⟩ : TurnFailure)
  match refuses intent with
  | some failure => .error failure
  | none =>
    match resolve intent.toolName with
    | none => .ok ()
    | some descriptor =>
      if descriptor.name = "tool.invoke" \/ isProviderExposedToolName intent.toolName then .ok ()
      else
        .error ⟨.policyDenied, "tool_not_provider_exposed",
          "tool_not_provider_exposed: " ++ intent.toolName⟩

structure PreparedToolIntent where
  request : ToolCoreRequest
  executionKind : ToolExecutionKind
  trustedInternalContext : Bool

/-- The decisions that a call depends on: whether the turn has a kernel, what
the kernel says before its adapter runs, whether the application wants an
approval, and whether it refuses to run an app tool. -/
structure TurnEnvironment where
  kernelContext : Bool
  kernelAdmits : ToolCoreRequest -> Except TurnFailure Unit
  maybeRequireApproval : ToolIntent -> ToolDescriptor -> Except String Bool
  executeAppTool : ToolCoreRequest -> Except String Unit

/-- What is executed in the end, and the call that the application judges. -/
structure EffectiveToolIntent where
  executionKind : ToolExecutionKind
  request : ToolCoreRequest
  intent : ToolIntent

/-- A wrapped call of an app tool is unwrapped here; a wrapped core call goes
to the kernel as it is. -/
def effectiveToolIntent (resolvedTool : ResolvedToolExecution) (request : ToolCoreRequest)
    (intent : ToolIntent) : EffectiveToolIntent :=
  if resolvedTool.canonicalName = "tool.invoke" then
    match resolveToolInvokeRequest runtime.scheme runtime.moment request with
    | .ok (innerResolved, innerRequest) =>
      if innerResolved.executionKind = .app then
        { executionKind := .app
          request := innerRequest
          intent :=
            { toolName := innerResolved.canonicalName, argsJson := innerRequest.payload } }
      else { executionKind := resolvedTool.executionKind, request, intent }
    | .error _ => { executionKind := resolvedTool.executionKind, request, intent }
  else { executionKind := resolvedTool.executionKind, request, intent }

variable (environment : TurnEnvironment)

def requireExecutable (kind : ToolExecutionKind)
    (intent : ToolIntent) (descriptor : ToolDescriptor) : Except TurnResult Unit :=
  match kind with
  | .core =>
    if environment.kernelContext then .ok ()
    else .error (.policyDenied "no_kernel_context" "no_kernel_context")
  | .app =>
    match environment.maybeRequireApproval intent descriptor with
    | .ok true => .error .needsApproval
    | .ok false => .ok ()
    | .error reason =>
      if startsWith reason "app_tool_denied:" then
        .error (.policyDenied "app_tool_denied" reason)
      else .error (.nonRetryableToolError "app_tool_preflight_failed" reason)

/-- The request as the turn engine hands it on, with the trusted flag. -/
def internalRequest (session : SessionContext) (ingress : Option ConversationIngressContext)
    (canonicalName : String) (argsJson : Json) : ToolCoreRequest × Bool :=
  let injected := injectInternalToolIngress canonicalName argsJson ingress
  ({ toolName := canonicalName
     payload := augmentToolPayloadForKernel runtime canonicalName injected.payload session },
    injected.trustedInternalContext)

def prepareToolIntent (session : SessionContext)
    (ingress : Option ConversationIngressContext) (intent : ToolIntent) :
    Except TurnResult PreparedToolIntent := do
  let resolvedTool <- okOr (resolveToolExecution intent.toolName)
    (.policyDenied "tool_not_found" ("tool_not_found: " ++ intent.toolName))
  let request := internalRequest runtime session ingress resolvedTool.canonicalName intent.argsJson
  let effective := effectiveToolIntent runtime resolvedTool request.1 intent
  let descriptor <- okOr (ToolCatalog.resolve effective.request.toolName)
    (.nonRetryableToolError "tool_descriptor_missing"
      ("tool_descriptor_missing: " ++ effective.request.toolName))
  requireExecutable environment effective.executionKind effective.intent descriptor
  .ok
    { request := effective.request
      executionKind := effective.executionKind
      trustedInternalContext := request.2 }

/-! ## Executing a prepared call -/

/-- The executor that a call reaches. -/
inductive ToolRun where
  | core (call : ExecutorCall)
  | app (request : ToolCoreRequest)

/-- The payload that the executor is given. -/
def ToolRun.payload : ToolRun -> Json
  | .core call => call.request.payload
  | .app request => request.payload

/-- The result for a refusal of the application. -/
def appToolRefusal (reason : String) : TurnResult :=
  if startsWith reason "tool_not_visible:" then .policyDenied "tool_not_visible" reason
  else if startsWith reason "tool_not_found:" ||
      startsWith reason "app_tool_not_found:" then
    .policyDenied "tool_not_found" reason
  else if startsWith reason "app_tool_disabled:" then
    .policyDenied "app_tool_disabled" reason
  else if startsWith reason "app_tool_denied:" then .policyDenied "app_tool_denied" reason
  else .nonRetryableToolError "app_tool_execution_failed" reason

variable (config : ToolRuntimeConfig)

def executeToolIntentViaKernel (request : ToolCoreRequest) (trusted : Bool) :
    Except TurnFailure ToolRun := do
  environment.kernelAdmits request
  match executeToolCoreWithConfig runtime trusted request config with
  | .ok call => .ok (.core call)
  | .error reason => .error (toolExecutionFailure reason)

def executePreparedToolIntent (prepared : PreparedToolIntent) : Except TurnResult ToolRun :=
  match prepared.executionKind with
  | .core =>
    if environment.kernelContext then
      (executeToolIntentViaKernel runtime environment config prepared.request
        prepared.trustedInternalContext).mapError turnResultFromToolExecutionFailure
    else .error (.policyDenied "no_kernel_context" "no_kernel_context")
  | .app =>
    match environment.executeAppTool prepared.request with
    | .ok () => .ok (.app prepared.request)
    | .error reason => .error (appToolRefusal reason)

/-- Validate a call, prepare it and execute it. -/
def runToolIntent (refuses : ToolIntent -> Option TurnFailure) (session : SessionContext)
    (ingress : Option ConversationIngressContext) (intent : ToolIntent) :
    Except TurnResult ToolRun := do
  (validateToolIntent refuses intent).mapError TurnResult.toolDenied
  let prepared <- prepareToolIntent runtime environment session ingress intent
  executePreparedToolIntent runtime environment config prepared

/-! ## The executor that a call reaches -/

/-- An environment in which nobody stops a call. -/
def TurnEnvironment.permissive : TurnEnvironment where
  kernelContext := true
  kernelAdmits _ := .ok ()
  maybeRequireApproval _ _ := .ok false
  executeAppTool _ := .ok ()

/-- The call gets as far as this executor if nobody stops it. -/
structure Reached (session : SessionContext)
    (ingress : Option ConversationIngressContext) (intent : ToolIntent)
    (resolved : ResolvedToolExecution) (run : ToolRun) : Prop where
  found : resolveToolExecution intent.toolName = some resolved
  exposed : resolve intent.toolName = none \/ isProviderExposedToolName intent.toolName = true
  described : (ToolCatalog.resolve (effectiveToolIntent runtime resolved
      (internalRequest runtime session ingress resolved.canonicalName intent.argsJson).1
      intent).request.toolName).isSome = true
  executed :
    let request := internalRequest runtime session ingress resolved.canonicalName intent.argsJson
    let effective := effectiveToolIntent runtime resolved request.1 intent
    (effective.executionKind = .core /\ ∃ call,
          executeToolCoreWithConfig runtime request.2 effective.request config = .ok call /\
            run = .core call) \/
      (effective.executionKind = .app /\ run = .app effective.request)

variable {runtime} {config : ToolRuntimeConfig} {session : SessionContext}
  {ingress : Option ConversationIngressContext} {intent : ToolIntent} {run : ToolRun}
  {environment : TurnEnvironment} {refuses : ToolIntent -> Option TurnFailure}

theorem validateToolIntent_ok (validated : validateToolIntent refuses intent = .ok ()) :
    resolve intent.toolName = none \/ isProviderExposedToolName intent.toolName = true := by
  rcases bind_eq_ok_iff.mp validated with ⟨resolved, found, validated⟩
  split at validated
  · cases validated
  · split at validated
    · rename_i missing
      exact .inl missing
    · rename_i descriptor described
      split at validated
      · rename_i exposed
        refine .inr (exposed.elim (fun isInvoke => ?_) id)
        exact isProviderExposedToolName_invoke
          ((canonicalToolName_of_resolve described).trans isInvoke)
      · cases validated

theorem executePreparedToolIntent_ok {prepared : PreparedToolIntent}
    (ran : executePreparedToolIntent runtime environment config prepared = .ok run) :
    (prepared.executionKind = .core /\ ∃ call,
          executeToolCoreWithConfig runtime prepared.trustedInternalContext prepared.request
              config = .ok call /\ run = .core call) \/
      (prepared.executionKind = .app /\ run = .app prepared.request) := by
  unfold executePreparedToolIntent at ran
  cases kind : prepared.executionKind with
  | core =>
    rw [kind] at ran
    dsimp only at ran
    split at ran
    · cases viaKernel : executeToolIntentViaKernel runtime environment config
          prepared.request prepared.trustedInternalContext with
      | error failure =>
        rw [viaKernel] at ran
        injection ran
      | ok reached =>
        rw [viaKernel] at ran
        rcases bind_eq_ok_iff.mp viaKernel with ⟨⟨⟩, _, executed⟩
        cases outcome : executeToolCoreWithConfig runtime prepared.trustedInternalContext
            prepared.request config with
        | error reason =>
          rw [outcome] at executed
          injection executed
        | ok call =>
          rw [outcome] at executed
          refine Or.inl ⟨rfl, call, rfl, ?_⟩
          rw [<- Except.ok.inj ran, <- Except.ok.inj executed]
    · injection ran
  | app =>
    rw [kind] at ran
    dsimp only at ran
    split at ran
    · exact Or.inr ⟨rfl, (Except.ok.inj ran).symm⟩
    · injection ran

theorem reached_of_runToolIntent
    (ran : runToolIntent runtime environment config refuses session ingress intent = .ok run) :
    ∃ resolved, Reached runtime config session ingress intent resolved run := by
  rcases bind_eq_ok_iff.mp ran with ⟨⟨⟩, validated, ran⟩
  rcases bind_eq_ok_iff.mp ran with ⟨prepared, prepares, executes⟩
  rcases bind_eq_ok_iff.mp prepares with ⟨resolved, isResolved, prepares⟩
  rcases bind_eq_ok_iff.mp prepares with ⟨descriptor, described, prepares⟩
  rcases bind_eq_ok_iff.mp prepares with ⟨⟨⟩, _, isPrepared⟩
  have executed := executePreparedToolIntent_ok executes
  rw [<- Except.ok.inj isPrepared] at executed
  refine ⟨resolved, okOr_eq_ok_iff.mp isResolved,
    validateToolIntent_ok (mapError_eq_ok_iff.mp validated), ?_, executed⟩
  rw [okOr_eq_ok_iff.mp described]
  rfl

/-- In the permissive environment a call reaches all it can. -/
theorem runToolIntent_permissive {resolved : ResolvedToolExecution}
    (reached : Reached runtime config session ingress intent resolved run) :
    runToolIntent runtime .permissive config (fun _ => none) session ingress intent =
      .ok run := by
  rcases Option.isSome_iff_exists.mp reached.described with ⟨descriptor, described⟩
  have validated : validateToolIntent (fun _ => none) intent = .ok () := by
    unfold validateToolIntent
    rw [reached.found]
    rcases reached.exposed with missing | exposed
    · simp [okOr, missing, bind, Except.bind]
    · cases resolve intent.toolName <;> simp [okOr, exposed, bind, Except.bind]
  unfold runToolIntent prepareToolIntent
  simp only [validated, Except.mapError, reached.found, okOr, bind, Except.bind, described]
  rcases reached.executed with ⟨isCore, call, executes, rfl⟩ | ⟨isApp, rfl⟩
  · simp only [isCore, requireExecutable, TurnEnvironment.permissive, if_true,
      executePreparedToolIntent, executeToolIntentViaKernel, bind, Except.bind, executes]
    rfl
  · simp only [isApp, requireExecutable, TurnEnvironment.permissive, executePreparedToolIntent]

end Runtime

end LoongClaw.Conversation
