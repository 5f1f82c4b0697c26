import LoongClaw.Conversation.TurnEngine

namespace LoongClaw.Conversation

open Foundation Contracts Tools Fallible Text ToolCatalog

/-!
# Requests with an internal context

The turn engine writes the ingress and the narrowing of a session under the
reserved key of a payload.  What that leaves of the payload is said here once,
for an invocation and for a call by name, in terms of the fields that later
steps read.
-/

section Runtime

variable {Bytes : Type} (runtime : ToolRuntime Bytes)

/-- What the turn engine makes of the payload of an invocation. -/
structure WrappedRequest (session : SessionContext) (ingress : Option ConversationIngressContext)
    (outer payload : OrderedMap String Json) : Prop where
  context : payload.lookup internalToolContextKey =
      narrowedContext runtime session (outer.lookup internalToolContextKey)
  untrusted : ingressTrustsInvocation ingress outer = false ->
      argumentsContext payload = argumentsContext outer
  trusted : ingressTrustsInvocation ingress outer = true -> ∃ present, ingress = some present /\
        argumentsContext payload = some (.object (feishuInternalContext present))
  arguments : hasObjectArguments payload = hasObjectArguments outer
  decisions : ∀ key, key ∈ invokeDecisionKeys -> payload.lookup key = outer.lookup key

variable (session : SessionContext) (ingress : Option ConversationIngressContext)

theorem internalRequest_invoke (outer : OrderedMap String Json) :
    ∃ payload : OrderedMap String Json,
      internalRequest runtime session ingress "tool.invoke" (.object outer) =
          ({ toolName := "tool.invoke", payload := .object payload },
            ingressTrustsInvocation ingress outer) /\
        WrappedRequest runtime session ingress outer payload := by
  rcases injectInternalToolIngress_invoke ingress outer with ⟨injected, isInjected, injection⟩
  rcases augmentToolPayloadForKernel_invoke runtime session injected with
    ⟨payload, isPayload, augmented⟩
  have notContext : ∀ key, key ∈ invokeDecisionKeys ->
      key ≠ internalToolContextKey /\ key ≠ "arguments" := by decide
  refine ⟨payload, ?_, ?_, ?_, ?_, ?_, ?_⟩
  · simp only [internalRequest, isInjected, isPayload]
  · rw [augmented.context, injection.others _ (by decide)]
  · intro plain
    rw [augmented.argumentsContext]
    unfold argumentsContext
    rw [injection.untrusted plain]
  · intro trusts
    rcases injection.trusted trusts with ⟨present, isPresent, entries, isEntries, context⟩
    refine ⟨present, isPresent, ?_⟩
    rw [augmented.argumentsContext]
    unfold argumentsContext
    rw [isEntries]
    exact context
  · rw [augmented.arguments]
    cases trusts : ingressTrustsInvocation ingress outer with
    | false =>
      unfold hasObjectArguments
      rw [injection.untrusted trusts]
    | true =>
      rcases injection.trusted trusts with ⟨_, _, entries, isEntries, _⟩
      have objects : hasObjectArguments outer = true :=
        (Bool.and_eq_true_iff.mp trusts).2
      rw [objects]
      unfold hasObjectArguments
      rw [isEntries]
      rfl
  · intro key member
    rcases notContext key member with ⟨otherThanContext, otherThanArguments⟩
    rw [augmented.others key otherThanContext otherThanArguments,
      injection.others key otherThanArguments]

/-- Arguments that are no object are left alone. -/
theorem internalRequest_invoke_other {argsJson : Json} (notObject : argsJson.asObject = none) :
    internalRequest runtime session ingress "tool.invoke" argsJson =
      ({ toolName := "tool.invoke", payload := argsJson }, false) := by
  have noTool : invokedToolName argsJson = none := by
    cases argsJson with
    | object fields => cases notObject
    | _ => rfl
  have plain : injectInternalToolIngress "tool.invoke" argsJson ingress =
      { payload := argsJson, trustedInternalContext := false } := by
    unfold injectInternalToolIngress wrapsFeishuTool
    split
    · rfl
    · simp [canonicalToolName_invoke, noTool]
  have notBrowser : browserScopeInjectionRequired "tool.invoke" = false := by decide
  unfold internalRequest augmentToolPayloadForKernel
  simp only [plain, injectRuntimeNarrowingContext_other runtime session notObject, notBrowser,
    noTool, Option.any_none, Bool.and_false, Bool.false_eq_true, if_false]

/-- A call by name of a tool that has a descriptor is never trusted. -/
theorem internalRequest_direct {canonicalName : String} (argsJson : Json)
    (notInvoke : canonicalToolName canonicalName ≠ "tool.invoke")
    (notFeishu : startsWith (canonicalToolName canonicalName) "feishu." = false) :
    internalRequest runtime session ingress canonicalName argsJson =
      ({ toolName := canonicalName
         payload := augmentToolPayloadForKernel runtime canonicalName argsJson session },
        false) := by
  have plain : injectInternalToolIngress canonicalName argsJson ingress =
      { payload := argsJson, trustedInternalContext := false } := by
    unfold injectInternalToolIngress
    split
    · rfl
    · simp only [notInvoke, notFeishu, if_false, Bool.false_eq_true]
  unfold internalRequest
  rw [plain]

theorem executeToolCore_invoke {trusted : Bool} {payload : Json} {config : ToolRuntimeConfig} :
    executeToolCoreWithConfig runtime trusted { toolName := "tool.invoke", payload } config =
      if !trusted && (payload.get internalToolContextKey).isSome then
        .error (reservedInternalToolContextError "tool.invoke")
      else
        trustedRuntimeNarrowingFromPayload runtime trusted payload >>= fun narrowing =>
          executeToolInvokeToolWithConfig runtime.scheme runtime.moment
            { toolName := "tool.invoke", payload } (effectiveConfig config narrowing) := by
  have notSearch : ("tool.invoke" : String) ≠ "tool.search" := by decide
  unfold executeToolCoreWithConfig
  rw [payloadUsesReserved_eq]
  simp only [canonicalToolName_invoke, if_neg notSearch, if_true]

/-! ## The effective call -/

variable {runtime} {resolved : ResolvedToolExecution} {payload entries : OrderedMap String Json}

theorem effectiveToolIntent_direct (notInvoke : resolved.canonicalName ≠ "tool.invoke")
    (request : ToolCoreRequest) (intent : ToolIntent) :
    effectiveToolIntent runtime resolved request intent =
      { executionKind := resolved.executionKind, request, intent } := by
  unfold effectiveToolIntent
  rw [if_neg notInvoke]

theorem effectiveToolIntent_wrapped_core {request : ToolCoreRequest} (notApp : ∀ invoked inner,
      resolveToolInvokeRequest runtime.scheme runtime.moment request = .ok (invoked, inner) ->
        invoked.executionKind = .core) (intent : ToolIntent) :
    effectiveToolIntent runtime resolved request intent =
      { executionKind := resolved.executionKind, request, intent } := by
  unfold effectiveToolIntent
  split
  · split
    · rename_i invoked inner resolves
      have isCore := notApp invoked inner resolves
      rw [if_neg (by rw [isCore]; decide)]
    · rfl
  · rfl

variable {narrowing : ToolRuntimeNarrowing} {session : SessionContext}

theorem narrowedContext_active (active : session.activeNarrowing = some narrowing)
    (context : Option Json) :
    ∃ entries : OrderedMap String Json,
      narrowedContext runtime session context = some (.object entries) /\
        entries.lookup internalRuntimeNarrowingKey =
          some (runtime.narrowingJson.encode narrowing) := by
  unfold narrowedContext
  rw [active]
  exact ⟨_, rfl, OrderedMap.lookup_insert_self⟩

theorem narrowedContext_eq_none_iff {session : SessionContext} {context : Option Json} :
    narrowedContext runtime session context = none ↔
      session.activeNarrowing = none /\ context = none := by
  unfold narrowedContext
  cases session.activeNarrowing <;> simp

/-! ## Reading the narrowing back -/

theorem trustedRuntimeNarrowing_read
    (context : payload.lookup internalToolContextKey = some (.object entries))
    (written : entries.lookup internalRuntimeNarrowingKey =
      some (runtime.narrowingJson.encode narrowing)) :
    trustedRuntimeNarrowingFromPayload runtime true (.object payload) = .ok (some narrowing) := by
  unfold trustedRuntimeNarrowingFromPayload
  simp only [if_true, Json.get_object, context, Option.bind_some, written,
    runtime.narrowingJson.decode_encode]

theorem canonicalToolName_resolved {raw : String}
    (found : resolveToolExecution raw = some resolved) :
    canonicalToolName resolved.canonicalName = resolved.canonicalName := by
  rw [resolveToolExecution_name found, canonicalToolName_canonical]

end Runtime

/-! ## A runtime to compute with -/

namespace NarrowingSample

def writeLimit (limit : Option UInt64) : Json :=
  limit.elim .null (fun value => .number (.posInt value))

def writeDomains (domains : Finset String) : Json :=
  .array ((ascending domains).map Json.string)

def readDomains (value : Json) : Finset String :=
  ((value.asArray.getD []).filterMap Json.asStr).toFinset

theorem asU64_writeLimit {limit : Option UInt64} : (writeLimit limit).asU64 = limit := by
  cases limit with
  | none | some => rfl

theorem readDomains_writeDomains {domains : Finset String} :
    readDomains (writeDomains domains) = domains := by
  have strings : ∀ texts : List String, (texts.map Json.string).filterMap Json.asStr = texts := by
    intro texts
    induction texts with
    | nil => rfl
    | cons text rest ih => simpa [Json.asStr] using ih
  unfold readDomains writeDomains
  simp only [Json.asArray, Option.getD_some, strings, ascending, Finset.sort_toFinset]

/-- The fields of a narrowing, by position. -/
def writeNarrowing (narrowing : ToolRuntimeNarrowing) : Json :=
  .array
    [ writeLimit narrowing.browser.maxSessions, writeLimit narrowing.browser.maxLinks,
      writeLimit narrowing.browser.maxTextChars,
      narrowing.webFetch.allowPrivateHosts.elim .null Json.bool,
      writeDomains narrowing.webFetch.allowedDomains,
      writeDomains narrowing.webFetch.blockedDomains,
      writeLimit narrowing.webFetch.timeoutSeconds,
      writeLimit narrowing.webFetch.maxBytes,
      writeLimit narrowing.webFetch.maxRedirects ]

def readNarrowing : Json -> Except String ToolRuntimeNarrowing
  | .array [sessions, links, chars, hosts, allowed, blocked, timeout, bytes, redirects] =>
    .ok
      { browser :=
          { maxSessions := sessions.asU64
            maxLinks := links.asU64
            maxTextChars := chars.asU64 }
        webFetch :=
          { allowPrivateHosts := hosts.asBool
            allowedDomains := readDomains allowed
            blockedDomains := readDomains blocked
            timeoutSeconds := timeout.asU64
            maxBytes := bytes.asU64
            maxRedirects := redirects.asU64 } }
  | _ => .error "not a narrowing"

theorem readNarrowing_writeNarrowing (narrowing : ToolRuntimeNarrowing) :
    readNarrowing (writeNarrowing narrowing) = .ok narrowing := by
  have hosts : ∀ allow : Option Bool, (allow.elim Json.null Json.bool).asBool = allow := by
    intro allow
    cases allow <;> rfl
  simp only [readNarrowing, writeNarrowing, asU64_writeLimit, readDomains_writeDomains, hosts]

def runtime : ToolRuntime (List Nat) where
  scheme := LeaseSample.scheme
  moment := ⟨"catalog", 1000⟩
  narrowingJson :=
    { encode := writeNarrowing
      decode := readNarrowing
      decode_encode := readNarrowing_writeNarrowing }

/-- A message from a known participant. -/
def ingress : ConversationIngressContext where
  channel :=
    { platform := "feishu"
      configuredAccountId := none
      accountId := none
      conversationId := "oc_1"
      participantId := some "ou_1"
      threadId := none }
  delivery :=
    { sourceMessageId := none
      senderIdentityKey := none
      threadRootId := none
      parentMessageId := none
      resources := [] }
  privateContext := { feishuCallback := none }

end NarrowingSample

end LoongClaw.Conversation
