import LoongClaw.Conversation.InternalRequest

namespace LoongClaw.Conversation

open Foundation Contracts Tools Fallible OrderedMap ToolCatalog

/-!
# The internal context that executors see

Tools read the reserved key of their payload as data of the runtime.  The model
can write that key too, at the top level of its arguments and, in an
invocation, inside the inner arguments.  This module follows both through the
injections, the reserved-key check and the merge, and says for which calls
nothing that the model put there can reach an executor.
-/

/-! ## Calls with contexts at the same places -/

variable (first second : OrderedMap String Json)

/-- The objects agree but for what they have under the reserved key. -/
structure SameOutsideContext : Prop where
  others : ∀ key, key ≠ internalToolContextKey -> second.lookup key = first.lookup key
  place :
    (second.lookup internalToolContextKey).isSome = (first.lookup internalToolContextKey).isSome

/-- The payloads have a context at the top level and inside the arguments at
the same places, and agree elsewhere. -/
structure SamePlaces : Prop where
  others : ∀ key, key ≠ internalToolContextKey -> key ≠ "arguments" ->
      second.lookup key = first.lookup key
  place :
    (second.lookup internalToolContextKey).isSome = (first.lookup internalToolContextKey).isSome
  arguments : second.lookup "arguments" = first.lookup "arguments" \/ ∃ inner other,
        first.lookup "arguments" = some (.object inner) /\
          second.lookup "arguments" = some (.object other) /\ SameOutsideContext inner other

/-- The calls differ at most in the contexts that the model wrote. -/
inductive SameCall : ToolIntent -> ToolIntent -> Prop where
  | same (intent : ToolIntent) : SameCall intent intent
  | replanted {toolName : String} {first second : OrderedMap String Json}
      (places : SamePlaces first second) :
      SameCall ⟨toolName, .object first⟩ ⟨toolName, .object second⟩

namespace SamePlaces

variable {first second : OrderedMap String Json} (places : SamePlaces first second)

include places

theorem argumentsContext_isSome :
    (argumentsContext second).isSome = (argumentsContext first).isSome := by
  unfold argumentsContext
  rcases places.arguments with same | ⟨inner, other, isInner, isOther, outside⟩
  · rw [same]
  · rw [isInner, isOther]
    exact outside.place

theorem hasObjectArguments : hasObjectArguments second = hasObjectArguments first := by
  unfold Conversation.hasObjectArguments
  rcases places.arguments with same | ⟨inner, other, isInner, isOther, _⟩
  · rw [same]
  · rw [isInner, isOther]
    rfl

theorem decisions (key : String) (member : key ∈ invokeDecisionKeys) :
    second.lookup key = first.lookup key := by
  have different : ∀ key, key ∈ invokeDecisionKeys ->
      key ≠ internalToolContextKey /\ key ≠ "arguments" := by decide
  exact places.others key (different key member).1 (different key member).2

theorem ingressTrusts (ingress : Option ConversationIngressContext) :
    ingressTrustsInvocation ingress second = ingressTrustsInvocation ingress first := by
  have tool : wrapsFeishuTool (.object second) = wrapsFeishuTool (.object first) := by
    unfold wrapsFeishuTool invokedToolName
    rw [Json.get_object, Json.get_object, places.decisions "tool_id" (by decide)]
  unfold ingressTrustsInvocation
  rw [tool, places.hasObjectArguments]

end SamePlaces

/-! ## Entries of the runtime -/

section Runtime

variable {Bytes : Type} (runtime : ToolRuntime Bytes) (session : SessionContext)
  (ingress : Option ConversationIngressContext)

/-- The runtime itself writes this entry for the session and the ingress. -/
inductive RuntimeWritten : String -> Json -> Prop where
  | ingress {present : ConversationIngressContext} (isPresent : ingress = some present) :
      RuntimeWritten internalToolIngressKey present.asEventPayload
  | callback {present : ConversationIngressContext} {value : Json}
      (isPresent : ingress = some present)
      (isCallback : present.privateContext.feishuCallback.bind
        ConversationIngressFeishuCallbackContext.asJson = some value) :
      RuntimeWritten internalToolFeishuCallbackKey value
  | narrowing {narrowing : ToolRuntimeNarrowing}
      (active : session.activeNarrowing = some narrowing) :
      RuntimeWritten internalRuntimeNarrowingKey (runtime.narrowingJson.encode narrowing)

/-- A context, if there is one, is an object of entries of the runtime. -/
def OnlyRuntimeEntries (context : Option Json) : Prop :=
  ∀ value, context = some value -> ∃ entries : OrderedMap String Json, value = .object entries /\
      ∀ key entry, entries.lookup key = some entry ->
        RuntimeWritten runtime session ingress key entry

variable {runtime session ingress}

theorem onlyRuntime_none : OnlyRuntimeEntries runtime session ingress none := by
  intro value impossible
  cases impossible

theorem onlyRuntime_narrowed :
    OnlyRuntimeEntries runtime session ingress (narrowedContext runtime session none) := by
  unfold narrowedContext
  cases active : session.activeNarrowing with
  | none => exact onlyRuntime_none
  | some narrowing =>
    intro value isValue
    refine ⟨_, (Option.some.inj isValue).symm, ?_⟩
    intro key entry found
    rw [lookup_insert] at found
    split at found
    · rename_i isNarrowing
      rw [isNarrowing, <- Option.some.inj found]
      exact .narrowing active
    · cases found

variable {context : Option Json} {key : String} {payload arguments : OrderedMap String Json}
  {request : ToolCoreRequest} {call : ExecutorCall} {trusted : Bool}
  {outer : OrderedMap String Json} {invoked : ResolvedToolExecution} {toolName : String}

/-- An entry of a clean context is an entry of the runtime. -/
theorem OnlyRuntimeEntries.entry (only : OnlyRuntimeEntries runtime session ingress context)
    {entry : Json} (found : context.bind (Json.get key) = some entry) :
    RuntimeWritten runtime session ingress key entry := by
  rcases Option.bind_eq_some_iff.mp found with ⟨value, isValue, isEntry⟩
  rcases only value isValue with ⟨entries, rfl, written⟩
  exact written key entry isEntry

/-- Merging clean contexts gives a clean context. -/
theorem onlyRuntime_invokeArguments (outer : OnlyRuntimeEntries runtime session ingress
      (payload.lookup internalToolContextKey))
    (inner : OnlyRuntimeEntries runtime session ingress (argumentsContext payload))
    (accepted : invokeArguments payload = .ok arguments) :
    OnlyRuntimeEntries runtime session ingress (arguments.lookup internalToolContextKey) := by
  cases context : payload.lookup internalToolContextKey with
  | none =>
    rw [invokeArguments_without_context accepted context]
    exact inner
  | some value =>
    rcases invokeArguments_with_context accepted context with ⟨merged, isMerged, entries⟩
    rw [isMerged]
    intro seen isSeen
    refine ⟨merged, (Option.some.inj isSeen).symm, ?_⟩
    intro key entry found
    rw [entries key] at found
    rcases Option.or_eq_some_iff.mp found with fromOuter | ⟨_, fromInner⟩
    · exact outer.entry (by rw [context]; exact fromOuter)
    · exact inner.entry fromInner

/-! ## Calls that keep the model out -/

variable (runtime session ingress)

/-- The accepted invocation has no context of the model at a place from which
it is carried on.  App tools are given both places, trusted invocations the
outer one.  Other core tools are given the inner one, unless the invocation is
refused because there is an outer one or a narrowing. -/
def InvocationWithholds (outer : OrderedMap String Json) (invoked : ResolvedToolExecution) : Prop :=
  match invoked.executionKind with
  | .app => outer.lookup internalToolContextKey = none /\ argumentsContext outer = none
  | .core =>
    if ingressTrustsInvocation ingress outer then outer.lookup internalToolContextKey = none
    else
      session.activeNarrowing.isSome = true \/
        (outer.lookup internalToolContextKey).isSome = true \/ argumentsContext outer = none

/-- Every accepted invocation withholds the contexts of the model.  Calls by name
always do: those that pass validation are of core tools, which refuse a context
without the trusted flag. -/
def Withholds (intent : ToolIntent) : Prop :=
  canonicalToolName intent.toolName = "tool.invoke" -> ∀ outer invoked,
    intent.argsJson = .object outer -> hasObjectArguments outer = true ->
      AcceptedInvoke runtime.scheme runtime.moment outer invoked ->
        InvocationWithholds session ingress outer invoked

variable {runtime session ingress} {config : ToolRuntimeConfig} {intent : ToolIntent}
  {resolved : ResolvedToolExecution} {run : ToolRun}

theorem executeToolCore_untrusted_ok
    (executed : executeToolCoreWithConfig runtime false request config = .ok call) :
    request.payload.get internalToolContextKey = none := by
  cases context : request.payload.get internalToolContextKey with
  | none => rfl
  | some value =>
    have reserved : payloadUsesReservedInternalToolContext request.payload = true := by
      rw [payloadUsesReserved_eq, context]
      rfl
    rw [executeToolCore_refuses_reserved reserved] at executed
    injection executed

/-- The executor of an invocation is given the inner request. -/
theorem executeToolCore_invoke_ok {payload : Json}
    (executed : executeToolCoreWithConfig runtime trusted
      { toolName := "tool.invoke", payload } config = .ok call) :
    discoverableExecutor call.request.toolName = some call.executor /\
      ∃ entry, resolveToolInvokeRequest runtime.scheme runtime.moment
          { toolName := "tool.invoke", payload } = .ok (entry, call.request) /\
        entry.executionKind = .core := by
  rcases executeToolCore_ok executed with ⟨notInvoke, _⟩ | ⟨isInvoke, invoked⟩
  · exact absurd canonicalToolName_invoke notInvoke
  · rwa [canonicalToolName_invoke] at invoked

theorem Reached.notFeishu (reached : Reached runtime config session ingress intent resolved run)
    (notInvoke : resolved.canonicalName ≠ "tool.invoke") :
    Text.startsWith resolved.canonicalName "feishu." = false := by
  have described := reached.described
  rw [effectiveToolIntent_direct notInvoke] at described
  cases isFeishu : Text.startsWith resolved.canonicalName "feishu." with
  | false => rfl
  | true =>
    have missing := (resolve_eq_none_iff_feishu reached.found).mpr isFeishu
    have named : (internalRequest runtime session ingress resolved.canonicalName
        intent.argsJson).1.toolName = resolved.canonicalName := rfl
    rw [named, missing] at described
    cases described

/-- A call by name reaches a core executor, which sees no context at all. -/
theorem Reached.direct (reached : Reached runtime config session ingress intent resolved run)
    (notInvoke : resolved.canonicalName ≠ "tool.invoke") :
    run.payload.get internalToolContextKey = none /\
      (augmentToolPayloadForKernel runtime resolved.canonicalName intent.argsJson session).get
        internalToolContextKey = none := by
  have canonical := canonicalToolName_resolved reached.found
  have isCore := isCore_of_exposed reached.found reached.exposed
  have executed := reached.executed
  simp only [effectiveToolIntent_direct notInvoke, isCore] at executed
  rw [internalRequest_direct runtime session ingress intent.argsJson
    (canonical.symm ▸ notInvoke) (canonical.symm ▸ reached.notFeishu notInvoke)] at executed
  rcases executed with ⟨_, call, executes, rfl⟩ | ⟨impossible, _⟩
  · rcases executeToolCore_ok executes with ⟨_, isRequest⟩ | ⟨isInvoke, _⟩
    · have untrusted := executeToolCore_untrusted_ok executes
      refine ⟨?_, untrusted⟩
      change call.request.payload.get internalToolContextKey = none
      rw [isRequest]
      exact untrusted
    · exact absurd (canonical.symm.trans isInvoke) notInvoke
  · cases impossible

/-- An invocation that reaches an executor, with the arguments it is given. -/
structure ReachedInvocation (runtime : ToolRuntime Bytes) (session : SessionContext)
    (ingress : Option ConversationIngressContext) (outer payload : OrderedMap String Json)
    (invoked : ResolvedToolExecution) (arguments : OrderedMap String Json) (run : ToolRun) :
    Prop where
  request : WrappedRequest runtime session ingress outer payload
  accepted : AcceptedInvoke runtime.scheme runtime.moment outer invoked
  merged : invokeArguments payload = .ok arguments
  given : run.payload = .object arguments
  core : invoked.executionKind = .core -> ∃ call, run = .core call /\
    discoverableExecutor invoked.canonicalName = some call.executor /\
    (ingressTrustsInvocation ingress outer = false ->
      payload.lookup internalToolContextKey = none)

/-- What is executed of an invocation comes from its inner request. -/
theorem Reached.resolves (reached : Reached runtime config session ingress intent resolved run)
    (isInvoke : resolved.canonicalName = "tool.invoke") :
    let request := internalRequest runtime session ingress "tool.invoke" intent.argsJson
    ∃ invoked inner,
      resolveToolInvokeRequest runtime.scheme runtime.moment request.1 = .ok (invoked, inner) /\
        run.payload = inner.payload /\
        (invoked.executionKind = .core -> ∃ call, run = .core call /\
          discoverableExecutor inner.toolName = some call.executor /\
          (request.2 = false -> request.1.payload.get internalToolContextKey = none)) := by
  have executed := reached.executed
  have isCore := invoke_isCore reached.found isInvoke
  rw [isInvoke] at executed
  dsimp only at executed ⊢
  have named : (internalRequest runtime session ingress "tool.invoke" intent.argsJson).1 =
      { toolName := "tool.invoke"
        payload :=
          (internalRequest runtime session ingress "tool.invoke" intent.argsJson).1.payload } :=
    rfl
  generalize internalRequest runtime session ingress "tool.invoke" intent.argsJson = request
    at executed named ⊢
  unfold effectiveToolIntent at executed
  rw [if_pos isInvoke] at executed
  cases resolves : resolveToolInvokeRequest runtime.scheme runtime.moment request.1 with
  | error reason =>
    simp only [resolves, isCore] at executed
    rcases executed with ⟨_, call, executes, _⟩ | ⟨impossible, _⟩
    · rw [named] at executes resolves
      rcases executeToolCore_invoke_ok executes with ⟨_, entry, found, _⟩
      rw [found] at resolves
      injection resolves
    · cases impossible
  | ok result =>
    rcases result with ⟨invoked, inner⟩
    refine ⟨invoked, inner, rfl, ?_⟩
    cases kind : invoked.executionKind with
    | app =>
      simp only [resolves, kind, if_true] at executed
      rcases executed with ⟨impossible, _⟩ | ⟨_, rfl⟩
      · cases impossible
      · exact ⟨rfl, fun impossible => by cases impossible⟩
    | core =>
      have notApp : ¬ (ToolExecutionKind.core = ToolExecutionKind.app) := by decide
      simp only [resolves, kind, if_neg notApp, isCore] at executed
      rcases executed with ⟨_, call, executes, rfl⟩ | ⟨impossible, _⟩
      · have viaInvoke := executes
        rw [named] at viaInvoke resolves
        rcases executeToolCore_invoke_ok viaInvoke with ⟨selects, entry, found, _⟩
        rw [found] at resolves
        rcases Prod.mk.inj (Except.ok.inj resolves) with ⟨_, rfl⟩
        refine ⟨rfl, fun _ => ⟨call, rfl, selects, ?_⟩⟩
        intro untrusted
        rw [untrusted] at executes
        exact executeToolCore_untrusted_ok executes
      · cases impossible

theorem Reached.wrapped (reached : Reached runtime config session ingress intent resolved run)
    (isInvoke : resolved.canonicalName = "tool.invoke") :
    ∃ outer payload, ∃ invoked arguments, intent.argsJson = .object outer /\
        ReachedInvocation runtime session ingress outer payload invoked arguments run := by
  rcases reached.resolves isInvoke with ⟨invoked, inner, resolves, samePayload, core⟩
  cases isObject : intent.argsJson.asObject with
  | none =>
    rw [internalRequest_invoke_other runtime session ingress isObject] at resolves
    rcases (resolveToolInvokeRequest_isInvoke resolves).2 with ⟨fields, isFields⟩
    have isFields : intent.argsJson = .object fields := isFields
    rw [isFields] at isObject
    cases isObject
  | some outer =>
    have isOuter := Json.asObject_eq_some.mp isObject
    rcases internalRequest_invoke runtime session ingress outer with
      ⟨payload, isRequest, request⟩
    rw [isOuter, isRequest] at resolves core
    rcases (resolveToolInvokeRequest_ok_iff
      canonicalToolName_invoke rfl).mp resolves with ⟨accepted, arguments, merged, rfl⟩
    have acceptedOuter := accepted.of_same_fields
      (fun key member => (request.decisions key member).symm)
    exact ⟨outer, payload, invoked, arguments, isOuter, request, acceptedOuter, merged,
      samePayload, core⟩

/-- Invocations of app tools are never trusted. -/
theorem untrusted_of_app (accepted : AcceptedInvoke runtime.scheme runtime.moment outer invoked)
    (ingress : Option ConversationIngressContext) (isApp : invoked.executionKind = .app) :
    ingressTrustsInvocation ingress outer = false := by
  rcases Option.bind_eq_some_iff.mp accepted.tool with ⟨name, isName, found⟩
  have named := resolveToolExecution_name found
  have canonical : canonicalToolName name = name := by
    rcases Option.map_eq_some_iff.mp isName with ⟨raw, _, rfl⟩
    exact canonicalToolName_canonical
  have plain : wrapsFeishuTool (.object outer) = false := by
    unfold wrapsFeishuTool invokedToolName
    rw [Json.get_object, isName, Option.any_some, <- canonical, <- named]
    exact notFeishu_of_app found isApp
  unfold ingressTrustsInvocation
  rw [plain, Bool.and_false, Bool.false_and]

theorem ReachedInvocation.objects
    (reached : ReachedInvocation runtime session ingress outer payload invoked arguments run) :
    hasObjectArguments outer = true := by
  rw [<- reached.request.arguments]
  rcases bind_eq_ok_iff.mp reached.merged with ⟨fields, isObject, _⟩
  unfold hasObjectArguments
  rw [okOr_eq_ok_iff.mp isObject]
  rfl

/-- The executor of an invocation that withholds sees entries of the runtime. -/
theorem ReachedInvocation.onlyRuntime
    (reached : ReachedInvocation runtime session ingress outer payload invoked arguments run)
    (withholds : InvocationWithholds session ingress outer invoked) :
    OnlyRuntimeEntries runtime session ingress (arguments.lookup internalToolContextKey) := by
  have context := reached.request.context
  unfold InvocationWithholds at withholds
  cases kind : invoked.executionKind with
  | app =>
    rw [kind] at withholds
    rcases withholds with ⟨noOuter, noInner⟩
    have notFeishu := untrusted_of_app reached.accepted ingress kind
    apply onlyRuntime_invokeArguments _ _ reached.merged
    · rw [context, noOuter]
      exact onlyRuntime_narrowed
    · rw [reached.request.untrusted notFeishu, noInner]
      exact onlyRuntime_none
  | core =>
    rw [kind] at withholds
    cases trusts : ingressTrustsInvocation ingress outer with
    | true =>
      simp only [trusts, if_true] at withholds
      rcases reached.request.trusted trusts with ⟨present, isPresent, isInner⟩
      apply onlyRuntime_invokeArguments _ _ reached.merged
      · rw [context, withholds]
        exact onlyRuntime_narrowed
      · rw [isInner]
        intro value isValue
        refine ⟨_, (Option.some.inj isValue).symm, ?_⟩
        intro key entry found
        rcases feishuInternalContext_lookup found with ⟨rfl, rfl⟩ | ⟨rfl, isCallback⟩
        · exact .ingress isPresent
        · exact .callback isPresent isCallback
    | false =>
      simp only [trusts, Bool.false_eq_true, if_false] at withholds
      rcases reached.core kind with ⟨_, _, _, noContext⟩
      have unreserved := noContext trusts
      have noInner : argumentsContext outer = none := by
        rw [context, narrowedContext_eq_none_iff] at unreserved
        rcases withholds with narrowed | present | absent
        · rw [unreserved.1] at narrowed
          cases narrowed
        · rw [unreserved.2] at present
          cases present
        · exact absent
      apply onlyRuntime_invokeArguments _ _ reached.merged
      · rw [noContext trusts]
        exact onlyRuntime_none
      · rw [reached.request.untrusted trusts, noInner]
        exact onlyRuntime_none

theorem Reached.onlyRuntime (reached : Reached runtime config session ingress intent resolved run)
    (withholds : Withholds runtime session ingress intent) :
    OnlyRuntimeEntries runtime session ingress (run.payload.get internalToolContextKey) := by
  by_cases isInvoke : resolved.canonicalName = "tool.invoke"
  · rcases reached.wrapped isInvoke with
      ⟨outer, payload, invoked, arguments, isOuter, invocation⟩
    have named : canonicalToolName intent.toolName = "tool.invoke" := by
      rw [<- resolveToolExecution_name reached.found, isInvoke]
    rw [invocation.given, Json.get_object]
    exact invocation.onlyRuntime
      (withholds named outer invoked isOuter invocation.objects invocation.accepted)
  · rw [(reached.direct isInvoke).1]
    exact onlyRuntime_none

theorem isNone_of_same_place {first second : Option Json}
    (place : second.isSome = first.isSome) (absent : first = none) : second = none := by
  rw [absent] at place
  cases second with
  | none => rfl
  | some value => cases place

theorem InvocationWithholds.of_samePlaces {first second : OrderedMap String Json}
    (places : SamePlaces first second)
    (withholds : InvocationWithholds session ingress first invoked) :
    InvocationWithholds session ingress second invoked := by
  have inner := places.argumentsContext_isSome
  unfold InvocationWithholds at withholds ⊢
  rw [places.ingressTrusts ingress, places.place]
  cases kind : invoked.executionKind with
  | app =>
    rw [kind] at withholds
    exact ⟨isNone_of_same_place places.place withholds.1, isNone_of_same_place inner withholds.2⟩
  | core =>
    rw [kind] at withholds
    dsimp only at withholds ⊢
    by_cases trusts : ingressTrustsInvocation ingress first = true
    · rw [if_pos trusts] at withholds ⊢
      exact isNone_of_same_place places.place withholds
    · rw [if_neg trusts] at withholds ⊢
      rcases withholds with narrowed | present | absent
      · exact Or.inl narrowed
      · exact Or.inr (Or.inl present)
      · exact Or.inr (Or.inr (isNone_of_same_place inner absent))

/-- Whether a call withholds does not depend on what its contexts hold. -/
theorem Withholds.of_sameCall {other : ToolIntent} (same : SameCall intent other)
    (withholds : Withholds runtime session ingress intent) :
    Withholds runtime session ingress other := by
  cases same with
  | same => exact withholds
  | replanted places =>
    intro isInvoke outer invoked isOuter objects accepted
    cases isOuter
    have objectsFirst := places.hasObjectArguments.symm.trans objects
    have acceptedFirst := accepted.of_same_fields
      (fun key member => (places.decisions key member).symm)
    exact (withholds isInvoke _ invoked rfl objectsFirst acceptedFirst).of_samePlaces places

/-! ## Planting an entry -/

/-- A context that the runtime never writes. -/
def planted : Json :=
  .object [("planted", .bool true)]

variable (fields : OrderedMap String Json)

def replantContext : OrderedMap String Json :=
  if fields.contains internalToolContextKey then
    insert internalToolContextKey planted fields
  else fields

/-- Put the planted context wherever the payload has one. -/
def replant (outer : OrderedMap String Json) : OrderedMap String Json :=
  match outer.lookup "arguments" with
  | some (.object inner) =>
    insert "arguments" (.object (replantContext inner)) (replantContext outer)
  | _ => replantContext outer

theorem replantContext_context : (replantContext fields).lookup internalToolContextKey =
      (fields.lookup internalToolContextKey).map (fun _ => planted) := by
  unfold replantContext contains
  cases found : fields.lookup internalToolContextKey with
  | none => simp [found]
  | some value => simp

theorem replantContext_others (different : key ≠ internalToolContextKey)
    (fields : OrderedMap String Json) : (replantContext fields).lookup key = fields.lookup key := by
  unfold replantContext
  split
  · exact lookup_insert_of_ne different _ _
  · rfl

theorem replantContext_same : SameOutsideContext fields (replantContext fields) where
  others _ different := replantContext_others different fields
  place := by rw [replantContext_context, Option.isSome_map]

theorem replant_others (different : key ≠ "arguments") (outer : OrderedMap String Json) :
    (replant outer).lookup key = (replantContext outer).lookup key := by
  unfold replant
  split
  · exact lookup_insert_of_ne different _ _
  · rfl

variable {outer : OrderedMap String Json}

theorem replant_context :
    (replant outer).lookup internalToolContextKey =
      (outer.lookup internalToolContextKey).map (fun _ => planted) := by
  rw [replant_others (by decide), replantContext_context]

theorem replant_arguments : (replant outer).lookup "arguments" =
      match outer.lookup "arguments" with
      | some (.object inner) => some (.object (replantContext inner))
      | arguments => arguments := by
  unfold replant
  split
  · rename_i inner found
    rw [lookup_insert_self]
  · rename_i notObject
    rw [replantContext_others (by decide)]

theorem replant_argumentsContext :
    argumentsContext (replant outer) = (argumentsContext outer).map (fun _ => planted) := by
  unfold argumentsContext
  rw [replant_arguments]
  cases outer.lookup "arguments" with
  | none => rfl
  | some arguments =>
    cases arguments with
    | object inner => exact replantContext_context inner
    | _ => rfl

theorem replant_samePlaces (outer : OrderedMap String Json) : SamePlaces outer (replant outer) where
  others key notContext notArguments := by
    rw [replant_others notArguments, replantContext_others notContext]
  place := by rw [replant_context, Option.isSome_map]
  arguments := by
    rw [replant_arguments]
    cases outer.lookup "arguments" with
    | none => exact Or.inl rfl
    | some arguments =>
      cases arguments with
      | object inner => exact Or.inr ⟨inner, _, rfl, rfl, replantContext_same inner⟩
      | _ => exact Or.inl rfl

theorem runtimeWritten_key {entry : Json}
    (written : RuntimeWritten runtime session ingress key entry) :
    key ∈ [internalToolIngressKey, internalToolFeishuCallbackKey, internalRuntimeNarrowingKey] := by
  cases written with
  | ingress | callback | narrowing => decide

theorem not_onlyRuntime_of_planted {entry : Json}
    (found : context.bind (Json.get "planted") = some entry) :
    ¬ OnlyRuntimeEntries runtime session ingress context := by
  intro only
  have key := runtimeWritten_key (only.entry found)
  revert key
  decide

/-! ## Reaching an executor -/

theorem narrowedContext_entry (different : key ≠ internalRuntimeNarrowingKey)
    (context : Option Json) :
    (narrowedContext runtime session context).bind (Json.get key) =
      context.bind (Json.get key) := by
  unfold narrowedContext
  cases session.activeNarrowing with
  | none => rfl
  | some narrowing =>
    rw [Option.bind_some, Json.get_object, lookup_insert_of_ne different]
    cases context with
    | none => rfl
    | some value =>
      cases value with
      | object fields => rfl
      | _ => rfl

theorem planted_isObject {context : Option Json} :
    ObjectContext (context.map (fun _ => planted)) := by
  intro value isValue
  rcases Option.map_eq_some_iff.mp isValue with ⟨_, _, rfl⟩
  exact ⟨_, rfl⟩

/-- A narrowing can be read back where the model wrote none. -/
theorem trustedRuntimeNarrowing_exists (trusted : Bool)
    (isContext : payload.lookup internalToolContextKey = narrowedContext runtime session context)
    (plain : context.bind (Json.get internalRuntimeNarrowingKey) = none) :
    ∃ narrowing,
      trustedRuntimeNarrowingFromPayload runtime trusted (.object payload) = .ok narrowing := by
  cases trusted with
  | false => exact ⟨none, rfl⟩
  | true =>
    cases active : session.activeNarrowing with
    | some narrowing =>
      rcases narrowedContext_active active context with ⟨entries, isEntries, written⟩
      exact ⟨some narrowing, trustedRuntimeNarrowing_read (isContext.trans isEntries) written⟩
    | none =>
      unfold narrowedContext at isContext
      rw [active] at isContext
      refine ⟨none, ?_⟩
      unfold trustedRuntimeNarrowingFromPayload
      simp only [if_true, Json.get_object, isContext, plain]

theorem described_of_app (found : resolveToolExecution toolName = some resolved)
    (isApp : resolved.executionKind = .app) : (resolve resolved.canonicalName).isSome = true := by
  rw [Option.isSome_iff_ne_none]
  intro missing
  have isFeishu := (resolve_eq_none_iff_feishu found).mp missing
  rw [notFeishu_of_app found isApp] at isFeishu
  cases isFeishu

section Invocation

variable {toolName : String} {outer payload : OrderedMap String Json}
  {invoked : ResolvedToolExecution} {inner : ToolCoreRequest} {trusted : Bool}

theorem resolveToolInvokeRequest_named
    (resolves : resolveToolInvokeRequest runtime.scheme runtime.moment
      { toolName := "tool.invoke", payload := .object payload } = .ok (invoked, inner)) :
    inner.toolName = invoked.canonicalName := by
  rcases (resolveToolInvokeRequest_ok_iff
    canonicalToolName_invoke rfl).mp resolves with ⟨_, arguments, _, rfl⟩
  rfl

section

variable (isInvoke : canonicalToolName toolName = "tool.invoke")
  (isRequest : internalRequest runtime session ingress "tool.invoke" (.object outer) =
    ({ toolName := "tool.invoke", payload := .object payload }, trusted))
  (accepted : AcceptedInvoke runtime.scheme runtime.moment outer invoked)
  (resolves : resolveToolInvokeRequest runtime.scheme runtime.moment
    { toolName := "tool.invoke", payload := .object payload } = .ok (invoked, inner))

include isInvoke isRequest accepted resolves

/-- An app tool is reached as soon as its invocation resolves. -/
theorem reached_app (isApp : invoked.executionKind = .app) :
    Reached runtime config session ingress ⟨toolName, .object outer⟩ ⟨"tool.invoke", .core⟩
      (.app inner) := by
  rcases Option.bind_eq_some_iff.mp accepted.tool with ⟨name, _, found⟩
  have described := described_of_app found isApp
  rw [<- resolveToolInvokeRequest_named resolves] at described
  have effective : ∀ intent, (effectiveToolIntent runtime ⟨"tool.invoke", .core⟩
          { toolName := "tool.invoke", payload := .object payload } intent).request = inner /\
        (effectiveToolIntent runtime ⟨"tool.invoke", .core⟩
          { toolName := "tool.invoke", payload := .object payload }
          intent).executionKind = .app := by
    intro intent
    simp only [effectiveToolIntent, if_true, resolves, isApp, and_self]
  refine ⟨resolveToolExecution_invoke isInvoke, .inr (isProviderExposedToolName_invoke isInvoke),
    ?_, ?_⟩
  · rw [isRequest, (effective _).1]
    exact described
  · rw [isRequest]
    exact Or.inr ⟨(effective _).2, by rw [(effective _).1]⟩

/-- A core tool is reached if the check lets its invocation pass. -/
theorem reached_core (isCore : invoked.executionKind = .core)
    (unreserved : trusted = false -> payload.lookup internalToolContextKey = none)
    (readable : ∃ narrowing,
      trustedRuntimeNarrowingFromPayload runtime trusted (.object payload) = .ok narrowing) :
    ∃ call, call.request = inner /\
      Reached runtime config session ingress ⟨toolName, .object outer⟩ ⟨"tool.invoke", .core⟩
        (.core call) := by
  rcases Option.bind_eq_some_iff.mp accepted.tool with ⟨name, _, found⟩
  have own : invoked.canonicalName ∉ ["tool.search", "tool.invoke"] := by
    intro member
    have exposed : ∀ name, name ∈ ["tool.search", "tool.invoke"] ->
        isProviderExposedToolName name = true := by decide +kernel
    have hidden := accepted.hidden
    rw [exposed _ member] at hidden
    cases hidden
  rcases discoverableExecutor_of_resolve found isCore own with ⟨executor, selects⟩
  rcases readable with ⟨narrowing, reads⟩
  have named := resolveToolInvokeRequest_named resolves
  have passes : (!trusted && (payload.lookup internalToolContextKey).isSome) = false := by
    cases trusted with
    | true => rfl
    | false =>
      rw [unreserved rfl]
      rfl
  have executes : executeToolCoreWithConfig runtime trusted
      { toolName := "tool.invoke", payload := .object payload } config =
        .ok ⟨executor, inner, effectiveConfig config narrowing⟩ := by
    rw [executeToolCore_invoke, Json.get_object, passes, reads]
    simp only [Bool.false_eq_true, if_false, bind, Except.bind, executeToolInvokeToolWithConfig,
      resolves, isCore, executeDiscoverableToolCoreWithConfig, named, selects]
  have notApp : ∀ other request, resolveToolInvokeRequest runtime.scheme runtime.moment
          { toolName := "tool.invoke", payload := .object payload } = .ok (other, request) ->
        other.executionKind = .core := by
    intro other request resolvesOther
    rw [resolves] at resolvesOther
    rw [<- (Prod.mk.inj (Except.ok.inj resolvesOther)).1, isCore]
  have described : (resolve "tool.invoke").isSome = true := by decide +kernel
  refine ⟨⟨executor, inner, effectiveConfig config narrowing⟩, rfl,
    resolveToolExecution_invoke isInvoke, .inr (isProviderExposedToolName_invoke isInvoke), ?_, ?_⟩
  · rw [isRequest, effectiveToolIntent_wrapped_core notApp]
    exact described
  · rw [isRequest]
    dsimp only
    rw [effectiveToolIntent_wrapped_core notApp]
    exact Or.inl ⟨rfl, _, executes, rfl⟩

end

end Invocation

/-! ## Which calls keep the model out -/

/-- An invocation as far as its resolution. -/
structure ResolvedInvocation (runtime : ToolRuntime Bytes) (session : SessionContext)
    (ingress : Option ConversationIngressContext) (outer payload : OrderedMap String Json)
    (invoked : ResolvedToolExecution) (arguments : OrderedMap String Json) : Prop where
  isRequest : internalRequest runtime session ingress "tool.invoke" (.object outer) =
      ({ toolName := "tool.invoke", payload := .object payload },
        ingressTrustsInvocation ingress outer)
  request : WrappedRequest runtime session ingress outer payload
  resolves : resolveToolInvokeRequest runtime.scheme runtime.moment
        { toolName := "tool.invoke", payload := .object payload } =
      .ok (invoked, { toolName := invoked.canonicalName, payload := .object arguments })
  entry : ∀ key, key ≠ internalRuntimeNarrowingKey ->
      (arguments.lookup internalToolContextKey).bind (Json.get key) =
        mergedEntry (outer.lookup internalToolContextKey) (argumentsContext payload) key

/-- An accepted invocation resolves if its contexts are objects. -/
theorem resolvedInvocation_exists (session : SessionContext)
    (ingress : Option ConversationIngressContext) (objects : hasObjectArguments outer = true)
    (accepted : AcceptedInvoke runtime.scheme runtime.moment outer invoked)
    (outerObject : ObjectContext (outer.lookup internalToolContextKey))
    (innerObject : ObjectContext (argumentsContext outer)) :
    ∃ payload arguments,
      ResolvedInvocation runtime session ingress outer payload invoked arguments := by
  rcases internalRequest_invoke runtime session ingress outer with ⟨payload, isRequest, request⟩
  have acceptedPayload := accepted.of_same_fields request.decisions
  have payloadOuter : ObjectContext (payload.lookup internalToolContextKey) := by
    rw [request.context]
    unfold narrowedContext
    cases session.activeNarrowing with
    | none => exact outerObject
    | some narrowing =>
      intro value isValue
      exact ⟨_, (Option.some.inj isValue).symm⟩
  have payloadInner : ObjectContext (argumentsContext payload) := by
    cases trusts : ingressTrustsInvocation ingress outer with
    | true =>
      rcases request.trusted trusts with ⟨present, _, isInner⟩
      rw [isInner]
      intro value isValue
      exact ⟨_, (Option.some.inj isValue).symm⟩
    | false =>
      rw [request.untrusted trusts]
      exact innerObject
  have payloadObjects : hasObjectArguments payload = true := by
    rw [request.arguments, objects]
  rcases Option.isSome_iff_exists.mp payloadObjects with ⟨fields, isFields⟩
  rcases invokeArguments_exists (Json.asObject_eq_some.mp isFields) payloadOuter payloadInner with
    ⟨arguments, merged⟩
  refine ⟨payload, arguments, isRequest, request, ?_, ?_⟩
  · exact (resolveToolInvokeRequest_ok_iff
      canonicalToolName_invoke rfl).mpr ⟨acceptedPayload, arguments, merged, rfl⟩
  · intro key different
    rw [invokeArguments_entry merged, mergedEntry, request.context, narrowedContext_entry different]
    rfl

/-- A resolved invocation of a core tool runs, unless it is refused. -/
theorem ResolvedInvocation.runs_core (config : ToolRuntimeConfig)
    (invocation : ResolvedInvocation runtime session ingress outer payload invoked arguments)
    (isInvoke : canonicalToolName toolName = "tool.invoke")
    (accepted : AcceptedInvoke runtime.scheme runtime.moment outer invoked)
    (isCore : invoked.executionKind = .core)
    (unreserved : ingressTrustsInvocation ingress outer = false ->
      payload.lookup internalToolContextKey = none)
    (plain : (outer.lookup internalToolContextKey).bind
      (Json.get internalRuntimeNarrowingKey) = none) :
    ∃ resolved run, Reached runtime config session ingress ⟨toolName, .object outer⟩ resolved run /\
        run.payload = .object arguments := by
  have readable := trustedRuntimeNarrowing_exists (ingressTrustsInvocation ingress outer)
    invocation.request.context plain
  rcases reached_core isInvoke invocation.isRequest accepted invocation.resolves isCore unreserved
    readable with ⟨call, isInner, reached⟩
  refine ⟨_, _, reached, ?_⟩
  change call.request.payload = _
  rw [isInner]

/-- The planted entry is carried on from the places that are read. -/
theorem ResolvedInvocation.planted (invocation :
      ResolvedInvocation runtime session ingress (replant outer) payload invoked arguments)
    (carried : (outer.lookup internalToolContextKey).isSome = true \/
      (ingressTrustsInvocation ingress outer = false /\ (argumentsContext outer).isSome = true)) :
    (arguments.lookup internalToolContextKey).bind (Json.get "planted") = some (.bool true) := by
  have untrusted := invocation.request.untrusted
  rw [(replant_samePlaces outer).ingressTrusts, replant_argumentsContext] at untrusted
  rw [invocation.entry "planted" (by decide), mergedEntry, replant_context]
  cases isOuter : outer.lookup internalToolContextKey with
  | some value => rfl
  | none =>
    rcases carried with present | ⟨plain, present⟩
    · rw [isOuter] at present
      cases present
    · rcases Option.isSome_iff_exists.mp present with ⟨value, isInner⟩
      rw [untrusted plain, isInner]
      rfl

/-- If the invocation has a context at a place from which it is carried on,
then a planted one gets through. -/
theorem planted_of_not_withholds (isInvoke : canonicalToolName toolName = "tool.invoke")
    (objects : hasObjectArguments outer = true)
    (accepted : AcceptedInvoke runtime.scheme runtime.moment outer invoked)
    (carried : ¬ InvocationWithholds session ingress outer invoked) :
    ∃ resolved run,
      Reached runtime config session ingress ⟨toolName, .object (replant outer)⟩ resolved run /\
        (run.payload.get internalToolContextKey).bind (Json.get "planted") = some (.bool true) := by
  have places := replant_samePlaces outer
  have acceptedPlanted := accepted.of_same_fields places.decisions
  have outerObject : ObjectContext ((replant outer).lookup internalToolContextKey) := by
    rw [replant_context]
    exact planted_isObject
  have innerObject : ObjectContext (argumentsContext (replant outer)) := by
    rw [replant_argumentsContext]
    exact planted_isObject
  rcases resolvedInvocation_exists session ingress (places.hasObjectArguments.trans objects)
    acceptedPlanted outerObject innerObject with ⟨payload, arguments, invocation⟩
  have trustsSame := places.ingressTrusts ingress
  unfold InvocationWithholds at carried
  cases kind : invoked.executionKind with
  | app =>
    rw [kind] at carried
    have plain := untrusted_of_app accepted ingress kind
    refine ⟨_, _, reached_app isInvoke invocation.isRequest acceptedPlanted
      invocation.resolves kind, invocation.planted ?_⟩
    rw [Option.isSome_iff_ne_none, Option.isSome_iff_ne_none]
    by_cases absent : outer.lookup internalToolContextKey = none
    · exact Or.inr ⟨plain, fun noInner => carried ⟨absent, noInner⟩⟩
    · exact Or.inl absent
  | core =>
    rw [kind] at carried
    dsimp only at carried
    have noNarrowing : ((replant outer).lookup internalToolContextKey).bind
        (Json.get internalRuntimeNarrowingKey) = none := by
      rw [replant_context]
      cases outer.lookup internalToolContextKey <;> rfl
    have unreserved : ingressTrustsInvocation ingress (replant outer) = false ->
        payload.lookup internalToolContextKey = none := by
      intro plain
      rw [trustsSame] at plain
      rw [if_neg (by rw [plain]; decide), not_or, not_or, Bool.not_eq_true, Bool.not_eq_true,
        Option.isSome_eq_false_iff, Option.isSome_eq_false_iff, Option.isNone_iff_eq_none,
        Option.isNone_iff_eq_none] at carried
      rw [invocation.request.context, narrowedContext_eq_none_iff, replant_context, carried.2.1]
      exact ⟨carried.1, rfl⟩
    rcases invocation.runs_core config isInvoke acceptedPlanted kind unreserved noNarrowing with
      ⟨resolved, run, reached, isArguments⟩
    refine ⟨resolved, run, reached, ?_⟩
    rw [isArguments]
    refine invocation.planted ?_
    cases trusts : ingressTrustsInvocation ingress outer with
    | true =>
      rw [if_pos trusts] at carried
      exact Or.inl (Option.isSome_iff_ne_none.mpr carried)
    | false =>
      rw [if_neg (by rw [trusts]; decide), not_or, not_or] at carried
      exact Or.inr ⟨rfl, Option.isSome_iff_ne_none.mpr carried.2.2⟩

/-- Whatever the model writes at the places where it has a context, and whatever
the session and the environment decide, the executor sees entries of the runtime
only. -/
def KeepsModelOut (runtime : ToolRuntime Bytes) (config : ToolRuntimeConfig)
    (session : SessionContext) (ingress : Option ConversationIngressContext)
    (intent : ToolIntent) : Prop :=
  ∀ environment refuses other run, SameCall intent other ->
    runToolIntent runtime environment config refuses session ingress other = .ok run ->
      OnlyRuntimeEntries runtime session ingress (run.payload.get internalToolContextKey)

/-- The calls that keep the model out are those that withhold its contexts. -/
theorem keepsModelOut_iff : KeepsModelOut runtime config session ingress intent ↔
      Withholds runtime session ingress intent := by
  constructor
  · intro keepsOut isInvoke outer invoked isOuter objects accepted
    rcases intent with ⟨toolName, argsJson⟩
    cases isOuter
    by_contra carried
    rcases planted_of_not_withholds isInvoke objects accepted carried with
      ⟨resolved, run, reached, seen⟩
    exact not_onlyRuntime_of_planted seen
      (keepsOut _ _ _ run (.replanted (replant_samePlaces outer))
        (runToolIntent_permissive reached))
  · intro withholds environment refuses other run same ran
    rcases reached_of_runToolIntent ran with ⟨resolved, reached⟩
    exact reached.onlyRuntime (withholds.of_sameCall same)

end Runtime

/-! ## Forged contexts that get through -/

namespace ForgedContextSample

/-- A session without a narrowing. -/
def session : SessionContext where
  sessionId := "session-a"
  runtimeNarrowing := none

def forged : Json :=
  .object [("ingress", .string "forged")]

/-- The issue of a lease without a binding. -/
def issue (toolId : String) : LeaseIssue where
  moment := NarrowingSample.runtime.moment
  toolId
  payload := []

def lease (toolId : String) : Json :=
  .string (LeaseSample.scheme.lease (issue toolId))

/-- A wrapped feishu call with a context at the top level. -/
def feishuCall : OrderedMap String Json :=
  [ ("_loongclaw", forged), ("arguments", .object []), ("lease", lease "feishu.whoami"),
    ("tool_id", .string "feishu.whoami") ]

/-- A wrapped file call with a context inside the arguments. -/
def fileCall : OrderedMap String Json :=
  [ ("arguments", .object [("_loongclaw", forged), ("path", .string "notes")]),
    ("lease", lease "file.read"), ("tool_id", .string "file.read") ]

theorem accepted {payload : OrderedMap String Json} {toolId : String}
    (tool : (((payload.lookup "tool_id").bind Json.asStr).map canonicalToolName).bind
      resolveToolExecution = some ⟨toolId, .core⟩)
    (hidden : isProviderExposedToolName toolId = false)
    (leased : payload.lookup "lease" = some (lease toolId)) :
    AcceptedInvoke NarrowingSample.runtime.scheme NarrowingSample.runtime.moment payload
      ⟨toolId, .core⟩ where
  tool := tool
  hidden := hidden
  leased := by
    have noBinding : (issue toolId).binding.RecordedIn (extractToolLeaseBinding payload) := by
      constructor
      · intro _ impossible
        cases impossible
      · intro _ impossible
        cases impossible
      · intro _ impossible
        cases impossible
    have fresh : (1000 : UInt64) < Kernel.saturatingAdd 1000 toolLeaseTtlSeconds := by decide
    refine ⟨_, by rw [leased]; rfl, ?_⟩
    exact (LeaseSample.scheme.validateToolLease_lease_ok_iff (issue toolId) _ _ _).mpr
      ⟨rfl, rfl, fresh, noBinding⟩

theorem forged_isObject : ObjectContext (some forged) := by
  intro value isValue
  exact ⟨_, (Option.some.inj isValue).symm⟩

theorem none_isObject : ObjectContext none := by
  intro value impossible
  cases impossible

end ForgedContextSample

open ForgedContextSample

/-- The model replaces the ingress of a trusted feishu call, and gives a file
tool an ingress where there is none. -/
theorem forged_context_reaches_executor : (∃ run,
      runToolIntent NarrowingSample.runtime .permissive ToolRuntimeConfig.default (fun _ => none)
          session (some NarrowingSample.ingress)
          ⟨"tool.invoke", .object feishuCall⟩ = .ok run /\
        (run.payload.get "_loongclaw").bind (Json.get "ingress") = some (.string "forged")) /\
    (∃ run, runToolIntent NarrowingSample.runtime .permissive ToolRuntimeConfig.default
          (fun _ => none) session none
          ⟨"tool.invoke", .object fileCall⟩ = .ok run /\
        (run.payload.get "_loongclaw").bind (Json.get "ingress") = some (.string "forged")) := by
  constructor
  · have accepted : AcceptedInvoke NarrowingSample.runtime.scheme NarrowingSample.runtime.moment
        feishuCall ⟨"feishu.whoami", .core⟩ :=
      accepted (by decide +kernel) (by decide +kernel) rfl
    have outerForged : feishuCall.lookup internalToolContextKey = some forged := rfl
    have noInner : argumentsContext feishuCall = none := rfl
    have trusts : ingressTrustsInvocation (some NarrowingSample.ingress)
        feishuCall = true := by decide +kernel
    rcases resolvedInvocation_exists session (some NarrowingSample.ingress)
      rfl accepted (outerForged ▸ forged_isObject)
      (noInner ▸ none_isObject) with ⟨payload, arguments, invocation⟩
    have reachable := invocation.runs_core .default canonicalToolName_invoke accepted rfl
      (fun plain => by rw [trusts] at plain; cases plain) rfl
    rcases reachable with ⟨resolved, run, reached, isArguments⟩
    refine ⟨run, runToolIntent_permissive reached, ?_⟩
    rw [isArguments]
    exact (invocation.entry "ingress" (by decide)).trans (by rw [mergedEntry, outerForged]; rfl)
  · have accepted : AcceptedInvoke NarrowingSample.runtime.scheme NarrowingSample.runtime.moment
        fileCall ⟨"file.read", .core⟩ :=
      accepted (by decide +kernel) (by decide +kernel) rfl
    have noOuter : fileCall.lookup internalToolContextKey = none := rfl
    have innerForged : argumentsContext fileCall = some forged := rfl
    rcases resolvedInvocation_exists session none rfl accepted (noOuter ▸ none_isObject)
      (innerForged ▸ forged_isObject) with ⟨payload, arguments, invocation⟩
    have reachable := invocation.runs_core .default canonicalToolName_invoke accepted rfl
      (fun _ => invocation.request.context) rfl
    rcases reachable with ⟨resolved, run, reached, isArguments⟩
    refine ⟨run, runToolIntent_permissive reached, ?_⟩
    rw [isArguments]
    exact (invocation.entry "ingress" (by decide)).trans
      (by rw [mergedEntry, noOuter, invocation.request.untrusted rfl, innerForged]; rfl)

end LoongClaw.Conversation
