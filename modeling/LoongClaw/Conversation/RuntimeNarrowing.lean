import LoongClaw.Conversation.InternalContext

namespace LoongClaw.Conversation

open Foundation Contracts Tools Fallible Text ToolCatalog

/-!
# Narrowed sessions

A session may narrow the limits of the tool runtime.  The turn engine writes
the narrowing under the reserved key of the outer payload, where core execution
reads it if the call is trusted and refuses it otherwise.  Whether a call is
trusted is decided by the ingress injection, which knows nothing of narrowings:
it trusts the wrapped feishu calls with ingress hints and no others.  Those
carry the narrowing on into the payload of the feishu tool, which has no field
for it.  So a core call that runs without the narrowing is refused with it.

Of the way in which feishu payloads are read, only the refusal of unknown fields
in the internal context is assumed.
-/

/-! ## Reading the payload -/

/-- How the feishu tools read their payloads.  The internal context of a payload
has a field for the ingress and one for the callback, and denies all others. -/
structure FeishuPayloads where
  deserialize : String -> Json -> Except String Unit
  denyUnknownFields : ∀ toolName payload (entries : OrderedMap String Json) key,
    payload.get internalToolContextKey = some (.object entries) ->
    key ≠ internalToolIngressKey -> key ≠ internalToolFeishuCallbackKey ->
    (entries.lookup key).isSome = true ->
      ∃ error, deserialize toolName payload = .error error

def parsePayload (payloads : FeishuPayloads) (toolName : String) (payload : Json) :
    Except String Unit :=
  (payloads.deserialize toolName payload).mapError fun error =>
    toolName ++ " payload validation failed: " ++ error

/-- The first thing that an executor does.  The others read their payloads field
by field and are not followed further. -/
def startExecutor (payloads : FeishuPayloads) : ToolRun -> Except String Unit
  | .core call =>
    if call.executor = .feishu then
      parsePayload payloads call.request.toolName call.request.payload
    else .ok ()
  | .app _ => .ok ()

/-- An internal context, if there is one, has the ingress and the callback at
most. -/
def KnownFields (context : Option Json) : Prop :=
  ∀ value, context = some value -> ∃ entries : OrderedMap String Json, value = .object entries /\
    ∀ key, (entries.lookup key).isSome = true ->
      key = internalToolIngressKey \/ key = internalToolFeishuCallbackKey

/-- Nothing but the unknown fields need be denied. -/
theorem exists_feishuPayloads : ∃ payloads : FeishuPayloads, ∀ run,
    KnownFields (run.payload.get internalToolContextKey) ->
      startExecutor payloads run = .ok () := by
  classical
  refine ⟨⟨fun _ payload =>
    if KnownFields (payload.get internalToolContextKey) then .ok () else .error "", ?_⟩, ?_⟩
  · intro toolName payload entries key context notIngress notCallback present
    refine ⟨"", if_neg fun known => ?_⟩
    rcases known _ context with ⟨others, same, fields⟩
    cases same
    exact (fields key present).elim notIngress notCallback
  · intro run known
    unfold startExecutor parsePayload
    cases run with
    | app request => rfl
    | core call =>
      have known : KnownFields (call.request.payload.get internalToolContextKey) := known
      dsimp only
      rw [if_pos known]
      split <;> rfl

section Runtime

variable {Bytes : Type} (runtime : ToolRuntime Bytes) (environment : TurnEnvironment)
  (config : ToolRuntimeConfig) (payloads : FeishuPayloads)
  (refuses : ToolIntent -> Option TurnFailure) (session : SessionContext)
  (ingress : Option ConversationIngressContext) (intent : ToolIntent)

/-- Run a call as far as its executor, and start the executor. -/
def startToolIntent : Except TurnResult ToolRun := do
  let run <- runToolIntent runtime environment config refuses session ingress intent
  (startExecutor payloads run).mapError
    (turnResultFromToolExecutionFailure ∘ toolExecutionFailure)
  return run

def SessionContext.unnarrowed (session : SessionContext) : SessionContext :=
  { session with runtimeNarrowing := none }

/-! ## Core calls -/

/-- The call is of a core tool, and so is what it wraps.  Its arguments are an
object and do not mention the reserved key. -/
structure CoreCall (resolved : ResolvedToolExecution) (outer : OrderedMap String Json) : Prop where
  found : resolveToolExecution intent.toolName = some resolved
  isCore : resolved.executionKind = .core
  inner : resolved.canonicalName = "tool.invoke" -> ∀ invoked,
      (invokedToolName intent.argsJson).bind resolveToolExecution = some invoked ->
        invoked.executionKind = .core
  isObject : intent.argsJson = .object outer
  unmarked : outer.lookup internalToolContextKey = none
  argumentsUnmarked : argumentsContext outer = none

/-- The provider sees the tool of the call, and if the call is an invocation,
then its arguments are an object and it has a valid lease for a hidden tool. -/
def AdmittedCall (resolved : ResolvedToolExecution) (outer : OrderedMap String Json) : Prop :=
  isProviderExposedToolName intent.toolName = true /\
    (resolved.canonicalName = "tool.invoke" -> hasObjectArguments outer = true /\
      ∃ invoked, AcceptedInvoke runtime.scheme runtime.moment outer invoked)

/-- Whatever is decided about the call, its executor runs under the narrowed
configuration, and does run if it would without the narrowing. -/
def RunsNarrowed (narrowing : ToolRuntimeNarrowing) : Prop :=
  ∀ environment payloads refuses,
    (∀ call, startToolIntent runtime environment config payloads refuses session ingress intent =
        .ok (.core call) -> call.config = config.narrowed narrowing) /\
      ∀ run, startToolIntent runtime environment config payloads refuses session.unnarrowed ingress
          intent = .ok run ->
        ∃ run, startToolIntent runtime environment config payloads refuses session ingress intent =
          .ok run

variable {runtime environment config payloads refuses session ingress intent}
  {resolved : ResolvedToolExecution} {outer payload arguments : OrderedMap String Json}
  {invoked : ResolvedToolExecution} {run : ToolRun} {narrowing : ToolRuntimeNarrowing}

theorem startToolIntent_ok
    (ran : startToolIntent runtime environment config payloads refuses session ingress intent =
      .ok run) :
    (∃ resolved, Reached runtime config session ingress intent resolved run) /\
      startExecutor payloads run = .ok () := by
  rcases bind_eq_ok_iff.mp ran with ⟨reached, runs, ran⟩
  rcases bind_eq_ok_iff.mp ran with ⟨⟨⟩, started, same⟩
  cases same
  exact ⟨reached_of_runToolIntent runs, mapError_eq_ok_iff.mp started⟩

theorem startToolIntent_permissive
    (reached : Reached runtime config session ingress intent resolved run)
    (starts : startExecutor payloads run = .ok ()) :
    startToolIntent runtime .permissive config payloads (fun _ => none) session ingress intent =
      .ok run := by
  unfold startToolIntent
  rw [runToolIntent_permissive reached]
  change ((startExecutor payloads run).mapError _ >>= fun _ => Except.ok run) = _
  rw [starts]
  rfl

/-! ## No core call of a narrowed session runs -/

/-- A trusted invocation is one of a feishu tool. -/
theorem feishu_of_trusted (accepted : AcceptedInvoke runtime.scheme runtime.moment outer invoked)
    (trusts : ingressTrustsInvocation ingress outer = true) :
    discoverableExecutor invoked.canonicalName = some .feishu := by
  rcases Option.bind_eq_some_iff.mp accepted.tool with ⟨name, isName, found⟩
  have canonical : canonicalToolName name = name := by
    rcases Option.map_eq_some_iff.mp isName with ⟨raw, _, rfl⟩
    exact canonicalToolName_canonical
  have wraps : wrapsFeishuTool (.object outer) = true :=
    (Bool.and_eq_true_iff.mp (Bool.and_eq_true_iff.mp trusts).1).2
  unfold wrapsFeishuTool invokedToolName at wraps
  rw [Json.get_object, isName, Option.any_some, <- canonical,
    <- resolveToolExecution_name found] at wraps
  exact discoverableExecutor_of_feishu found wraps

/-- The feishu executor denies a payload with a narrowing in its context. -/
theorem ReachedInvocation.denied (active : session.activeNarrowing = some narrowing)
    (reached : ReachedInvocation runtime session ingress outer payload invoked arguments run)
    {call : ExecutorCall} (isCall : run = .core call) (isFeishu : call.executor = .feishu) :
    startExecutor payloads run ≠ .ok () := by
  rcases @narrowedContext_active _ runtime _ _ active (outer.lookup internalToolContextKey) with
    ⟨written, isWritten, narrowed⟩
  rcases invokeArguments_with_context reached.merged (reached.request.context.trans isWritten) with
    ⟨merged, isMerged, entries⟩
  have context : call.request.payload.get internalToolContextKey = some (.object merged) := by
    have given := reached.given
    rw [isCall] at given
    change call.request.payload = .object arguments at given
    rw [given, Json.get_object, isMerged]
  have present : (merged.lookup internalRuntimeNarrowingKey).isSome = true := by
    rw [entries, mergedEntry, Option.bind_some, Json.get_object, narrowed]
    rfl
  rcases payloads.denyUnknownFields call.request.toolName call.request.payload merged
    internalRuntimeNarrowingKey context (by decide) (by decide) present with ⟨error, denied⟩
  unfold startExecutor parsePayload
  rw [isCall]
  dsimp only
  rw [if_pos isFeishu, denied]
  intro impossible
  cases impossible

theorem CoreCall.not_run (active : session.activeNarrowing = some narrowing)
    (call : CoreCall intent resolved outer) :
    startToolIntent runtime environment config payloads refuses session ingress intent ≠
      .ok run := by
  intro ran
  rcases startToolIntent_ok ran with ⟨⟨other, reached⟩, started⟩
  cases call.found.symm.trans reached.found
  rcases @narrowedContext_active _ runtime _ _ active (outer.lookup internalToolContextKey) with
    ⟨written, isWritten, narrowed⟩
  by_cases isInvoke : resolved.canonicalName = "tool.invoke"
  · rcases reached.wrapped isInvoke with ⟨own, payload, invoked, arguments, isOwn, invocation⟩
    cases call.isObject.symm.trans isOwn
    have isCore : invoked.executionKind = .core := by
      apply call.inner isInvoke
      rw [isOwn]
      exact invocation.accepted.tool
    rcases invocation.core isCore with ⟨executed, isExecuted, selects, unreserved⟩
    cases trusts : ingressTrustsInvocation ingress outer with
    | false =>
      have absent := unreserved trusts
      rw [invocation.request.context, isWritten] at absent
      cases absent
    | true =>
      have isFeishu := selects.symm.trans (feishu_of_trusted invocation.accepted trusts)
      exact invocation.denied active isExecuted (Option.some.inj isFeishu) started
  · have absent := (reached.direct isInvoke).2
    rw [augmentToolPayloadForKernel_direct runtime isInvoke, call.isObject, Json.asObject_object,
      Option.isSome_some, if_pos rfl, Json.get_object, isWritten] at absent
    cases absent

/-! ## Which calls would run without the narrowing -/

theorem Reached.isExposed (reached : Reached runtime config session ingress intent resolved run) :
    isProviderExposedToolName intent.toolName = true := by
  rcases reached.exposed with missing | exposed
  · have named := resolveToolExecution_name reached.found
    by_cases isInvoke : resolved.canonicalName = "tool.invoke"
    · exact isProviderExposedToolName_invoke (named.symm.trans isInvoke)
    · have found := reached.found
      have notFeishu := reached.notFeishu isInvoke
      unfold resolveToolExecution at found
      rw [missing] at found
      rcases Option.map_eq_some_iff.mp found with ⟨canonical, isCanonical, rfl⟩
      rcases Option.map_eq_some_iff.mp isCanonical with ⟨pair, isFound, rfl⟩
      rw [(feishuToolAliasPairs_entry pair (List.mem_of_find?_eq_some isFound)).2.2] at notFeishu
      cases notFeishu
  · exact exposed

theorem Reached.admitted (reached : Reached runtime config session ingress intent resolved run)
    (isObject : intent.argsJson = .object outer) : AdmittedCall runtime intent resolved outer := by
  refine ⟨reached.isExposed, fun isInvoke => ?_⟩
  rcases reached.wrapped isInvoke with ⟨own, payload, invoked, arguments, isOwn, invocation⟩
  cases isObject.symm.trans isOwn
  exact ⟨invocation.objects, invoked, invocation.accepted⟩

/-- Without a narrowing an admitted call by name is executed as it is. -/
theorem CoreCall.reached_direct (call : CoreCall intent resolved outer)
    (notInvoke : resolved.canonicalName ≠ "tool.invoke")
    (exposed : isProviderExposedToolName intent.toolName = true) :
    ∃ run, Reached runtime config session.unnarrowed ingress intent resolved run := by
  have canonical := canonicalToolName_resolved call.found
  have described : (resolve resolved.canonicalName).isSome = true := by
    unfold isProviderExposedToolName at exposed
    rw [<- resolveToolExecution_name call.found] at exposed
    cases missing : resolve resolved.canonicalName with
    | none =>
      rw [missing] at exposed
      cases exposed
    | some descriptor => rfl
  have notFeishu : startsWith resolved.canonicalName "feishu." = false := by
    rw [Bool.eq_false_iff, ne_eq, <- resolve_eq_none_iff_feishu call.found]
    exact Option.isSome_iff_ne_none.mp described
  have request := internalRequest_direct runtime session.unnarrowed ingress intent.argsJson
    (canonical.symm ▸ notInvoke) (canonical.symm ▸ notFeishu)
  have unreserved : payloadUsesReservedInternalToolContext (augmentToolPayloadForKernel runtime
      resolved.canonicalName intent.argsJson session.unnarrowed) = false := by
    rw [payloadUsesReserved_eq, augmentToolPayloadForKernel_direct runtime notInvoke,
      call.isObject, Json.asObject_object, Option.isSome_some, if_pos rfl, Json.get_object,
      call.unmarked]
    rfl
  have executes : ∃ executed, executeToolCoreWithConfig runtime false
      { toolName := resolved.canonicalName
        payload := augmentToolPayloadForKernel runtime resolved.canonicalName intent.argsJson
          session.unnarrowed } config = .ok executed := by
    unfold executeToolCoreWithConfig
    simp only [unreserved, canonical, Bool.and_false, Bool.false_eq_true, if_false]
    change ∃ executed, (if resolved.canonicalName = "tool.search" then _ else _) =
      Except.ok executed
    by_cases isSearch : resolved.canonicalName = "tool.search"
    · exact ⟨_, if_pos isSearch⟩
    · rw [if_neg isSearch, if_neg notInvoke]
      have own : resolved.canonicalName ∉ ["tool.search", "tool.invoke"] := by
        simp [isSearch, notInvoke]
      rcases discoverableExecutor_of_resolve call.found call.isCore own with ⟨executor, selects⟩
      unfold executeDiscoverableToolCoreWithConfig
      simp only [selects]
      exact ⟨_, rfl⟩
  rcases executes with ⟨executed, executes⟩
  refine ⟨.core executed, call.found, .inr exposed, ?_, ?_⟩
  · rw [effectiveToolIntent_direct notInvoke, request]
    exact described
  · dsimp only
    rw [effectiveToolIntent_direct notInvoke, request]
    exact .inl ⟨call.isCore, executed, executes, rfl⟩

theorem CoreCall.withholds (call : CoreCall intent resolved outer) :
    Withholds runtime session ingress intent := by
  intro _ own invoked isOwn _ _
  cases call.isObject.symm.trans isOwn
  unfold InvocationWithholds
  cases invoked.executionKind with
  | app => exact ⟨call.unmarked, call.argumentsUnmarked⟩
  | core =>
    dsimp only
    split
    · exact call.unmarked
    · exact .inr (.inr call.argumentsUnmarked)

/-- Without a narrowing an admitted call reaches an executor, and has no fields
in its context that a feishu tool does not know. -/
theorem CoreCall.runs_unnarrowed (call : CoreCall intent resolved outer)
    (admitted : AdmittedCall runtime intent resolved outer) :
    ∃ resolved run, Reached runtime config session.unnarrowed ingress intent resolved run /\
      KnownFields (run.payload.get internalToolContextKey) := by
  have runs : ∃ resolved run,
      Reached runtime config session.unnarrowed ingress intent resolved run := by
    by_cases isInvoke : resolved.canonicalName = "tool.invoke"
    · rcases admitted.2 isInvoke with ⟨objects, invoked, accepted⟩
      have isCore : invoked.executionKind = .core := by
        apply call.inner isInvoke
        rw [call.isObject]
        exact accepted.tool
      have named := (resolveToolExecution_name call.found).symm.trans isInvoke
      rcases intent with ⟨toolName, argsJson⟩
      cases call.isObject
      rcases resolvedInvocation_exists session.unnarrowed ingress objects accepted
        (call.unmarked ▸ ForgedContextSample.none_isObject)
        (call.argumentsUnmarked ▸ ForgedContextSample.none_isObject) with
        ⟨payload, arguments, invocation⟩
      rcases invocation.runs_core config named accepted isCore
        (fun _ => invocation.request.context.trans call.unmarked)
        (by rw [call.unmarked]; rfl) with ⟨resolved, run, reached, _⟩
      exact ⟨resolved, run, reached⟩
    · rcases call.reached_direct isInvoke admitted.1 with ⟨run, reached⟩
      exact ⟨resolved, run, reached⟩
  rcases runs with ⟨resolved, run, reached⟩
  refine ⟨resolved, run, reached, fun value isValue => ?_⟩
  rcases reached.onlyRuntime call.withholds value isValue with ⟨entries, isEntries, written⟩
  refine ⟨entries, isEntries, fun key present => ?_⟩
  rcases Option.isSome_iff_exists.mp present with ⟨entry, found⟩
  cases written key entry found with
  | ingress => exact .inl rfl
  | callback => exact .inr rfl
  | narrowing active => cases active

/-- In a narrowed session exactly those core calls run as they should that would
not run without the narrowing either. -/
theorem runsNarrowed_iff (active : session.activeNarrowing = some narrowing)
    (call : CoreCall intent resolved outer) :
    RunsNarrowed runtime config session ingress intent narrowing ↔
      ¬ AdmittedCall runtime intent resolved outer := by
  constructor
  · intro runs admitted
    rcases exists_feishuPayloads with ⟨payloads, accepts⟩
    rcases call.runs_unnarrowed admitted with ⟨resolved, run, reached, known⟩
    rcases (runs .permissive payloads (fun _ => none)).2 run
      (startToolIntent_permissive reached (accepts run known)) with ⟨run, ran⟩
    exact call.not_run active ran
  · intro refused environment payloads refuses
    refine ⟨fun executed ran => absurd ran (call.not_run active), fun run ran => ?_⟩
    rcases (startToolIntent_ok ran).1 with ⟨other, reached⟩
    cases call.found.symm.trans reached.found
    exact absurd (reached.admitted call.isObject) refused

end Runtime

namespace NarrowingSample

/-- At most one link of a page is followed. -/
def narrowing : ToolRuntimeNarrowing where
  browser := { maxSessions := none, maxLinks := some 1, maxTextChars := none }
  webFetch :=
    { allowPrivateHosts := none
      allowedDomains := ∅
      blockedDomains := ∅
      timeoutSeconds := none
      maxBytes := none
      maxRedirects := none }

def session : SessionContext where
  sessionId := "session-a"
  runtimeNarrowing := some narrowing

/-- Feishu payloads that nothing satisfies. -/
def payloads : FeishuPayloads where
  deserialize _ _ := .error "unknown field"
  denyUnknownFields _ _ _ _ _ _ _ _ := ⟨_, rfl⟩

def searchIntent : ToolIntent where
  toolName := "tool.search"
  argsJson := .object [("query", .string "read")]

theorem searchCall : CoreCall searchIntent ⟨"tool.search", .core⟩ [("query", .string "read")] where
  found := by decide +kernel
  isCore := rfl
  inner isInvoke := absurd isInvoke (by decide)
  isObject := rfl
  unmarked := rfl
  argumentsUnmarked := rfl

/-- A leased feishu call without a context. -/
def feishuCall : OrderedMap String Json :=
  [ ("arguments", .object []), ("lease", ForgedContextSample.lease "feishu.whoami"),
    ("tool_id", .string "feishu.whoami") ]

def feishuIntent : ToolIntent where
  toolName := "tool.invoke"
  argsJson := .object feishuCall

theorem coreCall : CoreCall feishuIntent ⟨"tool.invoke", .core⟩ feishuCall where
  found := by decide +kernel
  isCore := rfl
  inner := by
    intro _ invoked resolves
    have isFeishu : (invokedToolName feishuIntent.argsJson).bind resolveToolExecution =
        some ⟨"feishu.whoami", .core⟩ := by decide +kernel
    rw [<- Option.some.inj resolves]
  isObject := rfl
  unmarked := rfl
  argumentsUnmarked := rfl

end NarrowingSample

open NarrowingSample

/-- The trusted feishu invocation does not run in the narrowed session. -/
theorem feishu_invocation_not_narrowed : session.activeNarrowing = some narrowing /\
    CoreCall feishuIntent ⟨"tool.invoke", .core⟩ feishuCall /\
      AdmittedCall runtime feishuIntent ⟨"tool.invoke", .core⟩ feishuCall /\
      ¬ RunsNarrowed runtime ToolRuntimeConfig.default session (some ingress) feishuIntent
        narrowing := by
  have active : session.activeNarrowing = some narrowing := rfl
  have accepted : AcceptedInvoke runtime.scheme runtime.moment feishuCall
      ⟨"feishu.whoami", .core⟩ :=
    ForgedContextSample.accepted (by decide +kernel) (by decide +kernel) rfl
  have admitted : AdmittedCall runtime feishuIntent ⟨"tool.invoke", .core⟩ feishuCall :=
    ⟨by decide +kernel, fun _ => ⟨rfl, _, accepted⟩⟩
  exact ⟨active, coreCall, admitted, fun runs =>
    (runsNarrowed_iff active coreCall).mp runs admitted⟩

/-- A search in a narrowed session is refused for the field that the turn engine
itself has added.  Without the narrowing it runs. -/
theorem narrowed_search_refused : session.activeNarrowing = some narrowing /\
      CoreCall searchIntent ⟨"tool.search", .core⟩ [("query", .string "read")] /\
      startToolIntent runtime .permissive ToolRuntimeConfig.default payloads (fun _ => none)
          session.unnarrowed none searchIntent =
        .ok (.core
          ⟨.toolSearch, ⟨"tool.search", searchIntent.argsJson⟩, ToolRuntimeConfig.default⟩) /\
      startToolIntent runtime .permissive ToolRuntimeConfig.default payloads (fun _ => none)
          session none searchIntent =
        .error (.toolError ⟨.retryable, "tool_execution_failed",
          "tool execution failed: tool `tool.search` payload._loongclaw is reserved for " ++
            "trusted internal tool context; retry without that field"⟩) :=
  ⟨rfl, searchCall, rfl, rfl⟩

end LoongClaw.Conversation
