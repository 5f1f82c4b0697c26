import LoongClaw.Tools.Lease
import LoongClaw.Tools.RuntimeConfig
import LoongClaw.Kernel.Kernel

namespace LoongClaw.Tools

open Foundation Contracts Kernel Fallible OrderedMap

/-!
# Core tool execution

From a core request to the executor that runs it.  The field `_loongclaw` of a
payload is reserved for the runtime: a request that comes in without the
trusted flag must not have it.  `tool.invoke` unwraps the request inside it,
and moves the outer internal context into the arguments of the inner request.
The executors themselves are not run here; the functions below say which one
is called, with what request and under which configuration.
-/

def internalToolContextKey : String := "_loongclaw"
def internalRuntimeNarrowingKey : String := "runtime_narrowing"

/-- The executors of the core tools. -/
inductive CoreExecutor where
  | toolSearch
  | clawMigrate
  | externalSkillsInspect
  | externalSkillsInstall
  | externalSkillsInvoke
  | externalSkillsList
  | externalSkillsPolicy
  | externalSkillsFetch
  | externalSkillsRemove
  | browserCompanion
  | browser
  | feishu
  | shell
  | fileRead
  | fileWrite
  | fileEdit
  | providerSwitch
  | webFetch
  | webSearch
  deriving DecidableEq

variable (toolName : String)

/-- The executor that the name of a discoverable tool selects. -/
def discoverableExecutor : Option CoreExecutor :=
  if toolName = "claw.migrate" then some .clawMigrate
  else if toolName = "external_skills.inspect" then some .externalSkillsInspect
  else if toolName = "external_skills.install" then some .externalSkillsInstall
  else if toolName = "external_skills.invoke" then some .externalSkillsInvoke
  else if toolName = "external_skills.list" then some .externalSkillsList
  else if toolName = "external_skills.policy" then some .externalSkillsPolicy
  else if toolName = "external_skills.fetch" then some .externalSkillsFetch
  else if toolName = "external_skills.remove" then some .externalSkillsRemove
  else if toolName ∈
      ["browser.companion.session.start", "browser.companion.navigate",
        "browser.companion.snapshot", "browser.companion.wait",
        "browser.companion.session.stop"] then
    some .browserCompanion
  else if toolName ∈ ["browser.open", "browser.extract", "browser.click"] then some .browser
  else if isKnownFeishuToolName toolName then some .feishu
  else if toolName = "shell.exec" then some .shell
  else if toolName = "file.read" then some .fileRead
  else if toolName = "file.write" then some .fileWrite
  else if toolName = "file.edit" then some .fileEdit
  else if toolName = "provider.switch" then some .providerSwitch
  else if toolName = "web.fetch" then some .webFetch
  else if toolName = "web.search" then some .webSearch
  else none

/-- A call of an executor. -/
structure ExecutorCall where
  executor : CoreExecutor
  request : ToolCoreRequest
  config : ToolRuntimeConfig

def executeDiscoverableToolCoreWithConfig (request : ToolCoreRequest)
    (config : ToolRuntimeConfig) : Except String ExecutorCall :=
  match discoverableExecutor request.toolName with
  | some executor => .ok { executor, request, config }
  | none => .error ("tool_not_found: unknown tool `" ++ request.toolName ++ "`")

/-- Every core tool other than the two that look tools up has an executor. -/
theorem discoverableExecutor_of_resolve {raw : String} {resolved : ResolvedToolExecution}
    (found : resolveToolExecution raw = some resolved) (isCore : resolved.executionKind = .core)
    (own : resolved.canonicalName ∉ ["tool.search", "tool.invoke"]) :
    ∃ executor, discoverableExecutor resolved.canonicalName = some executor := by
  have catalogTools : ∀ descriptor, descriptor ∈ toolCatalog ->
      descriptor.executionKind = .core -> descriptor.name ∉ ["tool.search", "tool.invoke"] ->
        (discoverableExecutor descriptor.name).isSome = true := by decide +kernel
  have feishuTools : ∀ pair, pair ∈ feishuToolAliasPairs ->
      (discoverableExecutor pair.1).isSome = true := by decide +kernel
  apply Option.isSome_iff_exists.mp
  rcases resolveToolExecution_cases found with ⟨descriptor, member, rfl⟩ | ⟨pair, member, rfl⟩
  · exact catalogTools descriptor member isCore own
  · exact feishuTools pair member

theorem discoverableExecutor_of_feishu {raw : String} {resolved : ResolvedToolExecution}
    (found : resolveToolExecution raw = some resolved)
    (isFeishu : Text.startsWith resolved.canonicalName "feishu." = true) :
    discoverableExecutor resolved.canonicalName = some .feishu := by
  have feishuTools : ∀ pair, pair ∈ feishuToolAliasPairs ->
      discoverableExecutor pair.1 = some .feishu := by decide +kernel
  rcases resolveToolExecution_cases found with ⟨descriptor, member, rfl⟩ | ⟨pair, member, rfl⟩
  · rw [(toolCatalog_entry descriptor member).2.1] at isFeishu
    cases isFeishu
  · exact feishuTools pair member

/-! ## Unwrapping an invocation -/

/-- The entries of the outer context win over those in the arguments. -/
def mergeContexts (existing : Option Json) (trusted : OrderedMap String Json) :
    Except String (OrderedMap String Json) :=
  match existing with
  | none => .ok trusted
  | some (.object entries) => .ok (extend entries trusted)
  | some _ =>
    .error ("tool.invoke payload.arguments." ++ internalToolContextKey ++ " must be an object")

def mergeTrustedInternalToolContextIntoArguments (arguments : OrderedMap String Json)
    (internalContext : Json) : Except String (OrderedMap String Json) := do
  let trusted <- okOr internalContext.asObject
    ("tool.invoke payload." ++ internalToolContextKey ++ " must be an object")
  let merged <- mergeContexts (arguments.lookup internalToolContextKey) trusted
  .ok (insert internalToolContextKey (.object merged) (arguments.erase internalToolContextKey))

/-- The arguments of the inner request, an empty object by default. -/
def invokeArguments (payload : OrderedMap String Json) :
    Except String (OrderedMap String Json) := do
  let arguments <- okOr ((payload.lookup "arguments").getD (.object [])).asObject
    "tool.invoke payload.arguments must be an object"
  match payload.lookup internalToolContextKey with
  | none => .ok arguments
  | some internalContext => mergeTrustedInternalToolContextIntoArguments arguments internalContext

/-- A tool that the provider sees is called by its own name only. -/
def refuseProviderExposed : Except String Unit :=
  if isProviderExposedToolName toolName then
    .error ("tool_not_provider_exposed: " ++ toolName ++ " must be called directly as a core tool")
  else .ok ()

def requireToolInvoke : Except String Unit :=
  if canonicalToolName toolName ≠ "tool.invoke" then
    .error ("tool_invoke_required: expected `tool.invoke`, got `" ++ toolName ++ "`")
  else .ok ()

/-! ## What becomes of the context -/

/-- What the arguments have under the reserved key. -/
def argumentsContext (payload : OrderedMap String Json) : Option Json :=
  (payload.lookup "arguments").bind (Json.get internalToolContextKey)

/-- The value under a key of the merged context. -/
def mergedEntry (outer inner : Option Json) (key : String) : Option Json :=
  (outer.bind (Json.get key)).or (inner.bind (Json.get key))

variable {existing : Option Json} {arguments result : OrderedMap String Json} {context : Json}
  {payload : OrderedMap String Json}

variable {key : String}

theorem getD_object_get {arguments : Option Json} :
    (arguments.getD (.object [])).get key = arguments.bind (Json.get key) := by
  cases arguments with
  | none | some => rfl

section

variable (accepted : invokeArguments payload = .ok result)

include accepted

/-- Without an outer context the arguments keep what they have. -/
theorem invokeArguments_without_context (absent : payload.lookup internalToolContextKey = none) :
    result.lookup internalToolContextKey = argumentsContext payload := by
  rcases bind_eq_ok_iff.mp accepted with ⟨arguments, isObject, later⟩
  have argumentsObject := Json.asObject_eq_some.mp (okOr_eq_ok_iff.mp isObject)
  simp only [absent] at later
  rw [<- Except.ok.inj later]
  unfold argumentsContext
  rw [<- getD_object_get, argumentsObject, Json.get_object]

theorem invokeArguments_with_context
    (present : payload.lookup internalToolContextKey = some context) :
    ∃ merged : OrderedMap String Json,
      result.lookup internalToolContextKey = some (.object merged) /\
      ∀ key, merged.lookup key = mergedEntry (some context) (argumentsContext payload) key := by
  rcases bind_eq_ok_iff.mp accepted with ⟨arguments, isObject, later⟩
  have argumentsObject := Json.asObject_eq_some.mp (okOr_eq_ok_iff.mp isObject)
  simp only [present] at later
  have same : arguments.lookup internalToolContextKey = argumentsContext payload := by
    unfold argumentsContext
    rw [<- getD_object_get, argumentsObject, Json.get_object]
  rw [<- same]
  rcases bind_eq_ok_iff.mp later with ⟨trusted, isObject, rest⟩
  rcases bind_eq_ok_iff.mp rest with ⟨merged, combined, inserted⟩
  have trustedObject : context = .object trusted :=
    Json.asObject_eq_some.mp (okOr_eq_ok_iff.mp isObject)
  refine ⟨merged, ?_, ?_⟩
  · rw [<- Except.ok.inj inserted, lookup_insert_self]
  · intro key
    rw [trustedObject]
    generalize arguments.lookup internalToolContextKey = existing at combined ⊢
    unfold mergeContexts at combined
    split at combined
    · rw [<- Except.ok.inj combined]
      simp [mergedEntry]
    · rw [<- Except.ok.inj combined, lookup_extend]
      rfl
    · injection combined

theorem invokeArguments_others (different : key ≠ internalToolContextKey) :
    result.lookup key = (payload.lookup "arguments").bind (Json.get key) := by
  rcases bind_eq_ok_iff.mp accepted with ⟨arguments, isObject, later⟩
  rw [<- getD_object_get, Json.asObject_eq_some.mp (okOr_eq_ok_iff.mp isObject), Json.get_object]
  split at later
  · rw [Except.ok.inj later]
  · rcases bind_eq_ok_iff.mp later with ⟨_, _, later⟩
    rcases bind_eq_ok_iff.mp later with ⟨merged, _, inserted⟩
    rw [<- Except.ok.inj inserted, lookup_insert_of_ne different, lookup_erase_of_ne different]

/-- The entries of the context that the inner request is given. -/
theorem invokeArguments_entry (key : String) :
    (result.lookup internalToolContextKey).bind (Json.get key) =
      mergedEntry (payload.lookup internalToolContextKey) (argumentsContext payload) key := by
  cases context : payload.lookup internalToolContextKey with
  | none =>
    rw [invokeArguments_without_context accepted context]
    rfl
  | some value =>
    rcases invokeArguments_with_context accepted context with ⟨merged, isMerged, entries⟩
    rw [isMerged]
    exact entries key

end

/-- A context, if there is one, is an object. -/
def ObjectContext (context : Option Json) : Prop :=
  ∀ value, context = some value -> ∃ entries, value = .object entries

theorem mergeContexts_exists (isObject : ObjectContext existing)
    (trusted : OrderedMap String Json) :
    ∃ merged, mergeContexts existing trusted = .ok merged := by
  cases existing with
  | none => exact ⟨trusted, rfl⟩
  | some value =>
    rcases isObject value rfl with ⟨entries, rfl⟩
    exact ⟨_, rfl⟩

/-- Objects at both places are merged without error. -/
theorem invokeArguments_exists
    (isObject : (payload.lookup "arguments").getD (.object []) = .object arguments)
    (outer : ObjectContext (payload.lookup internalToolContextKey))
    (inner : ObjectContext (argumentsContext payload)) :
    ∃ result, invokeArguments payload = .ok result := by
  have innerContext : arguments.lookup internalToolContextKey = argumentsContext payload := by
    unfold argumentsContext
    rw [<- getD_object_get, isObject, Json.get_object]
  unfold invokeArguments
  rw [isObject, Json.asObject_object]
  cases context : payload.lookup internalToolContextKey with
  | none => exact ⟨arguments, rfl⟩
  | some value =>
    rcases outer value context with ⟨entries, rfl⟩
    rw [<- innerContext] at inner
    rcases mergeContexts_exists inner entries with ⟨merged, isMerged⟩
    simp only [mergeTrustedInternalToolContextIntoArguments, Json.asObject_object, okOr,
      bind, Except.bind, isMerged]
    exact ⟨_, rfl⟩

section Scheme

variable {Bytes : Type} (scheme : LeaseScheme Bytes) (moment : LeaseMoment)

def resolveToolInvokeRequest (request : ToolCoreRequest) :
    Except String (ResolvedToolExecution × ToolCoreRequest) := do
  requireToolInvoke request.toolName
  let payload <- okOr request.payload.asObject "tool.invoke payload must be an object"
  let toolId <- okOr (((payload.lookup "tool_id").bind Json.asStr).map canonicalToolName)
    "tool.invoke requires payload.tool_id"
  let lease <- okOr ((payload.lookup "lease").bind Json.asStr) "tool.invoke requires payload.lease"
  let arguments <- invokeArguments payload
  let resolved <- okOr (resolveToolExecution toolId)
    ("tool_not_found: unknown tool `" ++ toolId ++ "`")
  refuseProviderExposed resolved.canonicalName
  validateToolLease scheme moment resolved.canonicalName lease payload
  .ok (resolved, { toolName := resolved.canonicalName, payload := .object arguments })

/-- The payload names a hidden tool and has a valid lease for it. -/
structure AcceptedInvoke (payload : OrderedMap String Json) (resolved : ResolvedToolExecution) :
    Prop where
  tool : (((payload.lookup "tool_id").bind Json.asStr).map canonicalToolName).bind
      resolveToolExecution = some resolved
  hidden : isProviderExposedToolName resolved.canonicalName = false
  leased : ∃ lease, (payload.lookup "lease").bind Json.asStr = some lease /\
    validateToolLease scheme moment resolved.canonicalName lease payload = .ok ()

theorem refuseProviderExposed_ok_iff :
    refuseProviderExposed toolName = .ok () ↔ isProviderExposedToolName toolName = false := by
  unfold refuseProviderExposed
  cases exposed : isProviderExposedToolName toolName <;> simp

variable {scheme moment} {payload : OrderedMap String Json} {resolved : ResolvedToolExecution}

theorem resolveToolInvokeRequest_ok_iff {request inner : ToolCoreRequest}
    (isInvoke : canonicalToolName request.toolName = "tool.invoke")
    (isObject : request.payload = .object payload) :
    resolveToolInvokeRequest scheme moment request = .ok (resolved, inner) ↔
      AcceptedInvoke scheme moment payload resolved /\
        ∃ arguments, invokeArguments payload = .ok arguments /\
          inner = { toolName := resolved.canonicalName, payload := .object arguments } := by
  have invoke : requireToolInvoke request.toolName = .ok () := by
    unfold requireToolInvoke
    rw [if_neg (not_not.mpr isInvoke)]
  constructor
  · intro accepted
    rcases bind_eq_ok_iff.mp accepted with ⟨⟨⟩, _, accepted⟩
    rcases bind_eq_ok_iff.mp accepted with ⟨fields, fieldsFound, accepted⟩
    rcases bind_eq_ok_iff.mp accepted with ⟨toolId, toolFound, accepted⟩
    rcases bind_eq_ok_iff.mp accepted with ⟨lease, leaseFound, accepted⟩
    rcases bind_eq_ok_iff.mp accepted with ⟨arguments, argumentsFound, accepted⟩
    rcases bind_eq_ok_iff.mp accepted with ⟨found, resolves, accepted⟩
    rcases bind_eq_ok_iff.mp accepted with ⟨⟨⟩, hidden, accepted⟩
    rcases bind_eq_ok_iff.mp accepted with ⟨⟨⟩, valid, returned⟩
    rcases Prod.mk.inj (Except.ok.inj returned) with ⟨rfl, rfl⟩
    rw [isObject] at fieldsFound
    cases Option.some.inj (okOr_eq_ok_iff.mp fieldsFound)
    refine ⟨⟨?_, ?_, lease, ?_, valid⟩, arguments, argumentsFound, rfl⟩
    · rw [okOr_eq_ok_iff.mp toolFound]
      exact okOr_eq_ok_iff.mp resolves
    · exact (refuseProviderExposed_ok_iff _).mp hidden
    · exact okOr_eq_ok_iff.mp leaseFound
  · rintro ⟨accepted, arguments, argumentsFound, rfl⟩
    rcases Option.bind_eq_some_iff.mp accepted.tool with ⟨toolId, toolFound, resolves⟩
    rcases accepted.leased with ⟨lease, leaseFound, valid⟩
    have hidden := (refuseProviderExposed_ok_iff _).mpr accepted.hidden
    unfold resolveToolInvokeRequest
    rw [invoke, isObject, Json.asObject_object]
    simp only [bind, Except.bind, okOr, toolFound, leaseFound, argumentsFound, resolves,
      hidden, valid]

/-- The fields of an invocation that decide whether it is accepted. -/
def invokeDecisionKeys : List String :=
  ["tool_id", "lease", toolLeaseTokenIdField, toolLeaseSessionIdField, toolLeaseTurnIdField]

theorem resolveToolInvokeRequest_isInvoke {request : ToolCoreRequest}
    {result : ResolvedToolExecution × ToolCoreRequest}
    (resolves : resolveToolInvokeRequest scheme moment request = .ok result) :
    canonicalToolName request.toolName = "tool.invoke" /\
      ∃ fields : OrderedMap String Json, request.payload = .object fields := by
  rcases bind_eq_ok_iff.mp resolves with ⟨⟨⟩, required, resolves⟩
  rcases bind_eq_ok_iff.mp resolves with ⟨fields, isObject, _⟩
  refine ⟨?_, fields, Json.asObject_eq_some.mp (okOr_eq_ok_iff.mp isObject)⟩
  by_contra notInvoke
  rw [requireToolInvoke, if_pos notInvoke] at required
  injection required

theorem AcceptedInvoke.of_same_fields {other : OrderedMap String Json}
    (same : ∀ key, key ∈ invokeDecisionKeys -> other.lookup key = payload.lookup key)
    (accepted : AcceptedInvoke scheme moment payload resolved) :
    AcceptedInvoke scheme moment other resolved := by
  have binding : extractToolLeaseBinding other = extractToolLeaseBinding payload := by
    unfold extractToolLeaseBinding
    rw [same toolLeaseTokenIdField (by decide), same toolLeaseSessionIdField (by decide),
      same toolLeaseTurnIdField (by decide)]
  rcases accepted.leased with ⟨lease, leaseFound, valid⟩
  refine ⟨?_, accepted.hidden, lease, ?_, ?_⟩
  · rw [same "tool_id" (by decide)]
    exact accepted.tool
  · rw [same "lease" (by decide)]
    exact leaseFound
  · rw [validateToolLease_congr scheme moment _ binding]
    exact valid

variable (scheme moment)

def executeToolInvokeToolWithConfig (request : ToolCoreRequest) (config : ToolRuntimeConfig) :
    Except String ExecutorCall := do
  let (entry, effectiveRequest) <- resolveToolInvokeRequest scheme moment request
  match entry.executionKind with
  | .core => executeDiscoverableToolCoreWithConfig effectiveRequest config
  | .app => .error ("tool_requires_app_dispatcher: " ++ entry.canonicalName)

end Scheme

/-! ## The reserved field -/

def payloadUsesReservedInternalToolContext (payload : Json) : Bool :=
  payload.asObject.any (contains internalToolContextKey)

def reservedInternalToolContextError : String :=
  "tool `" ++ toolName ++ "` payload." ++ internalToolContextKey ++
    " is reserved for trusted internal tool context; retry without that field"

/-- What core execution depends on besides the request and its configuration:
the lease scheme with its clock, and the JSON form of a narrowing. -/
structure ToolRuntime (Bytes : Type) where
  scheme : LeaseScheme Bytes
  moment : LeaseMoment
  narrowingJson : Codec ToolRuntimeNarrowing Json String

section Runtime

variable {Bytes : Type} (runtime : ToolRuntime Bytes)

def trustedRuntimeNarrowingFromPayload (trusted : Bool) (payload : Json) :
    Except String (Option ToolRuntimeNarrowing) :=
  if trusted then
    match (payload.get internalToolContextKey).bind (Json.get internalRuntimeNarrowingKey) with
    | none => .ok none
    | some value =>
      match runtime.narrowingJson.decode value with
      | .ok narrowing => .ok (some narrowing)
      | .error error => .error ("invalid_internal_runtime_narrowing: " ++ error)
  else .ok none

/-- The configuration in force: a trusted narrowing applies to it. -/
def effectiveConfig (config : ToolRuntimeConfig) (narrowing : Option ToolRuntimeNarrowing) :
    ToolRuntimeConfig :=
  match narrowing with
  | none => config
  | some narrowing => config.narrowed narrowing

def executeToolCoreWithConfig (trusted : Bool) (request : ToolCoreRequest)
    (config : ToolRuntimeConfig) : Except String ExecutorCall :=
  if !trusted && payloadUsesReservedInternalToolContext request.payload then
    .error (reservedInternalToolContextError request.toolName)
  else do
    let canonicalName := canonicalToolName request.toolName
    let request := { request with toolName := canonicalName }
    let narrowing <- trustedRuntimeNarrowingFromPayload runtime trusted request.payload
    let config := effectiveConfig config narrowing
    if canonicalName = "tool.search" then
      .ok { executor := .toolSearch, request, config }
    else if canonicalName = "tool.invoke" then
      executeToolInvokeToolWithConfig runtime.scheme runtime.moment request config
    else executeDiscoverableToolCoreWithConfig request config

end Runtime

/-! ## Successful execution -/

theorem executeDiscoverable_ok {request : ToolCoreRequest} {config : ToolRuntimeConfig}
    {call : ExecutorCall}
    (executed : executeDiscoverableToolCoreWithConfig request config = .ok call) :
    call.request = request /\ discoverableExecutor request.toolName = some call.executor := by
  unfold executeDiscoverableToolCoreWithConfig at executed
  split at executed
  · rename_i executor selects
    rw [<- Except.ok.inj executed]
    exact ⟨rfl, selects⟩
  · injection executed

section Runtime

variable {Bytes : Type} {runtime : ToolRuntime Bytes} {request : ToolCoreRequest}

/-- An invocation reaches the executor of the tool inside it. -/
theorem executeToolInvoke_ok {config : ToolRuntimeConfig} {call : ExecutorCall} (executed :
      executeToolInvokeToolWithConfig runtime.scheme runtime.moment request config = .ok call) :
    discoverableExecutor call.request.toolName = some call.executor /\ ∃ entry,
        resolveToolInvokeRequest runtime.scheme runtime.moment request =
          .ok (entry, call.request) /\
          entry.executionKind = .core := by
  rcases bind_eq_ok_iff.mp executed with ⟨⟨entry, inner⟩, resolves, executes⟩
  cases kind : entry.executionKind with
  | core =>
    simp only [kind] at executes
    rcases executeDiscoverable_ok executes with ⟨rfl, selects⟩
    exact ⟨selects, entry, resolves, kind⟩
  | app =>
    simp only [kind] at executes
    injection executes

/-- The executor is given the request under its canonical name, or the one inside
an invocation. -/
theorem executeToolCore_ok {trusted : Bool} {config : ToolRuntimeConfig} {call : ExecutorCall}
    (executed : executeToolCoreWithConfig runtime trusted request config = .ok call) :
    let named := { request with toolName := canonicalToolName request.toolName }
    (named.toolName ≠ "tool.invoke" /\ call.request = named) \/
      (named.toolName = "tool.invoke" /\
        discoverableExecutor call.request.toolName = some call.executor /\ ∃ entry,
        resolveToolInvokeRequest runtime.scheme runtime.moment named = .ok (entry, call.request) /\
          entry.executionKind = .core) := by
  unfold executeToolCoreWithConfig at executed
  split at executed
  · injection executed
  rcases bind_eq_ok_iff.mp executed with ⟨narrowing, _, dispatched⟩
  dsimp only at dispatched ⊢
  by_cases isInvoke : canonicalToolName request.toolName = "tool.invoke"
  · rw [if_neg (by rw [isInvoke]; decide), if_pos isInvoke] at dispatched
    exact Or.inr ⟨isInvoke, executeToolInvoke_ok dispatched⟩
  · refine Or.inl ⟨isInvoke, ?_⟩
    rw [if_neg isInvoke] at dispatched
    split at dispatched
    · rw [<- Except.ok.inj dispatched]
    · exact (executeDiscoverable_ok dispatched).1

/-- Without the trusted flag the reserved field is refused. -/
theorem executeToolCore_refuses_reserved
    (reserved : payloadUsesReservedInternalToolContext request.payload = true)
    (config : ToolRuntimeConfig) :
    executeToolCoreWithConfig runtime false request config =
      .error (reservedInternalToolContextError request.toolName) := by
  unfold executeToolCoreWithConfig
  rw [reserved]
  rfl

theorem payloadUsesReserved_eq {payload : Json} : payloadUsesReservedInternalToolContext payload =
      (payload.get internalToolContextKey).isSome := by
  cases payload with
  | object fields => rfl
  | _ => rfl

end Runtime

end LoongClaw.Tools
