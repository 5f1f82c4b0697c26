import LoongClaw.Conversation.GovernedTurn

namespace LoongClaw.Conversation

open Foundation Contracts Tools Session Program Fallible SessionRepository Machine NarrowingSample

/-!
# What the deny list keeps from running

A governed tool on the deny list is never run if the approval mode looks at
its risk, the allow list does not name it, and no stored request for it waits
for an approval.  In all other cases there is a turn that runs it.
-/

/-! ## Runs of turns -/

section Turns

variable {Bytes : Type} {runtime : ToolRuntime Bytes} {config : ToolRuntimeConfig}
  {digest : List UInt8 -> List UInt8} {approval : GovernedToolApprovalConfig}
  {descriptor : ToolDescriptor}

section Runs

variable (runtime config digest approval)

/-- Execute a turn under the given circumstances. -/
def performTurn (store : Store) (turn : GovernedTurn × List Circumstance) : Store :=
  (perform (executeTurn runtime config digest approval turn.1) (turn.2, store)).2.2

/-- The store after a run of turns, from a repository and before any tool. -/
def storeAfter (repository : SessionRepository) (turns : List (GovernedTurn × List Circumstance)) :
    Store :=
  run (performTurn runtime config digest approval) ⟨repository, []⟩ turns

end Runs

/-- The request is a call of the tool. -/
def CallOf (descriptor : ToolDescriptor) (request : ToolCoreRequest) : Prop :=
  canonicalToolName request.toolName = descriptor.name

/-- The tool is one of those that the approval policy is about. -/
structure GovernedTool (descriptor : ToolDescriptor) : Prop where
  known : descriptor ∈ toolCatalog
  isApp : descriptor.executionKind = .app
  policyDriven : (governanceProfileForDescriptor descriptor).approvalMode = .policyDriven

theorem approvalPolicy_governed (governed : GovernedTool descriptor) :
    approvalPolicy approval descriptor =
      if !requiresApproval approval.mode (governanceProfileForDescriptor descriptor).riskClass then
        .ok false
      else if approval.approvedCalls.contains (approvalKey descriptor) then .ok false
      else if approval.deniedCalls.contains (approvalKey descriptor) then
        .error ("app_tool_denied: governed tool `" ++ approvalKey descriptor ++
          "` is denied by approval policy")
      else .ok true := by
  unfold approvalPolicy
  rw [if_neg]
  rw [governed.isApp, governed.policyDriven]
  decide

theorem withheld_of_denied (governed : GovernedTool descriptor)
    (required : requiresApproval approval.mode
      (governanceProfileForDescriptor descriptor).riskClass = true)
    (notApproved : approvalKey descriptor ∉ approval.approvedCalls)
    (denied : approvalKey descriptor ∈ approval.deniedCalls) :
    Withheld approval (CallOf descriptor) := by
  intro toolName payload other isCall resolved
  have named : other.name = descriptor.name :=
    (canonicalToolName_of_resolve resolved).symm.trans isCall
  have same : other = descriptor := by
    have byName := resolve_name (mem_of_resolve resolved)
    rw [named, resolve_name governed.known] at byName
    exact (Option.some.inj byName).symm
  rw [same, approvalPolicy_governed governed, required]
  simp only [Bool.not_true, Bool.false_eq_true, if_false, List.contains_eq_mem, notApproved,
    decide_false, denied, decide_true, if_true]
  exact ⟨_, rfl⟩

/-! ## A turn that runs a tool -/

/-- A hidden app tool, under its own name. -/
structure HiddenAppTool (descriptor : ToolDescriptor) : Prop where
  known : descriptor ∈ toolCatalog
  isApp : descriptor.executionKind = .app

namespace HiddenAppTool

variable (tool : HiddenAppTool descriptor)

include tool

theorem resolves : resolveToolExecution descriptor.name = some ⟨descriptor.name, .app⟩ := by
  unfold resolveToolExecution
  rw [resolve_name tool.known, <- tool.isApp]

theorem canonical : canonicalToolName descriptor.name = descriptor.name :=
  canonicalToolName_of_resolve (resolve_name tool.known)

theorem notExposed : isProviderExposedToolName descriptor.name = false := by
  have hidden : ∀ descriptor, descriptor ∈ toolCatalog -> descriptor.executionKind = .app ->
      descriptor.exposure ≠ .providerCore := by decide
  unfold isProviderExposedToolName
  rw [tool.canonical, resolve_name tool.known, Option.any_some]
  exact decide_eq_false (hidden descriptor tool.known tool.isApp)

end HiddenAppTool

section Invocation

variable (runtime)

/-- The start of the clock, with the catalog of the runtime. -/
def earliestMoment : LeaseMoment where
  toolCatalogDigest := runtime.moment.toolCatalogDigest
  nowUnixSeconds := 0

variable (toolId : String) (arguments : Json)

/-- An invocation with a lease that is bound to nothing. -/
def leasedPayload : OrderedMap String Json :=
  [ ("arguments", arguments),
    ("lease", .string (runtime.scheme.lease ⟨earliestMoment runtime, toolId, []⟩)),
    ("tool_id", .string toolId) ]

def leasedCall : ToolCallIntent where
  toolName := "tool.invoke"
  argsJson := .object (leasedPayload runtime toolId arguments)
  source := "provider_tool_call"
  turnId := "turn"
  toolCallId := "call"

/-- A turn of a root session with one call, in which nobody objects. -/
def leasedTurn (sessionId toolId : String) (arguments : Json) : GovernedTurn where
  session := { sessionId, runtimeNarrowing := none, parentSessionId := none }
  ingress := none
  moment := earliestMoment runtime
  environment := .permissive
  refuses _ := none
  maxToolSteps := 1
  sessionTools := { enabled := true, visibility := .selfOnly }
  intents := [leasedCall runtime toolId arguments]

theorem leasedPayload_accepted (tool : HiddenAppTool descriptor) {arguments : Json} :
    AcceptedInvoke runtime.scheme (earliestMoment runtime)
      (leasedPayload runtime descriptor.name arguments) ⟨descriptor.name, .app⟩ := by
  refine ⟨?_, tool.notExposed, _, rfl, ?_⟩
  · change resolveToolExecution (canonicalToolName descriptor.name) = _
    rw [tool.canonical, tool.resolves]
  · have fresh : (0 : UInt64) < Kernel.saturatingAdd 0 toolLeaseTtlSeconds := by decide
    exact (runtime.scheme.validateToolLease_lease_ok_iff _ _ _ _).mpr
      ⟨rfl, rfl, fresh, nofun, nofun, nofun⟩

theorem invokeArguments_leasedPayload {arguments : OrderedMap String Json} :
    invokeArguments (leasedPayload runtime toolId (.object arguments)) = .ok arguments := rfl

/-- The arguments with the browser scope, for the tools that get one. -/
def scopedArguments (sessionId toolId : String) (arguments : OrderedMap String Json) :
    OrderedMap String Json :=
  if browserScopeInjectionRequired toolId then
    OrderedMap.insert browserSessionScopeField (.string sessionId) arguments
  else arguments

theorem augment_leasedPayload (tool : HiddenAppTool descriptor) (sessionId : String)
    (arguments : OrderedMap String Json) :
    augmentToolPayloadForKernel runtime "tool.invoke"
        (.object (leasedPayload runtime descriptor.name (.object arguments))) ⟨sessionId, none⟩ =
      .object (leasedPayload runtime descriptor.name
        (.object (scopedArguments sessionId descriptor.name arguments))) := by
  have invoked : invokedToolName
      (.object (leasedPayload runtime descriptor.name (.object arguments))) =
        some descriptor.name := by
    change some (canonicalToolName descriptor.name) = _
    rw [tool.canonical]
  have notBrowser : browserScopeInjectionRequired "tool.invoke" = false := by decide
  have unnarrowed : injectRuntimeNarrowingContext runtime
      (.object (leasedPayload runtime descriptor.name (.object arguments))) ⟨sessionId, none⟩ =
        .object (leasedPayload runtime descriptor.name (.object arguments)) := rfl
  unfold augmentToolPayloadForKernel scopedArguments
  simp only [unnarrowed, notBrowser, Bool.false_eq_true, if_false, decide_true, Bool.true_and,
    invoked, Option.any_some]
  split
  · have ordered : "arguments" < "lease" := by decide
    have different : "lease" ≠ "arguments" := by decide
    have erased : OrderedMap.erase "arguments"
        (leasedPayload runtime descriptor.name (.object arguments)) =
          (leasedPayload runtime descriptor.name (.object arguments)).tail := rfl
    change Json.object (OrderedMap.insert "arguments" _ (OrderedMap.erase "arguments"
      (leasedPayload runtime descriptor.name (.object arguments)))) = _
    rw [erased, leasedPayload, List.tail_cons, OrderedMap.insert, if_neg different, if_pos ordered]
    rfl
  · rfl

/-- The invocation is unwrapped to a call of the tool. -/
theorem effective_leasedCall (tool : HiddenAppTool descriptor) (sessionId : String)
    (arguments : OrderedMap String Json) : let scopedRequest : ToolCoreRequest :=
      ⟨descriptor.name, .object (scopedArguments sessionId descriptor.name arguments)⟩
    effectiveToolIntent { runtime with moment := earliestMoment runtime } ⟨"tool.invoke", .core⟩
        (internalRequest { runtime with moment := earliestMoment runtime } ⟨sessionId, none⟩ none
          "tool.invoke" (leasedCall runtime descriptor.name (.object arguments)).argsJson).1
        (leasedCall runtime descriptor.name (.object arguments)).toToolIntent =
      ⟨.app, scopedRequest, ⟨scopedRequest.toolName, scopedRequest.payload⟩⟩ := by
  have request : (internalRequest { runtime with moment := earliestMoment runtime }
      ⟨sessionId, none⟩ none "tool.invoke"
        (leasedCall runtime descriptor.name (.object arguments)).argsJson).1 =
      ⟨"tool.invoke", .object (leasedPayload runtime descriptor.name
        (.object (scopedArguments sessionId descriptor.name arguments)))⟩ := by
    rw [<- augment_leasedPayload runtime tool]
    rfl
  have unwrapped : resolveToolInvokeRequest runtime.scheme (earliestMoment runtime)
      ⟨"tool.invoke", .object (leasedPayload runtime descriptor.name
        (.object (scopedArguments sessionId descriptor.name arguments)))⟩ =
      .ok (⟨descriptor.name, .app⟩,
        ⟨descriptor.name, .object (scopedArguments sessionId descriptor.name arguments)⟩) :=
    (resolveToolInvokeRequest_ok_iff
      canonicalToolName_invoke rfl).mpr
      ⟨leasedPayload_accepted runtime tool, _, invokeArguments_leasedPayload runtime _, rfl⟩
  rw [request]
  unfold effectiveToolIntent
  rw [if_pos rfl]
  dsimp only
  rw [unwrapped]
  rfl

end Invocation

section Execution

variable (runtime config digest)

/-- The call of a tool that needs no approval is prepared as it is. -/
theorem prepareGoverned_leased (tool : HiddenAppTool descriptor)
    (free : approvalPolicy approval descriptor = .ok false) (sessionId : String)
    (arguments : OrderedMap String Json) :
    prepareGoverned runtime digest approval
        (leasedTurn runtime sessionId descriptor.name (.object arguments))
        (leasedCall runtime descriptor.name (.object arguments)) =
      pure
        { request :=
            ⟨descriptor.name, .object (scopedArguments sessionId descriptor.name arguments)⟩
          executionKind := .app
          trustedInternalContext := false } := by
  have found : resolveToolExecution
      (leasedCall runtime descriptor.name (.object arguments)).toolName =
        some ⟨"tool.invoke", .core⟩ := by
    change resolveToolExecution "tool.invoke" = _
    decide +kernel
  have effective := effective_leasedCall runtime tool sessionId arguments
  unfold prepareGoverned leasedTurn
  rw [found, okOr, lift_ok_bind]
  dsimp only at effective ⊢
  rw [effective]
  dsimp only
  rw [resolve_name tool.known, okOr, lift_ok_bind]
  have unhindered : ∀ session intent,
      maybeRequireApproval digest approval session intent descriptor = pure none := by
    intro session intent
    unfold maybeRequireApproval
    rw [free]
    rfl
  unfold requireApproved
  dsimp only
  rw [unhindered]
  rfl

theorem validateTurn_leased {sessionId toolId : String} {arguments : Json} :
    validateTurn (leasedTurn runtime sessionId toolId arguments) = .ok () := by
  have found : (resolveToolExecution "tool.invoke").isSome = true := by decide +kernel
  have described : (ToolCatalog.resolve "tool.invoke").map (fun descriptor => descriptor.name) =
      some "tool.invoke" := by decide +kernel
  rcases Option.isSome_iff_exists.mp found with ⟨resolved, isResolved⟩
  rcases Option.map_eq_some_iff.mp described with ⟨invoke, isInvoke, named⟩
  have accepted : validateToolIntent (fun _ => none)
      (leasedCall runtime toolId arguments).toToolIntent = .ok () := by
    unfold validateToolIntent leasedCall
    dsimp only
    rw [isResolved, isInvoke]
    dsimp only [okOr, bind, Except.bind]
    rw [if_pos (Or.inl named)]
  unfold validateTurn leasedTurn
  rw [if_neg (by simp)]
  unfold validateToolIntents
  rw [accepted]
  rfl

section

variable (tool : HiddenAppTool descriptor) (free : approvalPolicy approval descriptor = .ok false)

include tool free

theorem executeTurn_leased (sessionId : String) (arguments : OrderedMap String Json) :
    executeTurn runtime config digest approval
        (leasedTurn runtime sessionId descriptor.name (.object arguments)) =
      (dispatchAppTool ⟨⟨sessionId, none⟩, none⟩ ⟨true, .selfOnly⟩
        ⟨descriptor.name, .object (scopedArguments sessionId descriptor.name arguments)⟩).mapError
          appToolRefusal >>= fun _ => pure () := by
  have validated : (validateTurn (leasedTurn runtime sessionId descriptor.name
      (.object arguments))).mapError TurnResult.toolDenied = .ok () := by
    rw [validateTurn_leased]
    rfl
  have intents : (leasedTurn runtime sessionId descriptor.name (.object arguments)).intents =
      [leasedCall runtime descriptor.name (.object arguments)] := rfl
  unfold executeTurn
  rw [validated, lift_ok_bind, intents, prepareAll, prepareGoverned_leased runtime digest tool free]
  rfl

/-- A tool that needs no approval is run by a turn. -/
theorem ran_leased (notResolve : descriptor.name ≠ "approval_request_resolve")
    {repository : SessionRepository} :
    ∃ turn request,
      request ∈ (storeAfter runtime config digest approval repository [(turn, [])]).ranTools /\
        CallOf descriptor request := by
  refine ⟨leasedTurn runtime "session" descriptor.name (.object []),
    ⟨descriptor.name, .object (scopedArguments "session" descriptor.name [])⟩, ?_, tool.canonical⟩
  unfold storeAfter
  rw [run_cons, run_nil, performTurn, executeTurn_leased runtime config digest tool free]
  unfold dispatchAppTool
  rw [if_neg (by rw [tool.canonical]; exact notResolve)]
  exact List.mem_singleton.mpr rfl

end

end Execution

/-! ## A turn that approves a stored request -/

section Approval

/-- The store with another row for a request. -/
def storeRow (key : String) (row : ApprovalRequestRecord) (store : Store) : Store :=
  { store with
    repository :=
      { store.repository with
        approvalRequests := OrderedMap.insert key row store.repository.approvalRequests } }

theorem rowOf_storeRow {key : String} (row : ApprovalRequestRecord) (store : Store) :
    rowOf key (storeRow key row store) = some row :=
  OrderedMap.lookup_insert_self

variable {key : String} {row : ApprovalRequestRecord} {store : Store}

section

variable (trimmed : Text.trim key = key) (nonempty : key ≠ "")

include trimmed nonempty

theorem normalizeRequiredText_trimmed (fieldName : String) :
    normalizeRequiredText key fieldName = .ok key := by
  unfold normalizeRequiredText
  rw [trimmed, if_neg nonempty]

theorem perform_loadApprovalRequest (stored : rowOf key store = some row) :
    perform (loadApprovalRequest key) ([], store) = (.ok (some row), ([], store)) := by
  unfold loadApprovalRequest
  rw [normalizeRequiredText_trimmed trimmed nonempty, lift_ok_bind, <- stored]
  rfl

theorem perform_loadTransitioned (stored : rowOf key store = some row) :
    perform (loadTransitioned key) ([], store) = (.ok row, ([], store)) := by
  unfold loadTransitioned
  rw [perform_bind_ok (perform_loadApprovalRequest trimmed nonempty stored)]
  rfl

end

/-- A conditional update of a request in the expected status. -/
theorem perform_transition (request : TransitionApprovalRequestIfCurrentRequest)
    (trimmed : Text.trim key = key) (nonempty : key ≠ "") (stored : rowOf key store = some row)
    (expected : row.status = request.expectedStatus) :
    perform (transitionApprovalRequestIfCurrent key request) ([], store) =
      (.ok (some (row.transitioned request)),
        ([], storeRow key (row.transitioned request) store)) := by
  have updates : perform (update (updateApprovalRequest key request))
      ([], store) = (.ok true, ([], storeRow key (row.transitioned request) store)) := by
    have hit : updateApprovalRequest key request store.repository =
        (true, (storeRow key (row.transitioned request) store).repository) := by
      rw [rowOf] at stored
      unfold updateApprovalRequest
      rw [stored]
      exact if_pos expected
    change ((Except.ok (updateApprovalRequest key request store.repository).1 :
      Except String Bool), (([] : List Circumstance), { store with
        repository :=
          (updateApprovalRequest key request store.repository).2 })) = _
    rw [hit]
    rfl
  unfold transitionApprovalRequestIfCurrent
  rw [normalizeRequiredText_trimmed trimmed nonempty, lift_ok_bind, perform_bind_ok updates]
  dsimp only
  rw [perform_bind_ok (perform_loadTransitioned trimmed nonempty
    (rowOf_storeRow (row.transitioned request) store))]
  rfl

theorem keepsRan_transition {approvalRequestId : String}
    {request : TransitionApprovalRequestIfCurrentRequest} :
    Keeps (fun store => store.ranTools)
      (transitionApprovalRequestIfCurrent approvalRequestId request) := by
  refine keeps_bind (keeps_lift _) fun _ => ?_
  refine keeps_bind keepsRan_update fun affected => ?_
  cases affected with
  | true =>
    refine keeps_bind ?_ fun _ => keeps_lift _
    exact keeps_bind keeps_loadApprovalRequest fun _ => keeps_lift _
  | false => exact keeps_lift _

theorem keepsRan_reportReplay {approvalRequestId : String} {replayed : Except String PlaneOutcome} :
    Keeps (fun store => store.ranTools) (reportReplay approvalRequestId replayed) := by
  cases replayed with
  | ok output =>
    refine keeps_bind keepsRan_transition fun _ => ?_
    exact keeps_bind (keeps_lift _) fun _ => keeps_lift _
  | error error => exact keeps_bind keepsRan_transition fun _ => keeps_lift _

variable {request : ToolCoreRequest}

/-- A tool that has been run stays so while nothing else is run. -/
theorem ran_bind {ε α β : Type} {program : Program Circumstance Store ε α}
    {next : α -> Program Circumstance Store ε β} {state : List Circumstance × Store}
    (ran : request ∈ (perform program state).2.2.ranTools)
    (keeps : ∀ value, Keeps (fun store => store.ranTools) (next value)) :
    request ∈ (perform (program >>= next) state).2.2.ranTools := by
  rw [perform_bind, Attempt.bind_apply]
  rcases ended : perform program state with ⟨result, choices, later⟩
  rw [ended] at ran
  cases result with
  | error error => exact ran
  | ok value =>
    have same := perform_of_ensures (keeps value later) choices
    dsimp only at same ⊢
    rw [same]
    exact ran

/-- The arguments that approve a request once. -/
def approvalArguments (key : String) : OrderedMap String Json :=
  [("approval_request_id", .string key), ("decision", .string "approve_once")]

theorem requiredPayloadString_of_get {payload : Json} {field value : String}
    (found : payload.get field = some (.string value)) (trimmed : Text.trim value = value)
    (nonempty : value ≠ "") : requiredPayloadString payload field = .ok value := by
  unfold requiredPayloadString
  rw [found, Option.bind_some, Json.asStr, Option.map_some, trimmed, Option.filter_some,
    if_pos (decide_eq_true nonempty)]
  rfl

section

variable (resolvable : Resolvable store key row)
  (replays : replayRequest row.requestPayloadJson = .ok request)

include resolvable replays

/-- Approving a pending request runs the stored call. -/
theorem ran_settleRequest {sessionId : String} :
    request ∈ (perform
      (settleRequest ⟨sessionId, key, .approveOnce, .selfOnly⟩) ([], store)).2.2.ranTools := by
  let resolved := markResolved ⟨sessionId, key, .approveOnce, .selfOnly⟩ .approved
  let approved := row.transitioned resolved
  let executing := approved.transitioned markExecuting
  have claims : perform
      (claimPending ⟨sessionId, key, .approveOnce, .selfOnly⟩ .approved) ([], store) =
        (.ok approved, ([], storeRow key approved store)) := by
    have transitions := perform_transition resolved resolvable.trimmed resolvable.nonempty
      resolvable.stored resolvable.pending
    unfold claimPending
    rw [perform_bind_ok transitions]
    rfl
  have starts := perform_transition markExecuting resolvable.trimmed resolvable.nonempty
    (rowOf_storeRow approved store) rfl
  unfold settleRequest
  dsimp only
  rw [perform_bind_ok claims]
  unfold executeApprovedRequest
  rw [perform_bind_ok starts, okOr, lift_ok_bind]
  refine ran_bind ?_ fun _ => keepsRan_reportReplay
  have payload : replayRequest executing.requestPayloadJson = .ok request := replays
  unfold replayApprovedRequest
  rw [payload]
  exact List.mem_append_right _ (List.mem_singleton.mpr rfl)

theorem ran_resolveApprovalRequest :
    request ∈ (perform (resolveApprovalRequest ⟨row.sessionId, key, .approveOnce, .selfOnly⟩)
        ([], store)).2.2.ranTools := by
  have opens : perform openRepository ([], store) = (.ok (), ([], store)) := rfl
  have loads := perform_loadApprovalRequest resolvable.trimmed resolvable.nonempty resolvable.stored
  have visible : requestVisible ⟨row.sessionId, key, .approveOnce, .selfOnly⟩ row =
      lift (.ok true) := if_pos rfl
  have permitted : requireVisible ⟨row.sessionId, key, .approveOnce, .selfOnly⟩ row true =
      .ok () := rfl
  unfold resolveApprovalRequest
  rw [perform_bind_ok opens, perform_bind_ok loads, okOr,
    lift_ok_bind, visible, lift_ok_bind, permitted, lift_ok_bind]
  exact ran_settleRequest resolvable replays

theorem ran_executeApprovalRequestResolve :
    request ∈ (perform
      (executeApprovalRequestResolve ⟨⟨row.sessionId, none⟩, none⟩ ⟨true, .selfOnly⟩
        (.object (approvalArguments key))) ([], store)).2.2.ranTools := by
  have identifies : requiredPayloadString (.object (approvalArguments key))
      "approval_request_id" = .ok key :=
    requiredPayloadString_of_get rfl resolvable.trimmed resolvable.nonempty
  have decides : requiredPayloadString (.object (approvalArguments key)) "decision" =
      .ok "approve_once" :=
    requiredPayloadString_of_get rfl (by decide +kernel) (by decide)
  have enabled : requireSessionTools ⟨true, .selfOnly⟩ = .ok () := rfl
  have parsed : parseApprovalDecision "approve_once" = .ok .approveOnce := rfl
  have visibility : effectiveVisibility ⟨⟨row.sessionId, none⟩, none⟩ ⟨true, .selfOnly⟩ =
      .selfOnly := rfl
  unfold executeApprovalRequestResolve
  rw [enabled, lift_ok_bind, identifies, lift_ok_bind, decides,
    lift_ok_bind, parsed, lift_ok_bind, visibility]
  dsimp only
  have ran := ran_resolveApprovalRequest resolvable replays
  have opens : ∀ _ : ApprovalResolutionOutcome,
      Keeps (fun store => store.ranTools) openRepository := fun _ => keeps_query _
  -- Otherwise the unifier performs the whole resolution.
  generalize resolveApprovalRequest _ = program at ran ⊢
  exact ran_bind ran opens

end

def approvalRequestResolve : ToolDescriptor :=
  ⟨"approval_request_resolve", "approval_request_resolve", [], .app, .discoverable⟩

theorem approvalRequestResolve_hidden : HiddenAppTool approvalRequestResolve :=
  ⟨List.mem_cons_self, rfl⟩

/-- A pending request is resolved by a turn of its session. -/
theorem ran_approvingTurn {repository : SessionRepository}
    (resolvable : Resolvable ⟨repository, []⟩ key row)
    (replays : replayRequest row.requestPayloadJson = .ok request) :
    ∃ turn,
      request ∈ (storeAfter runtime config digest approval repository [(turn, [])]).ranTools := by
  have free : approvalPolicy approval approvalRequestResolve = .ok false := rfl
  have isResolve : canonicalToolName approvalRequestResolve.name = "approval_request_resolve" :=
    approvalRequestResolve_hidden.canonical
  have unscoped : scopedArguments row.sessionId approvalRequestResolve.name
      (approvalArguments key) = approvalArguments key := rfl
  refine ⟨leasedTurn runtime row.sessionId approvalRequestResolve.name
    (.object (approvalArguments key)), ?_⟩
  unfold storeAfter
  rw [run_cons, run_nil, performTurn]
  dsimp only
  rw [executeTurn_leased runtime config digest approvalRequestResolve_hidden free, unscoped]
  refine ran_bind ?_ fun _ => keeps_lift _
  rw [perform_mapError]
  unfold dispatchAppTool
  rw [if_pos isResolve]
  dsimp only
  exact ran_executeApprovalRequestResolve resolvable replays

end Approval

/-! ## The guarantee -/

section Guarantee

variable (runtime config digest approval) (repository : SessionRepository)

/-- No turn of any session runs the tool, whatever happened before it. -/
def NeverRuns (descriptor : ToolDescriptor) : Prop :=
  ∀ turns request,
    request ∈ (storeAfter runtime config digest approval repository turns).ranTools ->
      ¬ CallOf descriptor request

/-- The deny list keeps a governed tool from running in exactly these cases:
the mode asks for an approval of the tool, the allow list does not name it too,
and no stored request for it is pending.  Grants do not matter. -/
theorem denied_tool_never_runs_iff {descriptor : ToolDescriptor}
    (governed : GovernedTool descriptor)
    (denied : approvalKey descriptor ∈ approval.deniedCalls) :
    NeverRuns runtime config digest approval repository descriptor ↔
      requiresApproval approval.mode (governanceProfileForDescriptor descriptor).riskClass = true /\
        approvalKey descriptor ∉ approval.approvedCalls /\
        ∀ key row, Resolvable ⟨repository, []⟩ key row ->
          Harmless (CallOf descriptor) row.requestPayloadJson := by
  have tool : HiddenAppTool descriptor := ⟨governed.known, governed.isApp⟩
  have notResolve : descriptor.name ≠ "approval_request_resolve" := by
    intro same
    have driven := governed_of_policyDriven governed.policyDriven
    rw [same] at driven
    exact absurd driven (by decide)
  constructor
  · intro never
    have notFree : approvalPolicy approval descriptor ≠ .ok false := by
      intro free
      rcases ran_leased runtime config digest tool free notResolve with
        ⟨turn, request, ran, isCall⟩
      exact never _ request ran isCall
    rw [approvalPolicy_governed governed] at notFree
    refine ⟨?_, ?_, ?_⟩
    · by_contra notRequired
      rw [Bool.not_eq_true] at notRequired
      exact notFree (by rw [notRequired]; rfl)
    · intro approved
      apply notFree
      split
      · rfl
      · rw [if_pos (List.contains_iff_mem.mpr approved)]
    · intro key row resolvable request replays isCall
      rcases ran_approvingTurn resolvable replays with ⟨turn, ran⟩
      exact never _ request ran isCall
  · rintro ⟨required, notApproved, waiting⟩ turns request ran
    have clear : Clear (CallOf descriptor) ⟨repository, []⟩ := ⟨nofun, waiting⟩
    have withheld := withheld_of_denied governed required notApproved denied
    refine Clear.ran (run_invariant _ ?_ clear turns) request ran
    intro store turn still
    exact perform_of_ensures (keepsClear_executeTurn withheld store still) turn.2

end Guarantee

end Turns

namespace DenySample

def delegate : ToolDescriptor := ⟨"delegate", "delegate", [], .app, .discoverable⟩

theorem delegate_governed : GovernedTool delegate :=
  ⟨by decide +kernel, rfl, rfl⟩

def denying (mode : GovernedToolApprovalMode) : GovernedToolApprovalConfig where
  mode
  approvedCalls := []
  deniedCalls := ["tool:delegate"]

def empty : SessionRepository := ⟨[], [], []⟩

/-- A pending request of another tool. -/
def pendingArchive : ApprovalRequestRecord where
  approvalRequestId := "apr_1"
  sessionId := "root"
  turnId := "turn-1"
  toolCallId := "call-1"
  toolName := "session_archive"
  approvalKey := "tool:session_archive"
  requestPayloadJson := .object
    [ ("args_json", .object [("session_id", .string "child")]), ("execution_kind", .string "app"),
      ("tool_name", .string "session_archive") ]
  governanceSnapshotJson := .null
  status := .pending
  decision := none
  resolvedBySessionId := none
  lastError := none

def waiting : SessionRepository :=
  { empty with approvalRequests := [("apr_1", pendingArchive)] }

theorem pendingArchive_harmless :
    Harmless (CallOf delegate) pendingArchive.requestPayloadJson := by
  intro request replays isCall
  have archives : replayRequest pendingArchive.requestPayloadJson =
      .ok ⟨"session_archive", .object [("session_id", .string "child")]⟩ := rfl
  cases archives.symm.trans replays
  have other : canonicalToolName "session_archive" ≠ delegate.name := by decide +kernel
  exact other isCall

theorem delegate_denied {mode : GovernedToolApprovalMode} :
    approvalKey delegate ∈ (denying mode).deniedCalls := by
  change "tool:delegate" ∈ ["tool:delegate"]
  exact List.mem_cons_self

end DenySample

open DenySample

/-- In strict mode a denied tool never runs, though a request of another tool is
pending. -/
theorem strict_denied_delegate_never_runs :
    Resolvable ⟨waiting, []⟩ "apr_1" pendingArchive /\
      NeverRuns runtime .default id (denying .strict) waiting delegate := by
  refine ⟨⟨rfl, rfl, by decide, by decide⟩,
    (denied_tool_never_runs_iff _ _ _ _ _ delegate_governed delegate_denied).mpr
      ⟨rfl, nofun, fun key row resolvable => ?_⟩⟩
  have stored := resolvable.stored
  dsimp only [rowOf, waiting] at stored
  rw [OrderedMap.lookup_cons] at stored
  split at stored
  · cases stored
    exact pendingArchive_harmless
  · cases stored

/-- With approvals disabled a denied tool is run. -/
theorem disabled_mode_runs_denied_delegate :
    approvalKey delegate ∈ (denying .disabled).deniedCalls /\
      ¬ NeverRuns runtime .default id (denying .disabled) empty delegate := by
  refine ⟨delegate_denied, ?_⟩
  intro never
  rcases ran_leased runtime .default id ⟨delegate_governed.known, delegate_governed.isApp⟩
    (rfl : approvalPolicy (denying .disabled) delegate = .ok false)
    (by decide) with ⟨turn, request, ran, isCall⟩
  exact never _ request ran isCall

end LoongClaw.Conversation
