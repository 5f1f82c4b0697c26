import LoongClaw.Conversation.ApprovalRequests
import LoongClaw.Conversation.InternalContext

namespace LoongClaw.Conversation

open Foundation Contracts Tools Session Program Fallible Text ToolCatalog

/-!
# Turns with governed tools

A turn validates its tool calls, prepares all of them and then executes them
in order.  An app tool is run when it passes the approval preflight, and when
a stored request for it is approved.  The deny list of the configuration is
consulted by the preflight only, behind the approval mode and the allow list.
-/

/-! ## Validation -/

def validateToolIntents (refuses : ToolIntent -> Option TurnFailure) :
    List ToolCallIntent -> Except TurnFailure Unit
  | [] => .ok ()
  | intent :: rest => do
    validateToolIntent refuses intent.toToolIntent
    validateToolIntents refuses rest

/-! ## The approval tool -/

structure SessionToolConfig where
  enabled : Bool
  visibility : SessionVisibility

def requiredPayloadString (payload : Json) (field : String) : Except String String :=
  okOr ((((payload.get field).bind Json.asStr).map trim).filter (fun value => decide (value ≠ "")))
    ("approval tool requires payload." ++ field)

def parseApprovalDecision (value : String) : Except String ApprovalDecision :=
  if value = "approve_once" then .ok .approveOnce
  else if value = "approve_always" then .ok .approveAlways
  else if value = "deny" then .ok .deny
  else
    .error ("approval_request_resolve_invalid_request: unknown decision `" ++ value ++ "`")

variable (session : LineageContext) (sessionTools : SessionToolConfig)

/-- A child session sees its own requests only. -/
def effectiveVisibility : SessionVisibility :=
  if session.parentSessionId.isSome then .selfOnly else sessionTools.visibility

def requireSessionTools : Except String Unit :=
  if sessionTools.enabled then .ok ()
  else .error "app_tool_disabled: session tools are disabled by config"

def executeApprovalRequestResolve (payload : Json) : RepositoryProgram Unit := do
  lift (requireSessionTools sessionTools)
  let approvalRequestId <- lift (requiredPayloadString payload "approval_request_id")
  let value <- lift (requiredPayloadString payload "decision")
  let decision <- lift (parseApprovalDecision value)
  let _ <- resolveApprovalRequest
    { currentSessionId := session.sessionId
      approvalRequestId
      decision
      visibility := effectiveVisibility session sessionTools }
  openRepository

def dispatchAppTool (request : ToolCoreRequest) : RepositoryProgram Unit :=
  if canonicalToolName request.toolName = "approval_request_resolve" then
    executeApprovalRequestResolve session sessionTools request.payload
  else do
    let _ <- runAppTool request
    return ()

/-! ## Turns -/

abbrev TurnProgram (α : Type) :=
  Program Circumstance Store TurnResult α

/-- A turn, the moment it happens in, and what the kernel and the session
decide about it. -/
structure GovernedTurn where
  session : LineageContext
  ingress : Option ConversationIngressContext
  moment : LeaseMoment
  environment : TurnEnvironment
  refuses : ToolIntent -> Option TurnFailure
  maxToolSteps : Nat
  sessionTools : SessionToolConfig
  intents : List ToolCallIntent

section Turns

variable {Bytes : Type} (runtime : ToolRuntime Bytes) (config : ToolRuntimeConfig)
  (digest : List UInt8 -> List UInt8) (approval : GovernedToolApprovalConfig) (turn : GovernedTurn)

/-- The preflight of one call, with the answer of the application. -/
def requireApproved (intent : ToolCallIntent) (kind : ToolExecutionKind)
    (descriptor : ToolDescriptor) : TurnProgram Unit :=
  match kind with
  | .core => lift (requireExecutable turn.environment .core intent.toToolIntent descriptor)
  | .app => do
    let answer <- (maybeRequireApproval digest approval turn.session intent descriptor).caught
    lift (requireExecutable
      { turn.environment with
        maybeRequireApproval := fun _ _ => answer.map Option.isSome }
      .app intent.toToolIntent descriptor)

def prepareGoverned (intent : ToolCallIntent) : TurnProgram PreparedToolIntent := do
  let resolvedTool <- lift (okOr (resolveToolExecution intent.toolName)
    (TurnResult.policyDenied "tool_not_found" ("tool_not_found: " ++ intent.toolName)))
  let request := internalRequest { runtime with moment := turn.moment }
    turn.session.toSessionContext turn.ingress resolvedTool.canonicalName intent.argsJson
  let effective := effectiveToolIntent { runtime with moment := turn.moment } resolvedTool
    request.1 intent.toToolIntent
  let descriptor <- lift (okOr (resolve effective.request.toolName)
    (TurnResult.nonRetryableToolError "tool_descriptor_missing"
      ("tool_descriptor_missing: " ++ effective.request.toolName)))
  requireApproved digest approval turn { intent with toToolIntent := effective.intent }
    effective.executionKind descriptor
  return {
    request := effective.request
    executionKind := effective.executionKind
    trustedInternalContext := request.2 }

def prepareAll (turn : GovernedTurn) : List ToolCallIntent -> TurnProgram (List PreparedToolIntent)
  | [] => return []
  | intent :: rest => do
    let prepared <- prepareGoverned runtime digest approval turn intent
    let others <- prepareAll turn rest
    return prepared :: others

def executeGoverned (prepared : PreparedToolIntent) : TurnProgram Unit :=
  match prepared.executionKind with
  | .core => do
    let _ <- lift (executePreparedToolIntent { runtime with moment := turn.moment }
      turn.environment config prepared)
    return ()
  | .app =>
    (dispatchAppTool turn.session turn.sessionTools prepared.request).mapError appToolRefusal

def executeAll (turn : GovernedTurn) : List PreparedToolIntent -> TurnProgram Unit
  | [] => return ()
  | prepared :: rest => do
    executeGoverned runtime config turn prepared
    executeAll turn rest

def validateTurn : Except TurnFailure Unit :=
  if turn.maxToolSteps < turn.intents.length then
    .error ⟨.policyDenied, "max_tool_steps_exceeded", "max_tool_steps_exceeded"⟩
  else validateToolIntents turn.refuses turn.intents

def executeTurn : TurnProgram Unit := do
  lift ((validateTurn turn).mapError TurnResult.toolDenied)
  let prepared <- prepareAll runtime digest approval turn turn.intents
  executeAll runtime config turn prepared

end Turns

/-! ## Tools that a store keeps from running -/

/-- The stored payload does not stand for an unwanted call. -/
def Harmless (unwanted : ToolCoreRequest -> Prop) (payload : Json) : Prop :=
  ∀ request, replayRequest payload = .ok request -> ¬ unwanted request

/-- A pending row under a key that a resolution can name. -/
structure Resolvable (store : Store) (key : String) (row : ApprovalRequestRecord) : Prop where
  stored : rowOf key store = some row
  pending : row.status = .pending
  trimmed : trim key = key
  nonempty : key ≠ ""

/-- No unwanted call has been run, and none waits for an approval. -/
structure Clear (unwanted : ToolCoreRequest -> Prop) (store : Store) : Prop where
  ran : ∀ request, request ∈ store.ranTools -> ¬ unwanted request
  waiting : ∀ key row, Resolvable store key row -> Harmless unwanted row.requestPayloadJson

section Clear

variable {unwanted : ToolCoreRequest -> Prop} {before after : Store} {requestId : String}
  {ε α : Type} {program : Program Circumstance Store ε α} {request : ToolCoreRequest}

theorem Clear.congr (clear : Clear unwanted before)
    (requests : after.repository.approvalRequests = before.repository.approvalRequests)
    (ranTools : after.ranTools = before.ranTools) : Clear unwanted after := by
  constructor
  · rw [ranTools]
    exact clear.ran
  · intro key row resolvable
    refine clear.waiting key row { resolvable with stored := ?_ }
    have stored := resolvable.stored
    rw [rowOf, requests] at stored
    exact stored

/-- The payload in the hands of a resolution is harmless. -/
def HoldsHarmless (unwanted : ToolCoreRequest -> Prop) (requestId : String) (store : Store) :
    ResolutionRole -> Prop
  | .contender => True
  | .approver => ∀ payload, payloadOf requestId store = some payload ->
      Harmless unwanted payload
  | .executing => ∀ payload, payloadOf requestId store = some payload ->
      Harmless unwanted payload
  | .holding payload => Harmless unwanted payload
  | .replayed => True
  | .settled => True

/-- A row that was moved on is not pending any more. -/
theorem Clear.moved {previous next : ApprovalRequestStatus} (clear : Clear unwanted before)
    (moved : StatusMoved requestId previous next before after) (leaves : next ≠ .pending) :
    Clear unwanted after := by
  constructor
  · rw [moved.ranTools]
    exact clear.ran
  · intro key row resolvable
    by_cases same : key = requestId
    · have becomes := moved.becomes
      rw [<- same, statusOf, resolvable.stored] at becomes
      exact absurd ((Option.some.inj becomes).symm.trans resolvable.pending) leaves
    · refine clear.waiting key row { resolvable with stored := ?_ }
      rw [<- moved.others key same]
      exact resolvable.stored

theorem clear_of_move {decision : ApprovalDecision} (trimmed : trim requestId = requestId)
    (nonempty : requestId ≠ "") {role later : ResolutionRole}
    (holds : Clear unwanted before /\ HoldsHarmless unwanted requestId before role)
    (move : ResolutionMove requestId decision role before later after) :
    Clear unwanted after /\ HoldsHarmless unwanted requestId after later := by
  rcases holds with ⟨clear, harmless⟩
  cases move with
  | rest => exact ⟨clear, harmless⟩
  | deny denies moved | report ready moved => exact ⟨clear.moved moved (by decide), trivial⟩
  | approve approves moved =>
    refine ⟨clear.moved moved (by decide), ?_⟩
    intro payload held
    rw [moved.payload] at held
    rcases Option.map_eq_some_iff.mp moved.was with ⟨row, stored, isPending⟩
    rw [payloadOf, stored] at held
    rw [<- Option.some.inj held]
    exact clear.waiting requestId row ⟨stored, isPending, trimmed, nonempty⟩
  | grant always rows ranTools =>
    refine ⟨clear.congr rows ranTools, ?_⟩
    intro payload held
    rw [payloadOf, rowOf, rows] at held
    exact harmless payload held
  | start moved =>
    refine ⟨clear.moved moved (by decide), ?_⟩
    intro payload held
    rw [moved.payload] at held
    exact harmless payload held
  | hold held => exact ⟨clear, harmless _ held⟩
  | replay replays rows grants ranTools =>
    refine ⟨⟨?_, ?_⟩, trivial⟩
    · rw [ranTools]
      refine List.forall_mem_append.mpr ⟨clear.ran, ?_⟩
      exact List.forall_mem_singleton.mpr (harmless _ replays)
    · intro key row resolvable
      refine clear.waiting key row { resolvable with stored := ?_ }
      have stored := resolvable.stored
      rw [rowOf, rows] at stored
      exact stored

/-- The program keeps a clear store clear. -/
def KeepsClear {ε α : Type} (unwanted : ToolCoreRequest -> Prop)
    (program : Program Circumstance Store ε α) : Prop :=
  ∀ store, Clear unwanted store -> program.Ensures (fun _ later => Clear unwanted later) store

theorem keepsClear_lift (outcome : Except ε α) : KeepsClear unwanted (lift outcome) :=
  fun _ clear => ensures_lift clear

theorem keepsClear_bind {β : Type} {next : α -> Program Circumstance Store ε β}
    (first : KeepsClear unwanted program) (second : ∀ value, KeepsClear unwanted (next value)) :
    KeepsClear unwanted (program >>= next) := by
  intro store clear
  refine ensures_bind (first store clear) ?_ fun _ _ still => still
  intro value later still
  exact second value later still

theorem keepsClear_query {read : SessionRepository -> Except String α} :
    KeepsClear unwanted (query read) := by
  intro store clear
  refine ensures_atomic fun circumstance => ?_
  cases circumstance.fault <;> exact clear

theorem keepsClear_runAppTool (wanted : ¬ unwanted request) :
    KeepsClear unwanted (runAppTool request) := by
  intro store clear
  refine ensures_atomic fun circumstance => ?_
  cases circumstance.refusal with
  | some reason => exact clear
  | none =>
    constructor
    · exact List.forall_mem_append.mpr ⟨clear.ran, List.forall_mem_singleton.mpr wanted⟩
    · intro key row resolvable
      exact clear.waiting key row { resolvable with stored := resolvable.stored }

theorem keepsClear_resolveApprovalRequest {request : ApprovalResolutionRequest} :
    KeepsClear unwanted (resolveApprovalRequest request) := by
  by_cases empty : trim request.approvalRequestId = ""
  · refine keepsClear_bind keepsClear_query fun _ => ?_
    have unnamed : SessionRepository.loadApprovalRequest request.approvalRequestId =
        fail "session repository requires approval_request_id" := by
      unfold SessionRepository.loadApprovalRequest normalizeRequiredText
      rw [empty]
      rfl
    rw [unnamed]
    exact keepsClear_lift (.error "session repository requires approval_request_id")
  · intro store clear
    have follows := follows_resolveApprovalRequest request
    have keeps := ensures_of_follows
      (fun _ _ _ _ holds move => clear_of_move (trim_trim _) empty holds move)
      follows ⟨clear, trivial⟩
    refine ensures_mono keeps ?_
    rintro _ later ⟨_, still, _⟩
    exact still

theorem keepsClear_mapError {η : Type} {convert : ε -> η} (keeps : KeepsClear unwanted program) :
    KeepsClear unwanted (program.mapError convert) :=
  fun store clear => ensures_mapError (keeps store clear)

theorem keepsClear_dispatchAppTool {session : LineageContext} {sessionTools : SessionToolConfig}
    (wanted : ¬ unwanted request) :
    KeepsClear unwanted (dispatchAppTool session sessionTools request) := by
  unfold dispatchAppTool
  split
  · refine keepsClear_bind (keepsClear_lift _) fun _ => ?_
    refine keepsClear_bind (keepsClear_lift _) fun _ => ?_
    refine keepsClear_bind (keepsClear_lift _) fun _ => ?_
    refine keepsClear_bind (keepsClear_lift _) fun _ => ?_
    exact keepsClear_bind keepsClear_resolveApprovalRequest fun _ => keepsClear_query
  · exact keepsClear_bind (keepsClear_runAppTool wanted) fun _ => keepsClear_lift _

end Clear

/-! ## What a turn keeps from running -/

/-- The configuration denies every unwanted call that the catalog describes. -/
def Withheld (approval : GovernedToolApprovalConfig) (unwanted : ToolCoreRequest -> Prop) : Prop :=
  ∀ toolName payload descriptor, unwanted ⟨toolName, payload⟩ ->
    resolve toolName = some descriptor ->
      ∃ reason, approvalPolicy approval descriptor = .error reason

section Preflight

variable {digest : List UInt8 -> List UInt8} {approval : GovernedToolApprovalConfig}
  {unwanted : ToolCoreRequest -> Prop}

theorem keepsRan_update {α : Type} {write : SessionRepository -> α × SessionRepository} :
    Keeps (fun store => store.ranTools) (update write) := by
  intro store
  refine ensures_atomic fun circumstance => ?_
  cases circumstance.fault <;> rfl

/-- The preflight runs no tool. -/
theorem keepsRan_maybeRequireApproval {intent : ToolCallIntent} {descriptor : ToolDescriptor} :
    Keeps (fun store => store.ranTools)
      (maybeRequireApproval digest approval session intent descriptor) := by
  refine keeps_bind (keeps_lift _) fun governed => ?_
  cases governed with
  | false => exact keeps_lift _
  | true =>
    refine keeps_bind (keeps_query _) fun _ => ?_
    refine keeps_bind (keeps_ensureSession (fun _ => keepsRan_update) _) fun _ => ?_
    refine keeps_bind (keeps_query _) fun _ => ?_
    refine keeps_bind (keeps_loadApprovalGrant _ _) fun granted => ?_
    cases granted with
    | some grant => exact keeps_lift _
    | none =>
      refine keeps_bind ?_ fun _ => keeps_lift _
      refine keeps_bind (keeps_lift _) fun _ => ?_
      refine keeps_bind keeps_loadSession fun _ => ?_
      refine keeps_bind (keeps_lift _) fun _ => ?_
      refine keeps_bind keepsRan_update fun _ => ?_
      exact keeps_bind keeps_loadApprovalRequest fun _ => keeps_lift _

/-- A request that the preflight stores is for a wanted call. -/
theorem Clear.recorded {call : GovernedCall} {before after : Store}
    (clear : Clear unwanted before) (withheld : Withheld approval unwanted)
    (known : call.descriptor ∈ toolCatalog)
    (needs : approvalPolicy approval call.descriptor = .ok true)
    (recorded : Recorded (call.record digest) before after)
    (ranTools : after.ranTools = before.ranTools) : Clear unwanted after := by
  rcases recorded with same | ⟨_, inserted⟩
  · exact clear.congr same ranTools
  · constructor
    · rw [ranTools]
      exact clear.ran
    · intro key row resolvable
      have stored := resolvable.stored
      rw [rowOf, inserted, OrderedMap.lookup_insert] at stored
      split at stored
      · rcases approvalPolicy_needs needs with ⟨isApp, plain, nonempty⟩
        intro request replays isUnwanted
        have payload : row.requestPayloadJson =
            requestPayload call.session call.intent call.descriptor := by
          rw [<- Option.some.inj stored]
          rfl
        rw [payload, replayRequest_requestPayload isApp plain nonempty] at replays
        rw [<- Except.ok.inj replays] at isUnwanted
        rcases withheld _ _ _ isUnwanted (resolve_name known) with ⟨reason, denied⟩
        rw [denied] at needs
        injection needs
      · exact clear.waiting key row { resolvable with stored }

theorem ensures_requireApproved {turn : GovernedTurn} {intent : ToolCallIntent}
    {descriptor : ToolDescriptor} {store : Store} (withheld : Withheld approval unwanted)
    (known : descriptor ∈ toolCatalog) (clear : Clear unwanted store) :
    (requireApproved digest approval turn intent .app descriptor).Ensures (fun result later =>
      Clear unwanted later /\
        (result = .ok () -> ∀ reason, approvalPolicy approval descriptor ≠ .error reason))
      store := by
  unfold requireApproved
  cases policy : approvalPolicy approval descriptor with
  | error reason =>
    have refused : maybeRequireApproval digest approval turn.session intent descriptor =
        fail reason := by
      unfold maybeRequireApproval
      rw [policy]
      rfl
    rw [refused]
    refine ensures_lift ⟨clear, ?_⟩
    intro accepted
    unfold requireExecutable at accepted
    simp only [Except.map] at accepted
    split at accepted <;> cases accepted
  | ok governed =>
    have preflight := ensures_and
      (ensures_preflight digest approval ⟨turn.session, intent, descriptor⟩ store)
      (keepsRan_maybeRequireApproval turn.session store)
    have caught : ((maybeRequireApproval digest approval turn.session intent descriptor).caught :
        TurnProgram (Except String (Option ApprovalRequirement))).Ensures
          (fun _ later => Clear unwanted later) store := by
      refine ensures_caught (ensures_mono preflight ?_)
      rintro result later ⟨spec, sameRan⟩
      rcases spec.recorded with same | ⟨needs, recorded⟩
      · exact clear.congr same sameRan
      · exact clear.recorded withheld known needs recorded sameRan
    refine ensures_bind caught ?_ fun _ _ still => ⟨still, nofun⟩
    intro answer later still
    exact ensures_lift ⟨still, fun _ _ => nofun⟩

end Preflight

section Turn

variable {Bytes : Type} {runtime : ToolRuntime Bytes} {config : ToolRuntimeConfig}
  {digest : List UInt8 -> List UInt8} {approval : GovernedToolApprovalConfig}
  {unwanted : ToolCoreRequest -> Prop} {turn : GovernedTurn}

/-- An unwanted call of an app tool is not prepared. -/
def WantedCall (unwanted : ToolCoreRequest -> Prop) (prepared : PreparedToolIntent) : Prop :=
  prepared.executionKind = .app -> ¬ unwanted prepared.request

variable {store : Store}

theorem ensures_prepareGoverned {intent : ToolCallIntent} (withheld : Withheld approval unwanted)
    (clear : Clear unwanted store) :
    (prepareGoverned runtime digest approval turn intent).Ensures (fun result later =>
      Clear unwanted later /\
        ∀ prepared, result = .ok prepared -> WantedCall unwanted prepared) store := by
  unfold prepareGoverned
  cases found : resolveToolExecution intent.toolName with
  | none => exact ensures_lift ⟨clear, of_failure⟩
  | some resolvedTool =>
    rw [okOr, lift_ok_bind]
    dsimp only
    generalize effectiveToolIntent _ resolvedTool _ intent.toToolIntent = effective
    cases described : resolve effective.request.toolName with
    | none => exact ensures_lift ⟨clear, of_failure⟩
    | some descriptor =>
      rw [okOr, lift_ok_bind]
      cases kind : effective.executionKind with
      | core =>
        refine ensures_bind (keepsClear_lift _ store clear) ?_ fun _ _ still => ⟨still, of_failure⟩
        intro _ later still
        refine ensures_lift ⟨still, ?_⟩
        intro prepared isPrepared isApp
        rw [<- Except.ok.inj isPrepared] at isApp
        cases isApp
      | app =>
        refine ensures_bind (ensures_requireApproved withheld (mem_of_resolve described) clear) ?_
          fun _ _ still => ⟨still.1, of_failure⟩
        intro _ later still
        refine ensures_lift ⟨still.1, ?_⟩
        intro prepared isPrepared _ isUnwanted
        rw [<- Except.ok.inj isPrepared] at isUnwanted
        rcases withheld _ _ _ isUnwanted described with ⟨reason, denied⟩
        exact still.2 rfl reason denied

theorem ensures_prepareAll (withheld : Withheld approval unwanted) {intents : List ToolCallIntent}
    (clear : Clear unwanted store) :
    (prepareAll runtime digest approval turn intents).Ensures (fun result later =>
      Clear unwanted later /\ ∀ batch, result = .ok batch ->
        ∀ prepared, prepared ∈ batch -> WantedCall unwanted prepared) store := by
  induction intents generalizing store with
  | nil =>
    refine ensures_lift ⟨clear, ?_⟩
    intro batch isBatch prepared member
    rw [<- Except.ok.inj isBatch] at member
    cases member
  | cons intent rest ih =>
    refine ensures_bind (ensures_prepareGoverned withheld clear) ?_
      fun _ _ still => ⟨still.1, nofun⟩
    intro first between wanted
    refine ensures_bind (ih wanted.1) ?_ fun _ _ still => ⟨still.1, nofun⟩
    intro others later allWanted
    refine ensures_lift ⟨allWanted.1, ?_⟩
    intro batch isBatch
    rw [<- Except.ok.inj isBatch]
    exact List.forall_mem_cons.mpr ⟨wanted.2 first rfl, allWanted.2 others rfl⟩

theorem keepsClear_executeGoverned {prepared : PreparedToolIntent}
    (wanted : WantedCall unwanted prepared) :
    KeepsClear unwanted (executeGoverned runtime config turn prepared) := by
  unfold executeGoverned
  cases kind : prepared.executionKind with
  | core => exact keepsClear_bind (keepsClear_lift _) fun _ => keepsClear_lift _
  | app => exact keepsClear_mapError (keepsClear_dispatchAppTool (wanted kind))

theorem keepsClear_executeAll {batch : List PreparedToolIntent}
    (wanted : ∀ prepared, prepared ∈ batch -> WantedCall unwanted prepared) :
    KeepsClear unwanted (executeAll runtime config turn batch) := by
  induction batch with
  | nil => exact keepsClear_lift _
  | cons prepared rest ih =>
    refine keepsClear_bind (keepsClear_executeGoverned (wanted prepared (by simp))) fun _ => ?_
    exact ih fun other member => wanted other (List.mem_cons_of_mem _ member)

theorem keepsClear_executeTurn (withheld : Withheld approval unwanted) :
    KeepsClear unwanted (executeTurn runtime config digest approval turn) := by
  refine keepsClear_bind (keepsClear_lift _) fun _ => ?_
  intro store clear
  refine ensures_bind (ensures_prepareAll withheld clear) ?_ fun _ _ still => still.1
  intro batch later allWanted
  exact keepsClear_executeAll (allWanted.2 batch rfl) later allWanted.1

end Turn

end LoongClaw.Conversation
