import LoongClaw.Conversation.Approval

namespace LoongClaw.Conversation

open Foundation Contracts Tools Session Program Fallible SessionRepository OrderedMap Text Function

/-!
# Resolving an approval request

An operator denies a stored request, or approves it once or for always.  The
program of an approval claims the request by a conditional update of its
status, stores a grant if it is for always, claims the execution by a second
update, replays the stored tool call and marks the request as executed.

Several operators may do so at once.  Each call is taken to follow a protocol
in which only the call that finds the request pending goes on, and the
guarantees are those of the protocol.
-/

/-! ## The programs -/

structure ApprovalResolutionRequest where
  (currentSessionId approvalRequestId : String)
  decision : ApprovalDecision
  visibility : SessionVisibility

structure ApprovalResolutionOutcome where
  approvalRequest : ApprovalRequestRecord
  resumedToolOutput : Option PlaneOutcome

def requireAppExecution (executionKind : String) : Except String Unit :=
  if executionKind ≠ "app" then
    .error ("approval_request_invalid_execution_kind: expected `app`, got `" ++
      executionKind ++ "`")
  else .ok ()

/-- The tool call that a stored payload stands for. -/
def replayRequest (payload : Json) : Except String ToolCoreRequest := do
  let executionKind <- okOr ((payload.get "execution_kind").bind Json.asStr)
    "approval_request_invalid_payload: missing execution_kind"
  requireAppExecution executionKind
  let toolName <- okOr ((((payload.get "tool_name").bind Json.asStr).map trim).filter
      (fun value => decide (value ≠ "")))
    "approval_request_invalid_payload: missing tool_name"
  let arguments <- okOr (payload.get "args_json")
    "approval_request_invalid_payload: missing args_json"
  .ok { toolName, payload := arguments }

variable (requestId : String) (request : ApprovalResolutionRequest) (approvalRequestId : String)
  (approvalRequest : ApprovalRequestRecord) (store : Store)

/-- The context of the session of a request is loaded first, which may fail. -/
def replayApprovedRequest : RepositoryProgram PlaneOutcome := do
  let request <- lift (replayRequest approvalRequest.requestPayloadJson)
  openRepository
  runAppTool request

def markExecuted (lastError : Option String) : TransitionApprovalRequestIfCurrentRequest where
  expectedStatus := .executing
  nextStatus := .executed
  decision := none
  resolvedBySessionId := none
  lastError

def reportReplay : Except String PlaneOutcome -> RepositoryProgram ApprovalResolutionOutcome
  | .ok resumedToolOutput => do
    let executed <- transitionApprovalRequestIfCurrent approvalRequestId (markExecuted none)
    let executed <- lift (okOr executed
      ("approval_request_not_executing: `" ++ approvalRequestId ++ "` is no longer executing"))
    return { approvalRequest := executed, resumedToolOutput := some resumedToolOutput }
  | .error error => do
    let _ <- transitionApprovalRequestIfCurrent approvalRequestId (markExecuted (some error))
    fail error

def markExecuting : TransitionApprovalRequestIfCurrentRequest where
  expectedStatus := .approved
  nextStatus := .executing
  decision := none
  resolvedBySessionId := none
  lastError := none

def executeApprovedRequest : RepositoryProgram ApprovalResolutionOutcome := do
  let executing <- transitionApprovalRequestIfCurrent approvalRequestId markExecuting
  let executing <- lift (okOr executing
    ("approval_request_not_approved: `" ++ approvalRequestId ++ "` is no longer approved"))
  let replayed <- (replayApprovedRequest executing).caught
  reportReplay approvalRequestId replayed

def requestNotFound : String :=
  "approval_request_not_found: `" ++ approvalRequestId ++ "`"

/-- Load a request for the report that it is not pending any more. -/
def reportNotPending {α : Type} : RepositoryProgram α := do
  let latest <- loadApprovalRequest approvalRequestId
  let latest <- lift (okOr latest (requestNotFound approvalRequestId))
  fail ("approval_request_not_pending: `" ++ approvalRequestId ++ "` is already " ++
    latest.status.asStr)

def markResolved (nextStatus : ApprovalRequestStatus) :
    TransitionApprovalRequestIfCurrentRequest where
  expectedStatus := .pending
  nextStatus
  decision := some request.decision
  resolvedBySessionId := some request.currentSessionId
  lastError := none

/-- Take a pending request. -/
def claimPending (nextStatus : ApprovalRequestStatus) :
    RepositoryProgram ApprovalRequestRecord := do
  let claimed <- transitionApprovalRequestIfCurrent request.approvalRequestId
    (markResolved request nextStatus)
  match claimed with
  | some row => pure row
  | none => reportNotPending request.approvalRequestId

def grantAlways (approved : ApprovalRequestRecord) : RepositoryProgram Unit := do
  let root <- lineageRootSessionId approved.sessionId
  let scopeSessionId <- lift (okOr root
    ("approval_request_session_not_found: `" ++ approved.sessionId ++ "`"))
  let _ <- upsertApprovalGrant { scopeSessionId, approvalKey := approved.approvalKey }
  return ()

def settleRequest : RepositoryProgram ApprovalResolutionOutcome :=
  match request.decision with
  | .deny => do
    let resolved <- claimPending request .denied
    return { approvalRequest := resolved, resumedToolOutput := none }
  | .approveOnce => do
    let _ <- claimPending request .approved
    executeApprovedRequest request.approvalRequestId
  | .approveAlways => do
    let approved <- claimPending request .approved
    grantAlways approved
    executeApprovedRequest request.approvalRequestId

/-- Whether the session may see the request. -/
def requestVisible : RepositoryProgram Bool :=
  if request.currentSessionId = approvalRequest.sessionId then pure true
  else
    match request.visibility with
    | .selfOnly => pure false
    | .children =>
      isSessionVisible request.currentSessionId approvalRequest.sessionId

def requireVisible (visible : Bool) : Except String Unit :=
  if visible then .ok ()
  else
    .error ("visibility_denied: session `" ++ approvalRequest.sessionId ++
      "` is not visible from `" ++ request.currentSessionId ++ "`")

def resolveApprovalRequest : RepositoryProgram ApprovalResolutionOutcome := do
  openRepository
  let found <- loadApprovalRequest request.approvalRequestId
  let approvalRequest <- lift (okOr found (requestNotFound request.approvalRequestId))
  let visible <- requestVisible request approvalRequest
  lift (requireVisible request approvalRequest visible)
  settleRequest request

/-! ## The protocol -/

def rowOf : Option ApprovalRequestRecord :=
  lookup requestId store.repository.approvalRequests

def statusOf : Option ApprovalRequestStatus :=
  (rowOf requestId store).map (fun row => row.status)

def payloadOf : Option Json :=
  (rowOf requestId store).map (fun row => row.requestPayloadJson)

/-- How far a call has come.  A call that found the request pending and
approves it holds the stored payload before it replays it. -/
inductive ResolutionRole where
  | contender
  | approver
  | executing
  | holding (payload : Json)
  | replayed
  | settled

/-- The status of the request is set, and nothing else that matters. -/
structure StatusMoved (requestId : String) (previous next : ApprovalRequestStatus)
    (before after : Store) : Prop where
  was : statusOf requestId before = some previous
  becomes : statusOf requestId after = some next
  payload : payloadOf requestId after = payloadOf requestId before
  others : ∀ key, key ≠ requestId -> rowOf key after = rowOf key before
  grants : after.repository.approvalGrants = before.repository.approvalGrants
  ranTools : after.ranTools = before.ranTools

/-- The moves of a call with the given decision. -/
inductive ResolutionMove (requestId : String) (decision : ApprovalDecision) :
    ResolutionRole -> Store -> ResolutionRole -> Store -> Prop where
  | rest (role : ResolutionRole) (store : Store) :
      ResolutionMove requestId decision role store role store
  | deny {before after : Store} (denies : decision = .deny)
      (moved : StatusMoved requestId .pending .denied before after) :
      ResolutionMove requestId decision .contender before .settled after
  | approve {before after : Store} (approves : decision ≠ .deny)
      (moved : StatusMoved requestId .pending .approved before after) :
      ResolutionMove requestId decision .contender before .approver after
  | grant {before after : Store} (always : decision = .approveAlways)
      (rows : after.repository.approvalRequests = before.repository.approvalRequests)
      (ranTools : after.ranTools = before.ranTools) :
      ResolutionMove requestId decision .approver before .approver after
  | start {before after : Store}
      (moved : StatusMoved requestId .approved .executing before after) :
      ResolutionMove requestId decision .approver before .executing after
  | hold {store : Store} {payload : Json} (held : payloadOf requestId store = some payload) :
      ResolutionMove requestId decision .executing store (.holding payload) store
  | replay {before after : Store} {payload : Json} {request : ToolCoreRequest}
      (replays : replayRequest payload = .ok request)
      (rows : after.repository.approvalRequests = before.repository.approvalRequests)
      (grants : after.repository.approvalGrants = before.repository.approvalGrants)
      (ranTools : after.ranTools = before.ranTools ++ [request]) :
      ResolutionMove requestId decision (.holding payload) before .replayed after
  | report {role : ResolutionRole} {before after : Store}
      (ready : role = .replayed \/ ∃ payload, role = .holding payload)
      (moved : StatusMoved requestId .executing .executed before after) :
      ResolutionMove requestId decision role before .settled after

/-! ## Every call follows the protocol -/

theorem normalizeRequiredText_eq_ok {value fieldName result : String}
    (normalized : normalizeRequiredText value fieldName = .ok result) :
    result = trim value := by
  unfold normalizeRequiredText at normalized
  dsimp only at normalized
  split at normalized
  · injection normalized
  · exact (Except.ok.inj normalized).symm

/-- A conditional update does nothing, or moves the status as requested. -/
theorem updateApprovalRequest_cases {requestId : String}
    {request : TransitionApprovalRequestIfCurrentRequest} {store : Store} :
    let updated := updateApprovalRequest requestId request store.repository
    updated = (false, store.repository) \/
      updated.1 = true /\ StatusMoved requestId request.expectedStatus request.nextStatus store
        { store with repository := updated.2 } := by
  unfold updateApprovalRequest
  cases stored : lookup requestId store.repository.approvalRequests with
  | none => exact Or.inl rfl
  | some row =>
    by_cases expected : row.status = request.expectedStatus
    · right
      simp only [expected, if_true]
      refine ⟨trivial, ?_, ?_, ?_, ?_, rfl, rfl⟩
      · simp only [statusOf, rowOf, stored, Option.map_some, expected]
      · simp only [statusOf, rowOf, lookup_insert_self, Option.map_some,
          ApprovalRequestRecord.transitioned]
      · simp only [payloadOf, rowOf, lookup_insert_self, stored, Option.map_some,
          ApprovalRequestRecord.transitioned]
      · intro key different
        exact lookup_insert_of_ne different _ _
    · left
      simp only [expected, if_false]

section Following

variable {requestId : String} {decision : ApprovalDecision}

/-- The program reads, and stays in its role. -/
def Passive {α : Type} (requestId : String) (decision : ApprovalDecision)
    (program : RepositoryProgram α) : Prop :=
  ∀ role, program.Follows (ResolutionMove requestId decision) (fun later _ => later = role) role

variable {α β : Type} {program : RepositoryProgram α} {next : α -> RepositoryProgram β}
  {role : ResolutionRole} {final : ApprovalRequestRecord -> ResolutionRole}
  {request : TransitionApprovalRequestIfCurrentRequest} {approvalRequestId : String}

theorem passive_lift {outcome : Except String α} : Passive requestId decision (lift outcome) := by
  intro role
  exact follows_finish rfl

theorem passive_query {read : SessionRepository -> Except String α} :
    Passive requestId decision (query read) := by
  intro role
  refine follows_atomic fun circumstance store => ⟨role, ?_, rfl⟩
  cases circumstance.fault <;> exact .rest role store

theorem passive_bind (first : Passive requestId decision program)
    (second : ∀ value, Passive requestId decision (next value)) :
    Passive requestId decision (program >>= next) := by
  intro role
  refine follows_bind (first role) ?_ fun _ _ same => same
  rintro later value rfl
  exact second value later

/-- What comes after a passive program is reached in the same role. -/
theorem follows_after_passive {suits : ResolutionRole -> Except String β -> Prop}
    (first : Passive requestId decision program) (second : ∀ value,
      (next value).Follows (ResolutionMove requestId decision) suits role)
    (failing : ∀ error, suits role (.error error)) :
    (program >>= next).Follows (ResolutionMove requestId decision) suits role := by
  refine follows_bind (first role) ?_ ?_
  · rintro later value rfl
    exact second value
  · rintro later error rfl
    exact failing error

theorem passive_loadSession {sessionId : String} :
    Passive requestId decision (loadSession sessionId) :=
  passive_bind passive_lift fun _ => passive_query

theorem passive_loadApprovalRequest {approvalRequestId : String} :
    Passive requestId decision (loadApprovalRequest approvalRequestId) :=
  passive_bind passive_lift fun _ => passive_query

theorem passive_loadApprovalGrant {scopeSessionId approvalKey : String} : Passive requestId decision
      (loadApprovalGrant scopeSessionId approvalKey) :=
  passive_bind passive_lift fun _ => passive_bind passive_lift fun _ => passive_query

theorem passive_requestVisible {request : ApprovalResolutionRequest}
    (approvalRequest : ApprovalRequestRecord) :
    Passive requestId decision (requestVisible request approvalRequest) := by
  unfold requestVisible
  split
  · exact passive_lift
  · split
    · exact passive_lift
    · exact passive_query

/-- A loaded row decides the role; without one the role stays. -/
def LoadedRole (role : ResolutionRole) (final : ApprovalRequestRecord -> ResolutionRole)
    (later : ResolutionRole) : Except String (Option ApprovalRequestRecord) -> Prop
  | .ok (some row) => later = final row
  | .ok none => later = role
  | .error _ => True

theorem follows_normalized {value fieldName : String} :
    (lift (normalizeRequiredText value fieldName) : RepositoryProgram String).Follows
      (ResolutionMove requestId decision)
      (fun later result => later = role /\ ∀ text, result = .ok text -> text = trim value) role :=
  follows_finish ⟨rfl, fun _ normalized => normalizeRequiredText_eq_ok normalized⟩

section

variable (normal : trim requestId = requestId)
  (loads : ∀ store row, rowOf requestId store = some row ->
    ResolutionMove requestId decision role store (final row) store)

include normal loads

/-- The row that is loaded is the stored one. -/
theorem follows_loadApprovalRequest :
    (loadApprovalRequest requestId).Follows (ResolutionMove requestId decision)
      (LoadedRole role final) role := by
  refine follows_bind follows_normalized ?_ fun _ _ _ => trivial
  rintro later approvalRequestId ⟨rfl, normalized⟩
  rw [normalized approvalRequestId rfl, normal]
  refine follows_atomic fun circumstance store => ?_
  cases circumstance.fault with
  | some error => exact ⟨later, .rest later store, trivial⟩
  | none =>
    cases stored : rowOf requestId store with
    | none =>
      refine ⟨later, .rest later store, ?_⟩
      change LoadedRole later final later (.ok (rowOf requestId store))
      rw [stored]
      rfl
    | some row =>
      refine ⟨final row, loads store row stored, ?_⟩
      change LoadedRole later final (final row) (.ok (rowOf requestId store))
      rw [stored]
      rfl

theorem follows_loadTransitioned :
    (loadTransitioned requestId).Follows (ResolutionMove requestId decision)
      (fun later result => LoadedRole role final later (result.map some)) role := by
  refine follows_bind (follows_loadApprovalRequest normal loads) ?_ fun _ _ _ => trivial
  intro later found held
  cases found with
  | none => exact follows_finish trivial
  | some row => exact follows_finish held

end

theorem follows_update {role : ResolutionRole} (moved : ResolutionRole) (moves : ∀ before after,
      StatusMoved requestId request.expectedStatus request.nextStatus before after ->
        ResolutionMove requestId decision role before moved after) :
    (update (updateApprovalRequest requestId request)).Follows (ResolutionMove requestId decision)
      (fun later result => result = .ok true /\ later = moved \/
        result ≠ .ok true /\ later = role) role := by
  refine follows_atomic fun circumstance store => ?_
  cases circumstance.fault with
  | some error => exact ⟨role, .rest role store, Or.inr ⟨nofun, rfl⟩⟩
  | none =>
    rcases updateApprovalRequest_cases with unchanged | ⟨hit, sets⟩
    · rw [unchanged]
      exact ⟨role, .rest role store, Or.inr ⟨nofun, rfl⟩⟩
    · rw [hit]
      exact ⟨moved, moves store _ sets, Or.inl ⟨rfl, rfl⟩⟩

/-- An update of the status is one move, and so is loading the row. -/
theorem follows_transition (moved : ResolutionRole)
    (named : trim approvalRequestId = requestId) (moves : ∀ before after,
      StatusMoved requestId request.expectedStatus request.nextStatus before after ->
        ResolutionMove requestId decision role before moved after)
    (loads : ∀ store row, rowOf requestId store = some row ->
      ResolutionMove requestId decision moved store (final row) store) :
    (transitionApprovalRequestIfCurrent approvalRequestId request).Follows
      (ResolutionMove requestId decision) (LoadedRole role final) role := by
  have normal : trim requestId = requestId := by rw [<- named, trim_trim]
  refine follows_bind follows_normalized ?_ fun _ _ _ => trivial
  rintro later key ⟨rfl, normalized⟩
  rw [normalized key rfl, named]
  refine follows_bind (follows_update moved moves) ?_ fun _ _ _ => trivial
  intro after affected reached
  cases affected with
  | false =>
    have same : after = later := by
      cases reached with
      | inl hit => cases hit.1
      | inr missed => exact missed.2
    rw [same]
    exact follows_finish rfl
  | true =>
    have isMoved : after = moved := by
      cases reached with
      | inl hit => exact hit.2
      | inr missed => exact absurd rfl missed.1
    rw [isMoved]
    refine follows_bind (follows_loadTransitioned normal loads) ?_ fun _ _ _ => trivial
    intro last row held
    exact follows_finish held

theorem follows_reportReplay (named : trim approvalRequestId = requestId)
    (ready : role = .replayed \/ ∃ payload, role = .holding payload)
    (replayed : Except String PlaneOutcome) :
    (reportReplay approvalRequestId replayed).Follows (ResolutionMove requestId decision)
      (fun _ _ => True) role := by
  have reports : ∀ lastError, (transitionApprovalRequestIfCurrent approvalRequestId
        (markExecuted lastError)).Follows (ResolutionMove requestId decision)
          (fun _ _ => True) role := by
    intro lastError
    refine follows_mono (follows_transition .settled named
      (fun before after => .report ready) (fun store row _ => .rest .settled store))
      fun _ _ _ => trivial
  cases replayed with
  | ok output =>
    refine follows_bind (reports none) ?_ fun _ _ _ => trivial
    intro later executed _
    exact follows_after_passive passive_lift (fun _ => follows_finish trivial) fun _ => trivial
  | error error =>
    refine follows_bind (reports (some error)) ?_ fun _ _ _ => trivial
    intro later executed _
    exact follows_finish trivial

/-- The tool is replayed with the payload that is held, or not at all. -/
theorem follows_replayApprovedRequest :
    (replayApprovedRequest approvalRequest).Follows (ResolutionMove requestId decision)
      (fun later _ => later = .replayed \/ ∃ payload, later = .holding payload)
      (.holding approvalRequest.requestPayloadJson) := by
  have stillHolding : (ResolutionRole.holding approvalRequest.requestPayloadJson = .replayed \/
      ∃ payload, ResolutionRole.holding approvalRequest.requestPayloadJson = .holding payload) :=
    Or.inr ⟨_, rfl⟩
  unfold replayApprovedRequest
  cases replays : replayRequest approvalRequest.requestPayloadJson with
  | error error => exact follows_finish stillHolding
  | ok request =>
    rw [lift_ok_bind]
    refine follows_after_passive passive_query (fun _ => ?_) fun _ => stillHolding
    refine follows_atomic fun circumstance store => ?_
    cases circumstance.refusal with
    | some reason => exact ⟨_, .rest _ store, stillHolding⟩
    | none => exact ⟨.replayed, .replay replays rfl rfl rfl, Or.inl rfl⟩

theorem follows_executeApprovedRequest (named : trim approvalRequestId = requestId) :
    (executeApprovedRequest approvalRequestId).Follows (ResolutionMove requestId decision)
      (fun _ _ => True) .approver := by
  have starts : (transitionApprovalRequestIfCurrent approvalRequestId
      markExecuting).Follows (ResolutionMove requestId decision)
        (LoadedRole .approver fun row => .holding row.requestPayloadJson) .approver := by
    refine follows_transition .executing named (fun before after => .start) ?_
    intro store row stored
    apply ResolutionMove.hold
    rw [payloadOf, stored]
    rfl
  refine follows_bind starts ?_ fun _ _ _ => trivial
  intro later executing held
  cases executing with
  | none => exact follows_finish trivial
  | some row =>
    have holding : later = .holding row.requestPayloadJson := held
    rw [holding, okOr, lift_ok_bind]
    have replays : ((replayApprovedRequest row).caught :
        RepositoryProgram (Except String PlaneOutcome)).Follows
        (ResolutionMove requestId decision)
          (fun later _ => later = .replayed \/ ∃ payload, later = .holding payload)
        (.holding row.requestPayloadJson) :=
      follows_caught (follows_replayApprovedRequest row)
    refine follows_bind replays ?_ fun _ _ _ => trivial
    intro last replayed ready
    exact follows_reportReplay named ready replayed

theorem follows_claimPending {request : ApprovalResolutionRequest}
    {nextStatus : ApprovalRequestStatus} (named : trim request.approvalRequestId = requestId)
    (moves : ∀ before after, StatusMoved requestId .pending nextStatus before after ->
      ResolutionMove requestId decision .contender before role after) :
    (claimPending request nextStatus).Follows (ResolutionMove requestId decision)
      (fun later result => ∀ row, result = .ok row -> later = role) .contender := by
  refine follows_bind
    (follows_transition role named moves (fun store _ _ => .rest role store)) ?_ fun _ _ _ => nofun
  intro later claimed held
  cases claimed with
  | some row => exact follows_finish fun _ _ => held
  | none =>
    refine follows_after_passive passive_loadApprovalRequest (fun latest => ?_) fun _ => nofun
    exact follows_after_passive passive_lift (fun _ => follows_finish nofun) fun _ => nofun

/-- All that a grant changes is the grants. -/
theorem follows_grantAlways (always : decision = .approveAlways)
    (approved : ApprovalRequestRecord) :
    (grantAlways approved).Follows (ResolutionMove requestId decision)
      (fun later _ => later = .approver) .approver := by
  have stays : ∀ (error : String),
      (fun (later : ResolutionRole) (_ : Except String Unit) => later = .approver) .approver
        (.error error) := fun _ => rfl
  refine follows_after_passive passive_query (fun root => ?_) stays
  refine follows_after_passive passive_lift (fun scopeSessionId => ?_) stays
  have upserts : (upsertApprovalGrant
      { scopeSessionId, approvalKey := approved.approvalKey }).Follows
        (ResolutionMove requestId decision) (fun later _ => later = .approver) .approver := by
    refine follows_after_passive passive_lift (fun scope => ?_) fun _ => rfl
    refine follows_after_passive passive_lift (fun key => ?_) fun _ => rfl
    refine follows_after_passive passive_loadSession (fun session => ?_) fun _ => rfl
    refine follows_after_passive passive_lift (fun _ => ?_) fun _ => rfl
    have inserts : (update (fun repository =>
        ((), insertApprovalGrant ⟨scope, key⟩ repository))).Follows
          (ResolutionMove requestId decision) (fun later _ => later = .approver) .approver := by
      refine follows_atomic fun circumstance store => ⟨.approver, ?_, rfl⟩
      cases circumstance.fault with
      | some error => exact .rest .approver store
      | none =>
        refine .grant always ?_ rfl
        dsimp only
        unfold insertApprovalGrant
        split <;> rfl
    refine follows_bind inserts ?_ fun _ _ same => same
    rintro later ⟨⟩ rfl
    refine follows_after_passive passive_loadApprovalGrant (fun stored => ?_) fun _ => rfl
    exact passive_lift _
  refine follows_bind upserts ?_ fun _ _ same => same
  rintro later grant rfl
  exact follows_finish rfl

theorem follows_settleRequest {request : ApprovalResolutionRequest}
    (named : trim request.approvalRequestId = requestId) :
    (settleRequest request).Follows (ResolutionMove requestId request.decision)
      (fun _ _ => True) .contender := by
  unfold settleRequest
  cases decides : request.decision with
  | deny =>
    refine follows_bind (follows_claimPending named (fun _ _ => .deny rfl)) ?_ fun _ _ _ => trivial
    intro later resolved _
    exact follows_finish trivial
  | approveOnce =>
    refine follows_bind (follows_claimPending named (fun _ _ => .approve nofun)) ?_
      fun _ _ _ => trivial
    intro later approved claimed
    rw [claimed approved rfl]
    exact follows_executeApprovedRequest named
  | approveAlways =>
    refine follows_bind (follows_claimPending named (fun _ _ => .approve nofun)) ?_
      fun _ _ _ => trivial
    intro later approved claimed
    rw [claimed approved rfl]
    refine follows_bind (follows_grantAlways rfl approved) ?_ fun _ _ _ => trivial
    rintro last ⟨⟩ rfl
    exact follows_executeApprovedRequest named

/-- A resolution follows the protocol from the start. -/
theorem follows_resolveApprovalRequest (request : ApprovalResolutionRequest) :
    (resolveApprovalRequest request).Follows
      (ResolutionMove (trim request.approvalRequestId) request.decision)
      (fun _ _ => True) .contender := by
  refine follows_after_passive passive_query (fun _ => ?_) fun _ => trivial
  refine follows_after_passive passive_loadApprovalRequest (fun found => ?_) fun _ => trivial
  refine follows_after_passive passive_lift (fun approvalRequest => ?_) fun _ => trivial
  refine follows_after_passive (passive_requestVisible approvalRequest) (fun visible => ?_)
    fun _ => trivial
  refine follows_after_passive passive_lift (fun _ => ?_) fun _ => trivial
  exact follows_settleRequest rfl

end Following

/-! ## What every interleaving guarantees -/

/-- The only ways in which the status of a request moves. -/
inductive StatusStep : ApprovalRequestStatus -> ApprovalRequestStatus -> Prop where
  | deny : StatusStep .pending .denied
  | approve : StatusStep .pending .approved
  | start : StatusStep .approved .executing
  | finish : StatusStep .executing .executed

section Contract

variable {ι : Type}

def runsTool (transition : Transition ι Store) : Bool :=
  decide (transition.after.ranTools.length ≠ transition.before.ranTools.length)

variable (requestId : String)

/-- What one transition of a call with the given decision may do. -/
structure LawfulTransition (decision : ApprovalDecision)
    (stored : Option Json) (before after : Store) : Prop where
  status : statusOf requestId after = statusOf requestId before \/
      ∃ previous next, StatusStep previous next /\
        statusOf requestId before = some previous /\ statusOf requestId after = some next
  replayed : after.ranTools = before.ranTools \/ decision ≠ .deny /\ ∃ payload request,
        stored = some payload /\ replayRequest payload = .ok request /\
          after.ranTools = before.ranTools ++ [request]
  granted : after.repository.approvalGrants = before.repository.approvalGrants \/
      decision = .approveAlways

variable (decisions : ι -> ApprovalDecision) (stored : Option Json)

/-- Each transition is lawful, all that change anything belong to one call,
and a tool is run at most once. -/
structure ResolutionContract (past : List (Transition ι Store)) : Prop where
  lawful : ∀ transition, transition ∈ past ->
    LawfulTransition requestId (decisions transition.thread) stored transition.before
      transition.after
  oneCall : ∀ first second, first ∈ past -> second ∈ past ->
    first.after ≠ first.before -> second.after ≠ second.before -> first.thread = second.thread
  oneReplay : past.countP runsTool <= 1

/-- How often the tool may have been run when a call has come this far. -/
def RoleProgress (decision : ApprovalDecision) (stored : Option Json) (runs : Nat) :
    ResolutionRole -> Prop
  | .contender => False
  | .approver => decision ≠ .deny /\ runs = 0
  | .executing => decision ≠ .deny /\ runs = 0
  | .holding payload => decision ≠ .deny /\ runs = 0 /\ stored = some payload
  | .replayed => runs <= 1
  | .settled => runs <= 1

/-- Only the winner has changed anything, and the request is not pending. -/
structure Won (past : List (Transition ι Store)) (roles : ι -> ResolutionRole) (store : Store)
    (winner : ι) : Prop where
  others : ∀ thread, thread ≠ winner -> roles thread = .contender
  taken : statusOf requestId store ≠ some .pending
  effects : ∀ transition, transition ∈ past -> transition.after ≠ transition.before ->
    transition.thread = winner
  progress : RoleProgress (decisions winner) stored (past.countP runsTool) (roles winner)

structure ResolutionInvariant (past : List (Transition ι Store))
    (roles : ι -> ResolutionRole)
    (store : Store) : Prop where
  lawful : ∀ transition, transition ∈ past ->
    LawfulTransition requestId (decisions transition.thread) stored transition.before
      transition.after
  payload : payloadOf requestId store = stored
  phase : (∀ thread, roles thread = .contender) /\
        (∀ transition, transition ∈ past -> transition.after = transition.before) /\
        past.countP runsTool = 0 \/
      ∃ winner, Won requestId decisions stored past roles store winner

variable {requestId : String} {decisions : ι -> ApprovalDecision} {stored : Option Json}
  {past : List (Transition ι Store)} {roles : ι -> ResolutionRole} {store : Store}

theorem lawful_rest {decision : ApprovalDecision} (store : Store) :
    LawfulTransition requestId decision stored store store :=
  ⟨Or.inl rfl, Or.inl rfl, Or.inl rfl⟩

variable {before : Store} {decision : ApprovalDecision} {next : ApprovalRequestStatus}

theorem lawful_append {thread : ι} {after : Store} (lawful : ∀ transition, transition ∈ past ->
      LawfulTransition requestId (decisions transition.thread) stored transition.before
        transition.after)
    (new : LawfulTransition requestId (decisions thread) stored before after) :
    ∀ transition, transition ∈ past ++ [⟨thread, before, after⟩] ->
      LawfulTransition requestId (decisions transition.thread) stored transition.before
        transition.after :=
  List.forall_mem_append.mpr ⟨lawful, List.forall_mem_singleton.mpr new⟩

theorem countP_rest {thread : ι} {store : Store} :
    (past ++ [(⟨thread, store, store⟩ : Transition ι Store)]).countP runsTool =
      past.countP runsTool := by
  simp [List.countP_append, runsTool]

theorem roleProgress_le {runs : Nat} {role : ResolutionRole}
    (progress : RoleProgress decision stored runs role) : runs <= 1 := by
  cases role with
  | contender => cases progress
  | approver | executing => exact Nat.le_of_eq progress.2 |>.trans (Nat.zero_le 1)
  | holding payload => exact Nat.le_of_eq progress.2.1 |>.trans (Nat.zero_le 1)
  | replayed | settled => exact progress

section

variable (holds : ResolutionInvariant requestId decisions stored past roles store)

include holds

theorem ResolutionInvariant.contract : ResolutionContract requestId decisions stored past := by
  refine ⟨holds.lawful, ?_, ?_⟩
  · intro first second firstIn secondIn firstChanges secondChanges
    rcases holds.phase with ⟨_, unchanged, _⟩ | ⟨winner, won⟩
    · exact absurd (unchanged first firstIn) firstChanges
    · rw [won.effects first firstIn firstChanges, won.effects second secondIn secondChanges]
  · rcases holds.phase with ⟨_, _, none⟩ | ⟨winner, won⟩
    · omega
    · exact roleProgress_le won.progress

theorem ResolutionInvariant.rests (thread : ι) :
    ResolutionInvariant requestId decisions stored (past ++ [⟨thread, store, store⟩]) roles
      store := by
  refine ⟨lawful_append holds.lawful (lawful_rest store), holds.payload, ?_⟩
  rcases holds.phase with ⟨contending, unchanged, none⟩ | ⟨winner, won⟩
  · refine Or.inl ⟨contending, ?_, by rw [countP_rest, none]⟩
    exact List.forall_mem_append.mpr ⟨unchanged, List.forall_mem_singleton.mpr rfl⟩
  · refine Or.inr ⟨winner, won.others, won.taken, ?_, by rw [countP_rest]; exact won.progress⟩
    intro transition member changes
    rcases List.mem_append.mp member with old | isNew
    · exact won.effects transition old changes
    · rw [List.mem_singleton.mp isNew] at changes
      exact absurd rfl changes

/-- A call that is no contender any more has won. -/
theorem ResolutionInvariant.won {thread : ι} (advanced : roles thread ≠ .contender) :
    Won requestId decisions stored past roles store thread := by
  rcases holds.phase with ⟨contending, _, _⟩ | ⟨winner, won⟩
  · exact absurd (contending thread) advanced
  · by_cases isWinner : thread = winner
    · rw [isWinner]
      exact won
    · exact absurd (won.others thread isWinner) advanced

end

variable {thread : ι} {later : ResolutionRole} {after : Store}

theorem lawful_of_moved {previous : ApprovalRequestStatus} (step : StatusStep previous next)
    (moved : StatusMoved requestId previous next before after) :
    LawfulTransition requestId decision stored before after :=
  ⟨Or.inr ⟨previous, next, step, moved.was, moved.becomes⟩, Or.inl moved.ranTools,
    Or.inl moved.grants⟩

theorem countP_quiet (quiet : after.ranTools = before.ranTools) :
    (past ++ [(⟨thread, before, after⟩ : Transition ι Store)]).countP runsTool =
      past.countP runsTool := by
  simp [List.countP_append, runsTool, quiet]

theorem rows_kept (requestId : String)
    (rows : after.repository.approvalRequests = before.repository.approvalRequests) :
    statusOf requestId after = statusOf requestId before /\
      payloadOf requestId after = payloadOf requestId before := by
  unfold statusOf payloadOf rowOf
  rw [rows]
  exact ⟨rfl, rfl⟩

variable [DecidableEq ι]

section

variable (holds : ResolutionInvariant requestId decisions stored past roles store)

include holds

/-- A move of a call that has won, or wins by it. -/
theorem ResolutionInvariant.advance (others : ∀ other, other ≠ thread -> roles other = .contender)
    (effects : ∀ transition, transition ∈ past -> transition.after ≠ transition.before ->
      transition.thread = thread)
    (lawful : LawfulTransition requestId (decisions thread) stored store after)
    (payload : payloadOf requestId after = payloadOf requestId store)
    (taken : statusOf requestId after ≠ some .pending)
    (progress : RoleProgress (decisions thread) stored
      ((past ++ [(⟨thread, store, after⟩ : Transition ι Store)]).countP runsTool) later) :
    ResolutionInvariant requestId decisions stored (past ++ [⟨thread, store, after⟩])
      (update roles thread later) after := by
  refine ⟨lawful_append holds.lawful lawful, payload.trans holds.payload,
    Or.inr ⟨thread, ?_, taken, ?_, ?_⟩⟩
  · intro other different
    rw [update_of_ne different]
    exact others other different
  · intro transition member changes
    rcases List.mem_append.mp member with old | isNew
    · exact effects transition old changes
    · rw [List.mem_singleton.mp isNew]
  · rw [update_self]
    exact progress

/-- A call that claims the request wins. -/
theorem ResolutionInvariant.claims (step : StatusStep .pending next)
    (moved : StatusMoved requestId .pending next store after)
    (progress : past.countP runsTool = 0 ->
      RoleProgress (decisions thread) stored (past.countP runsTool) later) :
    ResolutionInvariant requestId decisions stored (past ++ [⟨thread, store, after⟩])
      (update roles thread later) after := by
  rcases holds.phase with ⟨contending, unchanged, none⟩ | ⟨winner, won⟩
  case inr => exact absurd moved.was won.taken
  refine holds.advance (fun other _ => contending other)
    (fun transition member changes => absurd (unchanged transition member) changes)
    (lawful_of_moved step moved) moved.payload ?_ ?_
  · rw [moved.becomes]
    cases step <;> nofun
  · rw [countP_quiet moved.ranTools]
    exact progress none

/-- Every move of the protocol preserves the invariant. -/
theorem ResolutionInvariant.moves
    (move : ResolutionMove requestId (decisions thread) (roles thread) store later after) :
    ResolutionInvariant requestId decisions stored (past ++ [⟨thread, store, after⟩])
      (update roles thread later) after := by
  generalize current : roles thread = role at move
  cases move with
  | rest =>
    rw [<- current, update_eq_self]
    exact holds.rests thread
  | deny denies moved =>
    refine holds.claims .deny moved fun none => ?_
    rw [none]
    exact Nat.zero_le 1
  | approve approves moved => exact holds.claims .approve moved fun none => ⟨approves, none⟩
  | grant always rows ranTools =>
    have won := holds.won (by rw [current]; nofun)
    have progress := won.progress
    have same := rows_kept requestId rows
    rw [current] at progress
    refine holds.advance won.others won.effects
      ⟨Or.inl same.1, Or.inl ranTools, Or.inr always⟩ same.2 ?_ ?_
    · rw [same.1]
      exact won.taken
    · rw [countP_quiet ranTools]
      exact progress
  | start moved =>
    have won := holds.won (by rw [current]; nofun)
    have progress := won.progress
    rw [current] at progress
    refine holds.advance won.others won.effects (lawful_of_moved .start moved) moved.payload ?_ ?_
    · rw [moved.becomes]
      nofun
    · rw [countP_quiet moved.ranTools]
      exact progress
  | hold held =>
    have won := holds.won (by rw [current]; nofun)
    have progress := won.progress
    rw [current] at progress
    refine holds.advance won.others won.effects (lawful_rest store) rfl won.taken ?_
    rw [countP_rest]
    exact ⟨progress.1, progress.2, holds.payload.symm.trans held⟩
  | replay replays rows grants ranTools =>
    have won := holds.won (by rw [current]; nofun)
    have progress := won.progress
    have same := rows_kept requestId rows
    rw [current] at progress
    rcases progress with ⟨approves, none, isStored⟩
    refine holds.advance won.others won.effects
      ⟨Or.inl same.1, Or.inr ⟨approves, _, _, isStored, replays, ranTools⟩, Or.inl grants⟩
      same.2 ?_ ?_
    · rw [same.1]
      exact won.taken
    · rw [List.countP_append, none]
      exact Nat.zero_add _ ▸ List.countP_le_length
  | report ready moved =>
    have won := holds.won (by
      rw [current]
      rcases ready with rfl | ⟨payload, rfl⟩ <;> nofun)
    refine holds.advance won.others won.effects (lawful_of_moved .finish moved) moved.payload ?_ ?_
    · rw [moved.becomes]
      nofun
    · rw [countP_quiet moved.ranTools]
      exact roleProgress_le won.progress

end

end Contract

/-- Any number of calls resolve one stored request at once, in any order of
their statements and under any circumstances.  The status moves only from
pending to denied, or from pending over approved and executing to executed.
At most one call takes effect.  The stored tool call is replayed at most
once, and only by a call that approves; a grant is stored only by a call that
approves for always. -/
theorem resolution_contract {ι : Type} [DecidableEq ι] (requestId : String)
    (requests : ι -> ApprovalResolutionRequest) (start : Store)
    (schedule : List (ι × Circumstance)) :
    let calls : Pool ι Circumstance Store String ApprovalResolutionOutcome :=
      { shared := start
        threads := fun thread =>
          resolveApprovalRequest { requests thread with approvalRequestId := requestId } }
    ResolutionContract (trim requestId) (fun thread => (requests thread).decision)
      (payloadOf (trim requestId) start) (calls.trace schedule) := by
  intro calls
  have follow : calls.Follow
      (fun thread => ResolutionMove (trim requestId) (requests thread).decision)
      (fun _ => .contender) :=
    fun thread => follows_resolveApprovalRequest
      { requests thread with approvalRequestId := requestId }
  have initially : ResolutionInvariant (trim requestId)
      (fun thread => (requests thread).decision) (payloadOf (trim requestId) start) []
      (fun _ : ι => .contender) start :=
    ⟨nofun, rfl, Or.inl ⟨fun _ => rfl, nofun, rfl⟩⟩
  rcases Pool.trace_invariant (fun _ _ _ thread holds => holds.rests thread)
    (fun _ _ _ _ _ _ holds move => holds.moves move) follow initially with
    ⟨finalRoles, final, holds⟩
  exact holds.contract

end LoongClaw.Conversation
