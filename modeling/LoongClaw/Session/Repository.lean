import LoongClaw.Foundation.Program
import LoongClaw.Contracts.Types

namespace LoongClaw.Session

open Foundation Contracts Program Fallible OrderedMap

/-!
# The session repository

Sessions with their parents, the approval requests of governed tools and the
grants that make further requests needless.  Every method is a program of
database statements, each of which is atomic and may fail without effect.
JSON columns hold the values that are written to them and read back from
them.  A walk over the parents of a session is one statement.
-/

inductive SessionVisibility where
  | selfOnly
  | children

inductive ApprovalRequestStatus where
  | pending
  | approved
  | executing
  | executed
  | denied
  | expired
  | cancelled
  deriving DecidableEq

def ApprovalRequestStatus.asStr : ApprovalRequestStatus -> String
  | .pending => "pending"
  | .approved => "approved"
  | .executing => "executing"
  | .executed => "executed"
  | .denied => "denied"
  | .expired => "expired"
  | .cancelled => "cancelled"

inductive ApprovalDecision where
  | approveOnce
  | approveAlways
  | deny

structure NewApprovalRequestRecord where
  (approvalRequestId sessionId turnId toolCallId toolName approvalKey : String)
  (requestPayloadJson governanceSnapshotJson : Json)

structure ApprovalRequestRecord extends NewApprovalRequestRecord where
  status : ApprovalRequestStatus
  decision : Option ApprovalDecision
  (resolvedBySessionId lastError : Option String)

structure TransitionApprovalRequestIfCurrentRequest where
  (expectedStatus nextStatus : ApprovalRequestStatus)
  decision : Option ApprovalDecision
  (resolvedBySessionId lastError : Option String)

structure NewApprovalGrantRecord where
  (scopeSessionId approvalKey : String)
  deriving DecidableEq

structure SessionRecord where
  sessionId : String
  parentSessionId : Option String

/-! ## The tables -/

abbrev SessionTable :=
  OrderedMap String SessionRecord

structure SessionRepository where
  sessions : SessionTable
  approvalRequests : OrderedMap String ApprovalRequestRecord
  approvalGrants : List NewApprovalGrantRecord

def normalizeRequiredText (value fieldName : String) : Except String String :=
  let trimmed := Text.trim value
  if trimmed = "" then .error ("session repository requires " ++ fieldName)
  else .ok trimmed

def normalizeOptionalText (value : Option String) : Option String :=
  (value.map Text.trim).filter (fun trimmed => decide (trimmed ≠ ""))

/-- The row after an update: an absent decision or resolver keeps the stored
one, the last error is always replaced. -/
def ApprovalRequestRecord.transitioned (row : ApprovalRequestRecord)
    (request : TransitionApprovalRequestIfCurrentRequest) : ApprovalRequestRecord :=
  { row with
    status := request.nextStatus
    decision := request.decision.or row.decision
    resolvedBySessionId :=
      (normalizeOptionalText request.resolvedBySessionId).or row.resolvedBySessionId
    lastError := normalizeOptionalText request.lastError }

/-- The row of a new request. -/
def pendingRow (record : NewApprovalRequestRecord) : ApprovalRequestRecord where
  toNewApprovalRequestRecord := record
  status := .pending
  decision := none
  resolvedBySessionId := none
  lastError := none

namespace SessionRepository

/-- Insert a session, unless the key is taken. -/
def insertSession (record : SessionRecord) (repository : SessionRepository) :
    Bool × SessionRepository :=
  if contains record.sessionId repository.sessions then (false, repository)
  else
    (true,
      { repository with
        sessions := insert record.sessionId record repository.sessions })

/-- Insert a pending request, unless the key is taken. -/
def insertApprovalRequest (record : NewApprovalRequestRecord) (repository : SessionRepository) :
    Bool × SessionRepository :=
  if contains record.approvalRequestId repository.approvalRequests then
    (false, repository)
  else
    (true,
      { repository with
        approvalRequests :=
          insert record.approvalRequestId (pendingRow record)
            repository.approvalRequests })

/-- Compare and set the status of a request. -/
def updateApprovalRequest (approvalRequestId : String)
    (request : TransitionApprovalRequestIfCurrentRequest) (repository : SessionRepository) :
    Bool × SessionRepository :=
  match lookup approvalRequestId repository.approvalRequests with
  | none => (false, repository)
  | some row =>
    if row.status = request.expectedStatus then
      (true,
        { repository with
          approvalRequests :=
            insert approvalRequestId (row.transitioned request)
              repository.approvalRequests })
    else (false, repository)

def insertApprovalGrant (record : NewApprovalGrantRecord) (repository : SessionRepository) :
    SessionRepository :=
  if record ∈ repository.approvalGrants then repository
  else { repository with approvalGrants := repository.approvalGrants ++ [record] }

def cycleError (sessionId purpose : String) : String :=
  "session_lineage_cycle_detected: `" ++ sessionId ++ "` reappeared while " ++ purpose

/-- Climb to the root of a lineage.  A parent without a row is an error, a
session without a row has no root.  Each round visits another parent, so
there are at most two rounds more than rows. -/
def climbToRoot (sessions : SessionTable) :
    Nat -> List String -> String -> Except String (Option String)
  | 0, _, current => .error (cycleError current "computing lineage root")
  | rounds + 1, seen, current =>
    if current ∈ seen then .error (cycleError current "computing lineage root")
    else do
      let sessionId <- normalizeRequiredText current "session_id"
      match lookup sessionId sessions with
      | none =>
        if seen.isEmpty then .ok none
        else .error ("session_lineage_broken: missing parent row for `" ++ current ++ "`")
      | some session =>
        match session.parentSessionId with
        | some parent => climbToRoot sessions rounds (current :: seen) parent
        | none => .ok (some session.sessionId)

def lineageRoot (sessionId : String) (repository : SessionRepository) :
    Except String (Option String) := do
  let sessionId <- normalizeRequiredText sessionId "session_id"
  climbToRoot repository.sessions (repository.sessions.length + 2) [] sessionId

/-- Climb from a session until its parent is the current one. -/
def climbToParent (sessions : SessionTable) (currentSessionId : String) :
    Nat -> List String -> String -> Except String Bool
  | 0, _, sessionId => .error (cycleError sessionId "checking visibility")
  | rounds + 1, seen, sessionId =>
    if sessionId ∈ seen then .error (cycleError sessionId "checking visibility")
    else do
      let key <- normalizeRequiredText sessionId "session_id"
      match lookup key sessions with
      | none => .ok false
      | some session =>
        match session.parentSessionId with
        | some parent =>
          if parent = currentSessionId then .ok true
          else climbToParent sessions currentSessionId rounds (sessionId :: seen) parent
        | none => .ok false

def sessionVisible (currentSessionId targetSessionId : String) (repository : SessionRepository) :
    Except String Bool := do
  let currentSessionId <- normalizeRequiredText currentSessionId "current_session_id"
  let targetSessionId <- normalizeRequiredText targetSessionId "target_session_id"
  if currentSessionId = targetSessionId then .ok true
  else
    climbToParent repository.sessions currentSessionId (repository.sessions.length + 2) []
      targetSessionId

end SessionRepository

/-! ## Programs -/

/-- What happens to a statement: the error of the database, if it fails, and
for a tool what the application does with it. -/
structure Circumstance where
  (fault refusal : Option String)
  outcome : Except String PlaneOutcome
  sessions : SessionTable -> SessionTable

/-- Everything works. -/
instance : Inhabited Circumstance where
  default :=
    { fault := none
      refusal := none
      outcome := .ok ⟨"ok", .null⟩
      sessions := id }

/-- The repository, and the requests of the app tools that have been run. -/
structure Store where
  repository : SessionRepository
  ranTools : List ToolCoreRequest

abbrev RepositoryProgram (α : Type) :=
  Program Circumstance Store String α

/-- A statement that only reads. -/
def query {α : Type} (read : SessionRepository -> Except String α) : RepositoryProgram α :=
  atomic (fun circumstance store =>
    match circumstance.fault with
    | some error => (.error error, store)
    | none => (read store.repository, store))

/-- A statement that writes. -/
def update {α : Type} (write : SessionRepository -> α × SessionRepository) : RepositoryProgram α :=
  atomic (fun circumstance store =>
    match circumstance.fault with
    | some error => (.error error, store)
    | none =>
      (.ok (write store.repository).1, { store with repository := (write store.repository).2 }))

/-- Run an app tool.  The application may refuse to; a tool that is run
may change the sessions, whether it succeeds or not. -/
def runAppTool (request : ToolCoreRequest) : RepositoryProgram PlaneOutcome :=
  atomic (fun circumstance store =>
    match circumstance.refusal with
    | some reason => (.error reason, store)
    | none =>
      (circumstance.outcome,
        { repository :=
            { store.repository with sessions := circumstance.sessions store.repository.sessions }
          ranTools := store.ranTools ++ [request] }))

namespace SessionRepository

variable (sessionId approvalRequestId : String)

def loadSession : RepositoryProgram (Option SessionRecord) := do
  let sessionId <- lift (normalizeRequiredText sessionId "session_id")
  query (fun repository => .ok (lookup sessionId repository.sessions))

def createMissingSession (record : SessionRecord) : RepositoryProgram SessionRecord := do
  let inserted <- update (insertSession
    { sessionId, parentSessionId := normalizeOptionalText record.parentSessionId })
  let stored <- loadSession sessionId
  lift (okOr stored (if inserted then "session row `" ++ sessionId ++ "` disappeared after insert"
      else "session `" ++ sessionId ++ "` missing after concurrent insert"))

def ensureSession (record : SessionRecord) : RepositoryProgram SessionRecord := do
  let sessionId <- lift (normalizeRequiredText record.sessionId "session_id")
  let existing <- loadSession sessionId
  match existing with
  | some session => pure session
  | none => createMissingSession sessionId record

def lineageRootSessionId : RepositoryProgram (Option String) :=
  query (lineageRoot sessionId)

def isSessionVisible (currentSessionId targetSessionId : String) : RepositoryProgram Bool :=
  query (sessionVisible currentSessionId targetSessionId)

def loadApprovalRequest : RepositoryProgram (Option ApprovalRequestRecord) := do
  let approvalRequestId <- lift (normalizeRequiredText approvalRequestId "approval_request_id")
  query (fun repository =>
    .ok (lookup approvalRequestId repository.approvalRequests))

/-- The record as it is stored: every text is trimmed and none is empty. -/
def normalizeApprovalRequest (record : NewApprovalRequestRecord) :
    Except String NewApprovalRequestRecord := do
  let approvalRequestId <- normalizeRequiredText record.approvalRequestId "approval_request_id"
  let sessionId <- normalizeRequiredText record.sessionId "session_id"
  let turnId <- normalizeRequiredText record.turnId "turn_id"
  let toolCallId <- normalizeRequiredText record.toolCallId "tool_call_id"
  let toolName <- normalizeRequiredText record.toolName "tool_name"
  let approvalKey <- normalizeRequiredText record.approvalKey "approval_key"
  .ok { record with approvalRequestId, sessionId, turnId, toolCallId, toolName, approvalKey }

/-- An existing row is kept as it is. -/
def ensureApprovalRequest (record : NewApprovalRequestRecord) :
    RepositoryProgram ApprovalRequestRecord := do
  let record <- lift (normalizeApprovalRequest record)
  let session <- loadSession record.sessionId
  let _ <- lift (okOr session ("session `" ++ record.sessionId ++ "` not found"))
  let inserted <- update (insertApprovalRequest record)
  let stored <- loadApprovalRequest record.approvalRequestId
  lift (okOr stored (if inserted then "approval request `" ++ record.approvalRequestId ++
        "` disappeared after insert"
      else "approval request `" ++ record.approvalRequestId ++ "` missing after concurrent insert"))

/-- Load a request that was just updated. -/
def loadTransitioned : RepositoryProgram ApprovalRequestRecord := do
  let stored <- loadApprovalRequest approvalRequestId
  lift (okOr stored
    ("approval request `" ++ approvalRequestId ++ "` missing after conditional update"))

def transitionApprovalRequestIfCurrent (request : TransitionApprovalRequestIfCurrentRequest) :
    RepositoryProgram (Option ApprovalRequestRecord) := do
  let approvalRequestId <- lift (normalizeRequiredText approvalRequestId "approval_request_id")
  let affected <- update (updateApprovalRequest approvalRequestId request)
  match affected with
  | true => do
    let row <- loadTransitioned approvalRequestId
    return some row
  | false => return none

def loadApprovalGrant (scopeSessionId approvalKey : String) :
    RepositoryProgram (Option NewApprovalGrantRecord) := do
  let scopeSessionId <- lift (normalizeRequiredText scopeSessionId "scope_session_id")
  let approvalKey <- lift (normalizeRequiredText approvalKey "approval_key")
  query (fun repository =>
    .ok (repository.approvalGrants.find? (fun grant =>
      decide (grant = { scopeSessionId, approvalKey }))))

def upsertApprovalGrant (record : NewApprovalGrantRecord) :
    RepositoryProgram NewApprovalGrantRecord := do
  let scopeSessionId <- lift (normalizeRequiredText record.scopeSessionId "scope_session_id")
  let approvalKey <- lift (normalizeRequiredText record.approvalKey "approval_key")
  let session <- loadSession scopeSessionId
  let _ <- lift (okOr session ("session `" ++ scopeSessionId ++ "` not found"))
  update (fun repository =>
    ((), insertApprovalGrant { scopeSessionId, approvalKey } repository))
  let stored <- loadApprovalGrant scopeSessionId approvalKey
  lift (okOr stored ("approval grant `" ++ scopeSessionId ++ ":" ++ approvalKey ++
      "` disappeared after upsert"))

end SessionRepository

end LoongClaw.Session
