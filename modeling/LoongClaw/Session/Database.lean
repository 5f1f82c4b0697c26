import LoongClaw.Session.Repository
import LoongClaw.Tools.RuntimeConfig

namespace LoongClaw.Session

open Foundation Contracts Tools

/-!
# The session database

The sessions with all their columns, their events, their terminal outcomes
and what is read of their turns.  A method of the repository is a program of
statements and transactions.  Each transaction is atomic, and may fail without
effect.

Timestamps are seconds.  An event payload that is read again is kept as the
value it encodes.
-/

inductive SessionKind where
  | root
  | delegateChild
  deriving DecidableEq

def SessionKind.asStr : SessionKind -> String
  | .root => "root"
  | .delegateChild => "delegate_child"

inductive SessionState where
  | ready
  | running
  | completed
  | failed
  | timedOut
  deriving DecidableEq

def SessionState.asStr : SessionState -> String
  | .ready => "ready"
  | .running => "running"
  | .completed => "completed"
  | .failed => "failed"
  | .timedOut => "timed_out"

def SessionState.isTerminal : SessionState -> Bool
  | .completed | .failed | .timedOut => true
  | .ready | .running => false

/-- A row of the sessions table. -/
structure SessionRow extends SessionRecord where
  kind : SessionKind
  label : Option String
  state : SessionState
  (createdAt updatedAt : Int)
  lastError : Option String

structure NewSessionRecord where
  sessionId : String
  kind : SessionKind
  (parentSessionId label : Option String)
  state : SessionState

/-! ## Events -/

inductive ConstrainedSubagentMode where
  | inline
  | async
  deriving DecidableEq

inductive ConstrainedSubagentTerminalReason where
  | completed
  | failed
  | timedOut
  | spawnFailed

structure ConstrainedSubagentExecution where
  mode : ConstrainedSubagentMode
  (depth maxDepth activeChildren maxActiveChildren timeoutSeconds : Nat)
  allowShellInChild : Bool
  childToolAllowlist : List String
  runtimeNarrowing : ToolRuntimeNarrowing
  kernelBound : Bool

inductive SessionEventPayload where
  | value (json : Json)
  | spawn (task : String) (label : Option String) (execution : ConstrainedSubagentExecution)
  | terminal (terminalReason : ConstrainedSubagentTerminalReason)
      (execution : ConstrainedSubagentExecution) (durationMs : Nat) (turnCount : Option Nat)
      (error : Option String)

namespace SessionEventPayload

def execution : SessionEventPayload -> Option ConstrainedSubagentExecution
  | .value _ => none
  | .spawn _ _ execution => some execution
  | .terminal _ execution _ _ _ => some execution

/-- The timeout on the top level of the payload. -/
def timeoutSeconds : SessionEventPayload -> Option Nat
  | .value json => ((json.get "timeout_seconds").bind Json.asU64).map UInt64.toNat
  | .spawn _ _ _ | .terminal _ _ _ _ _ => none

end SessionEventPayload

structure SessionEventRecord where
  id : Nat
  (sessionId eventKind : String)
  actorSessionId : Option String
  payloadJson : SessionEventPayload
  ts : Int

structure SessionTerminalOutcomeRecord where
  (sessionId status : String)
  payloadJson : Json
  recordedAt : Int

/-- What is read of a turn. -/
structure TurnRow where
  sessionId : String
  ts : Int

structure SessionDatabase where
  sessions : List SessionRow
  events : List SessionEventRecord
  terminalOutcomes : OrderedMap String SessionTerminalOutcomeRecord
  turns : List TurnRow

/-! ## Requests -/

structure CreateSessionWithEventRequest where
  session : NewSessionRecord
  eventKind : String
  actorSessionId : Option String
  eventPayloadJson : SessionEventPayload

structure FinalizeSessionTerminalRequest where
  state : SessionState
  lastError : Option String
  eventKind : String
  actorSessionId : Option String
  eventPayloadJson : SessionEventPayload
  outcomeStatus : String
  outcomePayloadJson : Json

structure TransitionSessionWithEventIfCurrentRequest where
  (expectedState nextState : SessionState)
  lastError : Option String
  eventKind : String
  actorSessionId : Option String
  eventPayloadJson : SessionEventPayload

/-! ## Statements -/

/-- The row after an update of the session in the expected state. -/
def SessionRow.update (sessionId : String) (expectedState nextState : SessionState)
    (lastError : Option String) (now : Int) (row : SessionRow) : SessionRow :=
  if row.sessionId = sessionId /\ row.state = expectedState then
    { row with
      state := nextState
      updatedAt := now
      lastError := lastError }
  else row

section Update

variable (sessionId : String) (expectedState nextState : SessionState) (lastError : Option String)
  (now : Int) (row : SessionRow)

@[simp] theorem SessionRow.update_toSessionRecord :
    (row.update sessionId expectedState nextState lastError now).toSessionRecord =
      row.toSessionRecord := by
  unfold update
  split <;> rfl

@[simp] theorem SessionRow.update_kind :
    (row.update sessionId expectedState nextState lastError now).kind = row.kind := by
  unfold update
  split <;> rfl

end Update

namespace SessionDatabase

def findSession (sessionId : String) (database : SessionDatabase) : Option SessionRow :=
  database.sessions.find? (·.sessionId = sessionId)

/-- The row of a new session. -/
def newRow (now : Int) (record : NewSessionRecord) : SessionRow where
  sessionId := record.sessionId
  parentSessionId := record.parentSessionId
  kind := record.kind
  label := record.label
  state := record.state
  createdAt := now
  updatedAt := now
  lastError := none

def insertSession (now : Int) (record : NewSessionRecord) (database : SessionDatabase) :
    Except String SessionDatabase :=
  if (database.findSession record.sessionId).isSome then
    .error "insert session row failed: UNIQUE constraint failed: sessions.session_id"
  else .ok { database with sessions := database.sessions ++ [newRow now record] }

/-- Compare and set the state of a session. -/
def changeState (sessionId : String) (expectedState nextState : SessionState)
    (lastError : Option String) (now : Int) (database : SessionDatabase) :
    Option SessionDatabase :=
  if database.sessions.any (fun row =>
      row.sessionId = sessionId && row.state = expectedState) then
    some { database with
      sessions := database.sessions.map
        (SessionRow.update sessionId expectedState nextState lastError now) }
  else none

def insertEvent (sessionId eventKind : String) (actorSessionId : Option String)
    (payloadJson : SessionEventPayload) (now : Int) (database : SessionDatabase) :
    SessionEventRecord × SessionDatabase :=
  let event :=
    { id := database.events.length + 1
      sessionId := sessionId
      eventKind := eventKind
      actorSessionId := actorSessionId
      payloadJson := payloadJson
      ts := now }
  (event, { database with events := database.events ++ [event] })

def upsertOutcome (outcome : SessionTerminalOutcomeRecord) (database : SessionDatabase) :
    SessionDatabase :=
  { database with
    terminalOutcomes := OrderedMap.insert outcome.sessionId outcome database.terminalOutcomes }

def countActiveDirectChildren (parentSessionId : String) (database : SessionDatabase) : Nat :=
  database.sessions.countP fun row =>
    row.parentSessionId = some parentSessionId && !row.state.isTerminal

end SessionDatabase

/-! ## Summaries -/

structure SessionSummaryRecord extends SessionRow where
  archivedAt : Option Int
  turnCount : Nat
  lastTurnAt : Option Int

namespace SessionDatabase

variable (sessionId : String) (database : SessionDatabase)

def turnsOf : List Int :=
  (database.turns.filter (·.sessionId = sessionId)).map TurnRow.ts

def summary (row : SessionRow) (database : SessionDatabase) : SessionSummaryRecord where
  toSessionRow := row
  archivedAt :=
    ((database.events.filter fun event =>
      event.eventKind = "session_archived" && event.sessionId = row.sessionId).map
        SessionEventRecord.ts).max?
  turnCount := (database.turnsOf row.sessionId).length
  lastTurnAt := (database.turnsOf row.sessionId).max?

def inferLegacySessionKind : SessionKind :=
  if "delegate:".toList.isPrefixOf sessionId.toList then .delegateChild else .root

/-- A session that has turns but no row. -/
def inferLegacySessionSummary : Option SessionSummaryRecord :=
  match (database.turnsOf sessionId).min?, (database.turnsOf sessionId).max? with
  | some createdAt, some updatedAt =>
    some {
      sessionId := sessionId
      parentSessionId := none
      kind := inferLegacySessionKind sessionId
      label := none
      state := .ready
      createdAt := createdAt
      updatedAt := updatedAt
      lastError := none
      archivedAt := none
      turnCount := (database.turnsOf sessionId).length
      lastTurnAt := some updatedAt }
  | _, _ => none

def sessionSummary : Option SessionSummaryRecord :=
  (database.findSession sessionId).map (database.summary ·)

def sessionSummaryWithLegacyFallback : Option SessionSummaryRecord :=
  (database.sessionSummary sessionId).or (database.inferLegacySessionSummary sessionId)

end SessionDatabase

end LoongClaw.Session
