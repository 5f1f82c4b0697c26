import LoongClaw.Foundation.Json
import LoongClaw.Memory.Summary

namespace LoongClaw.Memory

open Foundation

/-!
# The sqlite memory store

The tables of the store and the operations on them.  The turn table is its
rows in primary-key order, which is insertion order since every new key is
larger than all keys before it.  The key of a new row is an argument of the
append, chosen by the database.  Timestamps and query timings are read by no
modelled function.  Budgets stay below the largest string capacity, where the
casts to the database's integers change nothing.
-/

inductive MemoryMode where
  | windowOnly
  | windowPlusSummary
  | profilePlusWindow
  deriving DecidableEq

structure MemoryRuntimeConfig where
  mode : MemoryMode
  (slidingWindow summaryMaxChars : Nat)

namespace MemoryRuntimeConfig

def defaultWindowSize (config : MemoryRuntimeConfig) : Nat :=
  max config.slidingWindow 1

def summaryBudgetChars (config : MemoryRuntimeConfig) : Nat :=
  max config.summaryMaxChars 256

end MemoryRuntimeConfig

structure TurnRow where
  id : Int
  sessionId : String
  sessionTurnIndex : Nat
  (role content : String)

namespace TurnRow

def prompt (row : TurnRow) : PromptWindowTurn where
  role := row.role
  content := row.content

end TurnRow

structure SummaryCheckpointMeta where
  summarizedThroughTurnId : Int
  summaryBeforeTurnId : Option Int
  (summaryBodyLen summaryBudgetChars summaryWindowSize : Nat)
  summaryFormatVersion : Int

structure SummaryCheckpoint where
  summarizedThroughTurnId : Int
  summaryBeforeTurnId : Option Int
  summaryBody : String
  (summaryBudgetChars summaryWindowSize : Nat)
  summaryFormatVersion : Int

def summaryFormatVersionCurrent : Int := 1

/-- The tables the memory operations use.  `lastTurnId` is the key sequence. -/
structure Database where
  lastTurnId : Int
  turns : List TurnRow
  sessionState : OrderedMap String Nat
  checkpoints : OrderedMap String SummaryCheckpointMeta
  checkpointBodies : OrderedMap String String

namespace Database

def empty : Database where
  lastTurnId := 0
  turns := []
  sessionState := []
  checkpoints := []
  checkpointBodies := []

/-! ## Queries -/

variable (db : Database) (sessionId : String) (summaryBeforeTurnId : Option Int)
  (throughTurnId : Int) (limit : Nat) (summaryTargetThroughTurnId : Int)

/-- The session's rows in key order. -/
def sessionTurns : List TurnRow :=
  db.turns.filter (fun row => decide (row.sessionId = sessionId))

/-- The newest rows of the session, newest first. -/
def recentRows : List TurnRow :=
  (db.sessionTurns sessionId).reverse.take limit

def queryRecentPromptTurns : List PromptWindowTurn :=
  ((db.recentRows sessionId limit).map TurnRow.prompt).reverse

def querySessionTurnCount : Option Nat :=
  db.sessionState.lookup sessionId

def queryTurnsUpToId : List TurnRow :=
  (db.sessionTurns sessionId).filter (fun row => decide (row.id <= throughTurnId))

variable (afterTurnId beforeTurnId : Int)

def queryTurnsBetweenIds : List TurnRow :=
  (db.sessionTurns sessionId).filter (fun row =>
    decide (afterTurnId < row.id) && decide (row.id < beforeTurnId))

/-- At most the two rows with the smallest session indexes. -/
def queryInitialSummaryRows : List TurnRow :=
  (((db.sessionTurns sessionId).filter (fun row => decide (row.sessionTurnIndex <= 2))).mergeSort
    (fun first second => decide (first.sessionTurnIndex <= second.sessionTurnIndex))).take 2

def querySummaryFrontierUpToId : Option Int :=
  (db.queryTurnsUpToId sessionId throughTurnId).getLast?.map TurnRow.id

def querySummaryFrontierBetweenIds : Option Int :=
  (db.queryTurnsBetweenIds sessionId afterTurnId beforeTurnId).getLast?.map TurnRow.id

def querySummaryBoundaryTurnIdBySessionTurnCount : Option Int :=
  match db.sessionState.lookup sessionId with
  | none => none
  | some turnCount =>
    if limit <= turnCount then
      ((db.sessionTurns sessionId).find? (fun row =>
        decide (row.sessionTurnIndex = turnCount - limit + 1))).map TurnRow.id
    else none

def loadSummaryCheckpointMeta : Option SummaryCheckpointMeta :=
  db.checkpoints.lookup sessionId

def loadSummaryCheckpointBody (checkpointMeta : SummaryCheckpointMeta) : Option SummaryCheckpoint :=
  (db.checkpointBodies.lookup sessionId).map (fun summaryBody =>
    { summarizedThroughTurnId := checkpointMeta.summarizedThroughTurnId
      summaryBeforeTurnId := checkpointMeta.summaryBeforeTurnId
      summaryBody
      summaryBudgetChars := checkpointMeta.summaryBudgetChars
      summaryWindowSize := checkpointMeta.summaryWindowSize
      summaryFormatVersion := checkpointMeta.summaryFormatVersion })

/-! ## Checkpoint writes -/

def upsertSummaryCheckpoint (checkpoint : SummaryCheckpoint) : Database :=
  { db with
    checkpoints := db.checkpoints.insert sessionId
      { summarizedThroughTurnId := checkpoint.summarizedThroughTurnId
        summaryBeforeTurnId := checkpoint.summaryBeforeTurnId
        summaryBodyLen := checkpoint.summaryBody.utf8ByteSize
        summaryBudgetChars := checkpoint.summaryBudgetChars
        summaryWindowSize := checkpoint.summaryWindowSize
        summaryFormatVersion := checkpoint.summaryFormatVersion }
    checkpointBodies := db.checkpointBodies.insert sessionId checkpoint.summaryBody }

/-- An update of the metadata row, if there is one.  The body and its length
stay. -/
def updateSummaryCheckpointMetadata (summarizedThroughTurnId summaryBeforeTurnId : Int)
    (summaryBudgetChars summaryWindowSize : Nat) (summaryFormatVersion : Int) : Database :=
  match db.checkpoints.lookup sessionId with
  | none => db
  | some stored =>
    { db with
      checkpoints := db.checkpoints.insert sessionId
        { stored with
          summarizedThroughTurnId
          summaryBeforeTurnId := some summaryBeforeTurnId
          summaryBudgetChars
          summaryWindowSize
          summaryFormatVersion } }

/-- The body row refers to the metadata row and is deleted with it. -/
def deleteSummaryCheckpoint : Database :=
  { db with
    checkpoints := db.checkpoints.erase sessionId
    checkpointBodies := db.checkpointBodies.erase sessionId }

/-! ## Streaming turns into a body -/

structure SummaryStreamProgress where
  latestTurnId : Option Int
  saturated : Bool

/-- Fold rows into the body and stop at the first row at which it is full. -/
def streamSummaryRowsUntilSaturation (summaryBudgetChars : Nat) (summaryBody : String)
    (latestTurnId : Option Int) : List TurnRow -> String × SummaryStreamProgress
  | [] => (summaryBody, { latestTurnId, saturated := false })
  | row :: rest =>
    if summaryBudgetChars <= summaryBody.utf8ByteSize then
      (summaryBody, { latestTurnId := some row.id, saturated := true })
    else
      let next := appendSummaryLine summaryBudgetChars summaryBody row.role row.content
      if summaryBudgetChars <= next.utf8ByteSize then
        (next, { latestTurnId := some row.id, saturated := true })
      else streamSummaryRowsUntilSaturation summaryBudgetChars next (some row.id) rest

def streamSummaryTurnsUpToId (summaryBody : String) (summaryBudgetChars : Nat) :
    String × Option Int :=
  let (body, progress) := streamSummaryRowsUntilSaturation summaryBudgetChars summaryBody none
    (db.queryTurnsUpToId sessionId throughTurnId)
  if progress.saturated then (body, db.querySummaryFrontierUpToId sessionId throughTurnId)
  else (body, progress.latestTurnId)

def streamSummaryTurnsBetweenIds (summaryBody : String)
    (summaryBudgetChars : Nat) : String × Option Int :=
  let (body, progress) := streamSummaryRowsUntilSaturation summaryBudgetChars summaryBody none
    (db.queryTurnsBetweenIds sessionId afterTurnId beforeTurnId)
  if progress.saturated then
    (body, db.querySummaryFrontierBetweenIds sessionId afterTurnId beforeTurnId)
  else (body, progress.latestTurnId)

/-! ## Building and repairing checkpoints -/

def rebuildSummaryCheckpoint (summaryBeforeTurnId summaryTargetThroughTurnId : Int)
    (summaryBudgetChars summaryWindowSize : Nat) : Option SummaryCheckpoint × Database :=
  let (summaryBody, summarizedThroughTurnId) :=
    db.streamSummaryTurnsUpToId sessionId summaryTargetThroughTurnId "" summaryBudgetChars
  if summaryBody = "" then (none, db.deleteSummaryCheckpoint sessionId)
  else
    let checkpoint : SummaryCheckpoint :=
      { summarizedThroughTurnId := summarizedThroughTurnId.getD summaryTargetThroughTurnId
        summaryBeforeTurnId := some summaryBeforeTurnId
        summaryBody
        summaryBudgetChars
        summaryWindowSize
        summaryFormatVersion := summaryFormatVersionCurrent }
    (some checkpoint, db.upsertSummaryCheckpoint sessionId checkpoint)

variable (summaryBudgetChars summaryWindowSize : Nat)

/-- The checkpoint after the first turn, for a session that just outgrew its
window. -/
def materializeInitialSummaryCheckpoint : Option SummaryCheckpoint × Database :=
  match db.queryInitialSummaryRows sessionId with
  | firstRow :: boundaryRow :: _ =>
    let summaryBody := appendSummaryLine summaryBudgetChars "" firstRow.role firstRow.content
    if summaryBody = "" then (none, db.deleteSummaryCheckpoint sessionId)
    else
      let checkpoint : SummaryCheckpoint :=
        { summarizedThroughTurnId := firstRow.id
          summaryBeforeTurnId := some boundaryRow.id
          summaryBody
          summaryBudgetChars
          summaryWindowSize
          summaryFormatVersion := summaryFormatVersionCurrent }
      (some checkpoint, db.upsertSummaryCheckpoint sessionId checkpoint)
  | _ => (none, db.deleteSummaryCheckpoint sessionId)

def checkpointBudgetChangeRequiresRebuild (checkpoint : SummaryCheckpointMeta)
    (targetSummaryBudgetChars : Nat) : Bool :=
  checkpoint.summaryBudgetChars != targetSummaryBudgetChars &&
    (decide (checkpoint.summaryBudgetChars <= checkpoint.summaryBodyLen) ||
      decide (targetSummaryBudgetChars < checkpoint.summaryBodyLen))

inductive SummaryCheckpointMetaLookup where
  | unknown
  | known (checkpointMeta : Option SummaryCheckpointMeta)

def needsRebuild (existingMeta : Option SummaryCheckpointMeta) (summaryTargetThroughTurnId : Int)
    (summaryBudgetChars : Nat) : Bool :=
  match existingMeta with
  | none => true
  | some checkpoint =>
    checkpoint.summaryFormatVersion != summaryFormatVersionCurrent ||
      decide (summaryTargetThroughTurnId < checkpoint.summarizedThroughTurnId) ||
      checkpointBudgetChangeRequiresRebuild checkpoint summaryBudgetChars

/-- Fold the turns between the checkpoint and the boundary into the body. -/
def catchUpSummaryCheckpoint (checkpoint : SummaryCheckpoint) : SummaryCheckpoint × Database :=
  match summaryBeforeTurnId with
  | none => (checkpoint, db)
  | some summaryBoundaryId =>
    if checkpoint.summarizedThroughTurnId < summaryTargetThroughTurnId then
      let (summaryBody, latestTurnId) :=
        db.streamSummaryTurnsBetweenIds sessionId checkpoint.summarizedThroughTurnId
          summaryBoundaryId checkpoint.summaryBody summaryBudgetChars
      match latestTurnId with
      | none => ({ checkpoint with summaryBody }, db)
      | some lastTurnId =>
        let advanced : SummaryCheckpoint :=
          { summarizedThroughTurnId := lastTurnId
            summaryBeforeTurnId := some summaryBoundaryId
            summaryBody
            summaryBudgetChars
            summaryWindowSize
            summaryFormatVersion := summaryFormatVersionCurrent }
        (advanced, db.upsertSummaryCheckpoint sessionId advanced)
    else (checkpoint, db)

/-- Bring the metadata of a checkpoint that reaches the target up to date. -/
def refreshSummaryCheckpointMetadata (checkpoint : SummaryCheckpoint) :
    SummaryCheckpoint × Database :=
  if checkpoint.summarizedThroughTurnId = summaryTargetThroughTurnId /\
      (checkpoint.summaryBudgetChars ≠ summaryBudgetChars \/
        checkpoint.summaryWindowSize ≠ summaryWindowSize \/
        checkpoint.summaryBeforeTurnId ≠ summaryBeforeTurnId) then
    let refreshed : SummaryCheckpoint :=
      { checkpoint with
        summaryBeforeTurnId
        summaryBudgetChars
        summaryWindowSize
        summaryFormatVersion := summaryFormatVersionCurrent }
    (refreshed, db.updateSummaryCheckpointMetadata sessionId refreshed.summarizedThroughTurnId
        (refreshed.summaryBeforeTurnId.getD 0) summaryBudgetChars summaryWindowSize
        summaryFormatVersionCurrent)
  else (checkpoint, db)

/-- Catch up, refresh the metadata, and drop a checkpoint whose body is still
empty. -/
def finishSummaryCheckpoint (checkpoint : SummaryCheckpoint) :
    Option SummaryCheckpoint × Database :=
  let caughtUp := db.catchUpSummaryCheckpoint sessionId summaryBeforeTurnId
    summaryTargetThroughTurnId summaryBudgetChars summaryWindowSize checkpoint
  let refreshed := caughtUp.2.refreshSummaryCheckpointMetadata sessionId summaryBeforeTurnId
    summaryTargetThroughTurnId summaryBudgetChars summaryWindowSize caughtUp.1
  if refreshed.1.summaryBody = "" then (none, refreshed.2.deleteSummaryCheckpoint sessionId)
  else (some refreshed.1, refreshed.2)

def resolveExistingMeta : SummaryCheckpointMetaLookup -> Option SummaryCheckpointMeta
  | .known checkpointMeta => checkpointMeta
  | .unknown => db.loadSummaryCheckpointMeta sessionId

variable (existingMetaLookup : SummaryCheckpointMetaLookup)

def materializeSummaryCheckpointInner (summaryTargetThroughTurnId : Int)
    (summaryBudgetChars summaryWindowSize : Nat) :
    Option SummaryCheckpoint × Database :=
  if summaryTargetThroughTurnId <= 0 then (none, db.deleteSummaryCheckpoint sessionId)
  else
    let existingMeta := db.resolveExistingMeta sessionId existingMetaLookup
    let found :=
      if needsRebuild existingMeta summaryTargetThroughTurnId summaryBudgetChars then
        db.rebuildSummaryCheckpoint sessionId (summaryBeforeTurnId.getD 0)
          summaryTargetThroughTurnId summaryBudgetChars summaryWindowSize
      else (existingMeta.bind (db.loadSummaryCheckpointBody sessionId), db)
    match found with
    | (none, db) => (none, db)
    | (some checkpoint, db) =>
      db.finishSummaryCheckpoint sessionId summaryBeforeTurnId summaryTargetThroughTurnId
        summaryBudgetChars summaryWindowSize checkpoint

/-- One below the boundary, or zero without one. -/
def summaryTarget : Int :=
  (summaryBeforeTurnId.map (fun turnId => turnId - 1)).getD 0

def materializeSummaryCheckpoint (config : MemoryRuntimeConfig) :
    Option SummaryCheckpoint × Database :=
  db.materializeSummaryCheckpointInner sessionId summaryBeforeTurnId existingMetaLookup
    (summaryTarget summaryBeforeTurnId) config.summaryBudgetChars config.defaultWindowSize

/-! ## Maintenance after an append -/

structure SummaryAppendMaintenanceState where
  summaryBeforeTurnId : Option Int
  checkpointMeta : Option SummaryCheckpointMeta

/-- The session's first key above the stored boundary. -/
def nextBoundary (checkpointMeta : Option SummaryCheckpointMeta) : Option Int :=
  match checkpointMeta.bind SummaryCheckpointMeta.summaryBeforeTurnId with
  | none => none
  | some stored =>
    ((db.sessionTurns sessionId).find? (fun row => decide (stored < row.id))).map TurnRow.id

def loadSummaryAppendMaintenanceState : SummaryAppendMaintenanceState :=
  let checkpointMeta := db.checkpoints.lookup sessionId
  let canIncrementallyAdvanceBoundary :=
    match checkpointMeta with
    | none => false
    | some checkpoint =>
      checkpoint.summaryBeforeTurnId.isSome && decide (checkpoint.summaryWindowSize = limit)
  let summaryBeforeTurnId :=
    if canIncrementallyAdvanceBoundary then
      (db.nextBoundary sessionId checkpointMeta).or
        (db.querySummaryBoundaryTurnIdBySessionTurnCount sessionId limit)
    else db.querySummaryBoundaryTurnIdBySessionTurnCount sessionId limit
  { summaryBeforeTurnId, checkpointMeta }

def maintainSummaryCheckpointAfterAppend (state : SummaryAppendMaintenanceState)
    (config : MemoryRuntimeConfig) : Database :=
  let target := summaryTarget state.summaryBeforeTurnId
  if target <= 0 then
    if state.checkpointMeta.isSome then db.deleteSummaryCheckpoint sessionId else db
  else
    match state.checkpointMeta with
    | none =>
      (db.rebuildSummaryCheckpoint sessionId (state.summaryBeforeTurnId.getD 0) target
        config.summaryBudgetChars config.defaultWindowSize).2
    | some checkpoint =>
      if (checkpoint.summaryBudgetChars = config.summaryBudgetChars /\
          checkpoint.summaryFormatVersion = summaryFormatVersionCurrent /\
          checkpoint.summarizedThroughTurnId <= target) /\
          config.summaryBudgetChars <= checkpoint.summaryBodyLen then
        if checkpoint.summarizedThroughTurnId ≠ target \/
            checkpoint.summaryBeforeTurnId ≠ state.summaryBeforeTurnId \/
            checkpoint.summaryWindowSize ≠ config.defaultWindowSize then
          db.updateSummaryCheckpointMetadata sessionId target
            (state.summaryBeforeTurnId.getD 0) config.summaryBudgetChars
            config.defaultWindowSize summaryFormatVersionCurrent
        else db
      else
        (db.materializeSummaryCheckpoint sessionId state.summaryBeforeTurnId
          (.known state.checkpointMeta) config).2

/-! ## The memory operations -/

def normalizeRequiredStr (value errorMessage : String) : Except String String :=
  let trimmed := Text.trim value
  if trimmed = "" then .error errorMessage else .ok trimmed

/-- The session's count after this turn, which is the index of the turn. -/
def reserveNextSessionTurnIndex : Nat × Database :=
  let turnCount := (db.sessionState.lookup sessionId).getD 0 + 1
  (turnCount, { db with sessionState := db.sessionState.insert sessionId turnCount })

def insertTurn (row : TurnRow) : Database :=
  { db with lastTurnId := row.id, turns := db.turns ++ [row] }

/-- Bring the checkpoint along after the turn with the given index. -/
def maintainAfterAppend (nextSessionTurnIndex : Nat) (config : MemoryRuntimeConfig) : Database :=
  if config.mode = .windowPlusSummary /\ config.defaultWindowSize < nextSessionTurnIndex then
    if nextSessionTurnIndex = config.defaultWindowSize + 1 then
      (db.materializeInitialSummaryCheckpoint sessionId config.summaryBudgetChars
        config.defaultWindowSize).2
    else
      db.maintainSummaryCheckpointAfterAppend sessionId
        (db.loadSummaryAppendMaintenanceState sessionId config.defaultWindowSize) config
  else db

/-- `turnId` is the key the database gives the new row. -/
def appendTurn (turnId : Int) (sessionId role content : String) (config : MemoryRuntimeConfig) :
    Except String Database := do
  let sessionId <- normalizeRequiredStr sessionId "memory.append_turn requires payload.session_id"
  let role <- normalizeRequiredStr role "memory.append_turn requires payload.role"
  let (nextSessionTurnIndex, db) := db.reserveNextSessionTurnIndex sessionId
  let db := db.insertTurn
    { id := turnId, sessionId, sessionTurnIndex := nextSessionTurnIndex, role, content }
  return db.maintainAfterAppend sessionId nextSessionTurnIndex config

/-- The trimmed session id of a clear request. -/
def clearSessionId (payload : Json) : Except String String :=
  match payload.asObject with
  | none => .error "memory.clear_session payload must be an object"
  | some _ =>
    match (payload.get "session_id").bind Json.asStr with
    | none => .error "memory.clear_session requires payload.session_id"
    | some sessionId =>
      normalizeRequiredStr sessionId "memory.clear_session requires payload.session_id"

def clearSession (payload : Json) : Except String (Nat × Database) := do
  let sessionId <- clearSessionId payload
  let affected := (db.sessionTurns sessionId).length
  let db :=
    { db with
      turns := db.turns.filter (fun row => decide (row.sessionId ≠ sessionId))
      sessionState := db.sessionState.erase sessionId }
  return (affected, db.deleteSummaryCheckpoint sessionId)

structure RecentPromptWindowTurns where
  turns : List PromptWindowTurn
  summaryBeforeTurnId : Option Int
  windowStartsAtSessionOrigin : Bool
  checkpointMetaLookup : SummaryCheckpointMetaLookup

def promptWindowRowsMatchSessionTurnCount (sessionTurnCount rowCount limit : Nat) : Bool :=
  (decide (sessionTurnCount <= limit) && decide (rowCount = sessionTurnCount)) ||
    (decide (limit < sessionTurnCount) && decide (rowCount = limit))

/-- The window and the stored metadata from one joined query, which has a
metadata row only if it has a turn row. -/
def queryRecentPromptTurnsWithKnownOverflow : RecentPromptWindowTurns :=
  let recentRows := (db.recentRows sessionId limit).reverse
  { turns := recentRows.map TurnRow.prompt
    summaryBeforeTurnId := recentRows.head?.map TurnRow.id
    windowStartsAtSessionOrigin := false
    checkpointMetaLookup :=
      .known (if recentRows = [] then none else db.checkpoints.lookup sessionId) }

/-- The window found by asking for one row more than fits. -/
def queryRecentPromptTurnsWithPayloadOverflowProbeFallback : RecentPromptWindowTurns :=
  let recentRows := (db.recentRows sessionId (limit + 1)).reverse
  let hasOverflow := decide (limit < recentRows.length)
  { turns := (recentRows.drop (if hasOverflow then 1 else 0)).map TurnRow.prompt
    summaryBeforeTurnId := if hasOverflow then (recentRows.drop 1).head?.map TurnRow.id else none
    windowStartsAtSessionOrigin := !hasOverflow
    checkpointMetaLookup := .unknown }

def queryRecentPromptTurnsWithOverflowProbe : RecentPromptWindowTurns :=
  match db.querySessionTurnCount sessionId with
  | none => db.queryRecentPromptTurnsWithPayloadOverflowProbeFallback sessionId limit
  | some sessionTurnCount =>
    if sessionTurnCount <= limit then
      let turns := db.queryRecentPromptTurns sessionId limit
      if promptWindowRowsMatchSessionTurnCount sessionTurnCount turns.length limit then
        { turns
          summaryBeforeTurnId := none
          windowStartsAtSessionOrigin := true
          checkpointMetaLookup := .known none }
      else db.queryRecentPromptTurnsWithPayloadOverflowProbeFallback sessionId limit
    else
      let recentWindow := db.queryRecentPromptTurnsWithKnownOverflow sessionId limit
      if promptWindowRowsMatchSessionTurnCount sessionTurnCount recentWindow.turns.length
          limit then recentWindow
      else db.queryRecentPromptTurnsWithPayloadOverflowProbeFallback sessionId limit

structure ContextSnapshot where
  windowTurns : List PromptWindowTurn
  summaryBody : Option String

/-- The prompt context of a session.  Loading may repair the checkpoint. -/
def loadContextSnapshot (config : MemoryRuntimeConfig) : ContextSnapshot × Database :=
  if config.mode = .windowPlusSummary then
    let recentWindow :=
      db.queryRecentPromptTurnsWithOverflowProbe sessionId config.defaultWindowSize
    if recentWindow.windowStartsAtSessionOrigin then
      ({ windowTurns := recentWindow.turns, summaryBody := none }, db)
    else
      let (checkpoint, db) := db.materializeSummaryCheckpoint sessionId
        recentWindow.summaryBeforeTurnId recentWindow.checkpointMetaLookup config
      ({ windowTurns := recentWindow.turns
         summaryBody := checkpoint.map SummaryCheckpoint.summaryBody }, db)
  else
    ({ windowTurns := db.queryRecentPromptTurns sessionId config.defaultWindowSize
       summaryBody := none }, db)

end Database

end LoongClaw.Memory
