import Mathlib.Data.Int.Order.Basic
import LoongClaw.Foundation.KeyOrder
import LoongClaw.Memory.Sqlite

namespace LoongClaw.Memory

open Foundation OrderedMap

/-!
# Checkpoints are summaries

A stored checkpoint is the fold of the session's turns up to its frontier,
whichever path wrote it: a rebuild, a catch-up, a metadata update of a full
body, or the shortcut for the first turn.  Each writer is shown to keep this
and to touch the checkpoint of its own session only.
-/

namespace Database

/-- The fold of the session's turns with keys up to the frontier. -/
def summaryThrough (budget : Nat) (db : Database) (sessionId : String) (through : Int) : String :=
  foldSummary budget "" ((db.queryTurnsUpToId sessionId through).map TurnRow.prompt)

/-- The fold of the session's turns with keys below the boundary. -/
def summaryBelow (budget : Nat) (db : Database) (sessionId : String) (before : Int) : String :=
  foldSummary budget ""
    (((db.sessionTurns sessionId).filter (fun row => decide (row.id < before))).map TurnRow.prompt)

variable {budget : Nat} {db : Database} {sessionId : String}

theorem summaryThrough_pred {before : Int} :
    summaryThrough budget db sessionId (before - 1) = summaryBelow budget db sessionId before := by
  unfold summaryThrough summaryBelow queryTurnsUpToId
  have sameRows : (fun row : TurnRow => decide (row.id <= before - 1)) =
      (fun row : TurnRow => decide (row.id < before)) := by
    funext row
    exact decide_eq_decide.mpr (by omega)
  rw [sameRows]

/-! ## What a checkpoint write may touch -/

/-- The two states differ in the checkpoint of one session at most. -/
structure OnlyCheckpoint (sessionId : String) (db next : Database) : Prop where
  turns : next.turns = db.turns
  lastTurnId : next.lastTurnId = db.lastTurnId
  sessionState : next.sessionState = db.sessionState
  others : ∀ other, other ≠ sessionId ->
    next.checkpoints.lookup other = db.checkpoints.lookup other /\
      next.checkpointBodies.lookup other = db.checkpointBodies.lookup other

theorem OnlyCheckpoint.refl (sessionId : String) (db : Database) : OnlyCheckpoint sessionId db db :=
  ⟨rfl, rfl, rfl, fun _ _ => ⟨rfl, rfl⟩⟩

variable {sessionId : String} {db next : Database} {budget : Nat} {checkpoint : SummaryCheckpoint}
  {before : Int} {result : Option SummaryCheckpoint × Database}

theorem OnlyCheckpoint.trans {first second third : Database}
    (earlier : OnlyCheckpoint sessionId first second)
    (later : OnlyCheckpoint sessionId second third) : OnlyCheckpoint sessionId first third where
  turns := later.turns.trans earlier.turns
  lastTurnId := later.lastTurnId.trans earlier.lastTurnId
  sessionState := later.sessionState.trans earlier.sessionState
  others other different :=
    ⟨(later.others other different).1.trans (earlier.others other different).1,
      (later.others other different).2.trans (earlier.others other different).2⟩

section

variable (change : OnlyCheckpoint sessionId db next)

include change

theorem OnlyCheckpoint.sessionTurns (other : String) :
    next.sessionTurns other = db.sessionTurns other := by
  unfold Database.sessionTurns
  rw [change.turns]

theorem OnlyCheckpoint.summaryThrough (budget : Nat) (other : String) (through : Int) :
    Database.summaryThrough budget next other through =
      Database.summaryThrough budget db other through := by
  unfold Database.summaryThrough queryTurnsUpToId
  rw [change.sessionTurns]

end

theorem onlyCheckpoint_upsert {checkpoint : SummaryCheckpoint} :
    OnlyCheckpoint sessionId db (db.upsertSummaryCheckpoint sessionId checkpoint) :=
  ⟨rfl, rfl, rfl, fun _ different =>
    ⟨lookup_insert_of_ne different _ _, lookup_insert_of_ne different _ _⟩⟩

theorem onlyCheckpoint_update {through before : Int} {window : Nat} {version : Int} :
    OnlyCheckpoint sessionId db
      (db.updateSummaryCheckpointMetadata sessionId through before budget window version) := by
  unfold updateSummaryCheckpointMetadata
  split
  · exact OnlyCheckpoint.refl sessionId db
  · exact ⟨rfl, rfl, rfl, fun _ different =>
      ⟨lookup_insert_of_ne different _ _, rfl⟩⟩

theorem onlyCheckpoint_delete :
    OnlyCheckpoint sessionId db (db.deleteSummaryCheckpoint sessionId) :=
  ⟨rfl, rfl, rfl, fun _ different =>
    ⟨lookup_erase_of_ne different _, lookup_erase_of_ne different _⟩⟩

/-! ## Stored checkpoints -/

/-- The metadata row that an upsert writes for a checkpoint. -/
def metaOf (checkpoint : SummaryCheckpoint) : SummaryCheckpointMeta where
  summarizedThroughTurnId := checkpoint.summarizedThroughTurnId
  summaryBeforeTurnId := checkpoint.summaryBeforeTurnId
  summaryBodyLen := checkpoint.summaryBody.utf8ByteSize
  summaryBudgetChars := checkpoint.summaryBudgetChars
  summaryWindowSize := checkpoint.summaryWindowSize
  summaryFormatVersion := checkpoint.summaryFormatVersion

/-- Both rows of the checkpoint are stored and its body is the summary through
its frontier. -/
structure StoredCheckpoint (budget : Nat) (db : Database) (sessionId : String)
    (checkpoint : SummaryCheckpoint) : Prop where
  metaRow : db.checkpoints.lookup sessionId = some (metaOf checkpoint)
  bodyRow : db.checkpointBodies.lookup sessionId = some checkpoint.summaryBody
  nonempty : checkpoint.summaryBody ≠ ""
  summary : checkpoint.summaryBody =
    summaryThrough budget db sessionId checkpoint.summarizedThroughTurnId
  sameBudget : checkpoint.summaryBudgetChars = budget
  version : checkpoint.summaryFormatVersion = summaryFormatVersionCurrent
  through_le : checkpoint.summarizedThroughTurnId <= db.lastTurnId

/-- A session has no checkpoint or a stored one. -/
def CheckpointValid (budget : Nat) (db : Database) (sessionId : String) : Prop :=
  db.checkpoints.lookup sessionId = none \/
    ∃ checkpoint, StoredCheckpoint budget db sessionId checkpoint

/-- A checkpoint stays valid as long as its rows and the turns up to its
frontier stay. -/
theorem CheckpointValid.transport (valid : CheckpointValid budget db sessionId)
    (sameMeta : next.checkpoints.lookup sessionId = db.checkpoints.lookup sessionId)
    (sameBody : next.checkpointBodies.lookup sessionId = db.checkpointBodies.lookup sessionId)
    (sameSummary : ∀ through, through <= db.lastTurnId ->
      summaryThrough budget next sessionId through = summaryThrough budget db sessionId through)
    (grows : db.lastTurnId <= next.lastTurnId) : CheckpointValid budget next sessionId := by
  rcases valid with absent | ⟨checkpoint, stored⟩
  · exact .inl (sameMeta.trans absent)
  · refine .inr ⟨checkpoint, ?_⟩
    exact
      { metaRow := sameMeta.trans stored.metaRow
        bodyRow := sameBody.trans stored.bodyRow
        nonempty := stored.nonempty
        summary := stored.summary.trans (sameSummary _ stored.through_le).symm
        sameBudget := stored.sameBudget
        version := stored.version
        through_le := le_trans stored.through_le grows }

theorem StoredCheckpoint.loaded (stored : StoredCheckpoint budget db sessionId checkpoint) :
    db.loadSummaryCheckpointBody sessionId (metaOf checkpoint) = some checkpoint := by
  unfold loadSummaryCheckpointBody
  rw [stored.bodyRow]
  rfl

theorem storedCheckpoint_upsert (nonempty : checkpoint.summaryBody ≠ "")
    (summary : checkpoint.summaryBody =
      summaryThrough budget db sessionId checkpoint.summarizedThroughTurnId)
    (sameBudget : checkpoint.summaryBudgetChars = budget)
    (version : checkpoint.summaryFormatVersion = summaryFormatVersionCurrent)
    (through_le : checkpoint.summarizedThroughTurnId <= db.lastTurnId) :
    StoredCheckpoint budget (db.upsertSummaryCheckpoint sessionId checkpoint) sessionId
      checkpoint where
  metaRow := lookup_insert_self
  bodyRow := lookup_insert_self
  nonempty := nonempty
  summary := summary
  sameBudget := sameBudget
  version := version
  through_le := through_le

/-- A metadata update moves the frontier of a stored body. -/
theorem storedCheckpoint_update (stored : StoredCheckpoint budget db sessionId checkpoint)
    {through : Int} (before : Int) (window : Nat)
    (summary : checkpoint.summaryBody = summaryThrough budget db sessionId through)
    (through_le : through <= db.lastTurnId) :
    StoredCheckpoint budget
      (db.updateSummaryCheckpointMetadata sessionId through before budget window
        summaryFormatVersionCurrent) sessionId
      { summarizedThroughTurnId := through
        summaryBeforeTurnId := some before
        summaryBody := checkpoint.summaryBody
        summaryBudgetChars := budget
        summaryWindowSize := window
        summaryFormatVersion := summaryFormatVersionCurrent } := by
  unfold updateSummaryCheckpointMetadata
  rw [stored.metaRow]
  exact
    { metaRow := lookup_insert_self
      bodyRow := stored.bodyRow
      nonempty := stored.nonempty
      summary := summary
      sameBudget := rfl
      version := rfl
      through_le := through_le }

theorem checkpointValid_delete :
    CheckpointValid budget (db.deleteSummaryCheckpoint sessionId) sessionId :=
  .inl lookup_erase_self

/-! ## Streaming equals folding -/

/-- Stopping at a full body loses nothing, and a stream that did not stop has
seen the last row. -/
theorem stream_spec (budget : Nat) (rows : List TurnRow) (body : String) (latest : Option Int) :
    (streamSummaryRowsUntilSaturation budget body latest rows).1 =
        foldSummary budget body (rows.map TurnRow.prompt) /\
      ((streamSummaryRowsUntilSaturation budget body latest rows).2.saturated = false ->
        (streamSummaryRowsUntilSaturation budget body latest rows).2.latestTurnId =
          (rows.getLast?.map TurnRow.id).or latest) := by
  induction rows generalizing body latest with
  | nil => exact ⟨rfl, fun _ => rfl⟩
  | cons row rest ih =>
    unfold streamSummaryRowsUntilSaturation
    rw [List.map_cons, foldSummary_cons]
    by_cases full : budget <= body.utf8ByteSize
    · rw [if_pos full, appendSummaryLine_saturated full, foldSummary_saturated full]
      exact ⟨rfl, fun impossible => by cases impossible⟩
    · rw [if_neg full]
      by_cases filled : budget <= (appendSummaryLine budget body row.role row.content).utf8ByteSize
      · simp only [if_pos filled]
        exact ⟨(foldSummary_saturated filled _).symm, fun impossible => by cases impossible⟩
      · simp only [if_neg filled]
        have tail := ih (appendSummaryLine budget body row.role row.content) (some row.id)
        refine ⟨tail.1, fun unsaturated => ?_⟩
        rw [tail.2 unsaturated, List.getLast?_cons]
        cases rest.getLast? <;> rfl

/-- Whether or not it stopped early, a stream answers with the fold and the last
row of its query. -/
theorem stream_answer (budget : Nat) (rows : List TurnRow) (body : String) :
    (let (streamed, progress) := streamSummaryRowsUntilSaturation budget body none rows
      if progress.saturated then (streamed, rows.getLast?.map TurnRow.id)
      else (streamed, progress.latestTurnId)) =
      (foldSummary budget body (rows.map TurnRow.prompt), rows.getLast?.map TurnRow.id) := by
  have streamed := stream_spec budget rows body none
  dsimp only
  rw [streamed.1]
  split
  · rfl
  · case isFalse unsaturated =>
      rw [streamed.2 (Bool.eq_false_iff.mpr unsaturated), Option.or_none]

/-! ## Moving a frontier -/

section Frontier

variable {db : Database} {sessionId : String}

/-- The session's rows are in key order. -/
def RowsAscending (db : Database) (sessionId : String) : Prop :=
  KeyOrder.Ascending TurnRow.id (db.sessionTurns sessionId)

variable {budget : Nat} {before : Int} {last : TurnRow} {through : Int}

section

variable (ascending : RowsAscending db sessionId)

include ascending

/-- The rows between a frontier and a boundary continue the summary. -/
theorem summaryThrough_between (budget : Nat) (ordered : through < before) :
    foldSummary budget (summaryThrough budget db sessionId through)
        ((db.queryTurnsBetweenIds sessionId through before).map TurnRow.prompt) =
      summaryBelow budget db sessionId before := by
  have joined := ascending.filter_le_append_between ordered
  unfold summaryThrough summaryBelow queryTurnsUpToId queryTurnsBetweenIds
  rw [<- foldSummary_append, <- List.map_append, joined]

theorem summaryThrough_between_last
    (isLast : (db.queryTurnsBetweenIds sessionId through before).getLast? = some last) :
    summaryThrough budget db sessionId last.id = summaryBelow budget db sessionId before := by
  have lastSelected := List.mem_filter.mp (List.mem_of_getLast? isLast)
  have lastAfter : through < last.id := by
    have selected := lastSelected.2
    simp only [Bool.and_eq_true, decide_eq_true_eq] at selected
    exact selected.1
  have sameRows := ascending.filter_le_last before isLast (fun row _ selected => by
      simp only [Bool.and_eq_true, decide_eq_true_eq] at selected
      exact selected.2)
    (fun row _ inside unselected => by
      simp only [Bool.and_eq_false_iff, decide_eq_false_iff_not] at unselected
      omega)
  unfold summaryThrough summaryBelow queryTurnsUpToId
  rw [sameRows]

end

end Frontier

/-! ## What each writer leaves behind -/

/-- The text, unless it is empty. -/
def nonEmptyText (text : String) : Option String :=
  if text = "" then none else some text

/-- A writer has settled the summary below a boundary: it returns and stores
that summary, or nothing when the summary is empty. -/
structure Settled (budget : Nat) (db : Database) (sessionId : String) (before : Int)
    (result : Option SummaryCheckpoint × Database) : Prop where
  only : OnlyCheckpoint sessionId db result.2
  outcome : (result.1 = none /\ summaryBelow budget db sessionId before = "" /\
      result.2.checkpoints.lookup sessionId = none) \/
    ∃ checkpoint, result.1 = some checkpoint /\
      StoredCheckpoint budget result.2 sessionId checkpoint /\
      checkpoint.summarizedThroughTurnId < before /\
      checkpoint.summaryBody = summaryBelow budget db sessionId before

theorem Settled.valid (settled : Settled budget db sessionId before result) :
    CheckpointValid budget result.2 sessionId := by
  rcases settled.outcome with ⟨_, _, absent⟩ | ⟨checkpoint, _, stored, _⟩
  · exact .inl absent
  · exact .inr ⟨checkpoint, stored⟩

theorem Settled.body (settled : Settled budget db sessionId before result) :
    result.1.map SummaryCheckpoint.summaryBody =
      nonEmptyText (summaryBelow budget db sessionId before) := by
  rcases settled.outcome with ⟨returned, empty, _⟩ | ⟨checkpoint, returned, stored, _, body⟩
  · rw [returned, empty]
    rfl
  · rw [returned, <- body]
    exact (if_neg stored.nonempty).symm

section Writers

variable {budget : Nat} {db : Database} {sessionId : String} {before : Int}

/-- The last row below a boundary, or the boundary itself, is a frontier of the
summary below it. -/
theorem lastFrontier (budget : Nat) (before : Int) (ascending : RowsAscending db sessionId) :
    let through :=
      ((db.queryTurnsUpToId sessionId (before - 1)).getLast?.map TurnRow.id).getD (before - 1)
    through < before /\
      summaryThrough budget db sessionId through = summaryBelow budget db sessionId before := by
  cases isLast : (db.queryTurnsUpToId sessionId (before - 1)).getLast? with
  | none => exact ⟨by show before - 1 < before; omega, summaryThrough_pred⟩
  | some last =>
    have below := (List.mem_filter.mp (List.mem_of_getLast? isLast)).2
    have lastBelow : last.id <= before - 1 := of_decide_eq_true below
    refine ⟨by show last.id < before; omega, ?_⟩
    have sameRows := ascending.filter_le_last before isLast (fun row _ selected => by
        have within := of_decide_eq_true selected
        omega)
      (fun row _ inside unselected => by
        have beyond := of_decide_eq_false unselected
        omega)
    show summaryThrough budget db sessionId last.id = _
    unfold summaryThrough summaryBelow queryTurnsUpToId
    rw [sameRows]

theorem rebuild_settled (budget : Nat) (ascending : RowsAscending db sessionId)
    (bounded : before <= db.lastTurnId) (stated : Int) (window : Nat) :
    Settled budget db sessionId before
      (db.rebuildSummaryCheckpoint sessionId stated (before - 1) budget window) := by
  have streamed : db.streamSummaryTurnsUpToId sessionId (before - 1) "" budget = _ :=
    stream_answer budget (db.queryTurnsUpToId sessionId (before - 1)) ""
  have body : foldSummary budget ""
      ((db.queryTurnsUpToId sessionId (before - 1)).map TurnRow.prompt) =
        summaryBelow budget db sessionId before :=
    summaryThrough_pred
  unfold rebuildSummaryCheckpoint
  rw [streamed, body]
  dsimp only
  by_cases empty : summaryBelow budget db sessionId before = ""
  · rw [if_pos empty]
    exact ⟨onlyCheckpoint_delete, .inl ⟨rfl, empty, lookup_erase_self⟩⟩
  · rw [if_neg empty]
    have frontier := lastFrontier budget before ascending
    refine ⟨onlyCheckpoint_upsert, .inr ⟨_, rfl, ?_, frontier.1, rfl⟩⟩
    exact storedCheckpoint_upsert empty frontier.2.symm rfl rfl (frontier.1.le.trans bounded)

variable {checkpoint : SummaryCheckpoint} {next : Database}

/-- A refresh changes metadata only. -/
theorem refresh_stored {before : Int} (stored : StoredCheckpoint budget db sessionId checkpoint)
    {target : Int} {window : Nat} :
    let refreshed := db.refreshSummaryCheckpointMetadata sessionId (some before) target budget
      window checkpoint
    OnlyCheckpoint sessionId db refreshed.2 /\
      StoredCheckpoint budget refreshed.2 sessionId refreshed.1 /\
      refreshed.1.summarizedThroughTurnId = checkpoint.summarizedThroughTurnId /\
      refreshed.1.summaryBody = checkpoint.summaryBody := by
  unfold refreshSummaryCheckpointMetadata
  split
  · exact ⟨onlyCheckpoint_update,
      storedCheckpoint_update stored before window stored.summary stored.through_le, rfl, rfl⟩
  · exact ⟨OnlyCheckpoint.refl sessionId db, stored, rfl, rfl⟩

section

variable (ascending : RowsAscending db sessionId) (bounded : before <= db.lastTurnId)
  (stored : StoredCheckpoint budget db sessionId checkpoint)
  (behind : checkpoint.summarizedThroughTurnId < before) {window : Nat}

include ascending bounded stored behind

theorem catchUp_settled :
    Settled budget db sessionId before
      ((db.catchUpSummaryCheckpoint sessionId (some before) (before - 1) budget window
        checkpoint).map some id) := by
  have streamed : db.streamSummaryTurnsBetweenIds sessionId _ before _ budget = _ :=
    stream_answer budget (db.queryTurnsBetweenIds sessionId
      checkpoint.summarizedThroughTurnId before)
      checkpoint.summaryBody
  have body := summaryThrough_between ascending budget behind
  rw [<- stored.summary] at body
  unfold catchUpSummaryCheckpoint
  by_cases lagging : checkpoint.summarizedThroughTurnId < before - 1
  · simp only [if_pos lagging, streamed]
    cases isLast : (db.queryTurnsBetweenIds sessionId checkpoint.summarizedThroughTurnId
        before).getLast? with
    | none =>
      have noRows := List.getLast?_eq_none_iff.mp isLast
      rw [noRows] at body
      rw [noRows]
      exact ⟨OnlyCheckpoint.refl sessionId db, .inr ⟨_, rfl, stored, behind, body⟩⟩
    | some last =>
      have lastBelow : last.id < before := by
        have selected := (List.mem_filter.mp (List.mem_of_getLast? isLast)).2
        simp only [Bool.and_eq_true, decide_eq_true_eq] at selected
        exact selected.2
      rw [body]
      refine ⟨onlyCheckpoint_upsert, .inr ⟨_, rfl, ?_, lastBelow, rfl⟩⟩
      refine storedCheckpoint_upsert ?_ ?_ rfl rfl ?_
      · rw [<- body]
        exact foldSummary_ne_empty stored.nonempty
      · exact (summaryThrough_between_last ascending isLast).symm
      · show last.id <= db.lastTurnId
        omega
  · simp only [if_neg lagging]
    have atTarget : checkpoint.summarizedThroughTurnId = before - 1 := by omega
    refine ⟨OnlyCheckpoint.refl sessionId db, .inr ⟨_, rfl, stored, behind, ?_⟩⟩
    rw [stored.summary, atTarget, summaryThrough_pred]

theorem finish_settled :
    Settled budget db sessionId before
      (db.finishSummaryCheckpoint sessionId (some before) (before - 1) budget window
        checkpoint) := by
  have settled := @catchUp_settled _ _ _ _ _ ascending bounded stored behind window
  unfold finishSummaryCheckpoint
  cases caughtUp : db.catchUpSummaryCheckpoint sessionId (some before) (before - 1) budget window
      checkpoint with
  | mk current next =>
    rw [caughtUp, Prod.map_apply, id_eq] at settled
    rcases settled.outcome with ⟨absent, _⟩ | ⟨_, returned, currentStored, current_lt, body⟩
    · cases absent
    · cases returned
      rcases refresh_stored currentStored with
        ⟨only, refreshedStored, sameThrough, sameBody⟩
      rw [if_neg refreshedStored.nonempty]
      refine ⟨settled.only.trans only, .inr ⟨_, rfl, refreshedStored, ?_, ?_⟩⟩
      · exact lt_of_eq_of_lt sameThrough current_lt
      · exact sameBody.trans body

end

theorem materializeInner_settled (ascending : RowsAscending db sessionId)
    (bounded : before <= db.lastTurnId) (positive : 0 < before - 1)
    (valid : CheckpointValid budget db sessionId) (lookup : SummaryCheckpointMetaLookup)
    (existing : db.resolveExistingMeta sessionId lookup = db.checkpoints.lookup sessionId)
    (window : Nat) :
    Settled budget db sessionId before
      (db.materializeSummaryCheckpointInner sessionId (some before) lookup (before - 1) budget
        window) := by
  unfold materializeSummaryCheckpointInner
  rw [if_neg (by omega), existing]
  cases rebuilds : needsRebuild (db.checkpoints.lookup sessionId) (before - 1) budget with
  | true =>
    have rebuilt := rebuild_settled budget ascending bounded before window
    simp only [rebuilds, if_true, Option.getD_some]
    cases found : db.rebuildSummaryCheckpoint sessionId before (before - 1) budget window with
    | mk returned next =>
      rw [found] at rebuilt
      rcases rebuilt.outcome with ⟨absent, _⟩ | ⟨checkpoint, present, stored, behind, _⟩
      · cases absent
        exact rebuilt
      · cases present
        have boundedNext : before <= next.lastTurnId := by
          rw [rebuilt.only.lastTurnId]
          exact bounded
        have ascendingNext : RowsAscending next sessionId := by
          unfold RowsAscending
          rw [rebuilt.only.sessionTurns]
          exact ascending
        have finished := @finish_settled _ _ _ _ _ ascendingNext boundedNext stored behind window
        refine ⟨rebuilt.only.trans finished.only, ?_⟩
        have outcome := finished.outcome
        unfold summaryBelow at outcome ⊢
        rw [rebuilt.only.sessionTurns] at outcome
        exact outcome
  | false =>
    rcases valid with absent | ⟨checkpoint, stored⟩
    · rw [absent] at rebuilds
      cases rebuilds
    · rw [stored.metaRow] at rebuilds ⊢
      simp only [rebuilds, Bool.false_eq_true, if_false, Option.bind_some, stored.loaded]
      simp only [needsRebuild, Bool.or_eq_false_iff, decide_eq_false_iff_not] at rebuilds
      have earlier : (metaOf checkpoint).summarizedThroughTurnId < before := by omega
      exact finish_settled ascending bounded stored earlier

end Writers

/-! ## Maintenance after an append -/

/-- The rows of a session as appends leave them: ascending positive keys, the
indexes from one on, and their number in the session state. -/
structure SessionRows (db : Database) (sessionId : String) : Prop where
  ascending : RowsAscending db sessionId
  keys : ∀ row, row ∈ db.sessionTurns sessionId -> 0 < row.id /\ row.id <= db.lastTurnId
  indexes : (db.sessionTurns sessionId).map TurnRow.sessionTurnIndex =
    List.range' 1 (db.sessionTurns sessionId).length
  counted : db.sessionState.lookup sessionId =
    if db.sessionTurns sessionId = [] then none else some (db.sessionTurns sessionId).length

theorem SessionRows.transport (rows : SessionRows db sessionId)
    (sameTurns : next.sessionTurns sessionId = db.sessionTurns sessionId)
    (sameCount : next.sessionState.lookup sessionId = db.sessionState.lookup sessionId)
    (grows : db.lastTurnId <= next.lastTurnId) : SessionRows next sessionId where
  ascending := by
    unfold RowsAscending
    rw [sameTurns]
    exact rows.ascending
  keys := by
    rw [sameTurns]
    intro row member
    have keys := rows.keys row member
    exact ⟨keys.1, le_trans keys.2 grows⟩
  indexes := by
    rw [sameTurns]
    exact rows.indexes
  counted := by
    rw [sameTurns, sameCount]
    exact rows.counted

theorem SessionRows.of_only {other : String} (rows : SessionRows db other)
    (only : OnlyCheckpoint sessionId db next) : SessionRows next other :=
  rows.transport (only.sessionTurns other) (congrArg _ only.sessionState)
    (le_of_eq only.lastTurnId.symm)

/-- Only the checkpoint of the session changed, and it is valid. -/
structure Maintained (budget : Nat) (db : Database) (sessionId : String) (next : Database) :
    Prop where
  only : OnlyCheckpoint sessionId db next
  valid : CheckpointValid budget next sessionId

theorem Settled.maintained (settled : Settled budget db sessionId before result) :
    Maintained budget db sessionId result.2 :=
  ⟨settled.only, settled.valid⟩

theorem maintained_delete : Maintained budget db sessionId (db.deleteSummaryCheckpoint sessionId) :=
  ⟨onlyCheckpoint_delete, checkpointValid_delete⟩

section Maintenance

variable {db : Database} {sessionId : String} {before : Int}

/-- Whichever way the boundary is found, it is the key of a row. -/
theorem maintenanceBoundary_le (rows : SessionRows db sessionId) {limit : Nat}
    (boundary : (db.loadSummaryAppendMaintenanceState sessionId limit).summaryBeforeTurnId =
      some before) : before <= db.lastTurnId := by
  have foundRow : ∀ selects : TurnRow -> Bool,
      ((db.sessionTurns sessionId).find? selects).map TurnRow.id = some before ->
        before <= db.lastTurnId := by
    intro selects found
    rcases Option.map_eq_some_iff.mp found with ⟨row, isFound, rfl⟩
    exact (rows.keys row (List.mem_of_find?_eq_some isFound)).2
  have byCount : db.querySummaryBoundaryTurnIdBySessionTurnCount sessionId limit = some before ->
      before <= db.lastTurnId := by
    unfold querySummaryBoundaryTurnIdBySessionTurnCount
    intro found
    split at found
    · cases found
    · split at found
      · exact foundRow _ found
      · cases found
  have byNext : ∀ checkpointMeta, db.nextBoundary sessionId checkpointMeta = some before ->
      before <= db.lastTurnId := by
    unfold nextBoundary
    intro checkpointMeta found
    split at found
    · cases found
    · exact foundRow _ found
  unfold loadSummaryAppendMaintenanceState at boundary
  dsimp only at boundary
  split_ifs at boundary
  · rcases Option.or_eq_some_iff.mp boundary with advanced | ⟨_, counted⟩
    · exact byNext _ advanced
    · exact byCount counted
  · exact byCount boundary

/-- Moving the frontier of a full body needs no turn to be read. -/
theorem maintained_saturated (ascending : RowsAscending db sessionId)
    (bounded : before <= db.lastTurnId)
    (stored : StoredCheckpoint budget db sessionId checkpoint)
    (behind : checkpoint.summarizedThroughTurnId <= before - 1)
    (full : budget <= checkpoint.summaryBody.utf8ByteSize) {window : Nat} :
    Maintained budget db sessionId
      (db.updateSummaryCheckpointMetadata sessionId (before - 1) before budget window
        summaryFormatVersionCurrent) := by
  have ordered : checkpoint.summarizedThroughTurnId < before := by omega
  have sameBody : checkpoint.summaryBody = summaryThrough budget db sessionId (before - 1) := by
    have fullSummary := full
    rw [stored.summary] at fullSummary
    rw [summaryThrough_pred, <- summaryThrough_between ascending budget ordered,
      foldSummary_saturated fullSummary]
    exact stored.summary
  have updated := storedCheckpoint_update stored before window sameBody (by omega)
  exact ⟨onlyCheckpoint_update, .inr ⟨_, updated⟩⟩

theorem maintainSummaryCheckpointAfterAppend_maintained {config : MemoryRuntimeConfig}
    (rows : SessionRows db sessionId)
    (valid : CheckpointValid config.summaryBudgetChars db sessionId) {limit : Nat} :
    Maintained config.summaryBudgetChars db sessionId
      (db.maintainSummaryCheckpointAfterAppend sessionId
        (db.loadSummaryAppendMaintenanceState sessionId limit) config) := by
  have sameMeta : (db.loadSummaryAppendMaintenanceState sessionId limit).checkpointMeta =
      db.checkpoints.lookup sessionId := rfl
  unfold maintainSummaryCheckpointAfterAppend
  rw [sameMeta]
  cases boundary : (db.loadSummaryAppendMaintenanceState sessionId limit).summaryBeforeTurnId with
  | none =>
    split
    · exact maintained_delete
    · exact ⟨OnlyCheckpoint.refl sessionId db, valid⟩
  | some before =>
    have bounded := maintenanceBoundary_le rows boundary
    have target : summaryTarget (some before) = before - 1 := rfl
    rw [target, Option.getD_some]
    by_cases positive : before - 1 <= 0
    · rw [if_pos positive]
      split
      · exact maintained_delete
      · exact ⟨OnlyCheckpoint.refl sessionId db, valid⟩
    · rw [if_neg positive]
      rcases valid with absent | ⟨checkpoint, stored⟩
      · simp only [absent]
        exact (rebuild_settled _ rows.ascending bounded before _).maintained
      · simp only [stored.metaRow]
        split
        · case isTrue saturated =>
            split
            · exact maintained_saturated rows.ascending bounded stored saturated.1.2.2 saturated.2
            · exact ⟨OnlyCheckpoint.refl sessionId db, .inr ⟨checkpoint, stored⟩⟩
        · have settled := materializeInner_settled rows.ascending bounded (by omega)
            (.inr ⟨checkpoint, stored⟩) (.known (some (metaOf checkpoint)))
            stored.metaRow.symm config.defaultWindowSize
          exact settled.maintained

/-- With indexes from one on, the two rows with the smallest indexes are the
first two rows. -/
theorem queryInitialSummaryRows_eq (rows : SessionRows db sessionId) :
    db.queryInitialSummaryRows sessionId = (db.sessionTurns sessionId).take 2 := by
  have indexes := rows.indexes
  unfold queryInitialSummaryRows
  match session : db.sessionTurns sessionId with
  | [] => simp
  | [first] =>
    rw [session] at indexes
    have firstIndex : first.sessionTurnIndex = 1 := by simpa using indexes
    simp [firstIndex]
  | first :: second :: rest =>
    rw [session] at indexes
    simp only [List.map_cons, List.length_cons, List.range'_succ, List.cons.injEq] at indexes
    rcases indexes with ⟨firstIndex, secondIndex, restIndexes⟩
    have beyond : rest.filter (fun row => decide (row.sessionTurnIndex <= 2)) = [] := by
      apply List.filter_eq_nil_iff.mpr
      intro row member
      have inRange : row.sessionTurnIndex ∈ rest.map TurnRow.sessionTurnIndex :=
        List.mem_map_of_mem member
      rw [restIndexes, List.mem_range'_1] at inRange
      simp only [decide_eq_true_eq]
      omega
    have sorted : [first, second].mergeSort
        (fun earlier later => decide (earlier.sessionTurnIndex <= later.sessionTurnIndex)) =
          [first, second] :=
      List.mergeSort_of_pairwise (by simp [firstIndex, secondIndex])
    simp [firstIndex, secondIndex, beyond, sorted]

theorem materializeInitial_maintained (rows : SessionRows db sessionId) {budget window : Nat} :
    Maintained budget db sessionId
      (db.materializeInitialSummaryCheckpoint sessionId budget window).2 := by
  unfold materializeInitialSummaryCheckpoint
  rw [queryInitialSummaryRows_eq rows]
  match session : db.sessionTurns sessionId with
  | [] => exact maintained_delete
  | [_] => exact maintained_delete
  | first :: second :: rest =>
    have firstKey := rows.keys first (session ▸ List.mem_cons_self)
    have ascending := rows.ascending
    unfold RowsAscending at ascending
    rw [session] at ascending
    have summary : appendSummaryLine budget "" first.role first.content =
        summaryThrough budget db sessionId first.id := by
      unfold summaryThrough queryTurnsUpToId
      rw [session, ascending.filter_le_head]
      rfl
    dsimp only [List.take]
    split
    · exact maintained_delete
    · case isFalse nonempty =>
        let checkpoint : SummaryCheckpoint :=
          { summarizedThroughTurnId := first.id
            summaryBeforeTurnId := some second.id
            summaryBody := appendSummaryLine budget "" first.role first.content
            summaryBudgetChars := budget
            summaryWindowSize := window
            summaryFormatVersion := summaryFormatVersionCurrent }
        exact ⟨onlyCheckpoint_upsert, .inr ⟨checkpoint,
          storedCheckpoint_upsert nonempty summary rfl rfl firstKey.2⟩⟩

theorem maintainAfterAppend_maintained {config : MemoryRuntimeConfig}
    (rows : SessionRows db sessionId)
    (valid : CheckpointValid config.summaryBudgetChars db sessionId) {index : Nat} :
    Maintained config.summaryBudgetChars db sessionId
      (db.maintainAfterAppend sessionId index config) := by
  unfold maintainAfterAppend
  split
  · split
    · exact materializeInitial_maintained rows
    · exact maintainSummaryCheckpointAfterAppend_maintained rows valid
  · exact ⟨OnlyCheckpoint.refl sessionId db, valid⟩

end Maintenance

end Database

end LoongClaw.Memory
