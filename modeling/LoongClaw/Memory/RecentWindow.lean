import LoongClaw.Foundation.Attempt
import LoongClaw.Foundation.Machine
import LoongClaw.Memory.Checkpoint

namespace LoongClaw.Memory

open Foundation Machine OrderedMap TurnRow

/-!
# The recent window and the stored turn count

The recent window of a session is read in one of three ways, chosen by the
stored turn count: all rows if they fit, the last rows if there are more, and
one row more than fits if no count is stored or the rows do not match it.
After appends and clears the count is the number of rows.  The query is also
run here with a count that is anything, as a database may hold it that was
not written by these operations.
-/

namespace Database

/-! ## Appends and clears keep the rows -/

variable (db : Database) (sessionId : String) (before : Option Int) (target : Int)
  (budget window : Nat)

theorem onlyCheckpoint_rebuild {before target : Int} {budget window : Nat} :
    OnlyCheckpoint sessionId db
      (db.rebuildSummaryCheckpoint sessionId before target budget window).2 := by
  unfold rebuildSummaryCheckpoint
  dsimp only
  split
  · exact onlyCheckpoint_delete
  · exact onlyCheckpoint_upsert

variable (checkpoint : SummaryCheckpoint)

theorem onlyCheckpoint_catchUp : OnlyCheckpoint sessionId db
      (db.catchUpSummaryCheckpoint sessionId before target budget window checkpoint).2 := by
  unfold catchUpSummaryCheckpoint
  cases before with
  | none => exact OnlyCheckpoint.refl sessionId db
  | some boundary =>
    dsimp only
    split
    · split
      · exact OnlyCheckpoint.refl sessionId db
      · exact onlyCheckpoint_upsert
    · exact OnlyCheckpoint.refl sessionId db

theorem onlyCheckpoint_refresh : OnlyCheckpoint sessionId db
      (db.refreshSummaryCheckpointMetadata sessionId before target budget window checkpoint).2 := by
  unfold refreshSummaryCheckpointMetadata
  split
  · exact onlyCheckpoint_update
  · exact OnlyCheckpoint.refl sessionId db

theorem onlyCheckpoint_finish : OnlyCheckpoint sessionId db
      (db.finishSummaryCheckpoint sessionId before target budget window checkpoint).2 := by
  let caughtUp := db.catchUpSummaryCheckpoint sessionId before target budget window checkpoint
  have changed := (onlyCheckpoint_catchUp db sessionId before target budget window checkpoint).trans
      (onlyCheckpoint_refresh caughtUp.2 sessionId before target budget window caughtUp.1)
  unfold finishSummaryCheckpoint
  dsimp only
  split
  · exact changed.trans onlyCheckpoint_delete
  · exact changed

theorem onlyCheckpoint_materialize {lookup : SummaryCheckpointMetaLookup}
    {config : MemoryRuntimeConfig} :
    OnlyCheckpoint sessionId db
      (db.materializeSummaryCheckpoint sessionId before lookup config).2 := by
  unfold materializeSummaryCheckpoint materializeSummaryCheckpointInner
  split
  · exact onlyCheckpoint_delete
  · dsimp only
    have located : ∀ rebuild : Bool, ∀ loaded : Option SummaryCheckpoint,
        OnlyCheckpoint sessionId db (if rebuild = true then
            db.rebuildSummaryCheckpoint sessionId (before.getD 0) (summaryTarget before)
              config.summaryBudgetChars config.defaultWindowSize
          else (loaded, db)).2 := by
      intro rebuild loaded
      cases rebuild with
      | true => exact onlyCheckpoint_rebuild db sessionId
      | false => exact OnlyCheckpoint.refl sessionId db
    split
    case h_1 _ next found => exact congrArg Prod.snd found ▸ located _ _
    case h_2 _ checkpoint next found =>
      have same : _ = next := congrArg Prod.snd found
      have reached : OnlyCheckpoint sessionId db next := by
        rw [<- same]
        exact located _ _
      exact reached.trans (onlyCheckpoint_finish next sessionId _ _ _ _ _)

theorem onlyCheckpoint_maintainSummary {state : SummaryAppendMaintenanceState}
    {config : MemoryRuntimeConfig} :
    OnlyCheckpoint sessionId db
      (db.maintainSummaryCheckpointAfterAppend sessionId state config) := by
  unfold maintainSummaryCheckpointAfterAppend
  dsimp only
  split
  · split
    · exact onlyCheckpoint_delete
    · exact OnlyCheckpoint.refl sessionId db
  · split
    · exact onlyCheckpoint_rebuild db sessionId
    · split
      · split
        · exact onlyCheckpoint_update
        · exact OnlyCheckpoint.refl sessionId db
      · exact onlyCheckpoint_materialize db sessionId _

/-- Whatever the checkpoint was, maintaining it changes nothing else. -/
theorem onlyCheckpoint_maintain (index : Nat) (config : MemoryRuntimeConfig) :
    OnlyCheckpoint sessionId db (db.maintainAfterAppend sessionId index config) := by
  unfold maintainAfterAppend
  split
  · split
    · unfold materializeInitialSummaryCheckpoint
      split
      · dsimp only
        split
        · exact onlyCheckpoint_delete
        · exact onlyCheckpoint_upsert
      · exact onlyCheckpoint_delete
    · exact onlyCheckpoint_maintainSummary db sessionId
  · exact OnlyCheckpoint.refl sessionId db

end Database

/-- Requests that change turns.  Each append carries its own configuration, and
the key of a new row exceeds the largest key so far by one and a gap. -/
inductive TurnRequest where
  | appendTurn (gap : Nat) (sessionId role content : String) (config : MemoryRuntimeConfig)
  | clearSession (payload : Json)

namespace Database

/-- A request that fails is rolled back. -/
def turnStep (db : Database) : TurnRequest -> Database
  | .appendTurn gap sessionId role content config =>
    match db.appendTurn (db.lastTurnId + 1 + gap) sessionId role content config with
    | .ok next => next
    | .error _ => db
  | .clearSession payload =>
    match db.clearSession payload with
    | .ok (_, next) => next
    | .error _ => db

/-- Every session's rows are as appends leave them. -/
structure WellCounted (db : Database) : Prop where
  sequence : 0 <= db.lastTurnId
  rows : ∀ sessionId, SessionRows db sessionId

theorem wellCounted_empty : WellCounted empty where
  sequence := Int.le_refl 0
  rows _ :=
    { ascending := List.Pairwise.nil
      keys := fun _ member => by cases member
      indexes := rfl
      counted := rfl }

variable {db next : Database} {sessionId other : String} {row : TurnRow}

theorem WellCounted.of_only (counted : WellCounted db)
    (only : OnlyCheckpoint sessionId db next) : WellCounted next where
  sequence := only.lastTurnId.symm ▸ counted.sequence
  rows other := (counted.rows other).of_only only

/-- The store with the row of a new turn, before its checkpoint is maintained. -/
def withTurn (db : Database) (row : TurnRow) (turnCount : Nat) : Database :=
  insertTurn { db with sessionState := db.sessionState.insert row.sessionId turnCount } row

theorem sessionTurns_withTurn (db : Database) (row : TurnRow) (turnCount : Nat)
    (sessionId : String) :
    (db.withTurn row turnCount).sessionTurns sessionId =
      if row.sessionId = sessionId then db.sessionTurns sessionId ++ [row]
      else db.sessionTurns sessionId := by
  unfold sessionTurns withTurn insertTurn
  by_cases same : row.sessionId = sessionId
  · simp [same]
  · simp [same]

theorem SessionRows.count (rows : SessionRows db sessionId) :
    (db.sessionState.lookup sessionId).getD 0 = (db.sessionTurns sessionId).length := by
  rw [rows.counted]
  split
  · case isTrue none => rw [none]; rfl
  · rfl

/-- The session of the new row gains it as its last row. -/
theorem SessionRows.withTurn_self (rows : SessionRows db row.sessionId) (positive : 0 < row.id)
    (above : db.lastTurnId < row.id)
    (index : row.sessionTurnIndex = (db.sessionTurns row.sessionId).length + 1) :
    SessionRows (db.withTurn row row.sessionTurnIndex) row.sessionId := by
  have appended := sessionTurns_withTurn db row row.sessionTurnIndex row.sessionId
  rw [if_pos rfl] at appended
  constructor
  case ascending =>
    unfold RowsAscending
    rw [appended]
    exact rows.ascending.snoc (fun earlier member =>
      lt_of_le_of_lt (rows.keys earlier member).2 above)
  case keys =>
    rw [appended]
    refine List.forall_mem_append.mpr ⟨?_, List.forall_mem_singleton.mpr ⟨positive, le_rfl⟩⟩
    intro other earlier
    have keys := rows.keys other earlier
    exact ⟨keys.1, le_of_lt (lt_of_le_of_lt keys.2 above)⟩
  case indexes =>
    rw [appended, List.map_append, rows.indexes, List.length_append, List.map_singleton, index,
      List.length_singleton, List.range'_1_concat, Nat.add_comm 1]
  case counted =>
    rw [appended, if_neg (by simp), List.length_append, List.length_singleton, <- index]
    exact lookup_insert_self

theorem SessionRows.withTurn_of_ne (rows : SessionRows db sessionId)
    (above : db.lastTurnId < row.id) (different : row.sessionId ≠ sessionId) (turnCount : Nat) :
    SessionRows (db.withTurn row turnCount) sessionId := by
  have sameTurns := sessionTurns_withTurn db row turnCount sessionId
  rw [if_neg different] at sameTurns
  exact rows.transport sameTurns (lookup_insert_of_ne (Ne.symm different) _ _) (le_of_lt above)

theorem WellCounted.withTurn (counted : WellCounted db) (above : db.lastTurnId < row.id)
    (index : row.sessionTurnIndex = (db.sessionTurns row.sessionId).length + 1) :
    WellCounted (db.withTurn row row.sessionTurnIndex) where
  sequence := le_of_lt (lt_of_le_of_lt counted.sequence above)
  rows other := by
    by_cases same : row.sessionId = other
    · subst same
      exact (counted.rows row.sessionId).withTurn_self
        (lt_of_le_of_lt counted.sequence above) above index
    · exact (counted.rows other).withTurn_of_ne above same row.sessionTurnIndex

theorem WellCounted.appendTurn (counted : WellCounted db) {turnId : Int}
    (above : db.lastTurnId < turnId) {role content : String} {config : MemoryRuntimeConfig}
    (appended : db.appendTurn turnId sessionId role content config = .ok next) :
    WellCounted next := by
  rcases Fallible.bind_eq_ok_iff.mp appended with ⟨session, sessionOk, rest⟩
  rcases Fallible.bind_eq_ok_iff.mp rest with ⟨roleName, roleOk, returned⟩
  let row : TurnRow :=
    { id := turnId
      sessionId := session
      sessionTurnIndex := (db.sessionState.lookup session).getD 0 + 1
      role := roleName
      content }
  have index : row.sessionTurnIndex = (db.sessionTurns session).length + 1 :=
    congrArg (· + 1) (counted.rows session).count
  have inserted : WellCounted (db.withTurn row row.sessionTurnIndex) := counted.withTurn above index
  have result : (db.withTurn row row.sessionTurnIndex).maintainAfterAppend session
      row.sessionTurnIndex config = next := Except.ok.inj returned
  rw [<- result]
  exact inserted.of_only (onlyCheckpoint_maintain _ session row.sessionTurnIndex config)

/-- The store without the rows of one session. -/
def withoutSession (db : Database) (sessionId : String) : Database :=
  deleteSummaryCheckpoint
    { db with
      turns := db.turns.filter (fun row => decide (row.sessionId ≠ sessionId))
      sessionState := db.sessionState.erase sessionId } sessionId

theorem sessionTurns_withoutSession (db : Database) (sessionId other : String) :
    (db.withoutSession sessionId).sessionTurns other =
      if other = sessionId then [] else db.sessionTurns other := by
  unfold sessionTurns withoutSession deleteSummaryCheckpoint
  rw [List.filter_filter]
  by_cases same : other = sessionId
  · rw [if_pos same]
    apply List.filter_eq_nil_iff.mpr
    intro row _
    simp [same]
  · rw [if_neg same]
    apply List.filter_congr
    intro row _
    by_cases own : row.sessionId = other
    · simp [own, same]
    · simp [own]

theorem sessionRows_withoutSession : SessionRows (db.withoutSession sessionId) sessionId := by
  have cleared := sessionTurns_withoutSession db sessionId sessionId
  rw [if_pos rfl] at cleared
  constructor
  case ascending =>
    unfold RowsAscending
    rw [cleared]
    exact List.Pairwise.nil
  case keys =>
    rw [cleared]
    intro row member
    cases member
  case indexes =>
    rw [cleared]
    rfl
  case counted =>
    rw [cleared, if_pos rfl]
    exact lookup_erase_self

theorem SessionRows.withoutSession_of_ne (rows : SessionRows db other)
    (different : other ≠ sessionId) : SessionRows (db.withoutSession sessionId) other := by
  have sameTurns := sessionTurns_withoutSession db sessionId other
  rw [if_neg different] at sameTurns
  exact rows.transport sameTurns (lookup_erase_of_ne different _) (le_refl _)

theorem WellCounted.withoutSession (counted : WellCounted db) (sessionId : String) :
    WellCounted (db.withoutSession sessionId) where
  sequence := counted.sequence
  rows other := by
    by_cases same : other = sessionId
    · exact same ▸ sessionRows_withoutSession
    · exact (counted.rows other).withoutSession_of_ne same

theorem WellCounted.clearSession (counted : WellCounted db) {payload : Json} {affected : Nat}
    (cleared : db.clearSession payload = .ok (affected, next)) : WellCounted next := by
  rcases Fallible.bind_eq_ok_iff.mp cleared with ⟨sessionId, sessionOk, returned⟩
  have result : db.withoutSession sessionId = next :=
    (Prod.mk.inj (Except.ok.inj returned)).2
  rw [<- result]
  exact counted.withoutSession sessionId

theorem WellCounted.turnStep (counted : WellCounted db) (request : TurnRequest) :
    WellCounted (db.turnStep request) := by
  cases request with
  | appendTurn gap sessionId role content config =>
    unfold Database.turnStep
    dsimp only
    split
    · case h_1 next appended => exact counted.appendTurn (by omega) appended
    · exact counted
  | clearSession payload =>
    unfold Database.turnStep
    dsimp only
    split
    · case h_1 affected next cleared => exact counted.clearSession cleared
    · exact counted

/-! ## The window for a stored count that is anything -/

/-- The rows that a query returned match the stored count.  A negative count
matches none. -/
def rowsMatchStoredCount (sessionTurnCount : Int) (rowCount limit : Nat) : Bool :=
  if sessionTurnCount < 0 then false
  else promptWindowRowsMatchSessionTurnCount sessionTurnCount.toNat rowCount limit

/-- The recent window, read as a stored turn count says. -/
def queryRecentPromptTurnsWithStoredCount (db : Database) (sessionTurnCount : Option Int)
    (sessionId : String) (limit : Nat) : RecentPromptWindowTurns :=
  match sessionTurnCount with
  | none => db.queryRecentPromptTurnsWithPayloadOverflowProbeFallback sessionId limit
  | some sessionTurnCount =>
    if sessionTurnCount <= limit then
      let turns := db.queryRecentPromptTurns sessionId limit
      if rowsMatchStoredCount sessionTurnCount turns.length limit then
        { turns
          summaryBeforeTurnId := none
          windowStartsAtSessionOrigin := true
          checkpointMetaLookup := .known none }
      else db.queryRecentPromptTurnsWithPayloadOverflowProbeFallback sessionId limit
    else
      let recentWindow := db.queryRecentPromptTurnsWithKnownOverflow sessionId limit
      if rowsMatchStoredCount sessionTurnCount recentWindow.turns.length limit then recentWindow
      else db.queryRecentPromptTurnsWithPayloadOverflowProbeFallback sessionId limit

variable {db : Database} {limit : Nat} {sessionId : String}

/-- The query of the store is the one for the count that the store has. -/
theorem queryRecentPromptTurnsWithOverflowProbe_eq :
    db.queryRecentPromptTurnsWithOverflowProbe sessionId limit =
      db.queryRecentPromptTurnsWithStoredCount
        ((db.querySessionTurnCount sessionId).map Int.ofNat) sessionId limit := by
  unfold queryRecentPromptTurnsWithOverflowProbe queryRecentPromptTurnsWithStoredCount
  cases db.querySessionTurnCount sessionId with
  | none => rfl
  | some count =>
    have matching : ∀ rowCount, rowsMatchStoredCount (count : Int) rowCount limit =
        promptWindowRowsMatchSessionTurnCount count rowCount limit := by
      intro rowCount
      rfl
    simp only [Option.map_some, Int.ofNat_eq_natCast, matching, Int.ofNat_le]

/-- What the three ways of reading are to agree on. -/
def windowOf (window : RecentPromptWindowTurns) : List PromptWindowTurn × Option Int × Bool :=
  (window.turns, window.summaryBeforeTurnId, window.windowStartsAtSessionOrigin)

/-- The last rows; if there are others, the key of the first of the last rows;
and whether there are no others. -/
def lastWindow (rows : List TurnRow) (limit : Nat) : List PromptWindowTurn × Option Int × Bool :=
  let last := rows.drop (rows.length - limit)
  (last.map TurnRow.prompt, if limit < rows.length then last.head?.map TurnRow.id else none,
    decide (rows.length <= limit))

theorem recentRows_reverse {limit : Nat} :
    (db.recentRows sessionId limit).reverse =
      (db.sessionTurns sessionId).drop ((db.sessionTurns sessionId).length - limit) := by
  unfold recentRows
  rw [List.take_reverse, List.reverse_reverse]

theorem queryRecentPromptTurns_eq {limit : Nat} :
    db.queryRecentPromptTurns sessionId limit =
      ((db.sessionTurns sessionId).drop ((db.sessionTurns sessionId).length - limit)).map
        prompt := by
  unfold queryRecentPromptTurns
  rw [<- List.map_reverse, recentRows_reverse]

theorem fallback_window (db : Database) (sessionId : String) (limit : Nat) :
    windowOf (db.queryRecentPromptTurnsWithPayloadOverflowProbeFallback sessionId limit) =
      lastWindow (db.sessionTurns sessionId) limit := by
  unfold windowOf queryRecentPromptTurnsWithPayloadOverflowProbeFallback lastWindow
  dsimp only
  rw [recentRows_reverse]
  generalize db.sessionTurns sessionId = rows
  by_cases exceeds : limit < rows.length
  · have length : (rows.drop (rows.length - (limit + 1))).length = limit + 1 := by
      rw [List.length_drop]
      omega
    have next : rows.length - (limit + 1) + 1 = rows.length - limit := by omega
    have overflow : decide (limit < (rows.drop (rows.length - (limit + 1))).length) = true := by
      rw [length]
      simp
    have more : decide (rows.length <= limit) = false := by
      rw [decide_eq_false_iff_not]
      omega
    rw [overflow, if_pos rfl, if_pos rfl, if_pos exceeds, List.drop_drop, next, more]
    rfl
  · have whole : rows.length - (limit + 1) = 0 := by omega
    have all : rows.length - limit = 0 := by omega
    have fits : decide (limit < rows.length) = false := decide_eq_false exceeds
    have few : decide (rows.length <= limit) = true := by
      rw [decide_eq_true_eq]
      omega
    rw [whole, all, List.drop_zero, fits, if_neg exceeds, few]
    rfl

theorem exact_window {lookup : SummaryCheckpointMetaLookup} :
    windowOf ⟨db.queryRecentPromptTurns sessionId limit, none, true, lookup⟩ =
        lastWindow (db.sessionTurns sessionId) limit ↔
      (db.sessionTurns sessionId).length <= limit := by
  unfold windowOf lastWindow
  rw [queryRecentPromptTurns_eq]
  simp only [Prod.mk.injEq, true_and]
  constructor
  · intro same
    exact of_decide_eq_true same.2.symm
  · intro fits
    refine ⟨?_, (decide_eq_true fits).symm⟩
    rw [if_neg (by omega)]

theorem overflow_window :
    windowOf (db.queryRecentPromptTurnsWithKnownOverflow sessionId limit) =
        lastWindow (db.sessionTurns sessionId) limit ↔
      limit < (db.sessionTurns sessionId).length := by
  unfold windowOf lastWindow queryRecentPromptTurnsWithKnownOverflow
  rw [recentRows_reverse]
  simp only [Prod.mk.injEq, true_and]
  constructor
  · intro same
    have more := of_decide_eq_false same.2.symm
    omega
  · intro exceeds
    refine ⟨?_, ?_⟩
    · rw [if_pos exceeds]
    · exact (decide_eq_false (by omega)).symm

/-- A stored count that passes the check although it is wrong: it says that
there are more rows than fit where they just fit, or that they just fit where
there are more. -/
def Misleads (sessionTurnCount : Option Int) (turnCount limit : Nat) : Prop :=
  ∃ stored : Int, sessionTurnCount = some stored /\
    (limit < stored /\ turnCount = limit \/ stored = limit /\ limit < turnCount)

theorem storedCount_window_iff {sessionTurnCount : Option Int} :
    windowOf (db.queryRecentPromptTurnsWithStoredCount sessionTurnCount sessionId limit) =
        lastWindow (db.sessionTurns sessionId) limit ↔
      ¬ Misleads sessionTurnCount (db.sessionTurns sessionId).length limit := by
  unfold queryRecentPromptTurnsWithStoredCount
  cases sessionTurnCount with
  | none => exact iff_of_true (fallback_window db sessionId limit) nofun
  | some stored =>
    dsimp only
    have exactLength : (db.queryRecentPromptTurns sessionId limit).length =
        (db.sessionTurns sessionId).length - ((db.sessionTurns sessionId).length - limit) := by
      rw [queryRecentPromptTurns_eq, List.length_map, List.length_drop]
    have overflowLength :
        (db.queryRecentPromptTurnsWithKnownOverflow sessionId limit).turns.length =
          (db.sessionTurns sessionId).length - ((db.sessionTurns sessionId).length - limit) := by
      unfold queryRecentPromptTurnsWithKnownOverflow
      rw [recentRows_reverse, List.length_map, List.length_drop]
    have fallback := fallback_window db sessionId limit
    have misleads : Misleads (some stored) (db.sessionTurns sessionId).length limit ↔
        (limit < stored /\ (db.sessionTurns sessionId).length = limit \/
          stored = limit /\ limit < (db.sessionTurns sessionId).length) :=
      ⟨fun ⟨_, same, holds⟩ => Option.some.inj same ▸ holds, fun holds => ⟨stored, rfl, holds⟩⟩
    rw [misleads, exactLength, overflowLength]
    cases found : rowsMatchStoredCount stored ((db.sessionTurns sessionId).length -
        ((db.sessionTurns sessionId).length - limit)) limit with
    | false =>
      simp only [Bool.false_eq_true, if_false, ite_self]
      refine iff_of_true fallback ?_
      simp [rowsMatchStoredCount, promptWindowRowsMatchSessionTurnCount] at found
      omega
    | true =>
      simp [rowsMatchStoredCount, promptWindowRowsMatchSessionTurnCount] at found
      rw [if_pos rfl, if_pos rfl]
      split
      · rw [exact_window]
        omega
      · rw [overflow_window]
        omega

/-- The count that appends keep is never one that misleads. -/
theorem overflowProbe_window (rows : SessionRows db sessionId) (limit : Nat) :
    windowOf (db.queryRecentPromptTurnsWithOverflowProbe sessionId limit) =
      lastWindow (db.sessionTurns sessionId) limit := by
  rw [queryRecentPromptTurnsWithOverflowProbe_eq, storedCount_window_iff]
  rintro ⟨stored, same, wrong⟩
  unfold querySessionTurnCount at same
  rw [rows.counted] at same
  split at same
  · cases same
  · have count : ((db.sessionTurns sessionId).length : Int) = stored := Option.some.inj same
    omega

/-- After any appends and clears, the stored count is the number of the turns,
their indexes are those from one on in the order of their keys, and the recent
window is the last turns, as it is when it is read without a count.  Read with
any other stored count, it is the last turns exactly unless the count says that
there are more turns than fit where they just fit, or the other way round. -/
theorem recent_window_agrees_iff (requests : List TurnRequest) (sessionId : String)
    (limit : Nat) (sessionTurnCount : Option Int) :
    let db := run turnStep empty requests
    ((db.querySessionTurnCount sessionId).getD 0 = (db.sessionTurns sessionId).length /\
      (db.sessionTurns sessionId).map TurnRow.sessionTurnIndex =
        List.range' 1 (db.sessionTurns sessionId).length /\
      RowsAscending db sessionId) /\
    windowOf (db.queryRecentPromptTurnsWithOverflowProbe sessionId limit) =
      lastWindow (db.sessionTurns sessionId) limit /\
    windowOf (db.queryRecentPromptTurnsWithPayloadOverflowProbeFallback sessionId limit) =
      lastWindow (db.sessionTurns sessionId) limit /\
    (windowOf (db.queryRecentPromptTurnsWithStoredCount sessionTurnCount sessionId limit) =
        windowOf (db.queryRecentPromptTurnsWithPayloadOverflowProbeFallback sessionId limit) ↔
      ¬ Misleads sessionTurnCount (db.sessionTurns sessionId).length limit) := by
  intro db
  have counted : WellCounted db := run_invariant turnStep
    (fun _ request counted => counted.turnStep request) wellCounted_empty requests
  have rows : SessionRows db sessionId := counted.rows sessionId
  refine ⟨⟨rows.count, rows.indexes, rows.ascending⟩, overflowProbe_window rows limit,
    fallback_window db sessionId limit, ?_⟩
  rw [fallback_window]
  exact storedCount_window_iff

/-- Two turns with a stored count of one and a window of one: the row that the
query returns matches the count, so the window passes for the whole session. -/
theorem stale_count_hides_overflow :
    let request := fun content => TurnRequest.appendTurn 0 "s" "user" content
      { mode := .windowOnly, slidingWindow := 1, summaryMaxChars := 256 }
    let db := run turnStep empty [request "first", request "second"]
    windowOf (db.queryRecentPromptTurnsWithStoredCount (some 1) "s" 1) =
        ([⟨"user", "second"⟩], none, true) /\
      windowOf (db.queryRecentPromptTurnsWithPayloadOverflowProbeFallback "s" 1) =
        ([⟨"user", "second"⟩], some 2, false) := by
  decide +kernel

end Database

end LoongClaw.Memory
