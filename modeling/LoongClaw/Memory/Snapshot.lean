import LoongClaw.Memory.RecentWindow

namespace LoongClaw.Memory

open Foundation Machine OrderedMap TurnRow

/-!
# The store refines a log of turns

A memory is a log of turns for each session.  A prompt context is then the
last turns of a log and the summary of all turns before them.  The store keeps
rows, counts and a checkpoint instead, and moves the checkpoint along different
paths.  Every step of the store is matched by the step of the log, so what a
load returns is the context of the log, however the checkpoint came about.
-/

/-- The turns of each session in insertion order. -/
abbrev TurnLog := String -> List PromptWindowTurn

namespace TurnLog

def empty : TurnLog := fun _ => []

def record (log : TurnLog) (sessionId : String) (turn : PromptWindowTurn) : TurnLog :=
  fun other => if other = sessionId then log other ++ [turn] else log other

def clear (log : TurnLog) (sessionId : String) : TurnLog :=
  fun other => if other = sessionId then [] else log other

end TurnLog

/-- The last turns, and the summary of the turns before them. -/
def contextOf (budget window : Nat) (turns : List PromptWindowTurn) : Database.ContextSnapshot where
  windowTurns := turns.drop (turns.length - window)
  summaryBody :=
    Database.nonEmptyText (foldSummary budget "" (turns.take (turns.length - window)))

/-- Requests to the store.  Each carries its own mode and window.  The key of a
new row exceeds the largest key so far by one and a gap. -/
inductive MemoryOp where
  | appendTurn (gap : Nat) (sessionId role content : String) (mode : MemoryMode)
      (slidingWindow : Nat)
  | clearSession (payload : Json)
  | loadContextSnapshot (sessionId : String) (mode : MemoryMode) (slidingWindow : Nat)

namespace Database

/-- A request that fails is rolled back. -/
def step (summaryMaxChars : Nat) (db : Database) : MemoryOp -> Database
  | .appendTurn gap sessionId role content mode slidingWindow =>
    match db.appendTurn (db.lastTurnId + 1 + gap) sessionId role content
        { mode, slidingWindow, summaryMaxChars } with
    | .ok next => next
    | .error _ => db
  | .clearSession payload =>
    match db.clearSession payload with
    | .ok (_, next) => next
    | .error _ => db
  | .loadContextSnapshot sessionId mode slidingWindow =>
    (db.loadContextSnapshot sessionId { mode, slidingWindow, summaryMaxChars }).2

end Database

namespace TurnLog

def step (log : TurnLog) : MemoryOp -> TurnLog
  | .appendTurn _ sessionId role content _ _ =>
    match Database.normalizeRequiredStr sessionId "memory.append_turn requires payload.session_id",
        Database.normalizeRequiredStr role "memory.append_turn requires payload.role" with
    | .ok sessionId, .ok role => log.record sessionId { role, content }
    | _, _ => log
  | .clearSession payload =>
    match Database.clearSessionId payload with
    | .ok sessionId => log.clear sessionId
    | .error _ => log
  | .loadContextSnapshot _ _ _ => log

/-- The request is to add a turn to the session or to clear it. -/
def concerns (sessionId : String) : MemoryOp -> Bool
  | .appendTurn _ other _ _ _ _ => Text.trim other = sessionId
  | .clearSession payload => (Database.clearSessionId payload).toOption = some sessionId
  | .loadContextSnapshot _ _ _ => false

variable {op : MemoryOp} {sessionId : String}

theorem step_of_not_concerns (log : TurnLog) (unconcerned : concerns sessionId op = false) :
    log.step op sessionId = log sessionId := by
  cases op with
  | appendTurn _ other role content =>
    have different : Text.trim other ≠ sessionId := of_decide_eq_false unconcerned
    simp only [step, Database.normalizeRequiredStr]
    split_ifs <;> simp [record, different.symm]
  | clearSession payload =>
    simp only [step]
    cases cleared : Database.clearSessionId payload with
    | error => rfl
    | ok other =>
      have different : other ≠ sessionId := by
        simpa [concerns, cleared, Except.toOption] using unconcerned
      exact if_neg different.symm
  | loadContextSnapshot => rfl

theorem step_congr {first second : TurnLog} (same : first sessionId = second sessionId) :
    first.step op sessionId = second.step op sessionId := by
  cases op with
  | appendTurn =>
    simp only [step, Database.normalizeRequiredStr]
    split_ifs <;> simp [record, same]
  | clearSession payload =>
    simp only [step]
    cases Database.clearSessionId payload <;> simp [clear, same]
  | loadContextSnapshot => exact same

end TurnLog

namespace Database

/-- The store holds the log's turns, and every checkpoint is a summary. -/
structure Refines (budget : Nat) (db : Database) (log : TurnLog) : Prop where
  sequence : 0 <= db.lastTurnId
  rows : ∀ sessionId, SessionRows db sessionId
  checkpoint : ∀ sessionId, CheckpointValid budget db sessionId
  logged : ∀ sessionId, (db.sessionTurns sessionId).map prompt = log sessionId

theorem refines_empty (budget : Nat) : Refines budget empty TurnLog.empty where
  sequence := wellCounted_empty.sequence
  rows := wellCounted_empty.rows
  checkpoint _ := .inl rfl
  logged _ := rfl

section Steps

variable {budget : Nat} {db : Database} {log : TurnLog}

theorem Refines.wellCounted (refines : Refines budget db log) : WellCounted db :=
  ⟨refines.sequence, refines.rows⟩

/-! ## Checkpoint writes do not change the log -/

variable {next : Database} {sessionId other : String} {row : TurnRow} {summaryMaxChars limit : Nat}
  {config : MemoryRuntimeConfig}

theorem Refines.of_maintained (refines : Refines budget db log)
    (maintained : Maintained budget db sessionId next) :
    Refines budget next log where
  sequence := (refines.wellCounted.of_only maintained.only).sequence
  rows := (refines.wellCounted.of_only maintained.only).rows
  checkpoint other := by
    by_cases same : other = sessionId
    · exact same ▸ maintained.valid
    · have only := maintained.only
      exact (refines.checkpoint other).transport (only.others other same).1
        (only.others other same).2 (fun through _ => only.summaryThrough budget other through)
        (le_of_eq only.lastTurnId.symm)
  logged other := by
    rw [maintained.only.sessionTurns]
    exact refines.logged other

/-! ## Appending a turn -/

theorem Refines.withTurn (refines : Refines budget db log) (above : db.lastTurnId < row.id)
    (index : row.sessionTurnIndex = (db.sessionTurns row.sessionId).length + 1) :
    Refines budget (db.withTurn row row.sessionTurnIndex)
      (log.record row.sessionId row.prompt) where
  sequence := (refines.wellCounted.withTurn above index).sequence
  rows := (refines.wellCounted.withTurn above index).rows
  checkpoint other := by
    refine (refines.checkpoint other).transport rfl rfl ?_ (le_of_lt above)
    intro through through_le
    unfold summaryThrough queryTurnsUpToId
    rw [sessionTurns_withTurn]
    split
    · have beyond : ¬ row.id <= through := by omega
      simp [beyond]
    · rfl
  logged other := by
    rw [sessionTurns_withTurn]
    unfold TurnLog.record
    by_cases same : row.sessionId = other
    · rw [if_pos same, if_pos same.symm, List.map_append, refines.logged]
      rfl
    · rw [if_neg same, if_neg (Ne.symm same), refines.logged]

theorem Refines.appendTurn (refines : Refines budget db log) (config : MemoryRuntimeConfig)
    (sameBudget : config.summaryBudgetChars = budget) {turnId : Int}
    (above : db.lastTurnId < turnId) {role session roleName : String} (content : String)
    (sessionOk : normalizeRequiredStr sessionId
      "memory.append_turn requires payload.session_id" = .ok session)
    (roleOk : normalizeRequiredStr role "memory.append_turn requires payload.role" = .ok roleName) :
    ∃ next, db.appendTurn turnId sessionId role content config = .ok next /\
      Refines budget next (log.record session { role := roleName, content }) := by
  let row : TurnRow :=
    { id := turnId
      sessionId := session
      sessionTurnIndex := (db.sessionState.lookup session).getD 0 + 1
      role := roleName
      content }
  have index : row.sessionTurnIndex = (db.sessionTurns session).length + 1 :=
    congrArg (· + 1) (refines.rows session).count
  have inserted : Refines budget (db.withTurn row row.sessionTurnIndex)
      (log.record session row.prompt) := refines.withTurn above index
  subst sameBudget
  refine ⟨(db.withTurn row row.sessionTurnIndex).maintainAfterAppend session
    row.sessionTurnIndex config, ?_, ?_⟩
  · unfold Database.appendTurn
    rw [sessionOk, roleOk]
    rfl
  · exact inserted.of_maintained (maintainAfterAppend_maintained
      (inserted.rows session) (inserted.checkpoint session))

variable {sessionId : String} {db : Database}

theorem step_appendTurn_refines (refines : Refines (max summaryMaxChars 256) db log) {gap : Nat}
    {role content : String} {mode : MemoryMode} {slidingWindow : Nat} :
    Refines (max summaryMaxChars 256)
      (db.step summaryMaxChars (.appendTurn gap sessionId role content mode slidingWindow))
      (log.step (.appendTurn gap sessionId role content mode slidingWindow)) := by
  cases sessionChecked : normalizeRequiredStr sessionId
      "memory.append_turn requires payload.session_id" with
  | error _ =>
    simp only [step, TurnLog.step, appendTurn, sessionChecked]
    exact refines
  | ok session =>
    cases roleChecked : normalizeRequiredStr role "memory.append_turn requires payload.role" with
    | error _ =>
      simp only [step, TurnLog.step, appendTurn, sessionChecked, roleChecked]
      exact refines
    | ok roleName =>
      have above : db.lastTurnId < db.lastTurnId + 1 + gap := by omega
      rcases refines.appendTurn ⟨mode, slidingWindow, summaryMaxChars⟩ rfl above content
        sessionChecked roleChecked with ⟨next, appended, nextRefines⟩
      simp only [step, TurnLog.step, appended, sessionChecked, roleChecked]
      exact nextRefines

/-! ## Clearing a session -/

theorem CheckpointValid.withoutSession_of_ne (valid : CheckpointValid budget db other)
    (different : other ≠ sessionId) :
    CheckpointValid budget (db.withoutSession sessionId) other := by
  have sameTurns := sessionTurns_withoutSession db sessionId other
  rw [if_neg different] at sameTurns
  refine valid.transport (lookup_erase_of_ne different _)
    (lookup_erase_of_ne different _) ?_ (le_refl _)
  intro through _
  unfold summaryThrough queryTurnsUpToId
  rw [sameTurns]

theorem Refines.withoutSession (refines : Refines budget db log) (sessionId : String) :
    Refines budget (db.withoutSession sessionId) (log.clear sessionId) where
  sequence := refines.sequence
  rows := (refines.wellCounted.withoutSession sessionId).rows
  checkpoint other := by
    by_cases same : other = sessionId
    · exact same ▸ checkpointValid_delete
    · exact (refines.checkpoint other).withoutSession_of_ne same
  logged other := by
    rw [sessionTurns_withoutSession]
    unfold TurnLog.clear
    by_cases same : other = sessionId
    · rw [if_pos same, if_pos same]
      rfl
    · rw [if_neg same, if_neg same]
      exact refines.logged other

/-! ## Loading a context -/

/-- A window that leaves turns out comes with the stored metadata or without any,
which is then read. -/
theorem overflowProbe_lookup {window : RecentPromptWindowTurns}
    (found : db.queryRecentPromptTurnsWithOverflowProbe sessionId limit = window)
    (inside : window.turns ≠ []) (overflows : window.windowStartsAtSessionOrigin = false) :
    db.resolveExistingMeta sessionId window.checkpointMetaLookup =
      db.checkpoints.lookup sessionId := by
  unfold queryRecentPromptTurnsWithOverflowProbe at found
  split at found
  · exact found ▸ rfl
  · dsimp only at found
    split at found
    · split at found
      · rw [<- found] at overflows
        cases overflows
      · exact found ▸ rfl
    · split at found
      · rw [<- found] at inside ⊢
        refine if_neg ?_
        intro noRows
        exact inside (congrArg (List.map prompt) noRows)
      · exact found ▸ rfl

theorem exists_window_split {rows : List TurnRow} (positive : 0 < limit)
    (exceeds : limit < rows.length) :
    ∃ front boundary back,
      rows = front ++ boundary :: back /\ front ≠ [] /\ (boundary :: back).length = limit := by
  have whole := List.take_append_drop (rows.length - limit) rows
  have frontLength : (rows.take (rows.length - limit)).length = rows.length - limit :=
    List.length_take_of_le (by omega)
  have windowLength : (rows.drop (rows.length - limit)).length = limit := by
    rw [List.length_drop]
    omega
  cases window : rows.drop (rows.length - limit) with
  | nil =>
    rw [window, List.length_nil] at windowLength
    omega
  | cons boundary back =>
    rw [window] at whole windowLength
    refine ⟨rows.take (rows.length - limit), boundary, back, whole.symm, ?_, windowLength⟩
    apply List.length_pos_iff.mp
    omega

theorem loadContextSnapshot_of_exceeds (summarizes : config.mode = .windowPlusSummary)
    (rows : SessionRows db sessionId)
    (valid : CheckpointValid config.summaryBudgetChars db sessionId)
    (exceeds : config.defaultWindowSize < (db.sessionTurns sessionId).length) :
    (db.loadContextSnapshot sessionId config).1 =
        contextOf config.summaryBudgetChars config.defaultWindowSize
          ((db.sessionTurns sessionId).map prompt) /\
      Maintained config.summaryBudgetChars db sessionId
        (db.loadContextSnapshot sessionId config).2 := by
  have windowPositive : 0 < config.defaultWindowSize := Nat.le_max_right _ _
  rcases exists_window_split windowPositive exceeds with
    ⟨front, boundary, back, split, nonempty, inside⟩
  have window := overflowProbe_window rows config.defaultWindowSize
  have length : (db.sessionTurns sessionId).length = front.length + config.defaultWindowSize := by
    rw [split, List.length_append, inside]
  unfold lastWindow at window
  dsimp only at window
  rw [if_pos exceeds, decide_eq_false (Nat.not_le_of_lt exceeds), length, Nat.add_sub_cancel, split,
    List.drop_left] at window
  cases probe : db.queryRecentPromptTurnsWithOverflowProbe sessionId config.defaultWindowSize with
  | mk turns before origin lookup =>
  rw [probe] at window
  cases window
  have boundaryKey := rows.keys boundary (by rw [split]; simp)
  have ascending := rows.ascending
  unfold RowsAscending at ascending
  rw [split] at ascending
  have exceedsOne : 0 < boundary.id - 1 := by
    have firstMember := List.head_mem nonempty
    have firstKey := rows.keys (front.head nonempty) (split ▸ List.mem_append_left _ firstMember)
    have firstBelow := (List.pairwise_append.mp ascending).2.2 _ firstMember boundary
      List.mem_cons_self
    omega
  have settled := materializeInner_settled rows.ascending boundaryKey.2 exceedsOne valid
    lookup (overflowProbe_lookup probe nofun rfl) config.defaultWindowSize
  have below : summaryBelow config.summaryBudgetChars db sessionId boundary.id =
      foldSummary config.summaryBudgetChars "" (front.map prompt) := by
    unfold summaryBelow
    rw [split, ascending.filter_lt_split]
  have body := settled.body
  rw [below] at body
  unfold loadContextSnapshot
  rw [if_pos summarizes, probe]
  refine ⟨?_, settled.maintained⟩
  unfold contextOf
  rw [split, List.map_append, <- inside, <- List.length_map prompt, List.length_append,
    Nat.add_sub_cancel, List.drop_left, List.take_left, <- body]
  rfl

theorem loadContextSnapshot_spec (config : MemoryRuntimeConfig)
    (refines : Refines config.summaryBudgetChars db log)
    (summarizes : config.mode = .windowPlusSummary) :
    (db.loadContextSnapshot sessionId config).1 =
        contextOf config.summaryBudgetChars config.defaultWindowSize (log sessionId) /\
      Maintained config.summaryBudgetChars db sessionId
        (db.loadContextSnapshot sessionId config).2 := by
  have rows := refines.rows sessionId
  have valid := refines.checkpoint sessionId
  rw [<- refines.logged sessionId]
  by_cases fits : (db.sessionTurns sessionId).length <= config.defaultWindowSize
  · have window := overflowProbe_window rows config.defaultWindowSize
    unfold windowOf lastWindow at window
    simp only [Nat.sub_eq_zero_of_le fits, decide_eq_true fits, Prod.mk.injEq] at window
    unfold loadContextSnapshot contextOf
    rw [if_pos summarizes, if_pos window.2.2, window.1, List.length_map,
      Nat.sub_eq_zero_of_le fits]
    exact ⟨rfl, OnlyCheckpoint.refl sessionId db, valid⟩
  · exact loadContextSnapshot_of_exceeds summarizes rows valid (Nat.lt_of_not_le fits)

end Steps

/-! ## Whole runs -/

variable (summaryMaxChars : Nat)

theorem step_refines (db : Database) (log : TurnLog) (op : MemoryOp)
    (refines : Refines (max summaryMaxChars 256) db log) :
    Refines (max summaryMaxChars 256) (db.step summaryMaxChars op) (log.step op) := by
  cases op with
  | appendTurn gap sessionId role content mode slidingWindow =>
    exact step_appendTurn_refines refines
  | clearSession payload =>
    cases checked : clearSessionId payload with
    | error _ =>
      simp only [step, TurnLog.step, clearSession, checked]
      exact refines
    | ok sessionId =>
      simp only [step, TurnLog.step, clearSession, checked]
      exact refines.withoutSession sessionId
  | loadContextSnapshot sessionId mode slidingWindow =>
    let config : MemoryRuntimeConfig := { mode, slidingWindow, summaryMaxChars }
    by_cases summarizes : config.mode = .windowPlusSummary
    · exact refines.of_maintained (loadContextSnapshot_spec config refines summarizes).2
    · have unchanged : (db.loadContextSnapshot sessionId config).2 = db := by
        unfold loadContextSnapshot
        rw [if_neg summarizes]
      show Refines (max summaryMaxChars 256) (db.loadContextSnapshot sessionId config).2 log
      rw [unchanged]
      exact refines

/-- After any run, a load with summaries returns the context of the log: the
last turns as the window and the fold of all earlier turns as the summary. -/
theorem loadContextSnapshot_eq_contextOf (ops : List MemoryOp)
    (sessionId : String) (slidingWindow : Nat) :
    ((run (step summaryMaxChars) empty ops).loadContextSnapshot sessionId
        { mode := .windowPlusSummary, slidingWindow, summaryMaxChars }).1 =
      contextOf (max summaryMaxChars 256) (max slidingWindow 1)
        (run TurnLog.step TurnLog.empty ops sessionId) :=
  (loadContextSnapshot_spec { mode := .windowPlusSummary, slidingWindow, summaryMaxChars }
    (run_simulates (step summaryMaxChars) (step_refines summaryMaxChars) (refines_empty _)) rfl).1

/-- What a session is shown depends on its own turns only, not on other sessions
or on earlier loads. -/
theorem loadContextSnapshot_isolated (ops : List MemoryOp) (sessionId : String)
    (slidingWindow : Nat) :
    let shown := fun ops => ((run (step summaryMaxChars) empty ops).loadContextSnapshot sessionId
      { mode := .windowPlusSummary, slidingWindow, summaryMaxChars }).1
    shown ops = shown (ops.filter (TurnLog.concerns sessionId)) := by
  intro shown
  have context : ∀ ops, shown ops = contextOf (max summaryMaxChars 256) (max slidingWindow 1)
      (run TurnLog.step TurnLog.empty ops sessionId) := fun ops =>
    (loadContextSnapshot_spec ⟨.windowPlusSummary, slidingWindow, summaryMaxChars⟩
      (run_simulates _ (step_refines summaryMaxChars) (refines_empty _)) rfl).1
  rw [context, context, run_filter TurnLog.step (fun log => log sessionId)
    (fun log _ => log.step_of_not_concerns) (fun _ _ _ => TurnLog.step_congr) rfl]

end Database

end LoongClaw.Memory
