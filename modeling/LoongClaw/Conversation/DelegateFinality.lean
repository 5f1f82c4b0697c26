import LoongClaw.Conversation.Delegate

namespace LoongClaw.Conversation

open Foundation Contracts Session Tools Program SessionStore SessionDatabase

/-!
# Ended sessions stay as they ended

Several tasks may try to end the same child: its own turn, its timeout, a
failing spawner, a cancellation and a recovery.  Each of them writes only if
the session is in the state it expects, and none expects a terminal state and
writes another.  So whatever the interleaving, the first end of a session is
its last.
-/

/-! ## Recording an end is quiet -/

section Quietness

open SessionDatabase (Quiet quiet_refl)

theorem respects_callHook {related : SessionDatabase -> SessionDatabase -> Prop}
    (reflexive : ∀ database, related database database) (kernelBound : Bool) :
    (callHook kernelBound).Respects related := by
  unfold callHook
  split
  · apply respects_atomic
    intro moment database
    cases moment.hook with
    | some | none => exact reflexive database
  · exact respects_pure ()

variable {expectedState : SessionState}

variable {sessionId : String} {request : FinalizeSessionTerminalRequest}

theorem respects_finalizeTerminal (unfinished : expectedState.isTerminal = false) :
    (finalizeTerminalIfCurrentAllowingStaleState sessionId expectedState request).Respects
      Quiet := by
  apply respects_bind (respects_finalizeSessionTerminalIfCurrent unfinished)
  intro finalized
  cases finalized with
  | some _ => exact respects_pure ()
  | none =>
    apply respects_bind (respects_query quiet_refl)
    intro stored
    split
    · exact respects_pure ()
    · exact respects_fail _

theorem respects_recoverySkippedError {recoveryError reason : String} :
    (recoverySkippedError sessionId recoveryError reason).Respects Quiet :=
  respects_bind (respects_query quiet_refl) fun _ => respects_fail _

/-- A fallback that marks the session as failed from an unfinished state. -/
theorem respects_fallback (unfinished : expectedState.isTerminal = false)
    {request : TransitionSessionWithEventIfCurrentRequest}
    (expects : request.expectedState = expectedState) {lastError : Option String}
    {transitioned : SessionProgram Unit} {skipped : SessionProgram Unit}
    {marked : String -> SessionProgram Unit} {failed : String -> String -> SessionProgram Unit}
    (respectsTransitioned : transitioned.Respects Quiet) (respectsSkipped : skipped.Respects Quiet)
    (respectsMarked : ∀ error, (marked error).Respects Quiet)
    (respectsFailed : ∀ error markError, (failed error markError).Respects Quiet) :
    ((transitionSessionWithEventIfCurrent sessionId request).caught >>= fun result =>
      match result with
      | .ok (some _) => transitioned
      | .ok none => skipped
      | .error error =>
        (updateSessionStateIfCurrent sessionId expectedState .failed
          lastError).caught >>= fun result =>
            match result with
            | .ok (some _) => marked error
            | .ok none => skipped
            | .error markError => failed error markError :
      SessionProgram Unit).Respects Quiet := by
  have never : expectedState.isTerminal = true -> SessionState.failed = expectedState := by
    rw [unfinished]
    exact nofun
  have neverRequest : request.expectedState.isTerminal = true ->
      request.nextState = request.expectedState := by
    rw [expects, unfinished]
    exact nofun
  apply respects_bind (respects_caught (respects_transitionSessionWithEventIfCurrent neverRequest))
  intro result
  match result with
  | .ok (some _) => exact respectsTransitioned
  | .ok none => exact respectsSkipped
  | .error error =>
    apply respects_bind (respects_caught (respects_updateSessionStateIfCurrent never))
    intro result
    match result with
    | .ok (some _) => exact respectsMarked error
    | .ok none => exact respectsSkipped
    | .error markError => exact respectsFailed error markError

theorem respects_finalizeDelegateChild {childSessionId : String} :
    (finalizeDelegateChildTerminalWithRecovery childSessionId request).Respects Quiet := by
  apply respects_bind (respects_caught (respects_finalizeTerminal rfl))
  intro finalized
  cases finalized with
  | ok _ => exact respects_pure ()
  | error finalizeError =>
    exact respects_fallback rfl rfl (respects_fail _)
      respects_recoverySkippedError (fun _ => respects_fail _)
      (fun _ _ => respects_fail _)

theorem respects_finalizeAsyncDelegateSpawnFailure {request : AsyncDelegateSpawnRequest}
    {error : String} :
    (finalizeAsyncDelegateSpawnFailureWithRecovery request error).Respects Quiet := by
  have first : (finalizeAsyncDelegateSpawnFailure request error).Respects Quiet :=
    respects_bind (respects_inspect quiet_refl) fun _ => respects_finalizeTerminal rfl
  apply respects_bind (respects_caught first)
  intro finalized
  cases finalized with
  | ok _ => exact respects_pure ()
  | error finalizeError =>
    apply respects_bind (respects_inspect quiet_refl)
    intro _
    exact respects_fallback rfl rfl (respects_pure ())
      respects_recoverySkippedError (fun _ => respects_pure ())
      (fun _ _ => respects_fail _)

theorem respects_childEnd {childSessionId : String} {label : Option String} {durationMs : Nat}
    {result : Interruption ⊕ Except String String} :
    (childEnd childSessionId label durationMs result).Respects Quiet := by
  match result with
  | .inr (.ok finalOutput) =>
    exact respects_map (respects_query quiet_refl)
  | .inr (.error error) => exact respects_pure _
  | .inl (.panic message) => exact respects_pure _
  | .inl .timeout => exact respects_pure _

theorem sessionTool_respects {tool : SessionTool} {payload : Json} {currentSessionId : String}
    {visibility : SessionVisibility} :
    (tool.execute payload currentSessionId visibility).Respects Quiet := by
  cases tool with
  | cancel => exact sessionCancel_isQuiet.execute payload currentSessionId visibility
  | recover => exact sessionRecover_isQuiet.execute payload currentSessionId visibility
  | archive => exact sessionArchive_isQuiet.execute payload currentSessionId visibility

end Quietness

/-! ## Turns and tasks keep what has ended -/

section Finality

open SessionDatabase (Quiet Final final_of_quiet final_interference)

variable {α : Type} {turn : SessionProgram String}

theorem respects_final {program : SessionProgram α} (respects : program.Respects Quiet) :
    program.Respects Final :=
  respects_mono respects fun _ _ => final_of_quiet

theorem respects_withPrepared (kernelBound : Bool) {work : SessionProgram α}
    (respects : work.Respects Final) :
    (withPreparedSubagentSpawnCleanupIfKernelBound kernelBound work).Respects Final := by
  have hook := respects_callHook final_interference.refl kernelBound
  apply respects_bind hook
  intro _
  apply respects_bind (respects_caught respects)
  intro workResult
  exact respects_bind (respects_caught hook) fun _ => respects_lift

theorem respects_climbLineageDepth {rounds : Nat} :
    ∀ (seen : List String) (depth : Nat) (current : String),
      (climbLineageDepth rounds seen depth current).Respects Final := by
  induction rounds with
  | zero =>
    intro seen depth current
    exact respects_fail _
  | succ rounds ih =>
    intro seen depth current
    unfold climbLineageDepth
    split
    · exact respects_fail _
    · apply respects_bind (respects_query final_interference.refl)
      intro stored
      cases stored with
      | none =>
        change (if _ then _ else _ : SessionProgram Nat).Respects _
        split
        · exact respects_pure 0
        · exact respects_fail _
      | some session =>
        dsimp only
        cases session.parentSessionId with
        | none => exact respects_pure depth
        | some parent => exact ih (current :: seen) (depth + 1) parent

variable {environment : DelegateEnvironment} {context : DelegateContext}

variable {payload : Json} {childSessionId : String}

theorem respects_admitDelegate : (admitDelegate environment context payload).Respects Final := by
  apply respects_bind respects_lift
  intro request
  apply respects_bind (respects_inspect final_interference.refl)
  intro _
  refine respects_map ?_
  apply respects_bind
  · exact respects_bind respects_lift fun sessionId => respects_climbLineageDepth [] 0 sessionId
  · intro currentDepth
    split
    · exact respects_fail _
    · exact respects_pure _

theorem respects_createChild {mode : ConstrainedSubagentMode} {state : SessionState}
    {eventKind : String}
    {request : DelegateRequest} {nextChildDepth : Nat} :
    (createChild environment context mode state eventKind childSessionId request
      nextChildDepth).Respects Final :=
  respects_map respects_createDelegateChild

theorem respects_runStarted {parentSessionId : String} {label : Option String}
    {execution : ConstrainedSubagentExecution} (respects : turn.Respects Final) :
    (runStartedDelegateChildTurnWithRuntime childSessionId parentSessionId label execution
      turn).Respects Final := by
  have reflexive := final_interference.refl
  apply respects_bind (respects_inspect reflexive)
  intro _
  apply respects_bind (respects_cutOff reflexive respects)
  intro childResult
  apply respects_bind (respects_atomic fun _ database => reflexive database)
  intro durationMs
  apply respects_bind (respects_final respects_childEnd)
  intro ended
  exact respects_map (respects_final respects_finalizeDelegateChild)

theorem respects_executeDelegateTool (respects : turn.Respects Final) :
    (executeDelegateTool environment context payload childSessionId turn).Respects Final := by
  unfold executeDelegateTool
  split
  · exact respects_fail _
  · apply respects_bind respects_admitDelegate
    rintro ⟨request, nextChildDepth⟩
    apply respects_withPrepared
    exact respects_bind respects_createChild fun execution => respects_runStarted respects

theorem respects_executeDelegateAsyncTool :
    (executeDelegateAsyncTool environment context payload childSessionId).Respects Final := by
  unfold executeDelegateAsyncTool
  split
  · exact respects_fail _
  · split
    · exact respects_fail _
    · apply respects_bind respects_admitDelegate
      rintro ⟨request, nextChildDepth⟩
      exact respects_map respects_createChild

variable (request : AsyncDelegateSpawnRequest)

theorem respects_spawn (respects : turn.Respects Final) : (spawn request turn).Respects Final := by
  unfold spawn
  split
  · exact respects_fail _
  · apply respects_bind (respects_inspect final_interference.refl)
    intro _
    apply respects_withPrepared
    refine respects_bind (respects_final (respects_transitionSessionWithEventIfCurrent ?_)) ?_
    · exact nofun
    · intro started
      split
      · exact respects_fail _
      · exact respects_bind (respects_caught (respects_runStarted respects))
          fun _ => respects_pure ()

theorem respects_spawnAsyncDelegateDetached (respects : turn.Respects Final) :
    (spawnAsyncDelegateDetached request turn).Respects Final := by
  have failure : ∀ error,
      (finalizeAsyncDelegateSpawnFailureWithRecovery request error).Respects Final :=
    fun error => respects_final respects_finalizeAsyncDelegateSpawnFailure
  apply respects_bind (respects_cutOff final_interference.refl (respects_spawn request respects))
  intro spawned
  match spawned with
  | .inr (.ok ()) => exact respects_pure ()
  | .inr (.error error) =>
    exact respects_bind (respects_caught (failure error)) fun _ => respects_pure ()
  | .inl message =>
    exact respects_bind (respects_caught (failure _)) fun _ => respects_pure ()

/-- Every statement of a turn leaves ended sessions as they are. -/
theorem turn_respects_final {turn : Turn} :
    ∀ context : DelegateContext, (turn.program environment context).Respects Final := by
  induction turn with
  | finished result =>
    intro context
    exact respects_lift
  | delegate payload childSessionId child next ihChild ihNext =>
    intro context
    exact respects_bind (respects_caught
        (respects_executeDelegateTool (ihChild (context.child childSessionId))))
      fun outcome => ihNext outcome context
  | delegateAsync payload childSessionId next ih =>
    intro context
    exact respects_bind (respects_caught respects_executeDelegateAsyncTool)
      fun outcome => ih outcome context
  | sessionTool tool payload next ih =>
    intro context
    exact respects_bind (respects_caught (respects_final sessionTool_respects))
      fun outcome => ih outcome context
  | governedCall next ih =>
    intro context
    exact respects_bind (respects_caught (respects_ensureSession final_interference.refl
          fun _ opens => opens.final))
      fun stored => ih stored context

theorem task_respects_final {task : Task} : (task.program environment).Respects Final := by
  cases task with
  | turn context performed =>
    exact respects_bind (respects_caught (turn_respects_final context)) fun _ => respects_pure ()
  | asyncDelegate request performed =>
    exact respects_spawnAsyncDelegateDetached request (turn_respects_final _)

end Finality

/-! ## Interleavings -/

/-- The tasks on one database. -/
def taskPool {ι : Type} (environments : ι -> DelegateEnvironment) (tasks : ι -> Task)
    (database : SessionDatabase) : Pool ι Moment SessionDatabase String Unit where
  shared := database
  threads thread := (tasks thread).program (environments thread)

/-- Once a session has ended, no interleaving of tasks changes its state or the
outcome that was recorded for it. -/
theorem ended_sessions_stay_ended {ι : Type} [DecidableEq ι]
    (environments : ι -> DelegateEnvironment) (tasks : ι -> Task) (database : StoredDatabase)
    (schedule later : List (ι × Moment)) (sessionId : String) (row : SessionRow)
    (present : ((taskPool environments tasks database.val).run schedule).shared.findSession
      sessionId = some row)
    (ended : row.state.isTerminal = true) :
    (∃ after,
      ((taskPool environments tasks database.val).run (schedule ++ later)).shared.findSession
        sessionId = some after /\ after.state = row.state) /\
    OrderedMap.lookup sessionId ((taskPool environments tasks database.val).run
          (schedule ++ later)).shared.terminalOutcomes =
      OrderedMap.lookup sessionId
        ((taskPool environments tasks database.val).run schedule).shared.terminalOutcomes := by
  have interference := final_interference
  have secured : (taskPool environments tasks database.val).Secured Final
      Final :=
    Pool.secured_of_respects fun thread => task_respects_final
  have before := Pool.secured_run interference (fun _ _ => id) secured schedule
  have after := Pool.secured_run interference (fun _ _ => id) before.1 later
  have stored := (before.2 database.property).stored
  have kept := after.2 stored
  rw [<- Pool.run_append] at kept
  have member := (findSession_eq_some_iff stored.distinct).mp present
  rcases kept.ended row member.1 ended with ⟨⟨last, lastMember, named, same⟩, outcome⟩
  rw [member.2] at named outcome
  exact ⟨⟨last, (findSession_eq_some_iff kept.stored.distinct).mpr
    ⟨lastMember, named⟩, same⟩, outcome⟩

namespace FinalitySample

def narrowing : ToolRuntimeNarrowing where
  browser := { maxSessions := none, maxLinks := none, maxTextChars := none }
  webFetch :=
    { allowPrivateHosts := none
      allowedDomains := ∅
      blockedDomains := ∅
      timeoutSeconds := none
      maxBytes := none
      maxRedirects := none }

def environment : DelegateEnvironment where
  config :=
    { enabled := true
      maxDepth := 1
      maxActiveChildren := 5
      timeoutSeconds := 60
      allowShellInChild := false
      childToolAllowlist := []
      childRuntime := narrowing }
  visibility := .children
  kernelBound := false
  asyncSpawner := true
  rounds := 8

def recovered : SessionRow where
  sessionId := "delegate:1"
  parentSessionId := some "main"
  kind := .delegateChild
  label := none
  state := .failed
  createdAt := 0
  updatedAt := 90
  lastError := some "overdue"

def database : SessionDatabase where
  sessions := [recovered]
  events := []
  terminalOutcomes :=
    [("delegate:1",
      { sessionId := "delegate:1", status := "error", payloadJson := .null, recordedAt := 90 })]
  turns := []

theorem database_stored : database.Stored where
  distinct := by decide
  idsNormalized := by decide +kernel
  parentsNormalized := by decide +kernel

/-- The child completes after all, while its parent archives it. -/
def tasks : Bool -> Task
  | true =>
    .asyncDelegate
      { childSessionId := "delegate:1"
        parentSessionId := "main"
        task := "research"
        label := none
        execution := constrainedSubagentExecutionForDelegate environment.config false .async 60 1 0
        timeoutSeconds := 60
        kernelBound := false } (.finished (.ok "done"))
  | false =>
    .turn { sessionId := "main", parentSessionId := none }
      (.sessionTool .archive (.object [("session_id", .string "delegate:1")])
        fun _ => .finished (.ok "archived"))

end FinalitySample

open FinalitySample

theorem late_completion_changes_nothing : recovered.state.isTerminal = true /\
      ∀ later : List (Bool × Moment), ∃ after, ((taskPool (fun _ => environment) tasks
          database).run ([] ++ later)).shared.findSession "delegate:1" =
            some after /\ after.state = .failed :=
  ⟨rfl, fun later =>
    (ended_sessions_stay_ended (fun _ => environment) tasks
      ⟨database, database_stored⟩ [] later "delegate:1"
      recovered rfl rfl).1⟩

end LoongClaw.Conversation
