import LoongClaw.Tools.SessionTools

namespace LoongClaw.Conversation

open Foundation Contracts Session Tools Program SessionStore

/-!
# Delegation to child sessions

A turn may hand a task to a child session, and wait for its turn to end, or
have the child run on its own.  The child is created within the limits of the
configuration.  Whoever sees the end of the child records it, by a chain of
fallbacks if the database fails.

The turns themselves are arbitrary: a turn is what it calls, depending on the
answers it gets.
-/

structure DelegateToolConfig where
  enabled : Bool
  (maxDepth maxActiveChildren timeoutSeconds : Nat)
  allowShellInChild : Bool
  childToolAllowlist : List String
  childRuntime : ToolRuntimeNarrowing

/-- What the calls of all turns have in common.  `rounds` bounds how far the
parents of a session are followed before the walk is given up. -/
structure DelegateEnvironment where
  config : DelegateToolConfig
  visibility : SessionVisibility
  (kernelBound asyncSpawner : Bool)
  rounds : Nat

structure DelegateContext where
  sessionId : String
  parentSessionId : Option String

/-! ## Requests -/

structure DelegateRequest where
  task : String
  label : Option String
  timeoutSeconds : Nat

def parseDelegateRequestWithDefaultTimeout (payload : Json) (defaultTimeoutSeconds : Nat) :
    Except String DelegateRequest := do
  let task <- Fallible.okOr (optionalPayloadString payload "task")
    "delegate tool requires payload.task"
  .ok
    { task := task
      label := optionalPayloadString payload "label"
      timeoutSeconds :=
        (((payload.get "timeout_seconds").bind Json.asU64).map UInt64.toNat).getD
          defaultTimeoutSeconds }

/-! ## Depth -/

/-- Follow the parents of a session, one query after another. -/
def climbLineageDepth : Nat -> List String -> Nat -> String -> SessionProgram Nat
  | 0, _, _, current =>
    fail (SessionRepository.cycleError current "computing lineage depth")
  | rounds + 1, seen, depth, current =>
    if current ∈ seen then
      fail (SessionRepository.cycleError current "computing lineage depth")
    else do
      let stored <- loadSession current
      match stored with
      | none =>
        if depth = 0 then pure 0
        else
          fail ("session_lineage_broken: missing parent row for `" ++ current ++ "`")
      | some session =>
        match session.parentSessionId with
        | some parent => climbLineageDepth rounds (current :: seen) (depth + 1) parent
        | none => pure depth

def sessionLineageDepth (rounds : Nat) (sessionId : String) : SessionProgram Nat := do
  let sessionId <- lift (normalizeRequiredText sessionId "session_id")
  climbLineageDepth rounds [] 0 sessionId

def nextDelegateChildDepthForDelegate (environment : DelegateEnvironment)
    (context : DelegateContext) : SessionProgram Nat := do
  let currentDepth <- sessionLineageDepth environment.rounds context.sessionId
  if environment.config.maxDepth < currentDepth + 1 then
    fail ("delegate_depth_exceeded: next child depth " ++ toString (currentDepth + 1) ++
      " exceeds configured max_depth " ++ toString environment.config.maxDepth)
  else pure (currentDepth + 1)

def constrainedSubagentExecutionForDelegate (config : DelegateToolConfig) (kernelBound : Bool)
    (mode : ConstrainedSubagentMode) (timeoutSeconds nextChildDepth activeChildren : Nat) :
    ConstrainedSubagentExecution where
  mode := mode
  depth := nextChildDepth
  maxDepth := config.maxDepth
  activeChildren := activeChildren
  maxActiveChildren := config.maxActiveChildren
  timeoutSeconds := timeoutSeconds
  allowShellInChild := config.allowShellInChild
  childToolAllowlist := config.childToolAllowlist
  runtimeNarrowing := config.childRuntime
  kernelBound := kernelBound

/-! ## Hooks -/

def callHook (kernelBound : Bool) : SessionProgram Unit :=
  if kernelBound then
    atomic fun moment database =>
      match moment.hook with
      | some error => (.error error, database)
      | none => (.ok (), database)
  else pure ()

def withPreparedSubagentSpawnCleanupIfKernelBound {α : Type} (kernelBound : Bool)
    (work : SessionProgram α) : SessionProgram α := do
  callHook kernelBound
  let workResult <- work.caught
  let notifyResult <- (callHook kernelBound).caught
  lift (match workResult, notifyResult with
    | .ok value, .ok () => .ok value
    | .error workError, .ok () => .error workError
    | .ok _, .error notifyError =>
      .error ("delegate_subagent_end_hook_failed: " ++ notifyError)
    | .error workError, .error notifyError =>
      .error (workError ++ "; delegate_subagent_end_hook_failed: " ++ notifyError))

/-! ## The end of a child -/

def finalizeTerminalIfCurrentAllowingStaleState (sessionId : String)
    (expectedState : SessionState) (request : FinalizeSessionTerminalRequest) :
    SessionProgram Unit := do
  let finalized <- finalizeSessionTerminalIfCurrent sessionId expectedState request
  match finalized with
  | some _ => pure ()
  | none => do
    let stored <- loadSession sessionId
    if stored.isSome then pure ()
    else fail ("session `" ++ sessionId ++ "` not found")

/-- Why a recovery was skipped. -/
def recoverySkippedError (sessionId recoveryError reason : String) : SessionProgram Unit := do
  let stored <- loadSession sessionId
  let currentState := (stored.map fun session => session.state.asStr).getD "missing"
  fail (recoveryError ++ "; " ++ reason ++ ": " ++ currentState)

def buildTerminalFinalizeRecoveryPayload (request : FinalizeSessionTerminalRequest)
    (recoveryError : String) : SessionEventPayload :=
  .value (.object
    [("attempted_last_error", jsonOfText request.lastError),
      ("attempted_outcome_status", .string request.outcomeStatus),
      ("attempted_terminal_event_kind", .string request.eventKind),
      ("recovered_state", .string "failed"), ("recovery_error", .string recoveryError),
      ("recovery_kind", .string "terminal_finalize_persist_failed")])

variable (childSessionId : String)

def finalizeDelegateChildTerminalWithRecovery (request : FinalizeSessionTerminalRequest) :
    SessionProgram Unit := do
  let finalized <-
    (finalizeTerminalIfCurrentAllowingStaleState childSessionId .running request).caught
  match finalized with
  | .ok () => pure ()
  | .error finalizeError =>
    let recoveryError := "delegate_terminal_finalize_failed: " ++ finalizeError
    let skipped := recoverySkippedError childSessionId recoveryError
      "delegate_terminal_recovery_skipped_from_state"
    let transitioned <- (transitionSessionWithEventIfCurrent childSessionId
      { expectedState := .running
        nextState := .failed
        lastError := some recoveryError
        eventKind := recoveryEventKind
        actorSessionId := request.actorSessionId
        eventPayloadJson := buildTerminalFinalizeRecoveryPayload request
          recoveryError }).caught
    match transitioned with
    | .ok (some _) => fail recoveryError
    | .ok none => skipped
    | .error recoveryEventError => do
      let marked <- (updateSessionStateIfCurrent childSessionId .running .failed
        (some recoveryError)).caught
      match marked with
      | .ok (some _) =>
        fail (recoveryError ++ "; delegate_terminal_recovery_event_failed: " ++ recoveryEventError)
      | .ok none => skipped
      | .error markError =>
        fail (recoveryError ++ "; delegate_terminal_recovery_failed: " ++ markError)

/-! ## Child turns -/

/-- How a child turn ended. -/
structure ChildEnd where
  state : SessionState
  lastError : Option String
  eventKind : String
  terminalReason : ConstrainedSubagentTerminalReason
  turnCount : Option Nat
  outcome : PlaneOutcome

def formatDelegateChildPanic : Option String -> String
  | some message => "delegate_child_panic: " ++ message
  | none => "delegate_child_panic"

variable (label : Option String)

def ChildEnd.failure (error : String) (durationMs : Nat) : ChildEnd where
  state := .failed
  lastError := some error
  eventKind := "delegate_failed"
  terminalReason := .failed
  turnCount := none
  outcome := delegateErrorOutcome childSessionId label error durationMs

/-- What is recorded of the result of a child turn. -/
def childEnd (durationMs : Nat) :
    Interruption ⊕ Except String String -> SessionProgram ChildEnd
  | .inr (.ok finalOutput) => do
    let summary <- loadSessionSummary childSessionId
    let turnCount := (summary.map SessionSummaryRecord.turnCount).getD 0
    return {
      state := .completed
      lastError := none
      eventKind := "delegate_completed"
      terminalReason := .completed
      turnCount := some turnCount
      outcome := delegateSuccessOutcome childSessionId label finalOutput turnCount durationMs }
  | .inr (.error error) => pure (.failure childSessionId label error durationMs)
  | .inl (.panic message) =>
    pure (.failure childSessionId label (formatDelegateChildPanic message) durationMs)
  | .inl .timeout =>
    pure
      { state := .timedOut
        lastError := some "delegate_timeout"
        eventKind := "delegate_timed_out"
        terminalReason := .timedOut
        turnCount := none
        outcome := delegateTimeoutOutcome childSessionId label durationMs }

def runStartedDelegateChildTurnWithRuntime (childSessionId parentSessionId : String)
    (childLabel : Option String) (execution : ConstrainedSubagentExecution)
    (turn : SessionProgram String) : SessionProgram PlaneOutcome := do
  new
  let childResult <- turn.cutOff fun moment => moment.interruption childSessionId
  let durationMs <- atomic fun moment database => (.ok moment.elapsedMs, database)
  let ended <- childEnd childSessionId childLabel durationMs childResult
  finalizeDelegateChildTerminalWithRecovery childSessionId
    { state := ended.state
      lastError := ended.lastError
      eventKind := ended.eventKind
      actorSessionId := some parentSessionId
      eventPayloadJson := .terminal ended.terminalReason execution durationMs ended.turnCount
        ended.lastError
      outcomeStatus := ended.outcome.status
      outcomePayloadJson := ended.outcome.payload }
  return ended.outcome

/-! ## The delegate tools -/

variable (environment : DelegateEnvironment) (context : DelegateContext)

/-- The request for a child, which knows how many others are active. -/
def childRequest (mode : ConstrainedSubagentMode) (state : SessionState)
    (eventKind childSessionId : String)
    (request : DelegateRequest) (nextChildDepth activeChildren : Nat) :
    CreateSessionWithEventRequest × ConstrainedSubagentExecution :=
  let execution := constrainedSubagentExecutionForDelegate environment.config
    environment.kernelBound mode request.timeoutSeconds nextChildDepth activeChildren
  ({ session :=
      { sessionId := childSessionId
        kind := .delegateChild
        parentSessionId := some context.sessionId
        label := request.label
        state := state }
     eventKind := eventKind
     actorSessionId := some context.sessionId
     eventPayloadJson := .spawn request.task request.label execution }, execution)

/-- What both tools check first: the request and the depth of the child. -/
def admitDelegate (payload : Json) : SessionProgram (DelegateRequest × Nat) := do
  let request <- lift (parseDelegateRequestWithDefaultTimeout payload
    environment.config.timeoutSeconds)
  new
  let nextChildDepth <- nextDelegateChildDepthForDelegate environment context
  return (request, nextChildDepth)

/-- Create the child of an admitted request. -/
def createChild (mode : ConstrainedSubagentMode) (state : SessionState)
    (eventKind childSessionId : String)
    (request : DelegateRequest) (nextChildDepth : Nat) :
    SessionProgram ConstrainedSubagentExecution := do
  let (_, execution) <- createDelegateChildSessionWithEventIfWithinLimit
    context.sessionId environment.config.maxActiveChildren fun activeChildren =>
      .ok (childRequest environment context mode state eventKind childSessionId request
        nextChildDepth activeChildren)
  return execution

def executeDelegateTool (payload : Json) (childSessionId : String) (turn : SessionProgram String) :
    SessionProgram PlaneOutcome :=
  if environment.config.enabled = false then
    fail "app_tool_disabled: delegate is disabled by config"
  else do
    let (request, nextChildDepth) <- admitDelegate environment context payload
    withPreparedSubagentSpawnCleanupIfKernelBound environment.kernelBound do
      let execution <- createChild environment context .inline .running "delegate_started"
        childSessionId request nextChildDepth
      runStartedDelegateChildTurnWithRuntime childSessionId context.sessionId request.label
        execution turn

structure AsyncDelegateSpawnRequest where
  (childSessionId parentSessionId task : String)
  label : Option String
  execution : ConstrainedSubagentExecution
  timeoutSeconds : Nat
  kernelBound : Bool

/-- The child is queued.  A task of its own runs it. -/
def executeDelegateAsyncTool (payload : Json) (childSessionId : String) :
    SessionProgram PlaneOutcome :=
  if environment.config.enabled = false then
    fail "app_tool_disabled: delegate is disabled by config"
  else if environment.asyncSpawner = false then fail "delegate_async_not_configured"
  else do
    let (request, nextChildDepth) <- admitDelegate environment context payload
    let _ <- createChild environment context .async .ready "delegate_queued" childSessionId
      request nextChildDepth
    return delegateAsyncQueuedOutcome childSessionId request.label request.timeoutSeconds

/-! ## Children that run on their own -/

variable (request : AsyncDelegateSpawnRequest)

def spawn (turn : SessionProgram String) : SessionProgram Unit :=
  if request.timeoutSeconds ≠ request.execution.timeoutSeconds then
    fail ("async_delegate_timeout_mismatch: request timeout " ++
      toString request.timeoutSeconds ++ " != execution timeout " ++
      toString request.execution.timeoutSeconds)
  else do
    new
    withPreparedSubagentSpawnCleanupIfKernelBound request.kernelBound do
      let started <- transitionSessionWithEventIfCurrent request.childSessionId
        { expectedState := .ready
          nextState := .running
          lastError := none
          eventKind := "delegate_started"
          actorSessionId := some request.parentSessionId
          eventPayloadJson := .spawn request.task request.label request.execution }
      if started.isNone then
        fail ("async_delegate_spawn_skipped: session `" ++ request.childSessionId ++
          "` was not in Ready state")
      else do
        let _ <- (runStartedDelegateChildTurnWithRuntime request.childSessionId
          request.parentSessionId request.label request.execution turn).caught
        pure ()

def finalizeAsyncDelegateSpawnFailure (error : String) : SessionProgram Unit := do
  new
  let outcome := delegateErrorOutcome request.childSessionId request.label error 0
  finalizeTerminalIfCurrentAllowingStaleState request.childSessionId .ready
    { state := .failed
      lastError := some error
      eventKind := "delegate_spawn_failed"
      actorSessionId := some request.parentSessionId
      eventPayloadJson := .terminal .spawnFailed request.execution 0 none (some error)
      outcomeStatus := outcome.status
      outcomePayloadJson := outcome.payload }

def buildAsyncSpawnFailureRecoveryPayload
    (originalError recoveryError : String) : SessionEventPayload :=
  .value (.object
    [("label", jsonOfText label), ("original_error", .string originalError),
      ("recovered_state", .string "failed"), ("recovery_error", .string recoveryError),
      ("recovery_kind", .string "async_spawn_failure_persist_failed")])

def finalizeAsyncDelegateSpawnFailureWithRecovery (error : String) : SessionProgram Unit := do
  let finalized <- (finalizeAsyncDelegateSpawnFailure request error).caught
  match finalized with
  | .ok () => pure ()
  | .error finalizeError =>
    new
    let recoveryError := "delegate_async_spawn_failure_persist_failed: " ++ finalizeError ++
      "; original spawn error: " ++ error
    let skipped := recoverySkippedError request.childSessionId recoveryError
      "delegate_async_spawn_recovery_skipped_from_state"
    let transitioned <- (transitionSessionWithEventIfCurrent request.childSessionId
      { expectedState := .ready
        nextState := .failed
        lastError := some recoveryError
        eventKind := recoveryEventKind
        actorSessionId := some request.parentSessionId
        eventPayloadJson := buildAsyncSpawnFailureRecoveryPayload request.label error
          recoveryError }).caught
    match transitioned with
    | .ok (some _) => pure ()
    | .ok none => skipped
    | .error recoveryEventError => do
      let marked <- (updateSessionStateIfCurrent request.childSessionId .ready
        .failed (some recoveryError)).caught
      match marked with
      | .ok (some _) => pure ()
      | .ok none => skipped
      | .error markError =>
        fail (recoveryError ++ "; delegate_async_spawn_recovery_failed: " ++
          markError ++ "; delegate_async_spawn_recovery_event_failed: " ++
          recoveryEventError)

def formatAsyncDelegateSpawnPanic : Option String -> String
  | some message => "delegate_async_spawn_panic: " ++ message
  | none => "delegate_async_spawn_panic"

def spawnAsyncDelegateDetached (turn : SessionProgram String) : SessionProgram Unit := do
  let spawned <- (spawn request turn).cutOff fun moment =>
    moment.spawnPanic request.childSessionId
  let spawnFailure := match spawned with
    | .inr (.ok ()) => none
    | .inr (.error error) => some error
    | .inl message => some (formatAsyncDelegateSpawnPanic message)
  match spawnFailure with
  | none => pure ()
  | some error => do
    let _ <- (finalizeAsyncDelegateSpawnFailureWithRecovery request error).caught
    pure ()

/-! ## Turns -/

inductive SessionTool where
  | cancel
  | recover
  | archive

def SessionTool.execute (tool : SessionTool) (payload : Json) (currentSessionId : String)
    (visibility : SessionVisibility) : SessionProgram SessionToolOutcome :=
  match tool with
  | .cancel => sessionCancel.execute payload currentSessionId visibility
  | .recover => sessionRecover.execute payload currentSessionId visibility
  | .archive => sessionArchive.execute payload currentSessionId visibility

/-- What a turn does to sessions: it ends, or it calls a tool and goes on
depending on the answer.  A governed call stores the session of the turn. -/
inductive Turn where
  | finished (result : Except String String)
  | delegate (payload : Json) (childSessionId : String) (child : Turn)
      (next : Except String PlaneOutcome -> Turn)
  | delegateAsync (payload : Json) (childSessionId : String)
      (next : Except String PlaneOutcome -> Turn)
  | sessionTool (tool : SessionTool) (payload : Json)
      (next : Except String SessionToolOutcome -> Turn)
  | governedCall (next : Except String SessionRow -> Turn)

def contextRecord (context : DelegateContext) : NewSessionRecord where
  sessionId := context.sessionId
  kind := if context.parentSessionId.isSome then .delegateChild else .root
  parentSessionId := context.parentSessionId
  label := none
  state := .ready

def DelegateContext.child (context : DelegateContext) (childSessionId : String) :
    DelegateContext where
  sessionId := childSessionId
  parentSessionId := some context.sessionId

def Turn.program (environment : DelegateEnvironment) :
    DelegateContext -> Turn -> SessionProgram String
  | _, .finished result => lift result
  | context, .delegate payload childSessionId child next => do
    let outcome <- (executeDelegateTool environment context payload childSessionId
      (child.program environment (context.child childSessionId))).caught
    (next outcome).program environment context
  | context, .delegateAsync payload childSessionId next => do
    let outcome <- (executeDelegateAsyncTool environment context payload childSessionId).caught
    (next outcome).program environment context
  | context, .sessionTool tool payload next => do
    let outcome <- (tool.execute payload context.sessionId environment.visibility).caught
    (next outcome).program environment context
  | context, .governedCall next => do
    let stored <- (ensureSession (contextRecord context)).caught
    (next stored).program environment context

/-- What runs at the same time as other tasks: the turn of a session, or a
child that was queued. -/
inductive Task where
  | turn (context : DelegateContext) (performed : Turn)
  | asyncDelegate (request : AsyncDelegateSpawnRequest) (performed : Turn)

def Task.program (environment : DelegateEnvironment) : Task -> SessionProgram Unit
  | .turn context performed => do
    let _ <- (performed.program environment context).caught
    pure ()
  | .asyncDelegate request performed =>
    spawnAsyncDelegateDetached request (performed.program environment
        { sessionId := request.childSessionId
          parentSessionId := some request.parentSessionId })

end LoongClaw.Conversation
