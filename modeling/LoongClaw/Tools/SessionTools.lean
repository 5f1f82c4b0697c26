import LoongClaw.Session.Transactions

namespace LoongClaw.Tools

open Foundation Contracts Session Program Fallible SessionStore SessionDatabase Text

/-!
# Tools that change sessions

`session_cancel`, `session_recover` and `session_archive` look at a session,
plan a change for the state they have seen, and apply it if the session is
still in that state.  They differ in the plan and in what is written, and
share everything else.

An inspection is the snapshot it shows.  How it is rendered is left out.
-/

/-! ## Outcomes of delegates -/

def jsonOfNat (value : Nat) : Json :=
  .number (.posInt (UInt64.ofNat value))

def jsonOfInt (value : Int) : Json :=
  if 0 <= value then jsonOfNat value.toNat else .number (.negInt (Int64.ofInt value))

def jsonOfText (value : Option String) : Json :=
  (value.map Json.string).getD .null

def jsonOfTime (value : Option Int) : Json :=
  (value.map jsonOfInt).getD .null

variable (childSessionId targetSessionId : String) (payload : Json) (label : Option String)
  (currentSessionId field : String) (snapshot : SessionInspectionSnapshot)
  (plan : SessionRecoverPlan)

def delegateSuccessOutcome (finalOutput : String) (turnCount durationMs : Nat) : PlaneOutcome where
  status := "ok"
  payload := .object
    [("child_session_id", .string childSessionId), ("duration_ms", jsonOfNat durationMs),
      ("final_output", .string finalOutput), ("label", jsonOfText label),
      ("turn_count", jsonOfNat turnCount)]

def delegateAsyncQueuedOutcome (timeoutSeconds : Nat) : PlaneOutcome where
  status := "ok"
  payload := .object
    [("child_session_id", .string childSessionId), ("label", jsonOfText label),
      ("mode", .string "async"), ("state", .string "queued"),
      ("timeout_seconds", jsonOfNat timeoutSeconds)]

def delegateTimeoutOutcome (durationMs : Nat) : PlaneOutcome where
  status := "timeout"
  payload := .object
    [("child_session_id", .string childSessionId), ("duration_ms", jsonOfNat durationMs),
      ("error", .string "delegate_timeout"), ("label", jsonOfText label)]

def delegateErrorOutcome (error : String) (durationMs : Nat) : PlaneOutcome where
  status := "error"
  payload := .object
    [("child_session_id", .string childSessionId), ("duration_ms", jsonOfNat durationMs),
      ("error", .string error), ("label", jsonOfText label)]

def recoveryEventKind : String := "delegate_recovery_applied"

/-! ## Inspection -/

structure SessionInspectionSnapshot where
  session : SessionSummaryRecord
  terminalOutcome : Option SessionTerminalOutcomeRecord
  delegateEvents : List SessionEventRecord

def ensureVisible (targetSessionId : String) (visibility : SessionVisibility) :
    SessionProgram Unit := do
  let isVisible <- visibility.sees currentSessionId targetSessionId
  if isVisible then pure ()
  else fail ("visibility_denied: session `" ++ targetSessionId ++
    "` is not visible from `" ++ currentSessionId ++ "`")

def normalizeRequiredSessionId (sessionId : String) : Except String String :=
  if trim sessionId = "" then .error "session tool requires payload.session_id"
  else .ok (trim sessionId)

def loadDelegateLifecycleEvents (session : SessionSummaryRecord) :
    SessionProgram (List SessionEventRecord) :=
  if session.kind ≠ .delegateChild then pure []
  else listDelegateLifecycleEvents session.sessionId

def inspectVisibleSessionWithPolicies (visibility : SessionVisibility) :
    SessionProgram SessionInspectionSnapshot := do
  let targetSessionId <- lift (normalizeRequiredSessionId targetSessionId)
  new
  ensureVisible currentSessionId targetSessionId visibility
  let observed <- loadSessionObservation targetSessionId
  let (session, terminalOutcome) <- lift (okOr observed
    ("session_not_found: `" ++ targetSessionId ++ "`"))
  let delegateEvents <- loadDelegateLifecycleEvents session
  return { session, terminalOutcome, delegateEvents }

/-! ## The life of a delegate -/

/-- A time in the range of the source's integers. -/
def saturateI64 (value : Int) : Int :=
  max (-0x8000000000000000) (min value 0x7fffffffffffffff)

structure SessionDelegateStalenessRecord where
  overdue : Bool
  reference : String
  (elapsedSeconds thresholdSeconds : Nat)
  deadlineAt : Int

def sessionDelegateStalenessAt (reference : String) (referenceAt : Option Int)
    (timeoutSeconds : Option Nat) (nowTs : Int) : Option SessionDelegateStalenessRecord := do
  let referenceAt <- referenceAt
  let thresholdSeconds <- timeoutSeconds
  let elapsedSeconds := (max (saturateI64 (nowTs - referenceAt)) 0).toNat
  some
    { overdue := decide (thresholdSeconds < elapsedSeconds)
      reference := reference
      elapsedSeconds := elapsedSeconds
      thresholdSeconds := thresholdSeconds
      deadlineAt := saturateI64 (referenceAt + min (thresholdSeconds : Int) 0x7fffffffffffffff) }

/-- What the events of a delegate tell. -/
structure LifecycleScan where
  (queuedAt startedAt : Option Int)
  (queuedTimeoutSeconds startedTimeoutSeconds : Option Nat)
  execution : Option ConstrainedSubagentExecution

def LifecycleScan.start : LifecycleScan where
  queuedAt := none
  startedAt := none
  queuedTimeoutSeconds := none
  startedTimeoutSeconds := none
  execution := none

def LifecycleScan.visit (scan : LifecycleScan) (event : SessionEventRecord) : LifecycleScan :=
  let execution := scan.execution.or event.payloadJson.execution
  let timeoutSeconds := event.payloadJson.timeoutSeconds.or
    (execution.map ConstrainedSubagentExecution.timeoutSeconds)
  if event.eventKind = "delegate_queued" then
    { scan with
      queuedAt := some event.ts
      execution := execution
      queuedTimeoutSeconds := timeoutSeconds }
  else if event.eventKind = "delegate_started" then
    { scan with
      startedAt := some event.ts
      execution := execution
      startedTimeoutSeconds := timeoutSeconds }
  else scan

structure SessionDelegateLifecycleRecord where
  mode : ConstrainedSubagentMode
  phase : String
  (queuedAt startedAt : Option Int)
  timeoutSeconds : Option Nat
  staleness : Option SessionDelegateStalenessRecord

def delegatePhase : SessionState -> String
  | .ready => "queued"
  | .running => "running"
  | .completed => "completed"
  | .failed => "failed"
  | .timedOut => "timed_out"

def sessionDelegateLifecycleAt (session : SessionSummaryRecord)
    (events : List SessionEventRecord) (nowTs : Int) : Option SessionDelegateLifecycleRecord :=
  let scan := events.foldl LifecycleScan.visit .start
  let timeoutSeconds := scan.startedTimeoutSeconds.or scan.queuedTimeoutSeconds
  if session.kind ≠ .delegateChild then none
  else if session.parentSessionId = none /\ scan.queuedAt = none /\ scan.startedAt = none then none
  else
    some
      { mode :=
          match scan.execution with
          | some execution => execution.mode
          | none => if scan.queuedAt.isSome \/ session.state = .ready then .async else .inline
        phase := delegatePhase session.state
        queuedAt := scan.queuedAt
        startedAt := scan.startedAt
        timeoutSeconds := timeoutSeconds
        staleness :=
          match session.state with
          | .ready => sessionDelegateStalenessAt "queued" scan.queuedAt timeoutSeconds nowTs
          | .running =>
            sessionDelegateStalenessAt (if scan.startedAt.isSome then "started" else "queued")
              (scan.startedAt.or scan.queuedAt) timeoutSeconds nowTs
          | .completed | .failed | .timedOut => none }

/-! ## Mutations -/

structure SessionToolActionOutcome where
  inspection : SessionInspectionSnapshot
  action : Json

structure SessionBatchResultRecord where
  (sessionId result : String)
  message : Option String
  action : Option Json
  inspection : Option SessionInspectionSnapshot

/-- One of the tools: its name, what it calls a session that it applies to,
its plan, how it reports a session without one, and what it writes.  The
writing tells whether the session was still in the state of the plan. -/
structure SessionMutation (Plan : Type) where
  (tool applicable : String)
  plan : SessionInspectionSnapshot -> SessionProgram Plan
  skipped : String -> String
  action : Plan -> Json
  write : String -> String -> SessionInspectionSnapshot -> Plan -> SessionProgram Bool

def isSessionVisibilitySkipError (error : String) : Bool :=
  startsWith error "visibility_denied:" || startsWith error "session_not_found:"

namespace SessionMutation

variable {Plan : Type} (mutation : SessionMutation Plan)

def stateChanged : String :=
  mutation.tool ++ "_state_changed:"

variable (targetSessionId currentSessionId : String) (visibility : SessionVisibility)

def applyPlan (snapshot : SessionInspectionSnapshot) (plan : Plan) :
    SessionProgram SessionToolActionOutcome := do
  let written <- mutation.write targetSessionId currentSessionId snapshot plan
  if written then do
    let inspection <- inspectVisibleSessionWithPolicies targetSessionId currentSessionId visibility
    return { inspection := inspection, action := mutation.action plan }
  else do
    let stored <- loadSessionSummaryWithLegacyFallback targetSessionId
    let latest <- lift (okOr stored ("session_not_found: `" ++ targetSessionId ++ "`"))
    fail (mutation.stateChanged ++ " session `" ++ targetSessionId ++
      "` is no longer " ++ mutation.applicable ++ " from state `" ++ latest.state.asStr ++ "`")

/-- The answer for one session. -/
def single : SessionProgram SessionToolActionOutcome := do
  new
  ensureVisible currentSessionId targetSessionId visibility
  let snapshot <- inspectVisibleSessionWithPolicies targetSessionId currentSessionId visibility
  let plan <- mutation.plan snapshot
  mutation.applyPlan targetSessionId currentSessionId visibility snapshot plan

/-- The report on a session whose plan has been applied, or not. -/
def appliedResult (plan : Plan) : Except String SessionToolActionOutcome ->
    SessionProgram SessionBatchResultRecord
  | .ok outcome =>
    pure
      { sessionId := targetSessionId
        result := "applied"
        message := none
        action := some outcome.action
        inspection := some outcome.inspection }
  | .error error =>
    if startsWith error mutation.stateChanged then do
      let inspection <- (inspectVisibleSessionWithPolicies targetSessionId currentSessionId
        visibility).caught
      pure
        { sessionId := targetSessionId
          result := "skipped_state_changed"
          message := some error
          action := some (mutation.action plan)
          inspection := inspection.toOption }
    else fail error

/-- The report on a session that was inspected. -/
def plannedResult (dryRun : Bool) (snapshot : SessionInspectionSnapshot) :
    Except String Plan -> SessionProgram SessionBatchResultRecord
  | .error error =>
    pure
      { sessionId := targetSessionId
        result := mutation.skipped error
        message := some error
        action := none
        inspection := some snapshot }
  | .ok plan =>
    if dryRun then
      pure
        { sessionId := targetSessionId
          result := "would_apply"
          message := none
          action := some (mutation.action plan)
          inspection := some snapshot }
    else do
      let applied <-
        (mutation.applyPlan targetSessionId currentSessionId visibility snapshot plan).caught
      mutation.appliedResult targetSessionId currentSessionId visibility plan applied

def notVisible (error : String) : SessionBatchResultRecord where
  sessionId := targetSessionId
  result := "skipped_not_visible"
  message := some error
  action := none
  inspection := none

def batchResult (dryRun : Bool) : SessionProgram SessionBatchResultRecord := do
  new
  let visible <- (ensureVisible currentSessionId targetSessionId visibility).caught
  match visible with
  | .error error => return notVisible targetSessionId error
  | .ok () =>
    let inspected <-
      (inspectVisibleSessionWithPolicies targetSessionId currentSessionId visibility).caught
    match inspected with
    | .error error =>
      if isSessionVisibilitySkipError error then return notVisible targetSessionId error
      else fail error
    | .ok snapshot => do
      let plan <- (mutation.plan snapshot).caught
      mutation.plannedResult targetSessionId currentSessionId visibility dryRun snapshot plan

/-- The reports on several sessions, in order. -/
def batch (currentSessionId : String) (visibility : SessionVisibility) (dryRun : Bool) :
    List String -> SessionProgram (List SessionBatchResultRecord)
  | [] => return []
  | targetSessionId :: rest => do
    let result <- mutation.batchResult targetSessionId currentSessionId visibility dryRun
    let results <- batch currentSessionId visibility dryRun rest
    return result :: results

end SessionMutation

/-! ## Requests -/

structure SessionMutationRequest where
  sessionIds : List String
  (legacySingle dryRun : Bool)

def optionalPayloadString : Option String :=
  normalizeOptionalText ((payload.get field).bind Json.asStr)

def sessionIdOfItem (item : Json) : Except String String :=
  okOr (normalizeOptionalText item.asStr)
    ("session tool requires payload." ++ field ++ " to be a non-empty array of strings")

def optionalPayloadStringArray : Except String (Option (List String)) :=
  match payload.get field with
  | none => .ok none
  | some value =>
    match value.asArray with
    | none | some [] =>
      .error ("session tool requires payload." ++ field ++ " to be a non-empty array of strings")
    | some items => (items.mapM (sessionIdOfItem field)).map some

def parseSessionMutationRequest : Except String SessionMutationRequest := do
  let dryRun := ((payload.get "dry_run").bind Json.asBool).getD false
  let batch <- optionalPayloadStringArray payload "session_ids"
  match optionalPayloadString payload "session_id", batch with
  | some sessionId, none => do
    let sessionId <- normalizeRequiredSessionId sessionId
    .ok { sessionIds := [sessionId], legacySingle := true, dryRun := dryRun }
  | none, some sessionIds =>
    .ok { sessionIds := sessionIds, legacySingle := false, dryRun := dryRun }
  | some _, some _ =>
    .error "session tool requires exactly one of payload.session_id or payload.session_ids"
  | none, none => .error "session tool requires payload.session_id or payload.session_ids"

inductive SessionToolOutcome where
  | single (outcome : SessionToolActionOutcome)
  | batch (tool : String) (dryRun : Bool) (results : List SessionBatchResultRecord)

def SessionMutation.execute {Plan : Type} (mutation : SessionMutation Plan) (payload : Json)
    (currentSessionId : String) (visibility : SessionVisibility) :
    SessionProgram SessionToolOutcome := do
  let request <- lift (parseSessionMutationRequest payload)
  if request.legacySingle && !request.dryRun then do
    let targetSessionId <- lift (okOr request.sessionIds.head?
      "session_tool_internal_error: legacy single request missing session id")
    let outcome <- mutation.single targetSessionId currentSessionId visibility
    return .single outcome
  else do
    let results <- mutation.batch currentSessionId visibility request.dryRun request.sessionIds
    return .batch mutation.tool request.dryRun results

/-! ## Recovery -/

inductive RecoveryKind where
  | queuedAsyncOverdueMarkedFailed
  | runningAsyncOverdueMarkedFailed

def RecoveryKind.asStr : RecoveryKind -> String
  | .queuedAsyncOverdueMarkedFailed => "queued_async_overdue_marked_failed"
  | .runningAsyncOverdueMarkedFailed => "running_async_overdue_marked_failed"

/-- Only a session that has not ended can be recovered. -/
structure SessionRecoverPlan where
  expectedState : SessionState
  unfinished : expectedState.isTerminal = false
  recoveryKind : RecoveryKind
  reference : String
  (queuedAt startedAt : Option Int)
  (elapsedSeconds timeoutSeconds : Nat)
  deadlineAt : Int

def notRecoverable (sessionId reason : String) : String :=
  "session_recover_not_recoverable: session `" ++ sessionId ++ "` is " ++ reason

def buildSessionRecoverPlan (nowTs : Int) : Except String SessionRecoverPlan := do
  let sessionId := snapshot.session.sessionId
  if snapshot.session.kind ≠ .delegateChild then
    .error ("session_recover_not_supported: session `" ++ sessionId ++ "` is not a delegate child")
  else if snapshot.terminalOutcome.isSome || snapshot.session.state.isTerminal then
    .error (notRecoverable sessionId "already terminal")
  else
    let lifecycle <- okOr
      (sessionDelegateLifecycleAt snapshot.session snapshot.delegateEvents nowTs)
      (notRecoverable sessionId "missing delegate lifecycle metadata")
    if lifecycle.mode ≠ .async then
      .error (notRecoverable sessionId "not an overdue async child")
    else
      let staleness <- okOr lifecycle.staleness
        (notRecoverable sessionId "missing staleness metadata")
      if staleness.overdue = false then .error (notRecoverable sessionId "not overdue")
      else
        let timeoutSeconds <- okOr lifecycle.timeoutSeconds
          (notRecoverable sessionId "missing timeout metadata")
        match snapshot.session.state, lifecycle.phase with
        | .ready, "queued" => do
          let queuedAt <- okOr lifecycle.queuedAt
            (notRecoverable sessionId "missing queued timestamp")
          .ok
            { expectedState := .ready
              unfinished := rfl
              recoveryKind := .queuedAsyncOverdueMarkedFailed
              reference := "queued"
              queuedAt := some queuedAt
              startedAt := lifecycle.startedAt
              elapsedSeconds := staleness.elapsedSeconds
              timeoutSeconds := timeoutSeconds
              deadlineAt := staleness.deadlineAt }
        | .running, "running" =>
          .ok
            { expectedState := .running
              unfinished := rfl
              recoveryKind := .runningAsyncOverdueMarkedFailed
              reference := staleness.reference
              queuedAt := lifecycle.queuedAt
              startedAt := lifecycle.startedAt
              elapsedSeconds := staleness.elapsedSeconds
              timeoutSeconds := timeoutSeconds
              deadlineAt := staleness.deadlineAt }
        | _, _ => .error (notRecoverable sessionId "not an overdue async child")

def sessionRecoveryError : String :=
  match plan.recoveryKind with
  | .queuedAsyncOverdueMarkedFailed =>
    "delegate_async_queued_overdue_marked_failed: queued delegate child exceeded timeout after "
      ++ toString plan.elapsedSeconds ++ "s (threshold " ++ toString plan.timeoutSeconds ++ "s)"
  | .runningAsyncOverdueMarkedFailed =>
    "delegate_async_running_overdue_marked_failed: running delegate child exceeded timeout after "
      ++ toString plan.elapsedSeconds ++ "s (threshold " ++ toString plan.timeoutSeconds ++ "s)"

def sessionRecoveryActionJson : Json :=
  .object
    [("deadline_at", jsonOfInt plan.deadlineAt), ("elapsed_seconds", jsonOfNat plan.elapsedSeconds),
      ("kind", .string plan.recoveryKind.asStr), ("next_state", .string "failed"),
      ("previous_state", .string plan.expectedState.asStr),
      ("reference", .string plan.reference),
      ("timeout_seconds", jsonOfNat plan.timeoutSeconds)]

/-- A queued child has no start to report. -/
def overdueRecoveryPayload (recoveryError : String) : Except String Json :=
  let shared :=
    [("deadline_at", jsonOfInt plan.deadlineAt),
      ("elapsed_seconds", jsonOfNat plan.elapsedSeconds), ("label", jsonOfText label),
      ("queued_at", jsonOfTime plan.queuedAt), ("recovered_state", .string "failed"),
      ("recovery_error", .string recoveryError),
      ("recovery_kind", .string plan.recoveryKind.asStr)]
  match plan.recoveryKind with
  | .queuedAsyncOverdueMarkedFailed =>
    if plan.queuedAt.isSome then
      .ok (.object (shared ++
        [("reference", .string "queued"), ("timeout_seconds", jsonOfNat plan.timeoutSeconds)]))
    else .error "missing queued timestamp"
  | .runningAsyncOverdueMarkedFailed =>
    .ok (.object (shared ++
      [("reference", .string plan.reference), ("started_at", jsonOfTime plan.startedAt),
        ("timeout_seconds", jsonOfNat plan.timeoutSeconds)]))

def writeSessionRecovery : SessionProgram Bool := do
  let recoveryError := sessionRecoveryError plan
  let outcome := delegateErrorOutcome snapshot.session.sessionId snapshot.session.label
    recoveryError (min (plan.elapsedSeconds * 1000) 0xffffffffffffffff)
  let eventPayloadJson <- lift
    ((overdueRecoveryPayload snapshot.session.label plan recoveryError).mapError
      (notRecoverable targetSessionId))
  let finalized <- finalizeSessionTerminalIfCurrent targetSessionId plan.expectedState
    { state := .failed
      lastError := some recoveryError
      eventKind := recoveryEventKind
      actorSessionId := some currentSessionId
      eventPayloadJson := .value eventPayloadJson
      outcomeStatus := outcome.status
      outcomePayloadJson := outcome.payload }
  return finalized.isSome

def sessionRecover : SessionMutation SessionRecoverPlan where
  tool := "session_recover"
  applicable := "recoverable"
  plan snapshot := do
    let nowTs <- currentUnixTs
    lift (buildSessionRecoverPlan snapshot nowTs)
  skipped _ := "skipped_not_recoverable"
  action := sessionRecoveryActionJson
  write := writeSessionRecovery

/-! ## Cancellation -/

inductive SessionCancelPlan where
  | queued
  | running

def delegateCancelReasonOperatorRequested : String := "operator_requested"

def delegateCancelledError (reason : String) : String :=
  "delegate_cancelled: " ++ reason

def buildSessionCancelPlan (nowTs : Int) : Except String SessionCancelPlan := do
  let sessionId := snapshot.session.sessionId
  if snapshot.session.kind ≠ .delegateChild then
    .error ("session_cancel_not_supported: session `" ++ sessionId ++ "` is not a delegate child")
  else if snapshot.terminalOutcome.isSome || snapshot.session.state.isTerminal then
    .error ("session_cancel_not_cancellable: session `" ++ sessionId ++ "` is already terminal")
  else
    let lifecycle <- okOr
      (sessionDelegateLifecycleAt snapshot.session snapshot.delegateEvents nowTs)
      ("session_cancel_not_cancellable: session `" ++ sessionId ++
        "` is missing delegate lifecycle metadata")
    if lifecycle.mode ≠ .async then
      .error ("session_cancel_not_supported: session `" ++ sessionId ++
        "` is not an async delegate child")
    else
      match snapshot.session.state, lifecycle.phase with
      | .ready, "queued" => .ok .queued
      | .running, "running" => .ok .running
      | _, _ =>
        .error ("session_cancel_not_cancellable: session `" ++ sessionId ++
          "` is not queued or running")

def sessionCancelActionJson (plan : SessionCancelPlan) : Json :=
  match plan with
  | .queued =>
    .object
      [("kind", .string "queued_async_cancelled"), ("next_state", .string "failed"),
        ("previous_state", .string "ready"),
        ("reason", .string delegateCancelReasonOperatorRequested),
        ("reference", .string "queued")]
  | .running =>
    .object
      [("kind", .string "running_async_cancel_requested"), ("next_state", .string "running"),
        ("previous_state", .string "running"),
        ("reason", .string delegateCancelReasonOperatorRequested),
        ("reference", .string "running")]

def cancelPayload (reference : String) : SessionEventPayload :=
  .value (.object
    [("cancel_reason", .string delegateCancelReasonOperatorRequested),
      ("reference", .string reference)])

/-- A queued child fails at once.  A running one is only asked to stop. -/
def writeSessionCancellation : SessionCancelPlan -> SessionProgram Bool
  | .queued => do
    let cancelError := delegateCancelledError delegateCancelReasonOperatorRequested
    let outcome := delegateErrorOutcome snapshot.session.sessionId snapshot.session.label
      cancelError 0
    let finalized <- finalizeSessionTerminalIfCurrent targetSessionId .ready
      { state := .failed
        lastError := some cancelError
        eventKind := "delegate_cancelled"
        actorSessionId := some currentSessionId
        eventPayloadJson := cancelPayload "queued"
        outcomeStatus := outcome.status
        outcomePayloadJson := outcome.payload }
    return finalized.isSome
  | .running => do
    let requested <- transitionSessionWithEventIfCurrent targetSessionId
      { expectedState := .running
        nextState := .running
        lastError := none
        eventKind := "delegate_cancel_requested"
        actorSessionId := some currentSessionId
        eventPayloadJson := cancelPayload "running" }
    return requested.isSome

def sessionCancel : SessionMutation SessionCancelPlan where
  tool := "session_cancel"
  applicable := "cancellable"
  plan snapshot := do
    let nowTs <- currentUnixTs
    lift (buildSessionCancelPlan snapshot nowTs)
  skipped _ := "skipped_not_cancellable"
  action := sessionCancelActionJson
  write := writeSessionCancellation

/-! ## Archiving -/

structure SessionArchivePlan where
  expectedState : SessionState

def buildSessionArchivePlan : Except String SessionArchivePlan :=
  if snapshot.session.archivedAt.isSome then
    .error ("session_archive_not_archivable: session `" ++ snapshot.session.sessionId ++
      "` is already archived")
  else if snapshot.session.state.isTerminal = false then
    .error ("session_archive_not_archivable: session `" ++ snapshot.session.sessionId ++
      "` is not terminal")
  else .ok { expectedState := snapshot.session.state }

def sessionArchiveActionJson (plan : SessionArchivePlan) : Json :=
  .object
    [("hides_from_sessions_list", .bool true), ("kind", .string "session_archived"),
      ("next_state", .string plan.expectedState.asStr),
      ("previous_state", .string plan.expectedState.asStr)]

def writeSessionArchive (plan : SessionArchivePlan) : SessionProgram Bool := do
  let transitioned <- transitionSessionWithEventIfCurrent targetSessionId
    { expectedState := plan.expectedState
      nextState := plan.expectedState
      lastError := snapshot.session.lastError
      eventKind := "session_archived"
      actorSessionId := some currentSessionId
      eventPayloadJson := .value (.object
        [("hides_from_sessions_list", .bool true),
          ("previous_state", .string plan.expectedState.asStr)]) }
  return transitioned.isSome

def sessionArchive : SessionMutation SessionArchivePlan where
  tool := "session_archive"
  applicable := "archivable"
  plan snapshot := lift (buildSessionArchivePlan snapshot)
  skipped error :=
    if startsWith error "session_archive_not_archivable:" &&
        containsText error "already archived" then "skipped_already_archived"
    else "skipped_not_archivable"
  action := sessionArchiveActionJson
  write := writeSessionArchive

/-! ## What the tools do to sessions -/

section Inspecting

variable {related : SessionDatabase -> SessionDatabase -> Prop}
  (reflexive : ∀ database, related database database)

include reflexive

theorem respects_ensureVisible {currentSessionId targetSessionId : String}
    {visibility : SessionVisibility} :
    (ensureVisible currentSessionId targetSessionId visibility).Respects related := by
  apply respects_bind
  · cases visibility with
    | selfOnly => exact respects_pure _
    | children => exact respects_inspect reflexive
  · intro isVisible
    cases isVisible with
    | true => exact respects_pure ()
    | false => exact respects_fail _

theorem respects_inspectVisibleSession {targetSessionId currentSessionId : String}
    {visibility : SessionVisibility} :
    (inspectVisibleSessionWithPolicies targetSessionId currentSessionId visibility).Respects
      related := by
  apply respects_bind respects_lift
  intro target
  apply respects_bind (respects_inspect reflexive)
  intro _
  apply respects_bind (respects_ensureVisible reflexive)
  intro _
  apply respects_bind (respects_query reflexive)
  intro observed
  apply respects_bind respects_lift
  rintro ⟨session, terminalOutcome⟩
  refine respects_map ?_
  unfold loadDelegateLifecycleEvents
  split
  · exact respects_pure _
  · exact respects_query reflexive

end Inspecting

namespace SessionMutation

/-- What a tool plans and writes is quiet. -/
structure IsQuiet {Plan : Type} (mutation : SessionMutation Plan) : Prop where
  plan : ∀ snapshot, (mutation.plan snapshot).Respects Quiet
  write : ∀ targetSessionId currentSessionId snapshot plan,
    (mutation.write targetSessionId currentSessionId snapshot plan).Respects Quiet

variable {Plan : Type} {mutation : SessionMutation Plan} (quiet : mutation.IsQuiet)
  {targetSessionId currentSessionId : String} {visibility : SessionVisibility} {dryRun : Bool}
  {snapshot : SessionInspectionSnapshot}

include quiet

theorem IsQuiet.applyPlan (plan : Plan) :
    (mutation.applyPlan targetSessionId currentSessionId visibility snapshot plan).Respects
      Quiet := by
  have reflexive := quiet_refl
  apply respects_bind (quiet.write _ _ _ _)
  intro written
  cases written with
  | true =>
    exact respects_map (respects_inspectVisibleSession reflexive)
  | false =>
    apply respects_bind (respects_query reflexive)
    intro stored
    exact respects_bind respects_lift fun _ => respects_fail _

theorem IsQuiet.single :
    (mutation.single targetSessionId currentSessionId visibility).Respects Quiet := by
  have reflexive := quiet_refl
  apply respects_bind (respects_inspect reflexive)
  intro _
  apply respects_bind (respects_ensureVisible reflexive)
  intro _
  apply respects_bind (respects_inspectVisibleSession reflexive)
  intro snapshot
  exact respects_bind (quiet.plan snapshot) fun plan => quiet.applyPlan plan

theorem IsQuiet.plannedResult (planned : Except String Plan) :
    (mutation.plannedResult targetSessionId currentSessionId visibility dryRun snapshot
      planned).Respects Quiet := by
  cases planned with
  | error error => exact respects_pure _
  | ok plan =>
    cases dryRun with
    | true => exact respects_pure _
    | false =>
      apply respects_bind (respects_caught (quiet.applyPlan plan))
      intro applied
      cases applied with
      | ok outcome => exact respects_pure _
      | error error =>
        change (if _ then _ else _ : SessionProgram SessionBatchResultRecord).Respects _
        split
        · exact respects_map (respects_caught (respects_inspectVisibleSession quiet_refl))
        · exact respects_fail error

theorem IsQuiet.batchResult :
    (mutation.batchResult targetSessionId currentSessionId visibility dryRun).Respects
      Quiet := by
  have reflexive := quiet_refl
  apply respects_bind (respects_inspect reflexive)
  intro _
  apply respects_bind (respects_caught (respects_ensureVisible reflexive))
  intro visible
  cases visible with
  | error error => exact respects_pure _
  | ok _ =>
    apply respects_bind (respects_caught (respects_inspectVisibleSession reflexive))
    intro inspected
    cases inspected with
    | error error =>
      change (if _ then _ else _ : SessionProgram SessionBatchResultRecord).Respects _
      split
      · exact respects_pure _
      · exact respects_fail error
    | ok snapshot =>
      exact respects_bind (respects_caught (quiet.plan snapshot))
        fun planned => quiet.plannedResult planned

theorem IsQuiet.batch (sessionIds : List String) :
    (mutation.batch currentSessionId visibility dryRun sessionIds).Respects Quiet := by
  induction sessionIds with
  | nil => exact respects_pure _
  | cons targetSessionId rest ih =>
    apply respects_bind quiet.batchResult
    intro result
    exact respects_map ih

theorem IsQuiet.execute (payload : Json) (currentSessionId : String)
    (visibility : SessionVisibility) :
    (mutation.execute payload currentSessionId visibility).Respects Quiet := by
  apply respects_bind respects_lift
  intro request
  split
  · apply respects_bind respects_lift
    intro targetSessionId
    exact respects_map quiet.single
  · exact respects_map (quiet.batch _)

end SessionMutation

theorem sessionRecover_isQuiet : sessionRecover.IsQuiet where
  plan snapshot :=
    respects_bind (respects_currentUnixTs quiet_refl) fun _ => respects_lift
  write := by
    intro targetSessionId currentSessionId snapshot plan
    apply respects_bind respects_lift
    intro eventPayloadJson
    exact respects_map (respects_finalizeSessionTerminalIfCurrent plan.unfinished)

theorem sessionCancel_isQuiet : sessionCancel.IsQuiet where
  plan snapshot :=
    respects_bind (respects_currentUnixTs quiet_refl) fun _ => respects_lift
  write := by
    intro targetSessionId currentSessionId snapshot plan
    cases plan with
    | queued =>
      exact respects_map (respects_finalizeSessionTerminalIfCurrent rfl)
    | running =>
      exact respects_map (respects_transitionSessionWithEventIfCurrent (fun _ => rfl))

/-- Archiving writes the state that it has found. -/
theorem sessionArchive_isQuiet : sessionArchive.IsQuiet where
  plan snapshot := respects_lift
  write := by
    intro targetSessionId currentSessionId snapshot plan
    exact respects_map (respects_transitionSessionWithEventIfCurrent (fun _ => rfl))

end LoongClaw.Tools
