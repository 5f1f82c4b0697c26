import LoongClaw.Foundation.RelyGuarantee
import LoongClaw.Session.Visibility

namespace LoongClaw.Session

open Foundation Contracts Program Fallible OrderedMap

/-!
# Transactions on sessions

The methods of the repository that write sessions, as programs.  Time, the
faults of the database and what may interrupt a program are circumstances of
its statements.

No transaction touches a session that has ended, apart from its last error,
and none replaces the outcome of such a session.
-/

/-- Why a child turn does not come to its own end. -/
inductive Interruption where
  | timeout
  | panic (message : Option String)

/-- What happens around a statement: the error of the database, if it fails,
the time, the time since a turn began, the error of a hook, which child turns
are interrupted and for which children the spawner panics. -/
structure Moment where
  fault : Option String
  now : Int
  elapsedMs : Nat
  hook : Option String
  interruption : String -> Option Interruption
  spawnPanic : String -> Option (Option String)

abbrev SessionProgram (α : Type) :=
  Program Moment SessionDatabase String α

/-- A statement that only reads. -/
def inspect {α : Type} (read : SessionDatabase -> Except String α) : SessionProgram α :=
  atomic fun moment database =>
    match moment.fault with
    | some error => (.error error, database)
    | none => (read database, database)

/-- A transaction.  It is rolled back if it fails. -/
def transact {α : Type} (body : Int -> SessionDatabase -> Except String (α × SessionDatabase)) :
    SessionProgram α :=
  atomic fun moment database =>
    match moment.fault with
    | some error => (.error error, database)
    | none =>
      match body moment.now database with
      | .error error => (.error error, database)
      | .ok (value, later) => (.ok value, later)

def currentUnixTs : SessionProgram Int :=
  atomic fun moment database => (.ok moment.now, database)

namespace SessionStore

/-- Opening the repository prepares the database file. -/
def new : SessionProgram Unit :=
  inspect fun _ => .ok ()

/-! ## Queries -/

variable (sessionId : String) (record : NewSessionRecord)

def loadSession : SessionProgram (Option SessionRow) := do
  let sessionId <- lift (normalizeRequiredText sessionId "session_id")
  inspect fun database => .ok (database.findSession sessionId)

def loadSessionSummary : SessionProgram (Option SessionSummaryRecord) := do
  let sessionId <- lift (normalizeRequiredText sessionId "session_id")
  inspect fun database => .ok (database.sessionSummary sessionId)

def loadSessionSummaryWithLegacyFallback : SessionProgram (Option SessionSummaryRecord) := do
  let sessionId <- lift (normalizeRequiredText sessionId "session_id")
  inspect fun database => .ok (database.sessionSummaryWithLegacyFallback sessionId)

/-- A session and its outcome, read in one transaction. -/
def loadSessionObservation :
    SessionProgram (Option (SessionSummaryRecord × Option SessionTerminalOutcomeRecord)) := do
  let sessionId <- lift (normalizeRequiredText sessionId "session_id")
  inspect fun database =>
    .ok ((database.sessionSummaryWithLegacyFallback sessionId).map fun session =>
      (session, lookup sessionId database.terminalOutcomes))

def listDelegateLifecycleEvents : SessionProgram (List SessionEventRecord) := do
  let sessionId <- lift (normalizeRequiredText sessionId "session_id")
  inspect fun database =>
    .ok (database.events.filter fun event =>
      event.sessionId = sessionId &&
        event.eventKind ∈ ["delegate_queued", "delegate_started", "delegate_cancel_requested"])

def isSessionVisible (currentSessionId targetSessionId : String) : SessionProgram Bool :=
  inspect (SessionDatabase.isSessionVisible currentSessionId targetSessionId)

/-! ## Creation -/

def normalizeNewSession : Except String NewSessionRecord := do
  let sessionId <- normalizeRequiredText record.sessionId "session_id"
  .ok { record with
    sessionId := sessionId
    parentSessionId := normalizeOptionalText record.parentSessionId
    label := normalizeOptionalText record.label }

def createSession : SessionProgram SessionRow := do
  let record <- lift (normalizeNewSession record)
  transact fun now database => (database.insertSession now record).map fun later => ((), later)
  let stored <- loadSession record.sessionId
  lift (okOr stored ("session row `" ++ record.sessionId ++ "` disappeared after insert"))

/-- An existing session is kept as it is. -/
def ensureSession : SessionProgram SessionRow := do
  let sessionId <- lift (normalizeRequiredText record.sessionId "session_id")
  let existing <- loadSession sessionId
  match existing with
  | some session => pure session
  | none =>
    let created <- (createSession record).caught
    match created with
    | .ok session => pure session
    | .error error =>
      if Text.containsText error "UNIQUE constraint failed" then do
        let stored <- loadSession sessionId
        lift (okOr stored ("session `" ++ sessionId ++ "` missing after concurrent insert"))
      else fail error

def createSessionWithEventInTx (now : Int) (request : CreateSessionWithEventRequest)
    (database : SessionDatabase) : Except String (SessionEventRecord × SessionDatabase) := do
  let session <- normalizeNewSession request.session
  let eventKind <- normalizeRequiredText request.eventKind "event_kind"
  let inserted <- database.insertSession now session
  .ok (inserted.insertEvent session.sessionId eventKind
    (normalizeOptionalText request.actorSessionId) request.eventPayloadJson now)

/-- The transaction that creates a child unless its parent has enough. -/
def createDelegateChildInTx {τ : Type} (parentSessionId : String) (maxActiveChildren : Nat)
    (buildRequest : Nat -> Except String (CreateSessionWithEventRequest × τ)) (now : Int)
    (database : SessionDatabase) :
    Except String ((SessionEventRecord × τ) × SessionDatabase) := do
  let activeChildren := database.countActiveDirectChildren parentSessionId
  if maxActiveChildren <= activeChildren then
    .error ("delegate_active_children_exceeded: active child count " ++
      toString activeChildren ++ " reaches configured max_active_children " ++
      toString maxActiveChildren)
  else
    let (request, sidecar) <- buildRequest activeChildren
    let requestParentSessionId <- okOr (normalizeOptionalText request.session.parentSessionId)
      "delegate child create request requires parent_session_id"
    if request.session.kind ≠ .delegateChild then
      .error "delegate child create request requires kind `delegate_child`"
    else if requestParentSessionId ≠ parentSessionId then
      .error ("delegate child create request parent mismatch: expected `" ++ parentSessionId ++
        "`, got `" ++ requestParentSessionId ++ "`")
    else
      let (event, later) <- createSessionWithEventInTx now request database
      .ok ((event, sidecar), later)

def createDelegateChildSessionWithEventIfWithinLimit {τ : Type} (parentSessionId : String)
    (maxActiveChildren : Nat)
    (buildRequest : Nat -> Except String (CreateSessionWithEventRequest × τ)) :
    SessionProgram ((SessionRow × SessionEventRecord) × τ) := do
  let parentSessionId <- lift (normalizeRequiredText parentSessionId "parent_session_id")
  let (event, sidecar) <- transact
    (createDelegateChildInTx parentSessionId maxActiveChildren buildRequest)
  let stored <- loadSession event.sessionId
  let session <- lift (okOr stored ("session `" ++ event.sessionId ++ "` disappeared after insert"))
  return ((session, event), sidecar)

/-! ## Transitions -/

def updateSessionStateIfCurrent (expectedState nextState : SessionState)
    (lastError : Option String) :
    SessionProgram (Option SessionRow) := do
  let sessionId <- lift (normalizeRequiredText sessionId "session_id")
  let affected <- transact fun now database =>
    match database.changeState sessionId expectedState nextState
        (normalizeOptionalText lastError) now with
    | some later => .ok (true, later)
    | none => .ok (false, database)
  match affected with
  | false => return none
  | true => do
    let stored <- loadSession sessionId
    let session <- lift (okOr stored
      ("session `" ++ sessionId ++ "` missing after conditional update"))
    return some session

def transitionInTx (eventKind : String) (request : TransitionSessionWithEventIfCurrentRequest)
    (now : Int) (database : SessionDatabase) : Option SessionEventRecord × SessionDatabase :=
  match database.changeState sessionId request.expectedState request.nextState
      (normalizeOptionalText request.lastError) now with
  | none => (none, database)
  | some changed =>
    let (event, later) := changed.insertEvent sessionId eventKind
      (normalizeOptionalText request.actorSessionId) request.eventPayloadJson now
    (some event, later)

def transitionSessionWithEventIfCurrent (request : TransitionSessionWithEventIfCurrentRequest) :
    SessionProgram (Option (SessionRow × SessionEventRecord)) := do
  let sessionId <- lift (normalizeRequiredText sessionId "session_id")
  let eventKind <- lift (normalizeRequiredText request.eventKind "event_kind")
  let transitioned <- transact fun now database =>
    .ok (transitionInTx sessionId eventKind request now database)
  match transitioned with
  | none => return none
  | some event => do
    let stored <- loadSession sessionId
    let session <- lift (okOr stored
      ("session `" ++ sessionId ++ "` missing after conditional transition"))
    return some (session, event)

structure FinalizeSessionTerminalResult where
  session : SessionRow
  event : SessionEventRecord
  terminalOutcome : SessionTerminalOutcomeRecord

def finalizeInTx (eventKind outcomeStatus : String) (expectedState : SessionState)
    (request : FinalizeSessionTerminalRequest) (now : Int) (database : SessionDatabase) :
    Option (SessionEventRecord × SessionTerminalOutcomeRecord) × SessionDatabase :=
  match database.changeState sessionId expectedState request.state
      (normalizeOptionalText request.lastError) now with
  | none => (none, database)
  | some changed =>
    let (event, noted) := changed.insertEvent sessionId eventKind
      (normalizeOptionalText request.actorSessionId) request.eventPayloadJson now
    let outcome :=
      { sessionId := sessionId
        status := outcomeStatus
        payloadJson := request.outcomePayloadJson
        recordedAt := now }
    (some (event, outcome), noted.upsertOutcome outcome)

def finalizeSessionTerminalIfCurrent (expectedState : SessionState)
    (request : FinalizeSessionTerminalRequest) :
    SessionProgram (Option FinalizeSessionTerminalResult) := do
  let sessionId <- lift (normalizeRequiredText sessionId "session_id")
  let eventKind <- lift (normalizeRequiredText request.eventKind "event_kind")
  let outcomeStatus <- lift (normalizeRequiredText request.outcomeStatus "outcome_status")
  let finalized <- transact fun now database =>
    .ok (finalizeInTx sessionId eventKind outcomeStatus expectedState request now database)
  match finalized with
  | none => return none
  | some (event, outcome) => do
    let stored <- loadSession sessionId
    let session <- lift (okOr stored
      ("session `" ++ sessionId ++ "` missing after conditional terminal finalize"))
    return some { session := session, event := event, terminalOutcome := outcome }

end SessionStore

open SessionStore

/-- Whether a session may be looked at from another. -/
def SessionVisibility.sees (currentSessionId targetSessionId : String) :
    SessionVisibility -> SessionProgram Bool
  | .selfOnly => pure (decide (currentSessionId = targetSessionId))
  | .children => isSessionVisible currentSessionId targetSessionId


/-! ## What a transaction may do -/

/-- A row keeps its place in the lineage, and its state once it is terminal. -/
structure SessionRow.Kept (before after : SessionRow) : Prop where
  record : after.toSessionRecord = before.toSessionRecord
  kind : after.kind = before.kind
  state : before.state.isTerminal = true -> after.state = before.state

theorem SessionRow.Kept.refl (row : SessionRow) : row.Kept row :=
  ⟨rfl, rfl, fun _ => rfl⟩

theorem exists_kept {α : Type} {keeps : α -> α -> Prop} {rows later : List α}
    (kept : List.Forall₂ keeps rows later) {row : α} (member : row ∈ rows) :
    ∃ after, after ∈ later /\ keeps row after := by
  induction kept with
  | nil => cases member
  | cons first _ ih =>
    rcases List.mem_cons.mp member with rfl | earlier
    · exact ⟨_, List.mem_cons_self, first⟩
    · rcases ih earlier with ⟨after, listed, same⟩
      exact ⟨after, List.mem_cons_of_mem _ listed, same⟩

namespace SessionDatabase

variable (before after : SessionDatabase)

/-- No session is added, and a session that has ended keeps its state and its
outcome. -/
structure KeepsRows : Prop where
  stored : after.Stored
  rows : List.Forall₂ SessionRow.Kept before.sessions after.sessions
  outcomes : ∀ row, row ∈ before.sessions -> row.state.isTerminal = true ->
    lookup row.sessionId after.terminalOutcomes = lookup row.sessionId before.terminalOutcomes

/-- A step on stored sessions that adds none. -/
def Quiet : Prop :=
  before.Stored -> KeepsRows before after

theorem quiet_refl (database : SessionDatabase) : Quiet database database :=
  fun stored =>
    { stored := stored
      rows := List.forall₂_same.mpr fun row _ => SessionRow.Kept.refl row
      outcomes := fun _ _ _ => rfl }

variable {expectedState : SessionState}

/-- A change of state that a terminal state withstands is quiet, as long as
the outcomes of ended sessions are left alone. -/
theorem quiet_of_changeState {database changed later : SessionDatabase} {sessionId : String}
    {nextState : SessionState} {lastError : Option String} {now : Int}
    (terminal : expectedState.isTerminal = true -> nextState = expectedState)
    (applied : database.changeState sessionId expectedState nextState lastError now = some changed)
    (sameSessions : later.sessions = changed.sessions)
    (outcomes : ∀ row, database.Stored -> row ∈ database.sessions ->
      row.state.isTerminal = true -> lookup row.sessionId later.terminalOutcomes =
          lookup row.sessionId database.terminalOutcomes) : Quiet database later := by
  intro stored
  have changedStored := stored.changeState applied
  rcases changeState_eq_some_iff.mp applied with ⟨_, rfl⟩
  refine ⟨?_, ?_, fun row => outcomes row stored⟩
  · have sameIds : later.sessionIds = sessionIds { database with
        sessions := database.sessions.map
          (SessionRow.update sessionId expectedState nextState lastError now) } := by
      unfold sessionIds
      rw [sameSessions]
    refine ⟨sameIds ▸ changedStored.distinct, ?_, ?_⟩
    · rw [sameSessions]
      exact changedStored.idsNormalized
    · rw [sameSessions]
      exact changedStored.parentsNormalized
  · rw [sameSessions]
    rw [List.forall₂_map_right_iff, List.forall₂_same]
    intro row _
    refine ⟨SessionRow.update_toSessionRecord .., SessionRow.update_kind .., ?_⟩
    intro ended
    unfold SessionRow.update
    split
    case isTrue current =>
      rw [current.2] at ended ⊢
      exact terminal ended
    case isFalse => rfl

/-- Only a session that has not ended gets an outcome. -/
theorem quiet_finalizeInTx (unfinished : expectedState.isTerminal = false)
    (sessionId eventKind outcomeStatus : String) (request : FinalizeSessionTerminalRequest)
    (now : Int) (database : SessionDatabase) :
    Quiet database (finalizeInTx sessionId eventKind outcomeStatus expectedState
      request now database).2 := by
  unfold finalizeInTx
  split
  case h_1 => exact quiet_refl database
  case h_2 changed applied =>
    have never : expectedState.isTerminal = true -> request.state = expectedState := by
      rw [unfinished]
      exact nofun
    refine quiet_of_changeState never applied rfl ?_
    rcases changeState_eq_some_iff.mp applied with ⟨⟨current, member, named, inState⟩, rfl⟩
    intro row stored rowMember ended
    have other : row.sessionId ≠ sessionId := by
      intro same
      have equal := List.inj_on_of_nodup_map stored.distinct rowMember member
        (same.trans named.symm)
      rw [equal, inState, unfinished] at ended
      cases ended
    exact lookup_insert_of_ne other _ _

/-- A session that has ended keeps its state and its outcome. -/
structure KeepsEnded : Prop where
  stored : after.Stored
  ended : ∀ row, row ∈ before.sessions -> row.state.isTerminal = true ->
    (∃ later, later ∈ after.sessions /\ later.sessionId = row.sessionId /\
      later.state = row.state) /\
    lookup row.sessionId after.terminalOutcomes = lookup row.sessionId before.terminalOutcomes

/-- A step on stored sessions after which nothing that has ended is different. -/
def Final : Prop :=
  before.Stored -> KeepsEnded before after

/-- Finality may be assumed of any number of steps of other tasks. -/
theorem final_interference : Interference Final where
  refl database stored :=
    { stored := stored
      ended := fun row member _ => ⟨⟨row, member, rfl, rfl⟩, rfl⟩ }
  trans := by
    intro first second third earlier later stored
    have between := earlier stored
    have afterwards := later between.stored
    refine ⟨afterwards.stored, ?_⟩
    intro row member ended
    rcases between.ended row member ended with ⟨⟨middle, middleMember, named, same⟩, outcome⟩
    rw [<- same] at ended
    rcases afterwards.ended middle middleMember ended with
      ⟨⟨last, lastMember, lastNamed, lastSame⟩, lastOutcome⟩
    rw [named] at lastOutcome
    exact ⟨⟨last, lastMember, lastNamed.trans named, lastSame.trans same⟩,
      lastOutcome.trans outcome⟩

/-- A transaction that keeps every row undoes no ended session. -/
theorem final_of_quiet {before after : SessionDatabase} (quiet : Quiet before after) :
    Final before after := by
  intro stored
  have kept := quiet stored
  refine ⟨kept.stored, ?_⟩
  intro row member ended
  refine ⟨?_, kept.outcomes row member ended⟩
  rcases exists_kept kept.rows member with ⟨later, listed, same⟩
  exact ⟨later, listed, congrArg SessionRecord.sessionId same.record, same.state ended⟩

end SessionDatabase

open SessionDatabase

/-! ## Creations -/

namespace SessionStore

variable {record normalized : NewSessionRecord} {now : Int} {database later : SessionDatabase}
  {event : SessionEventRecord} {before after : SessionDatabase} {τ : Type}
  {request : TransitionSessionWithEventIfCurrentRequest} {expectedState : SessionState}
  {related : SessionDatabase -> SessionDatabase -> Prop}

theorem normalizeNewSession_eq_ok_iff : normalizeNewSession record = .ok normalized ↔ ∃ sessionId,
        normalizeRequiredText record.sessionId "session_id" = .ok sessionId /\
          normalized = { record with
            sessionId := sessionId
            parentSessionId := normalizeOptionalText record.parentSessionId
            label := normalizeOptionalText record.label } := by
  unfold normalizeNewSession
  rw [bind_eq_ok_iff]
  simp only [Except.ok.injEq, eq_comm]

/-- A row was added to the sessions, and nothing else was done to them. -/
structure Opens (now : Int) (record : NewSessionRecord) (before after : SessionDatabase) :
    Prop where
  absent : before.findSession record.sessionId = none
  idNormalized : Normalized record.sessionId
  parentNormalized : ∀ parent, record.parentSessionId = some parent -> Normalized parent
  sessions : after.sessions = before.sessions ++ [newRow now record]
  outcomes : after.terminalOutcomes = before.terminalOutcomes

theorem opens_insertSession (accepted : normalizeNewSession record = .ok normalized)
    (inserted : database.insertSession now normalized = .ok later) :
    Opens now normalized database later := by
  rcases normalizeNewSession_eq_ok_iff.mp accepted with ⟨sessionId, idAccepted, rfl⟩
  unfold insertSession at inserted
  split at inserted
  case isTrue => cases inserted
  case isFalse absent =>
    cases inserted
    exact
      { absent := Option.not_isSome_iff_eq_none.mp absent
        idNormalized := normalized_of_normalizeRequiredText idAccepted
        parentNormalized := fun parent kept => normalized_of_normalizeOptionalText kept
        sessions := rfl
        outcomes := rfl }

/-- What the creating transaction stores, whenever it succeeds. -/
theorem opens_createSessionWithEventInTx {request : CreateSessionWithEventRequest}
    (created : createSessionWithEventInTx now request database = .ok (event, later)) :
    ∃ session,
      normalizeNewSession request.session = .ok session /\ event.sessionId = session.sessionId /\
        Opens now session database later := by
  rcases bind_eq_ok_iff.mp created with ⟨session, accepted, afterSession⟩
  rcases bind_eq_ok_iff.mp afterSession with ⟨eventKind, _, afterKind⟩
  rcases bind_eq_ok_iff.mp afterKind with ⟨inserted, isInserted, rest⟩
  have opens := opens_insertSession accepted isInserted
  cases rest
  exact ⟨session, accepted, rfl,
    { absent := opens.absent
      idNormalized := opens.idNormalized
      parentNormalized := opens.parentNormalized
      sessions := opens.sessions
      outcomes := opens.outcomes }⟩

theorem Opens.stored (opens : Opens now record before after) (stored : before.Stored) :
    after.Stored := by
  have inserted : before.insertSession now record =
    .ok { before with sessions := after.sessions } := by
    unfold insertSession
    rw [opens.absent, opens.sessions]
    rfl
  have kept := stored.insertSession opens.idNormalized opens.parentNormalized inserted
  exact ⟨kept.distinct, kept.idsNormalized, kept.parentsNormalized⟩

/-- The creation of a session undoes no ended one. -/
theorem Opens.final (opens : Opens now record before after) : Final before after := by
  intro stored
  refine ⟨opens.stored stored, ?_⟩
  intro row member _
  refine ⟨⟨row, ?_, rfl, rfl⟩, ?_⟩
  · rw [opens.sessions]
    exact List.mem_append_left _ member
  · rw [opens.outcomes]

/-- A child is created only while its parent has fewer active children than
the limit, counted in the same transaction. -/
theorem opens_createDelegateChildInTx {parentSessionId : String} {maxActiveChildren : Nat}
    {buildRequest : Nat -> Except String (CreateSessionWithEventRequest × τ)} {sidecar : τ}
    (created : createDelegateChildInTx parentSessionId maxActiveChildren buildRequest now
      database = .ok ((event, sidecar), later)) :
    ∃ request session,
      buildRequest (database.countActiveDirectChildren parentSessionId) = .ok (request, sidecar) /\
        database.countActiveDirectChildren parentSessionId < maxActiveChildren /\
        normalizeNewSession request.session = .ok session /\
        session.parentSessionId = some parentSessionId /\ event.sessionId = session.sessionId /\
        Opens now session database later := by
  unfold createDelegateChildInTx at created
  dsimp only at created
  split at created
  case isTrue => cases created
  case isFalse room =>
    rcases bind_eq_ok_iff.mp created with ⟨⟨request, built⟩, isBuilt, afterBuild⟩
    rcases bind_eq_ok_iff.mp afterBuild with ⟨requestParent, hasParent, afterParent⟩
    have parent := okOr_eq_ok_iff.mp hasParent
    split at afterParent
    case isTrue => cases afterParent
    case isFalse =>
      split at afterParent
      case isTrue => cases afterParent
      case isFalse sameParent =>
        rcases bind_eq_ok_iff.mp afterParent with ⟨⟨inserted, after⟩, isInserted, rest⟩
        cases rest
        rcases opens_createSessionWithEventInTx isInserted with ⟨session, accepted, named, opens⟩
        rcases normalizeNewSession_eq_ok_iff.mp accepted with ⟨sessionId, _, rfl⟩
        refine ⟨request, _, isBuilt, Nat.lt_of_not_le room, accepted, ?_, named, opens⟩
        rw [<- not_not.mp sameParent]
        exact parent

/-! ## Programs -/

section Reading

variable {related : SessionDatabase -> SessionDatabase -> Prop} {α : Type}

section

variable (reflexive : ∀ database, related database database)

include reflexive

theorem respects_inspect {read : SessionDatabase -> Except String α} :
    (inspect read).Respects related := by
  apply respects_atomic
  intro moment database
  cases moment.fault with
  | some | none => exact reflexive database

theorem respects_currentUnixTs : currentUnixTs.Respects related :=
  respects_atomic fun _ database => reflexive database

/-- A transaction that fails changes nothing, so only its successes matter. -/
theorem respects_transact {body : Int -> SessionDatabase -> Except String (α × SessionDatabase)}
    (relates : ∀ now database value later, body now database = .ok (value, later) ->
      related database later) : (transact body).Respects related := by
  apply respects_atomic
  intro moment database
  cases moment.fault with
  | some error => exact reflexive database
  | none =>
    cases done : body moment.now database with
    | error error => exact reflexive database
    | ok result => exact relates moment.now database result.1 result.2 done

/-- A query for one session. -/
theorem respects_query {normalized : Except String String}
    {read : String -> SessionDatabase -> Except String α} :
    (lift normalized >>= fun sessionId => inspect (read sessionId) :
      SessionProgram α).Respects related :=
  respects_bind respects_lift fun _ => respects_inspect reflexive

/-- A program that ends with a query for a session that it has written. -/
theorem respects_reload {sessionId missing : String} {next : SessionRow -> SessionProgram α}
    (rest : ∀ session, (next session).Respects related) :
    (loadSession sessionId >>= fun stored =>
      lift (okOr stored missing) >>= next).Respects related :=
  respects_bind (respects_query reflexive) fun _ =>
    respects_bind respects_lift rest

end

end Reading

section Securing

variable {rely guarantee : SessionDatabase -> SessionDatabase -> Prop}

theorem secures_transact {α : Type} (reflexive : ∀ database, guarantee database database)
    {body : Int -> SessionDatabase -> Except String (α × SessionDatabase)}
    {demand : Except String α -> SessionDatabase -> Prop}
    (failing : ∀ error later, demand (.error error) later)
    (relates : ∀ before now value after, rely database before ->
      body now before = .ok (value, after) ->
        guarantee before after /\ ∀ later, rely after later -> demand (.ok value) later) :
    (transact body).Secures rely guarantee demand database := by
  apply secures_atomic
  intro before interfered moment
  cases moment.fault with
  | some error => exact ⟨reflexive before, fun later _ => failing error later⟩
  | none =>
    cases done : body moment.now before with
    | error error => exact ⟨reflexive before, fun later _ => failing error later⟩
    | ok result => exact relates before moment.now result.1 result.2 interfered done

/-- A session is loaded as it was at some point between. -/
theorem secures_loadSession (reflexive : ∀ database, guarantee database database)
    {sessionId : String} {database : SessionDatabase} :
    (loadSession sessionId).Secures rely guarantee
      (fun result later => ∀ stored, result = .ok stored -> ∃ read,
        rely database read /\ rely read later /\ read.findSession (Text.trim sessionId) = stored)
      database := by
  unfold loadSession
  cases accepted : normalizeRequiredText sessionId "session_id" with
  | error error => exact secures_finish fun _ _ _ => nofun
  | ok normalized =>
    apply secures_atomic
    intro read interfered moment
    cases moment.fault with
    | some error => exact ⟨reflexive read, fun _ _ _ => nofun⟩
    | none =>
      refine ⟨reflexive read, ?_⟩
      intro later further stored answered
      cases answered
      rw [eq_trim_of_normalizeRequiredText accepted]
      exact ⟨read, interfered, further, rfl⟩

end Securing

section

variable
  (terminal : request.expectedState.isTerminal = true -> request.nextState = request.expectedState)

include terminal

theorem respects_transitionInTx {sessionId eventKind : String} : (transact fun now database =>
      .ok (transitionInTx sessionId eventKind request now database)).Respects
        Quiet := by
  apply respects_transact quiet_refl
  intro now database event later done
  have applied := Except.ok.inj done
  unfold transitionInTx at applied
  split at applied
  case h_1 =>
    cases applied
    exact quiet_refl database
  case h_2 changed moved =>
    cases applied
    refine quiet_of_changeState terminal moved rfl ?_
    rcases changeState_eq_some_iff.mp moved with ⟨_, rfl⟩
    intros
    rfl

/-- A transition moves only a session that is in the expected state. -/
theorem respects_transitionSessionWithEventIfCurrent {sessionId : String} :
    (transitionSessionWithEventIfCurrent sessionId request).Respects Quiet := by
  apply respects_bind respects_lift
  intro sessionId
  apply respects_bind respects_lift
  intro eventKind
  apply respects_bind (respects_transitionInTx terminal)
  intro transitioned
  cases transitioned with
  | none => exact respects_pure _
  | some event =>
    exact respects_reload quiet_refl fun _ => respects_pure _

end

/-- Only a session that has not ended is finalized. -/
theorem respects_finalizeSessionTerminalIfCurrent (unfinished : expectedState.isTerminal = false)
    {sessionId : String} {request : FinalizeSessionTerminalRequest} :
    (finalizeSessionTerminalIfCurrent sessionId expectedState request).Respects
      Quiet := by
  apply respects_bind respects_lift
  intro sessionId
  apply respects_bind respects_lift
  intro eventKind
  apply respects_bind respects_lift
  intro outcomeStatus
  refine respects_bind (respects_transact quiet_refl ?_) ?_
  · intro now database event later done
    have step := quiet_finalizeInTx unfinished sessionId eventKind outcomeStatus
      request now database
    rw [Except.ok.inj done] at step
    exact step
  · intro finalized
    cases finalized with
    | none => exact respects_pure _
    | some written =>
      exact respects_reload quiet_refl fun _ => respects_pure _

/-- A change of state that leaves ended sessions where they are is quiet. -/
theorem respects_updateSessionStateIfCurrent {nextState : SessionState}
    (terminal : expectedState.isTerminal = true -> nextState = expectedState) {sessionId : String}
    {lastError : Option String} :
    (updateSessionStateIfCurrent sessionId expectedState nextState lastError).Respects
      Quiet := by
  apply respects_bind respects_lift
  intro sessionId
  refine respects_bind (respects_transact quiet_refl ?_) ?_
  · intro now database affected later done
    split at done
    case h_1 changed applied =>
      cases done
      refine quiet_of_changeState terminal applied rfl ?_
      rcases changeState_eq_some_iff.mp applied with ⟨_, rfl⟩
      intros
      rfl
    case h_2 =>
      cases done
      exact quiet_refl database
  · intro affected
    cases affected with
    | false => exact respects_pure _
    | true =>
      exact respects_reload quiet_refl fun _ => respects_pure _

section

variable (reflexive : ∀ database, related database database)
  (creates : ∀ {now normalized before after}, normalizeNewSession record = .ok normalized ->
    Opens now normalized before after -> related before after)

include reflexive creates

/-- A creation respects what every insertion of its record does. -/
theorem respects_createSession : (createSession record).Respects related := by
  unfold createSession
  cases accepted : normalizeNewSession record with
  | error error => exact respects_fail error
  | ok normalized =>
    rw [lift_ok_bind]
    refine respects_bind (respects_transact reflexive ?_) fun _ => ?_
    · intro now database value later done
      cases inserted : database.insertSession now normalized with
      | error error =>
        rw [inserted] at done
        cases done
      | ok after =>
        rw [inserted] at done
        cases done
        exact creates accepted (opens_insertSession accepted inserted)
    · exact respects_bind (respects_query reflexive) fun _ =>
        respects_lift

theorem respects_ensureSession : (ensureSession record).Respects related := by
  apply respects_bind respects_lift
  intro sessionId
  apply respects_bind (respects_query reflexive)
  intro existing
  cases existing with
  | some session => exact respects_pure session
  | none =>
    apply respects_bind (respects_caught (respects_createSession reflexive creates))
    intro created
    cases created with
    | ok session => exact respects_pure session
    | error error =>
      change (if _ then _ else _ : SessionProgram SessionRow).Respects _
      split
      · exact respects_bind (respects_query reflexive) fun _ =>
          respects_lift
      · exact respects_fail error

end

/-- No ended session is touched when a child is created. -/
theorem respects_createDelegateChild {parentSessionId : String} {maxActiveChildren : Nat}
    {buildRequest : Nat -> Except String (CreateSessionWithEventRequest × τ)} :
    (createDelegateChildSessionWithEventIfWithinLimit parentSessionId maxActiveChildren
      buildRequest).Respects Final := by
  have reflexive := final_interference.refl
  apply respects_bind respects_lift
  intro parent
  refine respects_bind (respects_transact reflexive ?_) ?_
  · intro now database value later done
    rcases opens_createDelegateChildInTx done with ⟨_, _, _, _, _, _, _, opens⟩
    exact opens.final
  · intro created
    exact respects_reload reflexive fun _ => respects_pure _

end SessionStore

end LoongClaw.Session
