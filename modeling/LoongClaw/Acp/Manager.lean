import LoongClaw.Foundation.LockTable
import LoongClaw.Foundation.Program
import LoongClaw.Acp.Session

namespace LoongClaw.Acp

open Foundation Program OrderedMap

/-!
# The session manager of the agent control plane

Calls of the manager run concurrently.  An operation on the store or on one of
the registries holds a lock of its own and is one statement; a backend operation
begins in one statement and ends in another, with anything in between.  A call
waits for an actor lock by asking for it again and again; the circumstances say
how often it gets to ask.

`running` lists the backend operations that have begun and not ended, and
`creating` the calls between the check of the session limit and the storing of
the new session.  No call reads either.
-/

inductive BackendOperation where
  | turn
  | setMode
  | setConfigOption
  | close
  deriving DecidableEq

/-- A backend operation that runs: the call that has begun it, and the actor key
whose lock the call holds for it.  Idle clean-up takes no lock. -/
structure BackendRun where
  caller : Nat
  operation : BackendOperation
  sessionKey : String
  guard : Option String
  deriving DecidableEq

structure AcpState where
  store : OrderedMap String AcpSessionMetadata
  activeTurns : OrderedMap String AcpSessionHandle
  actors : LockTable String
  pendingTurns : OrderedMap String Nat
  running : List BackendRun
  creating : List (Nat × String)

/-- What is around a statement: the clock, how often a waiting call gets to ask
for its lock, a failing store, and what a backend answers. -/
structure AcpMoment where
  (nowMs polls : Nat)
  (storeError failure : Option String)
  handle : AcpSessionHandle
  turnState : AcpSessionState

structure AcpConfig where
  bindingsEnabled : Bool
  (maxConcurrentSessions sessionIdleTtlMs : Option Nat)

namespace AcpConfig

def resolvedMaxConcurrentSessions (config : AcpConfig) : Nat :=
  (config.maxConcurrentSessions.filter fun value => decide (0 < value)).getD 8

def resolvedSessionIdleTtlMs (config : AcpConfig) : Nat :=
  (config.sessionIdleTtlMs.filter fun value => decide (0 < value)).getD 900000

end AcpConfig

/-- The configuration of the calls, with the selected backend and the registry of
backends. -/
structure AcpEnvironment where
  config : AcpConfig
  selectedBackendId : String
  resolveAcpBackend : String -> Except String Unit

abbrev AcpProgram (α : Type) :=
  Program AcpMoment AcpState String α

def nowMs : AcpProgram Nat :=
  atomic fun moment state => (.ok moment.nowMs, state)

/-! ## The store -/

namespace Store

/-- A statement on the store, which may fail. -/
def statement {α : Type} (perform : AcpState -> α × AcpState) : AcpProgram α :=
  atomic fun moment state =>
    match moment.storeError with
    | some error => (.error error, state)
    | none => (.ok (perform state).1, (perform state).2)

def get (sessionKey : String) : AcpProgram (Option AcpSessionMetadata) :=
  statement fun state => (lookup sessionKey state.store, state)

def findValue (selects : AcpSessionMetadata -> Bool) (state : AcpState) :
    Option AcpSessionMetadata :=
  (values state.store).find? selects

def getByConversationId (conversationId : String) : AcpProgram (Option AcpSessionMetadata) :=
  match trimmedNonEmpty conversationId with
  | none => pure none
  | some normalized =>
    statement fun state =>
      (findValue (fun metadata => metadata.conversationId == some normalized) state, state)

def getByBindingRouteSessionId (routeSessionId : String) : AcpProgram (Option AcpSessionMetadata) :=
  match trimmedNonEmpty routeSessionId with
  | none => pure none
  | some normalized =>
    statement fun state =>
      (findValue (fun metadata =>
        metadata.binding.map AcpSessionBindingScope.routeSessionId == some normalized) state,
        state)

def upsert (metadata : AcpSessionMetadata) : AcpProgram Unit :=
  statement fun state =>
    ((), { state with store := insert metadata.sessionKey metadata state.store })

def remove (sessionKey : String) : AcpProgram Unit :=
  statement fun state => ((), { state with store := erase sessionKey state.store })

def list : AcpProgram (List AcpSessionMetadata) :=
  statement fun state => (values state.store, state)

end Store

open Store

/-! ## Backend operations -/

/-- A statement that is waited for and leaves no trace here, such as a call that
only asks the backend to stop. -/
def backendCall : AcpProgram (Except String Unit) :=
  atomic fun moment state =>
    (.ok (match moment.failure with
      | some error => .error error
      | none => .ok ()), state)

variable (run : BackendRun) (actorKey : String) (guard : SessionActorGuard)

def beginOperation : AcpProgram Unit :=
  atomic fun _ state => (.ok (), { state with running := state.running ++ [run] })

def endOperation : AcpProgram (Except String AcpSessionState) :=
  atomic fun moment state =>
    (.ok (match moment.failure with
      | some error => .error error
      | none => .ok moment.turnState),
      { state with running := state.running.filter fun other => decide (other ≠ run) })

/-- An operation of the backend on a session. -/
def backendOperation : AcpProgram (Except String AcpSessionState) := do
  beginOperation run
  endOperation run

/-! ## Actors -/

/-- A registry of counts. -/
def bumpCount (key : String) (counts : OrderedMap String Nat) : OrderedMap String Nat :=
  insert key ((lookup key counts).getD 0 + 1) counts

def dropCount (key : String) (counts : OrderedMap String Nat) : OrderedMap String Nat :=
  match lookup key counts with
  | none => counts
  | some count =>
    if count <= 1 then erase key counts else insert key (count - 1) counts

structure SessionActorGuard where
  actorKey : String
  lock : Nat
  countPendingTurn : Bool

def onActors {α : Type} (perform : AcpMoment -> LockTable String -> α × LockTable String) :
    AcpProgram α :=
  atomic fun moment state =>
    (.ok (perform moment state.actors).1, { state with actors := (perform moment state.actors).2 })

def incrementActorRefCount : AcpProgram Unit :=
  onActors fun _ actors => ((), actors.reference actorKey)

def incrementPendingTurn : AcpProgram Unit :=
  atomic fun _ state =>
    (.ok (), { state with pendingTurns := bumpCount actorKey state.pendingTurns })

/-- The lock, and how often the call gets to ask for it. -/
def getOrInsertSessionActor : AcpProgram (Nat × Nat) :=
  onActors fun moment actors =>
    (((actors.lockOf actorKey).1, moment.polls), (actors.lockOf actorKey).2)

/-- Wait for a lock.  A call that does not get to ask again stays where it is. -/
def lockOwned (lock : Nat) : Nat -> AcpProgram Unit
  | 0 => fail "ACP session actor lock is still held"
  | polls + 1 =>
    .step (fun _ state =>
        if lock ∈ state.actors.held then state
        else { state with actors := state.actors.acquire lock })
      (fun _ state => if lock ∈ state.actors.held then lockOwned lock polls else pure ())

def acquireSessionActorGuard : AcpProgram SessionActorGuard := do
  incrementActorRefCount actorKey
  let (lock, polls) <- getOrInsertSessionActor actorKey
  lockOwned lock polls
  return { actorKey := actorKey, lock := lock, countPendingTurn := false }

def acquireTurnQueueGuard : AcpProgram SessionActorGuard := do
  incrementActorRefCount actorKey
  incrementPendingTurn actorKey
  let (lock, polls) <- getOrInsertSessionActor actorKey
  lockOwned lock polls
  return { actorKey := actorKey, lock := lock, countPendingTurn := true }

def releaseActor (lock : Nat) : AcpProgram Unit :=
  onActors fun _ actors => ((), actors.release lock)

def decrementPendingTurn : AcpProgram Unit :=
  atomic fun _ state =>
    (.ok (), { state with pendingTurns := dropCount actorKey state.pendingTurns })

def decrementActorRefCount : AcpProgram Unit :=
  onActors fun _ actors => ((), actors.dereference actorKey)

def hasNoReference : AcpProgram Bool :=
  onActors fun _ actors => (!contains actorKey actors.references, actors)

def removeSessionActor : AcpProgram Unit :=
  onActors fun _ actors => ((), actors.discard actorKey)

def dropPendingTurn : AcpProgram Unit :=
  if guard.countPendingTurn then decrementPendingTurn guard.actorKey else pure ()

/-- What happens when a guard goes out of scope. -/
def dropGuard : AcpProgram Unit := do
  releaseActor guard.lock
  dropPendingTurn guard
  decrementActorRefCount guard.actorKey
  if <- hasNoReference guard.actorKey then
    removeSessionActor guard.actorKey
  else return ()

/-- The guard goes out of scope however the body ends. -/
def withGuard {α : Type} (body : AcpProgram α) : AcpProgram α := do
  let result <- body.caught
  dropGuard guard
  lift result

def actorRefCount : AcpProgram Nat :=
  onActors fun _ actors => (actors.references? actorKey, actors)

def pendingTurnCount : AcpProgram Nat :=
  atomic fun _ state =>
    (.ok ((lookup actorKey state.pendingTurns).getD 0), state)

def activeTurn : AcpProgram (Option AcpSessionHandle) :=
  atomic fun _ state => (.ok (lookup actorKey state.activeTurns), state)

def registerActiveTurn (handle : AcpSessionHandle) : AcpProgram Unit :=
  atomic fun _ state =>
    (.ok (), { state with activeTurns := insert actorKey handle state.activeTurns })

def clearActiveTurn : AcpProgram Unit :=
  atomic fun _ state =>
    (.ok (), { state with activeTurns := erase actorKey state.activeTurns })

/-! ## Idle clean-up -/

section Calls

variable (env : AcpEnvironment) (caller : Nat)

/-- Whether the session is idle: nothing is counted for its actor key, and its
last activity is long ago. -/
def isIdle (now : Nat) (metadata : AcpSessionMetadata) : AcpProgram Bool := do
  if metadata.state = .busy \/ metadata.state = .cancelling \/ metadata.state = .initializing then
    return false
  if 0 < (<- actorRefCount (actorKeyForMetadata metadata)) then
    return false
  if 0 < (<- pendingTurnCount (actorKeyForMetadata metadata)) then
    return false
  if (<- activeTurn (actorKeyForMetadata metadata)).isSome then
    return false
  return decide (env.config.resolvedSessionIdleTtlMs <= now - metadata.lastActivityMs)

variable (metadata : AcpSessionMetadata) (bootstrap : AcpSessionBootstrap)
  (sessionKey requestedSessionKey : String)

def closeIdle : AcpProgram Unit :=
  match env.resolveAcpBackend metadata.backendId with
  | .error _ => pure ()
  | .ok () => do
    let _ <- backendOperation
      { caller := caller, operation := .close, sessionKey := metadata.sessionKey, guard := none }

/-- Failures of the backend and of the store are ignored. -/
def evictSession : AcpProgram Unit := do
  closeIdle env caller metadata
  let _ <- (remove metadata.sessionKey).caught (η := String)

def cleanupListed (now : Nat) : List AcpSessionMetadata -> AcpProgram Unit
  | [] => pure ()
  | metadata :: rest => do
    if <- isIdle env now metadata then
      evictSession env caller metadata
      cleanupListed now rest
    else cleanupListed now rest

def cleanupIdleSessions : AcpProgram Unit := do
  let now <- nowMs
  let listed <- list
  cleanupListed env caller now listed

/-! ## Sessions -/

def validateExistingSession (existing : AcpSessionMetadata) : Except String AcpSessionMetadata := do
  if existing.backendId ≠ env.selectedBackendId then
    throw ("session `" ++ existing.sessionKey ++ "` is already bound to ACP backend `" ++
      existing.backendId ++ "` (requested `" ++ env.selectedBackendId ++
      "`); use a new session key or close the existing session first")
  let bound <-
    match AcpSessionBindingScope.fromBootstrap bootstrap, existing.binding with
    | none, _ => pure existing
    | some binding, some existingBinding =>
      if existingBinding ≠ binding then
        throw ("session `" ++ existing.sessionKey ++ "` is already bound to ACP route `" ++
          existingBinding.routeSessionId ++ "` (requested `" ++ binding.routeSessionId ++
          "`); use a new session key or close the existing session first")
      else pure existing
    | some binding, none => pure { existing with binding := some binding }
  let named :=
    match normalizedConversationId bootstrap.conversationId with
    | none => bound
    | some conversationId =>
      if bound.binding.isSome /\ bound.conversationId.isSome then bound
      else { bound with conversationId := some conversationId }
  return { named with mode := named.mode.or bootstrap.mode }

def validateAndTouchExistingSession (existing : AcpSessionMetadata) :
    AcpProgram AcpSessionMetadata := do
  let validated <- lift (validateExistingSession env bootstrap existing)
  let now <- nowMs
  let touched := { validated with lastActivityMs := now }
  upsert touched
  return touched

def findByRoute : AcpProgram (Option AcpSessionMetadata) :=
  match AcpSessionBindingScope.fromBootstrap bootstrap with
  | none => pure none
  | some binding => getByBindingRouteSessionId binding.routeSessionId

def findByConversation : AcpProgram (Option AcpSessionMetadata) :=
  match normalizedConversationId bootstrap.conversationId with
  | none => pure none
  | some conversationId => getByConversationId conversationId

/-- The stored session that a bootstrap names: by its key, by its route, by its
conversation. -/
def findExistingSession : AcpProgram (Option AcpSessionMetadata) := do
  match <- get bootstrap.sessionKey with
  | some existing => return some existing
  | none =>
    if env.config.bindingsEnabled then
      match <- findByRoute bootstrap with
      | some existing => return some existing
      | none => findByConversation bootstrap
    else return none

def resolveExistingSession : AcpProgram (Option AcpSessionMetadata) := do
  match <- findExistingSession env bootstrap with
  | none => return none
  | some existing => return some (<- validateAndTouchExistingSession env bootstrap existing)

/-- Note that the call may now create the session. -/
def beginsCreation (state : AcpState) : AcpState :=
  { state with creating := state.creating ++ [(caller, sessionKey)] }

def endsCreation (state : AcpState) : AcpState :=
  { state with creating := state.creating.filter fun entry => decide (entry.1 ≠ caller) }

/-- Whether the requested session is stored by now. -/
def requestedIsStored : AcpProgram Bool :=
  statement fun state =>
    if contains requestedSessionKey state.store then
      (true, beginsCreation caller requestedSessionKey state)
    else (false, state)

/-- How many sessions are stored. -/
def countSessions : AcpProgram Nat :=
  statement fun state =>
    ((values state.store).length,
      if (values state.store).length < env.config.resolvedMaxConcurrentSessions then
        beginsCreation caller requestedSessionKey state
      else state)

def enforceMaxConcurrentSessions : AcpProgram Unit := do
  if <- requestedIsStored caller requestedSessionKey then
    return ()
  else
    let current <- countSessions env caller requestedSessionKey
    if env.config.resolvedMaxConcurrentSessions <= current then
      fail ("ACP control plane already tracks " ++ toString current ++
        " sessions, which reaches max_concurrent_sessions=" ++
        toString env.config.resolvedMaxConcurrentSessions)
    else return ()

/-- The handle of a new session, or the reason why there is none. -/
def backendEnsureSession : AcpProgram AcpSessionHandle :=
  atomic fun moment state =>
    match moment.failure with
    | some error => (.error error, endsCreation caller state)
    | none => (.ok moment.handle, state)

def abandonCreation : AcpProgram Unit :=
  atomic fun _ state => (.ok (), endsCreation caller state)

/-- Store the new session, which ends its creation. -/
def storeCreated : AcpProgram Unit :=
  atomic fun moment state =>
    match moment.storeError with
    | some error => (.error error, endsCreation caller state)
    | none =>
      (.ok (), endsCreation caller
        { state with store := insert metadata.sessionKey metadata state.store })

def createdMetadata (handle : AcpSessionHandle) (now : Nat) : AcpSessionMetadata :=
  { handle.intoMetadata (normalizedConversationId bootstrap.conversationId)
      (AcpSessionBindingScope.fromBootstrap bootstrap) bootstrap.mode .ready now with
    activationOrigin :=
      (lookup "loongclaw.acp.activation_origin" bootstrap.metadata).bind
        AcpRoutingOrigin.parse }

def createSession : AcpProgram AcpSessionMetadata := do
  enforceMaxConcurrentSessions env caller bootstrap.sessionKey
  match env.resolveAcpBackend env.selectedBackendId with
  | .error error =>
    abandonCreation caller
    fail error
  | .ok () =>
    let handle <- backendEnsureSession caller
    let now <- nowMs
    let metadata := createdMetadata bootstrap handle now
    storeCreated caller metadata
    return metadata

def ensureSession : AcpProgram AcpSessionMetadata := do
  cleanupIdleSessions env caller
  match <- resolveExistingSession env bootstrap with
  | some existing => return existing
  | none => createSession env caller bootstrap

/-! ## Calls -/

/-- Store what became of a session after a backend operation that failed. -/
def storeFailure (error : String) : AcpProgram Unit := do
  let now <- nowMs
  upsert { metadata with state := .error, lastError := some error, lastActivityMs := now }

def runTurn : AcpProgram AcpSessionState := do
  let actorKey := actorKeyForBootstrap bootstrap
  let guard <- acquireTurnQueueGuard actorKey
  withGuard guard do
    cleanupIdleSessions env caller
    let metadata <- ensureSession env caller bootstrap
    lift (env.resolveAcpBackend metadata.backendId)
    let now <- nowMs
    let busy := { metadata with state := .busy, lastError := none, lastActivityMs := now }
    upsert busy
    registerActiveTurn actorKey busy.toHandle
    let result <- backendOperation
      { caller := caller, operation := .turn, sessionKey := busy.sessionKey
        guard := some actorKey }
    clearActiveTurn actorKey
    match result with
    | .ok state =>
      let now <- nowMs
      upsert { busy with state := state, lastError := none, lastActivityMs := now }
      return state
    | .error error =>
      storeFailure busy error
      fail error

def registeredSession : AcpProgram AcpSessionMetadata := do
  match <- get sessionKey with
  | some metadata => return metadata
  | none => fail ("ACP session `" ++ sessionKey ++ "` is not registered")

/-- An operation on a registered session, under the lock of its actor key, and
what is stored of the session when it succeeds. -/
def guardedOperation (operation : BackendOperation) (sessionKey : String)
    (succeeded : AcpSessionMetadata -> AcpSessionMetadata) : AcpProgram Unit := do
  let registered <- registeredSession sessionKey
  let actorKey := actorKeyForMetadata registered
  let guard <- acquireSessionActorGuard actorKey
  withGuard guard do
    cleanupIdleSessions env caller
    let metadata <- registeredSession sessionKey
    lift (env.resolveAcpBackend metadata.backendId)
    let result <- backendOperation
      { caller := caller, operation := operation, sessionKey := metadata.sessionKey
        guard := some actorKey }
    match result with
    | .ok _ =>
      let now <- nowMs
      upsert { succeeded metadata with lastError := none, lastActivityMs := now }
    | .error error =>
      storeFailure metadata error
      fail error

def setMode (mode : AcpSessionMode) : AcpProgram Unit :=
  guardedOperation env caller .setMode sessionKey fun metadata =>
    { metadata with mode := some mode }

def setConfigOption : AcpProgram Unit :=
  guardedOperation env caller .setConfigOption sessionKey fun metadata => metadata

def requestActiveTurnCancellation (handle : AcpSessionHandle) : AcpProgram Unit := do
  let now <- nowMs
  let cancelling := { metadata with state := .cancelling, lastError := none, lastActivityMs := now }
  upsert cancelling
  lift (env.resolveAcpBackend handle.backendId)
  match <- backendCall with
  | .ok () => return ()
  | .error error =>
    storeFailure cancelling error
    fail error

def cancelActiveTurn (actorKey : String) : AcpProgram Unit := do
  match <- activeTurn actorKey with
  | some handle => requestActiveTurnCancellation env metadata handle
  | none => return ()

def close : AcpProgram Unit := do
  let registered <- registeredSession sessionKey
  let actorKey := actorKeyForMetadata registered
  cancelActiveTurn env registered actorKey
  let guard <- acquireSessionActorGuard actorKey
  withGuard guard do
    cleanupIdleSessions env caller
    let metadata <- registeredSession sessionKey
    lift (env.resolveAcpBackend metadata.backendId)
    let result <- backendOperation
      { caller := caller, operation := .close, sessionKey := metadata.sessionKey
        guard := some actorKey }
    match result with
    | .ok _ =>
      clearActiveTurn (actorKeyForMetadata metadata)
      remove sessionKey
    | .error error => fail error

end Calls

/-- A call of the manager. -/
inductive AcpCall where
  | ensureSession (bootstrap : AcpSessionBootstrap)
  | runTurn (bootstrap : AcpSessionBootstrap)
  | setMode (sessionKey : String) (mode : AcpSessionMode)
  | setConfigOption (sessionKey : String)
  | close (sessionKey : String)
  | cleanupIdleSessions

/-- The statements of a call; what it returns does not matter to the others. -/
def AcpCall.program (env : AcpEnvironment) (caller : Nat) : AcpCall -> AcpProgram Unit
  | ensureSession bootstrap => do let _ <- Acp.ensureSession env caller bootstrap
  | runTurn bootstrap => do let _ <- Acp.runTurn env caller bootstrap
  | setMode sessionKey mode => Acp.setMode env caller sessionKey mode
  | setConfigOption sessionKey => Acp.setConfigOption env caller sessionKey
  | close sessionKey => Acp.close env caller sessionKey
  | cleanupIdleSessions => Acp.cleanupIdleSessions env caller

/-- A manager with the given sessions, on which nothing runs yet, and its
calls. -/
def managerPool (env : AcpEnvironment) (store : OrderedMap String AcpSessionMetadata)
    (calls : Nat -> AcpCall) : Pool Nat AcpMoment AcpState String Unit where
  shared :=
    { store := store
      activeTurns := []
      actors := .empty
      pendingTurns := []
      running := []
      creating := [] }
  threads caller := (calls caller).program env caller

end LoongClaw.Acp
