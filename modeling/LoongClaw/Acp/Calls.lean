import LoongClaw.Acp.Statements

namespace LoongClaw.Acp

open Foundation Program OrderedMap

/-!
# What calls of the manager do

A call follows the protocol of the lock table and begins its backend operations
under the lock that it holds, if they are guarded.  Where it creates a session, it
notes that it begins to, and that it ends.  The programs of the calls are walked
through once, for both.
-/

/-! ## The protocol of a call -/

/-- How far a call is with its lock, and the operation that it has begun. -/
structure ActorRole where
  phase : LockTable.Phase String
  operation : Option BackendRun

inductive ActorMove (thread : Nat) : ActorRole -> AcpState -> ActorRole -> AcpState -> Prop where
  | lock {phase later : LockTable.Phase String} {before after : AcpState}
      (moves : LockTable.Move phase before.actors later after.actors)
      (running : after.running = before.running) :
      ActorMove thread ⟨phase, none⟩ before ⟨later, none⟩ after
  | begins {phase : LockTable.Phase String} {before after : AcpState} {run : BackendRun}
      (own : run.caller = thread)
      (guarded : ∀ key, run.guard = some key -> ∃ lock, phase = .holding key lock)
      (actors : after.actors = before.actors) (running : after.running = before.running ++ [run]) :
      ActorMove thread ⟨phase, none⟩ before ⟨phase, some run⟩ after
  | ends {phase : LockTable.Phase String} {before after : AcpState} {run : BackendRun}
      (actors : after.actors = before.actors)
      (running : after.running = before.running.filter fun other => decide (other ≠ run)) :
      ActorMove thread ⟨phase, some run⟩ before ⟨phase, none⟩ after

/-- How far a call is with its lock and its operation, and whether it is between
the check of the session limit and the storing of its session. -/
structure CallRole extends ActorRole where
  creating : Bool

/-- The call runs no operation and creates no session. -/
def CallRole.resting (phase : LockTable.Phase String) : CallRole :=
  ⟨⟨phase, none⟩, false⟩

def CallRole.create (phase : LockTable.Phase String) : CallRole :=
  ⟨⟨phase, none⟩, true⟩

/-- A statement of a call, by whether the call creates a session before and after
it.  The session may be stored under a key of the backend's choice. -/
inductive CreationMove (thread : Nat) : Bool -> AcpState -> Bool -> AcpState -> Prop where
  | other (creates : Bool) {before after : AcpState} (stored : StoreMove before.store after.store)
      (creating : after.creating = before.creating) :
      CreationMove thread creates before creates after
  | begins {before after : AcpState} (sessionKey : String) (stored : after.store = before.store)
      (creating : after.creating = before.creating ++ [(thread, sessionKey)]) :
      CreationMove thread false before true after
  | ends {before after : AcpState} (stored : StoreMove before.store after.store)
      (creating :
        after.creating = before.creating.filter fun entry => decide (entry.1 ≠ thread)) :
      CreationMove thread true before false after

/-- A statement of a call, on the locks and operations and on the creations. -/
structure CallMove (thread : Nat) (role : CallRole) (before : AcpState) (later : CallRole)
    (after : AcpState) : Prop where
  actor : ActorMove thread role.toActorRole before later.toActorRole after
  creation : CreationMove thread role.creating before later.creating after

/-- A statement that touches neither the locks nor the operations. -/
def Quiet (before after : AcpState) : Prop :=
  after.actors = before.actors /\ after.running = before.running

def Keeps (phase : LockTable.Phase String) {α : Type} (later : CallRole) (_ : Except String α) :
    Prop :=
  later = .resting phase

section Follow

variable {α β : Type} (thread : Nat) (phase : LockTable.Phase String)

/-- The program leaves its call in the phase that it is in. -/
def Stays (program : AcpProgram α) : Prop :=
  program.Follows (CallMove thread) (Keeps phase) (.resting phase)

/-- The program is the rest of a call from this phase on. -/
def Ends (program : AcpProgram α) : Prop :=
  program.Follows (CallMove thread) (fun _ _ => True) (.resting phase)

/-- The program takes its call to the phase of the value it returns. -/
def Leads (reached : α -> LockTable.Phase String) (program : AcpProgram α) : Prop :=
  program.Follows (CallMove thread)
    (fun later result => ∀ value, result = .ok value -> later = .resting (reached value))
    (.resting phase)

variable {thread} {phase : LockTable.Phase String} {reached : α -> LockTable.Phase String}
  {program : AcpProgram α} {rest : α -> AcpProgram β} {before after : AcpState}

/-- A statement that touches neither the locks nor the operations. -/
theorem Quiet.move (quiet : Quiet before after) {creates later : Bool}
    (creation : CreationMove thread creates before later after) :
    CallMove thread ⟨⟨phase, none⟩, creates⟩ before ⟨⟨phase, none⟩, later⟩ after :=
  ⟨.lock (by rw [quiet.1]; exact .rest phase before.actors) quiet.2, creation⟩

/-- A statement on the store and the turns alone moves no call. -/
theorem follows_plain (plain : program.Respects Plain) (creates : Bool) :
    program.Follows (CallMove thread) (fun later _ => later = ⟨⟨phase, none⟩, creates⟩)
      ⟨⟨phase, none⟩, creates⟩ :=
  follows_of_respects (fun _ _ moved => Quiet.move ⟨moved.actors, moved.running⟩
    (.other creates moved.store moved.creating)) plain

theorem stays_plain (plain : program.Respects Plain) : Stays thread phase program :=
  follows_plain plain false

/-- Programs that stay in their phase may be put one after another. -/
theorem stays_bind (first : Stays thread phase program)
    (second : ∀ value, Stays thread phase (rest value)) :
    Stays thread phase (program >>= rest) := by
  refine follows_bind first ?_ fun _ _ kept => kept
  intro later value kept
  rw [kept]
  exact second value

theorem Stays.leads (stays : Stays thread phase program) :
    Leads thread phase (fun _ => phase) program :=
  follows_mono stays fun _ _ kept _ _ => kept

/-- A statement on the actor locks is the move of the lock table that it makes. -/
theorem leads_onActors {perform : AcpMoment -> LockTable String -> α × LockTable String}
    (moves : ∀ moment actors, LockTable.Move phase actors
      (reached (perform moment actors).1) (perform moment actors).2) :
    Leads thread phase reached (onActors perform) := by
  refine follows_atomic fun moment state => ?_
  refine ⟨.resting (reached (perform moment state.actors).1),
    ⟨.lock (moves moment state.actors) rfl, .other false .rest rfl⟩, ?_⟩
  intro value same
  cases same
  rfl

/-- A part of a call, and what comes after it. -/
theorem Leads.bind {suits : CallRole -> Except String β -> Prop}
    (first : Leads thread phase reached program)
    (second : ∀ value, (rest value).Follows (CallMove thread) suits (.resting (reached value)))
    (failing : ∀ later error, suits later (.error error)) :
    (program >>= rest).Follows (CallMove thread) suits (.resting phase) := by
  refine follows_bind first ?_ fun later error _ => failing later error
  intro later value arrived
  rw [arrived value rfl]
  exact second value

theorem Leads.ends (first : Leads thread phase reached program)
    (second : ∀ value, Ends thread (reached value) (rest value)) :
    Ends thread phase (program >>= rest) :=
  first.bind second fun _ _ => True.intro

end Follow

/-! ## Creations -/

section Creation

variable {env : AcpEnvironment} {thread : Nat} {phase : LockTable.Phase String} {α : Type}

/-- The call creates a session if the program succeeds, and otherwise does not. -/
def Creating (phase : LockTable.Phase String) (later : CallRole) : Except String α -> Prop
  | .ok _ => later = .create phase
  | .error _ => later = .resting phase

/-- The answer to a check, which the call passes or not. -/
def Checked (phase : LockTable.Phase String) (passes : α -> Prop) (later : CallRole)
    (answer : Except String α) : Prop :=
  (later = .create phase /\ ∃ value, answer = .ok value /\ passes value) \/
    (later = .resting phase /\ ∀ value, answer = .ok value -> ¬ passes value)

/-- A check that reads the store, and notes that the call passes it. -/
theorem follows_check {sessionKey : String} {check : AcpState -> α} {passes : α -> Prop}
    [DecidablePred passes] :
    (Store.statement fun state => (check state,
        if passes (check state) then beginsCreation thread sessionKey state else state)).Follows
      (CallMove thread) (Checked phase passes) (.resting phase) := by
  refine follows_atomic fun moment state => ?_
  cases moment.storeError with
  | some error =>
    exact ⟨.resting phase, Quiet.move ⟨rfl, rfl⟩ (.other _ .rest rfl),
      .inr ⟨rfl, fun value impossible => by cases impossible⟩⟩
  | none =>
    dsimp only
    by_cases passed : passes (check state)
    · rw [if_pos passed]
      have quiet : Quiet state (beginsCreation thread sessionKey state) := ⟨rfl, rfl⟩
      exact ⟨.create phase, quiet.move (.begins sessionKey rfl rfl), .inl ⟨rfl, _, rfl, passed⟩⟩
    · rw [if_neg passed]
      refine ⟨.resting phase, Quiet.move ⟨rfl, rfl⟩ (.other _ .rest rfl), .inr ⟨rfl, ?_⟩⟩
      intro value same
      cases same
      exact passed

/-- Whichever of the two checks lets the call pass, the creation begins there. -/
theorem follows_enforceMaxConcurrentSessions {sessionKey : String} :
    (enforceMaxConcurrentSessions env thread sessionKey).Follows (CallMove thread)
      (Creating phase) (.resting phase) := by
  have stored : (requestedIsStored thread sessionKey).Follows (CallMove thread)
      (Checked phase fun present => present = true) (.resting phase) := by
    have checks : requestedIsStored thread sessionKey = Store.statement fun state =>
        (contains sessionKey state.store, if contains sessionKey state.store = true then
          beginsCreation thread sessionKey state else state) := by
      unfold requestedIsStored
      congr 1
      funext state
      cases contains sessionKey state.store <;> rfl
    rw [checks]
    exact follows_check
  refine follows_bind stored ?_ ?_
  · rintro later present (⟨rfl, _, ⟨⟩, rfl⟩ | ⟨rfl, absent⟩)
    · exact follows_pure rfl
    · rw [if_neg (absent present rfl)]
      have counts : (countSessions env thread sessionKey).Follows (CallMove thread)
          (Checked phase fun current => current < env.config.resolvedMaxConcurrentSessions)
          (.resting phase) := follows_check
      refine follows_bind counts ?_ ?_
      · rintro later current (⟨rfl, _, ⟨⟩, room⟩ | ⟨rfl, full⟩)
        · rw [if_neg (Nat.not_le_of_lt room)]
          exact follows_pure rfl
        · rw [if_pos (Nat.le_of_not_lt (full current rfl))]
          exact follows_fail rfl
      · rintro later error (⟨_, _, ⟨⟩, _⟩ | ⟨rfl, _⟩)
        rfl
  · rintro later error (⟨_, _, ⟨⟩, _⟩ | ⟨rfl, _⟩)
    rfl

/-- A call that passes the check asks the backend and stores the session, and is
then done with the creation, however that went. -/
theorem stays_createSession (bootstrap : AcpSessionBootstrap) :
    Stays thread phase (createSession env thread bootstrap) := by
  have ends : ∀ before after, Quiet before after -> StoreMove before.store after.store ->
      (after.creating = before.creating.filter fun entry => decide (entry.1 ≠ thread)) ->
      CallMove thread (.create phase) before (.resting phase) after :=
    fun _ _ quiet stored creating => Quiet.move quiet (.ends stored creating)
  refine follows_bind follows_enforceMaxConcurrentSessions ?_ fun _ _ failed => failed
  rintro _ _ rfl
  cases env.resolveAcpBackend env.selectedBackendId with
  | error error =>
    have abandons : (abandonCreation thread).Follows (CallMove thread) (Keeps phase)
        (.create phase) := follows_atomic fun _ _ => ⟨_, ends _ _ ⟨rfl, rfl⟩ .rest rfl, rfl⟩
    refine follows_bind abandons ?_ fun _ _ kept => kept
    rintro _ _ rfl
    exact follows_fail rfl
  | ok =>
    have ensures : (backendEnsureSession thread).Follows (CallMove thread) (Creating phase)
        (.create phase) := by
      refine follows_atomic fun moment state => ?_
      cases moment.failure with
      | some error => exact ⟨_, ends _ _ ⟨rfl, rfl⟩ .rest rfl, rfl⟩
      | none => exact ⟨_, Quiet.move ⟨rfl, rfl⟩ (.other true .rest rfl), rfl⟩
    have ticks : nowMs.Follows (CallMove thread) (Creating phase) (.create phase) :=
      follows_atomic fun _ _ => ⟨_, Quiet.move ⟨rfl, rfl⟩ (.other true .rest rfl), rfl⟩
    have stores : ∀ metadata, (storeCreated thread metadata).Follows (CallMove thread)
        (Keeps phase) (.create phase) := by
      intro metadata
      refine follows_atomic fun moment state => ?_
      cases moment.storeError with
      | some error => exact ⟨_, ends _ _ ⟨rfl, rfl⟩ .rest rfl, rfl⟩
      | none => exact ⟨_, ends _ _ ⟨rfl, rfl⟩ (.upsert metadata) rfl, rfl⟩
    refine follows_bind ensures ?_ fun _ _ failed => failed
    rintro _ handle rfl
    refine follows_bind ticks ?_ fun _ _ failed => failed
    rintro _ now rfl
    refine follows_bind (stores _) ?_ fun _ _ kept => kept
    rintro _ _ rfl
    exact follows_pure rfl

end Creation

/-! ## Calls follow the protocol -/

section Protocol

variable {env : AcpEnvironment} {thread : Nat} {phase : LockTable.Phase String} {α : Type}

/-- An operation begins and ends within its phase, under its own guard. -/
theorem stays_backendOperation {run : BackendRun} (own : run.caller = thread)
    (guarded : ∀ key, run.guard = some key -> ∃ lock, phase = .holding key lock) :
    Stays thread phase (backendOperation run) := by
  have begins : (beginOperation run).Follows (CallMove thread)
      (fun later result => later = ⟨⟨phase, some run⟩, false⟩ /\ result = .ok ())
      (.resting phase) :=
    follows_atomic fun _ _ =>
      ⟨⟨⟨phase, some run⟩, false⟩, ⟨.begins own guarded rfl rfl, .other false .rest rfl⟩, rfl, rfl⟩
  refine follows_bind begins ?_ ?_
  · intro later _ reached
    rw [reached.1]
    exact follows_atomic fun _ _ => ⟨.resting phase, ⟨.ends rfl rfl, .other false .rest rfl⟩, rfl⟩
  · intro later error reached
    cases reached.2

variable {sessionKey : String}

/-- An operation that is guarded by the key whose lock the call holds. -/
theorem stays_guardedOperation {actorKey : String} {lock : Nat} {operation : BackendOperation} :
    Stays thread (.holding actorKey lock) (backendOperation
      { caller := thread, operation, sessionKey, guard := some actorKey }) := by
  refine stays_backendOperation rfl ?_
  intro key guarded
  cases guarded
  exact ⟨lock, rfl⟩

/-- Idle clean-up closes sessions on the backend without a guard. -/
theorem stays_cleanupIdleSessions : Stays thread phase (cleanupIdleSessions env thread) := by
  have evicts : ∀ metadata, Stays thread phase (evictSession env thread metadata) := by
    intro metadata
    refine stays_bind ?_ fun _ => stays_plain
      (respects_map (respects_caught respects_remove))
    unfold closeIdle
    split
    · exact follows_pure rfl
    · refine stays_bind (stays_backendOperation rfl ?_) fun _ => follows_pure rfl
      intro key guarded
      cases guarded
  have listed : ∀ now sessions, Stays thread phase (cleanupListed env thread now sessions) := by
    intro now sessions
    induction sessions with
    | nil => exact follows_pure rfl
    | cons metadata rest ih =>
      refine stays_bind (stays_plain respects_isIdle) fun idle => ?_
      split
      · exact stays_bind (evicts metadata) fun _ => ih
      · exact ih
  exact stays_bind (stays_plain respects_nowMs) fun now =>
    stays_bind (stays_plain respects_list) fun sessions => listed now sessions

variable {bootstrap : AcpSessionBootstrap}

theorem stays_ensureSession :
    Stays thread phase (ensureSession env thread bootstrap) := by
  refine stays_bind stays_cleanupIdleSessions fun _ =>
    stays_bind (stays_plain (respects_resolveExistingSession _)) fun existing => ?_
  cases existing with
  | some existing => exact follows_pure rfl
  | none => exact stays_createSession bootstrap

/-! ### Guards -/

variable (actorKey : String)

/-- The call has the lock of the key, if it has got a guard. -/
def Guarded (later : CallRole) : Except String SessionActorGuard -> Prop
  | .ok guard => later = .resting (.holding actorKey guard.lock) /\ guard.actorKey = actorKey
  | .error _ => True

theorem leads_incrementActorRefCount :
    Leads thread .outside (fun _ => .referenced actorKey) (incrementActorRefCount actorKey) :=
  leads_onActors fun _ actors => .reference actorKey actors

/-- The call that gets the lock holds it.  One that stops waiting fails. -/
theorem leads_lockOwned {lock polls : Nat} :
    Leads thread (.assigned actorKey lock) (fun _ => .holding actorKey lock)
      (lockOwned lock polls) := by
  induction polls with
  | zero => exact follows_fail fun _ impossible => by cases impossible
  | succ polls ih =>
    refine follows_step_iff.mpr fun _ state => ?_
    by_cases taken : lock ∈ state.actors.held
    · simp only [if_pos taken]
      exact ⟨.resting (.assigned actorKey lock),
        ⟨.lock (.rest _ _) rfl, .other false .rest rfl⟩, ih⟩
    · simp only [if_neg taken]
      exact ⟨.resting (.holding actorKey lock),
        ⟨.lock (.acquire actorKey taken) rfl, .other false .rest rfl⟩, follows_pure fun _ _ => rfl⟩

/-- The rest of taking a guard, once a reference is counted. -/
theorem follows_takeLock {countPendingTurn : Bool} : (do
      let (lock, polls) <- getOrInsertSessionActor actorKey
      lockOwned lock polls
      return ({ actorKey := actorKey, lock := lock, countPendingTurn := countPendingTurn } :
        SessionActorGuard) : AcpProgram SessionActorGuard).Follows (CallMove thread)
      (Guarded actorKey) (.resting (.referenced actorKey)) := by
  have assigns : Leads thread (.referenced actorKey)
      (fun value => .assigned actorKey value.1) (getOrInsertSessionActor actorKey) :=
    leads_onActors fun _ actors => .assign actorKey actors
  refine assigns.bind ?_ fun _ _ => True.intro
  intro value
  refine (leads_lockOwned actorKey).bind ?_ fun _ _ => True.intro
  exact fun _ => follows_pure ⟨rfl, rfl⟩

theorem follows_acquireSessionActorGuard :
    (acquireSessionActorGuard actorKey).Follows (CallMove thread) (Guarded actorKey)
      (.resting .outside) :=
  (leads_incrementActorRefCount actorKey).bind
    (fun _ => follows_takeLock actorKey) fun _ _ => True.intro

theorem follows_acquireTurnQueueGuard :
    (acquireTurnQueueGuard actorKey).Follows (CallMove thread) (Guarded actorKey)
      (.resting .outside) := by
  refine (leads_incrementActorRefCount actorKey).bind ?_ fun _ _ => True.intro
  intro _
  exact (stays_plain respects_incrementPendingTurn).leads.bind
    (fun _ => follows_takeLock actorKey) fun _ _ => True.intro

/-- A dropped guard releases the lock, its reference and then the actor. -/
theorem ends_dropGuard {guard : SessionActorGuard} :
    Ends thread (.holding guard.actorKey guard.lock) (dropGuard guard) := by
  have releases : Leads thread (.holding guard.actorKey guard.lock)
      (fun _ => .released guard.actorKey) (releaseActor guard.lock) :=
    leads_onActors fun _ actors => .release _ _ actors
  have dereferences : Leads thread (.released guard.actorKey)
      (fun _ => .leaving guard.actorKey) (decrementActorRefCount guard.actorKey) :=
    leads_onActors fun _ actors => .dereference _ actors
  have discards : Leads thread (.leaving guard.actorKey) (fun _ => .outside)
      (removeSessionActor guard.actorKey) :=
    leads_onActors fun _ actors => .discard _ actors
  refine releases.ends fun _ =>
    (stays_plain respects_dropPendingTurn).leads.ends fun _ =>
    dereferences.ends fun _ =>
    (stays_plain respects_hasNoReference).leads.ends fun unreferenced => ?_
  cases unreferenced with
  | false => exact follows_pure True.intro
  | true => exact follows_mono discards fun _ _ _ => True.intro

/-- A body that keeps the lock, in the scope of its guard. -/
theorem ends_withGuard {guard : SessionActorGuard} {body : AcpProgram α}
    (stays : Stays thread (.holding guard.actorKey guard.lock) body) :
    Ends thread (.holding guard.actorKey guard.lock) (withGuard guard body) := by
  have caught : Stays thread (.holding guard.actorKey guard.lock)
      (body.caught : AcpProgram (Except String α)) :=
    follows_caught stays
  refine caught.leads.ends fun result => ?_
  refine follows_bind ends_dropGuard ?_ fun _ _ _ => True.intro
  intro later _ _
  exact follows_lift True.intro

/-- A call that gets a guard and does the rest in its scope. -/
theorem ends_guarded {actorKey : String} {acquire : AcpProgram SessionActorGuard}
    {body : SessionActorGuard -> AcpProgram α}
    (acquires : acquire.Follows (CallMove thread) (Guarded actorKey) (.resting .outside))
    (stays : ∀ guard lock, Stays thread (.holding actorKey lock) (body guard)) :
    Ends thread .outside (acquire >>= fun guard => withGuard guard (body guard)) := by
  refine follows_bind acquires ?_ fun _ _ _ => True.intro
  rintro later guard ⟨reached, named⟩
  rw [reached]
  subst named
  exact ends_withGuard (stays guard guard.lock)

/-! ### Calls -/

/-- A turn holds the actor key of its bootstrap from before the session is found. -/
theorem ends_runTurn :
    Ends thread .outside (runTurn env thread bootstrap) := by
  refine ends_guarded (follows_acquireTurnQueueGuard _) fun guard lock => ?_
  refine stays_bind stays_cleanupIdleSessions fun _ =>
    stays_bind stays_ensureSession fun metadata =>
    stays_bind (follows_lift rfl) fun _ =>
    stays_bind (stays_plain respects_nowMs) fun _ =>
    stays_bind (stays_plain respects_upsert) fun _ =>
    stays_bind (stays_plain respects_registerActiveTurn) fun _ =>
    stays_bind stays_guardedOperation fun result =>
    stays_bind (stays_plain respects_clearActiveTurn) fun _ => ?_
  cases result with
  | ok state =>
    exact stays_plain (respects_bind respects_nowMs fun _ =>
      respects_map respects_upsert)
  | error error =>
    exact stays_plain (respects_bind respects_storeFailure fun _ => respects_fail error)

/-- A mode or an option is set under the actor key of the stored session. -/
theorem ends_guardedOperation {operation : BackendOperation}
    {succeeded : AcpSessionMetadata -> AcpSessionMetadata} :
    Ends thread .outside (guardedOperation env thread operation sessionKey succeeded) := by
  refine (stays_plain respects_registeredSession).leads.ends fun registered =>
    ends_guarded (follows_acquireSessionActorGuard _) fun guard lock => ?_
  refine stays_bind stays_cleanupIdleSessions fun _ =>
    stays_bind (stays_plain respects_registeredSession) fun metadata =>
    stays_bind (follows_lift rfl) fun _ =>
    stays_bind stays_guardedOperation fun result => ?_
  cases result with
  | ok state => exact stays_plain (respects_bind respects_nowMs fun _ => respects_upsert)
  | error error =>
    exact stays_plain (respects_bind respects_storeFailure fun _ => respects_fail error)

/-- A close cancels the running turn first and then waits for its lock. -/
theorem ends_close : Ends thread .outside (close env thread sessionKey) := by
  refine (stays_plain respects_registeredSession).leads.ends fun registered =>
    (stays_plain respects_cancelActiveTurn).leads.ends fun _ =>
    ends_guarded (follows_acquireSessionActorGuard _) fun guard lock => ?_
  refine stays_bind stays_cleanupIdleSessions fun _ =>
    stays_bind (stays_plain respects_registeredSession) fun metadata =>
    stays_bind (follows_lift rfl) fun _ =>
    stays_bind stays_guardedOperation fun result => ?_
  cases result with
  | ok state =>
    exact stays_plain (respects_bind respects_clearActiveTurn fun _ => respects_remove)
  | error error => exact follows_fail rfl

/-- Every call of the manager is made of these moves. -/
theorem ends_call {call : AcpCall} : Ends thread .outside (call.program env thread) := by
  cases call with
  | ensureSession bootstrap =>
    exact stays_ensureSession.leads.ends fun _ => follows_pure True.intro
  | runTurn bootstrap =>
    refine follows_bind ends_runTurn ?_ fun _ _ _ => True.intro
    exact fun _ _ _ => follows_pure True.intro
  | setMode | setConfigOption => exact ends_guardedOperation
  | close sessionKey => exact ends_close
  | cleanupIdleSessions =>
    exact follows_mono stays_cleanupIdleSessions fun _ _ _ => True.intro

end Protocol

/-- What each step of a run keeps, as far as the condition on the steps holds. -/
theorem trace_of_calls (env : AcpEnvironment) (store : OrderedMap String AcpSessionMetadata)
    (calls : Nat -> AcpCall) {schedule : List (Nat × AcpMoment)}
    {condition : Transition Nat AcpState -> Prop}
    {invariant : (Nat -> CallRole) -> AcpState -> Prop}
    (initially : invariant (fun _ => .resting .outside) (managerPool env store calls).shared)
    (preserved : ∀ roles state thread later after, invariant roles state ->
      CallMove thread (roles thread) state later after -> condition ⟨thread, state, after⟩ ->
        invariant (Function.update roles thread later) after)
    (holds : ∀ transition, transition ∈ (managerPool env store calls).trace schedule ->
      condition transition) :
    ∀ transition, transition ∈ (managerPool env store calls).trace schedule ->
      ∃ roles, invariant roles transition.after := by
  have follow : (managerPool env store calls).Follow CallMove fun _ => .resting .outside :=
    fun thread => ends_call
  exact Pool.trace_of_condition preserved follow initially holds

end LoongClaw.Acp
