import LoongClaw.Acp.Calls

namespace LoongClaw.Acp

open Foundation Program Function OrderedMap

/-!
# Exclusion of backend operations

A call begins a backend operation on a session while it holds the lock of an
actor key, or during idle clean-up without one.  Each call follows the protocol
of the lock table, and so operations that are guarded by one key exclude each
other, as long as no entry of the table is discarded while it is referenced.

That is not enough for one session.  A turn takes the key that its bootstrap
gives, which may be another one than that of the stored session, clean-up closes
a session under no key, and the key of a stored session changes when a call binds
it to a route or a conversation.
-/

/-- No two backend operations on one session run at the same time. -/
def Exclusive (state : AcpState) : Prop :=
  state.running.Pairwise fun first second => first.sessionKey ≠ second.sessionKey

instance : DecidablePred Exclusive := fun state =>
  inferInstanceAs (Decidable
    (state.running.Pairwise fun first second => first.sessionKey ≠ second.sessionKey))

/-- The actor key of a session as it is stored. -/
def storedActorKey (state : AcpState) (sessionKey : String) : Option String :=
  (lookup sessionKey state.store).map actorKeyForMetadata

/-! ## Exclusion along a run -/

/-- What is asked of a step, by what it does.  It discards no lock entry that is
referenced: dropping a guard does not race with a new reference.  It begins an
operation on a stored session under the actor key of that session: not under
another key from a bootstrap, and not under none, as idle clean-up does.  It leaves
the actor key of a session alone while an operation runs on it.  Nothing is asked
of two operations at once. -/
structure Orderly (transition : Transition Nat AcpState) : Prop where
  keepsReferenced : LockTable.KeepsReferenced transition.before.actors transition.after.actors
  ownKey : ∀ run, run ∈ transition.after.running -> run ∉ transition.before.running ->
    ∃ key, storedActorKey transition.before run.sessionKey = some key /\ run.guard = some key
  stableKey : ∀ run, run ∈ transition.after.running ->
    storedActorKey transition.after run.sessionKey =
      storedActorKey transition.before run.sessionKey

/-- What holds of the roles of the calls and the state, as long as steps are
orderly. -/
structure ActorInvariant (roles : Nat -> ActorRole) (state : AcpState) : Prop where
  locks : LockTable.Invariant (fun thread => (roles thread).phase) state.actors
  running : ∀ run, run ∈ state.running -> (roles run.caller).operation = some run
  guarded : ∀ thread run key, (roles thread).operation = some run -> run.guard = some key ->
    ∃ lock, (roles thread).phase = .holding key lock
  keyed : ∀ run, run ∈ state.running ->
    ∃ key, storedActorKey state run.sessionKey = some key /\ run.guard = some key
  exclusive : Exclusive state

section Run

variable {roles : Nat -> ActorRole} {state after : AcpState} {thread : Nat} {later : ActorRole}

theorem phases_update {roles : Nat -> ActorRole} {thread : Nat} {later : ActorRole} :
    (fun other => (update roles thread later other).phase) =
      update (fun other => (roles other).phase) thread later.phase :=
  comp_update ActorRole.phase roles thread later

namespace ActorInvariant

variable {phase : LockTable.Phase String} {run : BackendRun}
  (invariant : ActorInvariant roles state)

include invariant

theorem phases (same : (roles thread).phase = phase) (actors : after.actors = state.actors)
    (operation : Option BackendRun) :
    LockTable.Invariant (fun other => (update roles thread ⟨phase, operation⟩ other).phase)
      after.actors := by
  rw [phases_update, actors, <- same]
  have unchanged : update (fun other => (roles other).phase) thread (roles thread).phase =
      fun other => (roles other).phase := update_eq_self thread _
  rw [unchanged]
  exact invariant.locks

/-- The operations of the other calls are as they were. -/
theorem others (member : run ∈ state.running) (foreign : (roles thread).operation ≠ some run)
    (later : ActorRole) : (update roles thread later run.caller).operation = some run := by
  have own := invariant.running run member
  have different : run.caller ≠ thread := by
    intro same
    rw [same] at own
    exact foreign own
  rw [update_of_ne different]
  exact own

/-- The other calls hold the locks that guard their operations, as before. -/
theorem guards
    (own : ∀ run key, later.operation = some run -> run.guard = some key ->
      ∃ lock, later.phase = .holding key lock) :
    ∀ other run key, (update roles thread later other).operation = some run ->
      run.guard = some key ->
      ∃ lock, (update roles thread later other).phase = .holding key lock := by
  intro other run key has guarded
  by_cases mover : other = thread
  · rw [mover, update_self] at has ⊢
    exact own run key has guarded
  · rw [update_of_ne mover] at has ⊢
    exact invariant.guarded other run key has guarded

variable (orderly : Orderly ⟨thread, state, after⟩)

include orderly

/-- Operations that run are guarded by the actor keys of their sessions. -/
theorem keys (run : BackendRun) (member : run ∈ after.running) :
    ∃ key, storedActorKey after run.sessionKey = some key /\ run.guard = some key := by
  have stable : storedActorKey after run.sessionKey = storedActorKey state run.sessionKey :=
    orderly.stableKey run member
  rw [stable]
  by_cases old : run ∈ state.running
  · exact invariant.keyed run old
  · exact orderly.ownKey run member old

/-- A move of the lock table starts no operation and ends none. -/
theorem step_lock (reached : roles thread = ⟨phase, none⟩) {next : LockTable.Phase String}
    (moves : LockTable.Move phase state.actors next after.actors)
    (running : after.running = state.running) :
    ActorInvariant (update roles thread ⟨next, none⟩) after := by
  have idle : ∀ run, (roles thread).operation ≠ some run := by
    intro run has
    rw [reached] at has
    cases has
  refine ⟨?_, ?_, ?_, invariant.keys orderly, ?_⟩
  · rw [phases_update]
    refine invariant.locks.move ?_ orderly.keepsReferenced
    rw [reached]
    exact moves
  · intro run member
    rw [running] at member
    exact invariant.others member (idle run) _
  · refine invariant.guards ?_
    intro run key has
    cases has
  · unfold Exclusive
    rw [running]
    exact invariant.exclusive

/-- An operation that begins finds no other one on its session: both would be
guarded by the actor key of the stored session, and its lock has one holder. -/
theorem step_begins (reached : roles thread = ⟨phase, none⟩) (own : run.caller = thread)
    (guarded : ∀ key, run.guard = some key -> ∃ lock, phase = .holding key lock)
    (actors : after.actors = state.actors) (running : after.running = state.running ++ [run]) :
    ActorInvariant (update roles thread ⟨phase, some run⟩) after := by
  have idle : ∀ other, (roles thread).operation ≠ some other := by
    intro other has
    rw [reached] at has
    cases has
  have phaseOf : (roles thread).phase = phase := by rw [reached]
  refine ⟨invariant.phases phaseOf actors _, ?_, ?_, invariant.keys orderly, ?_⟩
  · rw [running]
    refine List.forall_mem_append.mpr ⟨?_, List.forall_mem_singleton.mpr ?_⟩
    · exact fun other old => invariant.others old (idle other) _
    · rw [own, update_self]
  · refine invariant.guards ?_
    intro other key has
    cases has
    exact guarded key
  · unfold Exclusive
    rw [running]
    refine List.pairwise_append.mpr ⟨invariant.exclusive, List.pairwise_singleton _ _, ?_⟩
    intro other member new isNew sameSession
    cases List.mem_singleton.mp isNew
    have fresh : run ∉ state.running := by
      intro old
      have has := invariant.running run old
      rw [own] at has
      exact idle run has
    have listed : run ∈ after.running := by
      rw [running]
      exact List.mem_append_right _ List.mem_cons_self
    rcases orderly.ownKey run listed fresh with ⟨key, stored, ofRun⟩
    rcases invariant.keyed other member with ⟨otherKey, otherStored, ofOther⟩
    have stored : storedActorKey state run.sessionKey = some key := stored
    rw [sameSession, stored] at otherStored
    cases otherStored
    rcases guarded key ofRun with ⟨lock, holds⟩
    have otherRuns := invariant.running other member
    rcases invariant.guarded other.caller other key otherRuns ofOther with ⟨_, alsoHolds⟩
    have one := invariant.locks.holder_unique alsoHolds (phaseOf.trans holds)
    rw [one] at otherRuns
    exact idle other otherRuns

/-- An operation that ends leaves the others as they were. -/
theorem step_ends (reached : roles thread = ⟨phase, some run⟩)
    (actors : after.actors = state.actors)
    (running : after.running = state.running.filter fun other => decide (other ≠ run)) :
    ActorInvariant (update roles thread ⟨phase, none⟩) after := by
  have phaseOf : (roles thread).phase = phase := by rw [reached]
  refine ⟨invariant.phases phaseOf actors _, ?_, ?_, invariant.keys orderly, ?_⟩
  · intro other member
    rw [running] at member
    rcases List.mem_filter.mp member with ⟨old, different⟩
    refine invariant.others old ?_ _
    rw [reached]
    intro same
    exact of_decide_eq_true different (Option.some.inj same).symm
  · refine invariant.guards ?_
    intro other key has
    cases has
  · unfold Exclusive
    rw [running]
    exact List.Pairwise.filter _ invariant.exclusive

/-- Every orderly step of a call keeps the invariant. -/
theorem step (move : ActorMove thread (roles thread) state later after) :
    ActorInvariant (update roles thread later) after := by
  generalize reached : roles thread = role at move
  cases move with
  | lock moves running => exact invariant.step_lock orderly reached moves running
  | begins own guarded actors running =>
    exact invariant.step_begins orderly reached own guarded actors running
  | ends actors running => exact invariant.step_ends orderly reached actors running

end ActorInvariant

/-- In every run whose steps are orderly, no two backend operations on one session
run at the same time. -/
theorem orderly_run_exclusive (env : AcpEnvironment)
    (store : OrderedMap String AcpSessionMetadata) (calls : Nat -> AcpCall)
    (schedule : List (Nat × AcpMoment))
    (orderly : ∀ transition, transition ∈ (managerPool env store calls).trace schedule ->
      Orderly transition) :
    ∀ transition, transition ∈ (managerPool env store calls).trace schedule ->
      Exclusive transition.after := by
  let actors (roles : Nat -> CallRole) (thread : Nat) : ActorRole := (roles thread).toActorRole
  have initially : ActorInvariant (actors fun _ => .resting .outside)
      (managerPool env store calls).shared := by
    refine ⟨LockTable.invariant_empty fun _ => rfl, ?_, ?_, ?_, List.Pairwise.nil⟩
    · intro run member
      cases member
    · intro thread run key has
      cases has
    · intro run member
      cases member
  have preserved : ∀ roles state thread later after, ActorInvariant (actors roles) state ->
      CallMove thread (roles thread) state later after -> Orderly ⟨thread, state, after⟩ ->
        ActorInvariant (actors (update roles thread later)) after := by
    intro roles state thread later after invariant move ordered
    have moved : actors (update roles thread later) =
        update (actors roles) thread later.toActorRole :=
      comp_update CallRole.toActorRole roles thread later
    rw [moved]
    exact invariant.step ordered move.actor
  intro transition member
  rcases trace_of_calls env store calls initially preserved orderly transition member with
    ⟨_, invariant⟩
  exact invariant.exclusive

end Run

/-! ## A session with two actor keys -/

namespace RouteSample

def env : AcpEnvironment where
  config := { bindingsEnabled := true, maxConcurrentSessions := none, sessionIdleTtlMs := none }
  selectedBackendId := "acpx"
  resolveAcpBackend _ := .ok ()

def route : AcpSessionBindingScope where
  routeSessionId := "feishu:prod:oc_1"
  channelId := none
  accountId := none
  conversationId := none
  threadId := none

/-- A session that a channel route is bound to. -/
def session : AcpSessionMetadata where
  sessionKey := "agent:codex"
  conversationId := none
  binding := some route
  activationOrigin := none
  backendId := "acpx"
  runtimeSessionName := "runtime"
  workingDirectory := none
  backendSessionId := none
  agentSessionId := none
  mode := none
  state := .ready
  lastActivityMs := 0
  lastError := none

/-- Names the session by its key, and by its route if the route is given. -/
def bootstrap (binding : Option AcpSessionBindingScope) : AcpSessionBootstrap where
  sessionKey := "agent:codex"
  conversationId := none
  binding
  mode := none
  metadata := []

def moment : AcpMoment where
  nowMs := 1
  polls := 1
  storeError := none
  failure := none
  handle := session.toHandle
  turnState := .ready

def calls (binding : Option AcpSessionBindingScope) : Nat -> AcpCall
  | 0 => .runTurn (bootstrap binding)
  | _ => .setMode "agent:codex" .review

def pool (binding : Option AcpSessionBindingScope) : Pool Nat AcpMoment AcpState String Unit :=
  managerPool env [("agent:codex", session)] (calls binding)

/-- So many statements of the turn, up to the backend, and then the change of the
mode. -/
def schedule (turn : Nat) : List (Nat × AcpMoment) :=
  List.replicate turn (0, moment) ++ List.replicate 8 (1, moment)

end RouteSample

open RouteSample

theorem keepsReferenced_of_locks {transition : Transition Nat AcpState}
    (kept : transition.before.actors.locks = [] \/
      transition.after.actors.locks = transition.before.actors.locks) :
    LockTable.KeepsReferenced transition.before.actors transition.after.actors := by
  intro key present gone
  rcases kept with none | same
  · rw [none] at present
    exact absurd rfl present
  · rw [same] at gone
    exact absurd gone present

/-- If the bootstrap names the route of the session, then the change of the mode
finds the lock of the turn taken. -/
theorem orderly_run_exclusive_route : ((pool (some route)).run (schedule 17)).shared.running =
        [{ caller := 0, operation := .turn, sessionKey := "agent:codex",
           guard := some "route:feishu:prod:oc_1" }] /\
      ∀ transition, transition ∈ (pool (some route)).trace (schedule 17) ->
        Exclusive transition.after := by
  have steps : ∀ transition, transition ∈ (pool (some route)).trace (schedule 17) ->
      (transition.before.actors.locks = [] \/
        transition.after.actors.locks = transition.before.actors.locks) /\
      ∀ run, run ∈ transition.after.running ->
        storedActorKey transition.before run.sessionKey = some "route:feishu:prod:oc_1" /\
          storedActorKey transition.after run.sessionKey = some "route:feishu:prod:oc_1" /\
          run.guard = some "route:feishu:prod:oc_1" := by
    decide +kernel
  refine ⟨by decide +kernel, ?_⟩
  refine orderly_run_exclusive env _ _ (schedule 17) fun transition member => ?_
  rcases steps transition member with ⟨kept, keyed⟩
  refine ⟨keepsReferenced_of_locks kept, fun run listed _ => ?_, fun run listed => ?_⟩
  · exact ⟨_, (keyed run listed).1, (keyed run listed).2.2⟩
  · rw [(keyed run listed).1, (keyed run listed).2.1]

/-- The turn runs under the key of its bootstrap and the change of the mode under
the route of the stored session, so that both run on one session at once. -/
theorem two_keys_for_one_session : ((pool none).run (schedule 21)).shared.running =
        [{ caller := 0, operation := .turn, sessionKey := "agent:codex",
           guard := some "session:agent:codex" },
          { caller := 1, operation := .setMode, sessionKey := "agent:codex",
            guard := some "route:feishu:prod:oc_1" }] /\
      ¬ ∀ transition, transition ∈ (pool none).trace (schedule 21) ->
        Exclusive transition.after := by
  decide +kernel

end LoongClaw.Acp
