import LoongClaw.Conversation.DelegateLimits

namespace LoongClaw.Conversation

open Foundation Contracts Session Tools Program Fallible SessionStore SessionDatabase Text
open SessionDatabase (Quiet HasAncestors Climbs Bounded)

/-!
# Concurrent delegation

A child is counted in the transaction that creates it, so the number of active
children is exact.  Its depth is found before, by a walk of several queries.
That is enough, because the ancestors of a session that calls `delegate` do not
change any more.
-/

/-! ## Depths -/

section Depth

variable {config : DelegateToolConfig} {drawn : String -> Prop}

/-- The walk to the root counts the ancestors of the session, all that it will
ever have. -/
theorem abides_climbLineageDepth {start : String} {rounds : Nat} :
    ∀ (seen : List String) (depth : Nat) (current : String) (database : SessionDatabase),
      database.Stored -> Normalized current -> Climbs database depth start current ->
        (drawn start -> (database.findSession start).isSome) ->
      Abides config drawn
        (fun answer later => Bounded drawn later start answer /\ HasAncestors later answer start)
        (climbLineageDepth rounds seen depth current) database := by
  induction rounds with
  | zero =>
    intro seen depth current database _ _ _ _
    exact abides_fail
  | succ rounds ih =>
    intro seen depth current database stored normalized climbs startKnown
    unfold climbLineageDepth
    split
    · exact abides_fail
    · apply abides_bind abides_loadSession
      rintro loaded later ⟨read, toRead, toLater, found⟩
      rw [normalized.1] at found
      have seenRead := toRead.1 stored
      have climbsRead := climbs.mono seenRead stored
      cases loaded with
      | none =>
        change Abides _ _ _ (if _ then _ else _ : SessionProgram Nat) _
        split
        case isTrue first =>
          subst first
          cases climbs
          have notDrawn : ¬ drawn start := by
            intro isDrawn
            have present := seenRead.findSession_isSome stored (startKnown isDrawn)
            rw [found] at present
            cases present
          have bounded : Bounded drawn read start 0 :=
            bounded_of_missing seenRead.stored found notDrawn
          exact abides_pure fun last toLast =>
            ⟨(bounded.later toLater.1).later toLast.1, True.intro⟩
        case isFalse => exact abides_fail
      | some session =>
        dsimp only
        have extended := toLater.1 seenRead.stored
        have climbsLater := climbsRead.mono extended seenRead.stored
        have present : (read.findSession current).isSome := by
          rw [found]
          rfl
        have parent : read.parentOf current = session.parentSessionId := by
          unfold parentOf
          rw [found]
          rfl
        cases linked : session.parentSessionId with
        | none =>
          have bounded : Bounded drawn read start depth :=
            bounded_of_climbs seenRead.stored climbsRead present (parent.trans linked)
          exact abides_pure fun last toLast => ⟨(bounded.later toLater.1).later toLast.1,
            (climbsLater.mono (toLast.1 extended.stored) extended.stored).hasAncestors⟩
        | some ancestor =>
          have member :=
            (findSession_eq_some_iff seenRead.stored.distinct).mp found
          refine ih (current :: seen) (depth + 1) ancestor later extended.stored
            (seenRead.stored.parentsNormalized session member.1 ancestor linked)
            ((climbsRead.snoc (parent.trans linked)).mono extended seenRead.stored) ?_
          intro isDrawn
          exact extended.findSession_isSome seenRead.stored
            (seenRead.findSession_isSome stored (startKnown isDrawn))

theorem abides_sessionLineageDepth (rounds : Nat) {sessionId : String}
    {database : SessionDatabase} (stored : database.Stored)
    (known : drawn (trim sessionId) -> (database.findSession (trim sessionId)).isSome) :
    Abides config drawn (fun depth later => Bounded drawn later (trim sessionId) depth /\
        HasAncestors later depth (trim sessionId))
      (sessionLineageDepth rounds sessionId) database := by
  unfold sessionLineageDepth
  cases accepted : normalizeRequiredText sessionId "session_id" with
  | error error => exact abides_fail
  | ok normalized =>
    have isNormalized := normalized_of_normalizeRequiredText accepted
    rw [eq_trim_of_normalizeRequiredText accepted] at known ⊢
    exact abides_climbLineageDepth [] 0 normalized database stored isNormalized rfl known

end Depth

/-! ## Calls -/

/-- The session of a context has a row, unless it is a root that is not drawn. -/
def Anchored (drawn : String -> Prop) (context : DelegateContext) (database : SessionDatabase) :
    Prop :=
  context.parentSessionId.isSome \/ drawn (trim context.sessionId) ->
    (database.findSession (trim context.sessionId)).isSome

/-- The session of a context may have children. -/
def Admitted (config : DelegateToolConfig) (drawn : String -> Prop) (context : DelegateContext)
    (database : SessionDatabase) : Prop :=
  ∃ depth, depth + 1 <= config.maxDepth /\ Bounded drawn database (trim context.sessionId) depth

section Calls

variable {drawn : String -> Prop} {database : SessionDatabase}

theorem lasting_present (drawn : String -> Prop) (sessionId : String) :
    Lasting drawn fun database => (database.findSession sessionId).isSome :=
  fun _ _ stored present extended => extended.findSession_isSome stored present

theorem lasting_anchored (drawn : String -> Prop) (context : DelegateContext) :
    Lasting drawn (Anchored drawn context) :=
  fun _ _ stored anchored extended rooted => extended.findSession_isSome stored (anchored rooted)

theorem lasting_admitted {config : DelegateToolConfig} {drawn : String -> Prop}
    {context : DelegateContext} :
    Lasting drawn fun database =>
      Anchored drawn context database /\ Admitted config drawn context database := by
  rintro before after stored ⟨anchored, depth, shallow, bounded⟩ extended
  exact ⟨lasting_anchored drawn context before after stored anchored extended,
    depth, shallow, bounded.later fun _ => extended⟩

variable {childSessionId : String}

variable (environment : DelegateEnvironment) {context : DelegateContext}

theorem abides_admitDelegate {payload : Json} (stored : database.Stored)
    (anchored : Anchored drawn context database) :
    Abides environment.config drawn (fun _ later => later.Stored /\ Anchored drawn context later /\
        Admitted environment.config drawn context later)
      (admitDelegate environment context payload) database := by
  have lasting := lasting_anchored drawn context
  apply abides_bind (abides_quiet lasting respects_lift stored anchored)
  rintro request later ⟨stored, anchored⟩
  apply abides_bind (abides_quiet lasting (respects_inspect quiet_refl) stored anchored)
  rintro _ later ⟨stored, anchored⟩
  have next : Abides environment.config drawn
      (fun _ later => Admitted environment.config drawn context later)
      (nextDelegateChildDepthForDelegate environment context) later := by
    apply abides_bind (abides_sessionLineageDepth environment.rounds stored
      fun isDrawn => anchored (Or.inr isDrawn))
    rintro depth after ⟨bounded, _⟩
    split
    case isTrue => exact abides_fail
    case isFalse shallow =>
      exact abides_pure fun last toLast =>
        ⟨depth, Nat.le_of_not_lt shallow, bounded.later toLast.1⟩
  apply abides_bind (abides_keeps lasting next stored anchored)
  rintro depth after ⟨admitted, stored, anchored⟩
  exact abides_quiet lasting_admitted (respects_pure _) stored ⟨anchored, admitted⟩

/-- The transaction that counts the children and adds one. -/
theorem abides_createInTx (mode : ConstrainedSubagentMode) (state : SessionState)
    (eventKind : String) {parent : String} (request : DelegateRequest) (nextChildDepth : Nat)
    (accepted : normalizeRequiredText context.sessionId "parent_session_id" = .ok parent)
    (isDrawn : drawn (trim childSessionId)) (stored : database.Stored)
    (anchored : Anchored drawn context database)
    (admitted : Admitted environment.config drawn context database) :
    Abides environment.config drawn
      (fun _ later => later.Stored /\ (later.findSession (trim childSessionId)).isSome)
      (transact (createDelegateChildInTx parent environment.config.maxActiveChildren
        fun activeChildren => .ok (childRequest environment context mode state eventKind
          childSessionId request nextChildDepth activeChildren))) database := by
  refine secures_transact (upholds_interference _ _).refl (fun _ _ _ => nofun) ?_
  rintro before now ⟨event, execution⟩ after toBefore created
  rcases opens_createDelegateChildInTx created with
    ⟨built, session, isBuilt, room, isNormalized, linked, _, opens⟩
  cases isBuilt
  rcases normalizeNewSession_eq_ok_iff.mp isNormalized with
    ⟨sessionId, idAccepted, rfl⟩
  cases eq_trim_of_normalizeRequiredText idAccepted
  have extended := toBefore.1 stored
  rcases lasting_admitted database before stored
    ⟨anchored, admitted⟩ extended with ⟨stillAnchored, depth, shallow, bounded⟩
  have parentKnown : drawn parent -> (before.findSession parent).isSome := by
    rw [<- eq_trim_of_normalizeRequiredText accepted]
    exact fun parentDrawn => stillAnchored (Or.inr parentDrawn)
  rw [eq_trim_of_normalizeRequiredText accepted] at bounded
  have upheld : Upholds environment.config drawn before after :=
    upholds_of_child opens linked isDrawn room bounded shallow parentKnown
  refine ⟨upheld, ?_⟩
  intro later toLater _ _
  have afterStored := (upheld.1 extended.stored).stored
  have present : (after.findSession (trim childSessionId)).isSome :=
    Option.isSome_iff_exists.mpr ⟨_, findSession_opened opens⟩
  have grown := toLater.1 afterStored
  exact ⟨grown.stored, grown.findSession_isSome afterStored present⟩

theorem abides_createChild {mode : ConstrainedSubagentMode} {state : SessionState}
    {eventKind : String} {request : DelegateRequest} {nextChildDepth : Nat}
    (isDrawn : drawn (trim childSessionId)) (stored : database.Stored)
    (anchored : Anchored drawn context database)
    (admitted : Admitted environment.config drawn context database) :
    Abides environment.config drawn
      (fun _ later => later.Stored /\ (later.findSession (trim childSessionId)).isSome)
      (createChild environment context mode state eventKind childSessionId request
        nextChildDepth) database := by
  have lasting := lasting_present drawn (trim childSessionId)
  unfold createChild createDelegateChildSessionWithEventIfWithinLimit
  cases accepted : normalizeRequiredText context.sessionId "parent_session_id" with
  | error error => exact abides_fail
  | ok parent =>
    have created := abides_createInTx environment mode state eventKind request
      nextChildDepth accepted isDrawn stored anchored admitted
    apply abides_bind
    · apply abides_bind created
      rintro ⟨event, execution⟩ later ⟨stored, present⟩
      exact abides_quiet lasting (respects_reload quiet_refl
          fun _ => respects_pure _) stored present
    · rintro ⟨_, execution⟩ later ⟨stored, present⟩
      exact abides_quiet lasting (respects_pure _) stored present

end Calls

/-! ## Child turns -/

section Turns

variable {drawn : String -> Prop} {database : SessionDatabase} {known : SessionDatabase -> Prop}
  {config : DelegateToolConfig}

theorem abides_withPrepared {α : Type} {kernelBound : Bool}
    {work : SessionProgram α} (lasting : Lasting drawn known)
    (abides : ∀ later, later.Stored -> known later ->
      Abides config drawn (fun _ _ => True) work later)
    (stored : database.Stored) (holds : known database) :
    Abides config drawn (fun _ _ => True)
      (withPreparedSubagentSpawnCleanupIfKernelBound kernelBound work) database := by
  have hook := respects_callHook quiet_refl kernelBound
  apply abides_bind (abides_quiet lasting hook stored holds)
  rintro _ later ⟨stored, holds⟩
  apply abides_bind (abides_caught (abides later stored holds))
  intro workResult later _
  apply abides_of_quiet
  exact respects_bind (respects_caught hook) fun _ => respects_lift

variable {turn : SessionProgram String} {childSessionId : String}

theorem abides_runStarted {childSessionId parentSessionId : String}
    {label : Option String} {execution : ConstrainedSubagentExecution}
    (lasting : Lasting drawn known) (abides : ∀ later, later.Stored -> known later ->
      Abides config drawn (fun _ _ => True) turn later) (stored : database.Stored)
    (holds : known database) :
    Abides config drawn (fun _ _ => True)
      (runStartedDelegateChildTurnWithRuntime childSessionId parentSessionId label execution
        turn) database := by
  have reflexive := quiet_refl
  apply abides_bind (abides_quiet lasting (respects_inspect reflexive) stored holds)
  rintro _ later ⟨stored, holds⟩
  apply abides_bind (abides_cutOff (abides later stored holds))
  intro childResult later _
  apply abides_of_quiet
  apply respects_bind (respects_atomic fun _ database => reflexive database)
  intro durationMs
  apply respects_bind respects_childEnd
  intro ended
  exact respects_map respects_finalizeDelegateChild

section

variable (environment : DelegateEnvironment) {context : DelegateContext} (payload : Json)
  (isDrawn : drawn (trim childSessionId))

include environment context payload isDrawn

theorem abides_executeDelegateTool
    (abides : ∀ later, later.Stored -> Anchored drawn (context.child childSessionId) later ->
      Abides environment.config drawn (fun _ _ => True) turn later) (stored : database.Stored)
    (anchored : Anchored drawn context database) :
    Abides environment.config drawn (fun _ _ => True)
      (executeDelegateTool environment context payload childSessionId turn) database := by
  unfold executeDelegateTool
  split
  · exact abides_fail
  · apply abides_bind (abides_admitDelegate environment stored anchored)
    rintro ⟨request, nextChildDepth⟩ later ⟨stored, known⟩
    refine abides_withPrepared lasting_admitted ?_ stored known
    rintro later stored ⟨anchored, admitted⟩
    apply abides_bind (abides_createChild environment isDrawn stored anchored admitted)
    rintro execution later ⟨stored, present⟩
    exact abides_runStarted (lasting_anchored drawn (context.child childSessionId)) abides stored
      fun _ => present

theorem abides_executeDelegateAsyncTool (stored : database.Stored)
    (anchored : Anchored drawn context database) :
    Abides environment.config drawn (fun _ _ => True)
      (executeDelegateAsyncTool environment context payload childSessionId) database := by
  unfold executeDelegateAsyncTool
  split
  · exact abides_fail
  · split
    · exact abides_fail
    · apply abides_bind (abides_admitDelegate environment stored anchored)
      rintro ⟨request, nextChildDepth⟩ later ⟨stored, anchored, admitted⟩
      apply abides_bind (abides_createChild environment isDrawn stored anchored admitted)
      intro _ later _
      exact abides_of_quiet (respects_pure _)

end

/-- The session of a turn is stored as a root, or is there already. -/
theorem abides_ensureSession {context : DelegateContext}
    (stored : database.Stored) (anchored : Anchored drawn context database) :
    Abides config drawn (fun _ _ => True) (ensureSession (contextRecord context)) database := by
  cases parent : context.parentSessionId with
  | none =>
    have creates : (ensureSession (contextRecord context)).Respects (Upholds config drawn) := by
      apply respects_ensureSession (upholds_interference config drawn).refl
      intro now normalized before after accepted opens
      rcases normalizeNewSession_eq_ok_iff.mp accepted with ⟨_, _, rfl⟩
      apply upholds_of_root opens
      · simp [contextRecord, parent, normalizeOptionalText]
      · simp [contextRecord, parent]
    exact secures_mono (secures_of_respects creates database) fun _ _ _ _ _ => True.intro
  | some ancestor =>
    have present := anchored (Or.inl (by rw [parent]; rfl))
    unfold ensureSession
    cases accepted : normalizeRequiredText (contextRecord context).sessionId "session_id" with
    | error error => exact abides_fail
    | ok sessionId =>
      have trimmed : trim sessionId = trim context.sessionId := by
        rw [(normalized_of_normalizeRequiredText accepted).1,
          <- eq_trim_of_normalizeRequiredText accepted]
        rfl
      apply abides_bind abides_loadSession
      rintro existing later ⟨read, toRead, _, found⟩
      have stillPresent := (toRead.1 stored).findSession_isSome stored present
      rw [<- trimmed, found] at stillPresent
      rcases Option.isSome_iff_exists.mp stillPresent with ⟨session, rfl⟩
      exact abides_pure fun _ _ => True.intro

/-- A queued child that was started has a row. -/
theorem abides_transition {request : TransitionSessionWithEventIfCurrentRequest}
    (terminal : request.expectedState.isTerminal = true ->
      request.nextState = request.expectedState) {sessionId : String}
    (stored : database.Stored) :
    Abides config drawn (fun started later => later.Stored /\
        (started.isSome -> (later.findSession (trim sessionId)).isSome))
      (transitionSessionWithEventIfCurrent sessionId request) database := by
  have untouched : Lasting drawn fun _ => True := fun _ _ _ _ _ => True.intro
  unfold transitionSessionWithEventIfCurrent
  cases accepted : normalizeRequiredText sessionId "session_id" with
  | error error => exact abides_fail
  | ok normalized =>
    rw [lift_ok_bind]
    apply abides_bind (abides_quiet untouched respects_lift stored True.intro)
    rintro eventKind later ⟨stored, _⟩
    apply abides_bind (abides_quiet untouched (respects_transitionInTx terminal) stored True.intro)
    rintro transitioned later ⟨stored, _⟩
    cases transitioned with
    | none => exact abides_pure fun last toLast => ⟨(toLast.1 stored).stored, nofun⟩
    | some event =>
      apply abides_bind abides_loadSession
      rintro loaded later ⟨read, toRead, toLater, found⟩
      have readStored := (toRead.1 stored).stored
      rw [(normalized_of_normalizeRequiredText accepted).1,
        <- eq_trim_of_normalizeRequiredText accepted] at found
      cases loaded with
      | none => exact abides_fail
      | some session =>
        have present : (read.findSession (trim sessionId)).isSome := by
          rw [found]
          rfl
        have laterStored := (toLater.1 readStored).stored
        have laterPresent := (toLater.1 readStored).findSession_isSome readStored present
        exact abides_pure fun last toLast => ⟨(toLast.1 laterStored).stored, fun _ =>
          (toLast.1 laterStored).findSession_isSome laterStored laterPresent⟩

section

variable {config : DelegateToolConfig} (request : AsyncDelegateSpawnRequest)
  (abides : ∀ later, later.Stored -> (later.findSession (trim request.childSessionId)).isSome ->
    Abides config drawn (fun _ _ => True) turn later)
  (stored : database.Stored)

include request abides stored

theorem abides_spawn : Abides config drawn (fun _ _ => True) (spawn request turn) database := by
  have untouched : Lasting drawn fun _ => True := fun _ _ _ _ _ => True.intro
  unfold spawn
  split
  · exact abides_fail
  · apply abides_bind (abides_quiet untouched (respects_inspect quiet_refl) stored True.intro)
    rintro _ later ⟨stored, _⟩
    refine abides_withPrepared untouched ?_ stored True.intro
    intro later stored _
    refine abides_bind (abides_transition ?_ stored) ?_
    · exact nofun
    · rintro started later ⟨stored, present⟩
      split
      case isTrue => exact abides_fail
      case isFalse isStarted =>
        apply abides_bind (abides_caught (abides_runStarted
          (lasting_present drawn (trim request.childSessionId)) abides stored
          (present (Option.ne_none_iff_isSome.mp fun missing =>
            isStarted (Option.isNone_iff_eq_none.mpr missing)))))
        intro _ later _
        exact abides_of_quiet (respects_pure ())

theorem abides_spawnAsyncDelegateDetached :
    Abides config drawn (fun _ _ => True) (spawnAsyncDelegateDetached request turn) database := by
  apply abides_bind (abides_cutOff (abides_spawn request abides stored))
  intro spawned later _
  apply abides_of_quiet
  have failure : ∀ error, ((finalizeAsyncDelegateSpawnFailureWithRecovery request
      error).caught >>= fun _ => pure () : SessionProgram Unit).Respects Quiet :=
    fun error => respects_bind (respects_caught respects_finalizeAsyncDelegateSpawnFailure)
      fun _ => respects_pure ()
  match spawned with
  | .inr (.ok ()) => exact respects_pure ()
  | .inr (.error error) => exact failure error
  | .inl message => exact failure _

end

end Turns

/-! ## Tasks -/

/-- A turn may give this id to a child. -/
def Turn.Draws (sessionId : String) : Turn -> Prop
  | .finished _ => False
  | .delegate _ childSessionId child next =>
    trim childSessionId = sessionId \/ child.Draws sessionId \/
      ∃ outcome, (next outcome).Draws sessionId
  | .delegateAsync _ childSessionId next =>
    trim childSessionId = sessionId \/ ∃ outcome, (next outcome).Draws sessionId
  | .sessionTool _ _ next => ∃ outcome, (next outcome).Draws sessionId
  | .governedCall next => ∃ stored, (next stored).Draws sessionId

def Task.Draws (sessionId : String) : Task -> Prop
  | .turn _ performed => performed.Draws sessionId
  | .asyncDelegate _ performed => performed.Draws sessionId

/-- The session of a turn is there when the turn begins, unless it is a root. -/
def Task.Anchored (drawn : String -> Prop) (database : SessionDatabase) : Task -> Prop
  | .turn context _ => Conversation.Anchored drawn context database
  | .asyncDelegate _ _ => True

section Tasks

variable {drawn : String -> Prop} (environment : DelegateEnvironment)

/-- A turn stays within the limits, from the moment its session is known. -/
theorem turn_abides {turn : Turn} : (∀ sessionId, turn.Draws sessionId -> drawn sessionId) ->
    ∀ (context : DelegateContext) (database : SessionDatabase), database.Stored ->
      Anchored drawn context database ->
      Abides environment.config drawn (fun _ _ => True) (turn.program environment context)
        database := by
  induction turn with
  | finished result =>
    intro _ context database _ _
    exact abides_of_quiet respects_lift
  | delegate payload childSessionId child next ihChild ihNext =>
    intro draws context database stored anchored
    have performed := abides_executeDelegateTool environment payload (draws _ (Or.inl rfl))
      (ihChild (fun sessionId drawnByChild => draws sessionId (Or.inr (Or.inl drawnByChild)))
        (context.child childSessionId))
      stored anchored
    apply abides_bind
      (abides_keeps (lasting_anchored drawn context) (abides_caught performed) stored anchored)
    rintro outcome later ⟨_, stored, anchored⟩
    exact ihNext outcome
      (fun sessionId drawnNext => draws sessionId (Or.inr (Or.inr ⟨outcome, drawnNext⟩)))
      context later stored anchored
  | delegateAsync payload childSessionId next ih =>
    intro draws context database stored anchored
    have performed := abides_executeDelegateAsyncTool environment payload
      (draws _ (Or.inl rfl)) stored anchored
    apply abides_bind
      (abides_keeps (lasting_anchored drawn context) (abides_caught performed) stored anchored)
    rintro outcome later ⟨_, stored, anchored⟩
    exact ih outcome (fun sessionId drawnNext => draws sessionId (Or.inr ⟨outcome, drawnNext⟩))
      context later stored anchored
  | sessionTool tool payload next ih =>
    intro draws context database stored anchored
    apply abides_bind (abides_quiet (lasting_anchored drawn context)
      (respects_caught sessionTool_respects) stored anchored)
    rintro outcome later ⟨stored, anchored⟩
    exact ih outcome (fun sessionId drawnNext => draws sessionId ⟨outcome, drawnNext⟩) context
      later stored anchored
  | governedCall next ih =>
    intro draws context database stored anchored
    apply abides_bind (abides_keeps (lasting_anchored drawn context)
      (abides_caught (abides_ensureSession stored anchored)) stored anchored)
    rintro outcome later ⟨_, stored, anchored⟩
    exact ih outcome (fun sessionId drawnNext => draws sessionId ⟨outcome, drawnNext⟩) context
      later stored anchored

theorem task_abides {task : Task} (draws : ∀ sessionId, task.Draws sessionId -> drawn sessionId)
    {database : SessionDatabase} (stored : database.Stored)
    (anchored : task.Anchored drawn database) :
    Abides environment.config drawn (fun _ _ => True) (task.program environment) database := by
  cases task with
  | turn context performed =>
    apply abides_bind
      (abides_caught (turn_abides environment draws context database stored anchored))
    intro _ later _
    exact abides_of_quiet (respects_pure ())
  | asyncDelegate request performed =>
    refine abides_spawnAsyncDelegateDetached request ?_ stored
    intro later stored present
    exact turn_abides environment draws _ later stored fun _ => present

end Tasks

/-! ## Interleavings -/

/-- The ids that tasks give to children. -/
def Drawn {ι : Type} (tasks : ι -> Task) (sessionId : String) : Prop :=
  ∃ task, (tasks task).Draws sessionId

/-- The tasks on one database, under one configuration. -/
def configuredPool {ι : Type} (config : DelegateToolConfig)
    (environments : ι -> DelegateEnvironment) (tasks : ι -> Task) (database : SessionDatabase) :
    Pool ι Moment SessionDatabase String Unit :=
  taskPool (fun task => { environments task with config := config }) tasks database

/-- Tasks that are anchored at the start keep the delegation rules, whatever the
other tasks do. -/
theorem configuredPool_secured {ι : Type} (config : DelegateToolConfig)
    (environments : ι -> DelegateEnvironment) {tasks : ι -> Task} {database : StoredDatabase}
    (anchored : ∀ task, (tasks task).Anchored (Drawn tasks) database.val) :
    (configuredPool config environments tasks database.val).Secured
      (Upholds config (Drawn tasks)) (Upholds config (Drawn tasks)) := by
  intro task
  have abides := task_abides { environments task with config := config }
    (fun sessionId draws => ⟨task, draws⟩) database.property (anchored task)
  exact secures_mono abides fun _ _ _ => True.intro

/-- Whatever the interleaving of turns and queued children, every session has
at most `maxActiveChildren` children that are queued or running, and no child
is deeper than `maxDepth`, neither by its ancestors nor by the depth that the
repository computes for it.  Ids of children are drawn: a session that begins a
turn before it has a row does not have such an id. -/
theorem delegation_stays_within_limits {ι : Type} [DecidableEq ι] (config : DelegateToolConfig)
    (environments : ι -> DelegateEnvironment) (tasks : ι -> Task) (database : StoredDatabase)
    (within : WithinLimits config (Drawn tasks) database.val)
    (anchored : ∀ task, (tasks task).Anchored (Drawn tasks) database.val)
    (schedule : List (ι × Moment)) :
    (∀ parent, activeDelegateChildren parent
      ((configuredPool config environments tasks database.val).run schedule).shared <=
        config.maxActiveChildren) /\
    ∀ row, row ∈ ((configuredPool config environments tasks database.val).run
        schedule).shared.sessions -> row.kind = .delegateChild ->
      (∀ count, HasAncestors
        ((configuredPool config environments tasks database.val).run schedule).shared count
          row.sessionId -> count <= config.maxDepth) /\
      ∀ rounds, (sessionLineageDepth rounds row.sessionId).Ensures
        (fun result _ => ∀ depth, result = .ok depth -> depth <= config.maxDepth)
        ((configuredPool config environments tasks database.val).run schedule).shared := by
  have upheld := (Pool.secured_run (upholds_interference config (Drawn tasks)) (fun _ _ => id)
    (configuredPool_secured config environments anchored) schedule).2
  have stored := (upheld.1 database.property).stored
  have limits := upheld.2.2 database.property within
  refine ⟨limits.active, ?_⟩
  intro row member isChild
  refine ⟨limits.depth row member isChild, ?_⟩
  intro rounds
  have trimmed := (stored.idsNormalized row member).1
  have found := (findSession_eq_some_iff stored.distinct).mpr ⟨member, rfl⟩
  have interference := upholds_interference config (Drawn tasks)
  have counted := @abides_sessionLineageDepth config (Drawn tasks) rounds row.sessionId _ stored
    fun _ => Option.isSome_iff_exists.mpr ⟨row, by rw [trimmed, found]⟩
  refine ensures_mono (ensures_of_secures interference.refl (secures_with
    (fun reached further => interference.trans reached further) (fun _ _ => id) counted
    (interference.refl _))) ?_
  rintro result later ⟨ends, reached⟩ depth same
  rcases (reached.1 stored).kept row member with ⟨last, lastMember, kept⟩
  have ancestors := (ends depth same).2
  rw [trimmed, <- kept.record] at ancestors
  exact (reached.2.2 stored limits).depth last lastMember (kept.kind.trans isChild) depth ancestors

namespace LimitSample

def config : DelegateToolConfig :=
  { FinalitySample.environment.config with maxActiveChildren := 1 }

/-- The only session, with one child that is already running. -/
def database : SessionDatabase :=
  { FinalitySample.database with
    sessions := [{ FinalitySample.recovered with state := .running, lastError := none }] }

theorem database_stored : database.Stored where
  distinct := by decide
  idsNormalized := by decide +kernel
  parentsNormalized := by decide +kernel

/-- Two turns of one session delegate at the same time. -/
def tasks (queued : Bool) : Task :=
  .turn { sessionId := "main", parentSessionId := none } (if queued then
      .delegateAsync (.object [("task", .string "research")]) "delegate:2"
        fun _ => .finished (.ok "queued")
    else
      .delegate (.object [("task", .string "research")]) "delegate:3" (.finished (.ok "found"))
        fun _ => .finished (.ok "done"))

theorem main_not_drawn : ¬ Drawn tasks "main" := by
  have notDrawn : trim "delegate:2" ≠ "main" /\ trim "delegate:3" ≠ "main" := by
    decide +kernel
  rintro ⟨queued, draws⟩
  cases queued with
  | true =>
    rcases draws with same | ⟨_, impossible⟩
    · exact notDrawn.1 same
    · exact impossible
  | false =>
    rcases draws with same | impossible | ⟨_, impossible⟩
    · exact notDrawn.2 same
    · exact impossible
    · exact impossible

theorem database_within : WithinLimits config (Drawn tasks) database where
  active := by
    intro parent
    exact List.countP_le_length
  depth := by
    intro row member _ count ancestors
    cases List.mem_singleton.mp member
    have linked : database.parentOf "delegate:1" = some "main" := rfl
    have climbs : SessionDatabase.Climbs database 1 "delegate:1" "main" := ⟨"main", linked, rfl⟩
    exact HasAncestors.le_of_climbs rfl climbs ancestors
  anchored := by
    intro row member parent linked isDrawn
    cases List.mem_singleton.mp member
    cases linked
    exact absurd isDrawn main_not_drawn

theorem tasks_anchored (queued : Bool) : (tasks queued).Anchored (Drawn tasks) database := by
  have trimmed : trim "main" = "main" := by decide +kernel
  rintro (impossible | isDrawn)
  · cases impossible
  · exact absurd isDrawn main_not_drawn

end LimitSample

open LimitSample

theorem running_child_leaves_no_room : WithinLimits config (Drawn tasks) database /\
      ∀ schedule parent, activeDelegateChildren parent
        ((configuredPool config (fun _ => FinalitySample.environment)
          tasks database).run schedule).shared <= 1 :=
  ⟨database_within, fun schedule =>
    (delegation_stays_within_limits config (fun _ => FinalitySample.environment)
      tasks ⟨database, database_stored⟩
      database_within tasks_anchored schedule).1⟩

/-! ## Visibility -/

/-- Who sees a session is settled once it is stored, whatever the interleaving. -/
theorem visibility_settled_once_stored {ι : Type} [DecidableEq ι] (config : DelegateToolConfig)
    (environments : ι -> DelegateEnvironment) (tasks : ι -> Task) (database : StoredDatabase)
    (parents : AnchoredParents (Drawn tasks) database.val)
    (anchored : ∀ task, (tasks task).Anchored (Drawn tasks) database.val)
    (schedule later : List (ι × Moment)) (current target : SessionId)
    (present : (((configuredPool config environments tasks database.val).run
      schedule).shared.findSession target.val).isSome) :
    ((configuredPool config environments tasks database.val).run
        (schedule ++ later)).shared.isSessionVisible current.val target.val = .ok true ↔
      ((configuredPool config environments tasks database.val).run
        schedule).shared.isSessionVisible current.val target.val = .ok true := by
  have interference := upholds_interference config (Drawn tasks)
  have before := Pool.secured_run interference (fun _ _ => id)
    (configuredPool_secured config environments anchored) schedule
  have after := Pool.secured_run interference (fun _ _ => id) before.1 later
  have stored := (before.2.1 database.property).stored
  have parents := before.2.2.1 database.property parents
  have extended := after.2.1 stored
  rw [<- Pool.run_append] at extended
  exact extended.isSessionVisible_iff stored parents present

theorem running_child_stays_visible : (database.findSession "delegate:1").isSome /\
    ∀ later, ((configuredPool config (fun _ => FinalitySample.environment) tasks
      database).run later).shared.isSessionVisible "main" "delegate:1" = .ok true :=
  ⟨rfl, fun later =>
    (visibility_settled_once_stored config (fun _ => FinalitySample.environment) tasks
      ⟨database, database_stored⟩ database_within.anchored tasks_anchored [] later
      ⟨"main", by decide +kernel⟩ ⟨"delegate:1", by decide +kernel⟩ rfl).mpr (by decide +kernel)⟩

end LoongClaw.Conversation
