import LoongClaw.Foundation.RelyGuarantee
import LoongClaw.Acp.Manager

namespace LoongClaw.Acp

open Foundation Program Store

/-!
# What statements of the manager touch

Most statements read, or change the store and the registries of turns.  They
leave the actor locks, the backend operations and the creations of sessions
alone.
-/

/-- What a statement may do to the store: nothing, remove a session, or store
one. -/
inductive StoreMove (before : OrderedMap String AcpSessionMetadata) :
    OrderedMap String AcpSessionMetadata -> Prop where
  | rest : StoreMove before before
  | remove (sessionKey : String) : StoreMove before (OrderedMap.erase sessionKey before)
  | upsert (metadata : AcpSessionMetadata) :
      StoreMove before (OrderedMap.insert metadata.sessionKey metadata before)

/-- A statement on the store and the registries of turns. -/
structure Plain (before after : AcpState) : Prop where
  store : StoreMove before.store after.store
  actors : after.actors = before.actors
  running : after.running = before.running
  creating : after.creating = before.creating

/-! ## Plain statements -/

section Plain

variable {α : Type}

theorem plain_refl (state : AcpState) : Plain state state := ⟨.rest, rfl, rfl, rfl⟩

theorem respects_nowMs : nowMs.Respects Plain :=
  respects_atomic fun _ state => plain_refl state

/-- A statement that fails leaves the state as it is. -/
theorem respects_statement {perform : AcpState -> α × AcpState}
    (plain : ∀ state, Plain state (perform state).2) :
    (statement perform).Respects Plain := by
  refine respects_atomic ?_
  intro moment state
  cases moment.storeError with
  | some error => exact plain_refl state
  | none => exact plain state

variable {sessionKey : String} {metadata : AcpSessionMetadata}

theorem respects_get : (get sessionKey).Respects Plain :=
  respects_statement plain_refl

theorem respects_getByConversationId {conversationId : String} :
    (getByConversationId conversationId).Respects Plain := by
  unfold getByConversationId
  cases trimmedNonEmpty conversationId with
  | none => exact respects_pure none
  | some normalized => exact respects_statement plain_refl

theorem respects_getByBindingRouteSessionId {routeSessionId : String} :
    (getByBindingRouteSessionId routeSessionId).Respects Plain := by
  unfold getByBindingRouteSessionId
  cases trimmedNonEmpty routeSessionId with
  | none => exact respects_pure none
  | some normalized => exact respects_statement plain_refl

theorem respects_upsert : (upsert metadata).Respects Plain :=
  respects_statement fun _ => ⟨.upsert metadata, rfl, rfl, rfl⟩

theorem respects_remove : (remove sessionKey).Respects Plain :=
  respects_statement fun _ => ⟨.remove sessionKey, rfl, rfl, rfl⟩

theorem respects_list : list.Respects Plain :=
  respects_statement plain_refl

theorem respects_backendCall : backendCall.Respects Plain :=
  respects_atomic fun _ state => plain_refl state

section

variable {actorKey : String}

include actorKey

theorem respects_activeTurn : (activeTurn actorKey).Respects Plain :=
  respects_atomic fun _ state => plain_refl state

theorem respects_actorRefCount : (actorRefCount actorKey).Respects Plain :=
  respects_atomic fun _ _ => ⟨.rest, rfl, rfl, rfl⟩

theorem respects_pendingTurnCount : (pendingTurnCount actorKey).Respects Plain :=
  respects_atomic fun _ state => plain_refl state

theorem respects_registerActiveTurn {handle : AcpSessionHandle} :
    (registerActiveTurn actorKey handle).Respects Plain :=
  respects_atomic fun _ _ => ⟨.rest, rfl, rfl, rfl⟩

theorem respects_clearActiveTurn : (clearActiveTurn actorKey).Respects Plain :=
  respects_atomic fun _ _ => ⟨.rest, rfl, rfl, rfl⟩

theorem respects_incrementPendingTurn : (incrementPendingTurn actorKey).Respects Plain :=
  respects_atomic fun _ _ => ⟨.rest, rfl, rfl, rfl⟩

end

theorem respects_dropPendingTurn {guard : SessionActorGuard} :
    (dropPendingTurn guard).Respects Plain := by
  unfold dropPendingTurn
  split
  · exact respects_atomic fun _ _ => ⟨.rest, rfl, rfl, rfl⟩
  · exact respects_pure _

theorem respects_hasNoReference {actorKey : String} : (hasNoReference actorKey).Respects Plain :=
  respects_atomic fun _ _ => ⟨.rest, rfl, rfl, rfl⟩

variable {env : AcpEnvironment}

theorem respects_isIdle {now : Nat} : (isIdle env now metadata).Respects Plain := by
  unfold isIdle
  split
  · exact respects_pure false
  · refine respects_bind respects_actorRefCount fun references => ?_
    split
    · exact respects_pure false
    · refine respects_bind respects_pendingTurnCount fun pending => ?_
      split
      · exact respects_pure false
      · refine respects_bind respects_activeTurn fun active => ?_
        split
        · exact respects_pure false
        · exact respects_pure _

section

variable (bootstrap : AcpSessionBootstrap)

include bootstrap

theorem respects_validateAndTouchExistingSession {existing : AcpSessionMetadata} :
    (validateAndTouchExistingSession env bootstrap existing).Respects Plain :=
  respects_bind respects_lift fun _ => respects_bind respects_nowMs fun _ =>
    respects_map respects_upsert

theorem respects_findByRoute : (findByRoute bootstrap).Respects Plain := by
  unfold findByRoute
  split
  · exact respects_pure none
  · exact respects_getByBindingRouteSessionId

theorem respects_findByConversation : (findByConversation bootstrap).Respects Plain := by
  unfold findByConversation
  split
  · exact respects_pure none
  · exact respects_getByConversationId

theorem respects_findExistingSession : (findExistingSession env bootstrap).Respects Plain := by
  refine respects_bind respects_get fun byKey => ?_
  cases byKey with
  | some existing => exact respects_pure _
  | none =>
    dsimp only
    split
    · refine respects_bind (respects_findByRoute _) fun byRoute => ?_
      cases byRoute with
      | some existing => exact respects_pure _
      | none => exact respects_findByConversation _
    · exact respects_pure _

/-- The look-up of a session may touch its record, and no lock. -/
theorem respects_resolveExistingSession :
    (resolveExistingSession env bootstrap).Respects Plain := by
  refine respects_bind (respects_findExistingSession _) fun found => ?_
  cases found with
  | none => exact respects_pure _
  | some existing =>
    exact respects_bind (respects_validateAndTouchExistingSession _) fun _ =>
      respects_pure _

end

theorem respects_storeFailure {error : String} : (storeFailure metadata error).Respects Plain :=
  respects_bind respects_nowMs fun _ => respects_upsert

theorem respects_registeredSession : (registeredSession sessionKey).Respects Plain := by
  refine respects_bind respects_get fun found => ?_
  cases found with
  | some metadata => exact respects_pure metadata
  | none => exact respects_fail _

/-- A cancellation reaches the backend through the active turn, without a lock. -/
theorem respects_cancelActiveTurn {actorKey : String} :
    (cancelActiveTurn env metadata actorKey).Respects Plain := by
  refine respects_bind respects_activeTurn fun active => ?_
  cases active with
  | none => exact respects_pure _
  | some handle =>
    refine respects_bind respects_nowMs fun _ => respects_bind respects_upsert fun _ =>
      respects_bind respects_lift fun _ => respects_bind respects_backendCall fun answer => ?_
    cases answer with
    | ok => exact respects_pure _
    | error error => exact respects_bind respects_storeFailure fun _ => respects_fail error

end Plain

end LoongClaw.Acp
