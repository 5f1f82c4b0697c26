import Mathlib.Data.String.Basic
import LoongClaw.Acp.Calls

namespace LoongClaw.Acp

open Foundation Program OrderedMap

/-!
# The limit of concurrent sessions

The limit is checked before the backend is asked for a new session, and the
session is stored afterwards.  Nothing reserves its place in between, and a call
writes a session back that it has read long before.  The stored sessions stay
within the limit as long as a call passes the check only while there is room for
the sessions that are being created too, and as long as no call writes back a
session that was removed.
-/

/-- The number of stored sessions is within the limit. -/
def WithinLimit (env : AcpEnvironment) (state : AcpState) : Prop :=
  state.store.length <= env.config.resolvedMaxConcurrentSessions

instance (env : AcpEnvironment) : DecidablePred (WithinLimit env) := fun state =>
  inferInstanceAs (Decidable (state.store.length <= env.config.resolvedMaxConcurrentSessions))

/-! ## The limit along a run -/

/-- What is asked of a step, by what it does.  A call that passes the check of the
limit finds the stored sessions and those that are being created below the limit.
A call that writes a session which it has not created finds it still stored.  The
key under which the backend hands out a new session does not matter. -/
structure Reserved (env : AcpEnvironment) (transition : Transition Nat AcpState) : Prop where
  check : ∀ sessionKey,
    transition.after.creating = transition.before.creating ++ [(transition.thread, sessionKey)] ->
      transition.before.store.length + transition.before.creating.length <
        env.config.resolvedMaxConcurrentSessions
  write : ∀ metadata : AcpSessionMetadata,
    transition.after.store = insert metadata.sessionKey metadata transition.before.store ->
      transition.after.creating = transition.before.creating ->
        contains metadata.sessionKey transition.before.store = true

/-- There is room for the sessions that are being created, and a call that creates
one is noted. -/
structure LimitInvariant (env : AcpEnvironment) (roles : Nat -> CallRole) (state : AcpState) :
    Prop where
  room : state.store.length + state.creating.length <= env.config.resolvedMaxConcurrentSessions
  sorted : Sorted state.store
  noted : ∀ thread, (roles thread).creating = true ->
    ∃ sessionKey, (thread, sessionKey) ∈ state.creating

section Run

variable {env : AcpEnvironment} {roles : Nat -> CallRole} {state after : AcpState} {thread : Nat}
  {later : CallRole} {before stored : OrderedMap String AcpSessionMetadata}

/-- A statement stores at most one session more. -/
theorem StoreMove.length_le (moved : StoreMove before stored) :
    stored.length <= before.length + 1 := by
  cases moved with
  | rest => exact Nat.le_succ _
  | remove sessionKey => exact Nat.le_succ_of_le length_erase_le
  | upsert metadata => exact length_insert_le

theorem StoreMove.sorted (moved : StoreMove before stored) (sorted : Sorted before) :
    Sorted stored := by
  cases moved with
  | rest => exact sorted
  | remove sessionKey => exact sorted.erase sessionKey
  | upsert metadata => exact sorted.insert metadata.sessionKey metadata

/-- The store does not grow if what is written is stored. -/
theorem StoreMove.length_le_of_stored (moved : StoreMove before stored) (sorted : Sorted before)
    (written : ∀ metadata : AcpSessionMetadata,
      stored = insert metadata.sessionKey metadata before ->
        contains metadata.sessionKey before = true) :
    stored.length <= before.length := by
  cases moved with
  | rest => exact Nat.le_refl _
  | remove sessionKey => exact length_erase_le
  | upsert metadata =>
    exact Nat.le_of_eq (sorted.length_insert (written metadata rfl) metadata)

/-- The calls that are noted, after a call has moved on. -/
theorem LimitInvariant.others (invariant : LimitInvariant env roles state)
    (own : later.creating = true -> ∃ sessionKey, (thread, sessionKey) ∈ after.creating)
    (kept : ∀ entry, entry ∈ state.creating -> entry.1 ≠ thread -> entry ∈ after.creating) :
    ∀ other, (Function.update roles thread later other).creating = true ->
      ∃ sessionKey, (other, sessionKey) ∈ after.creating := by
  intro other creates
  by_cases mover : other = thread
  · rw [mover, Function.update_self] at creates
    rw [mover]
    exact own creates
  · rw [Function.update_of_ne mover] at creates
    rcases invariant.noted other creates with ⟨sessionKey, member⟩
    exact ⟨sessionKey, kept _ member mover⟩

/-- A step keeps the stored sessions and the creations under way within the limit. -/
theorem LimitInvariant.step (invariant : LimitInvariant env roles state)
    (move : CreationMove thread (roles thread).creating state later.creating after)
    (reserved : Reserved env ⟨thread, state, after⟩) :
    LimitInvariant env (Function.update roles thread later) after := by
  generalize reached : (roles thread).creating = creates at move
  generalize isLater : later.creating = laterCreates at move
  cases move with
  | other _ stored creating =>
    have smaller := stored.length_le_of_stored invariant.sorted fun metadata written =>
      reserved.write metadata written creating
    refine ⟨?_, stored.sorted invariant.sorted, invariant.others ?_ ?_⟩
    · rw [creating]
      exact Nat.le_trans (Nat.add_le_add_right smaller _) invariant.room
    · intro creates
      rw [creating]
      exact invariant.noted thread (reached.trans (isLater.symm.trans creates))
    · intro entry member _
      rw [creating]
      exact member
  | begins sessionKey stored creating =>
    refine ⟨?_, stored ▸ invariant.sorted, invariant.others ?_ ?_⟩
    · rw [stored, creating, List.length_append]
      exact reserved.check sessionKey creating
    · intro _
      rw [creating]
      exact ⟨sessionKey, List.mem_append_right _ (List.mem_singleton.mpr rfl)⟩
    · intro entry member _
      rw [creating]
      exact List.mem_append_left _ member
  | ends stored creating =>
    -- The call gives up its place, which is the one that its session takes.
    rcases invariant.noted thread reached with ⟨sessionKey, member⟩
    have fewer : after.creating.length < state.creating.length := by
      rw [creating, List.length_filter_lt_length_iff_exists]
      exact ⟨_, member, by simp⟩
    refine ⟨?_, stored.sorted invariant.sorted, invariant.others ?_ ?_⟩
    · have grown := stored.length_le
      have room := invariant.room
      omega
    · intro creates
      rw [isLater] at creates
      cases creates
    · intro entry old different
      rw [creating]
      exact List.mem_filter.mpr ⟨old, decide_eq_true different⟩

/-- In every run whose steps are as asked, the stored sessions stay within the
limit if they are at the start. -/
theorem reserved_run_withinLimit (env : AcpEnvironment)
    (store : OrderedMap String AcpSessionMetadata) (calls : Nat -> AcpCall)
    (schedule : List (Nat × AcpMoment)) (sorted : Sorted store)
    (initially : store.length <= env.config.resolvedMaxConcurrentSessions)
    (reserved : ∀ transition, transition ∈ (managerPool env store calls).trace schedule ->
      Reserved env transition) :
    ∀ transition, transition ∈ (managerPool env store calls).trace schedule ->
      WithinLimit env transition.after := by
  have start : LimitInvariant env (fun _ => .resting .outside)
      (managerPool env store calls).shared :=
    ⟨initially, sorted, fun _ creates => by cases creates⟩
  intro transition member
  rcases trace_of_calls env store calls start
    (fun _ _ _ _ _ invariant move condition => invariant.step move.creation condition) reserved
    transition member with ⟨_, invariant⟩
  exact Nat.le_trans (Nat.le_add_right _ _) invariant.room

end Run

/-! ## Two creations at once -/

namespace LimitSample

def env (limit : Nat) : AcpEnvironment where
  config :=
    { bindingsEnabled := false, maxConcurrentSessions := some limit, sessionIdleTtlMs := none }
  selectedBackendId := "acpx"
  resolveAcpBackend _ := .ok ()

def sessionKey : Nat -> String
  | 0 => "agent:first"
  | _ => "agent:second"

def call (caller : Nat) : AcpCall :=
  .ensureSession
    { sessionKey := sessionKey caller
      conversationId := none
      binding := none
      mode := none
      metadata := [] }

/-- The backend hands out a session with the key of the bootstrap. -/
def moment (caller : Nat) : AcpMoment where
  nowMs := 1
  polls := 1
  storeError := none
  failure := none
  handle :=
    { sessionKey := sessionKey caller
      backendId := "acpx"
      runtimeSessionName := "runtime"
      workingDirectory := none
      backendSessionId := none
      agentSessionId := none
      binding := none }
  turnState := .ready

def pool (limit : Nat) : Pool Nat AcpMoment AcpState String Unit :=
  managerPool (env limit) [] call

def steps (caller count : Nat) : List (Nat × AcpMoment) :=
  List.replicate count (caller, moment caller)

/-- Both calls check the limit before either stores its session. -/
def schedule : List (Nat × AcpMoment) :=
  steps 0 5 ++ steps 1 5 ++ steps 0 3 ++ steps 1 3

theorem reserved_of_steps {limit : Nat} {transition : Transition Nat AcpState}
    (check : transition.before.creating.length < transition.after.creating.length ->
      transition.before.store.length + transition.before.creating.length <
        (env limit).config.resolvedMaxConcurrentSessions)
    (write : transition.after.store = transition.before.store \/
      transition.after.creating.length ≠ transition.before.creating.length) :
    Reserved (env limit) transition where
  check sessionKey begins := by
    apply check
    rw [begins, List.length_append]
    exact Nat.lt_succ_self _
  write metadata written creating := by
    rcases write with same | different
    · unfold contains
      rw [<- same, written, lookup_insert_self]
      rfl
    · exact absurd (congrArg List.length creating) different

end LimitSample

open LimitSample

/-- With a limit of two, both creations may be under way at once. -/
theorem reserved_run_withinLimit_two :
    ((pool 2).run schedule).shared.store.map Prod.fst = ["agent:first", "agent:second"] /\
      ∀ transition, transition ∈ (pool 2).trace schedule ->
        WithinLimit (env 2) transition.after := by
  have stepwise : ∀ transition, transition ∈ (pool 2).trace schedule ->
      (transition.before.creating.length < transition.after.creating.length ->
        transition.before.store.length + transition.before.creating.length <
          (env 2).config.resolvedMaxConcurrentSessions) /\
      (transition.after.store = transition.before.store \/
        transition.after.creating.length ≠ transition.before.creating.length) := by
    decide +kernel
  refine ⟨by decide +kernel, ?_⟩
  exact reserved_run_withinLimit (env 2) [] call schedule List.Pairwise.nil (by decide)
    fun transition member =>
      reserved_of_steps (stepwise transition member).1 (stepwise transition member).2

/-- With a limit of one, both calls pass the check, and two sessions are stored. -/
theorem two_creations_pass_the_limit :
    ((pool 1).run schedule).shared.store.map Prod.fst = ["agent:first", "agent:second"] /\
      ¬ ∀ transition, transition ∈ (pool 1).trace schedule ->
        WithinLimit (env 1) transition.after := by
  decide +kernel

end LoongClaw.Acp
