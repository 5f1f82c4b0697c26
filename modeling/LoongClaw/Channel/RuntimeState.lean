import LoongClaw.Foundation.Machine

namespace LoongClaw.Channel

open Foundation Machine

/-!
# The runtime state of a channel operation

A tracker keeps the state of a running operation in memory and in a file.  The
state changes under a lock, but each snapshot is written after the lock is
released, by the call that took it or by the heartbeat task.
-/

structure PersistedChannelOperationRuntime where
  (running busy : Bool)
  activeRuns : Nat
  (lastRunActivityAt lastHeartbeatAt pid : Option Nat)
  (accountId accountLabel : Option String)

/-- The changes of the state that calls make, and that of the heartbeat task. -/
inductive StateChange where
  | runStart
  | runEnd
  | shutdown
  | beat
  deriving DecidableEq

def StateChange.mutate (now : Nat) (state : PersistedChannelOperationRuntime) :
    StateChange -> PersistedChannelOperationRuntime
  | .runStart =>
    { state with
      activeRuns := state.activeRuns + 1
      busy := true
      lastRunActivityAt := some now
      lastHeartbeatAt := some now }
  | .runEnd =>
    { state with
      activeRuns := state.activeRuns - 1
      busy := decide (0 < state.activeRuns - 1)
      lastRunActivityAt := some now
      lastHeartbeatAt := some now }
  | .shutdown =>
    { state with running := false, busy := false, activeRuns := 0, lastHeartbeatAt := some now }
  | .beat => { state with lastHeartbeatAt := some now }

/-- The heartbeat task sleeps, has seen that the tracker has not stopped, has a
snapshot to write, or has ended. -/
inductive HeartbeatPhase where
  | asleep
  | awake
  | writing
  | ended
  deriving DecidableEq

structure ChannelOperationRuntimeTracker where
  (state file : PersistedChannelOperationRuntime)
  stopped : Bool
  heartbeat : HeartbeatPhase
  /-- The snapshots that are still to be written, and whether by the task. -/
  writes : List (Bool × PersistedChannelOperationRuntime)

/-- A call of `shutdown` stops the tracker, aborts the task, which takes effect
when the task sleeps, and changes the state. -/
inductive TrackerStep where
  | change (change : StateChange) (now : Nat)
  | write (index : Nat)
  | stop
  | wake
  | cancel
  deriving DecidableEq

namespace ChannelOperationRuntimeTracker

def startInDirImpl (now processId : Nat) (accountId accountLabel : Option String) :
    ChannelOperationRuntimeTracker :=
  let initial := ⟨true, false, 0, none, some now, some processId, accountId, accountLabel⟩
  ⟨initial, initial, false, .asleep, []⟩

variable (tracker : ChannelOperationRuntimeTracker)

def updateState (change : StateChange) (now : Nat) : ChannelOperationRuntimeTracker :=
  { tracker with
    state := change.mutate now tracker.state
    heartbeat := if change = .beat then .writing else tracker.heartbeat
    writes := tracker.writes ++ [(decide (change = .beat), change.mutate now tracker.state)] }

def step :
    TrackerStep -> ChannelOperationRuntimeTracker
  | .change change now =>
    if change = .beat /\ tracker.heartbeat ≠ .awake then tracker
    else tracker.updateState change now
  | .write index =>
    match tracker.writes[index]? with
    | some (byTask, snapshot) =>
      { tracker with
        file := snapshot
        writes := tracker.writes.eraseIdx index
        heartbeat :=
          if byTask then if tracker.stopped then .ended else .asleep else tracker.heartbeat }
    | none => tracker
  | .stop => { tracker with stopped := true }
  | .wake =>
    if tracker.heartbeat = .asleep then
      { tracker with heartbeat := if tracker.stopped then .ended else .awake }
    else tracker
  | .cancel =>
    if tracker.heartbeat = .asleep /\ tracker.stopped then { tracker with heartbeat := .ended }
    else tracker

/-- Snapshots are written in the order in which they were taken, and no run
starts after a shutdown. -/
def InOrder : TrackerStep -> Prop
  | .change change _ => change = .runStart -> tracker.state.running = true
  | .write index => index < tracker.writes.length -> index = 0
  | _ => True

/-- The last snapshot that is still to be written, and otherwise the file, is
the state, and the state has no runs after a shutdown. -/
structure Current : Prop where
  latest : ∀ entry, tracker.writes.getLast? = some entry -> entry.2 = tracker.state
  written : tracker.writes = [] -> tracker.file = tracker.state
  idle : tracker.state.running = false -> tracker.state.activeRuns = 0

variable {tracker : ChannelOperationRuntimeTracker}

theorem Current.updateState (current : Current tracker) {change : StateChange} {now : Nat}
    (inOrder : InOrder tracker (.change change now)) :
    Current (tracker.updateState change now) := by
  unfold ChannelOperationRuntimeTracker.updateState
  refine ⟨?_, ?_, ?_⟩
  · intro entry last
    rw [List.getLast?_concat] at last
    rw [<- Option.some.inj last]
  · intro nothing
    exact absurd nothing (List.append_ne_nil_of_right_ne_nil _ (List.cons_ne_nil _ _))
  · intro stopped
    cases change with
    | runStart =>
      have running : tracker.state.running = true := inOrder rfl
      rw [show tracker.state.running = false from stopped] at running
      cases running
    | runEnd =>
      have none : tracker.state.activeRuns = 0 := current.idle stopped
      exact congrArg (· - 1) none
    | shutdown => rfl
    | beat => exact current.idle stopped

/-- Writing the first of several snapshots leaves the last one to be written. -/
theorem Current.write (current : Current tracker) {index : Nat}
    (inOrder : InOrder tracker (.write index)) : Current (tracker.step (.write index)) := by
  rw [ChannelOperationRuntimeTracker.step]
  cases found : tracker.writes[index]? with
  | none => exact current
  | some entry =>
    cases inOrder (List.getElem?_eq_some_iff.mp found).1
    cases pending : tracker.writes with
    | nil =>
      rw [pending] at found
      cases found
    | cons first rest =>
      rw [pending] at found
      cases found
      have latest := current.latest
      rw [pending] at latest
      refine ⟨fun later last => latest later ?_, fun isEmpty => latest entry ?_, current.idle⟩
      · exact (List.getLast?_cons_of_ne_nil (by rintro rfl; cases last)).trans last
      · rw [show rest = [] from isEmpty]
        rfl

theorem Current.step (current : Current tracker) {op : TrackerStep}
    (inOrder : InOrder tracker op) : Current (tracker.step op) := by
  cases op with
  | change change now =>
    rw [ChannelOperationRuntimeTracker.step]
    split
    · exact current
    · exact current.updateState inOrder
  | write index => exact current.write inOrder
  | stop => exact ⟨current.latest, current.written, current.idle⟩
  | wake | cancel =>
    rw [ChannelOperationRuntimeTracker.step]
    split
    · exact ⟨current.latest, current.written, current.idle⟩
    · exact current

theorem step_stopped {op : TrackerStep} (stopped : tracker.state.running = false) :
    (tracker.step op).state.running = false := by
  unfold step
  split
  · rename_i change _
    split
    · exact stopped
    · cases change <;> first | exact stopped | rfl
  · split <;> exact stopped
  · exact stopped
  · split <;> exact stopped
  · split <;> exact stopped

end ChannelOperationRuntimeTracker

end LoongClaw.Channel
