import Mathlib.Data.List.Chain
import LoongClaw.Kernel.Kernel

namespace LoongClaw.Kernel

open Foundation Contracts Attempt
open LoongClawKernel (KernelDispatch)

/-!
# Supervised tasks

A supervisor runs its task through the kernel at most once and keeps the state
of the task.  The kernel of a call is any computation that answers a task, and
it may also never answer: the caller then drops the call while it waits.  The
supervisor's states and its calls of the kernel are recorded.
-/

inductive Fault where
  | panic (message : String)
  | capabilityViolation (tokenId : String) (capability : Capability)
  | tokenExpired (tokenId : String) (expiresAtEpochS : UInt64)
  | protocolViolation (detail : String)
  | policyDenied (reason : String)

namespace Fault

def fromPolicyError : PolicyError -> Fault
  | .expiredToken tokenId expiresAtEpochS => .tokenExpired tokenId expiresAtEpochS
  | .missingCapability tokenId capability => .capabilityViolation tokenId capability
  | .revokedToken tokenId => .policyDenied ("token " ++ tokenId ++ " revoked")
  | .packMismatch tokenPackId runtimePackId =>
    .policyDenied ("pack mismatch: token=" ++ tokenPackId ++ " runtime=" ++ runtimePackId)
  | .extensionDenied extension reason =>
    .policyDenied ("extension " ++ extension ++ ": " ++ reason)
  | .toolCallDenied toolName reason => .policyDenied ("tool " ++ toolName ++ ": " ++ reason)

/-- `display` renders the errors that have no fault of their own. -/
def fromKernelError (display : KernelError -> String) (error : KernelError) : Fault :=
  match error with
  | .policy policyError => fromPolicyError policyError
  | .packCapabilityBoundary packId capability =>
    .capabilityViolation ("pack:" ++ packId) capability
  | _ => .panic (display error)

end Fault

inductive TaskState where
  | runnable (intent : TaskIntent)
  | inSend (taskId : String)
  | inReply (taskId : String)
  | completed (outcome : HarnessOutcome)
  | faulted (fault : Fault)

namespace TaskState

def isTerminal : TaskState -> Bool
  | .completed _ => true
  | .faulted _ => true
  | _ => false

/-- The errors show the state in its debug form. -/
structure Texts where
  debug : TaskState -> String
  display : KernelError -> String

variable (texts : Texts)

def transitionToInSend (state : TaskState) : Except String TaskState :=
  match state with
  | .runnable intent => .ok (.inSend intent.taskId)
  | other => .error ("invalid transition: cannot move to InSend from " ++ texts.debug other)

def transitionToInReply (state : TaskState) : Except String TaskState :=
  match state with
  | .inSend taskId => .ok (.inReply taskId)
  | other => .error ("invalid transition: cannot move to InReply from " ++ texts.debug other)

def transitionToCompleted (outcome : HarnessOutcome) (state : TaskState) :
    Except String TaskState :=
  match state with
  | .inReply _ => .ok (.completed outcome)
  | other => .error ("invalid transition: cannot move to Completed from " ++ texts.debug other)

def transitionToFaulted (fault : Fault) (state : TaskState) : TaskState :=
  if state.isTerminal then state else .faulted fault

/-- The moves that a task may make. -/
inductive Moves : TaskState -> TaskState -> Prop where
  | send (intent : TaskIntent) : Moves (.runnable intent) (.inSend intent.taskId)
  | reply (taskId : String) : Moves (.inSend taskId) (.inReply taskId)
  | complete (taskId : String) (outcome : HarnessOutcome) :
      Moves (.inReply taskId) (.completed outcome)
  | fault {state : TaskState} (running : state.isTerminal = false) (fault : Fault) :
      Moves state (.faulted fault)

end TaskState

open TaskState

/-! ## The supervisor -/

/-- A kernel that a task is run through: it answers, or it does not. -/
def TaskKernel (κ : Type) : Type :=
  String -> CapabilityToken -> TaskIntent -> κ -> Option (Except KernelError KernelDispatch) × κ

/-- A call of the kernel's `execute_task`. -/
structure TaskCall where
  packId : String
  token : CapabilityToken
  intent : TaskIntent

/-- The supervisor and the kernel, with the states that the task has been in and
the calls of the kernel. -/
structure TaskSupervisor (κ : Type) where
  state : TaskState
  kernel : κ
  states : List TaskState
  calls : List TaskCall

/-- How a call ends that returns no dispatch. -/
inductive Interruption where
  | fault (fault : Fault)
  | dropped

namespace TaskSupervisor

variable {κ : Type} (texts : Texts)

def new (intent : TaskIntent) (kernel : κ) : TaskSupervisor κ where
  state := .runnable intent
  kernel := kernel
  states := [.runnable intent]
  calls := []

/-- The supervisor with another state. -/
def moved (supervisor : TaskSupervisor κ) (state : TaskState) : TaskSupervisor κ :=
  { supervisor with state := state, states := supervisor.states ++ [state] }

def assign (state : TaskState) : Attempt (TaskSupervisor κ) Interruption Unit :=
  fun supervisor => (.ok (), supervisor.moved state)

/-- Take the state and replace it, unless the transition is refused. -/
def transition (guarded : TaskState -> Except String TaskState) :
    Attempt (TaskSupervisor κ) Interruption Unit := do
  let supervisor <- read
  match guarded supervisor.state with
  | .ok next => assign next
  | .error detail => fail (.fault (.protocolViolation detail))

def runKernel (executeTask : TaskKernel κ) (call : TaskCall) :
    Attempt (TaskSupervisor κ) Interruption (Except KernelError KernelDispatch) :=
  fun supervisor =>
    let answer := executeTask call.packId call.token call.intent supervisor.kernel
    (match answer.1 with
      | some result => .ok result
      | none => .error .dropped,
      { supervisor with kernel := answer.2, calls := supervisor.calls ++ [call] })

/-- What a call does once the kernel has answered. -/
def conclude (result : Except KernelError KernelDispatch) :
    Attempt (TaskSupervisor κ) Interruption KernelDispatch :=
  match result with
  | .ok dispatch => do
    transition (transitionToCompleted texts dispatch.outcome)
    return dispatch
  | .error kernelError => do
    let fault := Fault.fromKernelError texts.display kernelError
    transition fun state => .ok (state.transitionToFaulted fault)
    fail (.fault fault)

def execute (executeTask : TaskKernel κ) (packId : String) (token : CapabilityToken) :
    Attempt (TaskSupervisor κ) Interruption KernelDispatch := do
  let supervisor <- read
  match supervisor.state with
  | .runnable intent => do
    transition (transitionToInSend texts)
    transition (transitionToInReply texts)
    let result <- runKernel executeTask ⟨packId, token, intent⟩
    conclude texts result
  | _ => fail (.fault (.protocolViolation "task is not in Runnable state"))

/-! ## What a call does -/

section Calls

variable {texts} {executeTask : TaskKernel κ} {packId : String} {token : CapabilityToken}
  {supervisor : TaskSupervisor κ}

/-- A call is refused, and changes nothing, unless the task is runnable. -/
theorem execute_refused (refuses : ∀ intent, supervisor.state ≠ .runnable intent) :
    execute texts executeTask packId token supervisor =
      (.error (.fault (.protocolViolation "task is not in Runnable state")), supervisor) := by
  unfold execute
  rw [bind_ok read_apply]
  cases state : supervisor.state with
  | runnable intent => exact absurd state (refuses intent)
  | _ => rfl

theorem transition_ok {guarded : TaskState -> Except String TaskState} {next : TaskState}
    (allowed : guarded supervisor.state = .ok next) :
    transition guarded supervisor = (.ok (), supervisor.moved next) := by
  unfold transition
  rw [bind_ok read_apply, allowed]
  rfl

/-- The supervisor after the kernel was called for a task, before it answered. -/
def called (supervisor : TaskSupervisor κ) (call : TaskCall) (kernel : κ) : TaskSupervisor κ :=
  { (supervisor.moved (.inSend call.intent.taskId)).moved (.inReply call.intent.taskId) with
    kernel := kernel
    calls := supervisor.calls ++ [call] }

/-- The supervisor after the kernel's answer, if there was one. -/
def concluded (texts : Texts) (supervisor : TaskSupervisor κ) :
    Option (Except KernelError KernelDispatch) -> TaskSupervisor κ
  | none => supervisor
  | some (.ok dispatch) => supervisor.moved (.completed dispatch.outcome)
  | some (.error kernelError) =>
    supervisor.moved (.faulted (Fault.fromKernelError texts.display kernelError))

theorem conclude_state {taskId : String} (waiting : supervisor.state = .inReply taskId)
    {result : Except KernelError KernelDispatch} :
    (conclude texts result supervisor).2 = concluded texts supervisor (some result) := by
  cases result with
  | ok dispatch =>
    have allowed : transitionToCompleted texts dispatch.outcome supervisor.state =
        .ok (.completed dispatch.outcome) := by
      rw [waiting]
      rfl
    unfold conclude
    dsimp only
    rw [bind_ok (transition_ok allowed)]
    rfl
  | error kernelError =>
    have allowed : (fun state : TaskState => (.ok (state.transitionToFaulted
        (Fault.fromKernelError texts.display kernelError)) : Except String TaskState))
          supervisor.state = .ok (.faulted (Fault.fromKernelError texts.display kernelError)) := by
      rw [waiting]
      rfl
    unfold conclude
    dsimp only
    rw [bind_ok (transition_ok allowed)]
    rfl

/-- A call for a runnable task goes through the states in order and calls the
kernel once. -/
theorem execute_runnable {intent : TaskIntent} (runnable : supervisor.state = .runnable intent) :
    (execute texts executeTask packId token supervisor).2 = concluded texts
        (supervisor.called ⟨packId, token, intent⟩
          (executeTask packId token intent supervisor.kernel).2)
        (executeTask packId token intent supervisor.kernel).1 := by
  have sends : transitionToInSend texts supervisor.state = .ok (.inSend intent.taskId) := by
    rw [runnable]
    rfl
  have replies : transitionToInReply texts
      (supervisor.moved (.inSend intent.taskId)).state = .ok (.inReply intent.taskId) := rfl
  unfold execute
  rw [bind_ok read_apply, runnable]
  dsimp only
  rw [bind_ok (transition_ok sends), bind_ok (transition_ok replies)]
  have runs : runKernel executeTask ⟨packId, token, intent⟩
      ((supervisor.moved (.inSend intent.taskId)).moved (.inReply intent.taskId)) =
        (match (executeTask packId token intent supervisor.kernel).1 with
          | some result => .ok result
          | none => .error .dropped,
          supervisor.called ⟨packId, token, intent⟩
            (executeTask packId token intent supervisor.kernel).2) := rfl
  cases answer : (executeTask packId token intent supervisor.kernel).1 with
  | none =>
    rw [answer] at runs
    rw [bind_error runs]
    rfl
  | some result =>
    rw [answer] at runs
    rw [bind_ok runs]
    exact conclude_state rfl

end Calls

/-! ## Any number of calls -/

/-- A call of `execute`, with the kernel that it is given. -/
structure ExecuteCall (κ : Type) where
  executeTask : TaskKernel κ
  packId : String
  token : CapabilityToken

def step (supervisor : TaskSupervisor κ) (call : ExecuteCall κ) : TaskSupervisor κ :=
  (execute texts call.executeTask call.packId call.token supervisor).2

/-- The states of the task are a path of moves to the present one, and the
kernel was called once at most, and not before the task left its first state. -/
structure OnPath (intent : TaskIntent) (supervisor : TaskSupervisor κ) : Prop where
  path : supervisor.states.IsChain Moves
  first : supervisor.states.head? = some (.runnable intent)
  last : supervisor.states.getLast? = some supervisor.state
  once : supervisor.calls.length <= 1
  fresh : ∀ intent, supervisor.state = .runnable intent -> supervisor.calls = []

theorem onPath_new {intent : TaskIntent} {kernel : κ} : OnPath intent (new intent kernel) where
  path := List.IsChain.singleton _
  first := rfl
  last := rfl
  once := Nat.zero_le 1
  fresh := fun _ _ => rfl

variable {texts} {intent : TaskIntent} {supervisor : TaskSupervisor κ}

section

variable (onPath : OnPath intent supervisor)

include onPath

theorem OnPath.moved {next : TaskState} (moves : Moves supervisor.state next)
    (started : ∀ intent, next ≠ .runnable intent) :
    OnPath intent (supervisor.moved next) where
  path := by
    apply List.isChain_append.mpr
    refine ⟨onPath.path, List.IsChain.singleton _, ?_⟩
    intro present isLast following isNext
    rw [onPath.last] at isLast
    cases isLast
    cases isNext
    exact moves
  first := by
    have nonempty : supervisor.states ≠ [] := by
      intro empty
      have first := onPath.first
      rw [empty] at first
      cases first
    show (supervisor.states ++ [next]).head? = _
    rw [List.head?_append_of_ne_nil _ nonempty]
    exact onPath.first
  last := List.getLast?_concat
  once := onPath.once
  fresh := fun intent runnable => absurd runnable (started intent)

theorem OnPath.concluded {taskId : String} (waiting : supervisor.state = .inReply taskId)
    (answer : Option (Except KernelError KernelDispatch)) :
    OnPath intent (concluded texts supervisor answer) := by
  rcases answer with _ | kernelError | dispatch
  · exact onPath
  · refine onPath.moved (.fault ?_ _) nofun
    rw [waiting]
    rfl
  · refine onPath.moved ?_ nofun
    rw [waiting]
    exact .complete taskId dispatch.outcome

theorem OnPath.called {call : TaskCall}
    (runnable : supervisor.state = .runnable call.intent) (kernel : κ) :
    OnPath intent (supervisor.called call kernel) := by
  have sends : Moves supervisor.state (.inSend call.intent.taskId) := by
    rw [runnable]
    exact .send call.intent
  have replies := (onPath.moved sends nofun).moved (.reply call.intent.taskId) nofun
  refine ⟨replies.path, replies.first, replies.last, ?_, fun other isRunnable => nomatch isRunnable⟩
  show (supervisor.calls ++ [call]).length <= 1
  rw [onPath.fresh call.intent runnable]
  exact Nat.le_refl 1

theorem OnPath.step (call : ExecuteCall κ) : OnPath intent (supervisor.step texts call) := by
  unfold TaskSupervisor.step
  by_cases runnable : ∃ intent, supervisor.state = .runnable intent
  · rcases runnable with ⟨task, runnable⟩
    rw [execute_runnable runnable]
    exact (onPath.called runnable _).concluded rfl _
  · rw [execute_refused fun task isRunnable => runnable ⟨task, isRunnable⟩]
    exact onPath

end

theorem concluded_calls {answer : Option (Except KernelError KernelDispatch)} :
    (concluded texts supervisor answer).calls = supervisor.calls := by
  rcases answer with _ | _ | _ <;> rfl

/-- However often and with whatever kernels a supervisor is called, it calls
`execute_task` at most once; its states are a path of moves from the runnable
task to the present state; a further call leaves a terminal state; and a further
call that does not reach the kernel is refused and changes nothing. -/
theorem supervised_task_runs_once (texts : Texts) (intent : TaskIntent) (kernel : κ)
    (calls : List (ExecuteCall κ)) :
    let reached := Machine.run (step texts) (new intent kernel) calls
    reached.calls.length <= 1 /\
    (reached.states.IsChain Moves /\ reached.states.head? = some (.runnable intent) /\
      reached.states.getLast? = some reached.state) /\
    ∀ call : ExecuteCall κ,
      let outcome := execute texts call.executeTask call.packId call.token reached
      (reached.state.isTerminal = true -> outcome.2 = reached) /\
      (outcome.2.calls = reached.calls ->
        outcome = (.error (.fault (.protocolViolation "task is not in Runnable state")),
          reached)) := by
  intro reached
  have onPath : OnPath intent reached :=
    @Machine.run_invariant _ _ (step texts) (OnPath intent)
      (fun _ call onPath => onPath.step call) _ onPath_new calls
  refine ⟨onPath.once, ⟨onPath.path, onPath.first, onPath.last⟩, ?_⟩
  intro call outcome
  by_cases runnable : ∃ task, reached.state = .runnable task
  · rcases runnable with ⟨task, runnable⟩
    constructor
    · intro terminal
      rw [runnable] at terminal
      cases terminal
    · intro unchanged
      have grown : outcome.2.calls = reached.calls ++ [⟨call.packId, call.token, task⟩] := by
        rw [execute_runnable runnable, concluded_calls]
        rfl
      rw [grown] at unchanged
      exact absurd unchanged (by simp)
  · have refused : outcome =
        (.error (.fault (.protocolViolation "task is not in Runnable state")), reached) :=
      execute_refused fun task isRunnable => runnable ⟨task, isRunnable⟩
    exact ⟨fun _ => congrArg Prod.snd refused, fun _ => refused⟩

end TaskSupervisor

end LoongClaw.Kernel
