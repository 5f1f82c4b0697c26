import LoongClaw.Spec.Execution

namespace LoongClaw.Spec

open Foundation Contracts Kernel Program Fallible

/-!
# What a run executes

Every statement of a run adds to the log of executions at its end, and what it
adds comes from the operation of the spec: the operation itself, or a connector
call inside it with the caller that the operation declares.
-/

/-! ## Logs -/

section Logs

variable {π ω : Type}

/-- Only such executions are added. -/
def Logs (logged : Execution -> Prop) (before after : SpecState π ω) : Prop :=
  ∃ added, after.executions = before.executions ++ added /\
    ∀ execution, execution ∈ added -> logged execution

variable {logged : Execution -> Prop}

theorem Logs.of_same {before after : SpecState π ω}
    (same : after.executions = before.executions) : Logs logged before after :=
  ⟨[], by rw [same, List.append_nil], fun _ member => absurd member List.not_mem_nil⟩

theorem logs_interference :
    Interference (Logs logged : SpecState π ω -> SpecState π ω -> Prop) where
  refl _ := .of_same rfl
  trans := by
    rintro first second third ⟨added, grown, holds⟩ ⟨later, grownLater, holdsLater⟩
    refine ⟨added ++ later, by rw [grownLater, grown, List.append_assoc], ?_⟩
    intro execution member
    rcases List.mem_append.mp member with early | late
    · exact holds execution early
    · exact holdsLater execution late

variable {α : Type}

theorem respects_of_quiet
    {statement : SpecMoment ω -> SpecState π ω -> Except String α × SpecState π ω}
    (quiet : ∀ moment state, (statement moment state).2.executions = state.executions) :
    (atomic statement : SpecProgram π ω α).Respects (Logs logged) :=
  respects_atomic fun moment state => .of_same (quiet moment state)

theorem respects_onKernel {errorText : KernelError -> String} {executed : AdapterRun -> Execution}
    {action : Ambient ω -> KernelM π ω α} (holds : ∀ run, logged (executed run)) :
    (onKernel errorText executed action).Respects (Logs logged) := by
  refine respects_atomic fun moment state => ⟨_, rfl, ?_⟩
  intro execution member
  rcases List.mem_map.mp member with ⟨invocation, _, same⟩
  rw [<- same]
  exact holds invocation.run

end Logs

/-! ## Calls -/

section Calls

variable {π ω : Type} {logged : Execution -> Prop} (session : SpecSession)
  (rateLimits : OrderedMap String ProgrammaticConnectorRateLimit)
  (breakers : OrderedMap String ProgrammaticCircuitBreakerPolicy)

/-- Whatever adapter a call reaches, its execution is such. -/
def Loggable (logged : Execution -> Prop) (call : ConnectorInvocation) : Prop :=
  ∀ run, logged (callExecution call run)

theorem respects_applyProgrammaticRateLimit {connectorName : String} :
    (applyProgrammaticRateLimit rateLimits connectorName : SpecProgram π ω Nat).Respects
      (Logs logged) := by
  unfold applyProgrammaticRateLimit
  split
  · exact respects_pure _
  · exact respects_of_quiet fun _ _ => rfl

theorem respects_acquireProgrammaticCircuitSlot {call : ConnectorInvocation} :
    (acquireProgrammaticCircuitSlot breakers call : SpecProgram π ω String).Respects
      (Logs logged) := by
  unfold acquireProgrammaticCircuitSlot
  split
  · exact respects_pure _
  · exact respects_of_quiet fun _ _ => rfl

theorem respects_recordProgrammaticCircuitOutcome {connectorName : String} {success : Bool} :
    (recordProgrammaticCircuitOutcome breakers connectorName success :
      SpecProgram π ω String).Respects (Logs logged) := by
  unfold recordProgrammaticCircuitOutcome
  split
  · exact respects_pure _
  · exact respects_of_quiet fun _ _ => rfl

variable [PolicyEngine π] {call : ConnectorInvocation}

theorem respects_invokeAttempts (loggable : Loggable logged call) (circuitPhaseBefore : String)
    (remaining : Nat) (progress : AttemptProgress) :
    (invokeAttempts session rateLimits breakers call circuitPhaseBefore remaining progress :
      SpecProgram π ω InvocationResult).Respects (Logs logged) := by
  induction remaining generalizing progress with
  | zero => exact respects_fail _
  | succ remaining ih =>
    refine respects_bind (respects_applyProgrammaticRateLimit rateLimits) fun waited => ?_
    refine respects_bind (respects_caught (respects_onKernel loggable)) fun dispatch => ?_
    cases dispatch with
    | ok dispatch =>
      exact respects_map (respects_recordProgrammaticCircuitOutcome breakers)
    | error error =>
      dsimp only
      split
      · exact respects_bind (respects_recordProgrammaticCircuitOutcome breakers)
          fun _ => respects_fail _
      · exact ih _

theorem respects_invokeWithResilience (loggable : Loggable logged call) :
    (invokeProgrammaticConnectorWithResilience session rateLimits breakers call :
      SpecProgram π ω InvocationResult).Respects (Logs logged) :=
  respects_bind (respects_acquireProgrammaticCircuitSlot breakers) fun circuitPhaseBefore =>
    respects_invokeAttempts session rateLimits breakers loggable circuitPhaseBefore _ _

/-! ## Batches -/

/-- Every call that waits is such. -/
def PendingCalls.All (condition : ConnectorInvocation -> Prop) (pending : PendingCalls) : Prop :=
  ∀ priority call, call ∈ pending.queue priority -> condition call

variable {condition : ConnectorInvocation -> Prop} {calls : List ConnectorInvocation}
  {pending : PendingCalls} {cursor : Nat} {popped : PoppedCall} {progress : BatchProgress}
  {inFlight : InFlight π ω}

theorem groupByPriority_all (holds : ∀ call, call ∈ calls -> condition call) :
    (groupProgrammaticCallsByPriority calls).All condition := by
  intro priority call member
  cases priority with
  | high | normal | low => exact holds call (List.mem_of_mem_filter member)

theorem popFront_all (all : pending.All condition) {priority : ProgrammaticPriorityClass}
    (pops : popFront pending priority cursor = some popped) :
    condition popped.call /\ popped.pending.All condition := by
  unfold popFront at pops
  split at pops
  · cases pops
  · case h_2 call rest queued =>
      cases pops
      have ofQueue : ∀ member, member ∈ call :: rest -> condition member :=
        fun member inQueue => all priority member (by rw [queued]; exact inQueue)
      refine ⟨ofQueue call List.mem_cons_self, ?_⟩
      intro other member inOther
      rw [PendingCalls.queue_withQueue] at inOther
      split at inOther
      · exact ofQueue member (List.mem_cons_of_mem _ inOther)
      · exact all other member inOther

theorem popNext_all (all : pending.All condition) {fairness : ProgrammaticFairnessPolicy}
    {weightedCycle : List ProgrammaticPriorityClass}
    (pops : popNextProgrammaticCall fairness weightedCycle cursor pending = some popped) :
    condition popped.call /\ popped.pending.All condition := by
  have around : ∀ cycle, popAround cycle cursor pending = some popped ->
      condition popped.call /\ popped.pending.All condition := by
    intro cycle found
    rcases List.exists_of_findSome?_eq_some found with ⟨offset, _, fromOffset⟩
    rcases Option.bind_eq_some_iff.mp fromOffset with ⟨priority, _, front⟩
    exact popFront_all all front
  cases fairness with
  | strictRoundRobin => exact around _ pops
  | weightedRoundRobin =>
    unfold popNextProgrammaticCall at pops
    dsimp only at pops
    split at pops
    · exact popFront_all all pops
    · exact around _ pops

variable (concurrency : ProgrammaticConcurrencyPolicy)

/-- The calls of a batch, waiting or started, add such executions only. -/
def BatchLogs (logged : Execution -> Prop) (batch : BatchProgress × InFlight π ω) : Prop :=
  batch.1.pending.All (Loggable logged) /\
    ∀ entry, entry ∈ batch.2 -> entry.2.Respects (Logs logged)

theorem batchLogs_dispatchCalls (rounds : Nat) (holds : BatchLogs logged (progress, inFlight)) :
    BatchLogs logged
      (dispatchCalls session rateLimits breakers concurrency rounds progress inFlight) := by
  induction rounds generalizing progress inFlight with
  | zero => exact holds
  | succ rounds ih =>
    unfold dispatchCalls
    split
    · exact holds
    · split
      · exact holds
      · case h_2 popped pops =>
          rcases popNext_all holds.1 pops with ⟨loggable, stillAll⟩
          refine ih ⟨stillAll, ?_⟩
          intro entry member
          rcases List.mem_append.mp member with old | new
          · exact holds.2 entry old
          · rw [List.mem_singleton.mp new]
            exact respects_invokeWithResilience session rateLimits breakers loggable

theorem batchLogs_startCalls (holds : BatchLogs logged (progress, inFlight)) :
    BatchLogs logged (startCalls session rateLimits breakers concurrency progress inFlight) := by
  have dispatched := batchLogs_dispatchCalls session rateLimits breakers concurrency
    (pendingProgrammaticCallCount progress.pending) holds
  unfold startCalls
  dsimp only
  split
  · exact dispatched
  · exact dispatched

theorem respects_awaitCalls {rounds : Nat} (holds : BatchLogs logged (progress, inFlight)) :
    (awaitCalls session rateLimits breakers concurrency rounds progress inFlight).Respects
      (Logs logged) := by
  induction rounds generalizing progress inFlight with
  | zero => exact respects_fail _
  | succ rounds ih =>
    refine respects_advance (logs_interference).refl holds.2 ?_ ?_
    · intro later respects
      exact ih ⟨holds.1, respects⟩
    · intro call result rest respects
      have completed : BatchLogs logged (progress.completed concurrency call result, rest) := by
        refine ⟨?_, respects⟩
        unfold BatchProgress.completed BatchProgress.adapted BatchProgress.reported
          BatchProgress.succeeded BatchProgress.failed
        dsimp only
        repeat' split
        all_goals exact holds.1
      have started := batchLogs_startCalls session rateLimits breakers concurrency completed
      dsimp only
      split
      · exact respects_pure _
      · exact ih started

theorem respects_serialCalls (continueOnError : Bool)
    (loggable : ∀ call, call ∈ calls -> Loggable logged call) (progress : BatchProgress) :
    (serialCalls session rateLimits breakers continueOnError calls progress :
      SpecProgram π ω BatchProgress).Respects (Logs logged) := by
  induction calls generalizing progress with
  | nil => exact respects_pure _
  | cons call rest ih =>
    have others := ih fun other member => loggable other (List.mem_cons_of_mem _ member)
    refine respects_bind (respects_caught (respects_invokeWithResilience session rateLimits
      breakers (loggable call List.mem_cons_self))) fun result => ?_
    cases result with
    | ok result => exact others _
    | error error =>
      dsimp only
      split
      · exact others _
      · exact respects_fail _

theorem respects_executeProgrammaticBatchCalls {parallel continueOnError : Bool}
    (loggable : ∀ call, call ∈ calls -> Loggable logged call) :
    (executeProgrammaticBatchCalls session rateLimits breakers concurrency parallel
      continueOnError calls :
        SpecProgram π ω (List Json × ProgrammaticBatchExecutionSummary)).Respects
      (Logs logged) := by
  unfold executeProgrammaticBatchCalls
  split
  · refine respects_bind ?_ fun progress => ?_
    · unfold runConcurrentCalls
      dsimp only
      split
      · exact respects_pure _
      · exact respects_awaitCalls session rateLimits breakers concurrency
          (batchLogs_startCalls session rateLimits breakers concurrency
            ⟨groupByPriority_all loggable, fun _ member => absurd member List.not_mem_nil⟩)
    · split
      · exact respects_fail _
      · exact respects_pure _
  · exact respects_map (respects_serialCalls session rateLimits breakers continueOnError
      loggable _)

end Calls

/-! ## Prepared calls -/

variable {context : StepContext} {connectorName operation : String}
  {requiredCapabilities : CapabilitySet} {retry : Option ProgrammaticRetryPolicy}
  {priorityClass : ProgrammaticPriorityClass} {payload : Json} {prepared : ConnectorInvocation}
  {allowedConnectors seenCallIds : List String}

theorem prepareCall_eq_ok {callId : Option String}
    (prepares : prepareCall context callId connectorName operation requiredCapabilities retry
      priorityClass payload = .ok prepared) :
    connectorCoreKey prepared.connectorName prepared.operation =
        connectorCoreKey connectorName operation /\
      prepared.provenance.caller = context.caller := by
  rcases bind_eq_ok_iff.mp prepares with ⟨retryPolicy, _, prepares⟩
  rcases bind_eq_ok_iff.mp prepares with ⟨supplied, _, prepares⟩
  cases prepares
  exact ⟨rfl, rfl⟩

theorem prepareProgrammaticBatchCalls_mem {calls : List ProgrammaticBatchCall}
    {prepared : List ConnectorInvocation}
    (prepares : prepareProgrammaticBatchCalls context allowedConnectors seenCallIds calls =
      .ok prepared) {call : ConnectorInvocation} (member : call ∈ prepared) :
    connectorCoreKey call.connectorName call.operation ∈
        calls.map (fun call => connectorCoreKey call.connectorName call.operation) /\
      call.provenance.caller = context.caller := by
  induction calls generalizing seenCallIds prepared with
  | nil =>
    cases prepares
    cases member
  | cons first rest ih =>
    rcases bind_eq_ok_iff.mp prepares with ⟨head, ofHead, prepares⟩
    rcases bind_eq_ok_iff.mp prepares with ⟨others, ofOthers, prepares⟩
    cases prepares
    rcases List.mem_cons.mp member with same | later
    · rcases bind_eq_ok_iff.mp ofHead with ⟨_, _, ofHead⟩
      rcases bind_eq_ok_iff.mp ofHead with ⟨_, _, ofHead⟩
      rcases bind_eq_ok_iff.mp ofHead with ⟨_, _, ofHead⟩
      rcases prepareCall_eq_ok ofHead with ⟨sameKey, declared⟩
      rw [same]
      exact ⟨sameKey ▸ List.mem_cons_self, declared⟩
    · rcases ih ofOthers later with ⟨listed, declared⟩
      exact ⟨List.mem_cons_of_mem _ listed, declared⟩

/-! ## Operations -/

/-- A connector call inside a programmatic tool call. -/
structure InnerCall (call : ProgrammaticToolCall) (execution : Execution) : Prop where
  declared : Exists fun (prepared : ConnectorInvocation) => ∃ run,
    execution = callExecution prepared run /\ prepared.provenance.caller = call.caller
  listed : execution.key ∈ call.steps.flatMap stepCallKeys

/-- The execution comes from the operation: it is the operation itself, or a
call inside it. -/
def FromOperation (operation : OperationSpec) (execution : Execution) : Prop :=
  (∃ adapter, execution = ownExecution operation adapter) \/
    ∃ call, operation = .programmaticToolCall call /\ InnerCall call execution

section Operations

variable {π ω : Type} (session : SpecSession) {call : ProgrammaticToolCall}

variable [PolicyEngine π]

theorem respects_executeProgrammaticStep {step : ProgrammaticStep} (member : step ∈ call.steps)
    {progress : StepProgress} {index : Nat} :
    (executeProgrammaticStep session call progress index step :
      SpecProgram π ω StepProgress).Respects (Logs (InnerCall call)) := by
  cases step with
  | setLiteral stepId value =>
    exact respects_map respects_lift
  | jsonPointer | conditional =>
    exact respects_bind respects_lift fun _ => respects_lift
  | connectorCall stepId connectorName operation requiredCapabilities retry priorityClass
      payload =>
      refine respects_bind respects_lift fun _ => respects_lift_bind fun prepared ok => ?_
      rcases bind_eq_ok_iff.mp ok with ⟨_, _, ok⟩
      split at ok
      · cases ok
      rcases prepareCall_eq_ok ok with ⟨sameKey, declared⟩
      have listed : connectorCoreKey prepared.connectorName prepared.operation ∈
          call.steps.flatMap stepCallKeys := by
        rw [sameKey]
        exact List.mem_flatMap.mpr ⟨_, member, List.mem_singleton.mpr rfl⟩
      exact respects_map (respects_invokeWithResilience session _ _
        fun run => ⟨⟨_, run, rfl, declared⟩, listed⟩)
  | connectorBatch stepId parallel continueOnError calls =>
    refine respects_bind respects_lift fun _ => respects_lift_bind fun prepared ok => ?_
    rcases bind_eq_ok_iff.mp ok with ⟨_, _, ok⟩
    split at ok
    · cases ok
    · have loggable : ∀ batchCall, batchCall ∈ prepared -> Loggable (InnerCall call) batchCall := by
        intro batchCall inBatch
        rcases prepareProgrammaticBatchCalls_mem ok inBatch with ⟨listed, declared⟩
        exact fun run => ⟨⟨_, run, rfl, declared⟩, List.mem_flatMap.mpr ⟨_, member, listed⟩⟩
      exact respects_map (respects_executeProgrammaticBatchCalls session _ _ _ loggable)

theorem respects_executeProgrammaticSteps {steps : List ProgrammaticStep}
    (members : ∀ step, step ∈ steps -> step ∈ call.steps) (index : Nat)
    (progress : StepProgress) :
    (executeProgrammaticSteps session call index steps progress :
      SpecProgram π ω StepProgress).Respects (Logs (InnerCall call)) := by
  induction steps generalizing index progress with
  | nil => exact respects_pure _
  | cons step rest ih =>
    refine respects_bind (respects_executeProgrammaticStep session
      (members step List.mem_cons_self)) fun progress => ?_
    exact ih (fun other member => members other (List.mem_cons_of_mem _ member)) _ _

theorem respects_executeProgrammaticToolCall (call : ProgrammaticToolCall) :
    (executeProgrammaticToolCall session call : SpecProgram π ω Json).Respects
      (Logs (InnerCall call)) := by
  refine respects_bind respects_lift fun _ => ?_
  refine respects_bind (respects_of_quiet fun _ _ => rfl) fun _ => ?_
  refine respects_bind (respects_executeProgrammaticSteps session (fun _ member => member) 0 _)
    fun _ => respects_lift

theorem respects_executeSpecOperation {prepared : PreparedSpec} {operation : OperationSpec} :
    (executeSpecOperation session prepared operation :
      SpecProgram π ω (String × Json)).Respects (Logs (FromOperation operation)) := by
  cases operation with
  | toolSearch query limit includeDeferred includeExamples =>
    refine respects_atomic fun _ state => ⟨_, rfl, ?_⟩
    intro execution member
    rw [List.mem_singleton.mp member]
    exact Or.inl ⟨none, rfl⟩
  | programmaticToolCall call =>
    have inner := respects_executeProgrammaticToolCall (π := π) (ω := ω) session call
    refine respects_map (respects_mono inner ?_)
    rintro before after ⟨added, grown, holds⟩
    exact ⟨added, grown, fun execution member =>
      Or.inr ⟨call, rfl, holds execution member⟩⟩
  | task | connectorLegacy | connectorCore | connectorExtension | runtimeCore | runtimeExtension
    | toolCore | toolExtension | memoryCore | memoryExtension =>
    exact respects_bind (respects_onKernel fun run => Or.inl ⟨some run, rfl⟩) fun _ =>
      respects_pure _

end Operations

/-! ## Runs -/

section Runs

variable {π ω : Type} {environment : SpecEnvironment ω} (spec : RunnerSpec)
  {logged : Execution -> Prop}

theorem respects_configure {α : Type} {errorText : String -> String}
    {action : Ambient ω -> KernelM π ω α} :
    (configure environment errorText action).Respects (Logs logged) :=
  respects_of_quiet fun _ _ => rfl

theorem respects_selectDefault {plane : String} {name : Option String}
    {select : String -> KernelM π ω Unit} :
    (selectDefault environment plane name select).Respects (Logs logged) := by
  unfold selectDefault
  split
  · exact respects_pure _
  · exact respects_configure

variable [PolicyEngine π]

theorem respects_runPrepared {prepared : PreparedSpec} :
    (runPrepared environment spec prepared : SpecProgram π ω (String × Json)).Respects
      (Logs (FromOperation spec.operation)) := by
  refine respects_bind respects_configure fun _ => ?_
  refine respects_bind respects_configure fun _ => ?_
  refine respects_bind ?_ fun _ => ?_
  · refine respects_bind respects_selectDefault fun _ => ?_
    refine respects_bind respects_selectDefault fun _ => ?_
    refine respects_bind respects_selectDefault fun _ => ?_
    exact respects_selectDefault
  · refine respects_bind respects_configure fun token => ?_
    exact respects_executeSpecOperation (specSession environment prepared token)

/-- What a run executes comes from its operation, and nothing is executed unless
the guard approves. -/
theorem executeSpec_executions {kernel : LoongClawKernel π ω} :
    (executeSpec environment spec).Ensures
      (fun _ later => ∀ execution, execution ∈ later.executions ->
        (specGuard environment spec).approved = true /\ FromOperation spec.operation execution)
      (initialState kernel) := by
  have quiet : ∀ report, (pure report : SpecProgram π ω SpecRunReport).Ensures
      (fun _ later => ∀ execution, execution ∈ later.executions ->
        (specGuard environment spec).approved = true /\ FromOperation spec.operation execution)
      (initialState kernel) := by
    intro report
    refine ensures_pure ?_
    intro execution member
    cases member
  unfold executeSpec
  dsimp only
  split
  · exact quiet _
  · case h_2 passed =>
      split
      · exact quiet _
      · case h_2 prepared _ =>
          have approved : (specGuard environment spec).approved = true := by
            cases decision : (specGuard environment spec).approved with
            | true => rfl
            | false =>
              rw [guardReason, Option.or_eq_none_iff, Option.or_eq_none_iff, decision] at passed
              cases passed.2.2
          have logs : ((runPrepared environment spec prepared).caught >>= fun result =>
              pure (runReport spec (specGuard environment spec) prepared result) :
                SpecProgram π ω SpecRunReport).Respects (Logs (FromOperation spec.operation)) :=
            respects_map (respects_caught (respects_runPrepared spec))
          refine ensures_mono (ensures_of_respects logs_interference logs (initialState kernel)) ?_
          rintro result later ⟨added, grown, holds⟩ execution member
          rw [grown] at member
          exact ⟨approved, holds execution member⟩

end Runs

/-! ## A small run -/

namespace RunSample

def host : SpecHost Unit where
  jsonText _ := ""
  kernelErrorText _ := ""
  scaled _ _ := 0
  parsesAsVersion _ := true
  parseTexts _ := none
  enforceExecutionSuccess := false
  bridgeExecutionPayload _ _ _ _ := .null

def pack : VerticalPackManifest where
  packId := "pack"
  domain := "engineering"
  version := "0.1.0"
  defaultRoute := { harnessKind := .embeddedPi, adapter := none }
  allowedConnectors := {"crm", "webhook"}
  grantedCapabilities := {.invokeConnector}
  metadata := []

def environment (catalog : Plugins.IntegrationCatalog) : SpecEnvironment Unit where
  host := host
  approval := { nowEpochS := 0, loadApprovalRiskProfileFromPath := fun _ => none }
  guards := { securityPolicyError := none, bridgeMismatch := none, awarenessBlock := none }
  preparation := .ok { catalog := catalog, pack := pack, searchTools := fun _ _ _ _ => [] }

def spec (deniedCalls : List String) (operation : OperationSpec) : RunnerSpec where
  pack := pack
  agentId := "agent"
  ttlS := 60
  approval := some { HumanApprovalSpec.default with
    mode := .disabled
    deniedCalls := deniedCalls }
  defaults := none
  operation := operation

def kernel : LoongClawKernel StaticPolicyEngine Unit :=
  .withRuntime .new fun _ _ => none

def command (connectorName : String) (payload : Json) : ConnectorCommand where
  connectorName := connectorName
  operation := "send"
  requiredCapabilities := {.invokeConnector}
  payload := payload

/-- What a run executes, undisturbed. -/
def executions (catalog : Plugins.IntegrationCatalog) (spec : RunnerSpec) : List Execution :=
  (perform (executeSpec (environment catalog) spec) ([], initialState kernel)).2.2.executions

end RunSample

end LoongClaw.Spec
