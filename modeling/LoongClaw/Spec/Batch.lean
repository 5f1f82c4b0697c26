import LoongClaw.Spec.Resilience

namespace LoongClaw.Spec

open Foundation Contracts Kernel Program

/-!
# Batches of connector calls

The calls of a batch are made one after the other, or beside each other within
a budget.  The calls that wait are queued by priority, and the budget follows
the outcomes.  Which call moves next is up to the circumstances.
-/

/-! ## Queues -/

/-- The calls that wait, in a queue for each priority. -/
structure PendingCalls where
  (high normal low : List ConnectorInvocation)

namespace PendingCalls

def queue (pending : PendingCalls) : ProgrammaticPriorityClass -> List ConnectorInvocation
  | .high => pending.high
  | .normal => pending.normal
  | .low => pending.low

def withQueue (pending : PendingCalls) (priority : ProgrammaticPriorityClass)
    (calls : List ConnectorInvocation) : PendingCalls :=
  match priority with
  | .high => { pending with high := calls }
  | .normal => { pending with normal := calls }
  | .low => { pending with low := calls }

theorem queue_withQueue {pending : PendingCalls} {priority other : ProgrammaticPriorityClass}
    {calls : List ConnectorInvocation} :
    (pending.withQueue priority calls).queue other =
      if other = priority then calls else pending.queue other := by
  cases priority <;> cases other <;> rfl

end PendingCalls

def groupProgrammaticCallsByPriority (calls : List ConnectorInvocation) : PendingCalls where
  high := calls.filter fun call => decide (call.priorityClass = .high)
  normal := calls.filter fun call => decide (call.priorityClass = .normal)
  low := calls.filter fun call => decide (call.priorityClass = .low)

def pendingProgrammaticCallCount (pending : PendingCalls) : Nat :=
  pending.high.length + pending.normal.length + pending.low.length

def strictOrder : List ProgrammaticPriorityClass :=
  [.high, .normal, .low]

variable (concurrency : ProgrammaticConcurrencyPolicy) (call : ConnectorInvocation)

def buildProgrammaticWeightedCycle : List ProgrammaticPriorityClass :=
  List.replicate (max concurrency.highWeight 1) .high ++
    List.replicate (max concurrency.normalWeight 1) .normal ++
      List.replicate (max concurrency.lowWeight 1) .low

/-- A call that was taken from its queue, with what waits after it and where the
next search starts. -/
structure PoppedCall where
  call : ConnectorInvocation
  pending : PendingCalls
  cursor : Nat

def popFront (pending : PendingCalls) (priority : ProgrammaticPriorityClass) (cursor : Nat) :
    Option PoppedCall :=
  match pending.queue priority with
  | [] => none
  | call :: rest => some { call, pending := pending.withQueue priority rest, cursor }

/-- Go once around the cycle from the cursor. -/
def popAround (cycle : List ProgrammaticPriorityClass) (cursor : Nat) (pending : PendingCalls) :
    Option PoppedCall :=
  (List.range cycle.length).findSome? fun offset =>
    let index := (cursor + offset) % cycle.length
    (cycle[index]?).bind fun priority =>
      popFront pending priority ((index + 1) % cycle.length)

def popNextProgrammaticCall (fairness : ProgrammaticFairnessPolicy)
    (weightedCycle : List ProgrammaticPriorityClass) (cursor : Nat) (pending : PendingCalls) :
    Option PoppedCall :=
  match fairness with
  | .strictRoundRobin => popAround strictOrder cursor pending
  | .weightedRoundRobin =>
    if weightedCycle.isEmpty then popFront pending .normal cursor
    else popAround weightedCycle cursor pending

/-! ## Progress -/

structure ProgrammaticBatchExecutionSummary where
  (mode fairness : String)
  adaptiveBudget : Bool
  (configuredMaxInFlight configuredMinInFlight peakInFlight finalInFlightBudget : Nat)
  (budgetReductions budgetIncreases adaptiveUpshiftStep adaptiveDownshiftStep : Nat)
  adaptiveReduceOn : List String
  schedulerWaitCycles : Nat
  dispatchOrder : List String
  priorityDispatchCounts : OrderedMap String Nat

variable (scheduler : ProgrammaticBatchExecutionSummary)

def ProgrammaticBatchExecutionSummary.toJson : Json :=
  .ofFields
    [("mode", .string scheduler.mode), ("fairness", .string scheduler.fairness),
      ("adaptive_budget", .bool scheduler.adaptiveBudget),
      ("configured_max_in_flight", .ofNat scheduler.configuredMaxInFlight),
      ("configured_min_in_flight", .ofNat scheduler.configuredMinInFlight),
      ("peak_in_flight", .ofNat scheduler.peakInFlight),
      ("final_in_flight_budget", .ofNat scheduler.finalInFlightBudget),
      ("budget_reductions", .ofNat scheduler.budgetReductions),
      ("budget_increases", .ofNat scheduler.budgetIncreases),
      ("adaptive_upshift_step", .ofNat scheduler.adaptiveUpshiftStep),
      ("adaptive_downshift_step", .ofNat scheduler.adaptiveDownshiftStep),
      ("adaptive_reduce_on", .array (scheduler.adaptiveReduceOn.map .string)),
      ("scheduler_wait_cycles", .ofNat scheduler.schedulerWaitCycles),
      ("dispatch_order", .array (scheduler.dispatchOrder.map .string)),
      ("priority_dispatch_counts",
        .object (scheduler.priorityDispatchCounts.map fun entry => (entry.1, .ofNat entry.2)))]

def newSummary (concurrent : Bool) : ProgrammaticBatchExecutionSummary where
  mode := if concurrent then "parallel" else "serial"
  fairness := concurrency.fairness.asStr
  adaptiveBudget := concurrent && concurrency.adaptiveBudget
  configuredMaxInFlight := concurrency.maxInFlight
  configuredMinInFlight := concurrency.minInFlight
  peakInFlight := 0
  finalInFlightBudget := 1
  budgetReductions := 0
  budgetIncreases := 0
  adaptiveUpshiftStep := concurrency.adaptiveUpshiftStep
  adaptiveDownshiftStep := concurrency.adaptiveDownshiftStep
  adaptiveReduceOn := concurrency.adaptiveReduceOn.map ProgrammaticAdaptiveReduceOn.asStr
  schedulerWaitCycles := 0
  dispatchOrder := []
  priorityDispatchCounts := [("high", 0), ("low", 0), ("normal", 0)]

def ConnectorInvocation.callIdText : String :=
  call.provenance.callId.getD ""

/-- Note that a call was started. -/
def ProgrammaticBatchExecutionSummary.dispatched (call : ConnectorInvocation) :
    ProgrammaticBatchExecutionSummary :=
  { scheduler with
    dispatchOrder := scheduler.dispatchOrder ++ [call.callIdText]
    priorityDispatchCounts := scheduler.priorityDispatchCounts.map fun entry =>
      if entry.1 = call.priorityClass.asStr then (entry.1, entry.2 + 1) else entry }

def shouldReduceProgrammaticBudget (errorCode : String) : Bool :=
  decide (ProgrammaticAdaptiveReduceOn.anyError ∈ concurrency.adaptiveReduceOn) ||
    concurrency.adaptiveReduceOn.any fun trigger =>
      decide (trigger ≠ .anyError) && decide (trigger.asStr = errorCode)

def outcomeJson (outcome : ConnectorOutcome) : Json :=
  .ofFields [("status", .string outcome.status), ("payload", outcome.payload)]

/-- The report on a call of a batch. -/
def callReport : Except String InvocationResult -> Json
  | .ok result =>
    .ofFields
      [("call_id", .string call.callIdText), ("status", .string "ok"),
        ("connector_name", .string result.dispatch.connectorName),
        ("operation", .string call.operation),
        ("outcome", outcomeJson result.dispatch.outcome),
        ("execution", result.metrics.toJson)]
  | .error error =>
    .ofFields
      [("call_id", .string call.callIdText), ("status", .string "error"),
        ("connector_name", .string call.connectorName), ("operation", .string call.operation),
        ("error", .string error), ("error_code", .string (classifyConnectorErrorCode error))]

def batchCallError (error : String) : String :=
  programmaticError .connectorInvokeFailed
    ("programmatic batch step " ++ call.provenance.stepId ++ " call " ++ call.callIdText ++
      " failed: " ++ error)

/-- What a batch has been through. -/
structure BatchProgress where
  pending : PendingCalls
  (fairnessCursor currentBudget consecutiveSuccesses : Nat)
  reportsByCall : OrderedMap String Json
  firstError : Option String
  scheduler : ProgrammaticBatchExecutionSummary

namespace BatchProgress

variable (concurrency : ProgrammaticConcurrencyPolicy) (progress : BatchProgress)

/-- Keep the report on a call, and the first error. -/
def reported (call : ConnectorInvocation) (result : Except String InvocationResult) :
    BatchProgress :=
  { progress with
    reportsByCall :=
      OrderedMap.insert call.callIdText (callReport call result) progress.reportsByCall
    firstError := progress.firstError.or
      (match result with
        | .ok _ => none
        | .error error => some (batchCallError call error)) }

/-- The budget grows again after enough successes. -/
def succeeded : BatchProgress :=
  let consecutiveSuccesses := progress.consecutiveSuccesses + 1
  if progress.currentBudget < concurrency.maxInFlight /\
      concurrency.adaptiveRecoverySuccesses <= consecutiveSuccesses then
    { progress with
      currentBudget :=
        min (progress.currentBudget + concurrency.adaptiveUpshiftStep) concurrency.maxInFlight
      consecutiveSuccesses := 0
      scheduler := { progress.scheduler with
        budgetIncreases := progress.scheduler.budgetIncreases + 1 } }
  else { progress with consecutiveSuccesses }

/-- The budget shrinks after a failure of a kind that the policy names. -/
def failed (errorCode : String) : BatchProgress :=
  if shouldReduceProgrammaticBudget concurrency errorCode = true /\
      concurrency.minInFlight < progress.currentBudget then
    { progress with
      currentBudget :=
        max (progress.currentBudget - concurrency.adaptiveDownshiftStep) concurrency.minInFlight
      consecutiveSuccesses := 0
      scheduler := { progress.scheduler with
        budgetReductions := progress.scheduler.budgetReductions + 1 } }
  else { progress with consecutiveSuccesses := 0 }

def adapted (result : Except String InvocationResult) : BatchProgress :=
  if progress.scheduler.adaptiveBudget then
    match result with
    | .ok _ => progress.succeeded concurrency
    | .error error => progress.failed concurrency (classifyConnectorErrorCode error)
  else progress

/-- A call came to its end. -/
def completed (call : ConnectorInvocation) (result : Except String InvocationResult) :
    BatchProgress :=
  let adapted := (progress.reported call result).adapted concurrency result
  { adapted with
    scheduler := { adapted.scheduler with finalInFlightBudget := adapted.currentBudget } }

/-- The reports in the order of the calls. -/
def reports (calls : List ConnectorInvocation) : List Json :=
  calls.filterMap fun call => OrderedMap.lookup call.callIdText progress.reportsByCall

end BatchProgress

/-! ## Execution -/

section Execution

variable {π ω : Type} [PolicyEngine π] (session : SpecSession)
  (rateLimits : OrderedMap String ProgrammaticConnectorRateLimit)
  (breakers : OrderedMap String ProgrammaticCircuitBreakerPolicy)
  (concurrency : ProgrammaticConcurrencyPolicy)

/-- The calls that were started and have not ended. -/
abbrev InFlight (π ω : Type) :=
  List (ConnectorInvocation × SpecProgram π ω InvocationResult)

/-- Start calls until the budget is used up.  Each takes a call from the queues,
so `rounds` may be the number of calls that wait. -/
def dispatchCalls : Nat -> BatchProgress -> InFlight π ω -> BatchProgress × InFlight π ω
  | 0, progress, inFlight => (progress, inFlight)
  | rounds + 1, progress, inFlight =>
    if progress.currentBudget <= inFlight.length then (progress, inFlight)
    else
      match popNextProgrammaticCall concurrency.fairness
          (buildProgrammaticWeightedCycle concurrency) progress.fairnessCursor
          progress.pending with
      | none => (progress, inFlight)
      | some popped =>
        let inFlight := inFlight ++ [(popped.call,
          invokeProgrammaticConnectorWithResilience session rateLimits breakers popped.call)]
        let scheduler := progress.scheduler.dispatched popped.call
        dispatchCalls rounds
          { progress with
            pending := popped.pending
            fairnessCursor := popped.cursor
            scheduler := { scheduler with
              peakInFlight := max scheduler.peakInFlight inFlight.length } }
          inFlight

/-- The head of the loop: start calls, and count the rounds in which the budget
kept calls waiting. -/
def startCalls (progress : BatchProgress) (inFlight : InFlight π ω) :
    BatchProgress × InFlight π ω :=
  let pendingBefore := pendingProgrammaticCallCount progress.pending
  let dispatched :=
    dispatchCalls session rateLimits breakers concurrency pendingBefore progress inFlight
  if !dispatched.2.isEmpty && decide (0 < pendingBefore) &&
      decide (dispatched.1.currentBudget <= dispatched.2.length) then
    ({ dispatched.1 with
        scheduler := { dispatched.1.scheduler with
          schedulerWaitCycles := dispatched.1.scheduler.schedulerWaitCycles + 1 } },
      dispatched.2)
  else dispatched

/-- The statements of a call: the circuit, two for each attempt, and the record of
the outcome. -/
def callStatements (call : ConnectorInvocation) : Nat :=
  2 * call.retryPolicy.maxAttempts + 2

def batchStatements (calls : List ConnectorInvocation) : Nat :=
  calls.foldl (fun total call => total + callStatements call) 0

/-- Wait for calls to end, and start others, until none is left.  A round is a
statement of a call. -/
def awaitCalls : Nat -> BatchProgress -> InFlight π ω -> SpecProgram π ω BatchProgress
  | 0, _, _ => fail "batch calls did not end"
  | rounds + 1, progress, inFlight =>
    advance SpecMoment.pick inFlight (fun inFlight => awaitCalls rounds progress inFlight)
      (fun call result rest =>
        let started := startCalls session rateLimits breakers concurrency
          (progress.completed concurrency call result) rest
        if started.2.isEmpty then pure started.1 else awaitCalls rounds started.1 started.2)

def newProgress (scheduler : ProgrammaticBatchExecutionSummary) (currentBudget : Nat)
    (calls : List ConnectorInvocation) : BatchProgress where
  pending := groupProgrammaticCallsByPriority calls
  fairnessCursor := 0
  currentBudget
  consecutiveSuccesses := 0
  reportsByCall := []
  firstError := none
  scheduler

def runConcurrentCalls (calls : List ConnectorInvocation) : SpecProgram π ω BatchProgress :=
  let started := startCalls session rateLimits breakers concurrency (newProgress
      { newSummary concurrency true with finalInFlightBudget := concurrency.maxInFlight }
      concurrency.maxInFlight calls) []
  if started.2.isEmpty then pure started.1
  else
    awaitCalls session rateLimits breakers concurrency (batchStatements calls) started.1 started.2

def executeConcurrentCalls (continueOnError : Bool) (calls : List ConnectorInvocation) :
    SpecProgram π ω (List Json × ProgrammaticBatchExecutionSummary) := do
  let progress <- runConcurrentCalls session rateLimits breakers concurrency calls
  match progress.firstError.filter fun _ => !continueOnError with
  | some error => fail error
  | none => pure (progress.reports calls, progress.scheduler)

/-- Make the calls one after the other. -/
def serialCalls (continueOnError : Bool) :
    List ConnectorInvocation -> BatchProgress -> SpecProgram π ω BatchProgress
  | [], progress => pure progress
  | call :: rest, progress => do
    let result <-
      (invokeProgrammaticConnectorWithResilience session rateLimits breakers call).caught
    let scheduler := { progress.scheduler.dispatched call with peakInFlight := 1 }
    match result with
    | .ok result =>
      serialCalls continueOnError rest
        { progress.reported call (.ok result) with scheduler := scheduler }
    | .error error =>
      if continueOnError then
        serialCalls continueOnError rest
          { progress.reported call (.error error) with scheduler := scheduler }
      else fail (batchCallError call error)

def executeSerialCalls (continueOnError : Bool) (calls : List ConnectorInvocation) :
    SpecProgram π ω (List Json × ProgrammaticBatchExecutionSummary) := do
  let progress <- serialCalls session rateLimits breakers continueOnError calls
    (newProgress (newSummary concurrency false) 1 [])
  pure (progress.reports calls, progress.scheduler)

def executeProgrammaticBatchCalls (parallel continueOnError : Bool)
    (calls : List ConnectorInvocation) :
    SpecProgram π ω (List Json × ProgrammaticBatchExecutionSummary) :=
  if parallel && decide (1 < calls.length) then
    executeConcurrentCalls session rateLimits breakers concurrency continueOnError calls
  else executeSerialCalls session rateLimits breakers concurrency continueOnError calls

end Execution

end LoongClaw.Spec
