import LoongClaw.Foundation.Scheduling
import LoongClaw.Spec.Templates

namespace LoongClaw.Spec

open Foundation Contracts Kernel Program OrderedMap Text

/-!
# Connector calls with resilience

A connector call of a programmatic tool call waits for the rate limit of its
connector, is retried, and is refused while the circuit breaker of the
connector is open.

The state keeps a log of the operations that an adapter has executed.  An entry
of the log says where the operation comes from, and for a call also the payload
that the spec supplied for it.
-/

/-! ## State -/

/-- Where a connector call comes from, and its payload before the runtime has
added to it. -/
structure CallProvenance where
  (caller stepId : String)
  stepIndex : Nat
  callId : Option String
  supplied : Json

inductive Origin where
  | operation
  | call (provenance : CallProvenance)

/-- An operation that was executed: its key, the adapter that ran, and the
command that a connector was given. -/
structure Execution where
  key : String
  origin : Origin
  adapter : Option AdapterRun
  command : Option ConnectorCommand

inductive ProgrammaticCircuitPhase where
  | closed
  | opened
  | halfOpen
  deriving DecidableEq

def ProgrammaticCircuitPhase.asStr : ProgrammaticCircuitPhase -> String
  | .closed => "closed"
  | .opened => "open"
  | .halfOpen => "half_open"

structure ProgrammaticCircuitRuntimeState where
  phase : ProgrammaticCircuitPhase
  consecutiveFailures : Nat
  openUntil : Option Nat
  (halfOpenRemainingCalls halfOpenSuccesses : Nat)

def ProgrammaticCircuitRuntimeState.default : ProgrammaticCircuitRuntimeState where
  phase := .closed
  consecutiveFailures := 0
  openUntil := none
  halfOpenRemainingCalls := 0
  halfOpenSuccesses := 0

/-- What happens around a statement: the monotonic clock in nanoseconds, what is
around a call of the kernel, and which call of a batch moves. -/
structure SpecMoment (ω : Type) where
  now : Nat
  ambient : Ambient ω
  pick : Nat

instance {ω : Type} [Inhabited ω] : Inhabited (SpecMoment ω) where
  default := { now := 0, ambient := { nowEpochS := 0, world := default }, pick := 0 }

structure SpecState (π ω : Type) where
  kernel : LoongClawKernel π ω
  rates : OrderedMap String Nat
  circuits : OrderedMap String ProgrammaticCircuitRuntimeState
  executions : List Execution

/-- What a run has in common: its pack and token, and what libraries compute.
`scaled` is the rounded product of an integer and a floating-point number. -/
structure SpecSession where
  packId : String
  token : CapabilityToken
  jsonText : Json -> String
  kernelErrorText : KernelError -> String
  scaled : Nat -> FloatNumber -> Nat

abbrev SpecProgram (π ω α : Type) :=
  Program (SpecMoment ω) (SpecState π ω) String α

def nanosOfMillis (millis : Nat) : Nat :=
  millis * 1000000

def millisOfNanos (nanos : Nat) : Nat :=
  nanos / 1000000

def u64Max : Nat :=
  2 ^ 64 - 1

variable {π ω : Type}

/-- A call of the kernel.  The adapters that it ran go into the log. -/
def onKernel {α : Type} (errorText : KernelError -> String) (executed : AdapterRun -> Execution)
    (action : Ambient ω -> KernelM π ω α) : SpecProgram π ω α :=
  atomic fun moment state =>
    let outcome := action moment.ambient state.kernel
    (outcome.1.mapError errorText,
      { state with
        kernel := outcome.2
        executions := state.executions ++
          (outcome.2.invocations.drop state.kernel.invocations.length).map fun invocation =>
            executed invocation.run })

/-! ## Provenance -/

variable (policy : ProgrammaticCircuitBreakerPolicy) (call : ConnectorInvocation)
  (provenance : CallProvenance) (now : Nat) (entry : ProgrammaticCircuitRuntimeState)

/-- The entries that the runtime writes for a call. -/
def CallProvenance.entries : OrderedMap String Json :=
  [("caller", .string provenance.caller), ("mode", .string "programmatic_tool_call"),
    ("step_id", .string provenance.stepId), ("step_index", .ofNat provenance.stepIndex)] ++
    (provenance.callId.map fun callId => ("call_id", Json.string callId)).toList

/-- The fields of a payload.  One that is not an object becomes a field. -/
def payloadMap : Json -> OrderedMap String Json
  | .object fields => fields
  | other => [("input", other)]

/-- The entries under the reserved key of a payload. -/
def reservedEntries (payload : Json) : OrderedMap String Json :=
  ((payload.get "_loongclaw").bind Json.asObject).getD []

def attachProgrammaticPayloadProvenance : Json :=
  let payloadMap := payloadMap provenance.supplied
  let supplied := ((lookup "_loongclaw" payloadMap).bind Json.asObject).getD []
  .object (insert "_loongclaw" (.object (extend supplied provenance.entries))
    (erase "_loongclaw" payloadMap))

/-- Supplied entries stay, unless the runtime writes over them. -/
theorem lookup_reservedEntries_attach {key : String} :
    lookup key (reservedEntries (attachProgrammaticPayloadProvenance provenance)) =
      (lookup key provenance.entries).or (lookup key (reservedEntries provenance.supplied)) := by
  have supplied : (lookup "_loongclaw" (payloadMap provenance.supplied)).bind
      Json.asObject = (provenance.supplied.get "_loongclaw").bind Json.asObject := by
    cases provenance.supplied <;> rfl
  unfold reservedEntries attachProgrammaticPayloadProvenance
  simp only [Json.get_object, lookup_insert_self, Option.bind_some,
    Json.asObject_object, Option.getD_some, lookup_extend, supplied]

/-- A connector call that is ready to be made. -/
structure ConnectorInvocation where
  provenance : CallProvenance
  (connectorName operation : String)
  requiredCapabilities : CapabilitySet
  retryPolicy : ProgrammaticRetryPolicy
  priorityClass : ProgrammaticPriorityClass

def ConnectorInvocation.command : ConnectorCommand where
  connectorName := call.connectorName
  operation := call.operation
  requiredCapabilities := call.requiredCapabilities
  payload := attachProgrammaticPayloadProvenance call.provenance

/-- The record that a connector was called. -/
def callExecution (run : AdapterRun) : Execution where
  key := connectorCoreKey call.connectorName call.operation
  origin := .call call.provenance
  adapter := some run
  command := some call.command

def callLabel (callId : Option String) : String :=
  (callId.map fun callId => " call_id=" ++ callId).getD ""

/-! ## Rate limits -/

/-- Reserve the next start of a connector.  Returns how long to wait for it. -/
def reserveStart (limit : ProgrammaticConnectorRateLimit) (now : Nat) (scheduled : Option Nat) :
    Nat × Nat :=
  let scheduled := scheduled.getD now
  (scheduled - now, max scheduled now + nanosOfMillis limit.minIntervalMs)

def applyProgrammaticRateLimit (rateLimits : OrderedMap String ProgrammaticConnectorRateLimit)
    (connectorName : String) : SpecProgram π ω Nat :=
  match lookup connectorName rateLimits with
  | none => pure 0
  | some limit =>
    atomic fun moment state =>
      let reserved := reserveStart limit moment.now (lookup connectorName state.rates)
      (.ok (millisOfNanos reserved.1),
        { state with rates := insert connectorName reserved.2 state.rates })

/-! ## Circuit breakers -/

def circuitOpenError (reason : String) : String :=
  programmaticError .circuitOpen
    ("programmatic step " ++ call.provenance.stepId ++ callLabel call.provenance.callId ++
      " connector " ++ call.connectorName ++ reason)

/-- The circuit after its cooldown. -/
def ProgrammaticCircuitRuntimeState.reopened : ProgrammaticCircuitRuntimeState :=
  { entry with
    phase := .halfOpen
    openUntil := none
    halfOpenRemainingCalls := policy.halfOpenMaxCalls
    halfOpenSuccesses := 0 }

/-- Admit a call, unless the probes of the half-open circuit are used up. -/
def admitCall : Except String String × ProgrammaticCircuitRuntimeState :=
  if entry.phase = .halfOpen then
    if entry.halfOpenRemainingCalls = 0 then
      (.error (circuitOpenError call " half-open window exhausted and re-opened"),
        { entry with phase := .opened, openUntil := some (now + nanosOfMillis policy.cooldownMs) })
    else
      (.ok "half_open", { entry with halfOpenRemainingCalls := entry.halfOpenRemainingCalls - 1 })
  else (.ok "closed", entry)

def acquireSlot : Except String String × ProgrammaticCircuitRuntimeState :=
  if entry.phase = .opened then
    match entry.openUntil.filter fun deadline => decide (now < deadline) with
    | some deadline =>
      (.error (circuitOpenError call (" is circuit-open (remaining_cooldown_ms=" ++
        toString (millisOfNanos (deadline - now)) ++ ")")), entry)
    | none => admitCall policy call now (entry.reopened policy)
  else admitCall policy call now entry

variable (policies : OrderedMap String ProgrammaticCircuitBreakerPolicy)

def acquireProgrammaticCircuitSlot (call : ConnectorInvocation) : SpecProgram π ω String :=
  match lookup call.connectorName policies with
  | none => pure "disabled"
  | some policy =>
    atomic fun moment state =>
      let acquired := acquireSlot policy call moment.now
        ((lookup call.connectorName state.circuits).getD .default)
      (acquired.1,
        { state with
          circuits := insert call.connectorName acquired.2 state.circuits })

/-- Open a circuit that was half open. -/
def ProgrammaticCircuitRuntimeState.tripped : ProgrammaticCircuitRuntimeState :=
  { entry with
    phase := .opened
    openUntil := some (now + nanosOfMillis policy.cooldownMs)
    halfOpenSuccesses := 0 }

def recordOutcome (success : Bool) (entry : ProgrammaticCircuitRuntimeState) :
    ProgrammaticCircuitRuntimeState :=
  match entry.phase, success with
  | .closed, true => { entry with consecutiveFailures := 0 }
  | .closed, false =>
    let failed := { entry with consecutiveFailures := entry.consecutiveFailures + 1 }
    if policy.failureThreshold <= failed.consecutiveFailures then
      { failed.tripped policy now with halfOpenRemainingCalls := 0 }
    else failed
  | .halfOpen, true =>
    let succeeded := { entry with halfOpenSuccesses := entry.halfOpenSuccesses + 1 }
    if policy.successThreshold <= succeeded.halfOpenSuccesses then
      { phase := .closed
        consecutiveFailures := 0
        openUntil := none
        halfOpenRemainingCalls := 0
        halfOpenSuccesses := 0 }
    else if succeeded.halfOpenRemainingCalls = 0 then succeeded.tripped policy now
    else succeeded
  | .halfOpen, false => { entry.tripped policy now with halfOpenRemainingCalls := 0 }
  | .opened, _ => entry

def recordProgrammaticCircuitOutcome (connectorName : String)
    (success : Bool) : SpecProgram π ω String :=
  match lookup connectorName policies with
  | none => pure "disabled"
  | some policy =>
    atomic fun moment state =>
      let recorded := recordOutcome policy moment.now success
        ((lookup connectorName state.circuits).getD .default)
      (.ok recorded.phase.asStr,
        { state with circuits := insert connectorName recorded state.circuits })

/-! ## Retries -/

def adapterNotFoundText : String :=
  "core connector adapter not found"

def normalizeConnectorErrorMessage (error : String) : String :=
  if containsText (toAsciiLowercase error) adapterNotFoundText then
    match breakOn adapterNotFoundText.toList error.toList with
    | some (before, after) =>
      String.ofList before ++ "connector not found" ++ String.ofList after
    | none => error
  else error

def classifyConnectorErrorCode (error : String) : String :=
  let normalized := toAsciiLowercase error
  if containsText normalized "programmatic_error[circuit_open]" then "circuit_open"
  else if containsText normalized "connector not found" ||
      containsText normalized adapterNotFoundText then "connector_not_found"
  else if containsText normalized "not allowed" then "connector_not_allowed"
  else if containsText normalized "missing required capability" then "capability_denied"
  else if containsText normalized "policy denied" then "policy_denied"
  else "connector_execution_error"

/-- The FNV-1a hash of the seed, below the modulus. -/
def deterministicJitterMs (seed : String) (modulus : Nat) : Nat :=
  if modulus = 0 then 0
  else
    let hash := seed.toUTF8.toList.foldl
      (fun (hash : UInt64) byte => (hash ^^^ byte.toUInt64) * 0x100000001b3) 0xcbf29ce484222325
    hash.toNat % modulus

def computeProgrammaticBackoffMs (session : SpecSession) (call : ConnectorInvocation)
    (attempt : Nat) : Nat :=
  let policy := call.retryPolicy
  if attempt = 0 then 0
  else
    let base := min policy.maxBackoffMs
      (min u64Max (policy.initialBackoffMs * min u64Max (2 ^ ((attempt - 1) % 2 ^ 32))))
    let withoutJitter := !policy.adaptiveJitter || decide (base = 0) ||
      policy.jitterRatio.value.any (fun ratio => decide (ratio <= 0))
    let jitterCap := session.scaled base policy.jitterRatio
    if withoutJitter || decide (jitterCap = 0) then base
    else
      let seed := call.connectorName ++ "|" ++ call.provenance.stepId ++ "|" ++
        call.provenance.callId.getD "no-call-id" ++ "|attempt-" ++ toString attempt
      let jitter := deterministicJitterMs seed (min u64Max (jitterCap + 1))
      min policy.maxBackoffMs (min u64Max (base + jitter))

structure ProgrammaticInvocationMetrics where
  (attempts retries : Nat)
  priorityClass : String
  (rateWaitMsTotal backoffMsTotal : Nat)
  (circuitPhaseBefore circuitPhaseAfter : String)

def ProgrammaticInvocationMetrics.toJson (metrics : ProgrammaticInvocationMetrics) : Json :=
  .object
    [("attempts", .ofNat metrics.attempts), ("backoff_ms_total", .ofNat metrics.backoffMsTotal),
      ("circuit_phase_after", .string metrics.circuitPhaseAfter),
      ("circuit_phase_before", .string metrics.circuitPhaseBefore),
      ("priority_class", .string metrics.priorityClass),
      ("rate_wait_ms_total", .ofNat metrics.rateWaitMsTotal),
      ("retries", .ofNat metrics.retries)]

/-- The answer of a connector, and how the call went. -/
structure InvocationResult where
  dispatch : LoongClawKernel.ConnectorDispatch
  metrics : ProgrammaticInvocationMetrics

/-- What a call has been through before an attempt. -/
structure AttemptProgress where
  (attempt rateWaitMsTotal backoffMsTotal : Nat)
  lastError : Option String

section Invocation

variable [PolicyEngine π] (session : SpecSession)
  (rateLimits : OrderedMap String ProgrammaticConnectorRateLimit)
  (breakers : OrderedMap String ProgrammaticCircuitBreakerPolicy) (call : ConnectorInvocation)
  (circuitPhaseBefore : String)

def dispatchConnector : SpecProgram π ω LoongClawKernel.ConnectorDispatch :=
  onKernel session.kernelErrorText (callExecution call)
    (fun ambient => LoongClawKernel.executeConnectorCore ambient session.packId session.token
      (some call.connectorName) call.command)

def attemptSucceeded (progress : AttemptProgress)
    (dispatch : LoongClawKernel.ConnectorDispatch) : SpecProgram π ω InvocationResult := do
  let circuitPhaseAfter <- recordProgrammaticCircuitOutcome breakers call.connectorName true
  return {
    dispatch := dispatch
    metrics :=
      { attempts := progress.attempt
        retries := progress.attempt - 1
        priorityClass := call.priorityClass.asStr
        rateWaitMsTotal := progress.rateWaitMsTotal
        backoffMsTotal := progress.backoffMsTotal
        circuitPhaseBefore := circuitPhaseBefore
        circuitPhaseAfter := circuitPhaseAfter } }

def lastAttemptFailed (progress : AttemptProgress) (error : String) :
    SpecProgram π ω InvocationResult := do
  let circuitPhaseAfter <- recordProgrammaticCircuitOutcome breakers call.connectorName false
  fail (programmaticError .connectorInvokeFailed
    ("programmatic step " ++ call.provenance.stepId ++ callLabel call.provenance.callId ++
      " connector " ++ call.connectorName ++ " invoke failed after attempts=" ++
      toString progress.attempt ++ ": " ++ error ++ " (connector_error_code=" ++
      classifyConnectorErrorCode error ++ ", circuit_phase_before=" ++ circuitPhaseBefore ++
      ", circuit_phase_after=" ++ circuitPhaseAfter ++ ")"))

/-- The attempts that are left. -/
def invokeAttempts : Nat -> AttemptProgress -> SpecProgram π ω InvocationResult
  | 0, progress =>
    fail (programmaticError .connectorInvokeFailed
      ("programmatic step " ++ call.provenance.stepId ++
        " exhausted retries without terminal dispatch (last_error=" ++
        progress.lastError.getD "unknown" ++ ")"))
  | remaining + 1, progress => do
    let waited <- applyProgrammaticRateLimit rateLimits call.connectorName
    let progress :=
      { progress with rateWaitMsTotal := min u64Max (progress.rateWaitMsTotal + waited) }
    let dispatch <- (dispatchConnector session call).caught
    match dispatch with
    | .ok dispatch => attemptSucceeded breakers call circuitPhaseBefore progress dispatch
    | .error error =>
      let error := normalizeConnectorErrorMessage error
      if call.retryPolicy.maxAttempts <= progress.attempt then
        lastAttemptFailed breakers call circuitPhaseBefore progress error
      else
        invokeAttempts remaining
          { attempt := progress.attempt + 1
            rateWaitMsTotal := progress.rateWaitMsTotal
            backoffMsTotal := min u64Max (progress.backoffMsTotal +
              computeProgrammaticBackoffMs session call progress.attempt)
            lastError := some error }

def invokeProgrammaticConnectorWithResilience : SpecProgram π ω InvocationResult := do
  let circuitPhaseBefore <- acquireProgrammaticCircuitSlot breakers call
  invokeAttempts session rateLimits breakers call circuitPhaseBefore call.retryPolicy.maxAttempts
    { attempt := 1, rateWaitMsTotal := 0, backoffMsTotal := 0, lastError := none }

end Invocation

end LoongClaw.Spec
