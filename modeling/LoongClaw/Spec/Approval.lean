import LoongClaw.Plugins.SecurityScan
import LoongClaw.Spec.Operations

namespace LoongClaw.Spec

open Foundation Contracts Text
open Plugins (normalizeSignalList)

/-!
# The approval guard

Before a spec is run, its operation is compared with the human approval policy.
Calls on the deny list are refused.  Other calls need approval according to
the mode of the policy and the risk of the operation, which is estimated from
the texts and keys of its payload.
-/

/-! ## Policies -/

inductive HumanApprovalMode where
  | disabled
  | mediumBalanced
  | strict

inductive HumanApprovalStrategy where
  | perCall
  | oneTimeFullAccess

inductive HumanApprovalScope where
  | toolCalls
  | allOperations

structure HumanApprovalSpec where
  mode : HumanApprovalMode
  strategy : HumanApprovalStrategy
  scope : HumanApprovalScope
  oneTimeFullAccessGranted : Bool
  (approvedCalls deniedCalls : List String)
  riskProfilePath : Option String
  (oneTimeFullAccessExpiresAtEpochS oneTimeFullAccessRemainingUses : Option Nat)
  (highRiskKeywords highRiskToolNames highRiskPayloadKeys : List String)

/-- The policy of a spec that has none. -/
def HumanApprovalSpec.default : HumanApprovalSpec where
  mode := .mediumBalanced
  strategy := .perCall
  scope := .toolCalls
  oneTimeFullAccessGranted := false
  approvedCalls := []
  deniedCalls := []
  riskProfilePath := none
  oneTimeFullAccessExpiresAtEpochS := none
  oneTimeFullAccessRemainingUses := none
  highRiskKeywords := []
  highRiskToolNames := []
  highRiskPayloadKeys := []

inductive ApprovalRiskLevel where
  | low
  | high
  deriving DecidableEq

structure ApprovalRiskScoring where
  (keywordWeight toolNameWeight payloadKeyWeight keywordHitCap payloadKeyHitCap : Nat)
  highRiskThreshold : Nat

structure ApprovalRiskProfile where
  (highRiskKeywords highRiskToolNames highRiskPayloadKeys : List String)
  scoring : ApprovalRiskScoring

def bundledApprovalRiskProfile : ApprovalRiskProfile where
  highRiskKeywords :=
    ["delete", "remove", "drop", "truncate", "destroy", "purge", "rm -rf", "删除", "移除"]
  highRiskToolNames := ["delete-file", "drop-table", "drop-database", "truncate-table"]
  highRiskPayloadKeys := ["path", "target", "sql", "query", "command"]
  scoring :=
    { keywordWeight := 20
      toolNameWeight := 40
      payloadKeyWeight := 20
      keywordHitCap := 4
      payloadKeyHitCap := 2
      highRiskThreshold := 20 }

/-! ## Keys and texts of an operation -/

mutual

def collectJsonKeys : Json -> List String
  | .object fields => collectFieldKeys fields
  | .array items => collectItemKeys items
  | _ => []

def collectFieldKeys : List (String × Json) -> List String
  | [] => []
  | (key, child) :: rest => key :: collectJsonKeys child ++ collectFieldKeys rest

def collectItemKeys : List Json -> List String
  | [] => []
  | child :: rest => collectJsonKeys child ++ collectItemKeys rest

end

mutual

def collectJsonStrings : Json -> List String
  | .string text => [text]
  | .array items => collectItemStrings items
  | .object fields => collectFieldStrings fields
  | _ => []

def collectFieldStrings : List (String × Json) -> List String
  | [] => []
  | (key, entry) :: rest => key :: collectJsonStrings entry ++ collectFieldStrings rest

def collectItemStrings : List Json -> List String
  | [] => []
  | entry :: rest => collectJsonStrings entry ++ collectItemStrings rest

end

def retryValues (retry : ProgrammaticRetryPolicy) : List String :=
  [toString retry.maxAttempts, toString retry.initialBackoffMs, toString retry.maxBackoffMs,
    retry.jitterRatio.text, toString retry.adaptiveJitter]

def retryKeys : Option ProgrammaticRetryPolicy -> List String
  | none => []
  | some retry =>
    ["retry", "max_attempts", "initial_backoff_ms", "max_backoff_ms", "jitter_ratio",
      "adaptive_jitter"] ++ retryValues retry

/-- The keys of a connector call, in a step of its own or in a batch. -/
def callKeys (connectorName operation : String) (priorityClass : ProgrammaticPriorityClass)
    (retry : Option ProgrammaticRetryPolicy) (payload : Json) : List String :=
  ["connector_name", "operation", "priority_class", connectorName, operation,
    priorityClass.asStr] ++ retryKeys retry ++ collectJsonKeys payload

def stepKeys : ProgrammaticStep -> List String
  | .setLiteral _ value => collectJsonKeys value
  | .jsonPointer _ _ _ => ["pointer"]
  | .connectorCall _ connectorName operation _ retry priorityClass payload =>
    callKeys connectorName operation priorityClass retry payload
  | .connectorBatch _ parallel continueOnError calls =>
    ["parallel", toString parallel, "continue_on_error", toString continueOnError, "calls"] ++
      calls.flatMap fun call =>
        ["call_id", call.callId] ++
          callKeys call.connectorName call.operation call.priorityClass call.retry call.payload
  | .conditional _ fromStep pointer equals expectedExists whenTrue whenFalse =>
    ["from_step", fromStep] ++ (pointer.map fun pointer => ["pointer", pointer]).getD [] ++
      (equals.map fun equals => "equals" :: collectJsonKeys equals).getD [] ++
      (expectedExists.map fun expected => ["exists", toString expected]).getD [] ++
      "when_true" :: collectJsonKeys whenTrue ++
      (whenFalse.map fun whenFalse => "when_false" :: collectJsonKeys whenFalse).getD []

def concurrencyKeys (concurrency : ProgrammaticConcurrencyPolicy) : List String :=
  ["max_in_flight", toString concurrency.maxInFlight, "min_in_flight",
    toString concurrency.minInFlight, "fairness", concurrency.fairness.asStr, "adaptive_budget",
    toString concurrency.adaptiveBudget, "high_weight", toString concurrency.highWeight,
    "normal_weight", toString concurrency.normalWeight, "low_weight",
    toString concurrency.lowWeight, "adaptive_recovery_successes",
    toString concurrency.adaptiveRecoverySuccesses, "adaptive_upshift_step",
    toString concurrency.adaptiveUpshiftStep, "adaptive_downshift_step",
    toString concurrency.adaptiveDownshiftStep, "adaptive_reduce_on"] ++
    concurrency.adaptiveReduceOn.map ProgrammaticAdaptiveReduceOn.asStr

def programmaticKeys (call : ProgrammaticToolCall) : List String :=
  ["caller", "max_calls", "include_intermediate", "connector_rate_limits",
    "connector_circuit_breakers", "concurrency", "return_step", "steps"] ++
    concurrencyKeys call.concurrency ++ call.allowedConnectors ++
    (call.connectorRateLimits.flatMap fun entry =>
      ["connector_name", entry.1, "min_interval_ms", toString entry.2.minIntervalMs]) ++
    (call.connectorCircuitBreakers.flatMap fun entry =>
      ["connector_name", entry.1, "failure_threshold", toString entry.2.failureThreshold,
        "cooldown_ms", toString entry.2.cooldownMs, "half_open_max_calls",
        toString entry.2.halfOpenMaxCalls, "success_threshold",
        toString entry.2.successThreshold]) ++
    call.steps.flatMap fun step => "step_id" :: stepKeys step

def operationPayloadKeys : OperationSpec -> List String
  | .task task => collectJsonKeys task.payload
  | .connectorLegacy command => collectJsonKeys command.payload
  | .connectorCore command _ => collectJsonKeys command.payload
  | .connectorExtension command _ _ => collectJsonKeys command.payload
  | .runtimeCore _ request _ => collectJsonKeys request.payload
  | .runtimeExtension _ request _ _ => collectJsonKeys request.payload
  | .toolCore _ request _ => collectJsonKeys request.payload
  | .toolExtension _ request _ _ => collectJsonKeys request.payload
  | .memoryCore _ request _ => collectJsonKeys request.payload
  | .memoryExtension _ request _ _ => collectJsonKeys request.payload
  | .toolSearch _ _ _ _ => ["query", "limit", "include_deferred", "include_examples"]
  | .programmaticToolCall call => programmaticKeys call

def stepStrings : ProgrammaticStep -> List String
  | .setLiteral stepId value => stepId :: collectJsonStrings value
  | .jsonPointer stepId fromStep pointer => [stepId, fromStep, pointer]
  | .connectorCall stepId connectorName operation _ retry priorityClass payload =>
    [stepId, connectorName, operation, priorityClass.asStr] ++
      (retry.map retryValues).getD [] ++ collectJsonStrings payload
  | .connectorBatch stepId parallel continueOnError calls =>
    [stepId, toString parallel, toString continueOnError] ++ calls.flatMap fun call =>
        [call.callId, call.connectorName, call.operation, call.priorityClass.asStr] ++
          (call.retry.map retryValues).getD [] ++ collectJsonStrings call.payload
  | .conditional stepId fromStep pointer equals expectedExists whenTrue whenFalse =>
    [stepId, fromStep] ++ pointer.toList ++ (expectedExists.map toString).toList ++
      (equals.map collectJsonStrings).getD [] ++ collectJsonStrings whenTrue ++
      (whenFalse.map collectJsonStrings).getD []

def programmaticStrings (call : ProgrammaticToolCall) : List String :=
  [call.caller, toString call.maxCalls, toString call.includeIntermediate,
    toString call.concurrency.maxInFlight, toString call.concurrency.minInFlight,
    call.concurrency.fairness.asStr, toString call.concurrency.adaptiveBudget,
    toString call.concurrency.highWeight, toString call.concurrency.normalWeight,
    toString call.concurrency.lowWeight, toString call.concurrency.adaptiveRecoverySuccesses,
    toString call.concurrency.adaptiveUpshiftStep,
    toString call.concurrency.adaptiveDownshiftStep] ++
    call.concurrency.adaptiveReduceOn.map ProgrammaticAdaptiveReduceOn.asStr ++
    call.allowedConnectors ++
    (call.connectorRateLimits.flatMap fun entry => [entry.1, toString entry.2.minIntervalMs]) ++
    (call.connectorCircuitBreakers.flatMap fun entry =>
      [entry.1, toString entry.2.failureThreshold, toString entry.2.cooldownMs,
        toString entry.2.halfOpenMaxCalls, toString entry.2.successThreshold]) ++
    call.returnStep.toList ++ call.steps.flatMap stepStrings

def operationPayloadStrings : OperationSpec -> List String
  | .task task => collectJsonStrings task.payload
  | .connectorLegacy command => collectJsonStrings command.payload
  | .connectorCore command _ => collectJsonStrings command.payload
  | .connectorExtension command _ _ => collectJsonStrings command.payload
  | .runtimeCore _ request _ => collectJsonStrings request.payload
  | .runtimeExtension _ request _ _ => collectJsonStrings request.payload
  | .toolCore _ request _ => collectJsonStrings request.payload
  | .toolExtension _ request _ _ => collectJsonStrings request.payload
  | .memoryCore _ request _ => collectJsonStrings request.payload
  | .memoryExtension _ request _ _ => collectJsonStrings request.payload
  | .toolSearch query limit includeDeferred includeExamples =>
    [query, toString limit, toString includeDeferred, toString includeExamples]
  | .programmaticToolCall call => programmaticStrings call

def operationRiskHaystack (operation : OperationSpec) : String :=
  operationApprovalKind operation ++ " " ++ operationApprovalKey operation ++ " " ++
    String.join ((operationPayloadStrings operation).map fun value => value ++ " ")

def operationToolName : OperationSpec -> Option String
  | .toolCore _ request _ => some request.toolName
  | .toolExtension _ request _ _ => some request.extensionAction
  | .programmaticToolCall call => some call.caller
  | _ => none

/-! ## Risk -/

/-- What the guard reads besides the spec. -/
structure ApprovalEnvironment where
  nowEpochS : Nat
  loadApprovalRiskProfileFromPath : String -> Option ApprovalRiskProfile

def replacedBy (defaults overrides : List String) : List String :=
  if overrides.isEmpty then defaults else overrides

variable (environment : ApprovalEnvironment) (policy : HumanApprovalSpec) (nowEpochS : Nat)

def resolveApprovalRiskProfile : ApprovalRiskProfile :=
  let profile := (policy.riskProfilePath.bind
    environment.loadApprovalRiskProfileFromPath).getD bundledApprovalRiskProfile
  { profile with
    highRiskKeywords := replacedBy profile.highRiskKeywords policy.highRiskKeywords
    highRiskToolNames := replacedBy profile.highRiskToolNames policy.highRiskToolNames
    highRiskPayloadKeys := replacedBy profile.highRiskPayloadKeys policy.highRiskPayloadKeys }

def sanitizeRiskScoring (scoring : ApprovalRiskScoring) : ApprovalRiskScoring :=
  { scoring with
    keywordHitCap := if scoring.keywordHitCap = 0 then 1 else scoring.keywordHitCap
    payloadKeyHitCap := if scoring.payloadKeyHitCap = 0 then 1 else scoring.payloadKeyHitCap
    highRiskThreshold := if scoring.highRiskThreshold = 0 then 20 else scoring.highRiskThreshold }

def normalizedText (value : String) : String :=
  toAsciiLowercase (trim value)

/-- A product of sixteen-bit numbers. -/
def hitScore (hits cap weight : Nat) : Nat :=
  (min hits cap % 2 ^ 16) * weight % 2 ^ 16

def operationRiskProfile (operation : OperationSpec) (policy : HumanApprovalSpec) :
    ApprovalRiskLevel × List String × Nat :=
  let profile := resolveApprovalRiskProfile environment policy
  let highRiskToolNames := normalizeSignalList profile.highRiskToolNames
  let highRiskPayloadKeys := normalizeSignalList profile.highRiskPayloadKeys
  let scoring := sanitizeRiskScoring profile.scoring
  let haystackLower := toAsciiLowercase (operationRiskHaystack operation)
  let matchedKeywords :=
    (normalizeSignalList profile.highRiskKeywords).filter (containsText haystackLower)
  let matchedToolName := ((operationToolName operation).map normalizedText).toList.filter
    (fun name => highRiskToolNames.contains name)
  let matchedPayloadKeys := ((operationPayloadKeys operation).map normalizedText).filter
    (fun key => highRiskPayloadKeys.contains key)
  let found := matchedKeywords ++ matchedToolName.map (fun name => "tool:" ++ name) ++
    matchedPayloadKeys.map (fun key => "payload_key:" ++ key)
  let toolScore := if matchedToolName.isEmpty then 0 else scoring.toolNameWeight
  let riskScore := min 100 (min (2 ^ 16 - 1) (min (2 ^ 16 - 1)
    (hitScore matchedKeywords.length scoring.keywordHitCap scoring.keywordWeight + toolScore) +
      hitScore matchedPayloadKeys.length scoring.payloadKeyHitCap scoring.payloadKeyWeight))
  if found.isEmpty || decide (riskScore < scoring.highRiskThreshold) then (.low, [], 0)
  else
    (.high, found.dedup.mergeSort (fun first second => decide (first <= second)), riskScore)

/-! ## The guard -/

/-- One entry of a list of calls matches a key: any key, keys with a common
start, or the same key. -/
def approvalMatches (operationKeyLower raw : String) : Bool :=
  let normalized := normalizedText raw
  if normalized = "" then false
  else if normalized = "*" then true
  else
    match normalized.toList.getLast? with
    | some '*' => normalized.toList.dropLast.isPrefixOf operationKeyLower.toList
    | _ => decide (normalized = operationKeyLower)

def isOperationPreapproved (operationKey : String) (approvals : List String) : Bool :=
  approvals.any (approvalMatches (toAsciiLowercase operationKey))

def isOperationInApprovalScope : OperationSpec -> HumanApprovalScope -> Bool
  | _, .allOperations => true
  | .toolCore _ _ _, .toolCalls => true
  | .toolExtension _ _ _ _, .toolCalls => true
  | .programmaticToolCall _, .toolCalls => true
  | _, .toolCalls => false

structure ApprovalDecisionReport where
  mode : HumanApprovalMode
  strategy : HumanApprovalStrategy
  scope : HumanApprovalScope
  nowEpochS : Nat
  (operationKey operationKind : String)
  riskLevel : ApprovalRiskLevel
  riskScore : Nat
  (denylisted requiresHumanApproval approved : Bool)
  reason : String
  matchedKeywords : List String

def oneTimeFullAccessActive : Bool :=
  policy.oneTimeFullAccessGranted &&
    policy.oneTimeFullAccessExpiresAtEpochS.all (fun deadline => decide (nowEpochS <= deadline)) &&
    policy.oneTimeFullAccessRemainingUses.all (fun remaining => decide (0 < remaining))

def oneTimeFullAccessRejectedReason : Option String :=
  if policy.oneTimeFullAccessGranted then
    match policy.oneTimeFullAccessExpiresAtEpochS with
    | some deadline =>
      if deadline < nowEpochS then
        some ("one-time full access grant expired at " ++ toString deadline ++ ", now is " ++
          toString nowEpochS)
      else none
    | none =>
      if policy.oneTimeFullAccessRemainingUses = some 0 then
        some "one-time full access grant has no remaining uses"
      else none
  else none

def approvalRequired (inScope : Bool) (riskLevel : ApprovalRiskLevel) : Bool :=
  inScope &&
    match policy.mode with
    | .disabled => false
    | .mediumBalanced => decide (riskLevel = .high)
    | .strict => true

/-- Whether an operation that needs approval has it, and why. -/
def humanApproval (operationKey : String) : Bool × String :=
  match policy.strategy with
  | .oneTimeFullAccess =>
    if oneTimeFullAccessActive policy nowEpochS then
      (true, "human granted one-time full access for this execution")
    else
      (false, (oneTimeFullAccessRejectedReason policy nowEpochS).getD
        ("human one-time full access is not granted for high-risk operation " ++ operationKey))
  | .perCall =>
    if isOperationPreapproved operationKey policy.approvedCalls then
      (true, "operation " ++ operationKey ++ " is pre-approved by human policy")
    else
      (false, "human approval required for high-risk operation " ++ operationKey ++
        "; add to approval.approved_calls or switch to one_time_full_access")

def evaluateApprovalGuard (approval : Option HumanApprovalSpec) (operation : OperationSpec) :
    ApprovalDecisionReport :=
  let policy := approval.getD .default
  let operationKey := operationApprovalKey operation
  let (riskLevel, matchedKeywords, riskScore) := operationRiskProfile environment operation policy
  let denylisted := isOperationPreapproved operationKey policy.deniedCalls
  let requiresHumanApproval := approvalRequired policy
    (isOperationInApprovalScope operation policy.scope) riskLevel
  let (approved, reason) :=
    if denylisted then (false, "operation is denylisted by human approval policy")
    else if requiresHumanApproval then humanApproval policy environment.nowEpochS operationKey
    else (true, "operation is allowed by default medium-balanced approval policy")
  { mode := policy.mode
    strategy := policy.strategy
    scope := policy.scope
    nowEpochS := environment.nowEpochS
    operationKey := operationKey
    operationKind := operationApprovalKind operation
    riskLevel := riskLevel
    riskScore := riskScore
    denylisted := denylisted
    requiresHumanApproval := denylisted || requiresHumanApproval
    approved := approved
    reason := reason
    matchedKeywords := matchedKeywords }

/-! ## Denied calls -/

/-- A listed key matches itself, unless trimming changes it. -/
theorem isOperationPreapproved_of_listed {operationKey : String} {approvals : List String}
    (listed : operationKey ∈ approvals) (trimmed : trim operationKey = operationKey)
    (nonempty : operationKey ≠ "") : isOperationPreapproved operationKey approvals = true := by
  refine List.any_eq_true.mpr ⟨operationKey, listed, ?_⟩
  have lowerNonempty : toAsciiLowercase operationKey ≠ "" := by
    intro empty
    have noChars := congrArg String.toList empty
    simp only [toAsciiLowercase, String.toList_ofList] at noChars
    exact nonempty (String.toList_injective (List.map_eq_nil_iff.mp noChars))
  unfold approvalMatches normalizedText
  rw [trimmed]
  rw [if_neg lowerNonempty]
  split
  · rfl
  · split
    · exact List.isPrefixOf_iff_prefix.mpr (List.dropLast_prefix _)
    · exact decide_eq_true rfl

/-- The guard approves no operation that its policy denies. -/
theorem approved_not_denied {environment : ApprovalEnvironment}
    {approval : Option HumanApprovalSpec} {operation : OperationSpec}
    (approved : (evaluateApprovalGuard environment approval operation).approved = true) :
    isOperationPreapproved (operationApprovalKey operation)
      (approval.getD .default).deniedCalls = false := by
  cases denied : isOperationPreapproved (operationApprovalKey operation)
      (approval.getD .default).deniedCalls with
  | false => rfl
  | true =>
    simp only [evaluateApprovalGuard, denied, if_true] at approved
    cases approved

end LoongClaw.Spec
