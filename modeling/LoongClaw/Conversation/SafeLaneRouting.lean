import LoongClaw.Conversation.PlanExecutor

namespace LoongClaw.Conversation
namespace SafeLane

open Foundation

/-!
# Failure routes of the safe lane

A round of the safe lane that fails is routed: the turn ends, or the plan is
built again for another round.  The route comes from the failure and the
budget of rounds; the backpressure guard and the session governor may change
it.  `decideSafeLaneFailureRoute_replan` says what every replan has passed.
-/

/-! ## Turn failures -/

inductive TurnFailureKind where
  | policyDenied
  | retryable
  | nonRetryable
  | provider
deriving DecidableEq

structure TurnFailure where
  kind : TurnFailureKind
  (code reason : String)
  retryable : Bool
deriving DecidableEq

inductive TurnResult where
  | finalText (text : String)
  | toolDenied (failure : TurnFailure)
  | toolError (failure : TurnFailure)
  | providerError (failure : TurnFailure)
deriving DecidableEq

inductive SafeLaneFailureCode where
  | planValidationFailed
  | planTopologyResolutionFailed
  | planBudgetExceeded
  | planWallTimeExceeded
  | planNodePolicyDenied
  | planNodeRetryableError
  | planNodeNonRetryableError
  | verifyFailed
  | verifyFailedBackpressureGuard
  | verifyFailedSessionGovernor
  | verifyFailedBudgetExhausted
  | planBackpressureGuard
  | planSessionGovernorNoReplan

namespace SafeLaneFailureCode

def asStr : SafeLaneFailureCode -> String
  | planValidationFailed => "safe_lane_plan_validation_failed"
  | planTopologyResolutionFailed => "safe_lane_plan_topology_resolution_failed"
  | planBudgetExceeded => "safe_lane_plan_budget_exceeded"
  | planWallTimeExceeded => "safe_lane_plan_wall_time_exceeded"
  | planNodePolicyDenied => "safe_lane_plan_node_policy_denied"
  | planNodeRetryableError => "safe_lane_plan_node_retryable_error"
  | planNodeNonRetryableError => "safe_lane_plan_node_non_retryable_error"
  | verifyFailed => "safe_lane_plan_verify_failed"
  | verifyFailedBackpressureGuard => "safe_lane_plan_verify_failed_backpressure_guard"
  | verifyFailedSessionGovernor => "safe_lane_plan_verify_failed_session_governor"
  | verifyFailedBudgetExhausted => "safe_lane_plan_verify_failed_budget_exhausted"
  | planBackpressureGuard => "safe_lane_plan_backpressure_guard"
  | planSessionGovernorNoReplan => "safe_lane_plan_session_governor_no_replan"

def all : List SafeLaneFailureCode :=
  [planValidationFailed, planTopologyResolutionFailed, planBudgetExceeded, planWallTimeExceeded,
    planNodePolicyDenied, planNodeRetryableError, planNodeNonRetryableError, verifyFailed,
    verifyFailedBackpressureGuard, verifyFailedSessionGovernor, verifyFailedBudgetExhausted,
    planBackpressureGuard, planSessionGovernorNoReplan]

def parse (value : String) : Option SafeLaneFailureCode :=
  all.find? fun code => code.asStr = Text.trim value

/-- Only a retryable failure carries the flag. -/
def intoTurnFailure (code : SafeLaneFailureCode) (kind : TurnFailureKind) (reason : String) :
    TurnFailure where
  kind := kind
  code := code.asStr
  reason := reason
  retryable := kind = .retryable

end SafeLaneFailureCode

open SafeLaneFailureCode

def classifySafeLanePlanFailure : PlanRunFailure -> SafeLaneFailureCode × TurnFailureKind
  | .validationFailed _ => (.planValidationFailed, .nonRetryable)
  | .topologyResolutionFailed => (.planTopologyResolutionFailed, .nonRetryable)
  | .budgetExceeded _ _ => (.planBudgetExceeded, .nonRetryable)
  | .wallTimeExceeded _ _ => (.planWallTimeExceeded, .nonRetryable)
  | .nodeFailed _ _ .approvalRequired _ => (.planNodePolicyDenied, .policyDenied)
  | .nodeFailed _ _ .policyDenied _ => (.planNodePolicyDenied, .policyDenied)
  | .nodeFailed _ _ .retryable _ => (.planNodeRetryableError, .retryable)
  | .nodeFailed _ _ .nonRetryable _ => (.planNodeNonRetryableError, .nonRetryable)

def planFailureReason (code : SafeLaneFailureCode) : PlanRunFailure -> String
  | .validationFailed error => code.asStr ++ ": " ++ error
  | .topologyResolutionFailed => code.asStr
  | .budgetExceeded attemptsUsed limit =>
    code.asStr ++ " attempts_used=" ++ toString attemptsUsed ++ " limit=" ++ toString limit
  | .wallTimeExceeded elapsedMs limitMs =>
    code.asStr ++ " elapsed_ms=" ++ toString elapsedMs ++ " limit_ms=" ++ toString limitMs
  | .nodeFailed _ _ _ lastError => lastError

def turnFailureFromPlanFailure (failure : PlanRunFailure) : TurnFailure :=
  (classifySafeLanePlanFailure failure).1.intoTurnFailure (classifySafeLanePlanFailure failure).2
    (planFailureReason (classifySafeLanePlanFailure failure).1 failure)

def turnFailureFromVerifyFailure (verifyError : String) (retryable : Bool) : TurnFailure :=
  verifyFailed.intoTurnFailure (if retryable then .retryable else .nonRetryable)
    (verifyFailed.asStr ++ ": " ++ verifyError)

def errorKindDebug : PlanNodeErrorKind -> String
  | .approvalRequired => "ApprovalRequired"
  | .retryable => "Retryable"
  | .policyDenied => "PolicyDenied"
  | .nonRetryable => "NonRetryable"

def summarizePlanFailure : PlanRunFailure -> String
  | .validationFailed error => "validation_failed:" ++ error
  | .topologyResolutionFailed => "topology_resolution_failed"
  | .budgetExceeded attemptsUsed limit =>
    "budget_exceeded attempts_used=" ++ toString attemptsUsed ++ " limit=" ++ toString limit
  | .wallTimeExceeded elapsedMs limitMs =>
    "wall_time_exceeded elapsed_ms=" ++ toString elapsedMs ++ " limit_ms=" ++ toString limitMs
  | .nodeFailed nodeId _ lastErrorKind lastError =>
    "node_failed node=" ++ nodeId ++ " error_kind=" ++ errorKindDebug lastErrorKind ++
      " reason=" ++ lastError

/-! ## Budgets -/

inductive SafeLaneFailureRouteReason where
  | retryableFailure
  | roundBudgetExhausted
  | policyDenied
  | nonRetryableFailure
  | retryableFlagFalse
  | providerFailure
  | backpressureAttemptsExhausted
  | backpressureReplansExhausted
  | sessionGovernorNoReplan
deriving DecidableEq

inductive SafeLaneContinuationBudgetDecision where
  | proceed
  | terminal (reason : SafeLaneFailureRouteReason)

/-- Rounds and replans are counted in a byte. -/
structure SafeLaneReplanBudget where
  (currentRound maxReplans : Nat)
  maxReplans_le : maxReplans <= 255

namespace SafeLaneReplanBudget

def continuationDecision (budget : SafeLaneReplanBudget) : SafeLaneContinuationBudgetDecision :=
  if budget.currentRound < budget.maxReplans then .proceed
  else .terminal .roundBudgetExhausted

def afterReplan (budget : SafeLaneReplanBudget) : SafeLaneReplanBudget :=
  { budget with currentRound := min (budget.currentRound + 1) 255 }

end SafeLaneReplanBudget

structure EscalatingAttemptBudget where
  (currentLimit maxLimit : Nat)

namespace EscalatingAttemptBudget

def new (initialLimit maxLimit : Nat) : EscalatingAttemptBudget where
  currentLimit := min (max initialLimit 1) (max (max maxLimit (max initialLimit 1)) 1)
  maxLimit := max (max maxLimit (max initialLimit 1)) 1

def afterRetry (budget : EscalatingAttemptBudget) : EscalatingAttemptBudget where
  currentLimit := max (min (min (budget.currentLimit + 1) 255) budget.maxLimit) 1
  maxLimit := budget.maxLimit

end EscalatingAttemptBudget

structure SafeLaneBackpressureBudget where
  (maxTotalAttempts maxReplans : Nat)

namespace SafeLaneBackpressureBudget

def new (maxTotalAttempts maxReplans : Nat) : SafeLaneBackpressureBudget where
  maxTotalAttempts := max maxTotalAttempts 1
  maxReplans := max maxReplans 1

def continuationDecision (budget : SafeLaneBackpressureBudget)
    (totalAttemptsUsed replansTriggered : Nat) : SafeLaneContinuationBudgetDecision :=
  if totalAttemptsUsed ≥ budget.maxTotalAttempts then .terminal .backpressureAttemptsExhausted
  else if replansTriggered ≥ budget.maxReplans then .terminal .backpressureReplansExhausted
  else .proceed

end SafeLaneBackpressureBudget

/-! ## Configuration, governor and metrics -/

structure SafeLaneConfig where
  (safeLaneNodeMaxAttempts safeLaneReplanMaxRounds safeLaneReplanMaxNodeAttempts : Nat)
  safeLaneVerifyOutputNonEmpty : Bool
  (safeLanePlanMaxWallTimeMs safeLaneRiskThreshold safeLaneComplexityThreshold : Nat)
  safeLaneBackpressureGuardEnabled : Bool
  (safeLaneBackpressureMaxTotalAttempts safeLaneBackpressureMaxReplans : Nat)
  replanMaxRounds_le : safeLaneReplanMaxRounds <= 255

/-- What the governor decided from the history of the session. -/
structure SafeLaneSessionGovernorDecision where
  forceNoReplan : Bool
  forcedNodeMaxAttempts : Option Nat

structure SafeLaneExecutionMetrics where
  (roundsStarted roundsSucceeded roundsFailed verifyFailures replansTriggered : Nat)
  totalAttemptsUsed : Nat

def safeLaneBackpressureBudget (config : SafeLaneConfig) : Option SafeLaneBackpressureBudget :=
  if config.safeLaneBackpressureGuardEnabled then
    some (.new (max config.safeLaneBackpressureMaxTotalAttempts 1)
      (max config.safeLaneBackpressureMaxReplans 1))
  else none

/-! ## Routes -/

inductive SafeLaneFailureRouteDecision where
  | replan
  | terminal
deriving DecidableEq

inductive SafeLaneFailureRouteSource where
  | baseRouting
  | backpressureGuard
  | sessionGovernor
deriving DecidableEq

structure SafeLaneFailureRoute where
  decision : SafeLaneFailureRouteDecision
  reason : SafeLaneFailureRouteReason
  source : SafeLaneFailureRouteSource
deriving DecidableEq

namespace SafeLaneFailureRoute

variable (reason : SafeLaneFailureRouteReason) (failure : TurnFailure)
  (route : SafeLaneFailureRoute)

def replan : SafeLaneFailureRoute :=
  ⟨.replan, reason, .baseRouting⟩

def terminal : SafeLaneFailureRoute :=
  ⟨.terminal, reason, .baseRouting⟩

def terminalWithSource (source : SafeLaneFailureRouteSource) : SafeLaneFailureRoute :=
  ⟨.terminal, reason, source⟩

/-- Replan if the failure carries the flag. -/
def replanIfRetryable (otherwise : SafeLaneFailureRouteReason) : SafeLaneFailureRoute :=
  if failure.retryable then replan .retryableFailure else terminal otherwise

def fromKind : SafeLaneFailureRoute :=
  match failure.kind with
  | .retryable => replanIfRetryable failure .retryableFlagFalse
  | .policyDenied => terminal .policyDenied
  | .nonRetryable => terminal .nonRetryableFailure
  | .provider => terminal .providerFailure

def fromFailureCode : SafeLaneFailureCode -> SafeLaneFailureRoute
  | .planNodePolicyDenied => terminal .policyDenied
  | .verifyFailed => replanIfRetryable failure .nonRetryableFailure
  | .planNodeRetryableError => replanIfRetryable failure .retryableFlagFalse
  | .verifyFailedBudgetExhausted => terminal .roundBudgetExhausted
  | .planValidationFailed => terminal .nonRetryableFailure
  | .planTopologyResolutionFailed => terminal .nonRetryableFailure
  | .planBudgetExceeded => terminal .nonRetryableFailure
  | .planWallTimeExceeded => terminal .nonRetryableFailure
  | .planNodeNonRetryableError => terminal .nonRetryableFailure
  | .verifyFailedBackpressureGuard => terminal .nonRetryableFailure
  | .verifyFailedSessionGovernor => terminal .nonRetryableFailure
  | .planBackpressureGuard => terminal .nonRetryableFailure
  | .planSessionGovernorNoReplan => terminal .nonRetryableFailure

def deniedCodes : List String :=
  ["kernel_policy_denied", "tool_not_found", "max_tool_steps_exceeded", "no_kernel_context"]

def fromCode : SafeLaneFailureRoute :=
  if failure.code ∈ deniedCodes then terminal .policyDenied
  else if failure.code = "tool_execution_failed" then
    replanIfRetryable failure .retryableFlagFalse
  else if failure.code = "kernel_execution_failed" then terminal .nonRetryableFailure
  else
    match parse failure.code with
    | some code => fromFailureCode failure code
    | none => fromKind failure

def fromFailure (replanBudget : SafeLaneReplanBudget) : SafeLaneFailureRoute :=
  match replanBudget.continuationDecision with
  | .terminal reason => terminal reason
  | .proceed => fromCode failure

def isBaseRoundBudgetTerminal : Bool :=
  route.decision = .terminal && route.source = .baseRouting && route.reason = .roundBudgetExhausted

def shouldReplan : Bool :=
  route.decision = .replan

def withBackpressureGuard (backpressureBudget : Option SafeLaneBackpressureBudget)
    (metrics : SafeLaneExecutionMetrics) : SafeLaneFailureRoute :=
  if route.shouldReplan = false then route
  else
    match backpressureBudget with
    | none => route
    | some budget =>
      match budget.continuationDecision metrics.totalAttemptsUsed metrics.replansTriggered with
      | .proceed => route
      | .terminal reason => terminalWithSource reason .backpressureGuard

def withSessionGovernorOverride (governor : SafeLaneSessionGovernorDecision) :
    SafeLaneFailureRoute :=
  if governor.forceNoReplan && route.isBaseRoundBudgetTerminal then
    terminalWithSource .sessionGovernorNoReplan .sessionGovernor
  else route

def terminalVerifyFailureCode (retryableSignal : Bool) : SafeLaneFailureCode :=
  match route.source, route.reason, retryableSignal with
  | .backpressureGuard, _, _ => .verifyFailedBackpressureGuard
  | .sessionGovernor, _, _ => .verifyFailedSessionGovernor
  | .baseRouting, .roundBudgetExhausted, true => .verifyFailedBudgetExhausted
  | .baseRouting, _, _ => .verifyFailed

def terminalPlanFailureCode : Option SafeLaneFailureCode :=
  match route.source with
  | .backpressureGuard => some .planBackpressureGuard
  | .sessionGovernor => some .planSessionGovernorNoReplan
  | .baseRouting => none

end SafeLaneFailureRoute

open SafeLaneFailureRoute

def decideSafeLaneFailureRoute (config : SafeLaneConfig) (failure : TurnFailure)
    (replanBudget : SafeLaneReplanBudget) (metrics : SafeLaneExecutionMetrics)
    (governor : SafeLaneSessionGovernorDecision) : SafeLaneFailureRoute :=
  ((fromFailure failure replanBudget).withBackpressureGuard
    (safeLaneBackpressureBudget config) metrics).withSessionGovernorOverride governor

/-! ## What a replan has passed -/

namespace SafeLaneFailureRoute

variable {failure : TurnFailure} {route : SafeLaneFailureRoute}

theorem replanIfRetryable_replan {otherwise : SafeLaneFailureRouteReason}
    (replans : (replanIfRetryable failure otherwise).shouldReplan = true) :
    failure.retryable = true := by
  unfold replanIfRetryable at replans
  split at replans
  · rename_i flagged
    exact flagged
  · cases replans

theorem fromCode_replan (replans : (fromCode failure).shouldReplan = true) :
    failure.retryable = true := by
  unfold fromCode at replans
  split at replans
  · cases replans
  split at replans
  · exact replanIfRetryable_replan replans
  split at replans
  · cases replans
  split at replans
  · rename_i code _
    cases code with
    | verifyFailed | planNodeRetryableError => exact replanIfRetryable_replan replans
    | _ => cases replans
  · unfold fromKind at replans
    split at replans
    · exact replanIfRetryable_replan replans
    · cases replans
    · cases replans
    · cases replans

theorem withBackpressureGuard_replan {backpressureBudget : Option SafeLaneBackpressureBudget}
    {metrics : SafeLaneExecutionMetrics}
    (replans : (route.withBackpressureGuard backpressureBudget metrics).shouldReplan = true) :
    route.shouldReplan = true /\ ∀ budget, backpressureBudget = some budget ->
      metrics.totalAttemptsUsed < budget.maxTotalAttempts /\
        metrics.replansTriggered < budget.maxReplans := by
  unfold withBackpressureGuard at replans
  split at replans
  · rename_i terminal
    rw [terminal] at replans
    cases replans
  · rename_i replanning
    refine ⟨Bool.of_not_eq_false replanning, fun budget same => ?_⟩
    subst same
    unfold SafeLaneBackpressureBudget.continuationDecision at replans
    by_cases attempts : metrics.totalAttemptsUsed ≥ budget.maxTotalAttempts
    · simp only [if_pos attempts] at replans
      cases replans
    by_cases replansSpent : metrics.replansTriggered ≥ budget.maxReplans
    · simp only [if_neg attempts, if_pos replansSpent] at replans
      cases replans
    exact ⟨Nat.not_le.mp attempts, Nat.not_le.mp replansSpent⟩

end SafeLaneFailureRoute

theorem decideSafeLaneFailureRoute_replan {config : SafeLaneConfig} {failure : TurnFailure}
    {replanBudget : SafeLaneReplanBudget} {metrics : SafeLaneExecutionMetrics}
    {governor : SafeLaneSessionGovernorDecision}
    (replans : (decideSafeLaneFailureRoute config failure replanBudget metrics
      governor).shouldReplan = true) :
    failure.retryable = true /\ replanBudget.currentRound < replanBudget.maxReplans /\
      ∀ budget, safeLaneBackpressureBudget config = some budget ->
        metrics.totalAttemptsUsed < budget.maxTotalAttempts /\
          metrics.replansTriggered < budget.maxReplans := by
  unfold decideSafeLaneFailureRoute withSessionGovernorOverride at replans
  split at replans
  · cases replans
  · have guarded := withBackpressureGuard_replan replans
    have based := guarded.1
    unfold fromFailure SafeLaneReplanBudget.continuationDecision at based
    by_cases within : replanBudget.currentRound < replanBudget.maxReplans
    · rw [if_pos within] at based
      exact ⟨fromCode_replan based, within, guarded.2⟩
    · rw [if_neg within] at based
      cases based

/-- A failure of a plan that carries the flag is a retryable one. -/
theorem turnFailureFromPlanFailure_kind {failure : PlanRunFailure}
    (flagged : (turnFailureFromPlanFailure failure).retryable = true) :
    (turnFailureFromPlanFailure failure).kind = .retryable :=
  of_decide_eq_true flagged

theorem turnFailureFromVerifyFailure_kind {verifyError : String} {retryable : Bool}
    (flagged : (turnFailureFromVerifyFailure verifyError retryable).retryable = true) :
    (turnFailureFromVerifyFailure verifyError retryable).kind = .retryable :=
  of_decide_eq_true flagged

end SafeLane
end LoongClaw.Conversation
