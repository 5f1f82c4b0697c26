import LoongClaw.Foundation.Decimal
import LoongClaw.Foundation.Loop
import LoongClaw.Conversation.SafeLaneRouting

namespace LoongClaw.Conversation
namespace SafeLane

open Foundation

/-!
# Rounds of the safe lane

A turn of the safe lane builds a plan of its tool intents, runs it, verifies
the outputs and either answers with them or routes the failure.  A replan
after a failed tool keeps the outputs so far as seeds and starts again at that
tool; every other replan starts from the first tool.  What the tools do, the
clock and the verdicts of the final verification come from outside.
-/

/-! ## The outside of a turn -/

/-- One execution of a tool intent, with its output if it had one. -/
structure ToolExecution where
  intent : Nat
  output : Option String
deriving DecidableEq

/-- An execution that is too late may still have had an output, which is then
lost. -/
inductive ToolAttempt where
  | returned (result : Except PlanNodeError String)
  | timedOut (lost : Option String)

inductive PlanVerificationFailureCode where
  | emptyOutput
  | outputTooShort
  | denyMarkerDetected
  | insufficientResultLines
  | missingStatusPrefix
  | failureStatusDetected
  | missingSemanticAnchors
deriving DecidableEq

structure PlanVerificationReport where
  passed : Bool
  failureReasons : List String
  failureCodes : List PlanVerificationFailureCode

/-- Tools see every execution before theirs.  Nodes without a tool may be late
too.  Clock and verdicts are given by the round. -/
structure SafeLaneEnvironment where
  tool : List ToolExecution -> Nat -> ToolAttempt
  stalls : Nat -> String -> Bool
  (elapsedBefore elapsedAfter : Nat -> Nat -> Nat)
  verify : Nat -> String -> PlanVerificationReport

structure LaneDecision where
  (riskScore complexityScore : Nat)

/-- A turn: its configuration, what the governor and the lane decided, and the
tool names of its intents. -/
structure SafeLaneTurn where
  config : SafeLaneConfig
  governor : SafeLaneSessionGovernorDecision
  laneDecision : LaneDecision
  toolNames : List String

/-! ## Plans -/

/-- Doubled, as far as thirty-two bits go. -/
def doubled (threshold : Nat) : Nat :=
  min (threshold * 2) 4294967295

variable (environment : SafeLaneEnvironment) (config : SafeLaneConfig) (failure : PlanRunFailure)
  (turn : SafeLaneTurn) (report : PlanVerificationReport)
  (governor : SafeLaneSessionGovernorDecision) (maxAttempts : Nat) (state : SafeLanePlanLoopState)

def selectSafeLaneRiskTier (decision : LaneDecision) : RiskTier :=
  if decision.riskScore ≥ doubled config.safeLaneRiskThreshold \/
      decision.complexityScore ≥ doubled config.safeLaneComplexityThreshold then .high
  else if decision.riskScore > 0 \/ decision.complexityScore > 0 then .medium
  else .low

def toolNodeId (index : Nat) : String :=
  "tool-" ++ toString (index + 1)

def toolNode (intent : String × Nat) : PlanNode where
  id := toolNodeId intent.2
  kind := .tool
  label := "invoke `" ++ intent.1 ++ "`"
  toolName := some intent.1
  timeoutMs := 3000
  maxAttempts := maxAttempts
  riskTier := selectSafeLaneRiskTier turn.config turn.laneDecision

def verifyNode : PlanNode where
  id := "verify-1"
  kind := .verify
  label := "verify non-empty tool outputs"
  toolName := none
  timeoutMs := 500
  maxAttempts := 1
  riskTier := .medium

def respondNode : PlanNode where
  id := "respond-1"
  kind := .respond
  label := "compose final response"
  toolName := none
  timeoutMs := 500
  maxAttempts := 1
  riskTier := .low

/-- The nodes after the tools. -/
def closingNodes : List PlanNode :=
  if config.safeLaneVerifyOutputNonEmpty then [verifyNode, respondNode] else [respondNode]

def planNodes (startToolIndex : Nat) : List PlanNode :=
  (turn.toolNames.zipIdx.drop (min startToolIndex turn.toolNames.length)).map
    (toolNode turn maxAttempts) ++ closingNodes turn.config

/-- An edge from each node to the next. -/
def chainEdges (nodes : List PlanNode) : List PlanEdge :=
  List.zipWith (fun first second => ⟨first.id, second.id⟩) nodes nodes.tail

def buildSafeLanePlanGraph (startToolIndex : Nat) : PlanGraph where
  version := "hybrid_lane_plan.v1"
  nodes := planNodes turn maxAttempts startToolIndex
  edges := chainEdges (planNodes turn maxAttempts startToolIndex)
  budget :=
    { maxNodes := 16
      maxTotalAttempts :=
        max ((planNodes turn maxAttempts startToolIndex).foldl
          (fun total node => total + node.maxAttempts) 0) 1
      maxWallTimeMs := max turn.config.safeLanePlanMaxWallTimeMs 1 }

/-! ## Nodes -/

def usizeMax : Nat := 18446744073709551615

def parseToolNodeIndex (nodeId : String) : Except PlanNodeError Nat :=
  if Text.startsWith nodeId "tool-" then
    match Decimal.parse usizeMax (Text.stripStart "tool-" nodeId) with
    | .error error =>
      .error ⟨.nonRetryable, "invalid tool node id `" ++ nodeId ++ "`: " ++ error⟩
    | .ok 0 => .error ⟨.nonRetryable, "invalid tool node ordinal in `" ++ nodeId ++ "`"⟩
    | .ok (index + 1) => .ok index
  else .error ⟨.nonRetryable, "invalid tool node id `" ++ nodeId ++ "`"⟩

/-- The outputs of a round, and the executions of the whole turn. -/
structure RoundState where
  toolOutputs : List String
  executions : List ToolExecution

def RoundState.executed (state : RoundState) (intent : Nat) (output : Option String) : RoundState :=
  { state with executions := state.executions ++ [⟨intent, output⟩] }

def attemptTool (index : Nat) (state : RoundState) : PlanAttemptOutcome × RoundState :=
  match environment.tool state.executions index with
  | .returned (.ok output) =>
    (.finished (.ok ()),
      { state.executed index (some output) with toolOutputs := state.toolOutputs ++ [output] })
  | .returned (.error error) => (.finished (.error error), state.executed index none)
  | .timedOut lost => (.timedOut, state.executed index lost)

def attemptToolNode (node : PlanNode) (state : RoundState) : PlanAttemptOutcome × RoundState :=
  match parseToolNodeIndex node.id with
  | .error error => (.finished (.error error), state)
  | .ok index =>
    match turn.toolNames[index]? with
    | none =>
      (.finished (.error
        ⟨.nonRetryable, "missing tool intent for node `" ++ node.id ++ "`"⟩), state)
    | some _ => attemptTool environment index state

def verifyToolOutputs (outputs : List String) : Except PlanNodeError Unit :=
  if turn.config.safeLaneVerifyOutputNonEmpty = false then .ok ()
  else if outputs = [] \/ outputs.any (fun line => Text.trim line = "") = true then
    .error ⟨.nonRetryable, "verify_failed:empty_tool_output"⟩
  else .ok ()

def attemptPlanNode (round : Nat) (node : PlanNode) (state : RoundState) :
    PlanAttemptOutcome × RoundState :=
  match node.kind with
  | .tool => attemptToolNode environment turn node state
  | .verify =>
    if environment.stalls round node.id then (.timedOut, state)
    else (.finished (verifyToolOutputs turn state.toolOutputs), state)
  | .transform =>
    if environment.stalls round node.id then (.timedOut, state) else (.finished (.ok ()), state)
  | .respond =>
    if environment.stalls round node.id then (.timedOut, state) else (.finished (.ok ()), state)

def planEnvironment (round : Nat) : PlanEnvironment RoundState where
  attempt := fun node _ state => attemptPlanNode environment turn round node state
  elapsedBefore := environment.elapsedBefore round
  elapsedAfter := environment.elapsedAfter round

/-! ## The state of the loop -/

structure SafeLanePlanLoopState where
  governor : SafeLaneSessionGovernorDecision
  replanBudget : SafeLaneReplanBudget
  toolNodeAttemptBudget : EscalatingAttemptBudget
  planStartToolIndex : Nat
  seedToolOutputs : List String
  metrics : SafeLaneExecutionMetrics

/-- The governor may lower the number of attempts at a node. -/
def forcedLimit (limit : Nat) : Nat :=
  match governor.forcedNodeMaxAttempts with
  | none => limit
  | some forced => min limit (max forced 1)

def effectiveMaxReplans : Nat :=
  if governor.forceNoReplan then 0 else config.safeLaneReplanMaxRounds

theorem effectiveMaxReplans_le : effectiveMaxReplans config governor <= 255 := by
  unfold effectiveMaxReplans
  split
  · exact Nat.zero_le 255
  · exact config.replanMaxRounds_le

namespace SafeLanePlanLoopState

def new (config : SafeLaneConfig) (governor : SafeLaneSessionGovernorDecision) :
    SafeLanePlanLoopState where
  governor := governor
  replanBudget :=
    { currentRound := 0
      maxReplans := effectiveMaxReplans config governor
      maxReplans_le := effectiveMaxReplans_le config governor }
  toolNodeAttemptBudget :=
    .new (forcedLimit governor (max config.safeLaneNodeMaxAttempts 1))
      (forcedLimit governor (max config.safeLaneReplanMaxNodeAttempts
        (forcedLimit governor (max config.safeLaneNodeMaxAttempts 1))))
  planStartToolIndex := 0
  seedToolOutputs := []
  metrics := ⟨0, 0, 0, 0, 0, 0⟩

variable (state : SafeLanePlanLoopState)

def withMetrics (change : SafeLaneExecutionMetrics -> SafeLaneExecutionMetrics) :
    SafeLanePlanLoopState :=
  { state with metrics := change state.metrics }

def noteRoundStarted : SafeLanePlanLoopState :=
  state.withMetrics fun metrics => { metrics with roundsStarted := metrics.roundsStarted + 1 }

def recordRoundExecution (report : PlanRunReport) : SafeLanePlanLoopState :=
  state.withMetrics fun metrics =>
    { metrics with totalAttemptsUsed := metrics.totalAttemptsUsed + report.attemptsUsed }

def noteRoundSucceeded : SafeLanePlanLoopState :=
  state.withMetrics fun metrics => { metrics with roundsSucceeded := metrics.roundsSucceeded + 1 }

def noteRoundFailed : SafeLanePlanLoopState :=
  state.withMetrics fun metrics => { metrics with roundsFailed := metrics.roundsFailed + 1 }

def noteVerifyFailure : SafeLanePlanLoopState :=
  state.withMetrics fun metrics => { metrics with verifyFailures := metrics.verifyFailures + 1 }

def noteReplan (nextPlanStartToolIndex : Nat) (nextSeedToolOutputs : List String) :
    SafeLanePlanLoopState :=
  { state with
    planStartToolIndex := nextPlanStartToolIndex
    seedToolOutputs := nextSeedToolOutputs
    metrics :=
      { state.metrics with replansTriggered := state.metrics.replansTriggered + 1 } }

def advanceRound : SafeLanePlanLoopState :=
  { state with
    replanBudget := state.replanBudget.afterReplan
    toolNodeAttemptBudget := state.toolNodeAttemptBudget.afterRetry }

def round : Nat :=
  state.replanBudget.currentRound

end SafeLanePlanLoopState

/-! ## One round -/

/-- Run the plan of a round on top of the executions so far. -/
def evaluateSafeLaneRound (executions : List ToolExecution) : PlanRunReport × RoundState :=
  (planEnvironment environment turn state.round).execute
    (buildSafeLanePlanGraph turn state.toolNodeAttemptBudget.currentLimit state.planStartToolIndex)
    { toolOutputs := state.seedToolOutputs, executions := executions }

structure SafeLaneTurnOutcome where
  result : TurnResult
  terminalRoute : Option SafeLaneFailureRoute
deriving DecidableEq

def shouldReplanForVerificationFailure : Bool :=
  !report.failureCodes.any fun code =>
    code = .denyMarkerDetected || code = .missingStatusPrefix || code = .missingSemanticAnchors

def verifyErrorOf : String :=
  String.intercalate "," report.failureReasons

def verifyFailureOf : TurnFailure :=
  turnFailureFromVerifyFailure (verifyErrorOf report) (shouldReplanForVerificationFailure report)

def terminalTurnFailureFromVerifyFailure (verifyError : String) (retryableSignal : Bool)
    (route : SafeLaneFailureRoute) : TurnFailure :=
  (route.terminalVerifyFailureCode retryableSignal).intoTurnFailure .nonRetryable
    (SafeLaneFailureCode.verifyFailed.asStr ++ ": " ++ verifyError)

def turnResultFromPlanFailure : TurnResult :=
  match (turnFailureFromPlanFailure failure).kind with
  | .policyDenied => .toolDenied (turnFailureFromPlanFailure failure)
  | .provider => .providerError (turnFailureFromPlanFailure failure)
  | .retryable => .toolError (turnFailureFromPlanFailure failure)
  | .nonRetryable => .toolError (turnFailureFromPlanFailure failure)

def terminalTurnResultFromPlanFailureWithRoute (route : SafeLaneFailureRoute) : TurnResult :=
  match route.terminalPlanFailureCode with
  | some code =>
    .toolError (code.intoTurnFailure .nonRetryable
      (code.asStr ++ ": " ++ summarizePlanFailure failure))
  | none => turnResultFromPlanFailure failure

/-- Where the next round starts, and with which outputs. -/
def deriveReplanCursor (roundToolOutputs : List String) (toolCount : Nat) : Nat × List String :=
  match failure with
  | .nodeFailed nodeId _ _ _ =>
    match parseToolNodeIndex nodeId with
    | .ok index => if index < toolCount then (index, roundToolOutputs) else (0, [])
    | .error _ => (0, [])
  | _ => (0, [])

abbrev RoundControl :=
  Control SafeLanePlanLoopState SafeLaneTurnOutcome

/-- Answer a failed verification by its route. -/
def afterVerifyFailure (report : PlanVerificationReport) (route : SafeLaneFailureRoute) :
    RoundControl :=
  if route.shouldReplan then .again (state.noteReplan 0 []).advanceRound
  else
    .done
      { result := .toolError (terminalTurnFailureFromVerifyFailure (verifyErrorOf report)
          (shouldReplanForVerificationFailure report) route)
        terminalRoute := some route }

/-- Answer a failed plan by its route. -/
def afterPlanFailure (failure : PlanRunFailure) (cursor : Nat × List String)
    (route : SafeLaneFailureRoute) : RoundControl :=
  if route.shouldReplan then .again (state.noteReplan cursor.1 cursor.2).advanceRound
  else
    .done
      { result := terminalTurnResultFromPlanFailureWithRoute failure route
        terminalRoute := some route }

def routeOf (failure : TurnFailure) : SafeLaneFailureRoute :=
  decideSafeLaneFailureRoute turn.config failure state.replanBudget state.metrics state.governor

/-- What follows from the report of a round.  The state is the one after the
round was recorded. -/
def concludeRound (report : PlanRunReport) (toolOutputs : List String) : RoundControl :=
  match report.status with
  | .succeeded =>
    if (environment.verify state.round (String.intercalate "\n" toolOutputs)).passed then
      .done { result := .finalText (String.intercalate "\n" toolOutputs), terminalRoute := none }
    else
      afterVerifyFailure state.noteRoundSucceeded.noteVerifyFailure
        (environment.verify state.round (String.intercalate "\n" toolOutputs))
        (routeOf turn state.noteRoundSucceeded.noteVerifyFailure
          (verifyFailureOf (environment.verify state.round (String.intercalate "\n" toolOutputs))))
  | .failed failure =>
    afterPlanFailure state.noteRoundFailed failure
      (deriveReplanCursor failure toolOutputs turn.toolNames.length)
      (routeOf turn state.noteRoundFailed (turnFailureFromPlanFailure failure))

def safeLaneRound : Attempt (List ToolExecution) Empty RoundControl :=
  fun executions =>
    match evaluateSafeLaneRound environment turn state executions with
    | (report, ended) =>
      (.ok (concludeRound environment turn
        (state.noteRoundStarted.recordRoundExecution report) report ended.toolOutputs),
        ended.executions)

/-- The loop of a turn, for as many rounds as its budget of replans allows.
`safeLane_roundsLaw` says that no turn needs more. -/
def executeTurnWithSafeLanePlan : Except Empty (Option SafeLaneTurnOutcome) × List ToolExecution :=
  Loop.run (safeLaneRound environment turn) (effectiveMaxReplans turn.config turn.governor + 1)
    (.new turn.config turn.governor) []

end SafeLane
end LoongClaw.Conversation
