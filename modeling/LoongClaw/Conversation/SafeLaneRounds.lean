import LoongClaw.Conversation.SafeLane

namespace LoongClaw.Conversation
namespace SafeLane

open Foundation

/-!
# How many rounds a turn of the safe lane takes

Every round but the first follows on a replan, and a replan has passed the
budget of rounds, the classification of the failure and the backpressure
guard.  `Replanned` says once what a further round starts from; the bounds on
whole turns follow from it by the rules for loops.
-/

/-- A round with the executions that it started from. -/
abbrev RoundEntry :=
  SafeLanePlanLoopState × List ToolExecution

variable (environment : SafeLaneEnvironment)

/-- The failure that a round ended with, if any: that of its plan, or that of
the final verification. -/
def failureOf (round : Nat) (report : PlanRunReport)
    (toolOutputs : List String) : Option TurnFailure :=
  match report.status with
  | .succeeded =>
    if (environment.verify round (String.intercalate "\n" toolOutputs)).passed then none
    else some (verifyFailureOf (environment.verify round (String.intercalate "\n" toolOutputs)))
  | .failed failure => some (turnFailureFromPlanFailure failure)

def roundFailure (turn : SafeLaneTurn) (entry : RoundEntry) : Option TurnFailure :=
  failureOf environment entry.1.round (evaluateSafeLaneRound environment turn entry.1 entry.2).1
    (evaluateSafeLaneRound environment turn entry.1 entry.2).2.toolOutputs

def roundAttempts (turn : SafeLaneTurn) (entry : RoundEntry) : Nat :=
  (evaluateSafeLaneRound environment turn entry.1 entry.2).1.attemptsUsed

/-- The node attempts of several rounds together. -/
def attemptsSpent (environment : SafeLaneEnvironment) (turn : SafeLaneTurn) : List RoundEntry -> Nat
  | [] => 0
  | entry :: rest => roundAttempts environment turn entry + attemptsSpent environment turn rest

variable {environment : SafeLaneEnvironment} {turn : SafeLaneTurn}

theorem attemptsSpent_concat {entries : List RoundEntry} {entry : RoundEntry} :
    attemptsSpent environment turn (entries ++ [entry]) =
      attemptsSpent environment turn entries + roundAttempts environment turn entry := by
  induction entries with
  | nil => exact Nat.add_comm _ _
  | cons first rest ih =>
    rw [List.cons_append, attemptsSpent, ih, attemptsSpent, Nat.add_assoc]

/-! ## What a further round starts from -/

/-- The state of the next round, after a replan. -/
structure Replanned (environment : SafeLaneEnvironment) (turn : SafeLaneTurn)
    (state : SafeLanePlanLoopState) (report : PlanRunReport) (toolOutputs : List String)
    (next : SafeLanePlanLoopState) : Prop where
  retryable : ∃ failure,
    failureOf environment state.round report toolOutputs = some failure /\ failure.kind = .retryable
  withinRounds : state.replanBudget.currentRound < state.replanBudget.maxReplans
  withinBackpressure : ∀ budget, safeLaneBackpressureBudget turn.config = some budget ->
    state.metrics.totalAttemptsUsed < budget.maxTotalAttempts /\
      state.metrics.replansTriggered < budget.maxReplans
  replanBudget : next.replanBudget = state.replanBudget.afterReplan
  replansTriggered : next.metrics.replansTriggered = state.metrics.replansTriggered + 1
  totalAttemptsUsed : next.metrics.totalAttemptsUsed = state.metrics.totalAttemptsUsed
  cursor : (next.planStartToolIndex = 0 /\ next.seedToolOutputs = []) \/
    ∃ failure, report.status = .failed failure /\
      deriveReplanCursor failure toolOutputs turn.toolNames.length =
        (next.planStartToolIndex, next.seedToolOutputs)

variable {state : SafeLanePlanLoopState} {route : SafeLaneFailureRoute}
  {environment : SafeLaneEnvironment} {turn : SafeLaneTurn} {executions later : List ToolExecution}

theorem concludeRound_again {next : SafeLanePlanLoopState} {report : PlanRunReport}
    {toolOutputs : List String}
    (again : concludeRound environment turn state report toolOutputs = .again next) :
    Replanned environment turn state report toolOutputs next := by
  unfold concludeRound at again
  split at again
  · rename_i succeeded
    split at again
    · cases again
    · rename_i rejected
      unfold afterVerifyFailure at again
      split at again
      · rename_i replans
        have passed := decideSafeLaneFailureRoute_replan replans
        cases again
        exact
          { retryable := ⟨_, by simp only [failureOf, succeeded, if_neg rejected]; rfl,
              turnFailureFromVerifyFailure_kind passed.1⟩
            withinRounds := passed.2.1
            withinBackpressure := passed.2.2
            replanBudget := rfl
            replansTriggered := rfl
            totalAttemptsUsed := rfl
            cursor := Or.inl ⟨rfl, rfl⟩ }
      · cases again
  · rename_i failure failed
    unfold afterPlanFailure at again
    split at again
    · rename_i replans
      have passed := decideSafeLaneFailureRoute_replan replans
      cases again
      exact
        { retryable := ⟨turnFailureFromPlanFailure failure, by simp only [failureOf, failed],
            turnFailureFromPlanFailure_kind passed.1⟩
          withinRounds := passed.2.1
          withinBackpressure := passed.2.2
          replanBudget := rfl
          replansTriggered := rfl
          totalAttemptsUsed := rfl
          cursor := Or.inr ⟨failure, failed, rfl⟩ }
    · cases again

/-- The state that the report of a round is concluded in. -/
def recordedState (environment : SafeLaneEnvironment) (turn : SafeLaneTurn)
    (entry : RoundEntry) : SafeLanePlanLoopState :=
  entry.1.noteRoundStarted.recordRoundExecution
    (evaluateSafeLaneRound environment turn entry.1 entry.2).1

theorem safeLaneRound_eq {state : SafeLanePlanLoopState} {executions : List ToolExecution} :
    safeLaneRound environment turn state executions =
      (.ok (concludeRound environment turn (recordedState environment turn (state, executions))
        (evaluateSafeLaneRound environment turn state executions).1
        (evaluateSafeLaneRound environment turn state executions).2.toolOutputs),
        (evaluateSafeLaneRound environment turn state executions).2.executions) := rfl

theorem safeLaneRound_again {next : SafeLanePlanLoopState}
    (again : safeLaneRound environment turn state executions = (.ok (.again next), later)) :
    later = (evaluateSafeLaneRound environment turn state executions).2.executions /\
      Replanned environment turn (recordedState environment turn (state, executions))
        (evaluateSafeLaneRound environment turn state executions).1
        (evaluateSafeLaneRound environment turn state executions).2.toolOutputs next := by
  rw [safeLaneRound_eq, Prod.mk.injEq, Except.ok.injEq] at again
  exact ⟨again.2.symm, concludeRound_again again.1⟩

/-! ## Whole turns -/

/-- The counters of a round agree with the rounds before it, and the last of
these was allowed to be followed by another. -/
structure RoundHistory (environment : SafeLaneEnvironment) (turn : SafeLaneTurn)
    (before : List RoundEntry) (state : SafeLanePlanLoopState) : Prop where
  maxReplans : state.replanBudget.maxReplans = effectiveMaxReplans turn.config turn.governor
  currentRound : state.replanBudget.currentRound = before.length
  replansTriggered : state.metrics.replansTriggered = before.length
  totalAttemptsUsed : state.metrics.totalAttemptsUsed = attemptsSpent environment turn before
  restarts : ∀ earlier last, before = earlier ++ [last] ->
    earlier.length < effectiveMaxReplans turn.config turn.governor /\
    (∃ failure, roundFailure environment turn last = some failure /\ failure.kind = .retryable) /\
    ∀ budget, safeLaneBackpressureBudget turn.config = some budget ->
      attemptsSpent environment turn (earlier ++ [last]) < budget.maxTotalAttempts /\
        earlier.length < budget.maxReplans

theorem roundHistory_new : RoundHistory environment turn [] (.new turn.config turn.governor) where
  maxReplans := rfl
  currentRound := rfl
  replansTriggered := rfl
  totalAttemptsUsed := rfl
  restarts := fun earlier _ split => by cases earlier <;> cases split

theorem RoundHistory.next {before : List RoundEntry} {next : SafeLanePlanLoopState}
    (history : RoundHistory environment turn before state)
    (again : safeLaneRound environment turn state executions = (.ok (.again next), later)) :
    RoundHistory environment turn (before ++ [(state, executions)]) next := by
  have replanned := (safeLaneRound_again again).2
  have total : (recordedState environment turn (state, executions)).metrics.totalAttemptsUsed =
      attemptsSpent environment turn (before ++ [(state, executions)]) := by
    rw [attemptsSpent_concat, <- history.totalAttemptsUsed]
    rfl
  have replans : (recordedState environment turn (state, executions)).metrics.replansTriggered =
      before.length := history.replansTriggered
  have within : before.length < effectiveMaxReplans turn.config turn.governor := by
    rw [<- history.currentRound, <- history.maxReplans]
    exact replanned.withinRounds
  have limit := effectiveMaxReplans_le turn.config turn.governor
  refine
    { maxReplans := ?_
      currentRound := ?_
      replansTriggered := ?_
      totalAttemptsUsed := replanned.totalAttemptsUsed.trans total
      restarts := ?_ }
  · rw [replanned.replanBudget]
    exact history.maxReplans
  · have counted : next.replanBudget.currentRound = min (before.length + 1) 255 := by
      rw [replanned.replanBudget, <- history.currentRound]
      rfl
    rw [counted, List.length_append, List.length_singleton]
    omega
  · rw [replanned.replansTriggered, replans, List.length_append, List.length_singleton]
  · intro earlier last split
    rcases List.append_inj' split rfl with ⟨same, single⟩
    cases single
    subst same
    refine ⟨within, replanned.retryable, fun budget enabled => ?_⟩
    have limits := replanned.withinBackpressure budget enabled
    rwa [total, replans] at limits

/-- What the rounds of a turn keep to. -/
structure RoundsLaw (environment : SafeLaneEnvironment) (turn : SafeLaneTurn)
    (rounds : List RoundEntry) : Prop where
  bounded : rounds.length <= effectiveMaxReplans turn.config turn.governor + 1
  restarts : ∀ before last next after, rounds = before ++ last :: next :: after ->
    turn.governor.forceNoReplan = false /\
    (∃ failure, roundFailure environment turn last = some failure /\ failure.kind = .retryable) /\
    ∀ budget, safeLaneBackpressureBudget turn.config = some budget ->
      attemptsSpent environment turn (before ++ [last]) < budget.maxTotalAttempts /\
        before.length < budget.maxReplans

/-- The rounds that a turn begins, each with the executions before it. -/
def safeLaneRounds (environment : SafeLaneEnvironment) (turn : SafeLaneTurn) (fuel : Nat) :
    List RoundEntry :=
  Loop.rounds (safeLaneRound environment turn) fuel (.new turn.config turn.governor) []

variable (environment)

variable (turn)

theorem safeLaneRound_decreasing : Loop.Decreasing (safeLaneRound environment turn) fun state =>
      state.replanBudget.maxReplans - state.replanBudget.currentRound := by
  intro state executions next later again
  have replanned := (safeLaneRound_again again).2
  have within : state.replanBudget.currentRound < state.replanBudget.maxReplans :=
    replanned.withinRounds
  have limit := state.replanBudget.maxReplans_le
  have stepped : next.replanBudget.currentRound =
      min (state.replanBudget.currentRound + 1) 255 := by
    rw [replanned.replanBudget]
    rfl
  have same : next.replanBudget.maxReplans = state.replanBudget.maxReplans := by
    rw [replanned.replanBudget]
    rfl
  dsimp only
  omega

/-- Every turn, whatever its tools do and however it is verified, keeps to the
law of rounds, and has ended with an outcome after them. -/
theorem safeLane_roundsLaw :
    (∀ fuel, RoundsLaw environment turn (safeLaneRounds environment turn fuel)) /\ ∃ outcome,
        (executeTurnWithSafeLanePlan environment turn).1 = .ok (some outcome) := by
  constructor
  · intro fuel
    refine
      { bounded := (safeLaneRound_decreasing environment turn).rounds_length_le fuel _ _
        restarts := ?_ }
    intro before last next after split
    have history : RoundHistory environment turn (before ++ [last]) next.1 :=
      @Loop.rounds_history _ _ _ _ _
        (fun before state _ => RoundHistory environment turn before state)
        (fun _ _ _ _ _ history again => history.next again) fuel [] _ _ roundHistory_new
        (before ++ [last]) next after (by rw [List.append_assoc]; exact split)
    rcases history.restarts before last rfl with ⟨within, failed, limits⟩
    refine ⟨?_, failed, limits⟩
    cases forced : turn.governor.forceNoReplan with
    | false => rfl
    | true =>
      unfold effectiveMaxReplans at within
      rw [forced, if_pos rfl] at within
      cases within
  · have enough : (SafeLanePlanLoopState.new turn.config turn.governor).replanBudget.maxReplans -
        (SafeLanePlanLoopState.new turn.config turn.governor).replanBudget.currentRound <
          effectiveMaxReplans turn.config turn.governor + 1 := Nat.lt_succ_self _
    have ends := (safeLaneRound_decreasing environment turn).run_ends _ [] enough
    unfold executeTurnWithSafeLanePlan
    rcases ran : (Loop.run (safeLaneRound environment turn)
      (effectiveMaxReplans turn.config turn.governor + 1) (.new turn.config turn.governor)
      []).1 with error | outcome
    · cases error
    · cases outcome with
      | none => exact absurd ran ends
      | some outcome => exact ⟨outcome, rfl⟩

end SafeLane
end LoongClaw.Conversation
