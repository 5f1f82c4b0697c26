import LoongClaw.Conversation.SafeLaneRounds

namespace LoongClaw.Conversation
namespace SafeLane

open Foundation

/-!
# The outputs of a turn of the safe lane

Outputs are carried from round to round as seeds, together with the index of
the tool to start at.  `Seeded` relates the two: there is one seed for each
tool before the start, and it is the output of the last execution of that tool
that had one.  A plan that runs to its end adds one output for each of its
tools, and a plan that stops at a tool leaves the outputs of the tools before
it.
-/

/-- The output of the last execution of an intent that had one. -/
def lastOutput (executions : List ToolExecution) (intent : Nat) : Option String :=
  ((executions.filter fun execution => execution.intent = intent).filterMap
    ToolExecution.output).getLast?

variable {index : Nat} {executions : List ToolExecution} {maxAttempts start : Nat}
  {done rest : List PlanNode} {node : PlanNode} {state : SafeLanePlanLoopState}

/-- Each output is the last one of its intent. -/
def Latest (outputs : List String) (executions : List ToolExecution) : Prop :=
  ∀ index output, outputs[index]? = some output -> lastOutput executions index = some output

/-- An execution of an intent that has no output yet changes nothing. -/
theorem Latest.executed {outputs : List String} (latest : Latest outputs executions)
    (output : Option String) : Latest outputs (executions ++ [⟨outputs.length, output⟩]) := by
  intro index found listed
  rcases List.getElem?_eq_some_iff.mp listed with ⟨bound, _⟩
  unfold lastOutput
  rw [List.filter_append, List.filter_cons_of_neg (by simpa using Nat.ne_of_gt bound),
    List.filter_nil, List.append_nil]
  exact latest index found listed

theorem Latest.produced {outputs : List String} (latest : Latest outputs executions)
    (output : String) :
    Latest (outputs ++ [output]) (executions ++ [⟨outputs.length, some output⟩]) := by
  intro index found listed
  by_cases inside : index < outputs.length
  · rw [List.getElem?_append_left inside] at listed
    exact latest.executed (some output) index found listed
  · rw [List.getElem?_append_right (Nat.not_lt.mp inside)] at listed
    rcases List.getElem?_eq_some_iff.mp listed with ⟨bound, same⟩
    rw [List.length_singleton] at bound
    have last : index = outputs.length := by omega
    subst last
    have value : output = found := by simpa using same
    rw [<- value]
    unfold lastOutput
    rw [List.filter_append, List.filter_cons_of_pos (by simp), List.filter_nil,
      List.filterMap_append]
    exact List.getLast?_concat

/-! ## The nodes of a plan -/

theorem parseToolNodeIndex_toolNodeId {place : Nat}
    (parsed : parseToolNodeIndex (toolNodeId place) = .ok index) : index = place := by
  have begins : Text.startsWith (toolNodeId place) "tool-" = true := by
    unfold Text.startsWith toolNodeId
    rw [String.toList_append]
    exact List.isPrefixOf_iff_prefix.mpr (List.prefix_append _ _)
  have stripped : Text.stripStart "tool-" (toolNodeId place) = toString (place + 1) := by
    unfold Text.stripStart
    rw [if_pos begins]
    unfold toolNodeId
    rw [String.toList_append, List.drop_left, String.ofList_toList]
  unfold parseToolNodeIndex at parsed
  rw [if_pos begins, stripped] at parsed
  split at parsed
  · cases parsed
  · cases parsed
  · rename_i found read
    cases parsed
    exact Nat.succ.inj (Decimal.parse_toString read)

theorem mem_chainEdges {before after : List PlanNode} {first second : PlanNode} :
    (⟨first.id, second.id⟩ : PlanEdge) ∈ chainEdges (before ++ first :: second :: after) := by
  induction before with
  | nil => exact List.mem_cons_self
  | cons node rest ih =>
    cases rest with
    | nil | cons => exact List.mem_cons_of_mem _ ih

/-- A chain of nodes is run in its own order. -/
theorem nodesAt_chain {plan : PlanGraph} (accepted : plan.Accepted)
    (chained : plan.edges = chainEdges plan.nodes) :
    plan.nodesAt accepted.order = plan.nodes := by
  have distinct := accepted.distinctIds
  apply TopologicalOrder.PreviousFirst.eq_chain _ (List.Nodup.of_map _ distinct)
    accepted.nodesAt_perm
  intro done node rest ordered before previous after whole
  have member : (⟨previous.id, node.id⟩ : PlanEdge) ∈ plan.edges := by
    rw [chained, whole]
    exact mem_chainEdges
  rcases accepted.sourcesBefore done node rest ordered _ member rfl with ⟨source, early, same⟩
  have sourceListed : source ∈ plan.nodes := accepted.nodesAt_perm.mem_iff.mp
    (ordered ▸ List.mem_append_left _ early)
  have previousListed : previous ∈ plan.nodes := by
    rw [whole]
    exact List.mem_append_right before List.mem_cons_self
  rwa [List.inj_on_of_nodup_map distinct sourceListed previousListed same] at early

section

variable {environment : SafeLaneEnvironment} {turn : SafeLaneTurn}

/-- The nodes of a plan, by the number of nodes before them. -/
theorem planNodes_split (bounded : start <= turn.toolNames.length)
    (split : planNodes turn maxAttempts start = done ++ node :: rest) :
    (done.length < turn.toolNames.length - start /\ node.kind = .tool /\
      node.id = toolNodeId (start + done.length)) \/
    (turn.toolNames.length - start <= done.length /\
      (node = verifyNode \/ node = respondNode)) := by
  have found : (planNodes turn maxAttempts start)[done.length]? = some node := by
    rw [split, List.getElem?_append_right (Nat.le_refl _), Nat.sub_self]
    rfl
  have count : ((turn.toolNames.zipIdx.drop (min start turn.toolNames.length)).map
      (toolNode turn maxAttempts)).length = turn.toolNames.length - start := by
    rw [List.length_map, List.length_drop, List.length_zipIdx, Nat.min_eq_left bounded]
  unfold planNodes at found
  by_cases inside : done.length < turn.toolNames.length - start
  · rw [List.getElem?_append_left (count ▸ inside), List.getElem?_map, List.getElem?_drop,
      List.getElem?_zipIdx, Nat.min_eq_left bounded] at found
    rcases Option.map_eq_some_iff.mp found with ⟨intent, listed, same⟩
    rcases Option.map_eq_some_iff.mp listed with ⟨name, _, pair⟩
    subst same
    subst pair
    refine Or.inl ⟨inside, rfl, ?_⟩
    unfold toolNode
    rw [Nat.zero_add]
  · have outside := Nat.not_lt.mp inside
    rw [List.getElem?_append_right (count ▸ outside)] at found
    have member := List.mem_of_getElem? found
    unfold closingNodes at member
    refine Or.inr ⟨outside, ?_⟩
    split at member
    · simpa using member
    · exact Or.inr (List.mem_singleton.mp member)

/-! ## Attempts -/

section

include environment turn

theorem attemptPlanNode_tool {round : Nat} (kind : node.kind = .tool) (state : RoundState) :
    attemptPlanNode environment turn round node state =
      attemptToolNode environment turn node state := by
  unfold attemptPlanNode
  rw [kind]

/-- An attempt at a node without a tool leaves the outputs alone. -/
theorem attemptPlanNode_closing {round : Nat} (closing : node = verifyNode \/ node = respondNode)
    (state : RoundState) :
    (attemptPlanNode environment turn round node state).2 = state := by
  rcases closing with same | same
  · subst same
    change (if environment.stalls round verifyNode.id then
      (PlanAttemptOutcome.timedOut, state) else _).2 = state
    split <;> rfl
  · subst same
    change (if environment.stalls round respondNode.id then
      (PlanAttemptOutcome.timedOut, state) else _).2 = state
    split <;> rfl

end

/-- The outputs after some nodes of a plan that started at a tool. -/
structure Produced (turn : SafeLaneTurn) (start : Nat) (done : List PlanNode)
    (state : RoundState) : Prop where
  count : state.toolOutputs.length = start + min done.length (turn.toolNames.length - start)
  latest : Latest state.toolOutputs state.executions

/-- An attempt at the tool after the outputs so far. -/
theorem attemptToolNode_produced {node : PlanNode} {state : RoundState}
    (id : node.id = toolNodeId state.toolOutputs.length)
    (latest : Latest state.toolOutputs state.executions) :
    Latest (attemptToolNode environment turn node state).2.toolOutputs
        (attemptToolNode environment turn node state).2.executions /\
      (attemptToolNode environment turn node state).2.toolOutputs.length =
        state.toolOutputs.length +
          if (attemptToolNode environment turn node state).1.failure node = none then 1 else 0 := by
  generalize ran : attemptToolNode environment turn node state = attempt
  unfold attemptToolNode at ran
  split at ran
  · subst ran
    exact ⟨latest, rfl⟩
  · rename_i index parsed
    rw [id] at parsed
    have same := parseToolNodeIndex_toolNodeId parsed
    subst same
    split at ran
    · subst ran
      exact ⟨latest, rfl⟩
    · unfold attemptTool at ran
      split at ran
      all_goals subst ran
      · exact ⟨latest.produced _, List.length_append⟩
      · exact ⟨latest.executed none, rfl⟩
      · exact ⟨latest.executed _, rfl⟩

/-- The outputs keep pace with the nodes. -/
theorem produced_kept {round maxAttempts : Nat} (bounded : start <= turn.toolNames.length) :
    PlanStage.Kept (fun done _ _ run => Produced turn start done run.state)
      (planEnvironment environment turn round)
      (buildSafeLanePlanGraph turn maxAttempts start) (planNodes turn maxAttempts start) where
  failed := by
    intro done node rest tried run error split produced _ _ failed
    change Produced turn start done (attemptPlanNode environment turn round node run.state).2
    change (attemptPlanNode environment turn round node run.state).1.failure node = some error
      at failed
    rcases planNodes_split bounded split with ⟨inside, kind, id⟩ | ⟨_, closing⟩
    · have place : node.id = toolNodeId run.state.toolOutputs.length := by
        rw [id, produced.count, Nat.min_eq_left (Nat.le_of_lt inside)]
      rw [attemptPlanNode_tool kind] at failed ⊢
      rcases @attemptToolNode_produced environment turn node run.state place produced.latest with
        ⟨latest, count⟩
      rw [failed, if_neg nofun] at count
      exact ⟨count.trans produced.count, latest⟩
    · rw [attemptPlanNode_closing closing]
      exact produced
  succeeded := by
    intro done node rest tried run split produced _ _ succeeded
    change Produced turn start (done ++ [node])
      (attemptPlanNode environment turn round node run.state).2
    change (attemptPlanNode environment turn round node run.state).1.failure node = none
      at succeeded
    have longer : (done ++ [node]).length = done.length + 1 := List.length_append
    have count := produced.count
    rcases planNodes_split bounded split with ⟨inside, kind, id⟩ | ⟨outside, closing⟩
    · have place : node.id = toolNodeId run.state.toolOutputs.length := by
        rw [id, produced.count, Nat.min_eq_left (Nat.le_of_lt inside)]
      rw [attemptPlanNode_tool kind] at succeeded ⊢
      rcases @attemptToolNode_produced environment turn node run.state place produced.latest with
        ⟨latest, grown⟩
      rw [succeeded, if_pos rfl] at grown
      refine ⟨?_, latest⟩
      omega
    · rw [attemptPlanNode_closing closing]
      refine ⟨?_, produced.latest⟩
      omega

/-! ## Rounds -/

/-- There is one seed for each tool before the start of the next plan. -/
structure Seeded (turn : SafeLaneTurn) (start : Nat) (seeds : List String)
    (executions : List ToolExecution) : Prop where
  count : seeds.length = start
  bounded : start <= turn.toolNames.length
  latest : Latest seeds executions

theorem seeded_empty (executions : List ToolExecution) : Seeded turn 0 [] executions where
  count := rfl
  bounded := Nat.zero_le _
  latest := fun index output found => by cases found

/-- The cursor of a plan that stopped at a node, from the outputs so far. -/
theorem deriveReplanCursor_seeded {tried : Nat} (bounded : start <= turn.toolNames.length)
    (split : planNodes turn maxAttempts start = done ++ node :: rest) {state : RoundState}
    (produced : Produced turn start done state) {failure : PlanRunFailure}
    (halts : HaltsAt node tried failure) :
    Seeded turn (deriveReplanCursor failure state.toolOutputs turn.toolNames.length).1
      (deriveReplanCursor failure state.toolOutputs turn.toolNames.length).2
      state.executions := by
  cases halts with
  | budget | wallTime => exact seeded_empty _
  | node kind message =>
    unfold deriveReplanCursor
    dsimp only
    split
    · rename_i index parsed
      split
      · rename_i below
        rcases planNodes_split bounded split with ⟨inside, _, id⟩ | ⟨_, closing⟩
        · rw [id] at parsed
          have place := parseToolNodeIndex_toolNodeId parsed
          refine ⟨?_, Nat.le_of_lt below, produced.latest⟩
          rw [produced.count, Nat.min_eq_left (Nat.le_of_lt inside), place]
        · rcases closing with same | same
          all_goals
            subst same
            exact absurd parsed nofun
      · exact seeded_empty _
    · exact seeded_empty _

/-- What a round that started from its seeds ends with. -/
structure RoundOutputs (turn : SafeLaneTurn) (report : PlanRunReport) (ended : RoundState) :
    Prop where
  complete : report.status = .succeeded -> ended.toolOutputs.length = turn.toolNames.length /\
      Latest ended.toolOutputs ended.executions
  cursor : ∀ failure, report.status = .failed failure ->
    Seeded turn (deriveReplanCursor failure ended.toolOutputs turn.toolNames.length).1
      (deriveReplanCursor failure ended.toolOutputs turn.toolNames.length).2 ended.executions

theorem executePlan_outputs {round maxAttempts : Nat} {seeds : List String}
    (seeded : Seeded turn start seeds executions) :
    RoundOutputs turn ((planEnvironment environment turn round).execute
        (buildSafeLanePlanGraph turn maxAttempts start) ⟨seeds, executions⟩).1
      ((planEnvironment environment turn round).execute
        (buildSafeLanePlanGraph turn maxAttempts start) ⟨seeds, executions⟩).2 := by
  cases valid : (buildSafeLanePlanGraph turn maxAttempts start).validate with
  | error error =>
    unfold PlanEnvironment.execute
    rw [valid]
    refine ⟨nofun, fun failure failed => ?_⟩
    cases failed
    exact seeded_empty executions
  | ok passed =>
    rcases PlanGraph.validate_ok valid with ⟨accepted⟩
    have ordered := nodesAt_chain accepted rfl
    have kept : PlanStage.Kept (fun done _ _ run => Produced turn start done run.state)
        (planEnvironment environment turn round)
        (buildSafeLanePlanGraph turn maxAttempts start)
        ((buildSafeLanePlanGraph turn maxAttempts start).nodesAt accepted.order) := by
      rw [ordered]
      exact produced_kept seeded.bounded
    have starts : Produced turn start [] ⟨seeds, executions⟩ := by
      refine ⟨?_, seeded.latest⟩
      exact seeded.count
    have ends := kept.execute accepted valid ⟨seeds, executions⟩ starts
    generalize (planEnvironment environment turn round).execute
      (buildSafeLanePlanGraph turn maxAttempts start) ⟨seeds, executions⟩ = ended at ends ⊢
    rw [ordered] at ends
    cases ends with
    | succeeded run elapsedMs produced =>
      refine ⟨fun _ => ⟨?_, produced.latest⟩, nofun⟩
      have tools : turn.toolNames.length - start <= (planNodes turn maxAttempts start).length := by
        unfold planNodes
        rw [List.length_append, List.length_map, List.length_drop, List.length_zipIdx,
          Nat.min_eq_left seeded.bounded]
        exact Nat.le_add_right _ _
      have count : run.state.toolOutputs.length = start +
          min (planNodes turn maxAttempts start).length (turn.toolNames.length - start) :=
        produced.count
      rw [Nat.min_eq_right tools, Nat.add_sub_cancel' seeded.bounded] at count
      exact count
    | failed done rest node tried run failure elapsedMs split produced halts limited =>
      refine ⟨nofun, fun other same => ?_⟩
      cases same
      exact deriveReplanCursor_seeded seeded.bounded split produced halts

/-! ## Turns -/

/-- The seeds of a round, with the executions before it. -/
def StartsSeeded (turn : SafeLaneTurn) (state : SafeLanePlanLoopState)
    (executions : List ToolExecution) : Prop :=
  Seeded turn state.planStartToolIndex state.seedToolOutputs executions

theorem StartsSeeded.outputs (seeded : StartsSeeded turn state executions) :
    RoundOutputs turn (evaluateSafeLaneRound environment turn state executions).1
      (evaluateSafeLaneRound environment turn state executions).2 :=
  executePlan_outputs seeded

theorem StartsSeeded.next {next : SafeLanePlanLoopState} {later : List ToolExecution}
    (seeded : StartsSeeded turn state executions)
    (again : safeLaneRound environment turn state executions = (.ok (.again next), later)) :
    StartsSeeded turn next later := by
  rcases safeLaneRound_again again with ⟨executed, replanned⟩
  unfold StartsSeeded
  rcases replanned.cursor with ⟨start, seeds⟩ | ⟨failure, failed, cursor⟩
  · rw [start, seeds]
    exact seeded_empty later
  · have carried := seeded.outputs.cursor failure failed
    rw [cursor, <- executed] at carried
    exact carried

/-- Only a round whose plan succeeded ends the turn with a text, and that text
joins its outputs. -/
theorem concludeRound_finalText {report : PlanRunReport} {toolOutputs : List String}
    {outcome : SafeLaneTurnOutcome}
    {text : String}
    (ended : concludeRound environment turn state report toolOutputs = .done outcome)
    (final : outcome.result = .finalText text) :
    report.status = .succeeded /\ text = String.intercalate "\n" toolOutputs := by
  unfold concludeRound at ended
  split at ended
  · rename_i succeeded
    refine ⟨succeeded, ?_⟩
    split at ended
    · cases ended
      cases final
      rfl
    · unfold afterVerifyFailure at ended
      split at ended
      · cases ended
      · cases ended
        cases final
  · unfold afterPlanFailure at ended
    split at ended
    · cases ended
    · cases ended
      unfold terminalTurnResultFromPlanFailureWithRoute at final
      split at final
      · cases final
      · unfold turnResultFromPlanFailure at final
        split at final <;> cases final

/-- A turn that answers with a text has exactly one output for each intent, in
their order, and each is that of the last successful execution of its intent
in the turn. -/
theorem safeLane_outputs (environment : SafeLaneEnvironment) (turn : SafeLaneTurn)
    {outcome : SafeLaneTurnOutcome} {text : String}
    (ran : executeTurnWithSafeLanePlan environment turn = (.ok (some outcome), executions))
    (final : outcome.result = .finalText text) :
    ∃ outputs : List String, text = String.intercalate "\n" outputs /\
      outputs.length = turn.toolNames.length /\
      ∀ index output, outputs[index]? = some output ->
        lastOutput executions index = some output := by
  have start : StartsSeeded turn (.new turn.config turn.governor) [] := seeded_empty []
  rcases @Loop.run_done _ _ _ _ _ (StartsSeeded turn)
    (fun _ _ _ _ seeded again => seeded.next again) _ _ _ _ _ start ran with
    ⟨state, before, seeded, ended⟩
  rw [safeLaneRound_eq, Prod.mk.injEq, Except.ok.injEq] at ended
  rcases concludeRound_finalText ended.1 final with ⟨succeeded, joined⟩
  rcases seeded.outputs.complete succeeded with ⟨count, latest⟩
  rw [<- ended.2]
  exact ⟨_, joined, count, latest⟩

end

namespace SeededSample

def config : SafeLaneConfig where
  safeLaneNodeMaxAttempts := 1
  safeLaneReplanMaxRounds := 1
  safeLaneReplanMaxNodeAttempts := 1
  safeLaneVerifyOutputNonEmpty := true
  safeLanePlanMaxWallTimeMs := 1000
  safeLaneRiskThreshold := 4
  safeLaneComplexityThreshold := 6
  safeLaneBackpressureGuardEnabled := true
  safeLaneBackpressureMaxTotalAttempts := 32
  safeLaneBackpressureMaxReplans := 8
  replanMaxRounds_le := by decide

def turn : SafeLaneTurn where
  config := config
  governor := { forceNoReplan := false, forcedNodeMaxAttempts := none }
  laneDecision := { riskScore := 5, complexityScore := 1 }
  toolNames := ["file.read", "shell.exec"]

/-- The second tool fails when it is first executed. -/
def environment : SafeLaneEnvironment where
  tool := fun executions index =>
    if index = 1 /\ executions.length < 2 then .returned (.error ⟨.retryable, "busy"⟩)
    else .returned (.ok (if index = 0 then "[ok] read" else "[ok] run"))
  stalls := fun _ _ => false
  elapsedBefore := fun _ _ => 0
  elapsedAfter := fun _ _ => 0
  verify := fun _ _ => { passed := true, failureReasons := [], failureCodes := [] }

end SeededSample

open SeededSample

/-- A turn whose second round starts at the second tool, with the output of
the first one as its seed. -/
theorem safeLane_outputs_seeded : ∃ executions : List ToolExecution,
      executeTurnWithSafeLanePlan environment turn =
          (.ok (some ⟨.finalText "[ok] read\n[ok] run", none⟩), executions) /\
        ∃ outputs : List String, "[ok] read\n[ok] run" = String.intercalate "\n" outputs /\
          outputs.length = turn.toolNames.length /\
          ∀ index output, outputs[index]? = some output ->
            lastOutput executions index = some output :=
  have ran : executeTurnWithSafeLanePlan environment turn =
      (.ok (some ⟨.finalText "[ok] read\n[ok] run", none⟩),
        [⟨0, some "[ok] read"⟩, ⟨1, none⟩, ⟨1, some "[ok] run"⟩]) := by
    decide +kernel
  ⟨_, ran, safeLane_outputs environment turn ran rfl⟩

end SafeLane
end LoongClaw.Conversation
