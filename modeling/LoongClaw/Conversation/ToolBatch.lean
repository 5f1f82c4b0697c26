import LoongClaw.Foundation.Completion
import LoongClaw.Conversation.Approval

namespace LoongClaw.Conversation

open Foundation Contracts Tools Completion

/-!
# Tool batches

The prepared calls of a turn are cut into runs of one scheduling class.  A run
of calls that are safe in parallel is executed concurrently, up to a limit, and
every other run one call after the other.  The outcome of each call is fixed
beforehand; what is left open is the order in which concurrent calls finish.
-/

/-! ## Result lines -/

structure ToolResultEnvelope where
  (status tool toolCallId payloadSummary : String)
  payloadChars : Nat
  payloadTruncated : Bool

/-- The JSON encoder of payloads and envelopes. -/
structure ResultEncoder where
  payloadText : Json -> String
  envelopeText : ToolResultEnvelope -> String

def minToolResultPayloadSummaryLimitChars : Nat := 256

def maxToolResultPayloadSummaryLimitChars : Nat := 64000

def clampSummaryLimit (limit : Nat) : Nat :=
  min (max limit minToolResultPayloadSummaryLimitChars) maxToolResultPayloadSummaryLimitChars

/-- A wrapped call is reported under the name of the inner tool, unless the
provider could have called that directly. -/
def effectiveResultToolName (intent : ToolIntent) : String :=
  let canonicalName := canonicalToolName intent.toolName
  if canonicalName ≠ "tool.invoke" then canonicalName
  else
    (((((intent.argsJson.get "tool_id").bind Json.asStr).map canonicalToolName).bind
      (fun toolName => (resolveToolExecution toolName).map (·.canonicalName))).filter
      (fun toolName => !isProviderExposedToolName toolName)).getD canonicalName

def effectivePayloadSummaryLimit (intent : ToolIntent) (defaultLimit : Nat) : Nat :=
  if effectiveResultToolName intent = "external_skills.invoke" then
    maxToolResultPayloadSummaryLimitChars
  else defaultLimit

def truncateByChars (value : String) (limit : Nat) : String × Nat × Bool :=
  let totalChars := value.toList.length
  if totalChars <= limit then (value, totalChars, false)
  else
    (String.ofList (value.toList.take limit) ++ "...(truncated " ++
      toString (totalChars - limit) ++ " chars)", totalChars, true)

def buildToolResultEnvelope (encoder : ResultEncoder) (intent : ToolCallIntent)
    (outcome : ToolCoreOutcome) (payloadSummaryLimitChars : Nat) : ToolResultEnvelope :=
  let limit := clampSummaryLimit
    (effectivePayloadSummaryLimit intent.toToolIntent payloadSummaryLimitChars)
  let summary := truncateByChars (encoder.payloadText outcome.payload) limit
  { status := outcome.status
    tool := effectiveResultToolName intent.toToolIntent
    toolCallId := intent.toolCallId
    payloadSummary := summary.1
    payloadChars := summary.2.1
    payloadTruncated := summary.2.2 }

def formatToolResultLineWithLimit (encoder : ResultEncoder) (intent : ToolCallIntent)
    (outcome : ToolCoreOutcome) (payloadSummaryLimitChars : Nat) : String :=
  "[" ++ outcome.status ++ "] " ++
    encoder.envelopeText (buildToolResultEnvelope encoder intent outcome payloadSummaryLimitChars)

/-! ## Segments -/

inductive ToolBatchExecutionMode where
  | sequential
  | parallel

structure TurnEngine where
  toolResultPayloadSummaryLimitChars : Nat
  parallelToolExecutionEnabled : Bool
  parallelToolExecutionMaxInFlight : Nat
  maxInFlight_pos : 0 < parallelToolExecutionMaxInFlight

theorem maxInFlight_pos_of_max (inFlight : Nat) : 0 < max inFlight 1 :=
  Nat.lt_of_lt_of_le Nat.zero_lt_one (Nat.le_max_right inFlight 1)

def TurnEngine.withParallelToolExecution (toolResultPayloadSummaryLimitChars : Nat)
    (parallelToolExecutionEnabled : Bool) (parallelToolExecutionMaxInFlight : Nat) :
    TurnEngine where
  toolResultPayloadSummaryLimitChars := clampSummaryLimit toolResultPayloadSummaryLimitChars
  parallelToolExecutionEnabled := parallelToolExecutionEnabled
  parallelToolExecutionMaxInFlight := max parallelToolExecutionMaxInFlight 1
  maxInFlight_pos := maxInFlight_pos_of_max parallelToolExecutionMaxInFlight

/-- A prepared call with the outcome that its execution will have. -/
structure BatchedToolIntent extends PreparedToolIntent where
  intent : ToolCallIntent
  schedulingClass : ToolSchedulingClass
  outcome : Except TurnResult ToolCoreOutcome

structure PreparedBatchSegment where
  len : Nat
  schedulingClass : ToolSchedulingClass
  executionMode : ToolBatchExecutionMode

namespace TurnEngine

variable (engine : TurnEngine)

def segmentExecutionMode (schedulingClass : ToolSchedulingClass) (segmentLen : Nat) :
    ToolBatchExecutionMode :=
  if engine.parallelToolExecutionEnabled = true /\ 1 < engine.parallelToolExecutionMaxInFlight /\
      schedulingClass = .parallelSafe /\ 1 < segmentLen then .parallel
  else .sequential

/-- `rounds` bounds the loop.  Every round takes at least one call. -/
def segmentsFrom : Nat -> List BatchedToolIntent -> List PreparedBatchSegment
  | 0, _ => []
  | _ + 1, [] => []
  | rounds + 1, first :: rest =>
    let len := ((first :: rest).takeWhile
      (fun prepared => prepared.schedulingClass = first.schedulingClass)).length
    { len
      schedulingClass := first.schedulingClass
      executionMode := engine.segmentExecutionMode first.schedulingClass len } ::
      segmentsFrom rounds ((first :: rest).drop len)

def preparedBatchSegments (prepared : List BatchedToolIntent) : List PreparedBatchSegment :=
  engine.segmentsFrom prepared.length prepared

end TurnEngine

/-! ## Execution -/

/-- A call of a segment with its index and what came of it. -/
abbrev SegmentJob :=
  Nat × Except TurnResult String

/-- For every concurrent segment, the order in which its calls finish. -/
structure CompletionSchedule (limit : Nat) where
  order : Nat -> List SegmentJob -> List SegmentJob
  completes : ∀ segment jobs, Order limit jobs (order segment jobs)

namespace TurnEngine

variable (encoder : ResultEncoder) (engine : TurnEngine)

def resultLine (prepared : BatchedToolIntent) : Except TurnResult String :=
  prepared.outcome.map (fun outcome =>
    formatToolResultLineWithLimit encoder prepared.intent outcome
      engine.toolResultPayloadSummaryLimitChars)

def executePreparedBatchSequential (prepared : List BatchedToolIntent) :
    Except TurnResult (List String) :=
  Completion.sequence (prepared.map (engine.resultLine encoder))

variable (order : List SegmentJob -> List SegmentJob)

def executePreparedBatchInParallel (prepared : List BatchedToolIntent) :
    Except TurnResult (List String) :=
  gather (order (enumerate 0 (prepared.map (engine.resultLine encoder))))

def executeSegment (segment : PreparedBatchSegment)
    (prepared : List BatchedToolIntent) : Except TurnResult (List String) :=
  match segment.executionMode with
  | .parallel => engine.executePreparedBatchInParallel encoder order prepared
  | .sequential => engine.executePreparedBatchSequential encoder prepared

def executeSegments (schedule : CompletionSchedule engine.parallelToolExecutionMaxInFlight) :
    Nat -> List PreparedBatchSegment -> List BatchedToolIntent -> Except TurnResult (List String)
  | _, [], _ => .ok []
  | index, segment :: rest, remaining => do
    let outputs <- engine.executeSegment encoder (schedule.order index) segment
      (remaining.take segment.len)
    let others <- executeSegments schedule (index + 1) rest (remaining.drop segment.len)
    return outputs ++ others

def executePreparedBatch (schedule : CompletionSchedule engine.parallelToolExecutionMaxInFlight)
    (prepared : List BatchedToolIntent) : Except TurnResult (List String) :=
  engine.executeSegments encoder schedule 0 (engine.preparedBatchSegments prepared) prepared

end TurnEngine

/-! ## The segments partition the batch -/

/-- The calls of each segment. -/
def segmentGroups : List PreparedBatchSegment -> List BatchedToolIntent ->
      List (PreparedBatchSegment × List BatchedToolIntent)
  | [], _ => []
  | segment :: rest, remaining =>
    (segment, remaining.take segment.len) :: segmentGroups rest (remaining.drop segment.len)

/-- Segments that cut a batch up in order, with calls of one class in each and
only calls that are safe in parallel in a concurrent one. -/
structure PartitionsBatch (segments : List PreparedBatchSegment)
    (prepared : List BatchedToolIntent) : Prop where
  concatenates : (segmentGroups segments prepared).flatMap Prod.snd = prepared
  filled : ∀ group, group ∈ segmentGroups segments prepared ->
    group.2.length = group.1.len /\ 0 < group.1.len
  uniform : ∀ group, group ∈ segmentGroups segments prepared ->
    ∀ call, call ∈ group.2 -> call.schedulingClass = group.1.schedulingClass
  safe : ∀ group, group ∈ segmentGroups segments prepared -> group.1.executionMode = .parallel ->
      ∀ call, call ∈ group.2 -> call.schedulingClass = .parallelSafe

namespace TurnEngine

variable {encoder : ResultEncoder} {engine : TurnEngine}

theorem partitionsBatch_segmentsFrom {rounds : Nat} {prepared : List BatchedToolIntent}
    (enough : prepared.length <= rounds) :
    PartitionsBatch (engine.segmentsFrom rounds prepared) prepared := by
  induction rounds generalizing prepared with
  | zero =>
    have empty : prepared = [] := List.length_eq_zero_iff.mp (Nat.le_zero.mp enough)
    rw [empty]
    exact ⟨rfl, nofun, nofun, nofun⟩
  | succ rounds ih =>
    cases prepared with
    | nil => exact ⟨rfl, nofun, nofun, nofun⟩
    | cons first rest =>
      have takes := (List.prefix_iff_eq_take.mp (List.takeWhile_prefix (l := first :: rest)
        fun prepared => decide (prepared.schedulingClass = first.schedulingClass))).symm
      have positive : 0 < ((first :: rest).takeWhile (fun prepared => decide
            (prepared.schedulingClass = first.schedulingClass))).length := by
        rw [List.takeWhile_cons_of_pos (by simp)]
        exact Nat.succ_pos _
      unfold segmentsFrom
      generalize sameClass : (first :: rest).takeWhile
        (fun prepared => decide (prepared.schedulingClass = first.schedulingClass)) = group
        at takes positive ⊢
      have uniform : ∀ call, call ∈ group -> call.schedulingClass = first.schedulingClass := by
        intro call member
        rw [<- sameClass] at member
        have satisfied := List.mem_takeWhile_imp member
        exact of_decide_eq_true satisfied
      have shorter : ((first :: rest).drop group.length).length <= rounds := by
        rw [List.length_drop]
        omega
      have others := ih shorter
      refine ⟨?_, ?_, ?_, ?_⟩
      · unfold segmentGroups
        rw [List.flatMap_cons, others.concatenates]
        exact List.take_append_drop group.length (first :: rest)
      · refine List.forall_mem_cons.mpr ⟨?_, others.filled⟩
        rw [takes]
        exact ⟨rfl, positive⟩
      · refine List.forall_mem_cons.mpr ⟨?_, others.uniform⟩
        rw [takes]
        exact uniform
      · refine List.forall_mem_cons.mpr ⟨?_, others.safe⟩
        intro parallel
        rw [takes]
        intro call inGroup
        rw [uniform call inGroup]
        unfold segmentExecutionMode at parallel
        split_ifs at parallel with conditions
        exact conditions.2.2.1

end TurnEngine

/-! ## Agreement with sequential execution -/

namespace TurnEngine

variable (encoder : ResultEncoder) (engine : TurnEngine)

/-- The results with which calls of a segment end the turn, in order. -/
def segmentFailures (prepared : List BatchedToolIntent) : List TurnResult :=
  failures (prepared.map (engine.resultLine encoder))

/-- In the first segment with failing calls, if it is concurrent, as many of
them as run at a time fail with the same result. -/
def FailuresAgree : List (PreparedBatchSegment × List BatchedToolIntent) -> Prop
  | [] => True
  | (segment, prepared) :: rest =>
    if (engine.segmentFailures encoder prepared).isEmpty then FailuresAgree rest
    else
      segment.executionMode = .parallel -> ∀ failure,
          failure ∈ (engine.segmentFailures encoder prepared).take
            engine.parallelToolExecutionMaxInFlight ->
          (engine.segmentFailures encoder prepared).head? = some failure

end TurnEngine

theorem CompletionSchedule.exists_order {limit : Nat} (positive : 0 < limit)
    {jobs order : List SegmentJob} (completes : Order limit jobs order) :
    ∃ schedule : CompletionSchedule limit, ∀ segment, schedule.order segment jobs = order := by
  classical
  refine ⟨⟨fun _ others => if others = jobs then order else others, ?_⟩, fun _ => if_pos rfl⟩
  intro segment others
  split_ifs with same
  · rw [same]
    exact completes
  · exact Order.self positive others

namespace TurnEngine

variable {encoder : ResultEncoder} {engine : TurnEngine}

theorem executePreparedBatchSequential_append {first second : List BatchedToolIntent} :
    engine.executePreparedBatchSequential encoder (first ++ second) = (do
      let outputs <- engine.executePreparedBatchSequential encoder first
      let others <- engine.executePreparedBatchSequential encoder second
      return outputs ++ others) := by
  unfold executePreparedBatchSequential
  rw [List.map_append]
  exact sequence_append _ _

/-- A segment gives the sequential result under every order exactly when it is
sequential or its failures agree. -/
theorem executeSegment_eq_sequential_iff {segment : PreparedBatchSegment}
    {prepared : List BatchedToolIntent} {index : Nat} :
    (∀ schedule : CompletionSchedule engine.parallelToolExecutionMaxInFlight,
      engine.executeSegment encoder (schedule.order index) segment prepared =
        engine.executePreparedBatchSequential encoder prepared) ↔
      (segment.executionMode = .parallel -> ∀ failure,
          failure ∈ (engine.segmentFailures encoder prepared).take
            engine.parallelToolExecutionMaxInFlight ->
          (engine.segmentFailures encoder prepared).head? = some failure) := by
  unfold executeSegment
  cases segment.executionMode with
  | sequential =>
    constructor
    · intro _ impossible
      cases impossible
    · intro _ schedule
      rfl
  | parallel =>
    have agreement := gather_eq_sequence_iff engine.maxInFlight_pos
      (prepared.map (engine.resultLine encoder))
    constructor
    · intro same _
      apply agreement.mp
      intro order completes
      rcases CompletionSchedule.exists_order engine.maxInFlight_pos completes with
        ⟨schedule, orders⟩
      have result := same schedule
      unfold executePreparedBatchInParallel at result
      rw [orders index] at result
      exact result
    · intro agree schedule
      exact agreement.mpr (agree rfl) _ (schedule.completes index _)

variable {segment : PreparedBatchSegment} {prepared : List BatchedToolIntent}
  {schedule : CompletionSchedule engine.parallelToolExecutionMaxInFlight}

theorem executeSegment_of_success (succeeds : engine.segmentFailures encoder prepared = [])
    {index : Nat} :
    engine.executeSegment encoder (schedule.order index) segment prepared =
      engine.executePreparedBatchSequential encoder prepared := by
  refine executeSegment_eq_sequential_iff.mpr ?_ schedule
  intro _ failure member
  rw [succeeds, List.take_nil] at member
  cases member

theorem executePreparedBatchSequential_of_failure
    (fails : engine.segmentFailures encoder prepared ≠ []) :
    ∃ failure, engine.executePreparedBatchSequential encoder prepared = .error failure := by
  rcases List.exists_cons_of_ne_nil fails with ⟨failure, later, isFirst⟩
  exact ⟨failure, sequence_of_failure isFirst⟩

theorem executeSegment_of_failure (fails : engine.segmentFailures encoder prepared ≠ [])
    {index : Nat} :
    ∃ failure,
      engine.executeSegment encoder (schedule.order index) segment prepared = .error failure := by
  unfold executeSegment
  cases segment.executionMode with
  | sequential => exact executePreparedBatchSequential_of_failure fails
  | parallel =>
    rcases gather_fails (schedule.completes index _) fails with
      ⟨failure, gathers, _⟩
    exact ⟨failure, gathers⟩

theorem append_eq_iff_of_ok {outputs : List String}
    {first second : Except TurnResult (List String)} :
    ((do
      let others <- first
      return outputs ++ others) = (do
      let others <- second
      return outputs ++ others : Except TurnResult (List String))) ↔ first = second := by
  constructor
  · intro same
    rcases first with failure | others <;> rcases second with failure' | others'
    · exact congrArg Except.error (Except.error.inj same)
    · cases same
    · cases same
    · exact congrArg Except.ok (List.append_cancel_left (Except.ok.inj same))
  · intro same
    rw [same]

/-- The run over the segments, with one step per segment. -/
theorem executeSegments_eq_sequential_iff (segments : List PreparedBatchSegment)
    (prepared : List BatchedToolIntent) (index : Nat)
    (concatenates : (segmentGroups segments prepared).flatMap Prod.snd = prepared) :
    (∀ schedule : CompletionSchedule engine.parallelToolExecutionMaxInFlight,
      engine.executeSegments encoder schedule index segments prepared =
        engine.executePreparedBatchSequential encoder prepared) ↔
      engine.FailuresAgree encoder (segmentGroups segments prepared) := by
  induction segments generalizing prepared index with
  | nil =>
    have empty : prepared = [] := concatenates.symm
    rw [empty]
    exact ⟨fun _ => trivial, fun _ _ => rfl⟩
  | cons segment rest ih =>
    unfold segmentGroups at concatenates ⊢
    generalize current : prepared.take segment.len = group at concatenates ⊢
    generalize others : prepared.drop segment.len = remaining at concatenates ⊢
    have cut : group ++ remaining = prepared := by
      rw [<- current, <- others]
      exact List.take_append_drop segment.len prepared
    have concatenatesRest : (segmentGroups rest remaining).flatMap Prod.snd = remaining := by
      rw [<- cut] at concatenates
      exact List.append_cancel_left concatenates
    unfold FailuresAgree executeSegments
    rw [current, others, <- cut, executePreparedBatchSequential_append]
    by_cases succeeds : engine.segmentFailures encoder group = []
    · rw [succeeds, List.isEmpty_nil, if_pos rfl, <- ih remaining (index + 1) concatenatesRest]
      have sequential : engine.executePreparedBatchSequential encoder group = .ok _ :=
        sequence_of_success 0 succeeds
      refine forall_congr' fun schedule => ?_
      rw [executeSegment_of_success succeeds, sequential]
      exact append_eq_iff_of_ok
    · have nonempty : (engine.segmentFailures encoder group).isEmpty = false := by
        rw [List.isEmpty_eq_false_iff]
        exact succeeds
      rw [nonempty, if_neg Bool.false_ne_true, <- executeSegment_eq_sequential_iff]
      rcases executePreparedBatchSequential_of_failure succeeds with ⟨failure, sequential⟩
      refine forall_congr' fun schedule => ?_
      rcases executeSegment_of_failure succeeds with ⟨result, executed⟩
      rw [sequential, executed]
      exact ⟨fun same => congrArg Except.error (Except.error.inj same),
        fun same => congrArg Except.error (Except.error.inj same)⟩

end TurnEngine

/-- A batch has the result of sequential execution under every order of
completion, and segments that partition it, exactly when the failures that may
end it agree. -/
theorem batch_result_order_independent_iff (encoder : ResultEncoder) (engine : TurnEngine)
    (prepared : List BatchedToolIntent) :
    ((∀ schedule : CompletionSchedule engine.parallelToolExecutionMaxInFlight,
      engine.executePreparedBatch encoder schedule prepared =
        engine.executePreparedBatchSequential encoder prepared) /\
      PartitionsBatch (engine.preparedBatchSegments prepared) prepared) ↔
      engine.FailuresAgree encoder
        (segmentGroups (engine.preparedBatchSegments prepared) prepared) := by
  have partitions : PartitionsBatch (engine.preparedBatchSegments prepared) prepared :=
    TurnEngine.partitionsBatch_segmentsFrom (Nat.le_refl _)
  have agreement := @TurnEngine.executeSegments_eq_sequential_iff encoder engine
    (engine.preparedBatchSegments prepared) prepared 0 partitions.concatenates
  constructor
  · intro independent
    exact agreement.mp independent.1
  · intro agree
    exact ⟨agreement.mpr agree, partitions⟩

namespace FailingSample

def encoder : ResultEncoder where
  payloadText := fun _ => ""
  envelopeText := fun _ => ""

def engine : TurnEngine :=
  .withParallelToolExecution 512 true 2

/-- The second of two calls finishes first. -/
def swapped : CompletionSchedule engine.parallelToolExecutionMaxInFlight where
  order := fun _ jobs =>
    match jobs with
    | [first, second] => [second, first]
    | others => others
  completes := by
    intro segment jobs
    have positive : 0 < engine.parallelToolExecutionMaxInFlight := engine.maxInFlight_pos
    split
    case h_1 first second =>
        exact @Order.finish SegmentJob 2 [first] [] [first] second Nat.one_lt_two
          (Order.self positive [first])
    case h_2 => exact Order.self positive jobs

/-- A leased call of `sessions_list` after its preparation.  The dispatcher of
the application yields while it runs and fails it in the end. -/
def failingList (reason : String) : BatchedToolIntent where
  request := { toolName := "sessions_list", payload := .object [] }
  executionKind := .app
  trustedInternalContext := false
  intent :=
    { toolName := "tool.invoke"
      argsJson := .object
        [ ("arguments", .object []),
          ("lease", .string (LeaseSample.scheme.lease
            { moment := ⟨"catalog", 1000⟩, toolId := "sessions_list", payload := [] })),
          ("tool_id", .string "sessions_list") ]
      source := ""
      turnId := ""
      toolCallId := "" }
  schedulingClass := schedulingClassForToolName "sessions_list"
  outcome := .error (appToolRefusal reason)

def batch : List BatchedToolIntent :=
  [failingList "database is locked", failingList "session registry closed"]

end FailingSample

open FailingSample

/-- The turn ends with the failure of the second call instead of the first. -/
theorem swapped_failures_change_result : engine.executePreparedBatch encoder swapped batch =
      .error (.nonRetryableToolError "app_tool_execution_failed" "session registry closed") /\
      engine.executePreparedBatchSequential encoder batch =
        .error (.nonRetryableToolError "app_tool_execution_failed" "database is locked") := by
  decide +kernel

end LoongClaw.Conversation
