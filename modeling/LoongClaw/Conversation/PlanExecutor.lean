import LoongClaw.Conversation.Plan

namespace LoongClaw.Conversation

open Foundation

/-!
# Running a plan

The executor of the source is given from outside: an attempt at a node ends in
time or not, with a result and a new state of its own.  The clock is read
before each attempt and once at the end.  A run works through the nodes in
topological order and tries each of them until it succeeds, fails for good or
has used its attempts.
-/

inductive PlanNodeErrorKind where
  | approvalRequired
  | retryable
  | policyDenied
  | nonRetryable

structure PlanNodeError where
  kind : PlanNodeErrorKind
  message : String

inductive PlanRunFailure where
  | validationFailed (error : String)
  | topologyResolutionFailed
  | budgetExceeded (attemptsUsed limit : Nat)
  | wallTimeExceeded (elapsedMs limitMs : Nat)
  | nodeFailed (nodeId : String) (attemptsUsed : Nat) (lastErrorKind : PlanNodeErrorKind)
      (lastError : String)

inductive PlanRunStatus where
  | succeeded
  | failed (failure : PlanRunFailure)

structure PlanNodeAttemptEvent where
  nodeId : String
  attempt : Nat
  success : Bool
  errorKind : Option PlanNodeErrorKind
  error : Option String

structure PlanRunReport where
  status : PlanRunStatus
  orderedNodes : List String
  attemptsUsed : Nat
  attemptEvents : List PlanNodeAttemptEvent
  elapsedMs : Nat

inductive PlanAttemptOutcome where
  | timedOut
  | finished (result : Except PlanNodeError Unit)

universe u

/-- The node executor with the state it keeps, and the clock: the milliseconds
since the start before the next attempt, and when the run ends, by the number
of attempts made. -/
structure PlanEnvironment (σ : Type u) where
  attempt : PlanNode -> Nat -> σ -> PlanAttemptOutcome × σ
  (elapsedBefore elapsedAfter : Nat -> Nat)

structure PlanRun (σ : Type u) where
  attemptsUsed : Nat
  events : List PlanNodeAttemptEvent
  state : σ

variable {σ : Type u}

def normalizeNodeError (error : PlanNodeError) : PlanNodeError :=
  if Text.trim error.message = "" then
    { kind := error.kind, message := "node execution failed with empty reason" }
  else { kind := error.kind, message := Text.trim error.message }

def timeoutError (node : PlanNode) : PlanNodeError :=
  normalizeNodeError
    { kind := .retryable
      message := "node_timeout node=" ++ node.id ++ " timeout_ms=" ++ toString node.timeoutMs }

/-- Retrying a denied node, or one that waits for an approval, cannot help. -/
def PlanNodeErrorKind.endsNode : PlanNodeErrorKind -> Bool
  | .policyDenied => true
  | .approvalRequired => true
  | .retryable => false
  | .nonRetryable => false

namespace PlanRun

def failing (run : PlanRun σ) (node : PlanNode) (attempt : Nat) (error : PlanNodeError)
    (state : σ) : PlanRun σ where
  attemptsUsed := run.attemptsUsed + 1
  events := run.events ++
    [{ nodeId := node.id, attempt := attempt, success := false, errorKind := some error.kind
       error := some error.message }]
  state := state

def succeeding (run : PlanRun σ) (node : PlanNode) (attempt : Nat) (state : σ) : PlanRun σ where
  attemptsUsed := run.attemptsUsed + 1
  events := run.events ++
    [{ nodeId := node.id, attempt := attempt, success := true, errorKind := none
       error := none }]
  state := state

def report (run : PlanRun σ) (status : PlanRunStatus) (orderedNodes : List String)
    (elapsedMs : Nat) : PlanRunReport × σ :=
  ({ status := status
     orderedNodes := orderedNodes
     attemptsUsed := run.attemptsUsed
     attemptEvents := run.events
     elapsedMs := elapsedMs }, run.state)

end PlanRun

def nodeFailure (node : PlanNode) (attempt : Nat) (error : PlanNodeError) : PlanRunStatus :=
  .failed (.nodeFailed node.id attempt error.kind error.message)

namespace PlanEnvironment

variable (environment : PlanEnvironment σ) (plan : PlanGraph) (orderedNodes : List String)

/-- The attempts at one node.  `.error` carries the report of a run that ends
at this node. -/
def attemptNode (node : PlanNode) :
    Nat -> Nat -> PlanRun σ -> Except (PlanRunReport × σ) (PlanRun σ)
  | 0, _, run => .ok run
  | left + 1, attempt, run =>
    if environment.elapsedBefore run.attemptsUsed > plan.budget.maxWallTimeMs then
      .error (run.report (.failed (.wallTimeExceeded (environment.elapsedBefore run.attemptsUsed)
          plan.budget.maxWallTimeMs))
        orderedNodes (environment.elapsedBefore run.attemptsUsed))
    else if run.attemptsUsed ≥ plan.budget.maxTotalAttempts then
      .error (run.report (.failed (.budgetExceeded run.attemptsUsed plan.budget.maxTotalAttempts))
        orderedNodes (environment.elapsedBefore run.attemptsUsed))
    else
      match environment.attempt node attempt run.state with
      | (.timedOut, state) =>
        if attempt = node.maxAttempts then
          .error ((run.failing node attempt (timeoutError node) state).report
            (nodeFailure node attempt (timeoutError node)) orderedNodes
            (environment.elapsedAfter (run.attemptsUsed + 1)))
        else attemptNode node left (attempt + 1)
          (run.failing node attempt (timeoutError node) state)
      | (.finished (.ok ()), state) => .ok (run.succeeding node attempt state)
      | (.finished (.error error), state) =>
        if (normalizeNodeError error).kind.endsNode = true \/ attempt = node.maxAttempts then
          .error ((run.failing node attempt (normalizeNodeError error) state).report
            (nodeFailure node attempt (normalizeNodeError error)) orderedNodes
            (environment.elapsedAfter (run.attemptsUsed + 1)))
        else attemptNode node left (attempt + 1)
          (run.failing node attempt (normalizeNodeError error) state)

def executeNodes : List Nat -> PlanRun σ -> PlanRunReport × σ
  | [], run =>
    run.report .succeeded orderedNodes (environment.elapsedAfter run.attemptsUsed)
  | index :: rest, run =>
    match plan.nodes[index]? with
    | none =>
      run.report (.failed .topologyResolutionFailed) orderedNodes
        (environment.elapsedAfter run.attemptsUsed)
    | some node =>
      match environment.attemptNode plan orderedNodes node node.maxAttempts 1 run with
      | .error ended => ended
      | .ok next => executeNodes rest next

end PlanEnvironment

def PlanRunReport.unstarted (failure : PlanRunFailure) : PlanRunReport where
  status := .failed failure
  orderedNodes := []
  attemptsUsed := 0
  attemptEvents := []
  elapsedMs := 0

def PlanEnvironment.execute (environment : PlanEnvironment σ) (plan : PlanGraph) (state : σ) :
    PlanRunReport × σ :=
  match plan.validate with
  | .error error => (.unstarted (.validationFailed error), state)
  | .ok () =>
    match plan.topologicalOrder with
    | none => (.unstarted .topologyResolutionFailed, state)
    | some order =>
      match order.mapM fun index => plan.nodes[index]?.map PlanNode.id with
      | none => (.unstarted .topologyResolutionFailed, state)
      | some orderedNodes =>
        environment.executeNodes plan orderedNodes order
          { attemptsUsed := 0, events := [], state := state }

/-! ## Nodes in running order -/

namespace PlanGraph

def nodesAt (plan : PlanGraph) (order : List Nat) : List PlanNode :=
  order.filterMap fun index => plan.nodes[index]?

/-- Each node comes after the sources of all its edges. -/
def SourcesBefore (plan : PlanGraph) (nodes : List PlanNode) : Prop :=
  ∀ done node rest, nodes = done ++ node :: rest ->
    ∀ edge, edge ∈ plan.edges -> edge.toNode = node.id ->
      ∃ source, source ∈ done /\ source.id = edge.fromNode

theorem nodesAt_range (plan : PlanGraph) :
    plan.nodesAt (List.range plan.nodes.length) = plan.nodes := by
  unfold PlanGraph.nodesAt
  induction plan.nodes with
  | nil => rfl
  | cons node rest ih =>
    rw [List.length_cons, List.range_succ_eq_map, List.filterMap_cons, List.filterMap_map]
    exact congrArg (node :: ·) ih

namespace Accepted

variable {plan : PlanGraph} (accepted : Accepted plan)

theorem nodesAt_perm : (plan.nodesAt accepted.order).Perm plan.nodes := by
  have moved := accepted.permutes.filterMap fun index => plan.nodes[index]?
  exact moved.trans (List.Perm.of_eq plan.nodesAt_range)

theorem nodesAt_distinct : ((plan.nodesAt accepted.order).map PlanNode.id).Nodup :=
  (accepted.nodesAt_perm.map PlanNode.id).nodup_iff.mpr accepted.distinctIds

theorem sourcesBefore : plan.SourcesBefore (plan.nodesAt accepted.order) := by
  intro done node rest split edge member enters
  rcases List.filterMap_eq_append_iff.mp split with ⟨front, back, whole, frontNodes, backNodes⟩
  rcases List.filterMap_eq_cons_iff.mp backNodes with
    ⟨skipped, index, later, backSplit, missing, found, _⟩
  have placed : accepted.table.nodeIndex.lookup edge.toNode = some index := by
    rw [accepted.places, List.getElem?_map, found, enters]
    rfl
  rcases accepted.graph with ⟨edges, resolved, _, _, first⟩
  rcases resolved_of_mem resolved member with ⟨ends, wired, resolves⟩
  have target : ends.2 = index := Option.some.inj (resolves.2.symm.trans placed)
  have source : ends.1 ∈ front ++ skipped := by
    refine first (front ++ skipped) index later ?_ ends wired target
    rw [whole, backSplit, List.append_assoc]
  have listed := (accepted.places _ _).mp resolves.1
  rw [List.getElem?_map] at listed
  rcases Option.map_eq_some_iff.mp listed with ⟨sourceNode, sourceFound, sourceId⟩
  refine ⟨sourceNode, ?_, sourceId⟩
  rcases List.mem_append.mp source with early | skip
  · rw [<- frontNodes]
    exact List.mem_filterMap.mpr ⟨ends.1, early, sourceFound⟩
  · rw [missing ends.1 skip] at sourceFound
    cases sourceFound

end Accepted

end PlanGraph

/-! ## Stages of a run -/

/-- The error of an attempt that did not succeed. -/
def PlanAttemptOutcome.failure (node : PlanNode) : PlanAttemptOutcome -> Option PlanNodeError
  | .timedOut => some (timeoutError node)
  | .finished (.ok ()) => none
  | .finished (.error error) => some (normalizeNodeError error)

/-- A stage says how far a run is: the nodes done, the nodes to come, and the
failed attempts at the first of these. -/
abbrev PlanStage (σ : Type u) := List PlanNode -> List PlanNode -> Nat -> PlanRun σ -> Prop

/-- Every attempt takes a run from stage to stage. -/
structure PlanStage.Kept (stage : PlanStage σ) (environment : PlanEnvironment σ)
    (plan : PlanGraph) (nodes : List PlanNode) : Prop where
  failed : ∀ done node rest tried run error, nodes = done ++ node :: rest ->
    stage done (node :: rest) tried run -> tried < node.maxAttempts ->
    run.attemptsUsed < plan.budget.maxTotalAttempts ->
    (environment.attempt node (tried + 1) run.state).1.failure node = some error ->
      stage done (node :: rest) (tried + 1)
        (run.failing node (tried + 1) error (environment.attempt node (tried + 1) run.state).2)
  succeeded : ∀ done node rest tried run, nodes = done ++ node :: rest ->
    stage done (node :: rest) tried run -> tried < node.maxAttempts ->
    run.attemptsUsed < plan.budget.maxTotalAttempts ->
    (environment.attempt node (tried + 1) run.state).1.failure node = none ->
      stage (done ++ [node]) rest 0
        (run.succeeding node (tried + 1) (environment.attempt node (tried + 1) run.state).2)

/-- The ways a run can end at a node after a number of attempts at it. -/
inductive HaltsAt (node : PlanNode) (tried : Nat) : PlanRunFailure -> Prop where
  | budget (attemptsUsed limit : Nat) : HaltsAt node tried (.budgetExceeded attemptsUsed limit)
  | wallTime (elapsedMs limitMs : Nat) : HaltsAt node tried (.wallTimeExceeded elapsedMs limitMs)
  | node (kind : PlanNodeErrorKind) (message : String) :
      HaltsAt node tried (.nodeFailed node.id tried kind message)

/-- The stage in which a run ended. -/
inductive PlanStage.Ends (stage : PlanStage σ) (nodes : List PlanNode)
    (orderedNodes : List String) : PlanRunReport × σ -> Prop where
  | succeeded (run : PlanRun σ) (elapsedMs : Nat) (reached : stage nodes [] 0 run) :
      Ends stage nodes orderedNodes (run.report .succeeded orderedNodes elapsedMs)
  | failed (done rest : List PlanNode) (node : PlanNode) (tried : Nat) (run : PlanRun σ)
      (failure : PlanRunFailure) (elapsedMs : Nat) (split : nodes = done ++ node :: rest)
      (reached : stage done (node :: rest) tried run) (halts : HaltsAt node tried failure)
      (limited : tried <= node.maxAttempts) :
      Ends stage nodes orderedNodes (run.report (.failed failure) orderedNodes elapsedMs)

namespace PlanStage.Kept

variable {stage : PlanStage σ} {environment : PlanEnvironment σ} {plan : PlanGraph}
  {nodes : List PlanNode} {done : List PlanNode} {run : PlanRun σ}

/-- The attempts at a node either finish it or end the run there. -/
theorem attemptNode (kept : stage.Kept environment plan nodes) (orderedNodes : List String)
    {rest : List PlanNode} {node : PlanNode} (split : nodes = done ++ node :: rest) (left : Nat)
    {tried : Nat} (reached : stage done (node :: rest) tried run) (positive : 0 < left)
    (total : tried + left = node.maxAttempts) :
    (∃ next, environment.attemptNode plan orderedNodes node left (tried + 1) run = .ok next /\
        stage (done ++ [node]) rest 0 next) \/
    ∃ ended, environment.attemptNode plan orderedNodes node left (tried + 1) run = .error ended /\
        stage.Ends nodes orderedNodes ended := by
  induction left generalizing tried run with
  | zero => cases positive
  | succ left ih =>
    unfold PlanEnvironment.attemptNode
    by_cases late : environment.elapsedBefore run.attemptsUsed > plan.budget.maxWallTimeMs
    · rw [if_pos late]
      exact Or.inr ⟨_, rfl, .failed done rest node tried run _ _ split reached
        (.wallTime _ _) (by omega)⟩
    rw [if_neg late]
    by_cases spent : run.attemptsUsed ≥ plan.budget.maxTotalAttempts
    · rw [if_pos spent]
      exact Or.inr ⟨_, rfl, .failed done rest node tried run _ _ split reached
        (.budget _ _) (by omega)⟩
    rw [if_neg spent]
    have available : run.attemptsUsed < plan.budget.maxTotalAttempts := Nat.not_le.mp spent
    have below : tried < node.maxAttempts := by omega
    have onFailure := kept.failed done node rest tried run
    have onSuccess := kept.succeeded done node rest tried run split reached below available
    rcases result : environment.attempt node (tried + 1) run.state with ⟨outcome, state⟩
    rw [result] at onFailure onSuccess
    rcases outcome with _ | (error | _)
    · have next := onFailure (timeoutError node) split reached below available rfl
      by_cases last : tried + 1 = node.maxAttempts
      · simp only [if_pos last]
        exact Or.inr ⟨_, rfl, .failed done rest node (tried + 1) _ _ _ split next
          (.node _ _) (by omega)⟩
      · simp only [if_neg last]
        exact ih next (by omega) (by omega)
    · have next := onFailure (normalizeNodeError error) split reached below available rfl
      by_cases last :
        (normalizeNodeError error).kind.endsNode = true \/ tried + 1 = node.maxAttempts
      · simp only [if_pos last]
        exact Or.inr ⟨_, rfl, .failed done rest node (tried + 1) _ _ _ split next
          (.node _ _) (by omega)⟩
      · simp only [if_neg last]
        exact ih next (by omega) (by omega)
    · exact Or.inl ⟨_, rfl, onSuccess rfl⟩

theorem executeNodes (kept : stage.Kept environment plan nodes) (orderedNodes : List String)
    (positive : ∀ node, node ∈ nodes -> 0 < node.maxAttempts) (order : List Nat)
    (bounded : ∀ index, index ∈ order -> index < plan.nodes.length)
    (split : nodes = done ++ plan.nodesAt order) (reached : stage done (plan.nodesAt order) 0 run) :
    stage.Ends nodes orderedNodes (environment.executeNodes plan orderedNodes order run) := by
  induction order generalizing done run with
  | nil =>
    rw [PlanGraph.nodesAt, List.filterMap_nil, List.append_nil] at split
    subst split
    exact .succeeded run _ reached
  | cons index rest ih =>
    rcases Option.ne_none_iff_exists'.mp
      (List.getElem?_eq_none_iff.not.mpr (Nat.not_le.mpr (bounded index List.mem_cons_self)))
      with ⟨node, found⟩
    have headed : plan.nodesAt (index :: rest) = node :: plan.nodesAt rest :=
      List.filterMap_cons_some found
    rw [headed] at split reached
    have member : node ∈ nodes := by
      rw [split]
      exact List.mem_append_right _ List.mem_cons_self
    unfold PlanEnvironment.executeNodes
    simp only [found]
    rcases kept.attemptNode orderedNodes split _ reached (positive _ member) (Nat.zero_add _)
      with ⟨next, ran, stepped⟩ | ⟨ended, ran, ends⟩
    · simp only [ran]
      refine ih (fun other later => bounded other (List.mem_cons_of_mem index later)) ?_ stepped
      rw [split, List.append_assoc, List.singleton_append]
    · simp only [ran]
      exact ends

end PlanStage.Kept

theorem mapM_nodeIds {plan : PlanGraph} {order : List Nat}
    (bounded : ∀ index, index ∈ order -> index < plan.nodes.length) :
    (order.mapM fun index => plan.nodes[index]?.map PlanNode.id) =
      some ((plan.nodesAt order).map PlanNode.id) := by
  induction order with
  | nil => rfl
  | cons index rest ih =>
    have found := List.getElem?_eq_getElem (bounded index List.mem_cons_self)
    have headed := List.filterMap_cons_some (l := rest) found
    unfold PlanGraph.nodesAt at ih ⊢
    rw [List.mapM_cons, headed, found,
      ih fun other later => bounded other (List.mem_cons_of_mem index later)]
    rfl

/-- A valid plan runs in its topological order, from stage to stage. -/
theorem PlanStage.Kept.execute {stage : PlanStage σ} {environment : PlanEnvironment σ}
    {plan : PlanGraph} (accepted : plan.Accepted) (valid : plan.validate = .ok ())
    (kept : stage.Kept environment plan (plan.nodesAt accepted.order)) (state : σ)
    (starts : stage [] (plan.nodesAt accepted.order) 0
      { attemptsUsed := 0, events := [], state := state }) :
    stage.Ends (plan.nodesAt accepted.order) ((plan.nodesAt accepted.order).map PlanNode.id)
      (environment.execute plan state) := by
  have bounded : ∀ index, index ∈ accepted.order -> index < plan.nodes.length :=
    fun index member => List.mem_range.mp (accepted.permutes.mem_iff.mp member)
  have positive : ∀ node, node ∈ plan.nodesAt accepted.order -> 0 < node.maxAttempts :=
    fun node member => accepted.maxAttempts_pos (accepted.nodesAt_perm.mem_iff.mp member)
  unfold PlanEnvironment.execute
  simp only [valid, accepted.topologicalOrder, mapM_nodeIds bounded]
  exact kept.executeNodes _ positive accepted.order bounded rfl starts

/-! ## What every run of a valid plan does -/

/-- The attempts at the node with this id. -/
def attemptsAt (events : List PlanNodeAttemptEvent) (id : String) : Nat :=
  events.countP fun event => event.nodeId = id

/-- The node with this id has succeeded. -/
def Succeeded (events : List PlanNodeAttemptEvent) (id : String) : Prop :=
  ∃ event, event ∈ events /\ event.nodeId = id /\ event.success = true

/-- Each attempt comes after a success of every node it depends on. -/
def SourcesSucceeded (plan : PlanGraph) (events : List PlanNodeAttemptEvent) : Prop :=
  ∀ before event after, events = before ++ event :: after ->
    ∀ edge, edge ∈ plan.edges -> edge.toNode = event.nodeId -> Succeeded before edge.fromNode

variable {events : List PlanNodeAttemptEvent} {event : PlanNodeAttemptEvent}

theorem Succeeded.append {id : String} (succeeded : Succeeded events id)
    (later : List PlanNodeAttemptEvent) : Succeeded (events ++ later) id := by
  rcases succeeded with ⟨event, member, same, success⟩
  exact ⟨event, List.mem_append_left later member, same, success⟩

theorem SourcesSucceeded.concat {plan : PlanGraph} (sources : SourcesSucceeded plan events)
    (ready : ∀ edge, edge ∈ plan.edges -> edge.toNode = event.nodeId ->
      Succeeded events edge.fromNode) : SourcesSucceeded plan (events ++ [event]) := by
  intro before other after split edge member enters
  rcases TopologicalOrder.split_concat split with ⟨whole, last⟩ | ⟨initial, inside⟩
  · rw [whole]
    exact ready edge member (last ▸ enters)
  · exact sources before other initial inside edge member enters

theorem attemptsAt_concat {events : List PlanNodeAttemptEvent} {event : PlanNodeAttemptEvent}
    {id : String} :
    attemptsAt (events ++ [event]) id =
      attemptsAt events id + if event.nodeId = id then 1 else 0 := by
  unfold attemptsAt
  rw [List.countP_append, List.countP_singleton]
  simp only [decide_eq_true_eq]

/-- The stage that the events of a run record. -/
structure PlanRecorded (plan : PlanGraph) (done rest : List PlanNode) (tried : Nat)
    (run : PlanRun σ) : Prop where
  counted : run.events.length = run.attemptsUsed
  within : run.attemptsUsed <= plan.budget.maxTotalAttempts
  finished : ∀ node, node ∈ done -> Succeeded run.events node.id
  limited : ∀ node, node ∈ done -> attemptsAt run.events node.id <= node.maxAttempts
  current : ∀ node later, rest = node :: later ->
    attemptsAt run.events node.id = tried /\ Not (Succeeded run.events node.id)
  untouched : ∀ node later, rest = node :: later -> ∀ other, other ∈ later ->
    attemptsAt run.events other.id = 0
  sources : SourcesSucceeded plan run.events

theorem not_succeeded_of_attemptsAt {id : String} (none : attemptsAt events id = 0) :
    Not (Succeeded events id) := by
  rintro ⟨event, member, same, _⟩
  exact List.countP_eq_zero.mp none event member (decide_eq_true same)

theorem attemptsAt_concat_of_ne {id : String} (different : Not (event.nodeId = id)) :
    attemptsAt (events ++ [event]) id = attemptsAt events id := by
  rw [attemptsAt_concat, if_neg different, Nat.add_zero]

theorem attemptsAt_concat_self {id : String} (same : event.nodeId = id) :
    attemptsAt (events ++ [event]) id = attemptsAt events id + 1 := by
  rw [attemptsAt_concat, if_pos same]

/-- The nodes around a node of a list with distinct ids have other ids. -/
theorem ids_apart {nodes done rest : List PlanNode} {node : PlanNode}
    (distinct : (nodes.map PlanNode.id).Nodup) (split : nodes = done ++ node :: rest) :
    (∀ other, other ∈ done -> Not (node.id = other.id)) /\
      ∀ other, other ∈ rest -> Not (node.id = other.id) := by
  rw [split, List.map_append, List.map_cons] at distinct
  constructor
  · intro other member same
    exact List.disjoint_of_nodup_append distinct (List.mem_map_of_mem member)
      (same ▸ List.mem_cons_self)
  · intro other member same
    have behind := (List.nodup_cons.mp (List.Nodup.of_append_right distinct)).1
    exact behind (same ▸ List.mem_map_of_mem member)

namespace PlanRecorded

variable {plan : PlanGraph} {nodes done rest : List PlanNode} {node : PlanNode} {tried : Nat}
  {run : PlanRun σ}

section

variable (recorded : PlanRecorded plan done (node :: rest) tried run)
  (before : plan.SourcesBefore nodes) (split : nodes = done ++ node :: rest)

include recorded before split

theorem ready :
    ∀ edge, edge ∈ plan.edges -> edge.toNode = node.id -> Succeeded run.events edge.fromNode := by
  intro edge member enters
  rcases before done node rest split edge member enters with ⟨source, listed, same⟩
  rw [<- same]
  exact recorded.finished source listed

variable (distinct : (nodes.map PlanNode.id).Nodup)
  (available : run.attemptsUsed < plan.budget.maxTotalAttempts) (attempt : Nat) (state : σ)

include distinct available

theorem failing (error : PlanNodeError) :
    PlanRecorded plan done (node :: rest) (tried + 1) (run.failing node attempt error state) := by
  rcases ids_apart distinct split with ⟨apartDone, apartRest⟩
  refine
    { counted := ?_
      within := available
      finished := fun other member => (recorded.finished other member).append _
      limited := ?_
      current := ?_
      untouched := ?_
      sources := recorded.sources.concat (recorded.ready before split) }
  · unfold PlanRun.failing
    rw [List.length_append, recorded.counted, List.length_singleton]
  · intro other member
    have same := recorded.limited other member
    rwa [PlanRun.failing, attemptsAt_concat_of_ne (apartDone other member)]
  · intro other later same
    cases same
    rcases recorded.current node rest rfl with ⟨count, unfinished⟩
    refine ⟨(attemptsAt_concat_self rfl).trans (congrArg (· + 1) count), ?_⟩
    rintro ⟨other, member, same, success⟩
    rcases List.mem_append.mp member with old | new
    · exact unfinished ⟨other, old, same, success⟩
    · rw [List.mem_singleton.mp new] at success
      cases success
  · intro other later same third member
    cases same
    exact (attemptsAt_concat_of_ne (apartRest third member)).trans
      (recorded.untouched node rest rfl third member)

theorem succeeding (below : tried < node.maxAttempts) :
    PlanRecorded plan (done ++ [node]) rest 0 (run.succeeding node attempt state) := by
  rcases ids_apart distinct split with ⟨apartDone, apartRest⟩
  have fresh : ∀ other, other ∈ rest ->
      attemptsAt (run.succeeding node attempt state).events other.id = 0 := fun other member =>
    (attemptsAt_concat_of_ne (apartRest other member)).trans
      (recorded.untouched node rest rfl other member)
  refine
    { counted := ?_
      within := available
      finished := ?_
      limited := ?_
      current := ?_
      untouched := ?_
      sources := recorded.sources.concat (recorded.ready before split) }
  · unfold PlanRun.succeeding
    rw [List.length_append, recorded.counted, List.length_singleton]
  · refine List.forall_mem_append.mpr ⟨?_, List.forall_mem_singleton.mpr ?_⟩
    · exact fun other old => (recorded.finished other old).append _
    · exact ⟨_, List.mem_append_right _ List.mem_cons_self, rfl, rfl⟩
  · unfold PlanRun.succeeding
    refine List.forall_mem_append.mpr ⟨?_, List.forall_mem_singleton.mpr ?_⟩
    · intro other old
      rw [attemptsAt_concat_of_ne (apartDone other old)]
      exact recorded.limited other old
    · rw [attemptsAt_concat_self rfl, (recorded.current node rest rfl).1]
      exact below
  · intro other later same
    have none := fresh other (same ▸ List.mem_cons_self)
    exact ⟨none, not_succeeded_of_attemptsAt none⟩
  · intro other later same third member
    exact fresh third (same ▸ List.mem_cons_of_mem other member)

end

theorem starts (plan : PlanGraph) (nodes : List PlanNode) (state : σ) :
    PlanRecorded plan [] nodes 0 { attemptsUsed := 0, events := [], state := state } where
  counted := rfl
  within := Nat.zero_le _
  finished := fun _ member => by cases member
  limited := fun _ member => by cases member
  current := fun _ _ _ => ⟨rfl, not_succeeded_of_attemptsAt rfl⟩
  untouched := fun _ _ _ _ _ => rfl
  sources := fun before _ _ split => by
    cases before <;> cases split

end PlanRecorded

theorem planRecorded_kept (environment : PlanEnvironment σ) {plan : PlanGraph}
    {accepted : plan.Accepted} :
    PlanStage.Kept (PlanRecorded plan) environment plan (plan.nodesAt accepted.order) where
  failed := fun _ _ _ _ _ error split recorded _ available _ =>
    recorded.failing accepted.sourcesBefore split accepted.nodesAt_distinct available _ _ error
  succeeded := fun _ _ _ _ _ split recorded below available _ =>
    recorded.succeeding accepted.sourcesBefore split accepted.nodesAt_distinct available _ _ below

/-- What a run of a valid plan keeps to. -/
structure PlanGuarantees (plan : PlanGraph) (report : PlanRunReport) : Prop where
  wellFormed : plan.WellFormed
  ordered : ∃ order, plan.topologicalOrder = some order /\ plan.Orders order /\
    report.orderedNodes = (plan.nodesAt order).map PlanNode.id
  sourcesFirst : SourcesSucceeded plan report.attemptEvents
  nodeLimit : ∀ node, node ∈ plan.nodes ->
    attemptsAt report.attemptEvents node.id <= node.maxAttempts
  attemptsKnown : report.attemptEvents.length = report.attemptsUsed
  totalLimit : report.attemptsUsed <= plan.budget.maxTotalAttempts
  succeeds : report.status = .succeeded <->
    ∀ node, node ∈ plan.nodes -> Succeeded report.attemptEvents node.id
  topologyResolved : report.status ≠ .failed .topologyResolutionFailed

/-- Every run of a plan that validation accepts, for every budget, executor
and clock. -/
theorem validPlan_guarantees (environment : PlanEnvironment σ) (plan : PlanGraph) (state : σ)
    (valid : plan.validate = .ok ()) :
    PlanGuarantees plan (environment.execute plan state).1 := by
  rcases PlanGraph.validate_ok valid with ⟨accepted⟩
  have listed : ∀ node, node ∈ plan.nodes <-> node ∈ plan.nodesAt accepted.order :=
    fun node => accepted.nodesAt_perm.mem_iff.symm
  have ends := (planRecorded_kept environment).execute accepted valid state
    (PlanRecorded.starts plan _ state)
  generalize environment.execute plan state = ended at ends
  cases ends with
  | succeeded run elapsedMs recorded =>
    exact
      { wellFormed := accepted.wellFormed
        ordered := ⟨accepted.order, accepted.topologicalOrder, accepted.orders, rfl⟩
        sourcesFirst := recorded.sources
        nodeLimit := fun node member => recorded.limited node ((listed node).mp member)
        attemptsKnown := recorded.counted
        totalLimit := recorded.within
        succeeds := iff_of_true rfl fun node member =>
          recorded.finished node ((listed node).mp member)
        topologyResolved := nofun }
  | failed done rest node tried run failure elapsedMs split recorded halts limited =>
    refine
      { wellFormed := accepted.wellFormed
        ordered := ⟨accepted.order, accepted.topologicalOrder, accepted.orders, rfl⟩
        sourcesFirst := recorded.sources
        nodeLimit := ?_
        attemptsKnown := recorded.counted
        totalLimit := recorded.within
        succeeds := ?_
        topologyResolved := by
          intro same
          cases halts <;> cases same }
    · intro other member
      have place := (listed other).mp member
      rw [split] at place
      rcases List.mem_append.mp place with early | late
      · exact recorded.limited other early
      · rcases List.mem_cons.mp late with same | later
        · rw [same]
          exact (recorded.current node rest rfl).1.le.trans limited
        · exact (recorded.untouched node rest rfl other later).le.trans (Nat.zero_le _)
    · refine iff_of_false nofun fun all => ?_
      have member : node ∈ plan.nodes := (listed node).mpr
        (split ▸ List.mem_append_right done List.mem_cons_self)
      exact (recorded.current node rest rfl).2 (all node member)

namespace PlanSample

def node (id : String) (kind : PlanNodeKind) (maxAttempts : Nat) : PlanNode where
  id := id
  kind := kind
  label := id
  toolName := none
  timeoutMs := 500
  maxAttempts := maxAttempts
  riskTier := .low

/-- A tool is called, its output verified, and both are answered. -/
def plan : PlanGraph where
  version := "hybrid_lane_plan.v1"
  nodes := [node "respond-1" .respond 1, node "tool-1" .tool 2, node "verify-1" .verify 1]
  edges := [⟨"tool-1", "verify-1"⟩, ⟨"verify-1", "respond-1"⟩]
  budget := { maxNodes := 16, maxTotalAttempts := 4, maxWallTimeMs := 1000 }

/-- Attempts succeed in time, but for the first one at a tool. -/
def environment : PlanEnvironment Unit where
  attempt := fun node attempt state =>
    if node.kind = .tool /\ attempt = 1 then (.timedOut, state) else (.finished (.ok ()), state)
  elapsedBefore := id
  elapsedAfter := id

end PlanSample

open PlanSample

theorem validPlan_guarantees_sample : plan.validate = .ok () /\
      PlanGuarantees plan (environment.execute plan ()).1 :=
  have valid : plan.validate = .ok () := by decide +kernel
  ⟨valid, validPlan_guarantees environment plan () valid⟩

end LoongClaw.Conversation
