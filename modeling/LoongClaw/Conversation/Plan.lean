import Mathlib.Data.List.Forall2
import LoongClaw.Foundation.OrderedMap
import LoongClaw.Foundation.Text
import LoongClaw.Foundation.TopologicalOrder

namespace LoongClaw.Conversation

open Foundation OrderedMap TopologicalOrder

/-!
# Plan graphs

A plan is a graph of nodes named by their ids.  `validate` checks the node
limits, resolves the ends of every edge and visits the graph by indegrees;
`topologicalOrder` resolves and visits it once more to find the order in which
the nodes run.  Validation accepts only acyclic plans, and the second visit of
an accepted plan always finds every node.
-/

inductive PlanNodeKind where
  | tool
  | transform
  | verify
  | respond
deriving DecidableEq

inductive RiskTier where
  | low
  | medium
  | high

structure PlanNode where
  id : String
  kind : PlanNodeKind
  label : String
  toolName : Option String
  (timeoutMs maxAttempts : Nat)
  riskTier : RiskTier

structure PlanEdge where
  (fromNode toNode : String)

structure PlanBudget where
  (maxNodes maxTotalAttempts maxWallTimeMs : Nat)

structure PlanGraph where
  version : String
  nodes : List PlanNode
  edges : List PlanEdge
  budget : PlanBudget

namespace PlanGraph

/-! ## Validation -/

structure NodeTable where
  nodeIndex : OrderedMap String Nat
  totalAttempts : Nat

def indexNodes : List PlanNode -> NodeTable -> Except String NodeTable
  | [], table => .ok table
  | node :: rest, table =>
    if Text.trim node.id = "" then
      .error "plan node id must not be empty"
    else if node.timeoutMs = 0 then
      .error ("plan node `" ++ node.id ++ "` has invalid timeout_ms=0")
    else if node.maxAttempts = 0 then
      .error ("plan node `" ++ node.id ++ "` has invalid max_attempts=0")
    else if table.nodeIndex.contains node.id then
      .error ("duplicate plan node id `" ++ node.id ++ "`")
    else
      indexNodes rest
        { nodeIndex := table.nodeIndex.insert node.id table.nodeIndex.length
          totalAttempts := table.totalAttempts + node.maxAttempts }

structure Wiring where
  (indegree outdegree : List Nat)
  adjacency : List (List Nat)

def Wiring.empty (size : Nat) : Wiring where
  indegree := List.replicate size 0
  outdegree := List.replicate size 0
  adjacency := List.replicate size []

def connectEdge (nodeIndex : OrderedMap String Nat) (edge : PlanEdge) (wiring : Wiring) :
    Except String Wiring :=
  match nodeIndex.lookup edge.fromNode with
  | none => .error ("plan edge references unknown `from` node `" ++ edge.fromNode ++ "`")
  | some fromIndex =>
    match nodeIndex.lookup edge.toNode with
    | none => .error ("plan edge references unknown `to` node `" ++ edge.toNode ++ "`")
    | some toIndex =>
      if fromIndex = toIndex then
        .error ("plan edge has self-loop at `" ++ edge.fromNode ++ "`")
      else
        match wiring.indegree[toIndex]?, wiring.outdegree[fromIndex]?,
            wiring.adjacency[fromIndex]? with
        | none, _, _ => .error "plan graph indegree index out of bounds"
        | some _, none, _ => .error "plan graph outdegree index out of bounds"
        | some _, some _, none => .error "plan graph adjacency index out of bounds"
        | some toDegree, some fromDegree, some neighbors =>
          .ok
            { indegree := wiring.indegree.set toIndex (toDegree + 1)
              outdegree := wiring.outdegree.set fromIndex (fromDegree + 1)
              adjacency := wiring.adjacency.set fromIndex (neighbors ++ [toIndex]) }

def connectEdges (nodeIndex : OrderedMap String Nat) :
    List PlanEdge -> Wiring -> Except String Wiring
  | [], wiring => .ok wiring
  | edge :: rest, wiring =>
    match connectEdge nodeIndex edge wiring with
    | .error error => .error error
    | .ok connected => connectEdges nodeIndex rest connected

/-- Visit the wired graph and compare the number of visited nodes.  The visit
of the source has no bound of its own; `sort_ends` says that the
bound here is never met. -/
def checkAcyclic (size : Nat) (wiring : Wiring) : Except String Unit :=
  match sort wiring.adjacency wiring.indegree with
  | .error .adjacencyOutOfBounds =>
    .error "plan graph adjacency traversal index out of bounds"
  | .error .indegreeOutOfBounds =>
    .error "plan graph indegree traversal index out of bounds"
  | .error .exhausted => .error "plan graph traversal does not end"
  | .ok visited =>
    if visited.length ≠ size then .error "plan graph must be acyclic" else .ok ()

def checkWiring (size : Nat) (wiring : Wiring) : Except String Unit :=
  if wiring.indegree.count 0 = 0 then
    .error "plan graph must include at least one entry node"
  else if wiring.outdegree.count 0 = 0 then
    .error "plan graph must include at least one terminal node"
  else checkAcyclic size wiring

variable (plan : PlanGraph)

def checkEdges (nodeIndex : OrderedMap String Nat) : Except String Unit :=
  match connectEdges nodeIndex plan.edges (Wiring.empty plan.nodes.length) with
  | .error error => .error error
  | .ok wiring => checkWiring plan.nodes.length wiring

def validate : Except String Unit :=
  if plan.nodes = [] then
    .error "plan graph must include at least one node"
  else if plan.nodes.length > plan.budget.maxNodes then
    .error ("plan graph node budget exceeded actual=" ++ toString plan.nodes.length ++
      " limit=" ++ toString plan.budget.maxNodes)
  else
    match indexNodes plan.nodes { nodeIndex := [], totalAttempts := 0 } with
    | .error error => .error error
    | .ok table =>
      if table.totalAttempts > plan.budget.maxTotalAttempts then
        .error ("plan attempt budget exceeded actual=" ++ toString table.totalAttempts ++
          " limit=" ++ toString plan.budget.maxTotalAttempts)
      else plan.checkEdges table.nodeIndex

/-! ## The order in which the nodes run -/

def numberNodes : List PlanNode -> Nat -> OrderedMap String Nat -> OrderedMap String Nat
  | [], _, nodeIndex => nodeIndex
  | node :: rest, index, nodeIndex =>
    numberNodes rest (index + 1) (nodeIndex.insert node.id index)

structure Topology where
  indegree : List Nat
  adjacency : List (List Nat)

def resolveEdge (nodeIndex : OrderedMap String Nat) (edge : PlanEdge) (topology : Topology) :
    Option Topology := do
  let source <- nodeIndex.lookup edge.fromNode
  let target <- nodeIndex.lookup edge.toNode
  let degree <- topology.indegree[target]?
  let neighbors <- topology.adjacency[source]?
  pure
    { indegree := topology.indegree.set target (degree + 1)
      adjacency := topology.adjacency.set source (neighbors ++ [target]) }

def resolveEdges (nodeIndex : OrderedMap String Nat) : List PlanEdge -> Topology -> Option Topology
  | [], topology => some topology
  | edge :: rest, topology =>
    (resolveEdge nodeIndex edge topology).bind (resolveEdges nodeIndex rest)

def topologicalOrder (plan : PlanGraph) : Option (List Nat) :=
  match resolveEdges (numberNodes plan.nodes 0 []) plan.edges
      { indegree := List.replicate plan.nodes.length 0
        adjacency := List.replicate plan.nodes.length [] } with
  | none => none
  | some topology =>
    match sort topology.adjacency topology.indegree with
    | .error _ => none
    | .ok order => if order.length = plan.nodes.length then some order else none

/-! ## Well-formed plans -/

/-- Some edge of the plan leads from one id to the other. -/
def Connects (source target : String) : Prop :=
  ∃ edge, edge ∈ plan.edges /\ edge.fromNode = source /\ edge.toNode = target

/-- The node at a place of the node list has this id. -/
def Numbered (index : Nat) (id : String) : Prop :=
  plan.nodes[index]?.map PlanNode.id = some id

structure WellFormed : Prop where
  distinctIds : (plan.nodes.map PlanNode.id).Nodup
  edgesKnown : ∀ edge, edge ∈ plan.edges ->
    edge.fromNode ∈ plan.nodes.map PlanNode.id /\ edge.toNode ∈ plan.nodes.map PlanNode.id
  acyclic : ∀ id, Not (Relation.TransGen plan.Connects id id)

/-- Every node once, and the source of each edge before its target. -/
structure Orders (order : List Nat) : Prop where
  permutes : order.Perm (List.range plan.nodes.length)
  respects : ∀ edge, edge ∈ plan.edges -> ∀ source target,
    plan.Numbered source edge.fromNode -> plan.Numbered target edge.toNode ->
      order.idxOf source < order.idxOf target

/-! ## Node tables -/

/-- The table gives each id the place of its node. -/
def Places (ids : List String) (nodeIndex : OrderedMap String Nat) : Prop :=
  ∀ id index, nodeIndex.lookup id = some index <-> ids[index]? = some id

theorem places_nil : Places [] [] := by
  intro id index
  simp [OrderedMap.lookup]

variable {ids : List String} {nodeIndex : OrderedMap String Nat} {nodes : List PlanNode}
  {edge : PlanEdge} {wiring result : Wiring} {size : Nat} {edges : List PlanEdge}
  {wired : Edges} {plan : PlanGraph}

theorem Places.concat (places : Places ids nodeIndex) {id : String} (fresh : id ∉ ids) :
    Places (ids ++ [id]) (nodeIndex.insert id ids.length) := by
  intro other index
  rw [lookup_insert]
  by_cases same : other = id
  · subst other
    rw [if_pos rfl, Option.some.injEq]
    constructor
    · intro last
      subst index
      exact List.getElem?_concat_length
    · intro found
      by_contra different
      rcases List.getElem?_eq_some_iff.mp found with ⟨bound, _⟩
      rw [List.length_append, List.length_singleton] at bound
      rw [List.getElem?_append_left (by omega)] at found
      exact fresh (List.mem_of_getElem? found)
  · rw [if_neg same, places other index]
    by_cases inside : index < ids.length
    · rw [List.getElem?_append_left inside]
    · have outside : ids[index]? = none := List.getElem?_eq_none (by omega)
      rw [outside]
      refine iff_of_false nofun fun found => ?_
      rw [List.getElem?_append_right (by omega)] at found
      exact same (List.mem_singleton.mp (List.mem_of_getElem? found))

theorem Places.contains_iff (places : Places ids nodeIndex) (id : String) :
    nodeIndex.contains id = true <-> id ∈ ids := by
  unfold contains
  rw [Option.isSome_iff_exists, List.mem_iff_getElem?]
  exact exists_congr fun index => places id index

/-- An accepted node list has distinct ids and a positive attempt limit at
each node, and the table gives each id its place. -/
theorem indexNodes_ok {table result : NodeTable} (places : Places ids table.nodeIndex)
    (counted : table.nodeIndex.length = ids.length) (distinct : ids.Nodup)
    (accepted : indexNodes nodes table = .ok result) :
    Places (ids ++ nodes.map PlanNode.id) result.nodeIndex /\
      (ids ++ nodes.map PlanNode.id).Nodup /\
        ∀ node, node ∈ nodes -> 0 < node.maxAttempts := by
  induction nodes generalizing table ids with
  | nil =>
    cases accepted
    rw [List.map_nil, List.append_nil]
    exact ⟨places, distinct, fun _ member => by cases member⟩
  | cons node rest ih =>
    unfold indexNodes at accepted
    split at accepted
    · cases accepted
    split at accepted
    · cases accepted
    split at accepted
    · cases accepted
    split at accepted
    · cases accepted
    rename_i _ _ attempts unseen
    have fresh : node.id ∉ ids := fun member =>
      unseen ((places.contains_iff node.id).mpr member)
    have absent : table.nodeIndex.lookup node.id = none := by
      simpa [contains] using unseen
    have extended := places.concat fresh
    rw [<- counted] at extended
    have lengthened : (table.nodeIndex.insert node.id table.nodeIndex.length).length =
        (ids ++ [node.id]).length := by
      rw [length_insert_of_absent absent, counted, List.length_append, List.length_singleton]
    have stillDistinct : (ids ++ [node.id]).Nodup :=
      distinct.append (List.nodup_singleton node.id) (List.disjoint_singleton.mpr fresh)
    rcases ih extended lengthened stillDistinct accepted with ⟨all, nodup, limits⟩
    rw [List.append_assoc, List.singleton_append] at all nodup
    exact ⟨all, nodup, List.forall_mem_cons.mpr ⟨Nat.pos_of_ne_zero attempts, limits⟩⟩

theorem numberNodes_places (places : Places ids nodeIndex)
    (distinct : (ids ++ nodes.map PlanNode.id).Nodup) :
    Places (ids ++ nodes.map PlanNode.id) (numberNodes nodes ids.length nodeIndex) := by
  induction nodes generalizing ids nodeIndex with
  | nil => rwa [List.map_nil, List.append_nil]
  | cons node rest ih =>
    rw [List.map_cons, List.append_cons] at distinct ⊢
    have fresh : node.id ∉ ids := fun member =>
      (List.disjoint_of_nodup_append (List.Nodup.of_append_left distinct)) member List.mem_cons_self
    have numbered := ih (places.concat fresh) distinct
    rw [List.length_append, List.length_singleton] at numbered
    exact numbered

/-! ## Wired edges -/

/-- The two ends of an edge, as places. -/
def Resolves (nodeIndex : OrderedMap String Nat) (edge : PlanEdge) (ends : Nat × Nat) : Prop :=
  nodeIndex.lookup edge.fromNode = some ends.1 /\ nodeIndex.lookup edge.toNode = some ends.2

theorem connectEdge_ok (accepted : connectEdge nodeIndex edge wiring = .ok result) :
    ∃ ends degree neighbors,
      Resolves nodeIndex edge ends /\ wiring.indegree[ends.2]? = some degree /\
        wiring.adjacency[ends.1]? = some neighbors /\
        result.indegree = wiring.indegree.set ends.2 (degree + 1) /\
        result.adjacency = wiring.adjacency.set ends.1 (neighbors ++ [ends.2]) := by
  unfold connectEdge at accepted
  split at accepted
  · cases accepted
  rename_i source foundSource
  split at accepted
  · cases accepted
  rename_i target foundTarget
  split at accepted
  · cases accepted
  split at accepted
  · cases accepted
  · cases accepted
  · cases accepted
  · rename_i degree _ neighbors entering _ leaving
    cases accepted
    exact ⟨(source, target), degree, neighbors, ⟨foundSource, foundTarget⟩, entering, leaving,
      rfl, rfl⟩

/-- The wired graph has the resolved edges, in the order of the plan. -/
theorem connectEdges_describes (described : Describes size wired wiring.adjacency wiring.indegree)
    (accepted : connectEdges nodeIndex edges wiring = .ok result) :
    ∃ added, List.Forall₂ (Resolves nodeIndex) edges added /\
      Describes size (wired ++ added) result.adjacency result.indegree := by
  induction edges generalizing wiring wired with
  | nil =>
    cases accepted
    refine ⟨[], List.Forall₂.nil, ?_⟩
    rwa [List.append_nil]
  | cons edge rest ih =>
    unfold connectEdges at accepted
    split at accepted
    · cases accepted
    · rename_i connected step
      rcases connectEdge_ok step with
        ⟨ends, degree, neighbors, resolved, entering, leaving, indegree, adjacency⟩
      have extended := described.connect leaving entering
      rw [<- indegree, <- adjacency] at extended
      rcases ih extended accepted with ⟨added, matched, all⟩
      refine ⟨ends :: added, List.Forall₂.cons resolved matched, ?_⟩
      rwa [List.append_assoc, List.singleton_append] at all

theorem resolved_of_mem (resolved : List.Forall₂ (Resolves nodeIndex) edges wired)
    (member : edge ∈ edges) : ∃ ends, ends ∈ wired /\ Resolves nodeIndex edge ends := by
  induction resolved with
  | nil => cases member
  | cons resolves _ ih =>
    rcases List.mem_cons.mp member with same | later
    · exact ⟨_, List.mem_cons_self, same ▸ resolves⟩
    · rcases ih later with ⟨ends, wired, found⟩
      exact ⟨ends, List.mem_cons_of_mem _ wired, found⟩

/-- Resolving the edges of a wired plan once more gives the same lists. -/
theorem resolveEdges_of_connectEdges {other : OrderedMap String Nat}
    (agree : ∀ id, nodeIndex.lookup id = other.lookup id)
    (accepted : connectEdges nodeIndex edges wiring = .ok result) :
    resolveEdges other edges { indegree := wiring.indegree, adjacency := wiring.adjacency } =
      some { indegree := result.indegree, adjacency := result.adjacency } := by
  induction edges generalizing wiring with
  | nil =>
    cases accepted
    rfl
  | cons edge rest ih =>
    unfold connectEdges at accepted
    split at accepted
    · cases accepted
    · rename_i connected step
      rcases connectEdge_ok step with
        ⟨ends, degree, neighbors, resolved, entering, leaving, indegree, adjacency⟩
      have source : other.lookup edge.fromNode = some ends.1 :=
        (agree edge.fromNode).symm.trans resolved.1
      have target : other.lookup edge.toNode = some ends.2 :=
        (agree edge.toNode).symm.trans resolved.2
      have once : resolveEdge other edge
          { indegree := wiring.indegree, adjacency := wiring.adjacency } =
            some { indegree := connected.indegree, adjacency := connected.adjacency } := by
        unfold resolveEdge
        simp only [source, target, entering, leaving, Option.bind_eq_bind, Option.bind_some,
          Option.pure_def, indegree, adjacency]
      unfold resolveEdges
      rw [once, Option.bind_some]
      exact ih accepted

/-! ## Accepted plans -/

/-- What an accepted plan has passed: a table of places, a wired graph and a
visit that listed every node. -/
structure Accepted (plan : PlanGraph) where
  table : NodeTable
  wiring : Wiring
  order : List Nat
  indexed : indexNodes plan.nodes { nodeIndex := [], totalAttempts := 0 } = .ok table
  connected : connectEdges table.nodeIndex plan.edges (Wiring.empty plan.nodes.length) = .ok wiring
  visited : sort wiring.adjacency wiring.indegree = .ok order
  complete : order.length = plan.nodes.length

theorem checkAcyclic_ok (accepted : checkAcyclic size wiring = .ok ()) : ∃ order,
      sort wiring.adjacency wiring.indegree = .ok order /\ order.length = size := by
  unfold checkAcyclic at accepted
  split at accepted
  · cases accepted
  · cases accepted
  · cases accepted
  · rename_i visited sorted
    split at accepted
    · cases accepted
    · rename_i same
      exact ⟨visited, sorted, Decidable.not_not.mp same⟩

theorem checkEdges_ok (accepted : plan.checkEdges nodeIndex = .ok ()) : ∃ wiring order,
      connectEdges nodeIndex plan.edges (Wiring.empty plan.nodes.length) = .ok wiring /\
        sort wiring.adjacency wiring.indegree = .ok order /\
        order.length = plan.nodes.length := by
  unfold checkEdges at accepted
  split at accepted
  · cases accepted
  · rename_i wiring connected
    unfold checkWiring at accepted
    split at accepted
    · cases accepted
    split at accepted
    · cases accepted
    rcases checkAcyclic_ok accepted with ⟨order, visited, complete⟩
    exact ⟨wiring, order, connected, visited, complete⟩

theorem validate_ok (valid : plan.validate = .ok ()) : Nonempty (Accepted plan) := by
  unfold validate at valid
  split at valid
  · cases valid
  split at valid
  · cases valid
  split at valid
  · cases valid
  · rename_i table indexed
    split at valid
    · cases valid
    rcases checkEdges_ok valid with ⟨wiring, order, connected, visited, complete⟩
    exact ⟨⟨table, wiring, order, indexed, connected, visited, complete⟩⟩

namespace Accepted

variable {plan : PlanGraph} (accepted : Accepted plan)

theorem places : Places (plan.nodes.map PlanNode.id) accepted.table.nodeIndex := by
  have facts := indexNodes_ok places_nil rfl List.nodup_nil accepted.indexed
  exact facts.1

theorem distinctIds (accepted : Accepted plan) : (plan.nodes.map PlanNode.id).Nodup := by
  have facts := indexNodes_ok places_nil rfl List.nodup_nil accepted.indexed
  exact facts.2.1

theorem maxAttempts_pos (accepted : Accepted plan) {node : PlanNode}
    (member : node ∈ plan.nodes) : 0 < node.maxAttempts :=
  (indexNodes_ok places_nil rfl List.nodup_nil accepted.indexed).2.2 node member

/-- The graph the visit walked through, and the facts of its order. -/
theorem graph : ∃ edges, List.Forall₂ (Resolves accepted.table.nodeIndex) plan.edges edges /\
      accepted.order.Nodup /\ (∀ index, index ∈ accepted.order -> index < plan.nodes.length) /\
        SourcesFirst edges accepted.order := by
  rcases connectEdges_describes describes_empty accepted.connected with
    ⟨edges, resolved, described⟩
  rcases sort_ends described with ⟨order, sorted, facts⟩
  have same : order = accepted.order := Except.ok.inj (sorted.symm.trans accepted.visited)
  exact ⟨edges, resolved, same ▸ facts⟩

theorem topologicalOrder : plan.topologicalOrder = some accepted.order := by
  have numbered : Places (plan.nodes.map PlanNode.id) (numberNodes plan.nodes 0 []) :=
    numberNodes_places places_nil accepted.distinctIds
  have resolved := resolveEdges_of_connectEdges (fun id => Option.ext fun index =>
    (accepted.places id index).trans (numbered id index).symm) accepted.connected
  unfold PlanGraph.topologicalOrder
  unfold Wiring.empty at resolved
  simp only [resolved, accepted.visited, accepted.complete, if_true]

theorem permutes : accepted.order.Perm (List.range plan.nodes.length) := by
  rcases accepted.graph with ⟨_, _, distinct, bounded, _⟩
  exact perm_range distinct bounded accepted.complete

/-- The place of an edge's source is listed before the place of its target. -/
theorem rises (member : edge ∈ plan.edges) : ∃ ends, Resolves accepted.table.nodeIndex edge ends /\
      accepted.order.idxOf ends.1 < accepted.order.idxOf ends.2 := by
  rcases accepted.graph with ⟨edges, resolved, distinct, _, first⟩
  rcases resolved_of_mem resolved member with ⟨ends, wired, resolves⟩
  rcases List.getElem?_eq_some_iff.mp ((accepted.places _ _).mp resolves.2) with ⟨bound, _⟩
  rw [List.length_map] at bound
  have listed := accepted.permutes.mem_iff.mpr (List.mem_range.mpr bound)
  exact ⟨ends, resolves, first.idxOf_lt distinct wired listed⟩

theorem orders : plan.Orders accepted.order where
  permutes := accepted.permutes
  respects := by
    intro edge member source target fromSource toTarget
    unfold Numbered at fromSource toTarget
    rw [<- List.getElem?_map] at fromSource toTarget
    rcases accepted.rises member with ⟨ends, resolves, before⟩
    have sameSource : ends.1 = source := Option.some.inj
      (resolves.1.symm.trans ((accepted.places _ _).mpr fromSource))
    have sameTarget : ends.2 = target := Option.some.inj
      (resolves.2.symm.trans ((accepted.places _ _).mpr toTarget))
    rwa [sameSource, sameTarget] at before

theorem wellFormed (accepted : Accepted plan) : plan.WellFormed where
  distinctIds := accepted.distinctIds
  edgesKnown := by
    intro edge member
    rcases accepted.rises member with ⟨ends, resolves, _⟩
    exact ⟨List.mem_of_getElem? ((accepted.places _ _).mp resolves.1),
      List.mem_of_getElem? ((accepted.places _ _).mp resolves.2)⟩
  acyclic := by
    apply @acyclic_of_rank String plan.Connects
      fun id => (accepted.table.nodeIndex.lookup id).elim 0 accepted.order.idxOf
    rintro source target ⟨edge, member, fromSource, toTarget⟩
    rcases accepted.rises member with ⟨ends, resolves, before⟩
    rwa [<- fromSource, <- toTarget, resolves.1, resolves.2]

end Accepted

end PlanGraph

end LoongClaw.Conversation
