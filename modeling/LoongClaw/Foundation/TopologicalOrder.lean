import Mathlib.Data.List.Nodup
import Mathlib.Data.List.Range
import Mathlib.Data.List.Perm.Subperm
import Mathlib.Logic.Relation

namespace LoongClaw.Foundation

/-!
# Topological orders by counting indegrees

A graph on the vertices `0, ..., size - 1` is kept as one list of targets and
one indegree for each vertex.  `sort` visits the vertices whose indegree has
come down to zero, first in first out, and lists them as it goes.  The list is
always free of repetitions and closed under sources.  It holds every vertex
only if the graph has no cycle.
-/

namespace TopologicalOrder

/-- What can go wrong while the vertices are visited. -/
inductive Fault where
  | adjacencyOutOfBounds
  | indegreeOutOfBounds
  | exhausted

structure Degrees where
  (remaining queue : List Nat)

/-- Count one edge into each target off, and queue the targets that have none
left. -/
def relax : List Nat -> Degrees -> Except Fault Degrees
  | [], degrees => .ok degrees
  | next :: rest, degrees =>
    match degrees.remaining[next]? with
    | none => .error .indegreeOutOfBounds
    | some degree =>
      relax rest
        { remaining := degrees.remaining.set next (degree - 1)
          queue := if degree - 1 = 0 then degrees.queue ++ [next] else degrees.queue }

def visit (adjacency : List (List Nat)) : Nat -> Degrees -> List Nat -> Except Fault (List Nat)
  | 0, _, _ => .error .exhausted
  | fuel + 1, degrees, order =>
    match degrees.queue with
    | [] => .ok order
    | index :: queue =>
      match adjacency[index]? with
      | none => .error .adjacencyOutOfBounds
      | some targets =>
        match relax targets { degrees with queue := queue } with
        | .error fault => .error fault
        | .ok relaxed => visit adjacency fuel relaxed (order ++ [index])

/-- The vertices that no edge enters, in ascending order. -/
def entries (indegree : List Nat) : List Nat :=
  (List.range indegree.length).filter fun index => indegree[index]? = some 0

/-- Visit every vertex that can be reached by removing sources.  A visit for
each vertex, and one round to find the queue empty, are enough. -/
def sort (adjacency : List (List Nat)) (indegree : List Nat) : Except Fault (List Nat) :=
  visit adjacency (indegree.length + 1) { remaining := indegree, queue := entries indegree } []

/-! ## Graphs given by their edges -/

abbrev Edges := List (Nat × Nat)

/-- The targets of the edges that leave a vertex. -/
def targetsOf (edges : Edges) (index : Nat) : List Nat :=
  (edges.filter fun edge => edge.1 = index).map Prod.snd

/-- The number of edges that enter a vertex from outside `done`. -/
def openDegree (edges : Edges) (done : List Nat) (index : Nat) : Nat :=
  edges.countP fun edge => edge.2 = index /\ edge.1 ∉ done

/-- The two lists describe the graph with these edges. -/
structure Describes (size : Nat) (edges : Edges) (adjacency : List (List Nat))
    (indegree : List Nat) : Prop where
  adjacencySize : adjacency.length = size
  indegreeSize : indegree.length = size
  bounded : ∀ edge, edge ∈ edges -> edge.1 < size /\ edge.2 < size
  targets : ∀ index targets, adjacency[index]? = some targets -> targets = targetsOf edges index
  degrees : ∀ index degree, indegree[index]? = some degree -> degree = openDegree edges [] index

theorem describes_empty {size : Nat} :
    Describes size [] (List.replicate size []) (List.replicate size 0) where
  adjacencySize := List.length_replicate
  indegreeSize := List.length_replicate
  bounded := fun _ member => by cases member
  targets := fun index targets found => by
    rw [List.getElem?_replicate] at found
    split at found
    · exact (Option.some.inj found).symm
    · cases found
  degrees := fun index degree found => by
    rw [List.getElem?_replicate] at found
    split at found
    · exact (Option.some.inj found).symm
    · cases found

variable {edge : Nat × Nat} {edges : Edges}

theorem openDegree_append {index : Nat} :
    openDegree (edges ++ [edge]) [] index =
      if edge.2 = index then openDegree edges [] index + 1 else openDegree edges [] index := by
  unfold openDegree
  split
  · rename_i same
    simp [same]
  · rename_i different
    simp [different]

variable {size : Nat} {edges : Edges} {adjacency : List (List Nat)} {indegree : List Nat}
  {degree : Nat} {targets order : List Nat} {index : Nat} {pending : List Nat} {degrees : Degrees}
  {queue remaining : List Nat}

/-- Recording one more edge in both lists describes the graph with that edge. -/
theorem Describes.connect (described : Describes size edges adjacency indegree)
    {source target : Nat} (leaving : adjacency[source]? = some targets)
    (entering : indegree[target]? = some degree) :
    Describes size (edges ++ [(source, target)]) (adjacency.set source (targets ++ [target]))
      (indegree.set target (degree + 1)) where
  adjacencySize := by rw [List.length_set, described.adjacencySize]
  indegreeSize := by rw [List.length_set, described.indegreeSize]
  bounded := by
    refine List.forall_mem_append.mpr ⟨described.bounded, List.forall_mem_singleton.mpr ?_⟩
    rcases List.getElem?_eq_some_iff.mp leaving with ⟨sourceBound, _⟩
    rcases List.getElem?_eq_some_iff.mp entering with ⟨targetBound, _⟩
    exact ⟨described.adjacencySize ▸ sourceBound, described.indegreeSize ▸ targetBound⟩
  targets := by
    intro index found recorded
    by_cases same : source = index
    · subst index
      rcases List.getElem?_eq_some_iff.mp leaving with ⟨sourceBound, _⟩
      rw [List.getElem?_set_self sourceBound] at recorded
      rw [<- Option.some.inj recorded, described.targets source targets leaving]
      simp [targetsOf]
    · rw [List.getElem?_set_ne same] at recorded
      rw [described.targets index found recorded]
      simp [targetsOf, same]
  degrees := by
    intro index found recorded
    rw [openDegree_append]
    by_cases same : target = index
    · subst index
      rcases List.getElem?_eq_some_iff.mp entering with ⟨targetBound, _⟩
      rw [List.getElem?_set_self targetBound] at recorded
      rw [if_pos rfl, <- described.degrees target degree entering]
      exact (Option.some.inj recorded).symm
    · rw [List.getElem?_set_ne same] at recorded
      rw [if_neg same]
      exact described.degrees index found recorded

/-! ## The invariant of a visit -/

/-- An element of a list with one more at its end is that one, or stands in
the list. -/
theorem split_concat {α : Type _} {items before after : List α} {last item : α}
    (split : items ++ [last] = before ++ item :: after) :
    (before = items /\ item = last) \/ ∃ initial, items = before ++ item :: initial := by
  rcases List.eq_nil_or_concat after with empty | ⟨initial, final, concat⟩
  · subst after
    rcases List.append_inj' split rfl with ⟨same, single⟩
    exact Or.inl ⟨same.symm, (List.singleton_inj.mp single).symm⟩
  · subst after
    have aligned : items ++ [last] = (before ++ item :: initial) ++ [final] := by
      rw [split, List.concat_eq_append, List.append_assoc, List.cons_append]
    exact Or.inr ⟨initial, (List.append_inj' aligned rfl).1⟩

/-- Each listed vertex comes after the sources of all its edges. -/
def SourcesFirst (edges : Edges) (order : List Nat) : Prop :=
  ∀ earlier index later, order = earlier ++ index :: later ->
    ∀ edge, edge ∈ edges -> edge.2 = index -> edge.1 ∈ earlier

theorem SourcesFirst.concat (first : SourcesFirst edges order)
    (sources : ∀ edge, edge ∈ edges -> edge.2 = index -> edge.1 ∈ order) :
    SourcesFirst edges (order ++ [index]) := by
  intro earlier other later split edge member enters
  rcases split_concat split with ⟨whole, last⟩ | ⟨initial, inside⟩
  · rw [whole]
    exact sources edge member (enters.trans last)
  · exact first earlier other initial inside edge member enters

/-- What holds while vertices are visited.  `pending` are the targets of the
vertex listed last that are still to be relaxed. -/
structure Progress (size : Nat) (edges : Edges) (pending : List Nat) (degrees : Degrees)
    (order : List Nat) : Prop where
  remainingSize : degrees.remaining.length = size
  counted : ∀ index degree, degrees.remaining[index]? = some degree ->
    degree = openDegree edges order index + pending.count index
  ready : ∀ index, index ∈ order ++ degrees.queue <-> degrees.remaining[index]? = some 0
  distinct : (order ++ degrees.queue).Nodup
  sourcesFirst : SourcesFirst edges order

theorem Progress.bounded (progress : Progress size edges pending degrees order)
    (member : index ∈ order ++ degrees.queue) : index < size := by
  rcases List.getElem?_eq_some_iff.mp ((progress.ready index).mp member) with ⟨bound, _⟩
  exact progress.remainingSize ▸ bound

theorem Progress.length_le (progress : Progress size edges pending degrees order) :
    (order ++ degrees.queue).length <= size := by
  have included : (order ++ degrees.queue).Subset (List.range size) := fun index member =>
    List.mem_range.mpr (progress.bounded member)
  simpa using (progress.distinct.subperm included).length_le

/-- A queued vertex has all its sources listed. -/
theorem Progress.sources (progress : Progress size edges [] degrees order)
    (queued : index ∈ degrees.queue) (edge : Nat × Nat) (member : edge ∈ edges)
    (enters : edge.2 = index) : edge.1 ∈ order := by
  have settled := progress.counted index 0
    ((progress.ready index).mp (List.mem_append_right order queued))
  by_contra missing
  have entered := List.countP_eq_zero.mp settled.symm edge member
  simp [enters, missing] at entered

theorem count_targetsOf {index target : Nat} :
    (targetsOf edges index).count target =
      edges.countP fun edge => edge.2 = target /\ edge.1 = index := by
  unfold targetsOf
  rw [List.count, List.countP_map, List.countP_filter]
  apply List.countP_congr
  intro edge _
  simp

/-- Listing a vertex leaves its own edges to be relaxed. -/
theorem openDegree_concat (fresh : index ∉ order) (target : Nat) :
    openDegree edges order target =
      openDegree edges (order ++ [index]) target + (targetsOf edges index).count target := by
  rw [count_targetsOf]
  unfold openDegree
  rw [List.countP_eq_countP_filter_add edges _ (fun edge => decide (edge.1 ≠ index)),
    List.countP_filter, List.countP_filter]
  congr 1
  · refine List.countP_congr ?_
    intro edge _
    simp [and_assoc]
  · refine List.countP_congr ?_
    intro edge _
    have unlisted : edge.1 = index -> edge.1 ∉ order := fun source => source ▸ fresh
    simp only [ne_eq, decide_not, Bool.not_not, Bool.and_eq_true, decide_eq_true_eq]
    tauto

/-- Taking a vertex from the queue into the list. -/
theorem Progress.pop
    (progress : Progress size edges [] { remaining := remaining, queue := index :: queue } order) :
    Progress size edges (targetsOf edges index) { remaining := remaining, queue := queue }
      (order ++ [index]) where
  remainingSize := progress.remainingSize
  counted := by
    intro target degree found
    have fresh : index ∉ order := fun listed =>
      (List.disjoint_of_nodup_append progress.distinct) listed List.mem_cons_self
    rw [<- openDegree_concat fresh, progress.counted target degree found, List.count_nil,
      Nat.add_zero]
  ready := by
    intro target
    rw [List.append_assoc]
    exact progress.ready target
  distinct := by
    rw [List.append_assoc]
    exact progress.distinct
  sourcesFirst :=
    progress.sourcesFirst.concat (progress.sources List.mem_cons_self)

/-- Relaxing one target. -/
theorem Progress.relaxOne {next : Nat}
    (progress : Progress size edges (next :: pending) degrees order)
    (found : degrees.remaining[next]? = some degree) :
    Progress size edges pending
      { remaining := degrees.remaining.set next (degree - 1)
        queue := if degree - 1 = 0 then degrees.queue ++ [next] else degrees.queue } order := by
  have counted := progress.counted next degree found
  rw [List.count_cons_self] at counted
  rcases List.getElem?_eq_some_iff.mp found with ⟨bound, _⟩
  have waiting : next ∉ order ++ degrees.queue := by
    intro member
    have zero := (progress.ready next).mp member
    rw [found, Option.some.injEq] at zero
    omega
  refine
    { remainingSize := by rw [List.length_set, progress.remainingSize]
      counted := ?_
      ready := ?_
      distinct := ?_
      sourcesFirst := progress.sourcesFirst }
  · intro index left recorded
    by_cases same : next = index
    · subst index
      rw [List.getElem?_set_self bound, Option.some.injEq] at recorded
      omega
    · rw [List.getElem?_set_ne same] at recorded
      rw [progress.counted index left recorded, List.count_cons_of_ne same]
  · intro index
    by_cases same : next = index
    · subst index
      rw [List.getElem?_set_self bound, Option.some.injEq]
      by_cases last : degree - 1 = 0
      · simp [last]
      · rw [if_neg last]
        exact iff_of_false waiting last
    · rw [List.getElem?_set_ne same, <- progress.ready index]
      by_cases last : degree - 1 = 0
      · rw [if_pos last, <- List.append_assoc, List.mem_append, List.mem_singleton]
        exact or_iff_left (fun equal => same equal.symm)
      · rw [if_neg last]
  · by_cases last : degree - 1 = 0
    · rw [if_pos last, <- List.append_assoc]
      exact progress.distinct.append (List.nodup_singleton next)
        (List.disjoint_singleton.mpr waiting)
    · rw [if_neg last]
      exact progress.distinct

theorem Progress.relax (pending : List Nat) (progress : Progress size edges pending degrees order)
    (bounded : ∀ next, next ∈ pending -> next < size) :
    ∃ relaxed, relax pending degrees = .ok relaxed /\ Progress size edges [] relaxed order := by
  induction pending generalizing degrees with
  | nil => exact ⟨degrees, rfl, progress⟩
  | cons next rest ih =>
    have bound : next < degrees.remaining.length := by
      rw [progress.remainingSize]
      exact bounded next List.mem_cons_self
    have found := List.getElem?_eq_getElem bound
    rcases ih (progress.relaxOne found)
      (fun other member => bounded other (List.mem_cons_of_mem next member)) with
      ⟨relaxed, ran, kept⟩
    refine ⟨relaxed, ?_, kept⟩
    unfold relax
    rw [found]
    exact ran

/-- A visit with a round for each vertex not yet listed, and one more, ends
with a list that is free of repetitions and closed under sources. -/
theorem visit_ends (described : Describes size edges adjacency indegree) {fuel : Nat}
    (progress : Progress size edges [] degrees order) (enough : size < order.length + fuel) :
    ∃ result, visit adjacency fuel degrees order = .ok result /\ result.Nodup /\
        (∀ index, index ∈ result -> index < size) /\ SourcesFirst edges result := by
  induction fuel generalizing degrees order with
  | zero =>
    have listed := progress.length_le
    rw [List.length_append] at listed
    omega
  | succ fuel ih =>
    rcases degrees with ⟨remaining, queue⟩
    cases queue with
    | nil =>
      refine ⟨order, rfl, ?_, ?_, progress.sourcesFirst⟩
      · simpa using progress.distinct
      · exact fun index member => progress.bounded (List.mem_append_left _ member)
    | cons index queue =>
      have indexBound : index < adjacency.length := by
        rw [described.adjacencySize]
        exact progress.bounded (List.mem_append_right order List.mem_cons_self)
      have found := List.getElem?_eq_getElem indexBound
      have leaving := described.targets index _ found
      have targetsBound : ∀ next, next ∈ targetsOf edges index -> next < size := by
        intro next member
        rcases List.mem_map.mp member with ⟨edge, selected, same⟩
        exact same ▸ (described.bounded edge (List.mem_of_mem_filter selected)).2
      rcases Progress.relax _ progress.pop targetsBound with ⟨relaxed, ran, kept⟩
      have left : size < (order ++ [index]).length + fuel := by
        rw [List.length_append, List.length_singleton]
        omega
      rcases ih kept left with ⟨result, ended, facts⟩
      refine ⟨result, ?_, facts⟩
      rw [visit]
      simp only [found.trans (congrArg some leaving), ran]
      exact ended

theorem mem_entries : index ∈ entries indegree <-> indegree[index]? = some 0 := by
  unfold entries
  rw [List.mem_filter, List.mem_range, decide_eq_true_iff]
  refine ⟨And.right, fun found => ⟨?_, found⟩⟩
  rcases List.getElem?_eq_some_iff.mp found with ⟨bound, _⟩
  exact bound

theorem Describes.progress (described : Describes size edges adjacency indegree) :
    Progress size edges [] { remaining := indegree, queue := entries indegree } [] where
  remainingSize := described.indegreeSize
  counted := fun index degree found => by
    exact described.degrees index degree found
  ready := fun _ => mem_entries
  distinct := List.nodup_range.filter _
  sourcesFirst := fun earlier _ _ split => by
    cases earlier <;> cases split

/-- Sorting the lists of a graph never fails, and lists vertices after the
sources of their edges. -/
theorem sort_ends (described : Describes size edges adjacency indegree) : ∃ result,
      sort adjacency indegree = .ok result /\ result.Nodup /\
        (∀ index, index ∈ result -> index < size) /\ SourcesFirst edges result := by
  have enough : size < ([] : List Nat).length + (indegree.length + 1) := by
    rw [described.indegreeSize, List.length_nil]
    omega
  exact visit_ends described described.progress enough

/-! ## Complete orders -/

/-- A list of as many distinct vertices as there are lists them all. -/
theorem perm_range (distinct : order.Nodup) (bounded : ∀ index, index ∈ order -> index < size)
    (complete : order.length = size) : order.Perm (List.range size) := by
  have included : order.Subset (List.range size) := fun index member =>
    List.mem_range.mpr (bounded index member)
  exact (distinct.subperm included).perm_of_length_le (by rw [List.length_range, complete])

/-- Every edge goes from an earlier to a later place of the order. -/
theorem SourcesFirst.idxOf_lt (first : SourcesFirst edges order) (distinct : order.Nodup)
    (member : edge ∈ edges) (listed : edge.2 ∈ order) :
    order.idxOf edge.1 < order.idxOf edge.2 := by
  rcases List.append_of_mem listed with ⟨earlier, later, split⟩
  have source := first earlier edge.2 later split edge member rfl
  rw [split] at distinct
  have absent : edge.2 ∉ earlier := fun twice =>
    (List.disjoint_of_nodup_append distinct) twice List.mem_cons_self
  rw [split, List.idxOf_append_of_mem source, List.idxOf_append_of_notMem absent]
  exact Nat.lt_of_lt_of_le (List.idxOf_lt_length_iff.mpr source) (Nat.le_add_right _ _)

section Chain

variable {α : Type _} {chain order : List α}

/-- Each item of the order comes after the one before it in the chain. -/
def PreviousFirst (chain order : List α) : Prop :=
  ∀ done item rest, order = done ++ item :: rest ->
    ∀ before previous after, chain = before ++ previous :: item :: after -> previous ∈ done

/-- An order that has begun like the chain goes on like it. -/
theorem PreviousFirst.next (previousFirst : PreviousFirst chain order) (distinct : chain.Nodup)
    (permutes : order.Perm chain) {front rest back : List α} {first item : α}
    (ordered : order = front ++ first :: rest) (whole : chain = front ++ item :: back) :
    first = item := by
  have chainDistinct : (front ++ item :: back).Nodup := whole ▸ distinct
  have orderDistinct : (front ++ first :: rest).Nodup :=
    ordered ▸ permutes.nodup_iff.mpr distinct
  have fresh : first ∉ front := fun early =>
    List.disjoint_of_nodup_append orderDistinct early List.mem_cons_self
  have member : first ∈ front ++ item :: back := by
    rw [<- whole, <- permutes.mem_iff, ordered]
    exact List.mem_append_right front List.mem_cons_self
  rcases List.mem_cons.mp ((List.mem_append.mp member).resolve_left fresh) with same | behind
  · exact same
  · exfalso
    rcases List.append_of_mem behind with ⟨middle, after, split⟩
    rcases List.eq_nil_or_concat (item :: middle) with empty | ⟨initial, last, concat⟩
    · cases empty
    · have placed : chain = (front ++ initial) ++ last :: first :: after := by
        rw [whole, split, <- List.cons_append, concat]
        simp
      have inside : last ∈ item :: back := by
        rw [split, <- List.cons_append, concat]
        simp
      exact List.disjoint_of_nodup_append chainDistinct
        (previousFirst front first rest ordered _ last after placed) inside

/-- A chain has one topological order: itself. -/
theorem PreviousFirst.eq_chain (previousFirst : PreviousFirst chain order)
    (distinct : chain.Nodup) (permutes : order.Perm chain) : order = chain := by
  have agrees : ∀ front back, chain = front ++ back -> ∃ rest, order = front ++ rest := by
    intro front
    induction front using List.reverseRecOn with
    | nil => exact fun _ _ => ⟨order, rfl⟩
    | append_singleton front item ih =>
      intro back whole
      rw [List.append_assoc, List.singleton_append] at whole
      rcases ih (item :: back) whole with ⟨rest, ordered⟩
      cases rest with
      | nil =>
        have shorter := permutes.length_eq
        rw [ordered, whole, List.length_append, List.length_append, List.length_nil,
          List.length_cons] at shorter
        omega
      | cons first rest =>
        have same := previousFirst.next distinct permutes ordered whole
        refine ⟨rest, ?_⟩
        rw [ordered, same, List.append_assoc, List.singleton_append]
  rcases agrees chain [] (List.append_nil chain).symm with ⟨rest, ordered⟩
  have none : rest = [] := by
    have length := permutes.length_eq
    rw [ordered, List.length_append] at length
    exact List.length_eq_zero_iff.mp (by omega)
  rw [ordered, none, List.append_nil]

end Chain

/-- A relation along which some rank grows has no cycle. -/
theorem acyclic_of_rank {α : Type _} {related : α -> α -> Prop} {rank : α -> Nat}
    (grows : ∀ source target, related source target -> rank source < rank target)
    (vertex : α) : Not (Relation.TransGen related vertex vertex) := by
  intro cycle
  have climbed : ∀ target, Relation.TransGen related vertex target ->
      rank vertex < rank target := by
    intro target path
    induction path with
    | single step => exact grows _ _ step
    | tail _ step ih => exact ih.trans (grows _ _ step)
  exact Nat.lt_irrefl _ (climbed vertex cycle)

end TopologicalOrder

end LoongClaw.Foundation
