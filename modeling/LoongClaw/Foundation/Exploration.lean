import Mathlib.Data.List.Dedup
import Mathlib.Data.List.Perm.Subperm
import Mathlib.Logic.Relation

namespace LoongClaw.Foundation

/-!
# Exploration of a finite graph

A recursive query takes one item after another from a queue and adds what the
item leads to, unless it was added before.  Within a finite universe this
ends with everything that can be reached.

Where every item leads to one item at most, the converse search climbs from an
item along these links.
-/

namespace Exploration

universe u

variable {α : Type u} (expand : α -> List α)

/-- One item leads to another. -/
def Leads (first second : α) : Prop :=
  second ∈ expand first

/-- Take items from the queue for a number of rounds.  `seen` holds every item
that was ever in the queue. -/
def explore [DecidableEq α] : Nat -> List α -> List α -> List α
  | 0, _, seen => seen
  | _ + 1, [], seen => seen
  | rounds + 1, item :: queue, seen =>
    let fresh := (expand item).dedup.filter (· ∉ seen)
    explore rounds (queue ++ fresh) (seen ++ fresh)

variable {expand}

theorem take_from_queue {done queue fresh : List α} {item : α} :
    (done ++ [item]) ++ (queue ++ fresh) = (done ++ item :: queue) ++ fresh := by
  rw [List.append_cons done item queue, List.append_assoc _ queue fresh]

/-- The items taken from the queue so far lead only to items seen.  As many
rounds remain as the universe has further items. -/
structure Frontier (expand : α -> List α) (world done queue : List α) (rounds : Nat) : Prop where
  distinct : (done ++ queue).Nodup
  inside : done ++ queue ⊆ world
  explored : ∀ item, item ∈ done -> ∀ next, Leads expand item next -> next ∈ done ++ queue
  enough : world.length <= rounds + done.length

section Searching

variable [DecidableEq α] {world : List α}

theorem Frontier.next {done queue : List α} {item : α} {rounds : Nat}
    (frontier : Frontier expand world done (item :: queue) (rounds + 1))
    (within : ∀ next, Leads expand item next -> next ∈ world) :
    Frontier expand world (done ++ [item])
      (queue ++ (expand item).dedup.filter (· ∉ done ++ item :: queue)) rounds := by
  refine ⟨?_, ?_, ?_, ?_⟩
  · rw [take_from_queue]
    refine List.Nodup.append frontier.distinct ((List.nodup_dedup _).filter _) ?_
    intro next old new
    have unseen := (List.mem_filter.mp new).2
    rw [decide_eq_true_eq] at unseen
    exact unseen old
  · rw [take_from_queue]
    refine List.append_subset.mpr ⟨frontier.inside, fun next new => ?_⟩
    exact within next (List.mem_dedup.mp (List.mem_filter.mp new).1)
  · rw [take_from_queue]
    intro explored listed next leads
    rcases List.mem_append.mp listed with old | same
    · exact List.mem_append_left _ (frontier.explored explored old next leads)
    · rw [List.mem_singleton.mp same] at leads
      by_cases seen : next ∈ done ++ item :: queue
      · exact List.mem_append_left _ seen
      · apply List.mem_append_right
        exact List.mem_filter.mpr ⟨List.mem_dedup.mpr leads, decide_eq_true seen⟩
  · have enough := frontier.enough
    rw [List.length_append, List.length_singleton]
    omega

/-- The exploration finds exactly what can be reached. -/
theorem mem_explore_iff (within : ∀ item next, Leads expand item next -> next ∈ world)
    {rounds : Nat} :
    ∀ done queue : List α, Frontier expand world done queue rounds ->
      ∀ target, target ∈ explore expand rounds queue (done ++ queue) ↔
        ∃ source, source ∈ done ++ queue /\ Relation.ReflTransGen (Leads expand) source target := by
  have ended : ∀ done : List α, ∀ rounds : Nat,
      Frontier expand world done [] rounds -> ∀ target, target ∈ done ++ [] ↔
        ∃ source, source ∈ done ++ [] /\ Relation.ReflTransGen (Leads expand) source target := by
    intro done rounds frontier target
    constructor
    · intro member
      exact ⟨target, member, Relation.ReflTransGen.refl⟩
    · rintro ⟨source, member, path⟩
      induction path with
      | refl => exact member
      | tail _ leads ih =>
        rw [List.append_nil] at ih
        exact frontier.explored _ ih _ leads
  induction rounds with
  | zero =>
    intro done queue frontier target
    have shorter := (List.subperm_of_subset frontier.distinct frontier.inside).length_le
    have enough := frontier.enough
    rw [List.length_append] at shorter
    have empty : queue = [] := List.length_eq_zero_iff.mp (by omega)
    subst empty
    exact ended done 0 frontier target
  | succ rounds ih =>
    intro done queue frontier target
    cases queue with
    | nil => exact ended done (rounds + 1) frontier target
    | cons item queue =>
      have later := ih _ _ (frontier.next (within item)) target
      rw [take_from_queue] at later
      have member : item ∈ done ++ item :: queue :=
        List.mem_append_right done List.mem_cons_self
      refine later.trans ⟨?_, ?_⟩
      · rintro ⟨source, listed, path⟩
        rcases List.mem_append.mp listed with old | new
        · exact ⟨source, old, path⟩
        · have leads := List.mem_dedup.mp (List.mem_filter.mp new).1
          exact ⟨item, member, Relation.ReflTransGen.head leads path⟩
      · rintro ⟨source, listed, path⟩
        exact ⟨source, List.mem_append_left _ listed, path⟩

/-- The exploration from one item. -/
theorem mem_explore_singleton_iff (within : ∀ item next, Leads expand item next -> next ∈ world)
    {start : α}
    (member : start ∈ world) (target : α) :
    target ∈ explore expand world.length [start] [start] ↔
      Relation.ReflTransGen (Leads expand) start target := by
  have frontier : Frontier expand world [] [start] world.length :=
    { distinct := List.nodup_singleton start
      inside := by simpa using member
      explored := by
        intro item listed
        cases listed
      enough := by simp }
  have found := mem_explore_iff within [] [start] frontier target
  simpa using found

end Searching

/-! ## Climbing -/

section Climbing

variable {link : α -> Option α}

/-- An item is linked to another. -/
def Linked (link : α -> Option α) (item next : α) : Prop :=
  link item = some next

/-- The items climbed past on the way to the current one, none of them linked
to the goal. -/
def Trail (link : α -> Option α) (goal : α) (seen : List α) (current : α) : Prop :=
  ∀ item, item ∈ seen -> ∃ next,
    link item = some next /\ next ≠ goal /\ (next = current \/ next ∈ seen)

variable {goal current : α} {seen : List α}

theorem Trail.climb {next : α} (trail : Trail link goal seen current)
    (linked : link current = some next) (missed : next ≠ goal) :
    Trail link goal (current :: seen) next := by
  intro item listed
  rcases List.mem_cons.mp listed with rfl | earlier
  · exact ⟨next, linked, missed, Or.inl rfl⟩
  · rcases trail item earlier with ⟨passed, passedLink, notGoal, here | there⟩
    · exact ⟨passed, passedLink, notGoal, Or.inr (here ▸ List.mem_cons_self)⟩
    · exact ⟨passed, passedLink, notGoal, Or.inr (List.mem_cons_of_mem current there)⟩

/-- Whoever returns to an item on the trail climbs in a circle, past the goal. -/
theorem Trail.not_reached (trail : Trail link goal seen current) (returned : current ∈ seen) :
    ¬ Relation.TransGen (Linked link) current goal := by
  intro path
  have circles : ∀ target, Relation.TransGen (Linked link) current target ->
      target ∈ seen /\ target ≠ goal := by
    have onward : ∀ item next, item ∈ seen -> Linked link item next ->
        next ∈ seen /\ next ≠ goal := by
      intro item next listed linked
      rcases trail item listed with ⟨passed, passedLink, notGoal, place⟩
      have same : passed = next := Option.some_inj.mp (passedLink.symm.trans linked)
      subst same
      refine ⟨?_, notGoal⟩
      rcases place with here | there
      · rw [here]
        exact returned
      · exact there
    intro target climbed
    induction climbed with
    | single linked => exact onward _ _ returned linked
    | tail _ linked ih => exact onward _ _ ih.1 linked
  exact (circles goal path).2 rfl

/-- Links leave an item in one direction only. -/
theorem transGen_linked_iff {next : α} (linked : link current = some next) :
    Relation.TransGen (Linked link) current goal ↔
      next = goal \/ Relation.TransGen (Linked link) next goal := by
  rw [Relation.TransGen.head'_iff]
  constructor
  · rintro ⟨passed, first, rest⟩
    have same : next = passed := Option.some_inj.mp (linked.symm.trans first)
    subst same
    rcases Relation.reflTransGen_iff_eq_or_transGen.mp rest with ended | further
    · exact Or.inl ended.symm
    · exact Or.inr further
  · rintro (rfl | further)
    · exact ⟨next, linked, Relation.ReflTransGen.refl⟩
    · exact ⟨next, linked, further.to_reflTransGen⟩

theorem not_transGen_of_unlinked (unlinked : link current = none) :
    ¬ Relation.TransGen (Linked link) current goal := by
  intro path
  rcases Relation.TransGen.head'_iff.mp path with ⟨next, linked, _⟩
  exact Option.some_ne_none next (linked.symm.trans unlinked)

/-- Links that agree on all items that can be passed lead to the same items. -/
theorem transGen_linked_congr {other : α -> Option α} (known : α -> Prop)
    (agree : ∀ item, known item -> link item = other item)
    (closed : ∀ item next, other item = some next -> known next) (start : known current) :
    Relation.TransGen (Linked link) current goal ↔
      Relation.TransGen (Linked other) current goal := by
  have reached : ∀ next, Relation.TransGen (Linked other) current next -> known next := by
    rintro next (linked | ⟨_, linked⟩)
    · exact closed current next linked
    · exact closed _ next linked
  constructor
  · intro path
    induction path with
    | single linked => exact .single ((agree current start).symm.trans linked)
    | tail _ linked ih => exact ih.tail ((agree _ (reached _ ih)).symm.trans linked)
  · intro path
    induction path with
    | single linked => exact .single ((agree current start).trans linked)
    | tail earlier linked ih => exact ih.tail ((agree _ (reached _ earlier)).trans linked)

end Climbing

end Exploration

end LoongClaw.Foundation
