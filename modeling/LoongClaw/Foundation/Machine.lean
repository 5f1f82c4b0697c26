namespace LoongClaw.Foundation

/-!
# Runs of a deterministic state machine

A machine is a step function.  A run folds it over the operations in order.
The rules here are the only inductions over runs: an invariant is shown by
one step obligation, a history property by one transitive step relation, a
property of restricted runs by the guard that every step has to meet, and a
refinement by matching steps.
-/

namespace Machine

universe u v w

variable {σ : Type u} {ο : Type v} (step : σ -> ο -> σ)

/-- Perform the operations from left to right. -/
def run (start : σ) : List ο -> σ
  | [] => start
  | op :: rest => run (step start op) rest

@[simp] theorem run_nil {start : σ} : run step start [] = start := rfl

@[simp] theorem run_cons (start : σ) (op : ο) (rest : List ο) :
    run step start (op :: rest) = run step (step start op) rest := rfl

theorem run_append (start : σ) (first second : List ο) :
    run step start (first ++ second) = run step (run step start first) second := by
  induction first generalizing start with
  | nil => rfl
  | cons op rest ih => exact ih (step start op)

theorem run_invariant {invariant : σ -> Prop}
    (preserved : ∀ state op, invariant state -> invariant (step state op))
    {start : σ} (initially : invariant start) (ops : List ο) :
    invariant (run step start ops) := by
  induction ops generalizing start with
  | nil => exact initially
  | cons op rest ih => exact ih (preserved start op initially)

variable {ops : List ο} {guard : σ -> ο -> Prop} {start : σ}

/-- What one operation establishes, wherever it stands in the run, and every
operation preserves, holds at the end. -/
theorem run_of_mem (established : σ -> Prop) {op : ο}
    (establishes : ∀ state, established (step state op))
    (preserved : ∀ state other, established state -> established (step state other))
    {start : σ} (member : op ∈ ops) : established (run step start ops) := by
  rcases List.append_of_mem member with ⟨before, later, rfl⟩
  rw [run_append, run_cons]
  exact run_invariant step preserved (establishes _) later

/-- Every operation meets `guard` in the state it is performed in. -/
def Guarded (guard : σ -> ο -> Prop) : σ -> List ο -> Prop
  | _, [] => True
  | state, op :: rest => guard state op /\ Guarded guard (step state op) rest

@[simp] theorem guarded_cons {guard : σ -> ο -> Prop} {state : σ} {op : ο} {rest : List ο} :
    Guarded step guard state (op :: rest) ↔
      guard state op /\ Guarded step guard (step state op) rest := Iff.rfl

theorem guarded_append {guard : σ -> ο -> Prop} {state : σ} {first second : List ο} :
    Guarded step guard state (first ++ second) ↔
      Guarded step guard state first /\ Guarded step guard (run step state first) second := by
  induction first generalizing state with
  | nil => simp [Guarded]
  | cons op rest ih => simp only [List.cons_append, guarded_cons, ih, run_cons, and_assoc]

theorem guarded_of_forall (always : ∀ state op, op ∈ ops -> guard state op) (state : σ) :
    Guarded step guard state ops := by
  induction ops generalizing state with
  | nil => trivial
  | cons op rest ih =>
    exact ⟨always state op List.mem_cons_self,
      ih (fun reached other member => always reached other (List.mem_cons_of_mem op member)) _⟩

theorem guarded_run_invariant {invariant : σ -> Prop}
    (preserved : ∀ state op, guard state op -> invariant state -> invariant (step state op))
    (initially : invariant start) (guarded : Guarded step guard start ops) :
    invariant (run step start ops) := by
  induction ops generalizing start with
  | nil => exact initially
  | cons op rest ih => exact ih (preserved start op guarded.1 initially) guarded.2

/-- A reflexive transitive relation that every step respects relates the
first state of a run to the last. -/
theorem run_related (related : σ -> σ -> Prop) (reflexive : ∀ state, related state state)
    (transitive : ∀ {first second third}, related first second ->
      related second third -> related first third)
    (stepwise : ∀ state op, related state (step state op)) (start : σ) (ops : List ο) :
    related start (run step start ops) := by
  induction ops generalizing start with
  | nil => exact reflexive start
  | cons op rest ih => exact transitive (stepwise start op) (ih (step start op))

/-- Two machines that keep a relation step by step keep it along every run. -/
theorem run_simulates {τ : Type w} {abstractStep : τ -> ο -> τ} {refines : σ -> τ -> Prop}
    (simulates : ∀ state model op, refines state model ->
      refines (step state op) (abstractStep model op)) {model : τ} (initially : refines start model)
    {ops : List ο} : refines (run step start ops) (run abstractStep model ops) := by
  induction ops generalizing start model with
  | nil => exact initially
  | cons op rest ih => exact ih (simulates start model op initially)

/-- If the order of two operations never matters, that of a run does not. -/
theorem run_perm (commutes : ∀ state first second,
      step (step state first) second = step (step state second) first) (start : σ) {others : List ο}
    (shuffled : ops.Perm others) : run step start ops = run step start others := by
  induction shuffled generalizing start with
  | nil => rfl
  | cons op _ ih => exact ih (step start op)
  | swap first second rest =>
    rw [run_cons, run_cons, run_cons, run_cons, commutes]
  | trans _ _ earlier later => exact (earlier start).trans (later start)

/-- Operations that a view does not show can be left out of a run. -/
theorem run_filter {β : Type w} (view : σ -> β) {keep : ο -> Bool}
    (unseen : ∀ state op, keep op = false -> view (step state op) = view state)
    (consistent : ∀ first second op, view first = view second ->
      view (step first op) = view (step second op)) {other : σ}
    (initially : view start = view other) :
    view (run step start ops) = view (run step other (ops.filter keep)) := by
  induction ops generalizing start other with
  | nil => exact initially
  | cons op rest ih =>
    cases kind : keep op with
    | false =>
      rw [List.filter_cons_of_neg (by simp [kind])]
      exact ih ((unseen start op kind).trans initially)
    | true =>
      rw [List.filter_cons_of_pos kind]
      exact ih (consistent start other op initially)

end Machine

end LoongClaw.Foundation
