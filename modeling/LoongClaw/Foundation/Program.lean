import Mathlib.Logic.Function.Basic
import LoongClaw.Foundation.Attempt

namespace LoongClaw.Foundation

/-!
# Programs of atomic statements

A program is a sequence of statements on a shared state, each of which is
performed at once.  What a statement does and how the program goes on may
depend on a circumstance that nobody controls, such as a failing disk.  A
program can be performed alone, or interleaved with others in a pool.

For a program alone, `Ensures` is the weakest precondition over all
circumstances.  A program follows a protocol if each of its statements is a move that the
protocol allows for the current role of the program.  Whatever the moves of a
protocol preserve holds along every interleaving of programs that follow it.
-/

universe u

/-- What is left of a program: its result, or a statement and what comes
after it. -/
inductive Program (χ σ ε α : Type u) where
  | finish (result : Except ε α)
  | step (effect : χ -> σ -> σ) (next : χ -> σ -> Program χ σ ε α)

namespace Program

variable {χ σ ε α β : Type u}

protected def bind : Program χ σ ε α -> (α -> Program χ σ ε β) -> Program χ σ ε β
  | .finish (.ok value), next => next value
  | .finish (.error error), _ => .finish (.error error)
  | .step effect rest, next =>
    .step effect (fun circumstance state => (rest circumstance state).bind next)

instance : Monad (Program χ σ ε) where
  pure value := .finish (.ok value)
  bind := Program.bind

/-- A program whose outcome is already decided. -/
def lift (outcome : Except ε α) : Program χ σ ε α :=
  .finish outcome

def fail (error : ε) : Program χ σ ε α :=
  .finish (.error error)

/-- A program of one statement. -/
def atomic (statement : χ -> σ -> Except ε α × σ) : Program χ σ ε α :=
  .step (fun circumstance state => (statement circumstance state).2)
    (fun circumstance state => .finish (statement circumstance state).1)

/-- Turn the failure of a program into its value. -/
def caught {η : Type u} : Program χ σ ε α -> Program χ σ η (Except ε α)
  | .finish result => .finish (.ok result)
  | .step effect next => .step effect (fun circumstance state => (next circumstance state).caught)

/-- Report the failures of a program in another form. -/
def mapError {η : Type u} (convert : ε -> η) : Program χ σ ε α -> Program χ σ η α
  | .finish result => .finish (result.mapError convert)
  | .step effect next =>
    .step effect (fun circumstance state => (next circumstance state).mapError convert)

theorem lift_ok_bind (value : α) (next : α -> Program χ σ ε β) :
    (lift (.ok value) >>= next) = next value := rfl

/-! ## Alone -/

section Alone

variable [Inhabited χ]

/-- Perform a program without interference.  The circumstances are taken
from a list, and are the usual ones when it is exhausted. -/
def perform : Program χ σ ε α -> Attempt (List χ × σ) ε α
  | .finish result => Attempt.lift result
  | .step effect next => fun state =>
    perform (next (state.1.headD default) state.2)
      (state.1.tail, effect (state.1.headD default) state.2)

theorem perform_bind {program : Program χ σ ε α} {next : α -> Program χ σ ε β} :
    perform (program >>= next) = perform program >>= fun value => perform (next value) := by
  induction program with
  | finish result => cases result <;> rfl
  | step effect rest ih =>
    funext state
    exact congrFun (ih (state.1.headD default) state.2) _

theorem perform_bind_ok {program : Program χ σ ε α} {next : α -> Program χ σ ε β}
    {state later : List χ × σ} {value : α} (ended : perform program state = (.ok value, later)) :
    perform (program >>= next) state = perform (next value) later := by
  rw [perform_bind]
  exact Attempt.bind_ok ended _

variable {η : Type u}

theorem perform_mapError (convert : ε -> η) (program : Program χ σ ε α) (state : List χ × σ) :
    perform (program.mapError convert) state =
      ((perform program state).1.mapError convert, (perform program state).2) := by
  induction program generalizing state with
  | finish result => rfl
  | step effect next ih => exact ih (state.1.headD default) state.2 _

end Alone

/-! ## Weakest preconditions -/

/-- Whatever the circumstances, the program ends as demanded. -/
def Ensures (demand : Except ε α -> σ -> Prop) : Program χ σ ε α -> σ -> Prop
  | .finish result, state => demand result state
  | .step effect next, state =>
    ∀ circumstance, Ensures demand (next circumstance state) (effect circumstance state)

section Rules

variable {demand : Except ε α -> σ -> Prop} {state : σ}

theorem ensures_lift {outcome : Except ε α} (holds : demand outcome state) :
    Ensures demand (lift outcome : Program χ σ ε α) state := holds

theorem ensures_step_iff {effect : χ -> σ -> σ} {next : χ -> σ -> Program χ σ ε α} :
    Ensures demand (.step effect next) state ↔ ∀ circumstance,
      Ensures demand (next circumstance state) (effect circumstance state) := Iff.rfl

theorem ensures_pure {value : α} (holds : demand (.ok value) state) :
    Ensures demand (pure value : Program χ σ ε α) state := holds

theorem ensures_atomic {statement : χ -> σ -> Except ε α × σ} (holds : ∀ circumstance,
      demand (statement circumstance state).1 (statement circumstance state).2) :
    Ensures demand (atomic statement) state := holds

variable {program : Program χ σ ε α} {η : Type u}

theorem ensures_bind {demand : Except ε β -> σ -> Prop} {next : α -> Program χ σ ε β}
    {between : Except ε α -> σ -> Prop} (first : Ensures between program state)
    (second : ∀ value later, between (.ok value) later -> Ensures demand (next value) later)
    (failing : ∀ error later, between (.error error) later -> demand (.error error) later) :
    Ensures demand (program >>= next) state := by
  induction program generalizing state with
  | finish result =>
    cases result with
    | ok value => exact second value state first
    | error error => exact failing error state first
  | step effect rest ih =>
    intro circumstance
    exact ih circumstance state (first circumstance)

theorem ensures_caught {demand : Except η (Except ε α) -> σ -> Prop}
    (holds : Ensures (fun result => demand (.ok result)) program state) :
    Ensures demand program.caught state := by
  induction program generalizing state with
  | finish result => exact holds
  | step effect next ih =>
    intro circumstance
    exact ih circumstance state (holds circumstance)

theorem ensures_mapError {convert : ε -> η} {demand : Except η α -> σ -> Prop}
    (holds : Ensures (fun result => demand (result.mapError convert)) program state) :
    Ensures demand (program.mapError convert) state := by
  induction program generalizing state with
  | finish result => exact holds
  | step effect next ih =>
    intro circumstance
    exact ih circumstance state (holds circumstance)

theorem ensures_mono {weaker : Except ε α -> σ -> Prop} (holds : Ensures demand program state)
    (weaken : ∀ result later, demand result later -> weaker result later) :
    Ensures weaker program state := by
  induction program generalizing state with
  | finish result => exact weaken result state holds
  | step effect next ih =>
    intro circumstance
    exact ih circumstance state (holds circumstance)

theorem ensures_and {other : Except ε α -> σ -> Prop} (first : Ensures demand program state)
    (second : Ensures other program state) :
    Ensures (fun result later => demand result later /\ other result later) program state := by
  induction program generalizing state with
  | finish result => exact ⟨first, second⟩
  | step effect next ih =>
    intro circumstance
    exact ih circumstance state (first circumstance) (second circumstance)

/-- What is ensured holds of every performance. -/
theorem perform_of_ensures [Inhabited χ] (holds : Ensures demand program state) (choices : List χ) :
    demand (perform program (choices, state)).1 (perform program (choices, state)).2.2 := by
  induction program generalizing state choices with
  | finish result => exact holds
  | step effect next ih =>
    exact ih (choices.headD default) state (holds (choices.headD default)) choices.tail

end Rules

/-! ## Protocols -/

/-- A program follows a protocol when each of its statements is an allowed
move of its role, and its result suits the role it ends in. -/
def Follows {ρ : Type u} (allowed : ρ -> σ -> ρ -> σ -> Prop) (suits : ρ -> Except ε α -> Prop) :
    ρ -> Program χ σ ε α -> Prop
  | role, .finish result => suits role result
  | role, .step effect next =>
    ∀ circumstance state, ∃ later, allowed role state later (effect circumstance state) /\
        Follows allowed suits later (next circumstance state)

section Protocol

variable {ρ : Type u} {allowed : ρ -> σ -> ρ -> σ -> Prop} {suits : ρ -> Except ε α -> Prop}
  {role : ρ} {program : Program χ σ ε α}

theorem follows_finish {result : Except ε α} (holds : suits role result) :
    Follows allowed suits role (.finish result : Program χ σ ε α) := holds

theorem follows_step_iff {effect : χ -> σ -> σ} {next : χ -> σ -> Program χ σ ε α} :
    Follows allowed suits role (.step effect next) ↔ ∀ circumstance state,
      ∃ later, allowed role state later (effect circumstance state) /\
        Follows allowed suits later (next circumstance state) := Iff.rfl

theorem follows_lift {outcome : Except ε α} (holds : suits role outcome) :
    Follows allowed suits role (lift outcome : Program χ σ ε α) := holds

theorem follows_pure {value : α} (holds : suits role (.ok value)) :
    Follows allowed suits role (pure value : Program χ σ ε α) := holds

theorem follows_fail {error : ε} (holds : suits role (.error error)) :
    Follows allowed suits role (fail error : Program χ σ ε α) := holds

theorem follows_atomic {statement : χ -> σ -> Except ε α × σ}
    (moves : ∀ circumstance state, ∃ later,
      allowed role state later (statement circumstance state).2 /\
        suits later (statement circumstance state).1) :
    Follows allowed suits role (atomic statement) := moves

/-- A sequence follows the protocol if its first part does, and its second
part does from every role in which the first may end. -/
theorem follows_bind {suits : ρ -> Except ε β -> Prop} {next : α -> Program χ σ ε β}
    {between : ρ -> Except ε α -> Prop} (first : Follows allowed between role program)
    (second : ∀ later value, between later (.ok value) -> Follows allowed suits later (next value))
    (failing : ∀ later error, between later (.error error) -> suits later (.error error)) :
    Follows allowed suits role (program >>= next) := by
  induction program generalizing role with
  | finish result =>
    cases result with
    | ok value => exact second role value first
    | error error => exact failing role error first
  | step effect rest ih =>
    intro circumstance state
    rcases first circumstance state with ⟨later, move, follows⟩
    exact ⟨later, move, ih circumstance state follows⟩

theorem follows_caught {η : Type u} {suits : ρ -> Except η (Except ε α) -> Prop}
    (follows : Follows allowed (fun later result => suits later (.ok result)) role program) :
    Follows allowed suits role program.caught := by
  induction program generalizing role with
  | finish result => exact follows
  | step effect next ih =>
    intro circumstance state
    rcases follows circumstance state with ⟨later, move, rest⟩
    exact ⟨later, move, ih circumstance state rest⟩

theorem follows_mono {weaker : ρ -> Except ε α -> Prop}
    (follows : Follows allowed suits role program)
    (weaken : ∀ later result, suits later result -> weaker later result) :
    Follows allowed weaker role program := by
  induction program generalizing role with
  | finish result => exact weaken role result follows
  | step effect next ih =>
    intro circumstance state
    rcases follows circumstance state with ⟨later, move, rest⟩
    exact ⟨later, move, ih circumstance state rest⟩

/-- A program that follows a protocol ensures what the moves preserve. -/
theorem ensures_of_follows {invariant : ρ -> σ -> Prop} {state : σ}
    (preserved : ∀ role state later after, invariant role state ->
      allowed role state later after -> invariant later after)
    (follows : Follows allowed suits role program) (initially : invariant role state) :
    Ensures (fun _ final => ∃ later, invariant later final) program state := by
  induction program generalizing role state with
  | finish result => exact ⟨role, initially⟩
  | step effect next ih =>
    intro circumstance
    rcases follows circumstance state with ⟨later, move, rest⟩
    exact ih circumstance state rest (preserved role state later _ initially move)

end Protocol

end Program

/-! ## Interleavings -/

/-- Programs that share a state. -/
structure Pool (ι χ σ ε α : Type u) where
  shared : σ
  threads : ι -> Program χ σ ε α

/-- What one statement of one program did to the shared state. -/
structure Transition (ι σ : Type u) where
  thread : ι
  (before after : σ)

namespace Pool

variable {ι χ σ ε α : Type u} [DecidableEq ι]

/-- The next statement of one program.  A finished program does nothing. -/
def step (pool : Pool ι χ σ ε α) (move : ι × χ) : Pool ι χ σ ε α :=
  match pool.threads move.1 with
  | .finish _ => pool
  | .step effect next =>
    { shared := effect move.2 pool.shared
      threads := Function.update pool.threads move.1 (next move.2 pool.shared) }

/-- The transitions of a schedule, in order. -/
def trace (pool : Pool ι χ σ ε α) : List (ι × χ) -> List (Transition ι σ)
  | [] => []
  | move :: rest =>
    ⟨move.1, pool.shared, (pool.step move).shared⟩ :: trace (pool.step move) rest

/-- Every program follows the protocol in its role. -/
def Follow {ρ : Type u} (allowed : ι -> ρ -> σ -> ρ -> σ -> Prop) (roles : ι -> ρ)
    (pool : Pool ι χ σ ε α) : Prop :=
  ∀ thread, (pool.threads thread).Follows (allowed thread) (fun _ _ => True) (roles thread)

variable {ρ : Type u} {allowed : ι -> ρ -> σ -> ρ -> σ -> Prop} {roles : ι -> ρ}
  {pool : Pool ι χ σ ε α}

theorem step_of_finish {move : ι × χ} {result : Except ε α}
    (program : pool.threads move.1 = .finish result) : pool.step move = pool := by
  unfold step
  rw [program]

theorem step_of_step {move : ι × χ} {effect : χ -> σ -> σ} {next : χ -> σ -> Program χ σ ε α}
    (program : pool.threads move.1 = .step effect next) : pool.step move =
      { shared := effect move.2 pool.shared
        threads := Function.update pool.threads move.1 (next move.2 pool.shared) } := by
  unfold step
  rw [program]

/-- One statement of one program is one allowed move. -/
theorem follow_step (follow : pool.Follow allowed roles) {move : ι × χ} :
    (pool.step move).Follow allowed roles /\ (pool.step move).shared = pool.shared \/ ∃ later,
        allowed move.1 (roles move.1) pool.shared later (pool.step move).shared /\
          (pool.step move).Follow allowed (Function.update roles move.1 later) := by
  have ofMover := follow move.1
  cases program : pool.threads move.1 with
  | finish result =>
    left
    rw [step_of_finish program]
    exact ⟨follow, rfl⟩
  | step effect next =>
    right
    rw [program] at ofMover
    rcases ofMover move.2 pool.shared with ⟨later, allows, rest⟩
    rw [step_of_step program]
    refine ⟨later, allows, ?_⟩
    intro thread
    by_cases moved : thread = move.1
    · subst moved
      simp only [Function.update_self]
      exact rest
    · simp only [Function.update_of_ne moved]
      exact follow thread

/-- What every allowed move preserves, given the transitions so far, holds
of every interleaving. -/
theorem trace_invariant {invariant : List (Transition ι σ) -> (ι -> ρ) -> σ -> Prop}
    (rests : ∀ past roles state thread, invariant past roles state ->
      invariant (past ++ [⟨thread, state, state⟩]) roles state)
    (preserved : ∀ past roles state thread later after, invariant past roles state ->
      allowed thread (roles thread) state later after ->
        invariant (past ++ [⟨thread, state, after⟩]) (Function.update roles thread later) after)
    {past : List (Transition ι σ)} (follow : pool.Follow allowed roles)
    (initially : invariant past roles pool.shared) {schedule : List (ι × χ)} :
    ∃ finalRoles final, invariant (past ++ pool.trace schedule) finalRoles final := by
  induction schedule generalizing past roles pool with
  | nil =>
    refine ⟨roles, pool.shared, ?_⟩
    rw [trace, List.append_nil]
    exact initially
  | cons move rest ih =>
    have split : past ++ pool.trace (move :: rest) =
        (past ++ [⟨move.1, pool.shared, (pool.step move).shared⟩]) ++
          (pool.step move).trace rest := by
      rw [trace, List.append_assoc, List.singleton_append]
    rw [split]
    rcases follow_step follow with ⟨stillFollow, unchanged⟩ | ⟨later, allows, stillFollow⟩
    · apply ih stillFollow
      rw [unchanged]
      exact rests past roles pool.shared move.1 initially
    · exact ih stillFollow (preserved past roles pool.shared move.1 later _ initially allows)

/-- What every allowed move preserves that meets a condition holds after each step
of an interleaving whose steps all meet it. -/
theorem trace_of_condition {condition : Transition ι σ -> Prop} {invariant : (ι -> ρ) -> σ -> Prop}
    (preserved : ∀ roles state thread later after, invariant roles state ->
      allowed thread (roles thread) state later after -> condition ⟨thread, state, after⟩ ->
        invariant (Function.update roles thread later) after) (follow : pool.Follow allowed roles)
    (initially : invariant roles pool.shared) {schedule : List (ι × χ)}
    (meets : ∀ transition, transition ∈ pool.trace schedule -> condition transition) :
    ∀ transition, transition ∈ pool.trace schedule ->
      ∃ reached, invariant reached transition.after := by
  induction schedule generalizing pool roles with
  | nil =>
    intro transition member
    cases member
  | cons move rest ih =>
    have here := meets _ List.mem_cons_self
    have later : ∀ transition, transition ∈ (pool.step move).trace rest -> condition transition :=
      fun transition member => meets transition (List.mem_cons_of_mem _ member)
    intro transition member
    rcases follow_step follow with ⟨stillFollow, unchanged⟩ | ⟨next, allows, stillFollow⟩
    · have still : invariant roles (pool.step move).shared := by
        rw [unchanged]
        exact initially
      rcases List.mem_cons.mp member with first | other
      · rw [first]
        exact ⟨roles, still⟩
      · exact ih stillFollow still later transition other
    · have moved := preserved roles pool.shared move.1 next _ initially allows here
      rcases List.mem_cons.mp member with first | other
      · rw [first]
        exact ⟨_, moved⟩
      · exact ih stillFollow moved later transition other

end Pool

-- The rules above are the interface; without this, applying one of them
-- unfolds the whole program to look for quantifiers in front of the goal.
attribute [irreducible] Program.Follows Program.Ensures

end LoongClaw.Foundation
