namespace LoongClaw.Foundation

/-!
# Stateful computations that keep their state when they fail

A failing step ends the computation but what it and the earlier steps did to
the state stays, which is how a method with interior mutability returns an
error.
-/

universe u v

/-- A computation on states `σ` that returns a value or an error. -/
def Attempt (σ ε : Type u) (α : Type u) : Type u :=
  σ -> Except ε α × σ

namespace Attempt

variable {σ ε α β : Type u}

protected def pure (value : α) : Attempt σ ε α :=
  fun state => (.ok value, state)

protected def bind (first : Attempt σ ε α) (next : α -> Attempt σ ε β) : Attempt σ ε β :=
  fun state =>
    match first state with
    | (.ok value, later) => next value later
    | (.error error, later) => (.error error, later)

instance : Monad (Attempt σ ε) where
  pure := Attempt.pure
  bind := Attempt.bind

instance : LawfulMonad (Attempt σ ε) :=
  LawfulMonad.mk' _ (by
      intro α computation
      funext state
      show Attempt.bind computation (fun value => Attempt.pure value) state = computation state
      unfold Attempt.bind
      split
      case h_1 _ _ _ succeeds => exact succeeds.symm
      case h_2 _ _ _ fails => exact fails.symm)
    (by
      intro α β value next
      rfl)
    (by
      intro α β γ first second third
      funext state
      show Attempt.bind (Attempt.bind first second) third state =
        Attempt.bind first (fun value => Attempt.bind (second value) third) state
      unfold Attempt.bind
      cases first state with
      | mk outcome later => cases outcome <;> rfl)

/-- Read the state. -/
def read : Attempt σ ε σ :=
  fun state => (.ok state, state)

/-- Run a computation whose outcome is already decided. -/
def lift (outcome : Except ε α) : Attempt σ ε α :=
  fun state => (outcome, state)

def fail (error : ε) : Attempt σ ε α :=
  lift (.error error)

@[simp] theorem read_apply {state : σ} : (read : Attempt σ ε σ) state = (.ok state, state) := rfl

@[simp] theorem lift_apply {outcome : Except ε α} {state : σ} :
    lift outcome state = (outcome, state) := rfl

theorem bind_apply (first : Attempt σ ε α) (next : α -> Attempt σ ε β) (state : σ) :
    (first >>= next) state =
      match first state with
      | (.ok value, later) => next value later
      | (.error error, later) => (.error error, later) := rfl

variable {first : Attempt σ ε α} {state later : σ} {value : α} {next : α -> Attempt σ ε β}
  {outcome : Except ε α} {goal : β -> Prop}

theorem bind_ok (succeeds : first state = (.ok value, later)) (next : α -> Attempt σ ε β) :
    (first >>= next) state = next value later := by
  rw [bind_apply, succeeds]

theorem bind_error {error : ε} (fails : first state = (.error error, later))
    (next : α -> Attempt σ ε β) : (first >>= next) state = (.error error, later) := by
  rw [bind_apply, fails]

/-- A sequence that succeeds has a successful first part. -/
theorem bind_eq_ok {result : β} (succeeds : (first >>= next) state = (.ok result, later)) :
    ∃ value between,
      first state = (.ok value, between) /\ next value between = (.ok result, later) := by
  rw [bind_apply] at succeeds
  split at succeeds
  case h_1 value between ran => exact ⟨value, between, ran, succeeds⟩
  case h_2 error between failed =>
      have impossible := (Prod.mk.inj succeeds).1
      cases impossible

/-- A last step that keeps the state adds nothing to what the first one did. -/
theorem bind_state_of_keeps (keeps : ∀ value state, (next value state).2 = state) {state : σ} :
    ((first >>= next) state).2 = (first state).2 := by
  rw [bind_apply]
  split
  case h_1 value later succeeds => rw [keeps, succeeds]
  case h_2 error later fails => rw [fails]

/-! ### Invariants -/

/-- From states that satisfy the invariant, the computation ends in one, and
the values that it returns satisfy the condition. -/
def Keeps (invariant : σ -> Prop) (condition : α -> Prop) (computation : Attempt σ ε α) : Prop :=
  ∀ state, invariant state -> invariant (computation state).2 /\
      ∀ value, (computation state).1 = .ok value -> condition value

variable {invariant : σ -> Prop} {condition : α -> Prop}

theorem keeps_pure (holds : condition value) :
    Keeps invariant condition (pure value : Attempt σ ε α) := by
  intro state initially
  refine ⟨initially, ?_⟩
  intro result same
  cases same
  exact holds

theorem keeps_lift (holds : ∀ value, outcome = .ok value ->
    condition value) : Keeps invariant condition (lift outcome : Attempt σ ε α) := by
  intro state initially
  exact ⟨initially, holds⟩

theorem keeps_bind (between : α -> Prop) (before : Keeps invariant between first)
    (after : ∀ value, between value -> Keeps invariant goal (next value)) :
    Keeps invariant goal (first >>= next) := by
  intro state initially
  rcases before state initially with ⟨kept, returns⟩
  rw [bind_apply]
  cases outcome : first state with
  | mk result later =>
    rw [outcome] at kept returns
    cases result with
    | ok value => exact after value (returns value rfl) later kept
    | error error => exact ⟨kept, nofun⟩

theorem keeps_lift_bind
    (after : ∀ value, outcome = .ok value -> Keeps invariant goal (next value)) :
    Keeps invariant goal (lift outcome >>= next) :=
  keeps_bind (fun value => outcome = .ok value) (keeps_lift fun _ same => same) after

theorem keeps_read_bind {next : σ -> Attempt σ ε β}
    (after : ∀ state, Keeps invariant goal (next state)) :
    Keeps invariant goal (read >>= next) := by
  intro state initially
  exact after state state initially

end Attempt

/-! ## Computations without a state -/

namespace Fallible

variable {ε : Type u} {α β : Type v}

/-- The value, or the given error if there is none. -/
def okOr (value : Option α) (error : ε) : Except ε α :=
  match value with
  | some present => .ok present
  | none => .error error

variable {value : Option α} {error : ε} {result : α} {η : Type u} {first : Except ε α}
  {next : α -> Except ε β}

theorem okOr_eq_ok_iff : okOr value error = .ok result ↔ value = some result := by
  cases value with
  | none =>
    constructor
    · intro impossible
      cases impossible
    · intro impossible
      cases impossible
  | some present =>
    constructor
    · intro same
      rw [Except.ok.inj same]
    · intro same
      rw [Option.some.inj same]
      rfl

/-- Nothing is demanded of the value of a failure. -/
theorem of_failure {goal : α -> Prop} (value : α)
    (impossible : (.error error : Except ε α) = .ok value) : goal value := by
  cases impossible

theorem mapError_eq_ok_iff {convert : ε -> η} {outcome : Except ε α} :
    outcome.mapError convert = .ok result ↔ outcome = .ok result := by
  cases outcome with
  | error error => exact ⟨nofun, nofun⟩
  | ok value =>
    constructor
    · intro same
      exact congrArg Except.ok (Except.ok.inj same)
    · intro same
      exact congrArg Except.ok (Except.ok.inj same)

theorem ok_bind {value : α} {next : α -> Except ε β} :
    ((.ok value : Except ε α) >>= next) = next value := rfl

/-- A sequence succeeds exactly when each part does. -/
theorem bind_eq_ok_iff {result : β} : (first >>= next) = .ok result ↔
      ∃ value, first = .ok value /\ next value = .ok result := by
  cases first with
  | error error =>
    constructor
    · intro impossible
      cases impossible
    · rintro ⟨_, impossible, _⟩
      cases impossible
  | ok value =>
    constructor
    · intro succeeds
      exact ⟨value, rfl, succeeds⟩
    · rintro ⟨_, same, succeeds⟩
      cases same
      exact succeeds

end Fallible

end LoongClaw.Foundation
