import LoongClaw.Foundation.Attempt

namespace LoongClaw.Foundation

/-!
# Loops of stateful computations

The body of a loop either asks for another round or ends the loop.  A loop is
run for a number of rounds; a measure that every further round lowers bounds
the rounds that it begins.
-/

universe u

/-- How a round of a loop ends. -/
inductive Control (ι β : Type u) where
  | again (next : ι)
  | done (result : β)

namespace Loop

variable {σ ε ι β : Type u} (body : ι -> Attempt σ ε (Control ι β))

/-- At most the given number of rounds; `none` if the loop has not ended by
then. -/
def run : Nat -> ι -> Attempt σ ε (Option β)
  | 0, _ => pure none
  | fuel + 1, round => do
    match <- body round with
    | .again next => run fuel next
    | .done result => pure (some result)

/-- The rounds that are begun, each with the state that it begins in. -/
def rounds : Nat -> ι -> σ -> List (ι × σ)
  | 0, _, _ => []
  | fuel + 1, round, state =>
    (round, state) ::
      match body round state with
      | (.ok (.again next), later) => rounds fuel next later
      | _ => []

variable {body}

/-- What holds of the first round and carries over to every further one holds
of all rounds. -/
theorem rounds_forall {good : ι -> σ -> Prop}
    (carries : ∀ round state next later, good round state ->
      body round state = (.ok (.again next), later) -> good next later)
    (fuel : Nat) {round : ι} {state : σ} (first : good round state) :
    ∀ entry, entry ∈ rounds body fuel round state -> good entry.1 entry.2 := by
  induction fuel generalizing round state with
  | zero =>
    intro entry member
    cases member
  | succ fuel ih =>
    intro entry member
    rcases List.mem_cons.mp member with same | later
    · rw [same]
      exact first
    · split at later
      case h_1 next after ran => exact ih (carries round state next after first ran) entry later
      case h_2 => cases later

/-- What holds of the first round with no round before it, and carries over
from each round to the next with that round before it, holds of every round
and the rounds before it. -/
theorem rounds_history {good : List (ι × σ) -> ι -> σ -> Prop}
    (carries : ∀ before round state next later, good before round state ->
      body round state = (.ok (.again next), later) -> good (before ++ [(round, state)]) next later)
    (fuel : Nat) {past : List (ι × σ)} {round : ι} {state : σ} (first : good past round state) :
    ∀ before entry after, rounds body fuel round state = before ++ entry :: after ->
      good (past ++ before) entry.1 entry.2 := by
  induction fuel generalizing past round state with
  | zero =>
    intro before entry after split
    cases before <;> cases split
  | succ fuel ih =>
    intro before entry after split
    cases before with
    | nil =>
      cases split
      rw [List.append_nil]
      exact first
    | cons head before =>
      rcases List.cons.inj split with ⟨same, rest⟩
      split at rest
      case h_1 next later ran =>
        have reached := ih (carries past round state next later first ran) before entry after rest
        rw [List.append_assoc, List.singleton_append, same] at reached
        exact reached
      case h_2 => cases before <;> cases rest

/-- The round that ended a loop. -/
theorem run_done {good : ι -> σ -> Prop} (carries : ∀ round state next later, good round state ->
      body round state = (.ok (.again next), later) -> good next later)
    (fuel : Nat) {round : ι} {state later : σ} {result : β} (first : good round state)
    (ran : run body fuel round state = (.ok (some result), later)) :
    ∃ last before, good last before /\ body last before = (.ok (.done result), later) := by
  induction fuel generalizing round state with
  | zero => cases ran
  | succ fuel ih =>
    unfold run at ran
    rcases ended : body round state with ⟨outcome, after⟩
    cases outcome with
    | error error =>
      rw [Attempt.bind_error ended] at ran
      cases ran
    | ok control =>
      rw [Attempt.bind_ok ended] at ran
      cases control with
      | again next => exact ih (carries round state next after first ended) ran
      | done value =>
        cases ran
        exact ⟨round, state, first, ended⟩

/-- Every further round lowers the measure. -/
def Decreasing (body : ι -> Attempt σ ε (Control ι β)) (measure : ι -> Nat) : Prop :=
  ∀ round state next later, body round state = (.ok (.again next), later) ->
    measure next < measure round

variable {measure : ι -> Nat}

theorem Decreasing.rounds_length_le (decreasing : Decreasing body measure) (fuel : Nat) (round : ι)
    (state : σ) : (rounds body fuel round state).length <= measure round + 1 := by
  induction fuel generalizing round state with
  | zero => exact Nat.zero_le _
  | succ fuel ih =>
    apply Nat.succ_le_succ
    split
    case h_1 next after ran =>
      exact Nat.le_trans (ih next after) (decreasing round state next after ran)
    case h_2 => exact Nat.zero_le _

/-- A loop with more rounds than its measure ends. -/
theorem Decreasing.run_ends (decreasing : Decreasing body measure) (fuel : Nat) {round : ι}
    (state : σ) (enough : measure round < fuel) : (run body fuel round state).1 ≠ .ok none := by
  induction fuel generalizing round state with
  | zero => cases enough
  | succ fuel ih =>
    intro exhausted
    unfold run at exhausted
    rcases ran : body round state with ⟨result, later⟩
    cases result with
    | error error =>
      rw [Attempt.bind_error ran] at exhausted
      cases exhausted
    | ok control =>
      rw [Attempt.bind_ok ran] at exhausted
      cases control with
      | again next =>
        have lower := decreasing round state next later ran
        exact ih later (by omega) exhausted
      | done value => cases exhausted

end Loop

end LoongClaw.Foundation
