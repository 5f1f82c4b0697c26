import LoongClaw.Foundation.RelyGuarantee

namespace LoongClaw.Foundation

/-!
# Programs that schedule programs

A program may run others beside each other, one statement of one of them at a
time.  The circumstances of a statement pick the program that moves.
-/

universe u

namespace Program

variable {χ σ ε η κ α β : Type u}

/-- Let the picked program do its next statement.  A program that comes to its
end is taken out and handed over. -/
def advance (pick : χ -> Nat) (programs : List (κ × Program χ σ ε α))
    (resume : List (κ × Program χ σ ε α) -> Program χ σ η β)
    (complete : κ -> Except ε α -> List (κ × Program χ σ ε α) -> Program χ σ η β) :
    Program χ σ η β :=
  .step (fun circumstance state =>
      match programs[pick circumstance % programs.length]? with
      | some (_, .step effect _) => effect circumstance state
      | _ => state)
    (fun circumstance state =>
      let index := pick circumstance % programs.length
      match programs[index]? with
      | none => resume programs
      | some (label, .finish result) => complete label result (programs.eraseIdx index)
      | some (label, .step _ next) =>
        match next circumstance state with
        | .finish result => complete label result (programs.eraseIdx index)
        | .step effect later => resume (programs.set index (label, .step effect later)))

/-- A scheduler respects what all its programs respect. -/
theorem respects_advance {related : σ -> σ -> Prop} (reflexive : ∀ state, related state state)
    {pick : χ -> Nat} {programs : List (κ × Program χ σ ε α)}
    {resume : List (κ × Program χ σ ε α) -> Program χ σ η β}
    {complete : κ -> Except ε α -> List (κ × Program χ σ ε α) -> Program χ σ η β}
    (respects : ∀ entry, entry ∈ programs -> entry.2.Respects related)
    (resumed : ∀ later, (∀ entry, entry ∈ later -> entry.2.Respects related) ->
      (resume later).Respects related)
    (completed : ∀ label result rest, (∀ entry, entry ∈ rest -> entry.2.Respects related) ->
        (complete label result rest).Respects related) :
    (advance pick programs resume complete).Respects related := by
  refine respects_step_iff.mpr ?_
  intro circumstance state
  have others : ∀ entry, entry ∈ programs.eraseIdx (pick circumstance % programs.length) ->
        entry.2.Respects related :=
    fun entry member => respects entry (List.mem_of_mem_eraseIdx member)
  cases picked : programs[pick circumstance % programs.length]? with
  | none =>
    simp only [picked]
    exact ⟨reflexive state, resumed programs respects⟩
  | some entry =>
    have ofPicked := respects entry (List.mem_of_getElem? picked)
    rcases entry with ⟨label, program⟩
    cases program with
    | finish result =>
      simp only [picked]
      exact ⟨reflexive state, completed label result _ others⟩
    | step effect next =>
      simp only [picked]
      have moved := respects_step_iff.mp ofPicked circumstance state
      refine ⟨moved.1, ?_⟩
      cases continued : next circumstance state with
      | finish result => exact completed label result _ others
      | step effect later =>
        refine resumed _ ?_
        intro entry member
        rcases List.mem_or_eq_of_mem_set member with old | new
        · exact respects entry old
        · rw [new, <- continued]
          exact moved.2

end Program

end LoongClaw.Foundation
