import LoongClaw.Foundation.Machine
import LoongClaw.Foundation.Program

namespace LoongClaw.Foundation

/-!
# Rely and guarantee

Programs in a pool interfere with each other.  A program respects a relation
when each of its statements does, from every state.  It secures a guarantee
when each of its statements gives it, as long as the other programs keep to
what it relies on; here a statement may use what the program has seen before.

If every program of a pool secures the same guarantee, and relies on no more
than that, then every interleaving keeps it.
-/

universe u

namespace Program

variable {χ σ ε α β : Type u}

/-- Perform a program until the circumstances cut it off. -/
def cutOff {κ η : Type u} (cut : χ -> Option κ) : Program χ σ ε α -> Program χ σ η (κ ⊕ Except ε α)
  | .finish result => .finish (.ok (.inr result))
  | .step effect next =>
    .step (fun circumstance state =>
        match cut circumstance with
        | some _ => state
        | none => effect circumstance state)
      (fun circumstance state =>
        match cut circumstance with
        | some reason => .finish (.ok (.inl reason))
        | none => cutOff cut (next circumstance state))

/-! ## Respect -/

/-- Every statement relates the state before to the state after. -/
def Respects (related : σ -> σ -> Prop) : Program χ σ ε α -> Prop
  | .finish _ => True
  | .step effect next => ∀ circumstance state,
      related state (effect circumstance state) /\ Respects related (next circumstance state)

section Respect

variable {related : σ -> σ -> Prop}

theorem respects_step_iff {effect : χ -> σ -> σ} {next : χ -> σ -> Program χ σ ε α} :
    Respects related (.step effect next) ↔ ∀ circumstance state,
      related state (effect circumstance state) /\ Respects related (next circumstance state) :=
  Iff.rfl

theorem respects_lift {outcome : Except ε α} :
    Respects related (lift outcome : Program χ σ ε α) := True.intro

theorem respects_pure (value : α) : Respects related (pure value : Program χ σ ε α) := True.intro

theorem respects_fail (error : ε) : Respects related (fail error : Program χ σ ε α) := True.intro

theorem respects_atomic {statement : χ -> σ -> Except ε α × σ}
    (relates : ∀ circumstance state, related state (statement circumstance state).2) :
    Respects related (atomic statement) :=
  fun circumstance state => ⟨relates circumstance state, True.intro⟩

variable {program : Program χ σ ε α} {next : α -> Program χ σ ε β} {η : Type u}

theorem respects_bind (first : Respects related program)
    (second : ∀ value, Respects related (next value)) :
    Respects related (program >>= next) := by
  induction program with
  | finish result =>
    cases result with
    | ok value => exact second value
    | error error => exact True.intro
  | step effect rest ih =>
    intro circumstance state
    exact ⟨(first circumstance state).1, ih circumstance state (first circumstance state).2⟩

theorem respects_map {apply : α -> β} (first : Respects related program) :
    Respects related (program >>= fun value => pure (apply value)) :=
  respects_bind first fun _ => respects_pure _

/-- What comes after a decided outcome may use it. -/
theorem respects_lift_bind {outcome : Except ε α}
    (second : ∀ value, outcome = .ok value -> Respects related (next value)) :
    Respects related (lift outcome >>= next) := by
  cases outcome with
  | ok value => exact second value rfl
  | error error => exact True.intro

theorem respects_caught (respects : Respects related program) :
    Respects related (program.caught : Program χ σ η (Except ε α)) := by
  induction program with
  | finish result => exact True.intro
  | step effect next ih =>
    intro circumstance state
    exact ⟨(respects circumstance state).1, ih circumstance state (respects circumstance state).2⟩

theorem respects_cutOff {κ : Type u} {cut : χ -> Option κ}
    (reflexive : ∀ state, related state state) (respects : Respects related program) :
    Respects related (cutOff cut program : Program χ σ η (κ ⊕ Except ε α)) := by
  induction program with
  | finish result => exact True.intro
  | step effect next ih =>
    rw [cutOff, Respects]
    intro circumstance state
    cases reason : cut circumstance with
    | some _ => exact ⟨reflexive state, True.intro⟩
    | none =>
      exact ⟨(respects circumstance state).1, ih circumstance state (respects circumstance state).2⟩

/-- A program whose statements are all moves that keep a role keeps the role. -/
theorem follows_of_respects {ρ : Type u} {allowed : ρ -> σ -> ρ -> σ -> Prop} {role : ρ}
    (moves : ∀ before after, related before after -> allowed role before role after)
    (respects : Respects related program) :
    Follows allowed (fun later _ => later = role) role program := by
  induction program with
  | finish result => exact follows_finish rfl
  | step effect next ih =>
    refine follows_step_iff.mpr fun circumstance state => ?_
    have here := respects circumstance state
    exact ⟨role, moves _ _ here.1, ih circumstance state here.2⟩

theorem respects_mono {weaker : σ -> σ -> Prop} (respects : Respects related program)
    (weaken : ∀ before after, related before after -> weaker before after) :
    Respects weaker program := by
  induction program with
  | finish result => exact True.intro
  | step effect next ih =>
    intro circumstance state
    exact ⟨weaken _ _ (respects circumstance state).1,
      ih circumstance state (respects circumstance state).2⟩

end Respect

/-! ## Guarantees -/

/-- From a state, if others keep to `rely`, every statement keeps to
`guarantee` and the program ends as demanded. -/
def Secures (rely guarantee : σ -> σ -> Prop) (demand : Except ε α -> σ -> Prop) :
    Program χ σ ε α -> σ -> Prop
  | .finish result, state => ∀ later, rely state later -> demand result later
  | .step effect next, state => ∀ later, rely state later -> ∀ circumstance,
      guarantee later (effect circumstance later) /\
        Secures rely guarantee demand (next circumstance later) (effect circumstance later)

/-- A relation that interference keeps. -/
structure Interference (rely : σ -> σ -> Prop) : Prop where
  refl : ∀ state, rely state state
  trans : ∀ {first second third}, rely first second -> rely second third -> rely first third

/-- A program that respects such a relation relates its start to its end. -/
theorem ensures_of_respects {related : σ -> σ -> Prop} (interference : Interference related)
    {program : Program χ σ ε α} (respects : Respects related program) (state : σ) :
    Ensures (fun _ later => related state later) program state := by
  suffices holds : ∀ start, related start state ->
      Ensures (fun _ later => related start later) program state from
    holds state (interference.refl state)
  induction program generalizing state with
  | finish result => exact fun _ reached => ensures_lift reached
  | step effect next ih =>
    intro start reached
    refine ensures_step_iff.mpr fun circumstance => ?_
    have moved := respects circumstance state
    exact ih circumstance state moved.2 _ start (interference.trans reached moved.1)

section Guarantee

variable {rely guarantee : σ -> σ -> Prop} {demand : Except ε α -> σ -> Prop}
  {program : Program χ σ ε α} {state : σ}

theorem secures_later (interference : Interference rely)
    (secures : Secures rely guarantee demand program state) {later : σ}
    (interfered : rely state later) : Secures rely guarantee demand program later := by
  cases program with
  | finish | step =>
    intro final after
    exact secures final (interference.trans interfered after)

theorem secures_finish {result : Except ε α}
    (holds : ∀ later, rely state later -> demand result later) :
    Secures rely guarantee demand (.finish result : Program χ σ ε α) state := holds

theorem secures_atomic {statement : χ -> σ -> Except ε α × σ}
    (holds : ∀ later, rely state later -> ∀ circumstance,
      guarantee later (statement circumstance later).2 /\
        ∀ final, rely (statement circumstance later).2 final ->
          demand (statement circumstance later).1 final) :
    Secures rely guarantee demand (atomic statement) state := holds

theorem secures_bind (interference : Interference rely) {demand : Except ε β -> σ -> Prop}
    {next : α -> Program χ σ ε β} {between : Except ε α -> σ -> Prop}
    (first : Secures rely guarantee between program state)
    (second : ∀ value later, between (.ok value) later ->
      Secures rely guarantee demand (next value) later)
    (failing : ∀ error later, between (.error error) later -> demand (.error error) later) :
    Secures rely guarantee demand (program >>= next) state := by
  induction program generalizing state with
  | finish result =>
    cases result with
    | ok value => exact second value state (first state (interference.refl state))
    | error error =>
      intro later interfered
      exact failing error later (first later interfered)
  | step effect rest ih =>
    intro later interfered circumstance
    exact ⟨(first later interfered circumstance).1,
      ih circumstance later (first later interfered circumstance).2⟩

theorem secures_mono {weaker : Except ε α -> σ -> Prop}
    (secures : Secures rely guarantee demand program state)
    (weaken : ∀ result later, demand result later -> weaker result later) :
    Secures rely guarantee weaker program state := by
  induction program generalizing state with
  | finish result =>
    intro later interfered
    exact weaken result later (secures later interfered)
  | step effect next ih =>
    intro later interfered circumstance
    exact ⟨(secures later interfered circumstance).1,
      ih circumstance later (secures later interfered circumstance).2⟩

theorem secures_caught {η : Type u} {demand : Except η (Except ε α) -> σ -> Prop}
    (secures : Secures rely guarantee (fun result => demand (.ok result)) program state) :
    Secures rely guarantee demand program.caught state := by
  induction program generalizing state with
  | finish result => exact secures
  | step effect next ih =>
    intro later interfered circumstance
    exact ⟨(secures later interfered circumstance).1,
      ih circumstance later (secures later interfered circumstance).2⟩

/-- A program that is cut off keeps the guarantee, though not its demand. -/
theorem secures_cutOff {κ η : Type u} {cut : χ -> Option κ}
    (reflexive : ∀ state, guarantee state state)
    (secures : Secures rely guarantee demand program state) :
    Secures rely guarantee (fun _ _ => True)
      (cutOff cut program : Program χ σ η (κ ⊕ Except ε α)) state := by
  induction program generalizing state with
  | finish result => exact fun _ _ => True.intro
  | step effect next ih =>
    rw [cutOff, Secures]
    intro later interfered circumstance
    cases reason : cut circumstance with
    | some _ => exact ⟨reflexive later, fun _ _ => True.intro⟩
    | none =>
      exact ⟨(secures later interfered circumstance).1,
        ih circumstance later (secures later interfered circumstance).2⟩

/-- Respect of a guarantee needs no knowledge of the state. -/
theorem secures_of_respects (respects : Respects guarantee program) (state : σ) :
    Secures rely guarantee (fun _ _ => True) program state := by
  induction program generalizing state with
  | finish result => exact fun _ _ => True.intro
  | step effect next ih =>
    intro later _ circumstance
    exact ⟨(respects circumstance later).1, ih circumstance later (respects circumstance later).2 _⟩

/-- Without interference the program ends as demanded. -/
theorem ensures_of_secures (reflexive : ∀ state, rely state state)
    (secures : Secures rely guarantee demand program state) : Ensures demand program state := by
  induction program generalizing state with
  | finish result => exact ensures_lift (secures state (reflexive state))
  | step effect next ih =>
    refine ensures_step_iff.mpr fun circumstance => ?_
    exact ih circumstance state (secures state (reflexive state) circumstance).2

/-- What interference cannot take away stays known. -/
theorem secures_with {known : σ -> Prop}
    (stable : ∀ {before after}, known before -> rely before after -> known after)
    (relied : ∀ before after, guarantee before after -> rely before after)
    (secures : Secures rely guarantee demand program state) (holds : known state) :
    Secures rely guarantee (fun result later => demand result later /\ known later) program
      state := by
  induction program generalizing state with
  | finish result =>
    intro later interfered
    exact ⟨secures later interfered, stable holds interfered⟩
  | step effect next ih =>
    intro later interfered circumstance
    have kept := secures later interfered circumstance
    exact ⟨kept.1,
      ih circumstance later kept.2 (stable (stable holds interfered) (relied _ _ kept.1))⟩

end Guarantee

end Program

/-! ## Interleavings -/

namespace Pool

open Program

variable {ι χ σ ε α : Type u} {rely guarantee : σ -> σ -> Prop}

/-- Every program of the pool secures the guarantee. -/
def Secured (rely guarantee : σ -> σ -> Prop) (pool : Pool ι χ σ ε α) : Prop :=
  ∀ thread, (pool.threads thread).Secures rely guarantee (fun _ _ => True) pool.shared

variable {pool : Pool ι χ σ ε α}

/-- Programs that respect the guarantee secure it. -/
theorem secured_of_respects (respects : ∀ thread, (pool.threads thread).Respects guarantee) :
    pool.Secured rely guarantee :=
  fun thread => secures_of_respects (respects thread) pool.shared

variable [DecidableEq ι]

/-- The pool after a schedule. -/
def run (pool : Pool ι χ σ ε α) (schedule : List (ι × χ)) : Pool ι χ σ ε α :=
  Machine.run step pool schedule

theorem run_append (pool : Pool ι χ σ ε α) (first second : List (ι × χ)) :
    pool.run (first ++ second) = (pool.run first).run second :=
  Machine.run_append step pool first second

section

variable (interference : Interference rely)
  (relied : ∀ before after, guarantee before after -> rely before after)
  (secured : pool.Secured rely guarantee)

include interference relied secured

/-- One statement of one program gives the guarantee, and the pool stays
secured. -/
theorem secured_step {move : ι × χ} : (pool.step move).Secured rely guarantee /\
      ((pool.step move).shared = pool.shared \/ guarantee pool.shared (pool.step move).shared) := by
  have ofMover := secured move.1
  cases program : pool.threads move.1 with
  | finish result =>
    rw [step_of_finish program]
    exact ⟨secured, Or.inl rfl⟩
  | step effect next =>
    rw [program] at ofMover
    have moved := ofMover pool.shared (interference.refl pool.shared) move.2
    rw [step_of_step program]
    refine ⟨?_, Or.inr moved.1⟩
    intro thread
    by_cases mover : thread = move.1
    · subst mover
      simp only [Function.update_self]
      exact moved.2
    · simp only [Function.update_of_ne mover]
      exact secures_later interference (secured thread) (relied _ _ moved.1)

/-- Every interleaving of a secured pool keeps what the guarantee keeps. -/
theorem secured_run (schedule : List (ι × χ)) :
    (pool.run schedule).Secured rely guarantee /\ rely pool.shared (pool.run schedule).shared := by
  induction schedule generalizing pool with
  | nil => exact ⟨secured, interference.refl pool.shared⟩
  | cons move rest ih =>
    rcases secured_step interference relied secured with ⟨stillSecured, moved⟩
    rcases ih stillSecured with ⟨secured, related⟩
    refine ⟨secured, interference.trans ?_ related⟩
    rcases moved with same | guaranteed
    · rw [same]
      exact interference.refl pool.shared
    · exact relied _ _ guaranteed

end

end Pool

-- As for the other judgements of programs, the rules are the interface.
attribute [irreducible] Program.Respects Program.Secures

end LoongClaw.Foundation
