import Mathlib.Data.List.Sort

namespace LoongClaw.Foundation

/-!
# Concurrent jobs with an early exit

Jobs are started in order, at most `limit` run at a time, and the next result
is that of any running job.  The first failure ends the collection.  What can
be collected is compared with running the jobs one after the other: without a
failure both give the same outputs, and the failures that may come first are
the first `limit` ones.
-/

universe u v

namespace Completion

/-! ## Orders of completion -/

/-- Since jobs are started in order, the running ones are the first of those
that have not finished. -/
inductive Order {ι : Type u} (limit : Nat) : List ι -> List ι -> Prop where
  | done : Order limit [] []
  | finish {before after order : List ι} {job : ι} (running : before.length < limit)
      (rest : Order limit (before ++ after) order) :
      Order limit (before ++ job :: after) (job :: order)

namespace Order

variable {ι : Type u} {limit : Nat}

theorem perm {jobs order : List ι} (completes : Order limit jobs order) : order.Perm jobs := by
  induction completes with
  | done => exact List.Perm.nil
  | finish _ _ ih => exact (ih.cons _).trans List.perm_middle.symm

/-- Jobs may finish in the order in which they start. -/
theorem self (positive : 0 < limit) (jobs : List ι) : Order limit jobs jobs := by
  induction jobs with
  | nil => exact Order.done
  | cons job rest ih => exact @Order.finish ι limit [] rest rest job positive ih

end Order

/-! ## Outcomes -/

section Outcomes

variable {ε : Type u} {α : Type v}

def failures (outcomes : List (Except ε α)) : List ε :=
  outcomes.filterMap (fun outcome =>
    match outcome with
    | .ok _ => none
    | .error error => some error)

/-- The outputs of jobs that run one after the other. -/
def sequence : List (Except ε α) -> Except ε (List α)
  | [] => .ok []
  | .ok output :: rest => (sequence rest).map (output :: ·)
  | .error error :: _ => .error error

/-- The results of jobs with an index, up to the first failure. -/
def collect : List (Nat × Except ε α) -> Except ε (List (Nat × α))
  | [] => .ok []
  | (index, .ok output) :: rest => (collect rest).map ((index, output) :: ·)
  | (_, .error error) :: _ => .error error

def enumerate (start : Nat) : List (Except ε α) -> List (Nat × Except ε α)
  | [] => []
  | outcome :: rest => (start, outcome) :: enumerate (start + 1) rest

def sortByIndex (results : List (Nat × α)) : List (Nat × α) :=
  results.insertionSort (fun first second => first.1 <= second.1)

/-- Collect the results as they come, and put the outputs back in order. -/
def gather (order : List (Nat × Except ε α)) : Except ε (List α) :=
  (collect order).map (fun results => (sortByIndex results).map Prod.snd)

@[simp] theorem failures_nil : failures ([] : List (Except ε α)) = [] := rfl

@[simp] theorem failures_error_cons {error : ε} {rest : List (Except ε α)} :
    failures (.error error :: rest) = error :: failures rest := rfl

theorem sequence_ok_cons {output : α} {rest : List (Except ε α)} :
    sequence (.ok output :: rest) = (sequence rest).map (output :: ·) := rfl

variable (first second : List (Except ε α))

theorem failures_append : failures (first ++ second) = failures first ++ failures second :=
  List.filterMap_append

variable (start : Nat) {outcomes : List (Except ε α)}

theorem enumerate_snd : (enumerate start outcomes).map Prod.snd = outcomes := by
  induction outcomes generalizing start with
  | nil => rfl
  | cons outcome rest ih =>
    unfold enumerate
    rw [List.map_cons, ih]

/-! ## The first failure -/

variable {error : ε} {later : List ε}

theorem sequence_of_failure (fails : failures outcomes = error :: later) :
    sequence outcomes = .error error := by
  induction outcomes with
  | nil => cases fails
  | cons outcome rest ih =>
    cases outcome with
    | ok output =>
      rw [sequence_ok_cons, ih fails]
      rfl
    | error first =>
      cases fails
      rfl

theorem sequence_append : sequence (first ++ second) = (do
      let outputs <- sequence first
      let others <- sequence second
      return outputs ++ others) := by
  induction first with
  | nil =>
    rw [List.nil_append]
    cases sequence second with
    | error | ok => rfl
  | cons outcome rest ih =>
    cases outcome with
    | error error => rfl
    | ok output =>
      rw [List.cons_append, sequence_ok_cons, sequence_ok_cons, ih]
      cases sequence rest with
      | error error => rfl
      | ok outputs =>
        cases sequence second with
        | error | ok => rfl

variable {order : List (Nat × Except ε α)}

theorem collect_of_failure (fails : failures (order.map Prod.snd) = error :: later) :
    collect order = .error error := by
  induction order with
  | nil => cases fails
  | cons job rest ih =>
    rcases job with ⟨index, output | output⟩
    · cases fails
      rfl
    · unfold collect
      rw [ih fails]
      rfl

/-- A job that fails first was among the first `limit` failing ones. -/
theorem first_failure_mem {limit : Nat} {jobs order : List (Nat × Except ε α)}
    (completes : Order limit jobs order) (fails : failures (order.map Prod.snd) = error :: later) :
    error ∈ (failures (jobs.map Prod.snd)).take limit := by
  induction completes with
  | done => cases fails
  | @finish before after order job running rest ih =>
    rw [List.map_append, List.map_cons, failures_append]
    rcases job with ⟨index, first | output⟩
    · cases fails
      have few : (failures (before.map Prod.snd)).length < limit := by
        have short : (failures (before.map Prod.snd)).length <= _ := List.length_filterMap_le _ _
        rw [List.length_map] at short
        omega
      rw [failures_error_cons, List.take_append, List.mem_append]
      right
      obtain ⟨room, more⟩ := Nat.exists_eq_succ_of_ne_zero (Nat.sub_ne_zero_of_lt few)
      rw [more, List.take_succ_cons]
      exact List.mem_cons_self
    · have found := ih fails
      rw [List.map_append, failures_append] at found
      exact found

/-- Failing jobs that keep running do not stop the others as long as one more
job may run. -/
theorem exists_order_holding {limit : Nat} {rest : List (Nat × Except ε α)}
    (held : List (Nat × Except ε α))
    (room : held.length < limit)
    (candidate : error ∈ (failures (rest.map Prod.snd)).take (limit - held.length)) :
    ∃ order later,
      Order limit (held ++ rest) order /\ failures (order.map Prod.snd) = error :: later := by
  induction rest generalizing held with
  | nil =>
    rw [List.map_nil, failures_nil, List.take_nil] at candidate
    cases candidate
  | cons job rest ih =>
    rcases job with ⟨index, first | output⟩
    · obtain ⟨more, isMore⟩ := Nat.exists_eq_succ_of_ne_zero (Nat.sub_ne_zero_of_lt room)
      rw [List.map_cons, failures_error_cons, isMore, List.take_succ_cons] at candidate
      rcases List.mem_cons.mp candidate with same | behind
      · refine ⟨_, failures ((held ++ rest).map Prod.snd),
          Order.finish room (Order.self (by omega) (held ++ rest)), ?_⟩
        rw [List.map_cons, failures_error_cons, same]
      · have positive : 0 < more := by
          rcases Nat.eq_zero_or_pos more with none | positive
          · rw [none, List.take_zero] at behind
            cases behind
          · exact positive
        have moved := ih (held ++ [(index, .error first)])
          (by rw [List.length_append, List.length_singleton]; omega)
          (by
            rw [List.length_append, List.length_singleton, <- Nat.sub_sub, isMore]
            exact behind)
        rw [List.append_assoc, List.singleton_append] at moved
        exact moved
    · rcases ih held room candidate with ⟨order, later, completes, fails⟩
      exact ⟨_, later, Order.finish room completes, fails⟩

/-! ## Outputs -/

/-- The jobs that succeeded, with their outputs. -/
def successes (jobs : List (Nat × Except ε α)) : List (Nat × α) :=
  jobs.filterMap (fun job => job.2.toOption.map (job.1, ·))

theorem collect_of_success (succeeds : failures (order.map Prod.snd) = []) :
    collect order = .ok (successes order) := by
  induction order with
  | nil => rfl
  | cons job rest ih =>
    rcases job with ⟨index, error | output⟩
    · cases succeeds
    · unfold collect
      rw [ih succeeds]
      rfl

theorem sequence_of_success (succeeds : failures outcomes = []) :
    sequence outcomes = .ok ((successes (enumerate start outcomes)).map Prod.snd) := by
  induction outcomes generalizing start with
  | nil => rfl
  | cons outcome rest ih =>
    cases outcome with
    | error error => cases succeeds
    | ok output =>
      rw [sequence_ok_cons, ih (start + 1) succeeds]
      rfl

theorem successes_enumerate_above {result : Nat × α}
    (member : result ∈ successes (enumerate start outcomes)) : start <= result.1 := by
  induction outcomes generalizing start with
  | nil => cases member
  | cons outcome rest ih =>
    cases outcome with
    | error error => exact Nat.le_of_succ_le (ih (start + 1) member)
    | ok output =>
      rcases List.mem_cons.mp member with same | later
      · rw [same]
      · exact Nat.le_of_succ_le (ih (start + 1) later)

theorem successes_enumerate_pairwise :
    (successes (enumerate start outcomes)).Pairwise (fun first second => first.1 < second.1) := by
  induction outcomes generalizing start with
  | nil => exact List.Pairwise.nil
  | cons outcome rest ih =>
    cases outcome with
    | error error => exact ih (start + 1)
    | ok output =>
      refine List.Pairwise.cons ?_ (ih (start + 1))
      intro result member
      exact successes_enumerate_above (start + 1) member

/-- Sorting undoes any permutation of results whose indices ascend. -/
theorem sortByIndex_of_perm {results sorted : List (Nat × α)}
    (ascending : sorted.Pairwise (fun first second => first.1 < second.1))
    (permutes : results.Perm sorted) : sortByIndex results = sorted := by
  have keysDetermine : ∀ first second, first ∈ sorted -> second ∈ sorted ->
      first.1 = second.1 -> first = second := by
    intro first second memberFirst memberSecond same
    have injective := (List.pairwise_map.mpr (ascending.imp fun less => Nat.ne_of_lt less) :
      (sorted.map Prod.fst).Pairwise (· ≠ ·))
    exact List.inj_on_of_nodup_map injective memberFirst memberSecond same
  have sortedPerm : (sortByIndex results).Perm sorted :=
    (List.perm_insertionSort _ results).trans permutes
  refine List.Perm.eq_of_pairwise ?_ (List.pairwise_insertionSort _ results)
    (ascending.imp fun less => Nat.le_of_lt less) sortedPerm
  intro first second memberFirst memberSecond below above
  exact keysDetermine first second (sortedPerm.mem_iff.mp memberFirst) memberSecond
    (Nat.le_antisymm below above)

/-! ## Gathering -/

variable {limit : Nat} {outcomes : List (Except ε α)} {order : List (Nat × Except ε α)}

theorem failures_perm (completes : Order limit (enumerate 0 outcomes) order) :
    (failures (order.map Prod.snd)).Perm (failures outcomes) := by
  have permutes : (failures (order.map Prod.snd)).Perm
      (failures ((enumerate 0 outcomes).map Prod.snd)) :=
    (completes.perm.map Prod.snd).filterMap _
  rw [enumerate_snd] at permutes
  exact permutes

theorem gather_of_failure (fails : failures (order.map Prod.snd) = error :: later) :
    gather order = .error error := by
  unfold gather
  rw [collect_of_failure fails]
  rfl

/-- A failing job is noticed in every order, and one of the first fails first. -/
theorem gather_fails (completes : Order limit (enumerate 0 outcomes) order)
    (fails : failures outcomes ≠ []) :
    ∃ error, gather order = .error error /\ error ∈ (failures outcomes).take limit := by
  cases failsFirst : failures (order.map Prod.snd) with
  | nil =>
    have permutes := failures_perm completes
    rw [failsFirst] at permutes
    exact absurd permutes.symm.eq_nil fails
  | cons error behind =>
    have candidate := first_failure_mem completes failsFirst
    rw [enumerate_snd] at candidate
    exact ⟨error, gather_of_failure failsFirst, candidate⟩

/-- Every order gives the result of the sequence exactly when the failures that
may come first agree. -/
theorem gather_eq_sequence_iff (positive : 0 < limit) (outcomes : List (Except ε α)) :
    (∀ order, Order limit (enumerate 0 outcomes) order -> gather order = sequence outcomes) ↔
      (∀ error, error ∈ (failures outcomes).take limit ->
        (failures outcomes).head? = some error) := by
  cases fails : failures outcomes with
  | nil =>
    constructor
    · intro _ error member
      rw [List.take_nil] at member
      cases member
    · intro _ order completes
      have alsoSucceeds : failures (order.map Prod.snd) = [] := by
        have permutes := failures_perm completes
        rw [fails] at permutes
        exact permutes.eq_nil
      have sorts : sortByIndex (successes order) = successes (enumerate 0 outcomes) :=
        sortByIndex_of_perm (successes_enumerate_pairwise 0) (completes.perm.filterMap _)
      unfold gather
      rw [collect_of_success alsoSucceeds, sequence_of_success 0 fails, <- sorts]
      rfl
  | cons first later =>
    rw [sequence_of_failure fails]
    constructor
    · intro same error member
      have candidate : error ∈ (failures ((enumerate 0 outcomes).map Prod.snd)).take
          (limit - ([] : List (Nat × Except ε α)).length) := by
        rw [enumerate_snd, fails]
        exact member
      rcases exists_order_holding [] positive candidate with
        ⟨order, behind, completes, failsFirst⟩
      have result := same order completes
      rw [gather_of_failure failsFirst] at result
      rw [Except.error.inj result]
      rfl
    · intro agree order completes
      have failing : failures outcomes ≠ [] := by
        rw [fails]
        exact List.cons_ne_nil first later
      rcases gather_fails completes failing with ⟨error, gathers, candidate⟩
      rw [fails] at candidate
      rw [gathers, Option.some.inj (agree error candidate)]

end Outcomes

end Completion

end LoongClaw.Foundation
