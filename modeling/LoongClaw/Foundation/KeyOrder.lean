import Mathlib.Order.Lattice

namespace LoongClaw.Foundation

/-!
# Lists in strictly ascending key order

Rows of a table in the order of their keys.  A selection by key bounds is then
a contiguous piece of the list, adjacent selections join, and a bound may be
replaced by the key of the last selected row.
-/

namespace KeyOrder

universe u v

variable {α : Type u} {κ : Type v} [LinearOrder κ] {key : α -> κ}

/-- Every key is smaller than all keys after it. -/
def Ascending (key : α -> κ) (rows : List α) : Prop :=
  rows.Pairwise (fun earlier later => key earlier < key later)

variable {rows : List α} {last row : α}

theorem Ascending.le_last (ascending : Ascending key rows) (isLast : rows.getLast? = some last)
    (member : row ∈ rows) : key row <= key last := by
  rcases List.getLast?_eq_some_iff.mp isLast with ⟨front, rfl⟩
  rcases List.mem_append.mp member with earlier | same
  · exact le_of_lt ((List.pairwise_append.mp ascending).2.2 row earlier last List.mem_cons_self)
  · rw [List.mem_singleton.mp same]

theorem Ascending.snoc (ascending : Ascending key rows)
    (above : ∀ earlier, earlier ∈ rows -> key earlier < key row) :
    Ascending key (rows ++ [row]) := by
  refine List.pairwise_append.mpr ⟨ascending, List.pairwise_singleton _ _, ?_⟩
  intro earlier member last isLast
  rw [List.mem_singleton.mp isLast]
  exact above earlier member

/-- The rows below a row of the list are the rows in front of it. -/
theorem Ascending.filter_lt_split {front back : List α}
    (ascending : Ascending key (front ++ row :: back)) :
    (front ++ row :: back).filter (fun other => decide (key other < key row)) = front := by
  rcases List.pairwise_append.mp ascending with ⟨_, ordered, across⟩
  have inFront : front.filter (fun other => decide (key other < key row)) = front :=
    List.filter_eq_self.mpr (fun other member =>
      decide_eq_true (across other member row List.mem_cons_self))
  have inBack : (row :: back).filter (fun other => decide (key other < key row)) = [] := by
    apply List.filter_eq_nil_iff.mpr
    refine List.forall_mem_cons.mpr ⟨by simp, fun other later => ?_⟩
    simpa using le_of_lt ((List.pairwise_cons.mp ordered).1 other later)
  rw [List.filter_append, inFront, inBack, List.append_nil]

/-- The first row is the only one up to its own key. -/
theorem Ascending.filter_le_head {rest : List α} (ascending : Ascending key (row :: rest)) :
    (row :: rest).filter (fun other => decide (key other <= key row)) = [row] := by
  have beyond : rest.filter (fun other => decide (key other <= key row)) = [] := by
    apply List.filter_eq_nil_iff.mpr
    intro other member
    simpa using (List.pairwise_cons.mp ascending).1 other member
  rw [List.filter_cons, if_pos (decide_eq_true (le_refl (key row))), beyond]

/-- Rows up to one bound, then rows between it and a second bound. -/
theorem Ascending.filter_le_append_between (ascending : Ascending key rows) {through before : κ}
    (ordered : through < before) :
    rows.filter (fun row => decide (key row <= through)) ++
        rows.filter (fun row => decide (through < key row) && decide (key row < before)) =
      rows.filter (fun row => decide (key row < before)) := by
  induction rows with
  | nil => rfl
  | cons row rest ih =>
    rcases List.pairwise_cons.mp ascending with ⟨above, restAscending⟩
    by_cases within : key row <= through
    · have notAfter : ¬ through < key row := not_lt_of_ge within
      have below : key row < before := lt_of_le_of_lt within ordered
      simp only [List.filter_cons, within, notAfter, below, decide_true, decide_false,
        Bool.false_and, Bool.false_eq_true, if_true, if_false, List.cons_append]
      rw [ih restAscending]
    · have beyond : through < key row := lt_of_not_ge within
      have noneWithin : rest.filter (fun other => decide (key other <= through)) = [] := by
        apply List.filter_eq_nil_iff.mpr
        intro other member
        simpa using lt_trans beyond (above other member)
      have tail := ih restAscending
      rw [noneWithin, List.nil_append] at tail
      simp only [List.filter_cons, within, beyond, decide_true, decide_false, Bool.true_and,
        Bool.false_eq_true, if_false, noneWithin, List.nil_append, tail]

/-- If `selects` picks the rows below `before` apart from some that lie below
every pick, then the last pick bounds the same rows. -/
theorem Ascending.filter_le_last (ascending : Ascending key rows) {selects : α -> Bool} (before : κ)
    (isLast : (rows.filter selects).getLast? = some last)
    (below : ∀ row, row ∈ rows -> selects row = true -> key row < before)
    (rest : ∀ row, row ∈ rows -> key row < before -> selects row = false -> key row <= key last) :
    rows.filter (fun row => decide (key row <= key last)) =
      rows.filter (fun row => decide (key row < before)) := by
  have lastMember := List.mem_filter.mp (List.mem_of_getLast? isLast)
  apply List.filter_congr
  intro row member
  apply decide_eq_decide.mpr
  constructor
  · intro bounded
    exact lt_of_le_of_lt bounded (below last lastMember.1 lastMember.2)
  · intro inside
    cases picked : selects row with
    | true =>
      exact Ascending.le_last (List.Pairwise.filter selects ascending) isLast
        (List.mem_filter.mpr ⟨member, picked⟩)
    | false => exact rest row member inside picked

end KeyOrder

end LoongClaw.Foundation
