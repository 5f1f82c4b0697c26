import Mathlib.Data.Finset.Card
import LoongClaw.Foundation.OrderedMap

namespace LoongClaw.Foundation

/-!
# Tables of counted locks

Locks are made on demand, one for a key, and are kept in a table.  A thread
counts a reference to a key, takes the lock of the key from the table, waits for
it, and on leaving releases the lock, gives its reference back and may discard
the entry of the table.  Each of these is one move.

Threads that hold the lock of one key exclude each other as long as no entry is
discarded while the key is referenced.
-/

universe u v

structure LockTable (κ : Type u) where
  (references locks : OrderedMap κ Nat)
  held : List Nat
  nextLock : Nat

namespace LockTable

open OrderedMap

variable {κ : Type u}

def empty : LockTable κ where
  references := []
  locks := []
  held := []
  nextLock := 0

variable [DecidableEq κ]

def references? (key : κ) (table : LockTable κ) : Nat :=
  (lookup key table.references).getD 0

section Operations

variable [LT κ] [DecidableLT κ] (key : κ) (table : LockTable κ)

def reference : LockTable κ :=
  { table with
    references := insert key (table.references? key + 1) table.references }

/-- Give a reference back.  The last one takes the count away. -/
def dereference : LockTable κ :=
  match lookup key table.references with
  | none => table
  | some count =>
    { table with
      references :=
        if count <= 1 then erase key table.references
        else insert key (count - 1) table.references }

/-- The lock of a key, which is made if there is none. -/
def lockOf : Nat × LockTable κ :=
  match lookup key table.locks with
  | some lock => (lock, table)
  | none =>
    (table.nextLock,
      { table with
        locks := insert key table.nextLock table.locks
        nextLock := table.nextLock + 1 })

end Operations

def acquire (lock : Nat) (table : LockTable κ) : LockTable κ :=
  { table with held := lock :: table.held }

def release (lock : Nat) (table : LockTable κ) : LockTable κ :=
  { table with held := table.held.filter fun other => decide (other ≠ lock) }

def discard (key : κ) (table : LockTable κ) : LockTable κ :=
  { table with locks := erase key table.locks }

/-! ## The protocol of a thread -/

/-- How far a thread is with a key and its lock. -/
inductive Phase (κ : Type u) where
  | outside
  | referenced (key : κ)
  | assigned (key : κ) (lock : Nat)
  | holding (key : κ) (lock : Nat)
  | released (key : κ)
  | leaving (key : κ)

namespace Phase

/-- The key that the thread has counted a reference to. -/
def reference : Phase κ -> Option κ
  | outside => none
  | referenced key => some key
  | assigned key _ => some key
  | holding key _ => some key
  | released key => some key
  | leaving _ => none

/-- The key whose lock the thread has from the table. -/
def lock : Phase κ -> Option (κ × Nat)
  | assigned key lock => some (key, lock)
  | holding key lock => some (key, lock)
  | _ => none

end Phase

inductive Move [LT κ] [DecidableLT κ] :
    Phase κ -> LockTable κ -> Phase κ -> LockTable κ -> Prop where
  | rest (phase : Phase κ) (table : LockTable κ) : Move phase table phase table
  | reference (key : κ) (table : LockTable κ) :
      Move .outside table (.referenced key) (table.reference key)
  | assign (key : κ) (table : LockTable κ) :
      Move (.referenced key) table (.assigned key (table.lockOf key).1) (table.lockOf key).2
  | acquire (key : κ) {lock : Nat} {table : LockTable κ} (free : lock ∉ table.held) :
      Move (.assigned key lock) table (.holding key lock) (table.acquire lock)
  | release (key : κ) (lock : Nat) (table : LockTable κ) :
      Move (.holding key lock) table (.released key) (table.release lock)
  | dereference (key : κ) (table : LockTable κ) :
      Move (.released key) table (.leaving key) (table.dereference key)
  | keep (key : κ) (table : LockTable κ) : Move (.leaving key) table .outside table
  | discard (key : κ) (table : LockTable κ) :
      Move (.leaving key) table .outside (table.discard key)

/-- No entry is discarded while its key is referenced. -/
def KeepsReferenced (before after : LockTable κ) : Prop :=
  ∀ key, lookup key before.locks ≠ none ->
    lookup key after.locks = none -> before.references? key = 0

/-! ## Counting -/

section Counts

variable {ι : Type v}

/-- The count of a key is the number of threads that refer to it. -/
def Counted (keys : ι -> Option κ) (table : LockTable κ) : Prop :=
  ∃ owners : Finset ι, (∀ thread, thread ∈ owners ↔ (keys thread).isSome = true) /\
    ∀ key, table.references? key = (owners.filter fun thread => keys thread = some key).card

variable {keys : ι -> Option κ} {table : LockTable κ}

theorem Counted.pos (counted : Counted keys table) {thread : ι} {key : κ}
    (refers : keys thread = some key) : table.references? key ≠ 0 := by
  rcases counted with ⟨owners, members, counts⟩
  rw [counts]
  apply Finset.card_ne_zero_of_mem (a := thread)
  refine Finset.mem_filter.mpr ⟨?_, refers⟩
  rw [members, refers]
  rfl

end Counts

section Counting

variable {ι : Type v} [DecidableEq ι] [LT κ] [DecidableLT κ]

theorem references?_reference {key other : κ} {table : LockTable κ} :
    (table.reference key).references? other =
      table.references? other + if other = key then 1 else 0 := by
  unfold references? reference
  rw [lookup_insert]
  by_cases same : other = key
  · rw [if_pos same, if_pos same, same]
    rfl
  · rw [if_neg same, if_neg same, Nat.add_zero]

theorem references?_dereference {key other : κ} {table : LockTable κ} :
    (table.dereference key).references? other =
      table.references? other - if other = key then 1 else 0 := by
  unfold references? dereference
  by_cases same : other = key
  · subst same
    rw [if_pos rfl]
    cases found : lookup other table.references with
    | none => simp [found]
    | some count =>
      by_cases last : count <= 1
      · simp only [if_pos last, lookup_erase_self, Option.getD_none, Option.getD_some]
        exact (Nat.sub_eq_zero_of_le last).symm
      · simp only [if_neg last, lookup_insert_self, Option.getD_some]
  · rw [if_neg same, Nat.sub_zero]
    cases found : lookup key table.references with
    | none => rfl
    | some count =>
      by_cases last : count <= 1
      · simp only [if_pos last, lookup_erase_of_ne same]
      · simp only [if_neg last, lookup_insert_of_ne same]

variable {keys : ι -> Option κ} {table : LockTable κ} {thread : ι}

theorem Counted.reference (counted : Counted keys table) (before : keys thread = none) (key : κ) :
    Counted (Function.update keys thread (some key)) (table.reference key) := by
  rcases counted with ⟨owners, members, counts⟩
  have fresh : thread ∉ owners := by
    rw [members, before]
    simp
  refine ⟨insert thread owners, ?_, ?_⟩
  · intro other
    by_cases same : other = thread
    · simp [same]
    · simp [same, members]
  · intro wanted
    rw [references?_reference, counts]
    have others : ∀ other, other ∈ owners ->
        (Function.update keys thread (some key) other = some wanted ↔
          keys other = some wanted) := by
      intro other member
      have different : other ≠ thread := fun same => fresh (same ▸ member)
      rw [Function.update_of_ne different]
    rw [Finset.filter_insert, Finset.filter_congr others, Function.update_self]
    by_cases same : wanted = key
    · rw [if_pos same, if_pos (by rw [same]), Finset.card_insert_of_notMem]
      exact fun member => fresh (Finset.mem_filter.mp member).1
    · rw [if_neg same, if_neg (fun equal => same (Option.some.inj equal).symm), Nat.add_zero]

theorem Counted.dereference (counted : Counted keys table) {key : κ}
    (before : keys thread = some key) :
    Counted (Function.update keys thread none) (table.dereference key) := by
  rcases counted with ⟨owners, members, counts⟩
  have member : thread ∈ owners := by
    rw [members, before]
    rfl
  refine ⟨owners.erase thread, ?_, ?_⟩
  · intro other
    by_cases same : other = thread
    · simp [same]
    · simp [same, members]
  · intro wanted
    rw [references?_dereference, counts]
    have others : ∀ other, other ∈ owners.erase thread ->
        (Function.update keys thread none other = some wanted ↔ keys other = some wanted) := by
      intro other remains
      rw [Function.update_of_ne (Finset.ne_of_mem_erase remains)]
    rw [Finset.filter_congr others, Finset.filter_erase]
    by_cases same : wanted = key
    · rw [if_pos same, Finset.card_erase_of_mem]
      exact Finset.mem_filter.mpr ⟨member, by rw [before, same]⟩
    · rw [if_neg same, Nat.sub_zero, Finset.erase_eq_of_notMem]
      intro filtered
      have own := (Finset.mem_filter.mp filtered).2
      rw [before] at own
      exact same (Option.some.inj own).symm

end Counting

/-! ## Exclusion -/

/-- References are counted, a thread that has a lock has the one of the table,
and a held lock has one holder. -/
structure Invariant {ι : Type v} (phases : ι -> Phase κ) (table : LockTable κ) : Prop where
  counted : Counted (fun thread => (phases thread).reference) table
  assigned : ∀ thread key lock, (phases thread).lock = some (key, lock) ->
    lookup key table.locks = some lock
  held : ∀ thread key lock, phases thread = .holding key lock -> lock ∈ table.held
  exclusive : ∀ first second key other lock, phases first = .holding key lock ->
    phases second = .holding other lock -> first = second

section Exclusion

variable {ι : Type v} {phases : ι -> Phase κ} {table : LockTable κ}

theorem invariant_empty (outside : ∀ thread, phases thread = .outside) :
    Invariant phases (empty : LockTable κ) where
  counted := by
    refine ⟨∅, ?_, ?_⟩
    · intro thread
      simp [outside thread, Phase.reference]
    · intro key
      rfl
  assigned thread key lock has := by
    rw [outside thread] at has
    cases has
  held thread key lock holds := by
    rw [outside thread] at holds
    cases holds
  exclusive first second key other lock holds := by
    rw [outside first] at holds
    cases holds

variable {key : κ} {after : LockTable κ} {thread : ι} {later : Phase κ}

/-- Threads that hold the lock of one key are one thread. -/
theorem Invariant.holder_unique (invariant : Invariant phases table) {first second : ι}
    {lock other : Nat} (holds : phases first = .holding key lock)
    (alsoHolds : phases second = .holding key other) : first = second := by
  have ofFirst := invariant.assigned first key lock (by rw [holds]; rfl)
  have ofSecond := invariant.assigned second key other (by rw [alsoHolds]; rfl)
  rw [ofFirst] at ofSecond
  cases ofSecond
  exact invariant.exclusive first second key key lock holds alsoHolds

/-- An entry that is referenced is not discarded. -/
theorem Invariant.keeps_assigned (invariant : Invariant phases table)
    (kept : KeepsReferenced table after) {lock : Nat}
    (has : (phases thread).lock = some (key, lock)) : lookup key after.locks ≠ none := by
  intro gone
  have refers : (phases thread).reference = some key := by
    cases reached : phases thread <;> rw [reached] at has <;> cases has <;> rfl
  have present := invariant.assigned thread key lock has
  apply invariant.counted.pos refers
  exact kept key (by rw [present]; exact Option.some_ne_none lock) gone

variable [DecidableEq ι]

/-- What a thread has to give for the invariant when it goes on to `later`: the
count, its own lock if it has one, and the locks of the others. -/
theorem Invariant.moved (invariant : Invariant phases table) (kept : KeepsReferenced table after)
    (counted : Counted
      (Function.update (fun other => (phases other).reference) thread later.reference) after)
    (same : ∀ key lock, lookup key table.locks = some lock ->
      lookup key after.locks ≠ none -> lookup key after.locks = some lock)
    (own : ∀ key lock, later.lock = some (key, lock) ->
      lookup key after.locks = some lock)
    (held : ∀ other key lock, other ≠ thread -> phases other = .holding key lock ->
      lock ∈ after.held) (holds : ∀ key lock, later = .holding key lock -> lock ∈ after.held /\
      ∀ other foreign, other ≠ thread -> phases other ≠ .holding foreign lock) :
    Invariant (Function.update phases thread later) after := by
  refine ⟨?_, ?_, ?_, ?_⟩
  · have references : (fun other => (Function.update phases thread later other).reference) =
        Function.update (fun other => (phases other).reference) thread later.reference :=
      Function.comp_update Phase.reference phases thread later
    rw [references]
    exact counted
  · intro other key lock has
    by_cases mover : other = thread
    · rw [mover, Function.update_self] at has
      exact own key lock has
    · rw [Function.update_of_ne mover] at has
      exact same key lock (invariant.assigned other key lock has)
        (invariant.keeps_assigned kept has)
  · intro other key lock holding
    by_cases mover : other = thread
    · rw [mover, Function.update_self] at holding
      exact (holds key lock holding).1
    · rw [Function.update_of_ne mover] at holding
      exact held other key lock mover holding
  · intro first second key foreign lock ofFirst ofSecond
    by_cases firstMoves : first = thread
    · by_cases secondMoves : second = thread
      · rw [firstMoves, secondMoves]
      · rw [firstMoves, Function.update_self] at ofFirst
        rw [Function.update_of_ne secondMoves] at ofSecond
        exact absurd ofSecond ((holds key lock ofFirst).2 second foreign secondMoves)
    · rw [Function.update_of_ne firstMoves] at ofFirst
      by_cases secondMoves : second = thread
      · rw [secondMoves, Function.update_self] at ofSecond
        exact absurd ofFirst ((holds foreign lock ofSecond).2 first key firstMoves)
      · rw [Function.update_of_ne secondMoves] at ofSecond
        exact invariant.exclusive first second key foreign lock ofFirst ofSecond

theorem counted_unmoved (invariant : Invariant phases table)
    (reference : later.reference = (phases thread).reference)
    (kept : after.references = table.references) :
    Counted (Function.update (fun other => (phases other).reference) thread later.reference)
      after := by
  have counted := invariant.counted
  rw [reference, Function.update_eq_self thread]
  unfold Counted references? at counted ⊢
  rw [kept]
  exact counted

variable [LT κ] [DecidableLT κ]

variable {table : LockTable κ}

theorem lockOf_lookup {key : κ} :
    lookup key (table.lockOf key).2.locks = some (table.lockOf key).1 := by
  unfold lockOf
  cases found : lookup key table.locks with
  | some lock => exact found
  | none => exact lookup_insert_self

theorem lockOf_keeps {other : κ} {lock : Nat} (present : lookup other table.locks = some lock) :
    lookup other (table.lockOf key).2.locks = some lock := by
  unfold lockOf
  cases found : lookup key table.locks with
  | some own => exact present
  | none =>
    have different : other ≠ key := by
      intro same
      rw [same, found] at present
      cases present
    exact (lookup_insert_of_ne different _ _).trans present

theorem lockOf_references {key : κ} :
    (table.lockOf key).2.references = table.references /\
      (table.lockOf key).2.held = table.held := by
  unfold lockOf
  cases lookup key table.locks <;> exact ⟨rfl, rfl⟩

theorem dereference_locks {key : κ} :
    (table.dereference key).locks = table.locks /\ (table.dereference key).held = table.held := by
  unfold dereference
  cases lookup key table.references <;> exact ⟨rfl, rfl⟩

/-- Every move keeps the invariant, if it discards no entry that is referenced. -/
theorem Invariant.move (invariant : Invariant phases table)
    (move : Move (phases thread) table later after) (kept : KeepsReferenced table after) :
    Invariant (Function.update phases thread later) after := by
  generalize reached : phases thread = phase at move
  cases move with
  | rest =>
    rw [<- reached, Function.update_eq_self]
    exact invariant
  | reference key =>
    refine invariant.moved kept ?_ (fun _ _ present _ => present) nofun
      (fun other foreign lock _ holds => invariant.held other foreign lock holds) nofun
    exact invariant.counted.reference (by rw [reached]; rfl) key
  | assign key =>
    refine invariant.moved kept ?_ (fun _ _ present _ => lockOf_keeps present) ?_ ?_ nofun
    · exact counted_unmoved invariant (by rw [reached]; rfl) lockOf_references.1
    · intro foreign lock has
      cases has
      exact lockOf_lookup
    · intro other foreign lock _ holds
      rw [lockOf_references.2]
      exact invariant.held other foreign lock holds
  | @acquire key lock _ free =>
    refine invariant.moved kept ?_ (fun _ _ present _ => present) ?_ ?_ ?_
    · exact counted_unmoved invariant (by rw [reached]; rfl) rfl
    · intro foreign own has
      cases has
      exact invariant.assigned thread key lock (by rw [reached]; rfl)
    · intro other foreign own _ holds
      exact List.mem_cons_of_mem lock (invariant.held other foreign own holds)
    · intro foreign own holds
      cases holds
      refine ⟨List.mem_cons_self, ?_⟩
      intro other foreign _ alsoHolds
      exact free (invariant.held other foreign lock alsoHolds)
  | release key lock =>
    refine invariant.moved kept ?_ (fun _ _ present _ => present) nofun ?_ nofun
    · exact counted_unmoved invariant (by rw [reached]; rfl) rfl
    · intro other foreign own different holds
      refine List.mem_filter.mpr ⟨invariant.held other foreign own holds, ?_⟩
      refine decide_eq_true ?_
      intro same
      rw [same] at holds
      exact different (invariant.exclusive other thread foreign key lock holds reached)
  | dereference key =>
    refine invariant.moved kept ?_ ?_ nofun ?_ nofun
    · exact invariant.counted.dereference (by rw [reached]; rfl)
    · intro foreign lock present _
      rw [dereference_locks.1]
      exact present
    · intro other foreign lock _ holds
      rw [dereference_locks.2]
      exact invariant.held other foreign lock holds
  | keep key =>
    refine invariant.moved kept ?_ (fun _ _ present _ => present) nofun
      (fun other foreign lock _ holds => invariant.held other foreign lock holds) nofun
    exact counted_unmoved invariant (by rw [reached]; rfl) rfl
  | discard key =>
    refine invariant.moved kept ?_ ?_ nofun
      (fun other foreign lock _ holds => invariant.held other foreign lock holds) nofun
    · exact counted_unmoved invariant (by rw [reached]; rfl) rfl
    · intro foreign lock present remains
      have different : foreign ≠ key := by
        intro same
        rw [same] at remains
        exact remains lookup_erase_self
      exact (lookup_erase_of_ne different table.locks).trans present

end Exclusion

end LockTable

end LoongClaw.Foundation
