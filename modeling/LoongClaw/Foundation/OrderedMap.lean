import Mathlib.Order.Defs.Unbundled

namespace LoongClaw.Foundation

/-!
# Ordered finite maps

A map is its entries in iteration order.  `insert` keeps the entries sorted
whenever they already are, so iteration visits the keys in ascending order,
and replaces the stored value of a key that is already present.  The lookup
laws below need no sortedness premise: they hold for every entry list.
-/

universe u v

/-- The entries of a finite map in iteration order. -/
abbrev OrderedMap (κ : Type u) (υ : Type v) :=
  List (κ × υ)

namespace OrderedMap

variable {κ : Type u} {υ : Type v} [DecidableEq κ]

def lookup (key : κ) : OrderedMap κ υ -> Option υ
  | [] => none
  | entry :: rest => if entry.1 = key then some entry.2 else lookup key rest

def contains (key : κ) (entries : OrderedMap κ υ) : Bool :=
  (lookup key entries).isSome

def erase (key : κ) (entries : OrderedMap κ υ) : OrderedMap κ υ :=
  entries.filter (fun entry => decide (entry.1 ≠ key))

def values (entries : OrderedMap κ υ) : List υ :=
  entries.map Prod.snd

theorem lookup_cons {key : κ} {entry : κ × υ} {rest : OrderedMap κ υ} : lookup key (entry :: rest) =
      if entry.1 = key then some entry.2 else lookup key rest := rfl

variable {key : κ} {entries : OrderedMap κ υ}

theorem mem_of_lookup {value : υ} (found : lookup key entries = some value) :
    (key, value) ∈ entries := by
  induction entries with
  | nil => cases found
  | cons entry rest ih =>
    rw [lookup_cons] at found
    split at found
    · case isTrue same =>
        cases found
        rw [<- same]
        exact List.mem_cons_self
    · exact List.mem_cons_of_mem _ (ih found)

@[simp] theorem lookup_erase_self {key : κ} {entries : OrderedMap κ υ} :
    lookup key (erase key entries) = none := by
  induction entries with
  | nil => rfl
  | cons entry rest ih =>
    unfold erase at ih ⊢
    by_cases same : entry.1 = key
    · rw [List.filter_cons_of_neg (by simp [same])]
      exact ih
    · rw [List.filter_cons_of_pos (by simp [same]), lookup_cons, if_neg same]
      exact ih

theorem lookup_erase_of_ne {other : κ} (different : key ≠ other) (entries : OrderedMap κ υ) :
    lookup key (erase other entries) = lookup key entries := by
  induction entries with
  | nil => rfl
  | cons entry rest ih =>
    unfold erase at ih ⊢
    by_cases same : entry.1 = other
    · have notKey : ¬ entry.1 = key := fun equal => different (equal.symm.trans same)
      rw [List.filter_cons_of_neg (by simp [same]), lookup_cons, if_neg notKey]
      exact ih
    · rw [List.filter_cons_of_pos (by simp [same]), lookup_cons, lookup_cons, ih]

theorem length_erase_le {key : κ} {entries : OrderedMap κ υ} :
    (erase key entries).length <= entries.length :=
  List.length_filter_le _ entries

section Ordered

variable [LT κ] [DecidableLT κ]

/-- Store a value: an equal key is replaced in place, a new key goes before
the first larger one. -/
def insert (key : κ) (value : υ) : OrderedMap κ υ -> OrderedMap κ υ
  | [] => [(key, value)]
  | entry :: rest =>
    if entry.1 = key then (key, value) :: rest
    else if key < entry.1 then (key, value) :: entry :: rest
    else entry :: insert key value rest

/-- Store every entry of `other`.  Where the two share a key, `other` wins. -/
def extend (entries other : OrderedMap κ υ) : OrderedMap κ υ :=
  other.foldr (fun entry result => insert entry.1 entry.2 result) entries

variable {value : υ}

@[simp] theorem lookup_insert_self {key : κ} {entries : OrderedMap κ υ} :
    lookup key (insert key value entries) = some value := by
  induction entries with
  | nil => simp [insert, lookup]
  | cons entry rest ih =>
    unfold insert
    by_cases same : entry.1 = key
    · rw [if_pos same, lookup_cons, if_pos rfl]
    · rw [if_neg same]
      by_cases before : key < entry.1
      · rw [if_pos before, lookup_cons, if_pos rfl]
      · rw [if_neg before, lookup_cons, if_neg same]
        exact ih

theorem lookup_insert_of_ne {key other : κ} (different : key ≠ other) (value : υ)
    (entries : OrderedMap κ υ) :
    lookup key (insert other value entries) = lookup key entries := by
  induction entries with
  | nil => simp [insert, lookup, Ne.symm different]
  | cons entry rest ih =>
    unfold insert
    by_cases same : entry.1 = other
    · have notKey : ¬ entry.1 = key := fun equal => different (equal.symm.trans same)
      rw [if_pos same, lookup_cons, lookup_cons, if_neg notKey, if_neg (Ne.symm different)]
    · rw [if_neg same]
      by_cases before : other < entry.1
      · rw [if_pos before, lookup_cons, if_neg (Ne.symm different)]
      · rw [if_neg before, lookup_cons, lookup_cons, ih]

theorem lookup_insert {key other : κ} {entries : OrderedMap κ υ} :
    lookup key (insert other value entries) =
      if key = other then some value else lookup key entries := by
  by_cases same : key = other
  · subst key
    rw [if_pos rfl, lookup_insert_self]
  · rw [if_neg same, lookup_insert_of_ne same]

theorem length_insert_le {key : κ} {entries : OrderedMap κ υ} :
    (insert key value entries).length <= entries.length + 1 := by
  induction entries with
  | nil => exact Nat.le_refl 1
  | cons entry rest ih =>
    unfold insert
    split
    · exact Nat.le_succ _
    · split
      · exact Nat.le_refl _
      · exact Nat.succ_le_succ ih

theorem length_insert_of_absent (absent : lookup key entries = none) :
    (insert key value entries).length = entries.length + 1 := by
  induction entries with
  | nil => rfl
  | cons entry rest ih =>
    rw [lookup_cons] at absent
    split at absent
    · cases absent
    · case isFalse different =>
        unfold insert
        rw [if_neg different]
        split
        · rfl
        · rw [List.length_cons, ih absent, List.length_cons]

theorem lookup_extend {key : κ} {entries other : OrderedMap κ υ} :
    lookup key (extend entries other) = (lookup key other).or (lookup key entries) := by
  induction other with
  | nil => rfl
  | cons entry rest ih =>
    change lookup key (insert entry.1 entry.2 (extend entries rest)) = _
    rw [lookup_insert, lookup_cons]
    by_cases same : entry.1 = key
    · rw [if_pos same.symm, if_pos same, Option.some_or]
    · rw [if_neg (Ne.symm same), if_neg same, ih]

/-! ## Sorted entries -/

/-- Every key is smaller than the keys after it. -/
def Sorted (entries : OrderedMap κ υ) : Prop :=
  entries.Pairwise fun first second => first.1 < second.1

omit [DecidableLT κ] in
theorem Sorted.erase (sorted : Sorted entries) (key : κ) : Sorted (erase key entries) :=
  List.Pairwise.filter _ sorted

theorem mem_insert {entry : κ × υ} (member : entry ∈ insert key value entries) :
    entry = (key, value) \/ entry ∈ entries := by
  induction entries with
  | nil => exact .inl (List.mem_singleton.mp member)
  | cons first rest ih =>
    unfold insert at member
    split at member
    · exact (List.mem_cons.mp member).imp_right (List.mem_cons_of_mem _)
    · split at member
      · exact List.mem_cons.mp member
      · rcases List.mem_cons.mp member with rfl | later
        · exact .inr List.mem_cons_self
        · exact (ih later).imp_right (List.mem_cons_of_mem _)

variable [IsStrictTotalOrder κ (· < ·)]

theorem Sorted.insert (sorted : Sorted entries) (key : κ) (value : υ) :
    Sorted (insert key value entries) := by
  induction entries with
  | nil => exact List.pairwise_singleton _ _
  | cons entry rest ih =>
    rcases List.pairwise_cons.mp sorted with ⟨above, restSorted⟩
    unfold OrderedMap.insert
    by_cases same : entry.1 = key
    · rw [if_pos same]
      exact List.pairwise_cons.mpr ⟨fun other member => same ▸ above other member, restSorted⟩
    · rw [if_neg same]
      by_cases before : key < entry.1
      · rw [if_pos before]
        refine List.pairwise_cons.mpr ⟨List.forall_mem_cons.mpr ⟨before, ?_⟩, sorted⟩
        exact fun other member => trans_of (· < ·) before (above other member)
      · rw [if_neg before]
        refine List.pairwise_cons.mpr ⟨fun other member => ?_, ih restSorted⟩
        rcases mem_insert member with rfl | old
        · exact (trichotomous_of (· < ·) entry.1 key).resolve_right (not_or.mpr ⟨same, before⟩)
        · exact above other old

/-- The value of a key that is there is replaced. -/
theorem Sorted.length_insert (sorted : Sorted entries) (present : contains key entries = true)
    (value : υ) : (OrderedMap.insert key value entries).length = entries.length := by
  induction entries with
  | nil => cases present
  | cons entry rest ih =>
    rcases List.pairwise_cons.mp sorted with ⟨above, restSorted⟩
    unfold OrderedMap.insert
    by_cases same : entry.1 = key
    · rw [if_pos same]
      rfl
    · unfold contains at present
      rw [lookup_cons, if_neg same] at present
      rcases Option.isSome_iff_exists.mp present with ⟨stored, found⟩
      have notBefore : ¬ key < entry.1 := fun before =>
        irrefl_of (· < ·) key (trans_of (· < ·) before (above _ (mem_of_lookup found)))
      rw [if_neg same, if_neg notBefore, List.length_cons, ih restSorted present]
      rfl

end Ordered

end OrderedMap

end LoongClaw.Foundation
