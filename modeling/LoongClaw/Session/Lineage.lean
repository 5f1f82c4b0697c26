import LoongClaw.Session.Transactions

namespace LoongClaw.Session

open Foundation

/-!
# Lineages that only grow

Sessions are never removed, and keep their parents.  New sessions have no
parent, or an id that was drawn for them.  What is known about the ancestors
of a session therefore stays known, if no drawn id may still turn up among
them.
-/

theorem SessionRow.Kept.trans {first second third : SessionRow} (earlier : first.Kept second)
    (later : second.Kept third) : first.Kept third := by
  refine ⟨later.record.trans earlier.record, later.kind.trans earlier.kind, ?_⟩
  intro ended
  have same := earlier.state ended
  rw [<- same] at ended
  exact (later.state ended).trans same

namespace SessionDatabase

/-- The sessions of one database are still there in another, where new ones
are drawn or have no parent. -/
structure Extends (drawn : String -> Prop) (before after : SessionDatabase) : Prop where
  stored : after.Stored
  kept : ∀ row, row ∈ before.sessions -> ∃ later, later ∈ after.sessions /\ row.Kept later
  added : ∀ later, later ∈ after.sessions -> (∃ row, row ∈ before.sessions /\ row.Kept later) \/
      later.parentSessionId = none \/ drawn later.sessionId

/-- A parent that is drawn has a row. -/
def AnchoredParents (drawn : String -> Prop) (database : SessionDatabase) : Prop :=
  ∀ row, row ∈ database.sessions -> ∀ parent, row.parentSessionId = some parent ->
    drawn parent -> (database.findSession parent).isSome

/-- From a stored database the step leads to one that extends it. -/
def Grows (drawn : String -> Prop) (before after : SessionDatabase) : Prop :=
  before.Stored -> Extends drawn before after

variable {drawn : String -> Prop}

theorem grows_interference (drawn : String -> Prop) : Program.Interference (Grows drawn) where
  refl database stored :=
    { stored := stored
      kept := fun row member => ⟨row, member, SessionRow.Kept.refl row⟩
      added := fun later member => Or.inl ⟨later, member, SessionRow.Kept.refl later⟩ }
  trans := by
    intro first second third earlier later stored
    have one := earlier stored
    have two := later one.stored
    refine ⟨two.stored, ?_, ?_⟩
    · intro row member
      rcases one.kept row member with ⟨middle, middleMember, toMiddle⟩
      rcases two.kept middle middleMember with ⟨last, lastMember, toLast⟩
      exact ⟨last, lastMember, toMiddle.trans toLast⟩
    · intro last lastMember
      rcases two.added last lastMember with ⟨middle, middleMember, toLast⟩ | new
      · rcases one.added middle middleMember with ⟨row, member, toMiddle⟩ | parentless | isDrawn
        · exact Or.inl ⟨row, member, toMiddle.trans toLast⟩
        · refine Or.inr (Or.inl ?_)
          rw [toLast.record]
          exact parentless
        · refine Or.inr (Or.inr ?_)
          rw [toLast.record]
          exact isDrawn
      · exact Or.inr new

variable {before after database : SessionDatabase} {sessionId parent ancestor root : String}
  {depth : Nat}

/-- A transaction that keeps every row adds none. -/
theorem grows_of_quiet (quiet : Quiet before after) : Grows drawn before after := by
  intro stored
  have kept := quiet stored
  exact
    { stored := kept.stored
      kept := fun row member => exists_kept kept.rows member
      added := fun _ member => Or.inl (exists_kept kept.rows.flip member) }

/-- A creation grows the sessions if the new id is drawn or without parent. -/
theorem grows_of_opens {now : Int} {record : NewSessionRecord}
    (opens : SessionStore.Opens now record before after)
    (new : record.parentSessionId = none \/ drawn record.sessionId) : Grows drawn before after := by
  intro stored
  refine ⟨opens.stored stored, ?_, ?_⟩
  · intro row member
    refine ⟨row, ?_, SessionRow.Kept.refl row⟩
    rw [opens.sessions]
    exact List.mem_append_left _ member
  · rw [opens.sessions]
    refine List.forall_mem_append.mpr ⟨?_, List.forall_mem_singleton.mpr (Or.inr new)⟩
    intro later old
    exact Or.inl ⟨later, old, SessionRow.Kept.refl later⟩

/-! ## Rows and parents in a growing database -/

section Growing

variable (extended : Extends drawn before after) (stored : before.Stored)

include extended stored

/-- A session that has a row keeps its record while the database grows. -/
theorem Extends.findSession {row : SessionRow} (found : before.findSession sessionId = some row) :
    ∃ later, after.findSession sessionId = some later /\ row.Kept later := by
  rcases (findSession_eq_some_iff stored.distinct).mp found with ⟨member, named⟩
  rcases extended.kept row member with ⟨later, laterMember, kept⟩
  refine ⟨later, ?_, kept⟩
  refine (findSession_eq_some_iff extended.stored.distinct).mpr ⟨laterMember, ?_⟩
  rw [kept.record]
  exact named

theorem Extends.findSession_isSome (present : (before.findSession sessionId).isSome) :
    (after.findSession sessionId).isSome := by
  rcases Option.isSome_iff_exists.mp present with ⟨row, found⟩
  rcases extended.findSession stored found with ⟨later, foundLater, _⟩
  rw [foundLater]
  rfl

/-- The parent of a session that has a row never changes again. -/
theorem Extends.parentOf (present : (before.findSession sessionId).isSome) :
    after.parentOf sessionId = before.parentOf sessionId := by
  rcases Option.isSome_iff_exists.mp present with ⟨row, found⟩
  rcases extended.findSession stored found with ⟨later, foundLater, kept⟩
  unfold SessionDatabase.parentOf
  rw [found, foundLater, Option.bind_some, Option.bind_some, kept.record]

/-- A session that is missing and not drawn will never have a parent. -/
theorem Extends.parentOf_of_missing (missing : before.findSession sessionId = none)
    (notDrawn : ¬ drawn sessionId) : after.parentOf sessionId = none := by
  unfold SessionDatabase.parentOf
  cases found : after.findSession sessionId with
  | none => rfl
  | some later =>
    rcases (findSession_eq_some_iff extended.stored.distinct).mp found with ⟨member, named⟩
    rcases extended.added later member with ⟨row, rowMember, kept⟩ | parentless | isDrawn
    · have present := (findSession_eq_some_iff stored.distinct).mpr ⟨rowMember, rfl⟩
      rw [<- kept.record, named, missing] at present
      cases present
    · exact parentless
    · rw [named] at isDrawn
      exact absurd isDrawn notDrawn

/-- Unless a parent is still to be drawn, who sees a stored session stays the same. -/
theorem Extends.isSessionVisible_iff {current target : SessionId}
    (anchored : AnchoredParents drawn before)
    (present : (before.findSession target.val).isSome) :
    after.isSessionVisible current.val target.val = .ok true ↔
      before.isSessionVisible current.val target.val = .ok true := by
  rw [isSessionVisible_eq_true_iff extended.stored current.property target.property,
    isSessionVisible_eq_true_iff stored current.property target.property]
  apply or_congr_right
  refine Exploration.transGen_linked_congr
    (fun sessionId => drawn sessionId -> (before.findSession sessionId).isSome) ?_ ?_
    fun _ => present
  · intro sessionId known
    cases found : before.findSession sessionId with
    | none =>
      rw [extended.parentOf_of_missing stored found (by simpa [found] using known)]
      simp [SessionDatabase.parentOf, found]
    | some row => exact extended.parentOf stored (by simp [found])
  · intro sessionId parent linked
    rcases Option.bind_eq_some_iff.mp linked with ⟨row, found, isParent⟩
    exact anchored row (List.mem_of_find?_eq_some found) parent isParent

end Growing

/-! ## Ancestors -/

/-- A session has at least so many ancestors. -/
def HasAncestors (database : SessionDatabase) : Nat -> String -> Prop
  | 0, _ => True
  | count + 1, sessionId => ∃ parent,
    database.parentOf sessionId = some parent /\ HasAncestors database count parent

/-- So many links lead from one session to another. -/
def Climbs (database : SessionDatabase) : Nat -> String -> String -> Prop
  | 0, sessionId, ancestor => sessionId = ancestor
  | count + 1, sessionId, ancestor => ∃ parent,
    database.parentOf sessionId = some parent /\ Climbs database count parent ancestor

theorem present_of_parentOf (linked : database.parentOf sessionId = some parent) :
    (database.findSession sessionId).isSome := by
  rcases Option.bind_eq_some_iff.mp linked with ⟨row, found, _⟩
  rw [found]
  rfl

theorem Climbs.snoc :
    ∀ {count : Nat} {sessionId : String}, Climbs database count sessionId ancestor ->
      database.parentOf ancestor = some parent -> Climbs database (count + 1) sessionId parent
  | 0, _, rfl, linked => ⟨parent, linked, rfl⟩
  | _ + 1, _, ⟨next, first, rest⟩, linked => ⟨next, first, rest.snoc linked⟩

/-- Links stay as the database grows. -/
theorem Climbs.mono (extended : Extends drawn before after) (stored : before.Stored) :
    ∀ {count : Nat} {sessionId : String}, Climbs before count sessionId ancestor ->
      Climbs after count sessionId ancestor
  | 0, _, same => same
  | _ + 1, _, ⟨parent, linked, rest⟩ =>
    ⟨parent, (extended.parentOf stored (present_of_parentOf linked)).trans linked,
      Climbs.mono extended stored rest⟩

theorem Climbs.hasAncestors : ∀ {count : Nat} {sessionId : String},
    Climbs database count sessionId ancestor -> HasAncestors database count sessionId
  | 0, _, _ => True.intro
  | _ + 1, _, ⟨parent, linked, rest⟩ => ⟨parent, linked, rest.hasAncestors⟩

/-- The links to a session without parent are all the ancestors there are. -/
theorem HasAncestors.le_of_climbs (parentless : database.parentOf root = none) :
    ∀ {links count : Nat} {sessionId : String}, Climbs database links sessionId root ->
      HasAncestors database count sessionId -> count <= links
  | _, 0, _, _, _ => Nat.zero_le _
  | 0, _ + 1, _, rfl, ⟨_, linked, _⟩ => absurd (parentless.symm.trans linked) nofun
  | _ + 1, _ + 1, _, ⟨_, first, rest⟩, ⟨_, linked, further⟩ => by
    cases first.symm.trans linked
    exact Nat.succ_le_succ (HasAncestors.le_of_climbs parentless rest further)

/-- However the database grows, the session has at most so many ancestors. -/
def Bounded (drawn : String -> Prop) (database : SessionDatabase) (sessionId : String)
    (depth : Nat) : Prop :=
  ∀ later, Grows drawn database later -> ∀ count,
    HasAncestors later count sessionId -> count <= depth

theorem Bounded.later (bounded : Bounded drawn before sessionId depth)
    (grows : Grows drawn before after) : Bounded drawn after sessionId depth :=
  fun later further => bounded later ((grows_interference drawn).trans grows further)

/-- The distance to a stored session without parent bounds the ancestors in
every later database. -/
theorem bounded_of_climbs (stored : database.Stored) (climbs : Climbs database depth sessionId root)
    (present : (database.findSession root).isSome) (parentless : database.parentOf root = none) :
    Bounded drawn database sessionId depth := by
  intro later grows count ancestors
  have extended := grows stored
  refine HasAncestors.le_of_climbs ?_ (climbs.mono extended stored) ancestors
  rw [extended.parentOf stored present]
  exact parentless

/-- A session that is neither stored nor drawn stays without ancestors. -/
theorem bounded_of_missing (stored : database.Stored)
    (missing : database.findSession sessionId = none) (notDrawn : ¬ drawn sessionId) :
    Bounded drawn database sessionId 0 := by
  intro later grows count ancestors
  have parentless := (grows stored).parentOf_of_missing stored missing notDrawn
  exact HasAncestors.le_of_climbs parentless (rfl : Climbs later 0 sessionId sessionId) ancestors

/-! ## Ancestors across one step -/

section Steps

variable {now : Int} {record : NewSessionRecord}
  (opens : SessionStore.Opens now record before after)

include opens

/-- A creation leaves the rows of all other sessions as they are. -/
theorem findSession_of_opens (other : sessionId ≠ record.sessionId) :
    after.findSession sessionId = before.findSession sessionId := by
  unfold findSession
  rw [opens.sessions, List.find?_append]
  have notNew : [newRow now record].find? (·.sessionId = sessionId) = none := by
    simp [newRow, Ne.symm other]
  rw [notNew, Option.or_none]

theorem findSession_opened : after.findSession record.sessionId = some (newRow now record) := by
  have absent := opens.absent
  unfold findSession at absent ⊢
  rw [opens.sessions, List.find?_append, absent]
  simp [newRow]

theorem parentOf_of_opens (other : sessionId ≠ record.sessionId) :
    after.parentOf sessionId = before.parentOf sessionId := by
  unfold parentOf
  rw [findSession_of_opens opens other]

theorem parentOf_opened : after.parentOf record.sessionId = record.parentSessionId := by
  unfold parentOf
  rw [findSession_opened opens]
  rfl

/-- Ancestors that do not pass a new session were there before. -/
theorem HasAncestors.of_opens
    (unlinked : ∀ sessionId parent, before.parentOf sessionId = some parent ->
      parent ≠ record.sessionId) :
    ∀ {count : Nat} {sessionId : String}, sessionId ≠ record.sessionId ->
      HasAncestors after count sessionId -> HasAncestors before count sessionId
  | 0, _, _, _ => True.intro
  | _ + 1, _, other, ⟨parent, linked, rest⟩ => by
    rw [parentOf_of_opens opens other] at linked
    exact ⟨parent, linked, of_opens unlinked (unlinked _ parent linked) rest⟩

end Steps

/-- A transaction that keeps the rows keeps the whole graph of parents. -/
theorem parentOf_of_keepsRows (stored : before.Stored) (kept : KeepsRows before after) :
    after.parentOf = before.parentOf := by
  funext sessionId
  have extended : Extends (fun _ => False) before after := grows_of_quiet (fun _ => kept) stored
  cases found : before.findSession sessionId with
  | some row =>
    apply extended.parentOf stored
    rw [found]
    rfl
  | none =>
    rw [extended.parentOf_of_missing stored found id]
    unfold parentOf
    rw [found]
    rfl

theorem HasAncestors.of_parentOf_eq (same : after.parentOf = before.parentOf) :
    ∀ {count : Nat} {sessionId : String}, HasAncestors after count sessionId ->
      HasAncestors before count sessionId
  | 0, _, _ => True.intro
  | _ + 1, sessionId, ⟨parent, linked, rest⟩ =>
    ⟨parent, (congrFun same sessionId).symm.trans linked, of_parentOf_eq same rest⟩

end SessionDatabase

end LoongClaw.Session
