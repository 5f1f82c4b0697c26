import LoongClaw.Session.Lineage
import LoongClaw.Conversation.DelegateFinality

namespace LoongClaw.Conversation

open Foundation Contracts Session Tools Program SessionDatabase
open SessionDatabase (Quiet KeepsRows Grows Extends HasAncestors Bounded grows_interference)
open SessionStore (Opens)

/-!
# The limits of delegation

At most so many children of a session are queued or running, and a child has at
most so many ancestors.  Changes of state and new roots keep both limits.  A new
child keeps them if its parent has room for it, and if what is known about the
ancestors of the parent can no longer change.
-/

/-! ## The limits -/

/-- The children of a session that are queued or running. -/
def activeDelegateChildren (parent : String) (database : SessionDatabase) : Nat :=
  database.sessions.countP fun row =>
    row.kind = .delegateChild && row.parentSessionId = some parent &&
      (row.state = .ready || row.state = .running)

/-- The limits hold, and a drawn id is a parent only if it has a row. -/
structure WithinLimits (config : DelegateToolConfig) (drawn : String -> Prop)
    (database : SessionDatabase) : Prop where
  active : ∀ parent, activeDelegateChildren parent database <= config.maxActiveChildren
  depth : ∀ row, row ∈ database.sessions -> row.kind = .delegateChild ->
    ∀ count, HasAncestors database count row.sessionId -> count <= config.maxDepth
  anchored : AnchoredParents drawn database

/-- What every statement gives: the sessions grow, drawn parents keep their rows,
and sessions within the limits stay within them. -/
def Upholds (config : DelegateToolConfig) (drawn : String -> Prop)
    (before after : SessionDatabase) : Prop :=
  Grows drawn before after /\
    (before.Stored -> AnchoredParents drawn before -> AnchoredParents drawn after) /\
    (before.Stored -> WithinLimits config drawn before -> WithinLimits config drawn after)

section Counting

theorem active_iff_not_terminal {state : SessionState} :
    (state = .ready || state = .running) = !state.isTerminal := by
  cases state <;> rfl

theorem activeDelegateChildren_le (parent : String) (database : SessionDatabase) :
    activeDelegateChildren parent database <= database.countActiveDirectChildren parent := by
  apply List.countP_mono_left
  intro row _ counted
  rw [active_iff_not_terminal, Bool.and_assoc] at counted
  exact (Bool.and_eq_true_iff.mp counted).2

/-- A row that is kept is not more active than it was. -/
theorem countP_le_of_kept {rows later : List SessionRow} {counted : SessionRow -> Bool}
    (kept : List.Forall₂ SessionRow.Kept rows later)
    (stays : ∀ row next : SessionRow, row.Kept next -> counted next = true -> counted row = true) :
    later.countP counted <= rows.countP counted := by
  induction kept with
  | nil => exact Nat.le_refl _
  | @cons row next rows later first _ ih =>
    rw [List.countP_cons, List.countP_cons]
    by_cases counts : counted next = true
    · rw [if_pos counts, if_pos (stays _ _ first counts)]
      exact Nat.succ_le_succ ih
    · rw [if_neg counts]
      exact Nat.le_trans ih (Nat.le_add_right _ _)

variable {before after : SessionDatabase}

theorem activeDelegateChildren_of_keepsRows (kept : KeepsRows before after) {parent : String} :
    activeDelegateChildren parent after <= activeDelegateChildren parent before := by
  refine countP_le_of_kept kept.rows ?_
  intro row next same counts
  rw [active_iff_not_terminal, same.record, same.kind] at counts
  rw [active_iff_not_terminal]
  cases ended : row.state.isTerminal with
  | false =>
    rw [Bool.and_eq_true_iff] at counts
    rw [counts.1]
    rfl
  | true =>
    rw [same.state ended, ended, Bool.not_true, Bool.and_false] at counts
    cases counts

theorem activeDelegateChildren_of_opens {now : Int} {record : NewSessionRecord}
    (opens : Opens now record before after) (parent : String) :
    activeDelegateChildren parent after <= activeDelegateChildren parent before +
      if record.parentSessionId = some parent then 1 else 0 := by
  unfold activeDelegateChildren
  rw [opens.sessions, List.countP_append, Nat.add_le_add_iff_left, List.countP_singleton]
  by_cases linked : record.parentSessionId = some parent
  · split <;> omega
  · simp [newRow, linked]

end Counting

section Steps

variable {config : DelegateToolConfig} {drawn : String -> Prop} {before after : SessionDatabase}

theorem upholds_interference (config : DelegateToolConfig) (drawn : String -> Prop) :
    Interference (Upholds config drawn) where
  refl database :=
    ⟨(grows_interference drawn).refl database, fun _ anchored => anchored, fun _ within => within⟩
  trans earlier later :=
    ⟨(grows_interference drawn).trans earlier.1 later.1,
      fun stored anchored => later.2.1 (earlier.1 stored).stored (earlier.2.1 stored anchored),
      fun stored within => later.2.2 (earlier.1 stored).stored (earlier.2.2 stored within)⟩

theorem upholds_of_quiet (quiet : Quiet before after) : Upholds config drawn before after := by
  have grows : Grows drawn before after := grows_of_quiet quiet
  have anchors : before.Stored -> AnchoredParents drawn before -> AnchoredParents drawn after := by
    intro stored anchored next member parent linked isDrawn
    rcases exists_kept (quiet stored).rows.flip member with ⟨row, rowMember, (same : row.Kept next)⟩
    rw [same.record] at linked
    exact (grows stored).findSession_isSome stored (anchored row rowMember parent linked isDrawn)
  refine ⟨grows, anchors, ?_⟩
  intro stored within
  have kept := quiet stored
  have sameParents := parentOf_of_keepsRows stored kept
  refine ⟨?_, ?_, anchors stored within.anchored⟩
  · intro parent
    exact Nat.le_trans (activeDelegateChildren_of_keepsRows kept) (within.active parent)
  · intro next member isChild count ancestors
    rcases exists_kept kept.rows.flip member with ⟨row, rowMember, (same : row.Kept next)⟩
    rw [same.record] at ancestors
    rw [same.kind] at isChild
    exact within.depth row rowMember isChild count (ancestors.of_parentOf_eq sameParents)

variable {now : Int} {record : NewSessionRecord}

/-- A new session whose parent, if drawn, has a row leaves the parents anchored. -/
theorem anchoredParents_of_opens (opens : Opens now record before after)
    (grows : Grows drawn before after)
    (known : ∀ parent, record.parentSessionId = some parent -> drawn parent ->
      (before.findSession parent).isSome) (stored : before.Stored)
    (anchored : AnchoredParents drawn before) : AnchoredParents drawn after := by
  intro row member parent linked isDrawn
  rw [opens.sessions] at member
  apply (grows stored).findSession_isSome stored
  rcases List.mem_append.mp member with old | new
  · exact anchored row old parent linked isDrawn
  · rw [List.mem_singleton.mp new] at linked
    exact known parent linked isDrawn

/-- A new session without parent changes no lineage. -/
theorem upholds_of_root (opens : Opens now record before after)
    (parentless : record.parentSessionId = none) (isRoot : record.kind = .root) :
    Upholds config drawn before after := by
  have grows : Grows drawn before after :=
    grows_of_opens opens (Or.inl parentless)
  have anchors := anchoredParents_of_opens opens grows fun parent linked =>
    absurd (parentless.symm.trans linked) nofun
  refine ⟨grows, anchors, ?_⟩
  intro stored within
  have sameParents : after.parentOf = before.parentOf := by
    funext sessionId
    by_cases new : sessionId = record.sessionId
    · rw [new, parentOf_opened opens, parentless]
      unfold parentOf
      rw [opens.absent]
      rfl
    · exact parentOf_of_opens opens new
  refine ⟨?_, ?_, anchors stored within.anchored⟩
  · intro parent
    have counted := activeDelegateChildren_of_opens opens parent
    rw [if_neg (by rw [parentless]; exact nofun)] at counted
    exact Nat.le_trans counted (within.active parent)
  · intro row member isChild count ancestors
    rw [opens.sessions] at member
    rcases List.mem_append.mp member with old | new
    · exact within.depth row old isChild count (ancestors.of_parentOf_eq sameParents)
    · rw [List.mem_singleton.mp new] at isChild
      exact absurd (isRoot.symm.trans isChild) nofun

/-- A child within the limits keeps them: it is counted here, and its depth
was known before. -/
theorem upholds_of_child {parent : String} {depth : Nat} (opens : Opens now record before after)
    (linked : record.parentSessionId = some parent) (isDrawn : drawn record.sessionId)
    (room : before.countActiveDirectChildren parent < config.maxActiveChildren)
    (bounded : Bounded drawn before parent depth) (shallow : depth + 1 <= config.maxDepth)
    (parentKnown : drawn parent -> (before.findSession parent).isSome) :
    Upholds config drawn before after := by
  have grows : Grows drawn before after :=
    grows_of_opens opens (Or.inr isDrawn)
  have anchors := anchoredParents_of_opens opens grows fun other isParent drawnParent => by
    cases linked.symm.trans isParent
    exact parentKnown drawnParent
  refine ⟨grows, anchors, ?_⟩
  intro stored within
  refine ⟨?_, ?_, anchors stored within.anchored⟩
  · intro other
    have counted := activeDelegateChildren_of_opens opens other
    rw [linked] at counted
    by_cases same : some parent = some other
    · rw [if_pos same, <- Option.some.inj same] at counted
      rw [<- Option.some.inj same]
      have fewer := activeDelegateChildren_le parent before
      omega
    · rw [if_neg same] at counted
      exact Nat.le_trans counted (within.active other)
  · intro row member isChild count ancestors
    rw [opens.sessions] at member
    rcases List.mem_append.mp member with old | new
    · have notNew : row.sessionId ≠ record.sessionId := by
        intro same
        have found := (findSession_eq_some_iff stored.distinct).mpr ⟨old, same⟩
        rw [opens.absent] at found
        cases found
      have unlinked : ∀ child parent, before.parentOf child = some parent ->
          parent ≠ record.sessionId := by
        rintro child parent linked rfl
        rcases Option.bind_eq_some_iff.mp linked with ⟨row, found, rowLinked⟩
        have member := (findSession_eq_some_iff stored.distinct).mp found
        have present := within.anchored row member.1 _ rowLinked isDrawn
        rw [opens.absent] at present
        cases present
      exact within.depth row old isChild count (ancestors.of_opens opens unlinked notNew)
    · rw [List.mem_singleton.mp new] at ancestors
      cases count with
      | zero => exact Nat.zero_le _
      | succ count =>
        rcases ancestors with ⟨ancestor, link, further⟩
        change after.parentOf record.sessionId = some ancestor at link
        rw [parentOf_opened opens, linked] at link
        cases link
        exact Nat.le_trans (Nat.succ_le_succ (bounded after grows count further)) shallow

end Steps

/-! ## Programs within the limits -/

/-- Whatever other tasks do, the program stays within the limits and its
answers are as stated. -/
abbrev Abides {α : Type} (config : DelegateToolConfig) (drawn : String -> Prop)
    (answer : α -> SessionDatabase -> Prop) (program : SessionProgram α)
    (database : SessionDatabase) : Prop :=
  program.Secures (Upholds config drawn) (Upholds config drawn)
    (fun result later => ∀ value, result = .ok value -> answer value later) database

/-- What stays true of stored sessions while they grow. -/
def Lasting (drawn : String -> Prop) (known : SessionDatabase -> Prop) : Prop :=
  ∀ before after, before.Stored -> known before -> Extends drawn before after -> known after

section Rules

variable {config : DelegateToolConfig} {drawn : String -> Prop} {α β : Type}
  {program : SessionProgram α} {answer : α -> SessionDatabase -> Prop}
  {known : SessionDatabase -> Prop} {database : SessionDatabase}

theorem abides_pure {value : α}
    (holds : ∀ later, Upholds config drawn database later -> answer value later) :
    Abides config drawn answer (pure value) database :=
  secures_finish fun later interfered _ same => Except.ok.inj same ▸ holds later interfered

theorem abides_fail {error : String} : Abides config drawn answer (fail error) database :=
  secures_finish fun _ _ _ => nofun

theorem abides_bind {between : α -> SessionDatabase -> Prop}
    {answer : β -> SessionDatabase -> Prop} {next : α -> SessionProgram β}
    (first : Abides config drawn between program database)
    (second : ∀ value later, between value later -> Abides config drawn answer (next value) later) :
    Abides config drawn answer (program >>= next) database :=
  secures_bind (upholds_interference config drawn) first
    (fun value later ends => second value later (ends value rfl)) (fun _ _ _ _ => nofun)

theorem abides_caught (abides : Abides config drawn answer program database) :
    Abides config drawn (fun _ _ => True) (program.caught : SessionProgram _) database :=
  secures_caught (secures_mono abides fun _ _ _ _ _ => True.intro)

theorem abides_cutOff {κ : Type} {cut : Moment -> Option κ}
    (abides : Abides config drawn answer program database) :
    Abides config drawn (fun _ _ => True) (program.cutOff cut : SessionProgram _) database :=
  secures_mono (secures_cutOff (upholds_interference config drawn).refl abides)
    fun _ _ _ _ _ => True.intro

/-- What lasts is still known after a program. -/
theorem abides_keeps (lasting : Lasting drawn known)
    (abides : Abides config drawn answer program database) (stored : database.Stored)
    (holds : known database) :
    Abides config drawn
      (fun value later => answer value later /\ later.Stored /\ known later) program database := by
  have stable : ∀ {before after}, before.Stored /\ known before ->
      Upholds config drawn before after -> after.Stored /\ known after := by
    rintro before after ⟨isStored, isKnown⟩ upheld
    have extended := upheld.1 isStored
    exact ⟨extended.stored, lasting before after isStored isKnown extended⟩
  have kept := secures_with @stable (fun _ _ => id) abides ⟨stored, holds⟩
  exact secures_mono kept fun _ _ ends value same => ⟨ends.1 value same, ends.2⟩

theorem abides_of_quiet (respects : program.Respects Quiet) :
    Abides config drawn (fun _ _ => True) program database :=
  secures_mono (secures_of_respects (respects_mono respects fun _ _ => upholds_of_quiet) database)
    fun _ _ _ _ _ => True.intro

/-- A quiet program does not disturb what lasts. -/
theorem abides_quiet (lasting : Lasting drawn known) (respects : program.Respects Quiet)
    (stored : database.Stored) (holds : known database) :
    Abides config drawn (fun _ later => later.Stored /\ known later) program database :=
  secures_mono (abides_keeps lasting (abides_of_quiet respects) stored holds)
    fun _ _ ends value same => (ends value same).2

theorem abides_loadSession {sessionId : String} : Abides config drawn
      (fun stored later => ∃ read, Upholds config drawn database read /\
        Upholds config drawn read later /\ read.findSession (Text.trim sessionId) = stored)
      (SessionStore.loadSession sessionId) database :=
  SessionStore.secures_loadSession (upholds_interference config drawn).refl

end Rules

end LoongClaw.Conversation
