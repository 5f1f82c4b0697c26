import LoongClaw.Foundation.Exploration
import LoongClaw.Session.Database

namespace LoongClaw.Session

open Foundation SessionRepository Text Exploration

/-!
# Visible sessions

A session sees itself and its descendants.  `list_visible_sessions` descends
from a session with a recursive query, `is_session_visible` climbs from the
other end.  The two agree on every table of sessions, whatever its parent
links are.
-/

/-- A text as the repository stores it. -/
def Normalized (text : String) : Prop :=
  trim text = text /\ text ≠ ""

instance (text : String) : Decidable (Normalized text) :=
  inferInstanceAs (Decidable (trim text = text /\ text ≠ ""))

variable {text value fieldName : String}

theorem normalizeRequiredText_of_normalized (normalized : Normalized text) (fieldName : String) :
    normalizeRequiredText text fieldName = .ok text := by
  simp [normalizeRequiredText, normalized.1, normalized.2]

/-- The text that is accepted is trimmed and not empty. -/
theorem normalizeRequiredText_eq_ok_iff :
    normalizeRequiredText value fieldName = .ok text ↔ trim value = text /\ text ≠ "" := by
  unfold normalizeRequiredText
  by_cases empty : trim value = ""
  · simp only [empty, if_true, reduceCtorEq, false_iff, not_and, not_not]
    exact Eq.symm
  · simp only [empty, if_false, Except.ok.injEq]
    constructor
    · rintro rfl
      exact ⟨rfl, empty⟩
    · exact And.left

theorem eq_trim_of_normalizeRequiredText
    (accepted : normalizeRequiredText value fieldName = .ok text) : trim value = text :=
  (normalizeRequiredText_eq_ok_iff.mp accepted).1

theorem normalized_of_normalizeRequiredText
    (accepted : normalizeRequiredText value fieldName = .ok text) : Normalized text := by
  rcases normalizeRequiredText_eq_ok_iff.mp accepted with ⟨rfl, nonempty⟩
  exact ⟨trim_trim value, nonempty⟩

theorem normalized_of_normalizeOptionalText {value : Option String}
    (kept : normalizeOptionalText value = some text) : Normalized text := by
  rcases Option.filter_eq_some_iff.mp kept with ⟨trimmed, nonempty⟩
  rcases Option.map_eq_some_iff.mp trimmed with ⟨raw, _, rfl⟩
  exact ⟨trim_trim raw, of_decide_eq_true nonempty⟩

namespace SessionDatabase

/-! ## The descending query -/

variable (database : SessionDatabase)

def sessionIds : List String :=
  database.sessions.map (·.sessionId)

/-- The sessions with one parent. -/
def directChildren (parentSessionId : String) : List String :=
  (database.sessions.filter (·.parentSessionId = some parentSessionId)).map (·.sessionId)

def visibleIds (currentSessionId : String) (database : SessionDatabase) : List String :=
  let initial := (database.sessionIds.filter (· = currentSessionId)).dedup
  explore database.directChildren database.sessions.length initial initial

def sortSessionSummaries (sessions : List SessionSummaryRecord) : List SessionSummaryRecord :=
  sessions.mergeSort fun left right =>
    right.updatedAt < left.updatedAt ||
      (left.updatedAt = right.updatedAt && left.sessionId <= right.sessionId)

def listVisibleSessions (currentSessionId : String) (database : SessionDatabase) :
    Except String (List SessionSummaryRecord) := do
  let currentSessionId <- normalizeRequiredText currentSessionId "current_session_id"
  let visible := database.visibleIds currentSessionId
  let sessions := sortSessionSummaries
    ((database.sessions.filter (·.sessionId ∈ visible)).map (database.summary ·))
  if sessions.any (·.sessionId = currentSessionId) then .ok sessions
  else
    match database.inferLegacySessionSummary currentSessionId with
    | some legacy => .ok (sortSessionSummaries (sessions ++ [legacy]))
    | none => .ok sessions

/-! ## The climbing query -/

/-- The sessions and their parents. -/
def sessionTable : SessionTable :=
  database.sessions.map fun row => (row.sessionId, row.toSessionRecord)

def isSessionVisible (currentSessionId targetSessionId : String) (database : SessionDatabase) :
    Except String Bool :=
  sessionVisible currentSessionId targetSessionId
    { sessions := database.sessionTable
      approvalRequests := []
      approvalGrants := [] }

def parentOf (sessionId : String) : Option String :=
  (database.findSession sessionId).bind (·.parentSessionId)

theorem lookup_sessionTable (sessionId : String) (database : SessionDatabase) :
    OrderedMap.lookup sessionId database.sessionTable =
      (database.findSession sessionId).map SessionRow.toSessionRecord := by
  unfold sessionTable findSession
  induction database.sessions with
  | nil => rfl
  | cons row rows ih =>
    rw [List.map_cons, OrderedMap.lookup_cons, List.find?_cons]
    by_cases same : row.sessionId = sessionId
    · simp [same]
    · simp only [same, if_false, decide_false]
      exact ih

/-! ## Tables -/

/-- What the repository guarantees of its sessions: the ids are a primary key,
and all ids are stored normalized. -/
structure Stored : Prop where
  distinct : database.sessionIds.Nodup
  idsNormalized : ∀ row, row ∈ database.sessions -> Normalized row.sessionId
  parentsNormalized : ∀ row, row ∈ database.sessions ->
    ∀ parent, row.parentSessionId = some parent -> Normalized parent

variable {database : SessionDatabase} {sessionId : String} {later : SessionDatabase} {now : Int}
  {expectedState nextState : SessionState} {lastError : Option String} {current target : String}

/-- Ids are distinct, so that the first row found is the only one. -/
theorem findSession_eq_some_iff (distinct : database.sessionIds.Nodup) {row : SessionRow} :
    database.findSession sessionId = some row ↔
      row ∈ database.sessions /\ row.sessionId = sessionId := by
  constructor
  · intro found
    exact ⟨List.mem_of_find?_eq_some found, by simpa using List.find?_some found⟩
  · rintro ⟨member, named⟩
    cases found : database.findSession sessionId with
    | none =>
      have absent := List.find?_eq_none.mp found row member
      simp [named] at absent
    | some other =>
      have otherMember := List.mem_of_find?_eq_some found
      have otherNamed : other.sessionId = sessionId := by simpa using List.find?_some found
      rw [List.inj_on_of_nodup_map distinct otherMember member (otherNamed.trans named.symm)]

theorem mem_sessionIds_iff :
    sessionId ∈ database.sessionIds ↔ (database.findSession sessionId).isSome := by
  unfold sessionIds findSession
  rw [List.mem_map, List.find?_isSome]
  simp only [decide_eq_true_eq]

theorem Stored.insertSession (stored : database.Stored) {record : NewSessionRecord}
    (idNormalized : Normalized record.sessionId)
    (parentNormalized : ∀ parent, record.parentSessionId = some parent -> Normalized parent)
    (inserted : database.insertSession now record = .ok later) : later.Stored := by
  unfold SessionDatabase.insertSession at inserted
  split at inserted
  · cases inserted
  case isFalse absent =>
    cases inserted
    refine ⟨?_, ?_, ?_⟩
    · rw [<- mem_sessionIds_iff] at absent
      unfold sessionIds
      rw [List.map_append, List.map_singleton]
      exact List.nodup_append_comm.mp (List.nodup_cons.mpr ⟨absent, stored.distinct⟩)
    · refine List.forall_mem_append.mpr ⟨stored.idsNormalized, ?_⟩
      exact List.forall_mem_singleton.mpr idNormalized
    · refine List.forall_mem_append.mpr ⟨stored.parentsNormalized, ?_⟩
      exact List.forall_mem_singleton.mpr parentNormalized

theorem changeState_eq_some_iff :
    database.changeState sessionId expectedState nextState lastError now = some later ↔
      (∃ row, row ∈ database.sessions /\ row.sessionId = sessionId /\ row.state = expectedState) /\
      later = { database with
        sessions := database.sessions.map
          (SessionRow.update sessionId expectedState nextState lastError now) } := by
  unfold changeState
  simp only [List.any_eq_true, Bool.and_eq_true, decide_eq_true_eq]
  constructor
  · intro changed
    split at changed
    case isTrue found => exact ⟨found, (Option.some_inj.mp changed).symm⟩
    case isFalse => cases changed
  · rintro ⟨found, rfl⟩
    rw [if_pos found]

/-- A change of state touches neither ids nor parents. -/
theorem Stored.changeState (stored : database.Stored)
    (changed : database.changeState sessionId expectedState nextState lastError now = some later) :
    later.Stored := by
  rcases changeState_eq_some_iff.mp changed with ⟨_, rfl⟩
  have sameIds : (database.sessions.map (SessionRow.update sessionId expectedState nextState
      lastError now)).map (·.sessionId) = database.sessionIds := by
    simp [sessionIds, Function.comp_def]
  refine ⟨?_, ?_, ?_⟩
  · change (List.map _ (List.map _ _)).Nodup
    rw [sameIds]
    exact stored.distinct
  · intro row member
    rcases List.mem_map.mp member with ⟨source, sourceMember, rfl⟩
    rw [SessionRow.update_toSessionRecord]
    exact stored.idsNormalized source sourceMember
  · intro row member
    rcases List.mem_map.mp member with ⟨source, sourceMember, rfl⟩
    rw [SessionRow.update_toSessionRecord]
    exact stored.parentsNormalized source sourceMember

/-! ## Agreement -/

/-- The climb finds the goal exactly if links lead there.  Each round sees one
more stored id, so that the rounds do not run out. -/
theorem climbToParent_eq_true_iff (stored : database.Stored) (goal : String) {rounds : Nat} :
    ∀ (seen : List String) (current : String),
      Trail database.parentOf goal seen current ->
      seen.Nodup -> seen ⊆ database.sessionIds -> Normalized current ->
      database.sessionIds.length < rounds + seen.length ->
      (climbToParent database.sessionTable goal rounds seen current = .ok true ↔
        Relation.TransGen (Linked database.parentOf) current goal) := by
  induction rounds with
  | zero =>
    intro seen current _ distinct inside _ enough
    have shorter := (List.subperm_of_subset distinct inside).length_le
    omega
  | succ rounds ih =>
    intro seen current trail distinct inside normalized enough
    unfold climbToParent
    by_cases returned : current ∈ seen
    · rw [if_pos returned]
      exact iff_of_false (by simp) (trail.not_reached returned)
    · rw [if_neg returned, normalizeRequiredText_of_normalized normalized, Fallible.ok_bind,
        lookup_sessionTable]
      cases found : database.findSession current with
      | none =>
        have unlinked : database.parentOf current = none := by simp [parentOf, found]
        exact iff_of_false (by simp) (not_transGen_of_unlinked unlinked)
      | some row =>
        have member := (findSession_eq_some_iff stored.distinct).mp found
        cases parent : row.parentSessionId with
        | none =>
          have unlinked : database.parentOf current = none := by
            simp [parentOf, found, parent]
          simp only [Option.map_some, parent]
          exact iff_of_false (by simp) (not_transGen_of_unlinked unlinked)
        | some next =>
          have linked : database.parentOf current = some next := by
            simp [parentOf, found, parent]
          simp only [Option.map_some, parent]
          rw [transGen_linked_iff linked]
          by_cases arrived : next = goal
          · simp [arrived]
          · rw [if_neg arrived]
            have listed : current ∈ database.sessionIds := by
              rw [mem_sessionIds_iff, found]
              rfl
            have climbed := ih (current :: seen) next (trail.climb linked arrived)
              (List.nodup_cons.mpr ⟨returned, distinct⟩)
              (List.cons_subset.mpr ⟨listed, inside⟩)
              (stored.parentsNormalized row member.1 next parent)
              (by rw [List.length_cons]; omega)
            rw [climbed]
            exact ⟨Or.inr, fun reached => reached.resolve_left arrived⟩

/-- The descent of the listing and the climb of the check follow the same links. -/
theorem leads_directChildren_iff (distinct : database.sessionIds.Nodup) {parent child : String} :
    Leads database.directChildren parent child ↔
      Linked database.parentOf child parent := by
  unfold Leads Linked directChildren parentOf
  simp only [List.mem_map, List.mem_filter, decide_eq_true_eq, Option.bind_eq_some_iff,
    findSession_eq_some_iff distinct]
  constructor
  · rintro ⟨row, ⟨member, linked⟩, named⟩
    exact ⟨row, ⟨member, named⟩, linked⟩
  · rintro ⟨row, ⟨member, named⟩, linked⟩
    exact ⟨row, ⟨member, linked⟩, named⟩

/-- The recursive query of the listing collects the session and all its
descendants. -/
theorem mem_visibleIds_iff (distinct : database.sessionIds.Nodup)
    (hasRow : current ∈ database.sessionIds) (target : String) :
    target ∈ database.visibleIds current ↔ target = current \/
        Relation.TransGen (Linked database.parentOf) target current := by
  have initial : (database.sessionIds.filter (· = current)).dedup = [current] := by
    have once : database.sessionIds.filter (· = current) = [current] := by
      rw [List.filter_eq, List.count_eq_one_of_mem distinct hasRow, List.replicate_one]
    rw [once]
    rfl
  have within : ∀ parent child, Leads database.directChildren parent child ->
      child ∈ database.sessionIds := by
    intro parent child leads
    rcases List.mem_map.mp leads with ⟨row, selected, rfl⟩
    exact List.mem_map_of_mem (List.mem_filter.mp selected).1
  have swapped : Leads database.directChildren =
      Function.swap (Linked database.parentOf) := by
    funext parent child
    exact propext (leads_directChildren_iff distinct)
  have explored := mem_explore_singleton_iff within hasRow target
  unfold visibleIds
  rw [initial]
  rw [sessionIds, List.length_map] at explored
  rw [explored, swapped, Relation.reflTransGen_swap, Relation.reflTransGen_iff_eq_or_transGen,
    eq_comm]

theorem listVisibleSessions_eq_ok (normalized : Normalized current)
    (visible : current ∈ database.visibleIds current) (hasRow : current ∈ database.sessionIds) :
    database.listVisibleSessions current = .ok (sortSessionSummaries ((database.sessions.filter
        (·.sessionId ∈ database.visibleIds current)).map (database.summary ·))) := by
  have listed : (sortSessionSummaries ((database.sessions.filter
      (·.sessionId ∈ database.visibleIds current)).map (database.summary ·))).any
        (·.sessionId = current) = true := by
    rcases List.mem_map.mp hasRow with ⟨row, member, rfl⟩
    simp only [sortSessionSummaries, List.any_eq_true, List.mem_mergeSort, List.mem_map,
      List.mem_filter, decide_eq_true_eq]
    exact ⟨_, ⟨row, ⟨member, visible⟩, rfl⟩, rfl⟩
  unfold listVisibleSessions
  rw [normalizeRequiredText_of_normalized normalized]
  change (if _ then _ else _) = _
  rw [if_pos listed]

/-- The check accepts the session itself and its descendants. -/
theorem isSessionVisible_eq_true_iff (stored : database.Stored)
    (currentNormalized : Normalized current) (targetNormalized : Normalized target) :
    database.isSessionVisible current target = .ok true ↔ target = current \/
        Relation.TransGen (Linked database.parentOf) target current := by
  unfold isSessionVisible sessionVisible
  rw [normalizeRequiredText_of_normalized currentNormalized,
    normalizeRequiredText_of_normalized targetNormalized]
  change (if current = target then Except.ok true else _) = .ok true ↔ _
  by_cases same : current = target
  · simp [same]
  · rw [if_neg same]
    have enough : database.sessionIds.length < database.sessionTable.length + 2 + 0 := by
      simp [sessionIds, sessionTable]
    have climbed := climbToParent_eq_true_iff stored current
      [] target nofun List.nodup_nil (List.nil_subset _) targetNormalized enough
    rw [climbed]
    exact ⟨Or.inr, fun visible => visible.resolve_left (Ne.symm same)⟩

end SessionDatabase

open SessionDatabase

/-- An id as the repository stores it. -/
abbrev SessionId :=
  { text : String // Normalized text }

/-- A database with the sessions that the repository can have stored. -/
abbrev StoredDatabase :=
  { database : SessionDatabase // database.Stored }

/-- The listing shows a session exactly if the check says that it is visible,
for every graph of parents. -/
theorem visible_sessions_listed_iff (database : StoredDatabase) (current target : SessionId)
    (hasRow : (database.val.findSession current.val).isSome) :
    ∃ listed, database.val.listVisibleSessions current.val = .ok listed /\
        ((∃ summary, summary ∈ listed /\ summary.sessionId = target.val) ↔
          database.val.isSessionVisible current.val target.val = .ok true) := by
  have stored := database.property
  have listedId := mem_sessionIds_iff.mpr hasRow
  have visibleIff := mem_visibleIds_iff stored.distinct listedId
  refine ⟨_, listVisibleSessions_eq_ok current.property
    ((visibleIff current.val).mpr (Or.inl rfl)) listedId, ?_⟩
  rw [isSessionVisible_eq_true_iff stored current.property target.property,
    <- visibleIff target.val]
  simp only [sortSessionSummaries, List.mem_mergeSort, List.mem_map,
    List.mem_filter, decide_eq_true_eq]
  constructor
  · rintro ⟨summary, ⟨row, ⟨_, visible⟩, rfl⟩, named⟩
    exact named ▸ visible
  · intro visible
    have hasTarget : target.val ∈ database.val.sessionIds := by
      rcases (visibleIff target.val).mp visible with same | path
      · rw [same]
        exact listedId
      · rcases Relation.TransGen.head'_iff.mp path with ⟨parent, linked, _⟩
        rcases Option.bind_eq_some_iff.mp linked with ⟨row, found, _⟩
        rw [mem_sessionIds_iff, found]
        rfl
    rcases List.mem_map.mp hasTarget with ⟨row, member, named⟩
    exact ⟨_, ⟨row, ⟨member, named ▸ visible⟩, rfl⟩, named⟩

namespace VisibilitySample

def row (sessionId : String) (parentSessionId : Option String) : SessionRow where
  sessionId := sessionId
  parentSessionId := parentSessionId
  kind := .delegateChild
  label := none
  state := .ready
  createdAt := 0
  updatedAt := 0
  lastError := none

/-- A session on a circle, a child of it, a session that is its own parent and
one whose parent is missing. -/
def tangled : SessionDatabase where
  sessions := [row "a" (some "b"), row "b" (some "a"), row "c" (some "a"), row "s" (some "s"),
    row "d" (some "missing")]
  events := []
  terminalOutcomes := []
  turns := []

theorem tangled_stored : tangled.Stored where
  distinct := by decide
  idsNormalized := by decide +kernel
  parentsNormalized := by decide +kernel

end VisibilitySample

open VisibilitySample

theorem tangled_sessions_listed_iff : (tangled.findSession "a").isSome /\ ∃ listed,
        tangled.listVisibleSessions "a" = .ok listed /\
          ((∃ summary, summary ∈ listed /\ summary.sessionId = "c") ↔
            tangled.isSessionVisible "a" "c" = .ok true) :=
  ⟨by decide, visible_sessions_listed_iff ⟨tangled, tangled_stored⟩ ⟨"a", by decide +kernel⟩
    ⟨"c", by decide +kernel⟩ (by decide)⟩

end LoongClaw.Session
