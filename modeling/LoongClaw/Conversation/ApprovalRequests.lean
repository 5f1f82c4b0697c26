import LoongClaw.Conversation.ApprovalResolution

namespace LoongClaw.Conversation

open Foundation Contracts Tools Session Program Fallible SessionRepository OrderedMap Text

/-!
# What an approval request stands for

When the preflight answers that a tool call needs an approval, it names a
stored request.  The name is a digest of identifiers that the provider may
repeat, and an existing row is kept.  So the request that is named need not be
pending, and need not store the call that raised it.  The cases in which it
does are characterised over all histories of calls and resolutions.
-/

/-! ## The preflight and the stored requests -/

/-- A program leaves a part of the store alone. -/
def Keeps {ε α β : Type} (part : Store -> β) (program : Program Circumstance Store ε α) : Prop :=
  ∀ store, program.Ensures (fun _ later => part later = part store) store

section Keeping

variable {β : Type} {part : Store -> β} {ε α : Type}

theorem keeps_lift (outcome : Except ε α) : Keeps part (lift outcome) :=
  fun _ => ensures_lift rfl

theorem keeps_query (read : SessionRepository -> Except String α) : Keeps part (query read) := by
  intro store
  refine ensures_atomic fun circumstance => ?_
  cases circumstance.fault <;> rfl

theorem keeps_bind {γ : Type} {program : Program Circumstance Store ε α}
    {next : α -> Program Circumstance Store ε γ} (first : Keeps part program)
    (second : ∀ value, Keeps part (next value)) : Keeps part (program >>= next) := by
  intro store
  refine ensures_bind (first store) ?_ fun _ _ same => same
  intro value between same
  exact ensures_mono (second value between) fun _ _ kept => kept.trans same

theorem keeps_loadSession {sessionId : String} : Keeps part (loadSession sessionId) :=
  keeps_bind (keeps_lift _) fun _ => keeps_query _

theorem keeps_loadApprovalRequest {approvalRequestId : String} :
    Keeps part (loadApprovalRequest approvalRequestId) :=
  keeps_bind (keeps_lift _) fun _ => keeps_query _

theorem keeps_loadApprovalGrant (scopeSessionId approvalKey : String) :
    Keeps part (loadApprovalGrant scopeSessionId approvalKey) :=
  keeps_bind (keeps_lift _) fun _ => keeps_bind (keeps_lift _) fun _ => keeps_query _

/-- Of the statements of `ensureSession` only the insertion writes. -/
theorem keeps_ensureSession (inserts : ∀ record, Keeps part (update (insertSession record)))
    (record : SessionRecord) : Keeps part (ensureSession record) := by
  refine keeps_bind (keeps_lift _) fun sessionId => ?_
  refine keeps_bind keeps_loadSession fun existing => ?_
  cases existing with
  | some session => exact keeps_lift _
  | none =>
    refine keeps_bind (inserts _) fun inserted => ?_
    exact keeps_bind keeps_loadSession fun _ => keeps_lift _

end Keeping

/-- A program leaves the approval requests alone. -/
abbrev KeepsRequests {α : Type} (program : RepositoryProgram α) : Prop :=
  Keeps (fun store => store.repository.approvalRequests) program

theorem keepsRequests_insertSession (record : SessionRecord) :
    KeepsRequests (update (insertSession record)) := by
  intro store
  refine ensures_atomic fun circumstance => ?_
  cases circumstance.fault with
  | some error => rfl
  | none =>
    dsimp only
    unfold insertSession
    split <;> rfl

section

variable (record : NewApprovalRequestRecord)

/-- The record with every text trimmed. -/
def trimmedRecord : NewApprovalRequestRecord :=
  { record with
    approvalRequestId := trim record.approvalRequestId
    sessionId := trim record.sessionId
    turnId := trim record.turnId
    toolCallId := trim record.toolCallId
    toolName := trim record.toolName
    approvalKey := trim record.approvalKey }

theorem normalizeApprovalRequest_eq_ok {record normal : NewApprovalRequestRecord}
    (normalized : normalizeApprovalRequest record = .ok normal) :
    normal = trimmedRecord record := by
  rcases bind_eq_ok_iff.mp normalized with ⟨approvalRequestId, isId, normalized⟩
  rcases bind_eq_ok_iff.mp normalized with ⟨sessionId, isSession, normalized⟩
  rcases bind_eq_ok_iff.mp normalized with ⟨turnId, isTurn, normalized⟩
  rcases bind_eq_ok_iff.mp normalized with ⟨toolCallId, isCall, normalized⟩
  rcases bind_eq_ok_iff.mp normalized with ⟨toolName, isTool, normalized⟩
  rcases bind_eq_ok_iff.mp normalized with ⟨approvalKey, isKey, normalized⟩
  rw [<- Except.ok.inj normalized, normalizeRequiredText_eq_ok isId,
    normalizeRequiredText_eq_ok isSession, normalizeRequiredText_eq_ok isTurn,
    normalizeRequiredText_eq_ok isCall, normalizeRequiredText_eq_ok isTool,
    normalizeRequiredText_eq_ok isKey]
  rfl

/-- The requests are as before, or the record is new among them. -/
def Recorded (before after : Store) : Prop :=
  after.repository.approvalRequests = before.repository.approvalRequests \/
    rowOf record.approvalRequestId before = none /\ after.repository.approvalRequests =
        insert record.approvalRequestId (pendingRow record) before.repository.approvalRequests

variable {record}

theorem Recorded.congr {first before after : Store}
    (recorded : Recorded record before after)
    (same : before.repository.approvalRequests = first.repository.approvalRequests) :
    Recorded record first after := by
  unfold Recorded rowOf at recorded ⊢
  rw [same] at recorded
  exact recorded

theorem Recorded.of_same {before after last : Store}
    (recorded : Recorded record before after) (same : last.repository = after.repository) :
    Recorded record before last := by
  unfold Recorded at recorded ⊢
  rw [same]
  exact recorded

theorem ensures_loadApprovalRequest {approvalRequestId : String} {store : Store} :
    (loadApprovalRequest approvalRequestId).Ensures (fun result later =>
      later.repository = store.repository /\ ∀ found, result = .ok found ->
        found = rowOf (trim approvalRequestId) store) store := by
  unfold loadApprovalRequest
  cases normalized : normalizeRequiredText approvalRequestId "approval_request_id" with
  | error error =>
    exact ensures_lift ⟨rfl, nofun⟩
  | ok key =>
    rw [lift_ok_bind, normalizeRequiredText_eq_ok normalized]
    refine ensures_atomic fun circumstance => ?_
    cases circumstance.fault with
    | some error => exact ⟨rfl, nofun⟩
    | none => exact ⟨rfl, fun found isFound => (Except.ok.inj isFound).symm⟩

theorem ensures_insertApprovalRequest {store : Store} :
    (update (insertApprovalRequest record)).Ensures
      (fun _ later => Recorded record store later) store := by
  refine ensures_atomic fun circumstance => ?_
  cases circumstance.fault with
  | some error => exact Or.inl rfl
  | none =>
    unfold insertApprovalRequest contains
    cases stored : rowOf record.approvalRequestId store with
    | some row =>
      rw [rowOf] at stored
      rw [stored]
      exact Or.inl rfl
    | none =>
      refine Or.inr ⟨stored, ?_⟩
      rw [rowOf] at stored
      rw [stored]
      rfl

/-- The row that is returned is the stored one. -/
theorem ensures_ensureApprovalRequest (record : NewApprovalRequestRecord) (store : Store) :
    (ensureApprovalRequest record).Ensures (fun result later =>
      Recorded (trimmedRecord record) store later /\ ∀ row, result = .ok row ->
          rowOf (trimmedRecord record).approvalRequestId later = some row) store := by
  unfold ensureApprovalRequest
  cases normalized : normalizeApprovalRequest record with
  | error error =>
    exact ensures_lift ⟨Or.inl rfl, nofun⟩
  | ok normal =>
    rw [lift_ok_bind, normalizeApprovalRequest_eq_ok normalized]
    refine ensures_bind (keeps_loadSession store) ?_ fun _ _ same => ⟨Or.inl same, nofun⟩
    intro session between sameRequests
    refine ensures_bind (keeps_lift _ between) ?_
      fun _ _ same => ⟨Or.inl (same.trans sameRequests), nofun⟩
    intro found checked same
    refine ensures_bind ensures_insertApprovalRequest ?_
      fun _ _ recorded => ⟨recorded.congr (same.trans sameRequests), nofun⟩
    intro inserted after recorded
    have fromStart := recorded.congr (same.trans sameRequests)
    refine ensures_bind ensures_loadApprovalRequest ?_
      fun _ _ loaded => ⟨fromStart.of_same loaded.1, nofun⟩
    intro stored later loaded
    refine ensures_lift ⟨fromStart.of_same loaded.1, ?_⟩
    intro row returned
    have isRow := loaded.2 stored rfl
    rw [okOr_eq_ok_iff.mp returned] at isRow
    rw [rowOf, loaded.1]
    rw [rowOf, trimmedRecord, trim_trim] at isRow
    exact isRow.symm

end

/-! ## Calls -/

/-- A tool call before the preflight. -/
structure GovernedCall where
  session : LineageContext
  intent : ToolCallIntent
  descriptor : ToolDescriptor

section Calls

variable (digest : List UInt8 -> List UInt8) (call : GovernedCall)

def GovernedCall.requestId : String :=
  governedApprovalRequestId digest call.session call.descriptor.name call.intent

variable (config : GovernedToolApprovalConfig)

def GovernedCall.preflight : RepositoryProgram (Option ApprovalRequirement) :=
  maybeRequireApproval digest config call.session call.intent call.descriptor

/-- The record that the preflight of a call stores. -/
def GovernedCall.record : NewApprovalRequestRecord :=
  trimmedRecord (newApprovalRequest digest call.session call.intent call.descriptor)

/-- Names of requests have no blanks, so they are stored as they are. -/
theorem GovernedCall.trim_requestId : trim (call.requestId digest) = call.requestId digest := by
  have digits : ∀ value, value < 16 -> isWhitespace (Hex.digit value) = false := by
    decide
  have lead : ∀ c, c ∈ "apr_".toList -> isWhitespace c = false :=
    visible_of_all (by decide)
  apply trim_of_visible
  intro c member
  unfold GovernedCall.requestId governedApprovalRequestId at member
  rw [String.toList_append] at member
  rcases List.mem_append.mp member with inLead | inDigits
  · exact lead c inLead
  · rw [String.toList_ofList] at inDigits
    rcases List.mem_flatMap.mp inDigits with ⟨byte, _, inByte⟩
    rcases Hex.fixedHex_digits inByte with ⟨value, bound, rfl⟩
    exact digits value bound

/-- What the preflight does: nothing to the requests, or it records the call;
and what it says about the request it names. -/
structure PreflightSpec (call : GovernedCall)
    (before : Store) (result : Except String (Option ApprovalRequirement)) (after : Store) :
    Prop where
  recorded : after.repository.approvalRequests = before.repository.approvalRequests \/
      approvalPolicy config call.descriptor = .ok true /\ Recorded (call.record digest) before after
  named : ∀ requirement, result = .ok (some requirement) ->
      approvalPolicy config call.descriptor = .ok true /\
        ∃ row, rowOf (call.requestId digest) after = some row /\
          requirement.approvalRequestId = some row.approvalRequestId

theorem ensures_preflight (call : GovernedCall)
    (store : Store) :
    (call.preflight digest config).Ensures (PreflightSpec digest config call store) store := by
  unfold GovernedCall.preflight maybeRequireApproval
  cases policy : approvalPolicy config call.descriptor with
  | error reason =>
    exact ensures_lift ⟨Or.inl rfl, nofun⟩
  | ok governed =>
    rw [lift_ok_bind]
    cases governed with
    | false => exact ensures_lift ⟨Or.inl rfl, nofun⟩
    | true =>
      have opening : ∀ error later,
          later.repository.approvalRequests = store.repository.approvalRequests ->
            PreflightSpec digest config call store (.error error) later :=
        fun _ _ same => ⟨Or.inl same, nofun⟩
      refine ensures_bind (keeps_query _ store) ?_ opening
      intro _ opened sameOpened
      refine ensures_bind (keeps_ensureSession keepsRequests_insertSession _ opened) ?_
        fun error later same => opening error later (same.trans sameOpened)
      intro _ ensured sameEnsured
      refine ensures_bind (keeps_query _ ensured) ?_ fun error later same => opening error later
          (same.trans (sameEnsured.trans sameOpened))
      intro scope located sameLocated
      have untilHere := sameLocated.trans (sameEnsured.trans sameOpened)
      refine ensures_bind (keeps_loadApprovalGrant _ _ located) ?_
        fun error later same => opening error later (same.trans untilHere)
      intro granted loaded sameLoaded
      cases granted with
      | some grant => exact ensures_lift ⟨Or.inl (sameLoaded.trans untilHere), nofun⟩
      | none =>
        refine ensures_bind (ensures_ensureApprovalRequest _ loaded) ?_ fun error later recorded =>
            ⟨Or.inr ⟨policy, recorded.1.congr (sameLoaded.trans untilHere)⟩, nofun⟩
        intro stored later recorded
        refine ensures_lift ⟨Or.inr ⟨policy, recorded.1.congr (sameLoaded.trans untilHere)⟩, ?_⟩
        intro requirement returned
        cases Option.some.inj (Except.ok.inj returned)
        have isStored := recorded.2 stored rfl
        refine ⟨policy, stored, ?_, rfl⟩
        rw [<- call.trim_requestId digest]
        exact isStored

/-- The tools that the policy governs. -/
def governedToolNames : List String :=
  ["delegate", "delegate_async", "browser.companion.click", "browser.companion.type",
    "session_archive", "session_cancel", "session_recover", "sessions_send"]

theorem governed_of_policyDriven {toolName : String}
    (driven : (governanceProfileForToolName toolName).approvalMode = .policyDriven) :
    toolName ∈ governedToolNames := by
  unfold governanceProfileForToolName at driven
  unfold governedToolNames
  split_ifs at driven
  all_goals
    simp only [List.mem_cons] at *
    tauto

variable {descriptor : ToolDescriptor}

/-- A tool that needs an approval is an app tool with a policy, and its name
is written without blanks. -/
theorem approvalPolicy_needs {config : GovernedToolApprovalConfig}
    (needs : approvalPolicy config descriptor = .ok true) :
    descriptor.executionKind = .app /\ trim descriptor.name = descriptor.name /\
      descriptor.name ≠ "" := by
  have plain : ∀ toolName, toolName ∈ governedToolNames ->
      trim toolName = toolName /\ toolName ≠ "" := by decide +kernel
  unfold approvalPolicy at needs
  dsimp only at needs
  split at needs
  · cases needs
  · rename_i governed
    rw [not_or, not_not, not_not] at governed
    exact ⟨governed.1, plain _ (governed_of_policyDriven governed.2)⟩

/-- The stored payload of a call replays that call. -/
theorem replayRequest_requestPayload (isApp : descriptor.executionKind = .app)
    (plain : trim descriptor.name = descriptor.name) (nonempty : descriptor.name ≠ "")
    (session : LineageContext) (intent : ToolCallIntent) :
    replayRequest (requestPayload session intent descriptor) =
      .ok ⟨descriptor.name, intent.argsJson⟩ := by
  have kind : ((requestPayload session intent descriptor).get "execution_kind").bind Json.asStr =
      some "app" := by
    unfold requestPayload
    rw [isApp]
    rfl
  have tool : ((requestPayload session intent descriptor).get "tool_name").bind Json.asStr =
      some descriptor.name := rfl
  have arguments : (requestPayload session intent descriptor).get "args_json" =
      some intent.argsJson := rfl
  unfold replayRequest
  rw [kind, tool, arguments, Option.map_some, plain, Option.filter_some,
    if_pos (decide_eq_true nonempty)]
  rfl

end Calls

/-! ## Histories -/

/-- What happens to the repository: the preflight of a call, or a statement
of a resolution or of a tool. -/
inductive ApprovalOperation where
  | call (config : GovernedToolApprovalConfig) (call : GovernedCall)
      (circumstances : List Circumstance)
  | transition (approvalRequestId : String) (request : TransitionApprovalRequestIfCurrentRequest)
  | grant (record : NewApprovalGrantRecord)
  | sessions (change : SessionTable -> SessionTable)

section Histories

variable (digest : List UInt8 -> List UInt8)

def performOperation (store : Store) : ApprovalOperation -> Store
  | .call config call circumstances =>
    (perform (call.preflight digest config) (circumstances, store)).2.2
  | .transition approvalRequestId request =>
    { store with
      repository :=
        (updateApprovalRequest approvalRequestId request store.repository).2 }
  | .grant record =>
    { store with repository := insertApprovalGrant record store.repository }
  | .sessions change =>
    { store with
      repository := { store.repository with sessions := change store.repository.sessions } }

/-- The row under a name was stored for a call of the history with that
name. -/
def RaisedBy (history : List ApprovalOperation) (key : String) (row : ApprovalRequestRecord) :
    Prop :=
  row.approvalRequestId = key /\ ∃ config call circumstances,
      ApprovalOperation.call config call circumstances ∈ history /\ call.requestId digest = key /\
        row.requestPayloadJson = requestPayload call.session call.intent call.descriptor

def AllRaised (history : List ApprovalOperation) (store : Store) : Prop :=
  ∀ key row, rowOf key store = some row -> RaisedBy digest history key row

variable {digest} {history : List ApprovalOperation} {before after : Store} {call : GovernedCall}
  {store : Store}

theorem allRaised_of_same (raised : AllRaised digest history before)
    (same : after.repository.approvalRequests = before.repository.approvalRequests) :
    AllRaised digest history after := by
  intro key row found
  apply raised key row
  unfold rowOf at found ⊢
  rw [<- same]
  exact found

variable {config : GovernedToolApprovalConfig}

theorem allRaised_transition (raised : AllRaised digest history store) {approvalRequestId : String}
    {request : TransitionApprovalRequestIfCurrentRequest} :
    AllRaised digest history
      (performOperation digest store (.transition approvalRequestId request)) := by
  intro key row found
  rw [performOperation, rowOf] at found
  unfold updateApprovalRequest at found
  cases stored : lookup approvalRequestId store.repository.approvalRequests with
  | none =>
    rw [stored] at found
    exact raised key row found
  | some old =>
    rw [stored] at found
    dsimp only at found
    split at found
    · rw [lookup_insert] at found
      split at found
      · rename_i isKey
        rw [<- Option.some.inj found, isKey]
        exact raised approvalRequestId old stored
      · exact raised key row found
    · exact raised key row found

theorem allRaised_step {operation : ApprovalOperation} (member : operation ∈ history)
    (raised : AllRaised digest history store) :
    AllRaised digest history (performOperation digest store operation) := by
  cases operation with
  | call config call circumstances =>
    have spec := perform_of_ensures (ensures_preflight digest config call store) circumstances
    rcases spec.recorded with same | ⟨_, recorded⟩
    · exact allRaised_of_same raised same
    · rcases recorded with same | ⟨_, inserted⟩
      · exact allRaised_of_same raised same
      · have named : (call.record digest).approvalRequestId = call.requestId digest :=
          call.trim_requestId digest
        intro key row found
        rw [rowOf, performOperation, inserted, lookup_insert, named] at found
        split at found
        · rename_i isKey
          rw [<- Option.some.inj found, isKey]
          exact ⟨named, config, call, circumstances, member, rfl, rfl⟩
        · exact raised key row found
  | transition approvalRequestId request => exact allRaised_transition raised
  | grant record =>
    apply allRaised_of_same raised
    unfold performOperation insertApprovalGrant
    dsimp only
    split <;> rfl
  | sessions change => exact allRaised_of_same raised rfl

/-- Where a history leads that starts without approval requests. -/
def reachedStore (digest : List UInt8 -> List UInt8) (sessions : SessionTable)
    (grants : List NewApprovalGrantRecord) (history : List ApprovalOperation) : Store :=
  Machine.run (performOperation digest) ⟨⟨sessions, [], grants⟩, []⟩ history

theorem allRaised_reachedStore {sessions : SessionTable} {grants : List NewApprovalGrantRecord}
    {history : List ApprovalOperation} :
    AllRaised digest history (reachedStore digest sessions grants history) := by
  refine Machine.guarded_run_invariant _ (fun _ _ member raised => allRaised_step member raised)
    ?_ (Machine.guarded_of_forall _ (fun _ _ member => member) _)
  intro key row found
  cases found

/-! ## The request that is named -/

/-- The row is pending and stores the call, so that its approval replays the
call. -/
def StoresPending (call : GovernedCall) (row : ApprovalRequestRecord) : Prop :=
  row.status = .pending /\ row.toolName = call.descriptor.name /\
    replayRequest row.requestPayloadJson = .ok ⟨call.descriptor.name, call.intent.argsJson⟩

def NamesCall (store : Store) (requirement : ApprovalRequirement) (call : GovernedCall) : Prop :=
  ∃ key row,
    requirement.approvalRequestId = some key /\ rowOf key store = some row /\ StoresPending call row

/-- No other use has been made of the name of the call. -/
def Unclaimed (digest : List UInt8 -> List UInt8) (store : Store) (call : GovernedCall) : Prop :=
  ∀ row, rowOf (call.requestId digest) store = some row -> StoresPending call row

variable {requirement : ApprovalRequirement}

/-- A requirement that carries the name of a stored row names the call if
the row stores it. -/
theorem namesCall_iff {key : String}
    {row : ApprovalRequestRecord} (isStored : rowOf key store = some row)
    (isNamed : requirement.approvalRequestId = some row.approvalRequestId)
    (ownName : row.approvalRequestId = key) :
    NamesCall store requirement call ↔ StoresPending call row := by
  constructor
  · rintro ⟨other, otherRow, names, found, stores⟩
    rw [isNamed, ownName] at names
    rw [<- Option.some.inj names, isStored] at found
    rw [Option.some.inj found]
    exact stores
  · intro stores
    exact ⟨key, row, isNamed.trans (congrArg some ownName), isStored, stores⟩

/-- Whenever the preflight answers that an approval is required, the request
it names is pending and stores the call exactly when its name was not in use
for anything else.  If it was, then by an earlier call of the history whose
name is the same. -/
theorem required_names_call_iff (sessions : SessionTable) (grants : List NewApprovalGrantRecord)
    (history : List ApprovalOperation) (config : GovernedToolApprovalConfig) (call : GovernedCall)
    (circumstances : List Circumstance)
    {after : List Circumstance × Store}
    (required : perform (call.preflight digest config)
      (circumstances, reachedStore digest sessions grants history) =
        (.ok (some requirement), after)) :
    (NamesCall after.2 requirement call ↔
        Unclaimed digest (reachedStore digest sessions grants history) call) /\
      (¬ NamesCall after.2 requirement call -> ∃ row,
        rowOf (call.requestId digest) (reachedStore digest sessions grants history) = some row /\
          RaisedBy digest history (call.requestId digest) row) := by
  have raised : AllRaised digest history (reachedStore digest sessions grants history) :=
    allRaised_reachedStore
  have spec := perform_of_ensures
    (ensures_preflight digest config call (reachedStore digest sessions grants history))
    circumstances
  rw [required] at spec
  rcases spec.named requirement rfl with ⟨needs, row, isStored, isNamed⟩
  have cases : rowOf (call.requestId digest) (reachedStore digest sessions grants history) =
      some row \/
        rowOf (call.requestId digest) (reachedStore digest sessions grants history) = none /\
          row = pendingRow (call.record digest) := by
    have recorded : Recorded (call.record digest)
        (reachedStore digest sessions grants history) after.2 :=
      spec.recorded.elim Or.inl fun both => both.2
    have named : (call.record digest).approvalRequestId = call.requestId digest :=
      call.trim_requestId digest
    rw [Recorded, named] at recorded
    rcases recorded with same | ⟨isNew, inserted⟩
    · left
      rw [rowOf, <- same]
      exact isStored
    · right
      rw [rowOf, inserted, lookup_insert_self] at isStored
      exact ⟨isNew, (Option.some.inj isStored).symm⟩
  rcases cases with isOld | ⟨isNew, rfl⟩
  · have origin := raised _ row isOld
    rw [namesCall_iff isStored isNamed origin.1]
    refine ⟨⟨?_, fun unclaimed => unclaimed row isOld⟩, fun _ => ⟨row, isOld, origin⟩⟩
    intro stores other found
    rw [isOld] at found
    rw [<- Option.some.inj found]
    exact stores
  · rcases approvalPolicy_needs needs with ⟨isApp, plain, nonempty⟩
    have names : NamesCall after.2 requirement call :=
      (namesCall_iff isStored isNamed (call.trim_requestId digest)).mpr ⟨rfl, plain,
        replayRequest_requestPayload isApp plain nonempty call.session call.intent⟩
    refine ⟨⟨fun _ other found => ?_, fun _ => names⟩, fun unnamed => absurd names unnamed⟩
    rw [isNew] at found
    cases found

end Histories

namespace ApprovalSample

def config : GovernedToolApprovalConfig where
  mode := .strict
  approvedCalls := []
  deniedCalls := []

def delegateCall (task : String) : GovernedCall where
  session := { sessionId := "session-a", runtimeNarrowing := none, parentSessionId := none }
  intent :=
    { toolName := "delegate"
      argsJson := .object [("task", .string task)]
      source := "provider_tool_call"
      turnId := "turn-1"
      toolCallId := "call-1" }
  descriptor := ⟨"delegate", "delegate", [], .app, .discoverable⟩

/-- The answer to a call after the history, and where it leads. -/
def answer (history : List ApprovalOperation) (call : GovernedCall) :
    Except String (Option ApprovalRequirement) × List Circumstance × Store :=
  perform (call.preflight id config) ([], reachedStore id [] [] history)

/-- The task of the request that the answer names. -/
def namedTask (history : List ApprovalOperation) (call : GovernedCall) : Option String :=
  match (answer history call).1 with
  | .ok (some requirement) =>
    requirement.approvalRequestId.bind (fun key =>
      (rowOf key (answer history call).2.2).bind (fun row =>
        (row.requestPayloadJson.get "args_json").bind (fun arguments =>
          (arguments.get "task").bind Json.asStr)))
  | _ => none

theorem required_of_namedTask {history : List ApprovalOperation} {call : GovernedCall}
    {task : String} (named : namedTask history call = some task) :
    ∃ requirement, answer history call = (.ok (some requirement), (answer history call).2) := by
  unfold namedTask at named
  split at named
  case h_1 requirement answered => exact ⟨requirement, Prod.ext answered rfl⟩
  case h_2 => cases named

end ApprovalSample

open ApprovalSample

theorem required_names_first_call : ∃ requirement after,
      perform ((delegateCall "a").preflight id config)
          ([], reachedStore id [] [] []) = (.ok (some requirement), after) /\
        NamesCall after.2 requirement (delegateCall "a") := by
  have named : namedTask [] (delegateCall "a") = some "a" := by
    decide +kernel
  rcases required_of_namedTask named with ⟨requirement, required⟩
  refine ⟨requirement, _, required, ?_⟩
  refine (required_names_call_iff [] [] [] config _ [] required).1.mpr ?_
  intro row found
  cases found

/-- A second call with the same identifiers and another task is answered with
the request of the first: its approval runs the first task. -/
theorem repeated_call_names_earlier_call : ∃ requirement after,
      perform ((delegateCall "b").preflight id config) ([], reachedStore id [] []
            [.call config (delegateCall "a") []]) =
            (.ok (some requirement), after) /\
        ¬ NamesCall after.2 requirement (delegateCall "b") := by
  have named : namedTask [.call config (delegateCall "a") []]
      (delegateCall "b") = some "a" := by decide +kernel
  rcases required_of_namedTask named with ⟨requirement, required⟩
  refine ⟨requirement, _, required, ?_⟩
  rintro ⟨key, row, isKey, isRow, _, _, replays⟩
  rcases bind_eq_ok_iff.mp replays with ⟨_, _, replays⟩
  rcases bind_eq_ok_iff.mp replays with ⟨_, _, replays⟩
  rcases bind_eq_ok_iff.mp replays with ⟨_, _, replays⟩
  rcases bind_eq_ok_iff.mp replays with ⟨arguments, found, returned⟩
  have stored := okOr_eq_ok_iff.mp found
  cases returned
  rw [namedTask, required] at named
  simp only [isKey, Option.bind_some, isRow, stored] at named
  have sameTask : "b" = "a" := Option.some.inj named
  exact absurd sameTask (by decide)

end LoongClaw.Conversation
