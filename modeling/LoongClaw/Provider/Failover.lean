import Mathlib.Data.Prod.Lex
import LoongClaw.Foundation.Json
import LoongClaw.Foundation.Search
import LoongClaw.Provider.ProfileHealth

namespace LoongClaw.Provider

open Foundation Search

/-!
# Requests across model candidates

A request goes to the model candidates in turn, and for each model to the auth
profiles in the order of their health.  The first success is the answer.  A
failure is audited and counts against the health of its profile; one that says
so makes the model cool down.

The outcomes of the requests form a pattern: what the request of a model with a
profile would give, and when.
-/

/-! ## Failures -/

inductive ProviderFailoverStage where
  | statusFailure
  | transportFailure
  | responseDecode
  | responseShapeInvalid
  | modelCandidateRejected

def ProviderFailoverStage.asStr : ProviderFailoverStage -> String
  | .statusFailure => "status_failure"
  | .transportFailure => "transport_failure"
  | .responseDecode => "response_decode"
  | .responseShapeInvalid => "response_shape_invalid"
  | .modelCandidateRejected => "model_candidate_rejected"

structure ProviderFailoverSnapshot where
  reason : ProviderFailoverReason
  stage : ProviderFailoverStage
  model : String
  (attempt maxAttempts : Nat)
  statusCode : Option Nat

def ProviderFailoverSnapshot.toJsonValue (snapshot : ProviderFailoverSnapshot) : Json :=
  .ofFields <|
    [("reason", .string snapshot.reason.asStr), ("stage", .string snapshot.stage.asStr),
      ("model", .string snapshot.model),
      ("attempt", .ofNat snapshot.attempt),
      ("max_attempts", .ofNat snapshot.maxAttempts)] ++
    match snapshot.statusCode with
    | none => []
    | some statusCode => [("status_code", .ofNat statusCode)]

structure ModelRequestError where
  message : String
  tryNextModel : Bool
  reason : ProviderFailoverReason
  snapshot : ProviderFailoverSnapshot

structure ProviderFailoverEvent where
  (providerId reason stage model : String)
  (attempt maxAttempts : Nat)
  statusCode : Option Nat
  (tryNextModel autoModelMode : Bool)
  (candidateIndex candidateCount : Nat)
  exhausted : Bool

structure ProviderFailoverMetrics where
  (totalEvents continuedEvents exhaustedEvents : Nat)
  (byReason byStage byProvider : OrderedMap String Nat)

def counted (key : String) (counts : OrderedMap String Nat) : OrderedMap String Nat :=
  OrderedMap.insert key ((OrderedMap.lookup key counts).getD 0 + 1) counts

def ProviderFailoverMetrics.record (event : ProviderFailoverEvent)
    (metrics : ProviderFailoverMetrics) : ProviderFailoverMetrics where
  totalEvents := metrics.totalEvents + 1
  continuedEvents := metrics.continuedEvents + (!event.exhausted).toNat
  exhaustedEvents := metrics.exhaustedEvents + event.exhausted.toNat
  byReason := counted event.reason metrics.byReason
  byStage := counted event.stage metrics.byStage
  byProvider := counted event.providerId metrics.byProvider

/-! ## The request -/

/-- What the process keeps across requests.  Failovers are audited if the request
is bound to a kernel. -/
structure ProviderRuntime where
  profileStates : ProviderProfileStateStore
  modelCooldowns : ModelCandidateCooldownCache
  metrics : ProviderFailoverMetrics
  audited : List ProviderFailoverEvent

structure FailoverRequest where
  keyspace : ProviderKeyspace
  jsonText : Json -> String
  providerId : String
  kernelBound : Bool
  authProfiles : List ProviderAuthProfile
  profileStatePolicy : Option ProviderProfileStatePolicy
  modelCandidates : List String
  autoModelMode : Bool
  modelCandidateCooldownPolicy : Option ModelCandidateCooldownPolicy

/-- The outcomes by the positions of the model and of the profile, and the clock
when they are recorded. -/
structure RequestPattern (α : Type) where
  answer : Nat -> Nat -> Except ModelRequestError α
  prioritizedAt : Nat
  answeredAt : Nat -> Nat -> Nat
  cooledAt : Nat -> Nat

/-- A request that was made. -/
structure MadeRequest (α : Type) where
  modelIndex : Nat
  model : String
  autoModelMode : Bool
  profileIndex : Nat
  profile : ProviderAuthProfile
  answer : Except ModelRequestError α

structure FailoverProgress (α : Type) where
  runtime : ProviderRuntime
  requests : List (MadeRequest α)
  lastError : Option String
  lastErrorSnapshot : Option ProviderFailoverSnapshot
  modelSwitchReason : Option ProviderFailoverReason

section Request

variable {α : Type} (request : FailoverRequest) (pattern : RequestPattern α)

def recordProviderFailoverAuditEvent (snapshot : ProviderFailoverSnapshot) (tryNextModel : Bool)
    (candidateIndex : Nat) (exhausted : Bool) (runtime : ProviderRuntime) : ProviderRuntime :=
  let event : ProviderFailoverEvent :=
    { providerId := request.providerId
      reason := snapshot.reason.asStr
      stage := snapshot.stage.asStr
      model := snapshot.model
      attempt := snapshot.attempt
      maxAttempts := snapshot.maxAttempts
      statusCode := snapshot.statusCode
      tryNextModel := tryNextModel
      autoModelMode := request.autoModelMode
      candidateIndex := candidateIndex
      candidateCount := request.modelCandidates.length
      exhausted := exhausted }
  { runtime with
    metrics := runtime.metrics.record event
    audited := if request.kernelBound then runtime.audited ++ [event] else runtime.audited }

variable (model : String × Nat)

def madeRequest (profile : ProviderAuthProfile × Nat) : MadeRequest α where
  modelIndex := model.2
  model := model.1
  autoModelMode := request.autoModelMode
  profileIndex := profile.2
  profile := profile.1
  answer := pattern.answer model.2 profile.2

def noteSuccess (profile : ProviderAuthProfile × Nat)
    (progress : FailoverProgress α) : FailoverProgress α :=
  { progress with
    requests := progress.requests ++ [madeRequest request pattern model profile]
    runtime :=
      match request.profileStatePolicy with
      | none => progress.runtime
      | some policy =>
        { progress.runtime with
          profileStates := markProviderProfileSuccess request.keyspace policy profile.1
            (pattern.answeredAt model.2 profile.2) progress.runtime.profileStates } }

def noteFailure (profileCount : Nat) (model : String × Nat) (profile : ProviderAuthProfile × Nat)
    (error : ModelRequestError) (progress : FailoverProgress α) : FailoverProgress α :=
  let exhausted := decide (profileCount <= profile.2 + 1) &&
    decide (request.modelCandidates.length <= model.2 + 1)
  let audited := recordProviderFailoverAuditEvent request error.snapshot error.tryNextModel model.2
    exhausted progress.runtime
  { requests := progress.requests ++ [madeRequest request pattern model profile]
    runtime :=
      match request.profileStatePolicy with
      | none => audited
      | some policy =>
        { audited with
          profileStates := markProviderProfileFailure request.keyspace policy profile.1
            error.reason (pattern.answeredAt model.2 profile.2) audited.profileStates }
    lastError := some error.message
    lastErrorSnapshot := some error.snapshot
    modelSwitchReason :=
      if error.tryNextModel then some error.reason else progress.modelSwitchReason }

/-- The loop over the profiles, which a success leaves. -/
def tryProfiles (profileCount : Nat) (model : String × Nat) :
    List (ProviderAuthProfile × Nat) -> FailoverProgress α -> Option α × FailoverProgress α
  | [], progress => (none, progress)
  | profile :: rest, progress =>
    match pattern.answer model.2 profile.2 with
    | .ok value => (some value, noteSuccess request pattern model profile progress)
    | .error error =>
      tryProfiles profileCount model rest
        (noteFailure request pattern profileCount model profile error progress)

def coolModel (progress : FailoverProgress α) : FailoverProgress α :=
  match progress.modelSwitchReason, request.modelCandidateCooldownPolicy with
  | some reason, some policy =>
    { progress with
      runtime :=
        { progress.runtime with
          modelCooldowns := registerModelCandidateCooldown request.keyspace policy model.1 reason
            (pattern.cooledAt model.2) progress.runtime.modelCooldowns } }
  | _, _ => progress

/-- The loop over the models.  The body ends with its only `continue`, so every
model without a success leads to the next one. -/
def tryModels (profiles : List ProviderAuthProfile) :
    List (String × Nat) -> FailoverProgress α -> Option α × FailoverProgress α
  | [], progress => (none, progress)
  | model :: rest, progress =>
    match tryProfiles request pattern profiles.length model profiles.zipIdx
        { progress with modelSwitchReason := none } with
    | (some value, later) => (some value, later)
    | (none, later) => tryModels profiles rest (coolModel request pattern model later)

def exhaustedError (progress : FailoverProgress α) : String :=
  match progress.lastError with
  | some message => message
  | none =>
    match progress.lastErrorSnapshot with
    | some snapshot =>
      "provider request failed for every model candidate (last_reason=" ++
        snapshot.reason.asStr ++ ") | provider_failover=" ++
        request.jsonText snapshot.toJsonValue
    | none => "provider request failed for every model candidate"

variable (runtime : ProviderRuntime)

def orderedProfiles : List ProviderAuthProfile :=
  prioritizeProviderAuthProfilesByHealth request.keyspace pattern.prioritizedAt
    runtime.profileStates request.authProfiles request.profileStatePolicy

def startProgress : FailoverProgress α where
  runtime :=
    { runtime with
      profileStates := statesAfterPrioritizing pattern.prioritizedAt request.authProfiles
        runtime.profileStates request.profileStatePolicy }
  requests := []
  lastError := none
  lastErrorSnapshot := none
  modelSwitchReason := none

/-- The answer, and what is kept: the runtime and the requests made. -/
def requestAcrossModelCandidates : Except String α × FailoverProgress α :=
  if request.modelCandidates.isEmpty then
    (.error "provider request has no model candidates",
      { startProgress request pattern runtime with runtime := runtime })
  else
    match tryModels request pattern (orderedProfiles request pattern runtime)
        request.modelCandidates.zipIdx (startProgress request pattern runtime) with
    | (some value, final) => (.ok value, final)
    | (none, final) => (.error (exhaustedError request final), final)

end Request

/-! ## What a request makes of a pattern -/

section Outcome

variable {α : Type} (request : FailoverRequest) (pattern : RequestPattern α)

def MadeRequest.succeeds (made : MadeRequest α) : Bool :=
  made.answer.isOk

def MadeRequest.value (made : MadeRequest α) : Option α :=
  made.answer.toOption

/-- The error that the loops hold after a request: its own if it failed, and the
earlier one otherwise. -/
def MadeRequest.noted (earlier : Option String) (made : MadeRequest α) : Option String :=
  match made.answer with
  | .ok _ => earlier
  | .error error => some error.message

/-- The requests of every model with every profile, in order. -/
def plannedRequests (profiles : List ProviderAuthProfile) (models : List (String × Nat)) :
    List (MadeRequest α) :=
  models.flatMap fun model => profiles.zipIdx.map (madeRequest request pattern model)

/-- How an outcome follows from `progress` when the requests in `planned` are
tried in turn: the first value is returned, nothing behind it is requested, and
the error held is that of the last failure. -/
structure Tries (planned : List (MadeRequest α)) (progress : FailoverProgress α)
    (outcome : Option α × FailoverProgress α) : Prop where
  value : outcome.1 = planned.findSome? MadeRequest.value
  requests : outcome.2.requests = progress.requests ++ tried MadeRequest.succeeds planned
  lastError : outcome.2.lastError =
    (tried MadeRequest.succeeds planned).foldl MadeRequest.noted progress.lastError

variable {request pattern} {planned : List (MadeRequest α)} {value : α}
  {profiles : List ProviderAuthProfile} {models : List String} {index : Nat}

theorem MadeRequest.value_eq_none_iff {made : MadeRequest α} :
    made.value = none ↔ made.succeeds = false := by
  unfold MadeRequest.value MadeRequest.succeeds
  cases made.answer <;> simp [Except.toOption, Except.isOk, Except.toBool]

theorem noValue_iff : planned.findSome? MadeRequest.value = none ↔
      ∀ made, made ∈ planned -> made.succeeds = false := by
  rw [List.findSome?_eq_none_iff]
  exact forall₂_congr fun _ _ => MadeRequest.value_eq_none_iff

/-- The first value is that of the last request tried, and no other was a
success. -/
theorem tried_of_value (found : planned.findSome? MadeRequest.value = some value) :
    ∃ earlier last, tried MadeRequest.succeeds planned =
      earlier ++ [last] /\ last.answer = .ok value /\
        ∀ made, made ∈ earlier -> made.succeeds = false := by
  rcases List.findSome?_eq_some_iff.mp found with ⟨earlier, last, later, rfl, own, before⟩
  have misses : ∀ made, made ∈ earlier -> made.succeeds = false := fun made member =>
    MadeRequest.value_eq_none_iff.mp (before made member)
  have answered : last.answer = .ok value := by
    unfold MadeRequest.value at own
    cases answer : last.answer with
    | error error =>
      rw [answer] at own
      cases own
    | ok other =>
      rw [answer] at own
      cases own
      rfl
  have hit : last.succeeds = true := congrArg Except.isOk answered
  exact ⟨earlier, last, by rw [tried_append_of_misses misses, tried_cons_hit hit], answered, misses⟩

variable (request pattern)

theorem tryProfiles_tries (profileCount : Nat) (model : String × Nat)
    (profiles : List (ProviderAuthProfile × Nat)) (progress : FailoverProgress α) :
    Tries (profiles.map (madeRequest request pattern model)) progress
      (tryProfiles request pattern profileCount model profiles progress) := by
  induction profiles generalizing progress with
  | nil => exact ⟨rfl, (List.append_nil _).symm, rfl⟩
  | cons profile rest ih =>
    cases answered : pattern.answer model.2 profile.2 with
    | ok value =>
      have made : (madeRequest request pattern model profile).answer = .ok value := answered
      have hit : (madeRequest request pattern model profile).succeeds = true :=
        congrArg Except.isOk answered
      simp only [tryProfiles, answered, List.map_cons]
      refine ⟨?_, ?_, ?_⟩
      · simp [MadeRequest.value, made, Except.toOption]
      · rw [tried_cons_hit hit]
        rfl
      · simp [tried_cons_hit hit, MadeRequest.noted, made, noteSuccess]
    | error error =>
      have made : (madeRequest request pattern model profile).answer = .error error := answered
      have missed : (madeRequest request pattern model profile).succeeds = false :=
        congrArg Except.isOk answered
      have later := ih (noteFailure request pattern profileCount model profile error progress)
      simp only [tryProfiles, answered, List.map_cons]
      refine ⟨?_, ?_, ?_⟩
      · rw [later.value, List.findSome?_cons_of_isNone]
        rw [MadeRequest.value_eq_none_iff.mpr missed]
        rfl
      · rw [later.requests, tried_cons_miss missed]
        simp [noteFailure]
      · rw [later.lastError, tried_cons_miss missed, List.foldl_cons, MadeRequest.noted, made]
        rfl

theorem tryModels_tries (profiles : List ProviderAuthProfile) (models : List (String × Nat))
    (progress : FailoverProgress α) :
    Tries (plannedRequests request pattern profiles models) progress
      (tryModels request pattern profiles models progress) := by
  induction models generalizing progress with
  | nil => exact ⟨rfl, (List.append_nil _).symm, rfl⟩
  | cons model rest ih =>
    have here := tryProfiles_tries request pattern profiles.length model profiles.zipIdx
      { progress with modelSwitchReason := none }
    rcases tries : tryProfiles request pattern profiles.length model profiles.zipIdx
      { progress with modelSwitchReason := none } with ⟨value, later⟩
    rw [tries] at here
    have split : plannedRequests request pattern profiles (model :: rest) =
        profiles.zipIdx.map (madeRequest request pattern model) ++
          plannedRequests request pattern profiles rest := List.flatMap_cons
    rw [split]
    simp only [tryModels, tries]
    cases value with
    | some value =>
      -- A success of this model ends the search before the others.
      have found := here.value
      rcases tried_of_value found.symm with ⟨_, last, isTried, answered, _⟩
      have member : last ∈ profiles.zipIdx.map (madeRequest request pattern model) := by
        apply (@tried_initial _ MadeRequest.succeeds _).subset
        rw [isTried]
        exact List.mem_append_right _ (List.mem_singleton_self last)
      have hit : last.succeeds = true := congrArg Except.isOk answered
      have ends := tried_append_of_hit member hit (plannedRequests request pattern profiles rest)
      refine ⟨?_, ?_, ?_⟩
      · rw [List.findSome?_append, <- found]
        rfl
      · rw [ends, here.requests]
      · rw [ends, here.lastError]
    | none =>
      have misses := noValue_iff.mp here.value.symm
      have cooled : (coolModel request pattern model later).requests = later.requests /\
          (coolModel request pattern model later).lastError = later.lastError := by
        unfold coolModel
        split <;> exact ⟨rfl, rfl⟩
      have rests := ih (coolModel request pattern model later)
      refine ⟨?_, ?_, ?_⟩
      · rw [rests.value, List.findSome?_append, <- here.value]
        rfl
      · rw [rests.requests, cooled.1, here.requests, tried_append_of_misses misses,
          tried_of_misses misses, List.append_assoc]
      · rw [rests.lastError, cooled.2, here.lastError, tried_append_of_misses misses,
          tried_of_misses misses, List.foldl_append]

/-! ## The law of a request -/

/-- What is expected of a request across model candidates.  Requests are made in
the order of the models and the profiles, each pair at most once and none left
out before the last.  If some request would succeed, the answer is that of the
first such request, and nothing is requested after it; otherwise it is the error
of the last request made.  A request of a further model means that some failure
of each model before was marked to try the next one. -/
structure FailoverLaw (profiles : List ProviderAuthProfile)
    (outcome : Except String α × FailoverProgress α) : Prop where
  inOrder : outcome.2.requests <+:
    plannedRequests request pattern profiles request.modelCandidates.zipIdx
  named : ∀ made, made ∈ outcome.2.requests ->
    request.modelCandidates[made.modelIndex]? = some made.model /\
      profiles[made.profileIndex]? = some made.profile
  once : outcome.2.requests.Pairwise fun earlier later =>
    (earlier.modelIndex, earlier.profileIndex) ≠ (later.modelIndex, later.profileIndex)
  firstSuccess : ∀ value,
    (plannedRequests request pattern profiles request.modelCandidates.zipIdx).findSome?
        MadeRequest.value = some value ->
      outcome.1 = .ok value
  endsWithSuccess : ∀ value, outcome.1 = .ok value ->
    ∃ earlier last, outcome.2.requests = earlier ++ [last] /\
      last.answer = .ok value /\ ∀ made, made ∈ earlier -> made.succeeds = false
  lastFailure : ∀ message, outcome.1 = .error message ->
    (∀ made, made ∈ outcome.2.requests -> made.succeeds = false) /\
      (request.modelCandidates ≠ [] -> profiles ≠ [] ->
        ∃ last error, outcome.2.requests.getLast? = some last /\
          last.answer = .error error /\ message = error.message)
  switches : ∀ later, later ∈ outcome.2.requests -> ∀ index, index < later.modelIndex ->
    ∃ made, made ∈ outcome.2.requests /\ made.modelIndex = index /\
      ∃ error, made.answer = .error error /\ error.tryNextModel = true

/-- Every model before the last one that is reached and left without a success
has a failure that is marked to try the next model. -/
def MarkedBeforeSwitch (modelCount profileCount : Nat) : Prop :=
  ∀ index, index + 1 < modelCount -> 0 < profileCount ->
    (∀ earlier, earlier <= index -> ∀ profile, profile < profileCount ->
      (pattern.answer earlier profile).isOk = false) ->
    ∃ profile, profile < profileCount /\
      ∃ error, pattern.answer index profile = .error error /\ error.tryNextModel = true

/-- The requests of a call, in order, if none succeeded. -/
def allRequests (runtime : ProviderRuntime) : List (MadeRequest α) :=
  plannedRequests request pattern (orderedProfiles request pattern runtime)
    request.modelCandidates.zipIdx

variable (runtime : ProviderRuntime)

/-- The whole call tries all its requests in turn.  Without a success it reports
the error it holds in the end. -/
theorem requestAcrossModelCandidates_tries :
    ∃ value, Tries (allRequests request pattern runtime)
        (startProgress request pattern runtime)
        (value, (requestAcrossModelCandidates request pattern runtime).2) /\
      (∀ own, value = some own ->
        (requestAcrossModelCandidates request pattern runtime).1 = .ok own) /\
      (value = none -> ∃ message,
        (requestAcrossModelCandidates request pattern runtime).1 = .error message /\
          ∀ error, (requestAcrossModelCandidates request pattern runtime).2.lastError =
            some error -> message = error) := by
  have tries := tryModels_tries request pattern (orderedProfiles request pattern runtime)
    request.modelCandidates.zipIdx (startProgress request pattern runtime)
  unfold requestAcrossModelCandidates allRequests
  by_cases empty : request.modelCandidates.isEmpty
  · rw [if_pos empty, List.isEmpty_iff.mp empty]
    refine ⟨none, ⟨rfl, rfl, rfl⟩, ?_, fun _ => ⟨_, rfl, ?_⟩⟩
    · intro own isSome
      cases isSome
    · intro error held
      cases held
  · rw [if_neg empty]
    rcases found : tryModels request pattern (orderedProfiles request pattern runtime)
      request.modelCandidates.zipIdx (startProgress request pattern runtime) with ⟨value, final⟩
    rw [found] at tries
    refine ⟨value, ?_, ?_, ?_⟩
    · cases value with
      | none | some => exact tries
    · rintro own rfl
      rfl
    · rintro rfl
      refine ⟨_, rfl, ?_⟩
      intro error (held : final.lastError = some error)
      simp only [exhaustedError, held]

theorem requestAcrossModelCandidates_requests :
    (requestAcrossModelCandidates request pattern runtime).2.requests =
      tried MadeRequest.succeeds (allRequests request pattern runtime) := by
  rcases requestAcrossModelCandidates_tries request pattern runtime with ⟨_, tries, _⟩
  exact tries.requests

variable {runtime : ProviderRuntime} {offset : Nat}

theorem requestAcrossModelCandidates_ok_iff :
    (requestAcrossModelCandidates request pattern runtime).1 = .ok value ↔
      (allRequests request pattern runtime).findSome? MadeRequest.value = some value := by
  rcases requestAcrossModelCandidates_tries request pattern runtime with
    ⟨found, tries, ok, failed⟩
  rw [<- tries.value]
  cases found with
  | some own => simp [ok own rfl]
  | none =>
    rcases failed rfl with ⟨message, refused, _⟩
    simp [refused]

theorem requestAcrossModelCandidates_error {message : String}
    (refused : (requestAcrossModelCandidates request pattern runtime).1 = .error message) :
    (∀ made, made ∈ allRequests request pattern runtime -> made.succeeds = false) /\
      ∀ last, (allRequests request pattern runtime).getLast? = some last ->
        ∃ error, last.answer = .error error /\ message = error.message := by
  rcases requestAcrossModelCandidates_tries request pattern runtime with
    ⟨found, tries, ok, failed⟩
  cases found with
  | some own =>
    rw [ok own rfl] at refused
    cases refused
  | none =>
    rcases failed rfl with ⟨own, isOwn, reported⟩
    cases isOwn.symm.trans refused
    have misses := noValue_iff.mp tries.value.symm
    refine ⟨misses, ?_⟩
    intro last ends
    rcases List.getLast?_eq_some_iff.mp ends with ⟨earlier, same⟩
    cases answered : last.answer with
    | ok value =>
      have missed := misses last (List.mem_of_getLast? ends)
      rw [MadeRequest.succeeds, answered] at missed
      cases missed
    | error error =>
      have held := tries.lastError
      rw [tried_of_misses misses, same, List.foldl_append, List.foldl_cons, List.foldl_nil,
        MadeRequest.noted, answered] at held
      exact ⟨error, rfl, reported _ held⟩

/-! ### Positions -/

/-- The place of a request in the plan: by its model, and then by its profile. -/
def MadeRequest.position (made : MadeRequest α) : Nat ×ₗ Nat :=
  toLex (made.modelIndex, made.profileIndex)

variable {request pattern}

theorem mem_plannedRequests_iff {made : MadeRequest α} :
    made ∈ plannedRequests request pattern profiles models.zipIdx ↔
      ∃ model index profile place, models[index]? = some model /\
        profiles[place]? = some profile /\
        made = madeRequest request pattern (model, index) (profile, place) := by
  simp only [plannedRequests, List.mem_flatMap, List.mem_map, Prod.exists,
    List.mk_mem_zipIdx_iff_getElem?]
  constructor
  · rintro ⟨model, index, listed, profile, place, known, rfl⟩
    exact ⟨model, index, profile, place, listed, known, rfl⟩
  · rintro ⟨model, index, profile, place, listed, known, rfl⟩
    exact ⟨model, index, listed, profile, place, known, rfl⟩

variable (request pattern) in
theorem exists_planned {place : Nat} (model : index < models.length)
    (known : place < profiles.length) :
    ∃ made, made ∈ plannedRequests request pattern profiles models.zipIdx /\
      made.modelIndex = index /\ made.profileIndex = place /\
      made.answer = pattern.answer index place :=
  ⟨_, mem_plannedRequests_iff.mpr ⟨_, index, _, place, List.getElem?_eq_getElem model,
    List.getElem?_eq_getElem known, rfl⟩, rfl, rfl, rfl⟩

theorem zipIdx_ordered {β : Type} (items : List β) :
    items.zipIdx.Pairwise fun first second => first.2 < second.2 := by
  apply List.pairwise_map.mp
  rw [List.zipIdx_map_snd]
  exact List.pairwise_lt_range'

theorem plannedRequests_ordered :
    (plannedRequests request pattern profiles models.zipIdx).Pairwise fun earlier later =>
      earlier.position < later.position := by
  refine List.pairwise_flatMap.mpr ⟨?_, ?_⟩
  · intro model _
    refine List.pairwise_map.mpr ((zipIdx_ordered profiles).imp ?_)
    intro first second before
    exact Prod.Lex.toLex_lt_toLex.mpr (.inr ⟨rfl, before⟩)
  · refine (zipIdx_ordered models).imp ?_
    intro first second before earlier inFirst later inSecond
    rcases List.mem_map.mp inFirst with ⟨_, _, rfl⟩
    rcases List.mem_map.mp inSecond with ⟨_, _, rfl⟩
    exact Prod.Lex.toLex_lt_toLex.mpr (.inl before)

/-- A planned request is made exactly when every earlier one fails. -/
theorem made_iff {made : MadeRequest α}
    (planned : made ∈ plannedRequests request pattern profiles models.zipIdx) :
    made ∈ tried MadeRequest.succeeds
        (plannedRequests request pattern profiles models.zipIdx) ↔
      ∀ index place, place < profiles.length -> toLex (index, place) < made.position ->
        (pattern.answer index place).isOk = false := by
  rw [mem_tried_iff plannedRequests_ordered, and_iff_right planned]
  constructor
  · intro misses index place known before
    rcases mem_plannedRequests_iff.mp planned with ⟨_, last, _, _, listed, _, rfl⟩
    have reached : index <= last := (Prod.Lex.toLex_lt_toLex'.mp before).1
    have model : index < models.length :=
      Nat.lt_of_le_of_lt reached (List.getElem?_eq_some_iff.mp listed).1
    rcases exists_planned request pattern model known with
      ⟨other, found, rfl, rfl, answered⟩
    rw [<- answered]
    exact misses other found before
  · intro failed other found before
    rcases mem_plannedRequests_iff.mp found with ⟨_, _, _, _, _, known, rfl⟩
    exact failed _ _ (List.getElem?_eq_some_iff.mp known).1 before

variable (request pattern)

/-- A model without a success leads to a request of the next one. -/
theorem next_model_requested (further : index + 1 < models.length)
    (present : 0 < profiles.length)
    (failed : ∀ earlier, earlier <= index -> ∀ profile, profile < profiles.length ->
      (pattern.answer earlier profile).isOk = false) :
    ∃ later, later ∈ tried MadeRequest.succeeds
        (plannedRequests request pattern profiles models.zipIdx) /\
      index < later.modelIndex := by
  rcases exists_planned request pattern further present with
    ⟨next, planned, model, first, _⟩
  refine ⟨next, (made_iff planned).mpr fun earlier place known before => ?_, by omega⟩
  rcases Prod.Lex.toLex_lt_toLex.mp before with below | ⟨_, below⟩
  · exact failed earlier (by dsimp only at below; omega) place known
  · exact absurd below (by dsimp only; omega)

/-- With a marked failure of every model that is left, a request of a further
model has a marked failure of each model before it. -/
theorem switches_of_marked (marked : MarkedBeforeSwitch pattern models.length profiles.length)
    {later : MadeRequest α} (made : later ∈ tried MadeRequest.succeeds
      (plannedRequests request pattern profiles models.zipIdx))
        (behind : index < later.modelIndex) :
    ∃ made, made ∈ tried MadeRequest.succeeds
        (plannedRequests request pattern profiles models.zipIdx) /\
      made.modelIndex = index /\
      ∃ error, made.answer = .error error /\ error.tryNextModel = true := by
  have planned := tried_initial.subset made
  have failed : ∀ earlier, earlier <= index -> ∀ place, place < profiles.length ->
      (pattern.answer earlier place).isOk = false := fun earlier before place known =>
    (made_iff planned).mp made earlier place known
      (Prod.Lex.toLex_lt_toLex.mpr (.inl (Nat.lt_of_le_of_lt before behind)))
  rcases mem_plannedRequests_iff.mp planned with ⟨_, last, _, _, listed, known, rfl⟩
  have further : index + 1 < models.length :=
    Nat.lt_of_le_of_lt behind (List.getElem?_eq_some_iff.mp listed).1
  rcases marked index further (Nat.zero_lt_of_lt (List.getElem?_eq_some_iff.mp known).1) failed with
    ⟨profile, present, error, answer, switch⟩
  rcases exists_planned request pattern (Nat.lt_of_succ_lt further)
    present with ⟨marking, found, model, own, answered⟩
  refine ⟨marking, (made_iff found).mpr fun earlier place known before => ?_, model, error,
    answered.trans answer, switch⟩
  exact failed earlier (model ▸ (Prod.Lex.toLex_lt_toLex'.mp before).1) place known

/-- The law holds exactly of the patterns in which every model that is left for
a further one has a failure marked to try the next model. -/
theorem failoverLaw_iff : FailoverLaw request pattern (orderedProfiles request pattern runtime)
        (requestAcrossModelCandidates request pattern runtime) ↔
      MarkedBeforeSwitch pattern request.modelCandidates.length request.authProfiles.length := by
  have requests := requestAcrossModelCandidates_requests request pattern runtime
  have inOrder : (requestAcrossModelCandidates request pattern runtime).2.requests <+:
      allRequests request pattern runtime := by
    rw [requests]
    exact tried_initial
  have length : (orderedProfiles request pattern runtime).length = _ :=
    (prioritizeProviderAuthProfilesByHealth_perm _ _ _ _).length_eq
  rw [<- length]
  constructor
  · intro law index further present failed
    rcases next_model_requested request pattern further present failed with ⟨later, made, behind⟩
    rcases law.switches later (requests ▸ made) index behind with
      ⟨marking, found, model, error, answer, marked⟩
    rcases mem_plannedRequests_iff.mp (inOrder.subset found) with ⟨_, _, _, place, _, known, rfl⟩
    cases model
    exact ⟨place, (List.getElem?_eq_some_iff.mp known).1, error, answer, marked⟩
  · intro marked
    refine ⟨inOrder, ?_, ?_, ?_, ?_, ?_, ?_⟩
    · intro made member
      rcases mem_plannedRequests_iff.mp (inOrder.subset member) with
        ⟨_, _, _, _, listed, known, rfl⟩
      exact ⟨listed, known⟩
    · exact (plannedRequests_ordered.sublist inOrder.sublist).imp fun before same =>
        before.ne (congrArg toLex same)
    · exact fun value => (requestAcrossModelCandidates_ok_iff request pattern).mpr
    · intro value answered
      rw [requests]
      exact tried_of_value ((requestAcrossModelCandidates_ok_iff request pattern).mp answered)
    · intro message refused
      rcases requestAcrossModelCandidates_error request pattern refused with ⟨misses, reported⟩
      rw [requests, tried_of_misses misses]
      refine ⟨misses, ?_⟩
      intro candidates known
      rcases exists_planned request pattern
        (List.length_pos_of_ne_nil candidates) (List.length_pos_of_ne_nil known) with
        ⟨first, member, _⟩
      have ends := List.getLast?_eq_getLast_of_ne_nil (List.ne_nil_of_mem member)
      rcases reported _ ends with ⟨error, answered, same⟩
      exact ⟨_, error, ends, answered, same⟩
    · intro later made index behind
      rw [requests] at made ⊢
      exact switches_of_marked request pattern marked made behind

end Outcome

/-! ## A failure that is not marked -/

namespace UnmarkedSample

def profile : ProviderAuthProfile where
  id := "api-key"
  authorizationHeader := none
  xApiKeyHeader := none
  authCacheKey := none

def request : FailoverRequest where
  keyspace :=
    { buildProviderProfileStateKey := fun _ id => id
      buildModelCandidateCooldownKey := fun _ model => model }
  jsonText _ := ""
  providerId := "openai"
  kernelBound := false
  authProfiles := [profile]
  profileStatePolicy := none
  modelCandidates := ["first", "second"]
  autoModelMode := true
  modelCandidateCooldownPolicy := none

/-- The key is rejected, which another model does not change. -/
def rejected (model : String) : ModelRequestError where
  message := "unauthorized"
  tryNextModel := false
  reason := .authRejected
  snapshot :=
    { reason := .authRejected
      stage := .statusFailure
      model := model
      attempt := 1
      maxAttempts := 1
      statusCode := some 401 }

def pattern : RequestPattern Unit where
  answer _ _ := .error (rejected "first")
  prioritizedAt := 0
  answeredAt _ _ := 0
  cooledAt _ := 0

def runtime : ProviderRuntime where
  profileStates := { held := { entries := [], order := [] }, revision := 0 }
  modelCooldowns := { entries := [], order := [] }
  metrics :=
    { totalEvents := 0
      continuedEvents := 0
      exhaustedEvents := 0
      byReason := []
      byStage := []
      byProvider := [] }
  audited := []

end UnmarkedSample

open UnmarkedSample

/-- The first model is refused without a mark to try the next one, and the second
is requested all the same. -/
theorem unmarked_failure_reaches_next_model :
    (requestAcrossModelCandidates request pattern runtime).2.requests.map
        MadeRequest.model = ["first", "second"] /\
      ¬ FailoverLaw request pattern (orderedProfiles request pattern runtime)
        (requestAcrossModelCandidates request pattern runtime) := by
  refine ⟨rfl, ?_⟩
  intro law
  have later : (madeRequest request pattern ("second", 1) (profile, 0)) ∈
      (requestAcrossModelCandidates request pattern runtime).2.requests :=
    List.mem_cons_of_mem _ List.mem_cons_self
  rcases law.switches _ later 0 Nat.zero_lt_one with ⟨made, found, model, error, answer, marked⟩
  have unmarked : ∀ other, other ∈
      (requestAcrossModelCandidates request pattern runtime).2.requests ->
      other.answer = .error (rejected "first") :=
    List.forall_mem_cons.mpr ⟨rfl, List.forall_mem_singleton.mpr rfl⟩
  rw [unmarked made found] at answer
  cases answer
  cases marked

end LoongClaw.Provider
