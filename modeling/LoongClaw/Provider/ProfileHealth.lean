import Mathlib.Data.List.Sort
import LoongClaw.Foundation.OrderedMap

namespace LoongClaw.Provider

open Foundation OrderedMap

/-!
# Health of auth profiles and cooldowns of models

A provider remembers which auth profiles failed and which models were refused.
Both memories are bounded: the entry that was touched least recently goes first.
Instants and durations are in nanoseconds.
-/

inductive ProviderFailoverReason where
  | modelMismatch
  | rateLimited
  | providerOverloaded
  | authRejected
  | payloadIncompatible
  | transportFailure
  | responseDecodeFailure
  | responseShapeInvalid
  | requestRejected
  deriving DecidableEq

def ProviderFailoverReason.asStr : ProviderFailoverReason -> String
  | .modelMismatch => "model_mismatch"
  | .rateLimited => "rate_limited"
  | .providerOverloaded => "provider_overloaded"
  | .authRejected => "auth_rejected"
  | .payloadIncompatible => "payload_incompatible"
  | .transportFailure => "transport_failure"
  | .responseDecodeFailure => "response_decode_failure"
  | .responseShapeInvalid => "response_shape_invalid"
  | .requestRejected => "request_rejected"

structure ProviderAuthProfile where
  id : String
  (authorizationHeader xApiKeyHeader authCacheKey : Option String)

/-! ## Bounded memories -/

/-- Entries with the order in which they were touched. -/
structure TouchedEntries (υ : Type) where
  entries : OrderedMap String υ
  order : List String

namespace TouchedEntries

variable {υ : Type}

/-- Drop the entries touched least recently while there are too many. -/
def pruneCapacity (maxEntries : Nat) (entries : OrderedMap String υ) :
    List String -> TouchedEntries υ
  | [] => { entries := entries, order := [] }
  | evicted :: rest =>
    if maxEntries < entries.length then
      pruneCapacity maxEntries (erase evicted entries) rest
    else { entries := entries, order := evicted :: rest }

/-- Keep the entries that are still active. -/
def pruneExpired (active : υ -> Bool) (held : TouchedEntries υ) : TouchedEntries υ :=
  let entries := held.entries.filter fun entry => active entry.2
  { entries := entries, order := held.order.filter fun key => contains key entries }

def touch (maxEntries : Nat) (key : String) (value : υ) (held : TouchedEntries υ) :
    TouchedEntries υ :=
  pruneCapacity maxEntries (insert key value held.entries)
    ((held.order.filter fun existing => existing != key) ++ [key])

end TouchedEntries

def u32Max : Nat :=
  0xffffffff

/-- A cooldown doubles with each failure, up to a bound that is at least one
cooldown. -/
def effectiveCooldown (cooldown maxCooldown failureCount : Nat) : Nat :=
  min (cooldown * (1 <<< min (failureCount - 1) 20)) (max maxCooldown cooldown)

/-! ## Profile states -/

inductive ProviderProfileHealthMode where
  | enforceUnusableWindows
  | observeOnly
  deriving DecidableEq

structure ProviderProfileStatePolicy where
  «namespace» : String
  healthMode : ProviderProfileHealthMode
  (cooldown maxCooldown authRejectDisable maxEntries : Nat)

structure ProviderProfileStateEntry where
  reason : ProviderFailoverReason
  failureCount : Nat
  (cooldownUntil disabledUntil lastUsedAt : Option Nat)

structure ProviderProfileHealthSnapshot where
  (unusableUntil lastUsedAt : Option Nat)

structure ProviderProfileStateStore where
  held : TouchedEntries ProviderProfileStateEntry
  revision : Nat

namespace ProviderProfileStateStore

variable (key : String) (now : Nat)

def pruneExpired (store : ProviderProfileStateStore) : ProviderProfileStateStore :=
  { store with
    held := store.held.pruneExpired fun entry =>
      entry.cooldownUntil.any (fun deadline => decide (now < deadline)) ||
        entry.disabledUntil.any (fun deadline => decide (now < deadline)) ||
        entry.lastUsedAt.isSome }

def healthSnapshot (store : ProviderProfileStateStore) : ProviderProfileHealthSnapshot :=
  match lookup key (store.pruneExpired now).held.entries with
  | none => { unusableUntil := none, lastUsedAt := none }
  | some entry =>
    let cooldownUntil := entry.cooldownUntil.filter fun deadline => decide (now < deadline)
    let disabledUntil := entry.disabledUntil.filter fun deadline => decide (now < deadline)
    { unusableUntil :=
        match cooldownUntil, disabledUntil with
        | some cooldown, some disabled => some (max cooldown disabled)
        | some cooldown, none => some cooldown
        | none, some disabled => some disabled
        | none, none => none
      lastUsedAt := entry.lastUsedAt }

def entryOr (reason : ProviderFailoverReason) (store : ProviderProfileStateStore) :
    ProviderProfileStateEntry :=
  (lookup key store.held.entries).getD
    { reason := reason
      failureCount := 0
      cooldownUntil := none
      disabledUntil := none
      lastUsedAt := none }

def marked (maxEntries : Nat) (entry : ProviderProfileStateEntry)
    (store : ProviderProfileStateStore) : ProviderProfileStateStore where
  held := store.held.touch maxEntries key entry
  revision := store.revision + 1

def markSuccess (maxEntries : Nat) (store : ProviderProfileStateStore) :
    ProviderProfileStateStore :=
  let pruned := store.pruneExpired now
  pruned.marked key maxEntries
    { pruned.entryOr key .requestRejected with
      failureCount := 0
      cooldownUntil := none
      disabledUntil := none
      lastUsedAt := some now }

def markFailure (reason : ProviderFailoverReason) (now : Nat) (policy : ProviderProfileStatePolicy)
    (store : ProviderProfileStateStore) : ProviderProfileStateStore :=
  let pruned := store.pruneExpired now
  let entry := pruned.entryOr key reason
  let failed :=
    { entry with reason := reason, failureCount := min (entry.failureCount + 1) u32Max }
  pruned.marked key policy.maxEntries <|
    match policy.healthMode with
    | .enforceUnusableWindows =>
      if reason = .authRejected then
        { failed with
          disabledUntil := some (now + policy.authRejectDisable), cooldownUntil := none }
      else
        { failed with
          cooldownUntil := some (now +
            effectiveCooldown policy.cooldown policy.maxCooldown failed.failureCount) }
    | .observeOnly =>
      { failed with cooldownUntil := none, disabledUntil := none, lastUsedAt := some now }

end ProviderProfileStateStore

def shouldMarkProviderProfileFailure : ProviderFailoverReason -> Bool
  | .rateLimited | .providerOverloaded | .authRejected | .transportFailure | .requestRejected =>
    true
  | .modelMismatch | .payloadIncompatible | .responseDecodeFailure | .responseShapeInvalid => false

/-- Keys are hashes of a namespace and a name. -/
structure ProviderKeyspace where
  (buildProviderProfileStateKey buildModelCandidateCooldownKey : String -> String -> String)

variable (keyspace : ProviderKeyspace) (now : Nat) (profiles : List ProviderAuthProfile)
  (store : ProviderProfileStateStore)

def markProviderProfileSuccess (policy : ProviderProfileStatePolicy) (profile : ProviderAuthProfile)
    (now : Nat) (store : ProviderProfileStateStore) : ProviderProfileStateStore :=
  store.markSuccess (keyspace.buildProviderProfileStateKey policy.namespace profile.id) now
    policy.maxEntries

def markProviderProfileFailure (policy : ProviderProfileStatePolicy) (profile : ProviderAuthProfile)
    (reason : ProviderFailoverReason) (now : Nat) (store : ProviderProfileStateStore) :
    ProviderProfileStateStore :=
  if shouldMarkProviderProfileFailure reason then
    store.markFailure (keyspace.buildProviderProfileStateKey policy.namespace profile.id) reason
      now policy
  else store

/-! ## Order of the profiles -/

/-- The order of optional instants, where none comes first. -/
def noLater : Option Nat -> Option Nat -> Bool
  | none, _ => true
  | some _, none => false
  | some first, some second => decide (first <= second)

/-- The order of the profiles that wait: by the end of the wait, then by the last
use. -/
def cooledBefore (first second : Nat × Option Nat) : Bool :=
  decide (first.1 < second.1) || (decide (first.1 = second.1) && noLater first.2 second.2)

def prioritizeProfilesByHealth (healthMode : ProviderProfileHealthMode)
    (snapshotFor : ProviderAuthProfile -> ProviderProfileHealthSnapshot) :
    List ProviderAuthProfile :=
  if profiles.length <= 1 then profiles
  else
    let ready := profiles.filter fun profile =>
      decide (healthMode = .observeOnly) || (snapshotFor profile).unusableUntil.isNone
    let cooling := profiles.filter fun profile =>
      !(decide (healthMode = .observeOnly) || (snapshotFor profile).unusableUntil.isNone)
    (ready.insertionSort fun first second =>
        noLater (snapshotFor first).lastUsedAt (snapshotFor second).lastUsedAt = true) ++
      cooling.insertionSort fun first second =>
        cooledBefore (((snapshotFor first).unusableUntil.getD 0), (snapshotFor first).lastUsedAt)
          (((snapshotFor second).unusableUntil.getD 0), (snapshotFor second).lastUsedAt) = true

theorem prioritizeProfilesByHealth_perm {healthMode : ProviderProfileHealthMode}
    {snapshotFor : ProviderAuthProfile -> ProviderProfileHealthSnapshot} :
    (prioritizeProfilesByHealth profiles healthMode snapshotFor).Perm profiles := by
  unfold prioritizeProfilesByHealth
  by_cases few : profiles.length <= 1
  · rw [if_pos few]
  · rw [if_neg few]
    refine List.Perm.trans ?_ (List.filter_append_perm (fun profile =>
        decide (healthMode = .observeOnly) || (snapshotFor profile).unusableUntil.isNone) profiles)
    exact List.Perm.append (List.perm_insertionSort _ _) (List.perm_insertionSort _ _)

def prioritizeProviderAuthProfilesByHealth (profiles : List ProviderAuthProfile) :
    Option ProviderProfileStatePolicy -> List ProviderAuthProfile
  | none => profiles
  | some policy =>
    prioritizeProfilesByHealth profiles policy.healthMode fun profile =>
      store.healthSnapshot (keyspace.buildProviderProfileStateKey policy.namespace profile.id) now

theorem prioritizeProviderAuthProfilesByHealth_perm {policy : Option ProviderProfileStatePolicy} :
    (prioritizeProviderAuthProfilesByHealth keyspace now store profiles policy).Perm profiles := by
  cases policy with
  | none => exact List.Perm.refl profiles
  | some policy => exact prioritizeProfilesByHealth_perm profiles

/-- Looking at the health of a profile drops what has expired. -/
def statesAfterPrioritizing : Option ProviderProfileStatePolicy -> ProviderProfileStateStore
  | none => store
  | some _ => if profiles.length <= 1 then store else store.pruneExpired now

/-! ## Cooldowns of models -/

structure ModelCandidateCooldownPolicy where
  «namespace» : String
  (cooldown maxCooldown maxEntries : Nat)

structure ModelCandidateCooldownEntry where
  reason : ProviderFailoverReason
  (failureCount expiresAt : Nat)

abbrev ModelCandidateCooldownCache := TouchedEntries ModelCandidateCooldownEntry

def ModelCandidateCooldownCache.put (key : String) (reason : ProviderFailoverReason) (now : Nat)
    (policy : ModelCandidateCooldownPolicy) (cache : ModelCandidateCooldownCache) :
    ModelCandidateCooldownCache :=
  if policy.cooldown = 0 then cache
  else
    let pruned := cache.pruneExpired fun entry => decide (now < entry.expiresAt)
    let failureCount :=
      match lookup key pruned.entries with
      | none => 1
      | some entry => min (entry.failureCount + 1) u32Max
    pruned.touch policy.maxEntries key
      { reason := reason
        failureCount := failureCount
        expiresAt := now + effectiveCooldown policy.cooldown policy.maxCooldown failureCount }

def registerModelCandidateCooldown (policy : ModelCandidateCooldownPolicy) (model : String)
    (reason : ProviderFailoverReason) (now : Nat) (cache : ModelCandidateCooldownCache) :
    ModelCandidateCooldownCache :=
  if reason = .modelMismatch \/ reason = .payloadIncompatible then
    ModelCandidateCooldownCache.put (keyspace.buildModelCandidateCooldownKey policy.namespace model)
      reason now policy cache
  else cache

end LoongClaw.Provider
