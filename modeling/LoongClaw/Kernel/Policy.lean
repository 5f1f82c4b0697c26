import LoongClaw.Foundation.Hex
import LoongClaw.Foundation.Machine
import LoongClaw.Contracts.Types

namespace LoongClaw.Kernel

open Foundation Contracts CapabilitySet

/-!
# The static policy engine

Tokens carry the generation at which they were issued.  Revocation is by
token id or by generation threshold, and a fast-forward of the generation
counter is meant to keep later tokens above the threshold.  The counters are
64-bit and wrap, as the release build of the source does.  The lock of the
revoked-id set is never poisoned here, since no holder of it can fail.
-/

/-- Addition that stops at the largest value. -/
def saturatingAdd (first second : UInt64) : UInt64 :=
  if first + second < first then 18446744073709551615 else first + second

def fetchMax (current candidate : UInt64) : UInt64 :=
  if current <= candidate then candidate else current

theorem fetchMax_toNat {current candidate : UInt64} :
    (fetchMax current candidate).toNat = max current.toNat candidate.toNat := by
  unfold fetchMax
  by_cases ordered : current <= candidate
  · rw [if_pos ordered]
    have := UInt64.le_iff_toNat_le.mp ordered
    omega
  · rw [if_neg ordered]
    have := mt UInt64.le_iff_toNat_le.mpr ordered
    omega

/-- The counter increment used for identifiers: the value after adding one. -/
theorem toNat_add_one_of_lt {counter : UInt64} (room : counter.toNat + 1 < UInt64.size) :
    (counter + 1).toNat = counter.toNat + 1 := by
  exact Nat.mod_eq_of_lt room

structure StaticPolicyEngine where
  tokenSeq : UInt64
  revokedTokens : Finset String
  (generation revokedBelowGeneration : UInt64)

namespace StaticPolicyEngine

def new : StaticPolicyEngine where
  tokenSeq := 0
  revokedTokens := ∅
  generation := 0
  revokedBelowGeneration := 0

/-- `tok-` followed by sixteen hexadecimal digits. -/
def tokenIdText (seq : UInt64) : String :=
  "tok-" ++ String.ofList (Hex.fixedHex 16 seq.toNat)

theorem tokenIdText_injective {first second : UInt64}
    (same : tokenIdText first = tokenIdText second) : first = second := by
  have texts := congrArg String.toList same
  simp only [tokenIdText, String.toList_append, String.toList_ofList,
    List.append_cancel_left_eq] at texts
  apply UInt64.toNat_inj.mp
  exact Hex.fixedHex_injective first.toNat_lt second.toNat_lt texts

variable (engine : StaticPolicyEngine)

def nextTokenId : String × StaticPolicyEngine :=
  let seq := engine.tokenSeq + 1
  (tokenIdText seq, { engine with tokenSeq := seq })

def issueToken (pack : VerticalPackManifest) (agentId : String)
    (nowEpochS ttlS : UInt64) : CapabilityToken × StaticPolicyEngine :=
  let generation := engine.generation + 1
  let (tokenId, engine) := nextTokenId { engine with generation }
  ({ tokenId
     packId := pack.packId
     agentId
     allowedCapabilities := pack.grantedCapabilities
     issuedAtEpochS := nowEpochS
     expiresAtEpochS := saturatingAdd nowEpochS ttlS
     generation }, engine)

def revokeToken (tokenId : String) : StaticPolicyEngine :=
  { engine with revokedTokens := insert tokenId engine.revokedTokens }

/-- Raise the threshold to `below` and fast-forward the generation counter. -/
def revokeGeneration (below : UInt64) : StaticPolicyEngine :=
  { engine with
    revokedBelowGeneration := fetchMax engine.revokedBelowGeneration below
    generation := fetchMax engine.generation below }

/-- The two revocation tests of `authorize`.  Generation zero is exempt. -/
def isRevoked (token : CapabilityToken) : Bool :=
  decide (token.tokenId ∈ engine.revokedTokens) ||
    (decide (0 < token.generation) && decide (token.generation <= engine.revokedBelowGeneration))

def authorize (token : CapabilityToken) (runtimePackId : String)
    (nowEpochS : UInt64) (required : CapabilitySet) : Except PolicyError Unit :=
  if isRevoked engine token then .error (.revokedToken token.tokenId)
  else if token.packId ≠ runtimePackId then .error (.packMismatch token.packId runtimePackId)
  else if nowEpochS > token.expiresAtEpochS then
    .error (.expiredToken token.tokenId token.expiresAtEpochS)
  else
    match firstMissing required token.allowedCapabilities with
    | some capability => .error (.missingCapability token.tokenId capability)
    | none => .ok ()

variable {engine : StaticPolicyEngine} {token : CapabilityToken}

theorem isRevoked_iff : isRevoked engine token = true ↔ token.tokenId ∈ engine.revokedTokens \/
        (0 < token.generation.toNat /\
          token.generation.toNat <= engine.revokedBelowGeneration.toNat) := by
  simp [isRevoked, UInt64.lt_iff_toNat_lt, UInt64.le_iff_toNat_le]

variable {nowEpochS : UInt64} {runtimePackId : String}

/-- Everything that an accepting `authorize` has checked. -/
theorem authorize_ok_iff {required : CapabilitySet} :
    authorize engine token runtimePackId nowEpochS required = .ok () ↔
      isRevoked engine token = false /\ token.packId = runtimePackId /\
        nowEpochS <= token.expiresAtEpochS /\ required ⊆ token.allowedCapabilities := by
  unfold authorize
  cases revoked : isRevoked engine token with
  | true => simp
  | false =>
    by_cases samePack : token.packId = runtimePackId
    · by_cases expired : token.expiresAtEpochS < nowEpochS
      · simp [samePack, expired]
      · have live := UInt64.not_lt.mp expired
        cases missing : firstMissing required token.allowedCapabilities with
        | none =>
          have covered := firstMissing_eq_none_iff.mp missing
          simp [samePack, expired, live, covered]
        | some capability =>
          have uncovered : ¬ required ⊆ token.allowedCapabilities := by
            intro covered
            rw [firstMissing_eq_none_iff.mpr covered] at missing
            cases missing
          simp [samePack, expired, uncovered]
    · simp [samePack]

theorem authorize_of_isRevoked (revoked : isRevoked engine token = true)
    (required : CapabilitySet) :
    authorize engine token runtimePackId nowEpochS required =
      .error (.revokedToken token.tokenId) := by
  simp only [authorize, revoked, if_true]

theorem authorize_ne_revoked (current : isRevoked engine token = false)
    {required : CapabilitySet} {tokenId : String} :
    authorize engine token runtimePackId nowEpochS required ≠ .error (.revokedToken tokenId) := by
  unfold authorize
  rw [current]
  simp only [Bool.false_eq_true, if_false]
  split
  · simp
  · split
    · simp
    · split <;> simp

end StaticPolicyEngine

end LoongClaw.Kernel
