import LoongClaw.Kernel.Policy

namespace LoongClaw.Kernel

open Foundation Contracts Machine

/-!
# Revocation over whole call histories

A history is a list of calls on one policy engine that starts empty.  The
contract below speaks about the position of each call in the history: what a
revocation does to tokens issued before it, and what it leaves alone.

The contract is not met by every history.  The generation counter is 64-bit,
so an issue at the largest generation wraps to generation zero, which no
threshold reaches, and the tokens after it start again at generation one,
below the threshold.  Histories in which no issue wraps a counter meet it.
-/

/-- A call on the engine, with every argument the source takes. -/
inductive EngineCall where
  | issueToken (pack : VerticalPackManifest) (agentId : String) (nowEpochS ttlS : UInt64)
  | revokeToken (tokenId : String)
  | revokeGeneration (below : UInt64)
  | authorize (token : CapabilityToken) (runtimePackId : String) (nowEpochS : UInt64)
      (required : CapabilitySet)

namespace StaticPolicyEngine

def step (engine : StaticPolicyEngine) : EngineCall -> StaticPolicyEngine
  | .issueToken pack agentId nowEpochS ttlS => (engine.issueToken pack agentId nowEpochS ttlS).2
  | .revokeToken tokenId => engine.revokeToken tokenId
  | .revokeGeneration below => engine.revokeGeneration below
  | .authorize _ _ _ _ => engine

/-- The engine after a history, from the empty engine. -/
def after (calls : List EngineCall) : StaticPolicyEngine :=
  run step new calls

/-- The tokens handed out along a history, oldest first. -/
def issued (engine : StaticPolicyEngine) : List EngineCall -> List CapabilityToken
  | [] => []
  | .issueToken pack agentId nowEpochS ttlS :: rest =>
    (engine.issueToken pack agentId nowEpochS ttlS).1 ::
      issued (engine.issueToken pack agentId nowEpochS ttlS).2 rest
  | call :: rest => issued (engine.step call) rest

/-- The generation counter does not wrap when this call is made. -/
def GenerationHasRoom (engine : StaticPolicyEngine) : EngineCall -> Prop
  | .issueToken _ _ _ _ => engine.generation.toNat + 1 < UInt64.size
  | _ => True

/-! ## What one call does to the revocation state -/

section

variable (engine : StaticPolicyEngine)

include engine

variable (call : EngineCall)

theorem step_revokedBelowGeneration : (engine.step call).revokedBelowGeneration =
      match call with
      | .revokeGeneration below => fetchMax engine.revokedBelowGeneration below
      | _ => engine.revokedBelowGeneration := by
  cases call <;> rfl

/-- The threshold only grows, whatever the call. -/
theorem step_threshold_le :
    engine.revokedBelowGeneration.toNat <= (engine.step call).revokedBelowGeneration.toNat := by
  rw [step_revokedBelowGeneration]
  cases call with
  | revokeGeneration below =>
    simp only [fetchMax_toNat]
    omega
  | issueToken _ _ _ _ | revokeToken _ | authorize _ _ _ _ => exact Nat.le_refl _

theorem step_revokedTokens_subset : engine.revokedTokens ⊆ (engine.step call).revokedTokens := by
  cases call with
  | revokeToken tokenId => exact Finset.subset_insert _ _
  | issueToken _ _ _ _ | revokeGeneration _ | authorize _ _ _ _ => exact Finset.Subset.refl _

variable (calls : List EngineCall)

theorem run_threshold_le : engine.revokedBelowGeneration.toNat <=
      (run step engine calls).revokedBelowGeneration.toNat :=
  run_related step (fun first second =>
      first.revokedBelowGeneration.toNat <= second.revokedBelowGeneration.toNat)
    (fun _ => Nat.le_refl _) Nat.le_trans step_threshold_le engine calls

theorem run_revokedTokens_subset : engine.revokedTokens ⊆ (run step engine calls).revokedTokens :=
  run_related step (fun first second => first.revokedTokens ⊆ second.revokedTokens)
    (fun _ => Finset.Subset.refl _) Finset.Subset.trans step_revokedTokens_subset engine calls

/-- Without a generation revocation the threshold stays where it is. -/
theorem run_threshold_eq (unrevoked : ∀ below, .revokeGeneration below ∉ calls) :
    (run step engine calls).revokedBelowGeneration = engine.revokedBelowGeneration := by
  induction calls generalizing engine with
  | nil => rfl
  | cons call rest ih =>
    rw [run_cons, ih _ (fun below member => unrevoked below (List.mem_cons_of_mem _ member)),
      step_revokedBelowGeneration]
    cases call with
    | revokeGeneration below => exact absurd List.mem_cons_self (unrevoked below)
    | issueToken | revokeToken | authorize => rfl

/-- Only a call that revokes an id puts it into the revoked set. -/
theorem mem_run_revokedTokens {tokenId : String} : tokenId ∈ (run step engine calls).revokedTokens ↔
      tokenId ∈ engine.revokedTokens \/ .revokeToken tokenId ∈ calls := by
  induction calls generalizing engine with
  | nil => simp
  | cons call rest ih =>
    rw [run_cons, ih]
    cases call with
    | revokeToken other =>
      show tokenId ∈ insert other engine.revokedTokens \/ _ ↔ _
      simp [or_left_comm, or_assoc]
    | issueToken | revokeGeneration | authorize =>
      show tokenId ∈ engine.revokedTokens \/ _ ↔ _
      simp

end

/-! ## What an issue leaves behind when the counter has room -/

/-- The threshold and the token sequence never overtake the generation
counter, so room in that counter is room in all of them. -/
structure CountersOrdered (engine : StaticPolicyEngine) : Prop where
  threshold_le : engine.revokedBelowGeneration.toNat <= engine.generation.toNat
  tokenSeq_le : engine.tokenSeq.toNat <= engine.generation.toNat

theorem countersOrdered_new : CountersOrdered new := ⟨Nat.le_refl _, Nat.le_refl _⟩

theorem countersOrdered_step (engine : StaticPolicyEngine) (call : EngineCall)
    (room : engine.GenerationHasRoom call) (ordered : CountersOrdered engine) :
    CountersOrdered (engine.step call) := by
  cases call with
  | issueToken pack agentId nowEpochS ttlS =>
    have generationRoom : engine.generation.toNat + 1 < UInt64.size := room
    have seqRoom : engine.tokenSeq.toNat + 1 < UInt64.size := by
      have := ordered.tokenSeq_le
      omega
    constructor
    · show engine.revokedBelowGeneration.toNat <= (engine.generation + 1).toNat
      rw [toNat_add_one_of_lt generationRoom]
      exact Nat.le_succ_of_le ordered.threshold_le
    · show (engine.tokenSeq + 1).toNat <= (engine.generation + 1).toNat
      rw [toNat_add_one_of_lt generationRoom, toNat_add_one_of_lt seqRoom]
      exact Nat.succ_le_succ ordered.tokenSeq_le
  | revokeToken _ => exact ⟨ordered.threshold_le, ordered.tokenSeq_le⟩
  | revokeGeneration below =>
    constructor
    · show (fetchMax engine.revokedBelowGeneration below).toNat <=
        (fetchMax engine.generation below).toNat
      rw [fetchMax_toNat, fetchMax_toNat]
      exact max_le_max_right _ ordered.threshold_le
    · show engine.tokenSeq.toNat <= (fetchMax engine.generation below).toNat
      rw [fetchMax_toNat]
      exact le_max_of_le_left ordered.tokenSeq_le
  | authorize _ _ _ _ => exact ordered

variable {engine : StaticPolicyEngine} {calls : List EngineCall} {token : CapabilityToken}

section

variable (ordered : CountersOrdered engine)

include ordered

/-- A fresh token lies above every threshold reached so far. -/
theorem issueToken_generation (room : engine.generation.toNat + 1 < UInt64.size)
    {pack : VerticalPackManifest}
    {agentId : String} {nowEpochS ttlS : UInt64} :
    engine.revokedBelowGeneration.toNat <
      (engine.issueToken pack agentId nowEpochS ttlS).1.generation.toNat := by
  show engine.revokedBelowGeneration.toNat < (engine.generation + 1).toNat
  rw [toNat_add_one_of_lt room]
  exact Nat.lt_succ_of_le ordered.threshold_le

/-- Every token of a history without wrap carries a positive generation and an
id made from a sequence number above the one the history started from. -/
theorem issued_token (room : Guarded step GenerationHasRoom engine calls)
    (member : token ∈ issued engine calls) :
    0 < token.generation.toNat /\ ∃ seq : UInt64,
      engine.tokenSeq.toNat < seq.toNat /\ token.tokenId = tokenIdText seq := by
  induction calls generalizing engine with
  | nil => cases member
  | cons call rest ih =>
    have later := ih (countersOrdered_step engine call room.1 ordered) room.2
    cases call with
    | issueToken pack agentId nowEpochS ttlS =>
      have generationRoom : engine.generation.toNat + 1 < UInt64.size := room.1
      have seqRoom : engine.tokenSeq.toNat + 1 < UInt64.size := by
        have := ordered.tokenSeq_le
        omega
      have advanced : (engine.step (.issueToken pack agentId nowEpochS ttlS)).tokenSeq.toNat =
          engine.tokenSeq.toNat + 1 := toNat_add_one_of_lt seqRoom
      rcases List.mem_cons.mp member with rfl | inRest
      · refine ⟨Nat.zero_lt_of_lt (issueToken_generation ordered generationRoom),
          engine.tokenSeq + 1, ?_, rfl⟩
        rw [toNat_add_one_of_lt seqRoom]
        exact Nat.lt_succ_self _
      · rcases later inRest with ⟨positive, seq, above, text⟩
        exact ⟨positive, seq, by omega, text⟩
    | revokeToken | revokeGeneration | authorize => exact later member

theorem issued_ids_nodup (room : Guarded step GenerationHasRoom engine calls) :
    ((issued engine calls).map CapabilityToken.tokenId).Nodup := by
  induction calls generalizing engine with
  | nil => exact List.nodup_nil
  | cons call rest ih =>
    have orderedNext := countersOrdered_step engine call room.1 ordered
    have later := ih orderedNext room.2
    cases call with
    | issueToken pack agentId nowEpochS ttlS =>
      refine List.nodup_cons.mpr ⟨?_, later⟩
      intro repeated
      rcases List.mem_map.mp repeated with ⟨token, member, sameId⟩
      rcases (issued_token orderedNext room.2 member).2 with ⟨seq, above, text⟩
      have sameSeq : seq = engine.tokenSeq + 1 :=
        tokenIdText_injective (text.symm.trans sameId)
      exact absurd (congrArg UInt64.toNat sameSeq) (Nat.ne_of_gt above)
    | revokeToken | revokeGeneration | authorize => exact later

end

/-! ## The revocation contract -/

/-- Every `authorize` call after the history rejects the token. -/
def RejectedAfter (calls : List EngineCall) (token : CapabilityToken) : Prop :=
  ∀ (runtimePackId : String) (nowEpochS : UInt64) (required : CapabilitySet), ∃ error,
      (after calls).authorize token runtimePackId nowEpochS required = .error error

/-- What a history of engine calls promises about the authorizations that
follow it.  `before ++ later` splits the history around the call a promise is
about. -/
structure RevocationContract (calls : List EngineCall) : Prop where
  revokedId_rejected : ∀ token : CapabilityToken,
    .revokeToken token.tokenId ∈ calls -> RejectedAfter calls token
  revokedGeneration_rejected : ∀ (before later : List EngineCall) (below : UInt64)
    (token : CapabilityToken), calls = before ++ later -> token ∈ issued new before ->
      .revokeGeneration below ∈ later -> token.generation <= below -> RejectedAfter calls token
  fresh_not_revoked : ∀ (before later : List EngineCall) (pack : VerticalPackManifest)
    (agentId : String) (issuedAt ttlS : UInt64) (token : CapabilityToken),
      calls = before ++ .issueToken pack agentId issuedAt ttlS :: later ->
      token = ((after before).issueToken pack agentId issuedAt ttlS).1 ->
      (∀ below, .revokeGeneration below ∉ later) ->
      .revokeToken token.tokenId ∉ calls ->
      ∀ (runtimePackId : String) (nowEpochS : UInt64) (required : CapabilitySet)
        (tokenId : String), (after calls).authorize token runtimePackId nowEpochS required ≠
          .error (.revokedToken tokenId)
  threshold_monotone : ∀ before later : List EngineCall, calls = before ++ later ->
    (after before).revokedBelowGeneration <= (after calls).revokedBelowGeneration
  issued_ids_distinct : ((issued new calls).map CapabilityToken.tokenId).Nodup

theorem rejectedAfter_of_isRevoked (revoked : (after calls).isRevoked token = true) :
    RejectedAfter calls token :=
  fun _ _ required =>
    ⟨_, authorize_of_isRevoked revoked required⟩

theorem after_append {before later : List EngineCall} :
    after (before ++ later) = run step (after before) later :=
  run_append step new before later

/-- A generation revocation anywhere in the calls bounds the threshold below. -/
theorem threshold_ge_of_revokeGeneration (engine : StaticPolicyEngine) {below : UInt64}
    (member : .revokeGeneration below ∈ calls) :
    below.toNat <= (run step engine calls).revokedBelowGeneration.toNat := by
  refine run_of_mem step
    (fun state => below.toNat <= state.revokedBelowGeneration.toNat) ?_ ?_ member
  · intro state
    rw [step_revokedBelowGeneration, fetchMax_toNat]
    exact Nat.le_max_right _ _
  · intro state call reached
    exact Nat.le_trans reached (step_threshold_le state call)

/-- Every history in which no issue wraps the generation counter keeps the
whole contract. -/
theorem revocationContract_of_room (calls : List EngineCall)
    (room : Guarded step GenerationHasRoom new calls) : RevocationContract calls where
  revokedId_rejected token member := by
    apply rejectedAfter_of_isRevoked
    exact isRevoked_iff.mpr (.inl ((mem_run_revokedTokens new calls).mpr (.inr member)))
  revokedGeneration_rejected before later below token split member called ordered := by
    subst split
    have roomBefore := ((guarded_append step).mp room).1
    have positive := (issued_token countersOrdered_new roomBefore member).1
    have reached := threshold_ge_of_revokeGeneration (after before) called
    apply rejectedAfter_of_isRevoked
    refine isRevoked_iff.mpr (.inr ⟨positive, ?_⟩)
    rw [after_append]
    exact Nat.le_trans (UInt64.le_iff_toNat_le.mp ordered) reached
  fresh_not_revoked before later pack agentId issuedAt ttlS token split fresh
    noGeneration noId := by
    subst split fresh
    have rooms := (guarded_append step).mp room
    have ordered :=
      guarded_run_invariant step countersOrdered_step countersOrdered_new rooms.1
    intro runtimePackId nowEpochS required tokenId
    refine authorize_ne_revoked (Bool.eq_false_iff.mpr fun revoked => ?_)
    rcases isRevoked_iff.mp revoked with byId | ⟨_, byGeneration⟩
    · rcases (mem_run_revokedTokens new _).mp byId with initially | called
      · simp [new] at initially
      · exact noId called
    · rw [after_append, run_cons, run_threshold_eq _ later noGeneration] at byGeneration
      exact absurd byGeneration (Nat.not_le_of_lt (issueToken_generation ordered rooms.2.1))
  threshold_monotone before later split := by
    subst split
    rw [after_append]
    exact UInt64.le_iff_toNat_le.mpr (run_threshold_le (after before) later)
  issued_ids_distinct := issued_ids_nodup countersOrdered_new room

/-- A history with both kinds of revocation and an issue on either side. -/
theorem revocationContract_of_room_sample : RevocationContract
      [.issueToken .samplePack "agent-a" 100 60, .revokeGeneration 7,
        .issueToken .samplePack "agent-b" 100 60, .revokeToken "tok-0000000000000002"] :=
  revocationContract_of_room _ (by simp [Guarded, GenerationHasRoom, step, new, issueToken,
    nextTokenId, revokeGeneration, fetchMax, UInt64.size])

/-- After `revoke_generation(u64::MAX)` the next token has generation zero, which
a later revocation does not reach, and the one after it has generation one,
which is rejected as revoked although nothing was revoked since. -/
theorem revocationContract_fails_after_max : ¬ RevocationContract
        [.revokeGeneration 18446744073709551615, .issueToken .samplePack "agent-a" 100 60,
          .revokeGeneration 18446744073709551615] /\
      ¬ RevocationContract
        [.revokeGeneration 18446744073709551615, .issueToken .samplePack "agent-a" 100 60,
          .issueToken .samplePack "agent-b" 100 60] := by
  constructor
  · intro contract
    rcases contract.revokedGeneration_rejected
        [.revokeGeneration 18446744073709551615, .issueToken .samplePack "agent-a" 100 60]
        [.revokeGeneration 18446744073709551615] 18446744073709551615 _ rfl
        List.mem_cons_self List.mem_cons_self (by decide) "sales-intel" 100 ∅ with
      ⟨error, rejected⟩
    have accepted : (after [.revokeGeneration 18446744073709551615,
        .issueToken .samplePack "agent-a" 100 60, .revokeGeneration 18446744073709551615]).authorize
        ((after [.revokeGeneration 18446744073709551615]).issueToken
          .samplePack "agent-a" 100 60).1 "sales-intel" 100 ∅ = .ok () :=
      authorize_ok_iff.mpr (by decide)
    cases accepted.symm.trans rejected
  · intro contract
    refine contract.fresh_not_revoked
      [.revokeGeneration 18446744073709551615, .issueToken .samplePack "agent-a" 100 60] []
      .samplePack "agent-b" 100 60 _ rfl rfl (by simp) (by simp) "sales-intel" 100 ∅
      "tok-0000000000000002" ?_
    exact authorize_of_isRevoked (by decide) ∅

end StaticPolicyEngine

end LoongClaw.Kernel
