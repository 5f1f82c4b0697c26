import LoongClaw.Kernel.Mediation
import LoongClaw.Kernel.Revocation

namespace LoongClaw.Kernel

open Foundation Contracts Attempt Machine

/-!
# Access along whole kernel histories

A history is a list of kernel operations of every kind.  Whatever came before,
an adapter runs only for a call that every access rule accepts, where the rules
are read off the history: the packs and policy extensions it registered and
the tokens and generations it revoked.
-/

variable {π ω : Type}

namespace LoongClawKernel

/-! ## What a call changes -/

variable (nowEpochS : UInt64)

theorem record_frame (agentId : Option String) (kind : AuditEventKind)
    (kernel : LoongClawKernel π ω) :
    ∃ auditLog eventSeq,
      (record nowEpochS agentId kind kernel).2 = { kernel with auditLog, eventSeq } := by
  unfold record
  dsimp only
  split
  · exact ⟨kernel.auditLog, _, rfl⟩
  · exact ⟨_, _, rfl⟩

theorem recordAll_frame (agentId : String) (kinds : List AuditEventKind)
    (kernel : LoongClawKernel π ω) :
    ∃ auditLog eventSeq,
      (recordAll nowEpochS agentId kinds kernel).2 = { kernel with auditLog, eventSeq } := by
  induction kinds generalizing kernel with
  | nil => exact ⟨kernel.auditLog, kernel.eventSeq, rfl⟩
  | cons kind rest ih =>
    rcases record_frame nowEpochS (some agentId) kind kernel with ⟨auditLog, eventSeq, recorded⟩
    unfold recordAll
    rw [bind_apply]
    split
    · case h_1 later outcome =>
        rw [outcome] at recorded
        rcases ih later with ⟨laterLog, laterSeq, laterRecorded⟩
        refine ⟨laterLog, laterSeq, laterRecorded.trans ?_⟩
        rw [show later = _ from recorded]
    · case h_2 later outcome =>
        rw [outcome] at recorded
        exact ⟨auditLog, eventSeq, recorded⟩

/-- The adapter runs that an admitted call adds. -/
def runsOf (ambient : Ambient ω) (token : CapabilityToken) (call : KernelCall)
    (pack : VerticalPackManifest) (kernel : LoongClawKernel π ω) : List Invocation :=
  ((dispatchOf ambient.world token pack kernel call).reached.map
    (fun run => { plane := calledPlane call, run })).toList

variable [PolicyEngine π]

/-- The runs a call adds, by its verdict. -/
def addedRuns (ambient : Ambient ω) (packId : String) (token : CapabilityToken)
    (call : KernelCall) (kernel : LoongClawKernel π ω) : List Invocation :=
  match verdict ambient packId token call kernel with
  | .admitted pack => runsOf ambient token call pack kernel
  | _ => []

/-- The kinds of event a call adds to a log whose sink accepts everything. -/
def recordedKinds (ambient : Ambient ω) (packId : String) (token : CapabilityToken)
    (call : KernelCall) (kernel : LoongClawKernel π ω) : List AuditEventKind :=
  match verdict ambient packId token call kernel with
  | .unknownPack => []
  | .connectorRefused _ _ => []
  | .outsidePack _ _ => []
  | .denied pack error => [.authorizationDenied pack.packId token.tokenId error.display]
  | .admitted pack =>
    match (dispatchOf ambient.world token pack kernel call).result with
    | .error _ => []
    | .ok _ => reportsOf pack kernel call

/-- A call adds its runs and writes its records, and does nothing else. -/
theorem perform_state {ambient : Ambient ω} {packId : String} {token : CapabilityToken}
    {call : KernelCall} {kernel : LoongClawKernel π ω} :
    (perform ambient packId token call kernel).2 =
      (recordAll ambient.nowEpochS token.agentId (recordedKinds ambient packId token call kernel)
        { kernel with
          invocations := kernel.invocations ++ addedRuns ambient packId token call kernel }).2 := by
  rw [perform_eq_mediated]
  unfold mediated recordedKinds addedRuns
  cases verdict ambient packId token call kernel with
  | denied pack error =>
    simp only [List.append_nil]
    have denial : (auditDenial (α := Unit) ambient.nowEpochS pack token error kernel).2 = _ :=
      bind_state_of_keeps (fun _ _ => rfl)
    exact denial.trans (bind_state_of_keeps (fun _ _ => rfl)).symm
  | admitted pack =>
    show (completeCall ambient token call pack kernel).2 = _
    unfold completeCall
    rw [bind_ok read_apply, bind_apply]
    cases outcome : (dispatchOf ambient.world token pack kernel call).result with
    | error | ok =>
      simp only [invoke, outcome]
      rfl
  | _ =>
    simp only [List.append_nil]
    rfl

/-- A call touches the audit trail and the record of runs, and nothing else. -/
theorem perform_frame {ambient : Ambient ω} {packId : String} {token : CapabilityToken}
    {call : KernelCall} (kernel : LoongClawKernel π ω) :
    ∃ auditLog eventSeq, (perform ambient packId token call kernel).2 =
        { kernel with
          auditLog
          eventSeq
          invocations := kernel.invocations ++ addedRuns ambient packId token call kernel } := by
  rw [perform_state]
  exact recordAll_frame _ _ _ _

/-- The call makes an adapter or the harness run. -/
def Invokes (ambient : Ambient ω) (packId : String) (token : CapabilityToken)
    (call : KernelCall) (kernel : LoongClawKernel π ω) : Prop :=
  (perform ambient packId token call kernel).2.invocations ≠ kernel.invocations

instance (ambient : Ambient ω) (packId : String) (token : CapabilityToken) (call : KernelCall)
    (kernel : LoongClawKernel π ω) : Decidable (Invokes ambient packId token call kernel) :=
  inferInstanceAs (Decidable (_ ≠ _))

variable {ambient : Ambient ω} {packId : String} {token : CapabilityToken} {call : KernelCall}
  {kernel : LoongClawKernel π ω} {pack : VerticalPackManifest}

theorem invokes_iff : Invokes ambient packId token call kernel ↔
      ∃ pack, verdict ambient packId token call kernel = .admitted pack /\
        runsOf ambient token call pack kernel ≠ [] := by
  rcases perform_frame kernel with ⟨auditLog, eventSeq, changed⟩
  have runs : Invokes ambient packId token call kernel ↔
      addedRuns ambient packId token call kernel ≠ [] := by
    unfold Invokes
    rw [changed]
    simp
  rw [runs]
  unfold addedRuns
  cases verdict ambient packId token call kernel <;> simp

theorem policyVerdict_eq_admitted_iff {admitted : VerticalPackManifest} :
    policyVerdict ambient token call pack kernel = .admitted admitted ↔ pack = admitted /\
        PolicyEngine.authorize kernel.policy token pack.packId ambient.nowEpochS call.required =
          .ok () /\
        ∀ extension, extension ∈ kernel.policyExtensions ->
          extension.authorizeExtension (extensionContext ambient token call pack) ambient.world =
            .ok () := by
  rw [<- PolicyExtensionChain.authorize_eq_ok_iff]
  unfold policyVerdict
  cases PolicyEngine.authorize kernel.policy token pack.packId ambient.nowEpochS call.required with
  | error error => simp
  | ok accepted =>
    cases kernel.policyExtensions.authorize (extensionContext ambient token call pack)
        ambient.world with
    | error error => simp
    | ok accepted => simp

/-- Everything that an admitting verdict has checked. -/
theorem verdict_eq_admitted_iff : verdict ambient packId token call kernel = .admitted pack ↔
      kernel.packs.lookup packId = some pack /\ (∀ connector, call.connector = some connector ->
          connector ∈ pack.allowedConnectors) /\
        call.required ⊆ pack.grantedCapabilities /\
        PolicyEngine.authorize kernel.policy token pack.packId ambient.nowEpochS call.required =
          .ok () /\
        ∀ extension, extension ∈ kernel.policyExtensions ->
          extension.authorizeExtension (extensionContext ambient token call pack) ambient.world =
            .ok () := by
  constructor
  · intro admitted
    have facts := verdict_facts ambient packId token call kernel
    simp only [admitted] at facts
    rcases facts with ⟨registered, allowed, covered⟩
    rw [verdict_of_boundary _ _ _ _ _ _ registered allowed covered] at admitted
    exact ⟨registered, allowed, covered, (policyVerdict_eq_admitted_iff.mp admitted).2⟩
  · rintro ⟨registered, allowed, covered, accepted⟩
    rw [verdict_of_boundary _ _ _ _ _ _ registered allowed covered]
    exact policyVerdict_eq_admitted_iff.mpr ⟨rfl, accepted⟩

/-- Extensions only take away: a call that runs an adapter under a longer
chain runs one under every chain contained in it. -/
theorem invokes_of_more_extensions {more : PolicyExtensionChain ω}
    (contained : ∀ extension, extension ∈ kernel.policyExtensions -> extension ∈ more)
    (invoked : Invokes ambient packId token call { kernel with policyExtensions := more }) :
    Invokes ambient packId token call kernel := by
  rcases invokes_iff.mp invoked with ⟨pack, admitted, runs⟩
  rcases verdict_eq_admitted_iff.mp admitted with
    ⟨registered, connectors, granted, authorized, accepted⟩
  refine invokes_iff.mpr ⟨pack, verdict_eq_admitted_iff.mpr ?_, ?_⟩
  · exact ⟨registered, connectors, granted, authorized,
      fun extension member => accepted extension (contained extension member)⟩
  · have sameDispatch : dispatchOf ambient.world token pack
        { kernel with policyExtensions := more } call =
          dispatchOf ambient.world token pack kernel call := by
      cases call <;> rfl
    unfold runsOf at runs ⊢
    rwa [sameDispatch] at runs

end LoongClawKernel

/-! ## Kernel histories -/

/-- Every operation on a kernel, with its arguments. -/
inductive KernelOp (ω : Type) where
  | registerPack (pack : VerticalPackManifest)
  | registerPolicyExtension (extension : PolicyExtension ω)
  | registerHarnessAdapter (adapter : HarnessAdapter ω)
  | registerCoreConnectorAdapter (adapter : CoreAdapter ConnectorCommand ConnectorOutcome ω)
  | registerConnectorExtensionAdapter
      (adapter : ExtensionAdapter ConnectorCommand ConnectorCommand ConnectorOutcome ω)
  | registerCoreRuntimeAdapter (adapter : CoreAdapter RuntimeCoreRequest PlaneOutcome ω)
  | registerRuntimeExtensionAdapter
      (adapter : ExtensionAdapter RuntimeCoreRequest RuntimeExtensionRequest PlaneOutcome ω)
  | registerCoreToolAdapter (adapter : CoreAdapter ToolCoreRequest PlaneOutcome ω)
  | registerToolExtensionAdapter
      (adapter : ExtensionAdapter ToolCoreRequest ToolExtensionRequest PlaneOutcome ω)
  | registerCoreMemoryAdapter (adapter : CoreAdapter MemoryCoreRequest PlaneOutcome ω)
  | registerMemoryExtensionAdapter
      (adapter : ExtensionAdapter MemoryCoreRequest MemoryExtensionRequest PlaneOutcome ω)
  | setDefaultCoreAdapter (plane : ExecutionPlane) (name : String)
  | issueToken (nowEpochS : UInt64) (packId agentId : String) (ttlS : UInt64)
  | revokeToken (nowEpochS : UInt64) (tokenId : String) (actorAgentId : Option String)
  | revokeGeneration (below : UInt64)
  | recordAuditEvent (nowEpochS : UInt64) (agentId : Option String) (kind : AuditEventKind)
  | execute (ambient : Ambient ω) (packId : String) (token : CapabilityToken) (call : KernelCall)

namespace LoongClawKernel

section Histories

variable (parsesAsVersion : String -> Bool) (kernel start : LoongClawKernel StaticPolicyEngine ω)

def step : KernelOp ω -> LoongClawKernel StaticPolicyEngine ω
  | .registerPack pack => (registerPack parsesAsVersion pack kernel).2
  | .registerPolicyExtension extension => registerPolicyExtension extension kernel
  | .registerHarnessAdapter adapter => registerHarnessAdapter adapter kernel
  | .registerCoreConnectorAdapter adapter => registerCoreConnectorAdapter adapter kernel
  | .registerConnectorExtensionAdapter adapter => registerConnectorExtensionAdapter adapter kernel
  | .registerCoreRuntimeAdapter adapter => registerCoreRuntimeAdapter adapter kernel
  | .registerRuntimeExtensionAdapter adapter => registerRuntimeExtensionAdapter adapter kernel
  | .registerCoreToolAdapter adapter => registerCoreToolAdapter adapter kernel
  | .registerToolExtensionAdapter adapter => registerToolExtensionAdapter adapter kernel
  | .registerCoreMemoryAdapter adapter => registerCoreMemoryAdapter adapter kernel
  | .registerMemoryExtensionAdapter adapter => registerMemoryExtensionAdapter adapter kernel
  | .setDefaultCoreAdapter .connector name => (setDefaultCoreConnectorAdapter name kernel).2
  | .setDefaultCoreAdapter .runtime name => (setDefaultCoreRuntimeAdapter name kernel).2
  | .setDefaultCoreAdapter .tool name => (setDefaultCoreToolAdapter name kernel).2
  | .setDefaultCoreAdapter .memory name => (setDefaultCoreMemoryAdapter name kernel).2
  | .issueToken nowEpochS packId agentId ttlS =>
    (issueToken nowEpochS packId agentId ttlS kernel).2
  | .revokeToken nowEpochS tokenId actorAgentId =>
    (revokeToken nowEpochS tokenId actorAgentId kernel).2
  | .revokeGeneration below => (revokeGeneration below kernel).2
  | .recordAuditEvent nowEpochS agentId kind => (recordAuditEvent nowEpochS agentId kind kernel).2
  | .execute ambient packId token call => (perform ambient packId token call kernel).2

/-- The kernel after a history, from the empty kernel over some sink. -/
def afterOps (auditRefuses : List AuditEvent -> AuditEvent -> Option AuditError)
    (ops : List (KernelOp ω)) : LoongClawKernel StaticPolicyEngine ω :=
  run (step parsesAsVersion) (withRuntime .new auditRefuses) ops

/-- The calls an operation makes on the policy engine. -/
def engineCalls : KernelOp ω -> List EngineCall
  | .issueToken nowEpochS packId agentId ttlS =>
    match kernel.packs.lookup packId with
    | none => []
    | some pack => [.issueToken pack agentId nowEpochS ttlS]
  | .revokeToken _ tokenId _ => [.revokeToken tokenId]
  | .revokeGeneration below => [.revokeGeneration below]
  | _ => []

def extensionsAfter (chain : PolicyExtensionChain ω) : KernelOp ω -> PolicyExtensionChain ω
  | .registerPolicyExtension extension => chain.register extension
  | _ => chain

/-- What one operation does to the parts of the kernel that the access rules
and the audit trail are about. -/
structure StepFacts (kernel : LoongClawKernel StaticPolicyEngine ω) (op : KernelOp ω)
    (next : LoongClawKernel StaticPolicyEngine ω) : Prop where
  policy : next.policy = run StaticPolicyEngine.step kernel.policy (engineCalls kernel op)
  extensions : next.policyExtensions = extensionsAfter kernel.policyExtensions op
  packs : next.packs = kernel.packs \/ ∃ pack, op = .registerPack pack /\
      next.packs = kernel.packs.insert pack.packId pack
  trail : (next.auditLog = kernel.auditLog /\ next.eventSeq = kernel.eventSeq) \/
    (∃ nowEpochS agentId, ∃ kind policy,
      next = (record nowEpochS agentId kind { kernel with policy }).2) \/
    ∃ ambient packId, ∃ token call, op = .execute ambient packId token call

/-- An issue either finds no pack or records what the engine issued. -/
theorem issueToken_state {nowEpochS : UInt64} {packId agentId : String} {ttlS : UInt64}
    {kernel : LoongClawKernel StaticPolicyEngine ω} :
    (issueToken nowEpochS packId agentId ttlS kernel).2 =
      match kernel.packs.lookup packId with
      | none => kernel
      | some pack =>
        (record nowEpochS (some agentId)
          (.tokenIssued (kernel.policy.issueToken pack agentId nowEpochS ttlS).1)
          { kernel with
            policy := (kernel.policy.issueToken pack agentId nowEpochS ttlS).2 }).2 := by
  unfold issueToken
  rw [getPack_bind]
  cases kernel.packs.lookup packId with
  | none => rfl
  | some pack =>
    have engineCall : onPolicy (fun engine : StaticPolicyEngine =>
        PolicyEngine.issueToken engine pack agentId nowEpochS ttlS) kernel =
          (.ok (kernel.policy.issueToken pack agentId nowEpochS ttlS).1,
            { kernel with
              policy := (kernel.policy.issueToken pack agentId nowEpochS ttlS).2 }) := rfl
    dsimp only
    rw [bind_ok engineCall]
    exact bind_state_of_keeps (fun _ _ => rfl)

/-- An operation that updates the engine and then records one event. -/
theorem stepFacts_of_record {kernel : LoongClawKernel StaticPolicyEngine ω} {op : KernelOp ω}
    {policy : StaticPolicyEngine}
    (engine : policy = run StaticPolicyEngine.step kernel.policy (engineCalls kernel op))
    (extensions : extensionsAfter kernel.policyExtensions op = kernel.policyExtensions)
    {nowEpochS : UInt64} {agentId : Option String} {kind : AuditEventKind} :
    StepFacts kernel op (record nowEpochS agentId kind { kernel with policy }).2 := by
  rcases record_frame nowEpochS agentId kind { kernel with policy } with
    ⟨auditLog, eventSeq, recorded⟩
  refine ⟨?_, ?_, .inl ?_, .inr (.inl ⟨nowEpochS, agentId, kind, policy, rfl⟩)⟩
  · rw [recorded]
    exact engine
  · rw [recorded]
    exact extensions.symm
  · rw [recorded]

theorem step_facts (op : KernelOp ω) : StepFacts kernel op (step parsesAsVersion kernel op) := by
  cases op with
  | registerPack pack =>
    simp only [step, registerPack]
    cases pack.validate parsesAsVersion with
    | error error => exact ⟨rfl, rfl, .inl rfl, .inl ⟨rfl, rfl⟩⟩
    | ok valid =>
      by_cases present : kernel.packs.contains pack.packId = true
      · rw [if_pos present]
        exact ⟨rfl, rfl, .inl rfl, .inl ⟨rfl, rfl⟩⟩
      · rw [if_neg present]
        exact ⟨rfl, rfl, .inr ⟨pack, rfl, rfl⟩, .inl ⟨rfl, rfl⟩⟩
  | setDefaultCoreAdapter plane name =>
    cases plane with
    | connector | runtime | tool | memory =>
      simp only [step, setDefaultCoreConnectorAdapter, setDefaultCoreRuntimeAdapter,
        setDefaultCoreToolAdapter, setDefaultCoreMemoryAdapter]
      split
      · exact ⟨rfl, rfl, .inl rfl, .inl ⟨rfl, rfl⟩⟩
      · exact ⟨rfl, rfl, .inl rfl, .inl ⟨rfl, rfl⟩⟩
  | issueToken nowEpochS packId agentId ttlS =>
    simp only [step, issueToken_state]
    cases registered : kernel.packs.lookup packId with
    | none => exact ⟨by simp [engineCalls, registered], rfl, .inl rfl, .inl ⟨rfl, rfl⟩⟩
    | some pack =>
      refine stepFacts_of_record ?_ rfl
      simp only [engineCalls, registered]
      rfl
  | revokeToken | recordAuditEvent => exact stepFacts_of_record rfl rfl
  | execute ambient packId token call =>
    rcases perform_frame kernel with ⟨auditLog, eventSeq, changed⟩
    have stepped : step parsesAsVersion kernel (.execute ambient packId token call) = _ := changed
    rw [stepped]
    exact ⟨rfl, rfl, .inl rfl, .inr (.inr ⟨ambient, packId, token, call, rfl⟩)⟩
  | _ => exact ⟨rfl, rfl, .inl rfl, .inl ⟨rfl, rfl⟩⟩

variable {ops : List (KernelOp ω)}

theorem extension_of_registered {extension : PolicyExtension ω}
    (member : .registerPolicyExtension extension ∈ ops) :
    extension ∈ (run (step parsesAsVersion) start ops).policyExtensions := by
  refine run_of_mem (step parsesAsVersion)
    (fun kernel => extension ∈ kernel.policyExtensions) ?_ ?_ member
  · intro kernel
    exact List.mem_append_right _ List.mem_cons_self
  · intro kernel op present
    rw [(step_facts parsesAsVersion kernel op).extensions]
    unfold extensionsAfter
    split
    · exact List.mem_append_left _ present
    · exact present

/-- A pack found at the end of a history was registered in it, under its own
id. -/
theorem pack_of_lookup {packId : String} {pack : VerticalPackManifest}
    (found : (run (step parsesAsVersion) start ops).packs.lookup packId = some pack) :
    start.packs.lookup packId = some pack \/
      (.registerPack pack ∈ ops /\ pack.packId = packId) := by
  induction ops generalizing start with
  | nil => exact .inl found
  | cons op rest ih =>
    rcases ih _ found with earlier | ⟨member, sameId⟩
    · rcases (step_facts parsesAsVersion start op).packs with unchanged | ⟨added, rfl, inserted⟩
      · rw [unchanged] at earlier
        exact .inl earlier
      · rw [inserted, OrderedMap.lookup_insert] at earlier
        by_cases same : packId = added.packId
        · rw [if_pos same] at earlier
          cases earlier
          exact .inr ⟨List.mem_cons_self, same.symm⟩
        · rw [if_neg same] at earlier
          exact .inl earlier
    · exact .inr ⟨List.mem_cons_of_mem _ member, sameId⟩

end Histories

/-! ## Complete mediation -/

/-- What the history up to a call has to say for an adapter to run. -/
structure Mediated (ops : List (KernelOp ω)) (ambient : Ambient ω) (packId : String)
    (token : CapabilityToken) (call : KernelCall) (pack : VerticalPackManifest) : Prop where
  registered : .registerPack pack ∈ ops /\ pack.packId = packId
  tokenPack : token.packId = packId
  unexpired : ambient.nowEpochS <= token.expiresAtEpochS
  idNotRevoked : ∀ nowEpochS actorAgentId, .revokeToken nowEpochS token.tokenId actorAgentId ∉ ops
  generationNotRevoked : ∀ below, .revokeGeneration below ∈ ops ->
    token.generation = 0 \/ below < token.generation
  packGrants : call.required ⊆ pack.grantedCapabilities
  tokenAllows : call.required ⊆ token.allowedCapabilities
  extensionsAccept : ∀ extension, .registerPolicyExtension extension ∈ ops ->
    extension.authorizeExtension (extensionContext ambient token call pack) ambient.world = .ok ()
  connectorAllowed : ∀ connector, call.connector = some connector ->
    connector ∈ pack.allowedConnectors

/-- Whatever history led to the kernel, an adapter runs only for a call that
meets every access rule, and more policy extensions never make a call run that
did not. -/
theorem invokes_only_if_mediated (parsesAsVersion : String -> Bool)
    (auditRefuses : List AuditEvent -> AuditEvent -> Option AuditError)
    (ops : List (KernelOp ω)) (ambient : Ambient ω) (packId : String) (token : CapabilityToken)
    (call : KernelCall) :
    (Invokes ambient packId token call (afterOps parsesAsVersion auditRefuses ops) ->
      ∃ pack, Mediated ops ambient packId token call pack) /\
    ∀ more : PolicyExtensionChain ω,
      (afterOps parsesAsVersion auditRefuses ops).policyExtensions.Sublist more ->
      Invokes ambient packId token call
        { afterOps parsesAsVersion auditRefuses ops with policyExtensions := more } ->
      Invokes ambient packId token call (afterOps parsesAsVersion auditRefuses ops) := by
  refine ⟨?_, fun more longer => invokes_of_more_extensions (fun _ member => longer.mem member)⟩
  intro invoked
  rcases invokes_iff.mp invoked with ⟨pack, admitted, _⟩
  rcases verdict_eq_admitted_iff.mp admitted with
    ⟨found, connectors, granted, authorized, accepted⟩
  rcases pack_of_lookup parsesAsVersion _ found with initial | ⟨registered, sameId⟩
  · cases initial
  rcases StaticPolicyEngine.authorize_ok_iff.mp authorized with
    ⟨current, samePack, unexpired, allowed⟩
  have notRevoked := mt StaticPolicyEngine.isRevoked_iff.mpr (Bool.eq_false_iff.mp current)
  rw [not_or] at notRevoked
  refine ⟨pack, ⟨registered, sameId⟩, samePack.trans sameId, unexpired, ?_, ?_, granted, allowed,
    ?_, connectors⟩
  · intro nowEpochS actorAgentId member
    refine notRevoked.1 ?_
    refine run_of_mem (step parsesAsVersion)
      (fun kernel => token.tokenId ∈ kernel.policy.revokedTokens) ?_ ?_ member
    · intro kernel
      rw [(step_facts parsesAsVersion kernel _).policy]
      exact Finset.mem_insert_self _ _
    · intro kernel op revoked
      rw [(step_facts parsesAsVersion kernel op).policy]
      exact StaticPolicyEngine.run_revokedTokens_subset _ _ revoked
  · intro below member
    have reached : below.toNat <= (run (step parsesAsVersion) (withRuntime .new auditRefuses)
        ops).policy.revokedBelowGeneration.toNat := by
      refine run_of_mem (step parsesAsVersion)
        (fun kernel => below.toNat <= kernel.policy.revokedBelowGeneration.toNat) ?_ ?_ member
      · intro kernel
        rw [(step_facts parsesAsVersion kernel _).policy]
        exact StaticPolicyEngine.threshold_ge_of_revokeGeneration _ List.mem_cons_self
      · intro kernel op reached
        rw [(step_facts parsesAsVersion kernel op).policy]
        exact Nat.le_trans reached (StaticPolicyEngine.run_threshold_le _ _)
    by_cases zero : token.generation = 0
    · exact .inl zero
    · right
      have positive : 0 < token.generation.toNat :=
        Nat.pos_of_ne_zero (fun none => zero (UInt64.toNat_inj.mp none))
      have above := Nat.lt_of_not_le (fun covered => notRevoked.2 ⟨positive, covered⟩)
      exact UInt64.lt_iff_toNat_lt.mpr (Nat.lt_of_le_of_lt reached above)
  · intro extension member
    exact accepted extension (extension_of_registered parsesAsVersion _ member)

/-- A registered pack with its harness adapter, then a generation revocation. -/
def sampleOps : List (KernelOp Unit) :=
  [.registerPack .samplePack, .registerHarnessAdapter
      { name := "pi-local"
        kind := .embeddedPi
        execute := fun _ _ => .ok { status := "ok", output := .null } },
    .revokeGeneration 5]

def sampleToken (generation : UInt64) : CapabilityToken where
  tokenId := "tok-0000000000000001"
  packId := "sales-intel"
  agentId := "agent-a"
  allowedCapabilities := {.invokeTool}
  issuedAtEpochS := 100
  expiresAtEpochS := 160
  generation

def sampleTask : KernelCall :=
  .executeTask
    { taskId := "task-1"
      objective := "summarize"
      requiredCapabilities := {.invokeTool}
      payload := .null }

theorem invokes_only_if_mediated_sample : (∃ pack,
      Mediated sampleOps { nowEpochS := 120, world := () } "sales-intel" (sampleToken 6)
        sampleTask pack) /\
    Invokes { nowEpochS := 120, world := () } "sales-intel" (sampleToken 6) sampleTask
      (afterOps (fun _ => true) (fun _ _ => none) sampleOps) := by
  have invoked : Invokes { nowEpochS := 120, world := () } "sales-intel" (sampleToken 6)
      sampleTask (afterOps (fun _ => true) (fun _ _ => none) sampleOps) := by decide
  exact ⟨(invokes_only_if_mediated (fun _ => true) (fun _ _ => none) sampleOps
    { nowEpochS := 120, world := () } "sales-intel" (sampleToken 6) sampleTask).1 invoked,
    invoked⟩

/-- A token of generation zero is at or below the revoked generation five and
still makes the harness run. -/
theorem invokes_with_revoked_generation_zero :
    .revokeGeneration 5 ∈ sampleOps /\ (sampleToken 0).generation <= 5 /\
      Invokes { nowEpochS := 120, world := () } "sales-intel" (sampleToken 0) sampleTask
        (afterOps (fun _ => true) (fun _ _ => none) sampleOps) := by
  refine ⟨?_, by decide, by decide⟩
  exact List.mem_cons_of_mem _ (List.mem_cons_of_mem _ List.mem_cons_self)

end LoongClawKernel

end LoongClaw.Kernel
