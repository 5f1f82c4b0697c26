import LoongClaw.Kernel.Access

namespace LoongClaw.Kernel

open Foundation Contracts Attempt

/-!
# The audit trail

What a call adds to the audit log is again a function of its verdict and of
what its adapter returned.  A refusal by the token policy or by a policy
extension is recorded, and so is an adapter that returned a value.  A refusal
by the pack boundary or by the connector list is not recorded, nor is an
adapter that ran and returned an error.
-/

variable {π ω : Type}

namespace LoongClawKernel

/-! ## Event numbers -/

/-- The ids in the log are those of an increasing list of sequence numbers, none
above the counter. -/
def Numbered (kernel : LoongClawKernel π ω) : Prop :=
  ∃ seqs : List UInt64, kernel.auditLog.map AuditEvent.eventId = seqs.map eventIdText /\
      seqs.Pairwise (fun earlier later => earlier < later) /\
      ∀ seq, seq ∈ seqs -> seq.toNat <= kernel.eventSeq.toNat

variable {kernel : LoongClawKernel π ω} {coreName defaultName : Option String} {run : AdapterRun}
  {token : CapabilityToken} {call : KernelCall} {ambient : Ambient ω} {packId : String}

theorem Numbered.increasing (numbered : Numbered kernel) :
    (kernel.auditLog.map AuditEvent.eventId).Pairwise (fun earlier later => earlier < later) := by
  rcases numbered with ⟨seqs, ids, increasing, _⟩
  rw [ids]
  refine List.pairwise_map.mpr (increasing.imp ?_)
  intro first second less
  apply String.lt_iff.mpr
  simp only [eventIdText, String.toList_append, String.toList_ofList]
  apply List.append_left_lt
  exact Hex.fixedHex_lt (UInt64.lt_iff_toNat_lt.mp less) second.toNat_lt

/-- One record moves the counter by one and keeps the numbering, whether the
sink accepts it or not. -/
theorem record_numbered (kernel : LoongClawKernel π ω)
    (room : kernel.eventSeq.toNat + 1 < UInt64.size) (numbered : Numbered kernel)
    (nowEpochS : UInt64) (agentId : Option String) (kind : AuditEventKind) :
    Numbered (record nowEpochS agentId kind kernel).2 /\
      (record nowEpochS agentId kind kernel).2.eventSeq.toNat = kernel.eventSeq.toNat + 1 := by
  rcases numbered with ⟨seqs, ids, increasing, bounded⟩
  have next := toNat_add_one_of_lt room
  unfold record
  dsimp only
  split
  · refine ⟨⟨seqs, ids, increasing, fun seq member => ?_⟩, next⟩
    have := bounded seq member
    show seq.toNat <= (kernel.eventSeq + 1).toNat
    omega
  · refine ⟨⟨seqs ++ [kernel.eventSeq + 1], ?_, ?_, ?_⟩, next⟩
    · simp only [List.map_append, ids, List.map_cons, List.map_nil]
    · refine List.pairwise_append.mpr ⟨increasing, List.pairwise_singleton _ _, ?_⟩
      intro seq member last isLast
      rw [List.mem_singleton.mp isLast]
      apply UInt64.lt_iff_toNat_lt.mpr
      have := bounded seq member
      omega
    · intro seq member
      show seq.toNat <= (kernel.eventSeq + 1).toNat
      rcases List.mem_append.mp member with earlier | isLast
      · have := bounded seq earlier
        omega
      · rw [List.mem_singleton.mp isLast]

theorem recordAll_numbered {kinds : List AuditEventKind}
    (room : kernel.eventSeq.toNat + kinds.length < UInt64.size) (numbered : Numbered kernel)
    {nowEpochS : UInt64} {agentId : String} :
    Numbered (recordAll nowEpochS agentId kinds kernel).2 := by
  induction kinds generalizing kernel with
  | nil => exact numbered
  | cons kind rest ih =>
    rw [List.length_cons] at room
    have first := record_numbered kernel (by omega) numbered nowEpochS (some agentId) kind
    unfold recordAll
    rw [bind_apply]
    split
    · case h_1 later outcome =>
        rw [outcome] at first
        refine ih ?_ first.1
        have := first.2
        dsimp only at this
        omega
    · case h_2 later outcome =>
        rw [outcome] at first
        exact first.1

theorem perform_numbered [PolicyEngine π] (room : kernel.eventSeq.toNat + 2 < UInt64.size)
    (numbered : Numbered kernel) {ambient : Ambient ω} {packId : String} {token : CapabilityToken}
    {call : KernelCall} : Numbered (perform ambient packId token call kernel).2 := by
  rw [perform_state]
  refine recordAll_numbered ?_ ?_
  · have few : (recordedKinds ambient packId token call kernel).length <= 2 := by
      unfold recordedKinds
      cases verdict ambient packId token call kernel with
      | admitted pack =>
        dsimp only
        split
        · exact Nat.zero_le 2
        · cases call <;> simp [reportsOf]
      | _ => simp
    show kernel.eventSeq.toNat + _ < UInt64.size
    omega
  · exact numbered

/-- The event counter does not wrap during this operation. -/
def EventsHaveRoom (kernel : LoongClawKernel π ω) (_ : KernelOp ω) : Prop :=
  kernel.eventSeq.toNat + 2 < UInt64.size

instance (kernel : LoongClawKernel π ω) (op : KernelOp ω) : Decidable (EventsHaveRoom kernel op) :=
  inferInstanceAs (Decidable (_ < _))

theorem step_numbered {parsesAsVersion : String -> Bool}
    (kernel : LoongClawKernel StaticPolicyEngine ω) (op : KernelOp ω)
    (room : EventsHaveRoom kernel op) (numbered : Numbered kernel) :
    Numbered (step parsesAsVersion kernel op) := by
  rcases (step_facts parsesAsVersion kernel op).trail with
    ⟨sameLog, sameSeq⟩ | ⟨nowEpochS, agentId, kind, policy, recorded⟩ |
      ⟨ambient, packId, token, call, rfl⟩
  · unfold Numbered
    rw [sameLog, sameSeq]
    exact numbered
  · rw [recorded]
    exact (record_numbered { kernel with policy } (Nat.lt_of_succ_lt room) numbered
      nowEpochS agentId kind).1
  · exact perform_numbered room numbered

/-! ## What a call records -/

section Recorded

/-- A sink that accepts every write. -/
def SinkAccepts (kernel : LoongClawKernel π ω) : Prop :=
  ∀ auditLog event, kernel.auditRefuses auditLog event = none

variable {kernel : LoongClawKernel π ω}

theorem record_kinds (accepts : SinkAccepts kernel) {nowEpochS : UInt64} {agentId : Option String}
    {kind : AuditEventKind} :
    ∃ event, event.kind = kind /\ record nowEpochS agentId kind kernel =
        (.ok (), { kernel with
          eventSeq := kernel.eventSeq + 1
          auditLog := kernel.auditLog ++ [event] }) := by
  refine ⟨{
    eventId := eventIdText (kernel.eventSeq + 1)
    timestampEpochS := nowEpochS
    agentId
    kind }, rfl, ?_⟩
  unfold record
  dsimp only
  rw [accepts kernel.auditLog _]

theorem recordAll_kinds (kernel : LoongClawKernel π ω) (accepts : SinkAccepts kernel)
    {nowEpochS : UInt64} {agentId : String} {kinds : List AuditEventKind} :
    ∃ added, added.map AuditEvent.kind = kinds /\
      (recordAll nowEpochS agentId kinds kernel).2.auditLog = kernel.auditLog ++ added := by
  induction kinds generalizing kernel with
  | nil => exact ⟨[], rfl, (List.append_nil _).symm⟩
  | cons kind rest ih =>
    rcases record_kinds accepts with ⟨event, sameKind, recorded⟩
    rcases ih { kernel with
        eventSeq := kernel.eventSeq + 1
        auditLog := kernel.auditLog ++ [event] } accepts with ⟨added, kinds, extended⟩
    refine ⟨event :: added, by rw [List.map_cons, sameKind, kinds], ?_⟩
    unfold recordAll
    rw [bind_ok recorded, extended, List.append_assoc]
    rfl

variable [PolicyEngine π]

/-- The events a call adds to the log. -/
def newEvents (ambient : Ambient ω) (packId : String) (token : CapabilityToken)
    (call : KernelCall) (kernel : LoongClawKernel π ω) : List AuditEvent :=
  (perform ambient packId token call kernel).2.auditLog.drop kernel.auditLog.length

/-- A sink that refuses nothing keeps every record of the call. -/
theorem newEvents_kinds (accepts : SinkAccepts kernel) (ambient : Ambient ω) (packId : String)
    (token : CapabilityToken) (call : KernelCall) :
    (newEvents ambient packId token call kernel).map AuditEvent.kind =
      recordedKinds ambient packId token call kernel := by
  rcases recordAll_kinds
    { kernel with
      invocations := kernel.invocations ++ addedRuns ambient packId token call kernel }
    accepts with ⟨added, kinds, extended⟩
  rw [newEvents, perform_state, extended, List.drop_left, kinds]

end Recorded

/-! ## The audit obligation and when it is met -/

/-- The kinds that report an adapter or harness run. -/
def isInvocationKind : AuditEventKind -> Bool
  | .planeInvoked _ _ _ _ _ _ _ => true
  | .taskDispatched _ _ _ _ => true
  | _ => false

/-- The record names the run: its plane and adapters, or the task's route. -/
def Describes (call : KernelCall) (run : AdapterRun) : AuditEventKind -> Prop
  | .planeInvoked _ plane _ primaryAdapter delegatedCoreAdapter _ _ =>
    calledPlane call = some plane /\ primaryAdapter = run.adapter /\
      delegatedCoreAdapter = run.delegatedCore
  | .taskDispatched _ _ _ _ => calledPlane call = none
  | _ => False

/-- The pack whose rules refused the call. -/
def refusingPack : Verdict -> Option VerticalPackManifest
  | .unknownPack => none
  | .connectorRefused pack _ => some pack
  | .outsidePack pack _ => some pack
  | .denied pack _ => some pack
  | .admitted _ => none

/-- Among the records of a completed call exactly one reports the run, and it
names the adapter that was resolved. -/
theorem reportsOf_describes {world : ω} {pack : VerticalPackManifest}
    (reached : (dispatchOf world token pack kernel call).reached = some run) :
    ∃ kind, (reportsOf pack kernel call).filter isInvocationKind = [kind] /\
      Describes call run kind := by
  cases call with
  | executeTask task => exact ⟨_, rfl, rfl⟩
  | executeConnectorCore | executeRuntimeCore | executeToolCore | executeMemoryCore =>
    rcases Plane.executeCore_reached reached with ⟨resolved, delegated⟩
    refine ⟨_, rfl, rfl, ?_, delegated.symm⟩
    simp only [coreTarget, resolvedCoreAdapter, resolved, Option.getD_some]
  | executeConnectorExtension | executeRuntimeExtension | executeToolExtension
    | executeMemoryExtension =>
    rcases Plane.executeExtension_reached reached with ⟨extension, core, resolved, delegated⟩
    refine ⟨_, rfl, rfl, extension.symm, ?_⟩
    simp only [extensionTarget, resolvedCoreAdapter, resolved, delegated, Option.getD_some]

variable [PolicyEngine π]

/-- Every refusal leaves one denial event, and every adapter run leaves one
invocation event that names it. -/
structure AuditObligation (ambient : Ambient ω) (packId : String) (token : CapabilityToken)
    (call : KernelCall) (kernel : LoongClawKernel π ω) : Prop where
  refusal_recorded : ∀ pack,
    refusingPack (verdict ambient packId token call kernel) = some pack -> ∃ reason,
        (newEvents ambient packId token call kernel).map AuditEvent.kind =
          [.authorizationDenied pack.packId token.tokenId reason]
  invocation_recorded : ∀ invocation,
    (perform ambient packId token call kernel).2.invocations = kernel.invocations ++ [invocation] ->
      ∃ kind, ((newEvents ambient packId token call kernel).map AuditEvent.kind).filter
          isInvocationKind = [kind] /\ Describes call invocation.run kind

/-- The calls whose obligation the kernel meets. -/
structure AuditedCall (ambient : Ambient ω) (packId : String) (token : CapabilityToken)
    (call : KernelCall) (kernel : LoongClawKernel π ω) : Prop where
  connectorAllowed : ∀ pack, kernel.packs.lookup packId = some pack ->
    ∀ connector, call.connector = some connector -> connector ∈ pack.allowedConnectors
  packGrants : ∀ pack, kernel.packs.lookup packId = some pack ->
    call.required ⊆ pack.grantedCapabilities
  adapterReturned : ∀ pack, verdict ambient packId token call kernel = .admitted pack ->
    (dispatchOf ambient.world token pack kernel call).reached ≠ none ->
      (dispatchOf ambient.world token pack kernel call).result = .ok ()

theorem perform_adds_invocation_iff {invocation : Invocation} :
    (perform ambient packId token call kernel).2.invocations = kernel.invocations ++ [invocation] ↔
      ∃ pack, verdict ambient packId token call kernel = .admitted pack /\
        (dispatchOf ambient.world token pack kernel call).reached = some invocation.run /\
        calledPlane call = invocation.plane := by
  rcases perform_frame kernel with ⟨auditLog, eventSeq, changed⟩
  rw [changed]
  simp only [List.append_cancel_left_eq, addedRuns, runsOf]
  cases verdict ambient packId token call kernel with
  | admitted pack =>
    rcases invocation with ⟨plane, run⟩
    cases (dispatchOf ambient.world token pack kernel call).reached with
    | none => simp
    | some reached => simp [and_comm]
  | _ => simp

section PerVerdict

variable {pack : VerticalPackManifest}

/-- A call that is not admitted owes only the record of its refusal. -/
theorem auditObligation_of_refused
    (refused : ∀ pack, verdict ambient packId token call kernel ≠ .admitted pack)
    (recorded : ∀ pack, refusingPack (verdict ambient packId token call kernel) = some pack ->
      ∃ reason, (newEvents ambient packId token call kernel).map AuditEvent.kind =
        [.authorizationDenied pack.packId token.tokenId reason]) :
    AuditObligation ambient packId token call kernel := by
  refine ⟨recorded, fun invocation added => ?_⟩
  rcases perform_adds_invocation_iff.mp added with ⟨pack, admitted, _⟩
  exact absurd admitted (refused pack)

/-- A refusal that writes nothing leaves the obligation unmet. -/
theorem not_auditObligation_of_silent
    (refuses : refusingPack (verdict ambient packId token call kernel) = some pack)
    (silent : (newEvents ambient packId token call kernel).map AuditEvent.kind = []) :
    ¬ AuditObligation ambient packId token call kernel := by
  intro obligation
  rcases obligation.refusal_recorded pack refuses with ⟨reason, recorded⟩
  rw [silent] at recorded
  cases recorded

/-- Of a call within its pack's rules only the adapter is still in question. -/
theorem auditedCall_of_within (registered : kernel.packs.lookup packId = some pack)
    (listed : ∀ connector, call.connector = some connector -> connector ∈ pack.allowedConnectors)
    (granted : call.required ⊆ pack.grantedCapabilities)
    (returned : ∀ pack, verdict ambient packId token call kernel = .admitted pack ->
      (dispatchOf ambient.world token pack kernel call).reached ≠ none ->
        (dispatchOf ambient.world token pack kernel call).result = .ok ()) :
    AuditedCall ambient packId token call kernel := by
  have only : ∀ found, kernel.packs.lookup packId = some found -> found = pack :=
    fun found known => Option.some.inj (known.symm.trans registered)
  refine ⟨fun found known => ?_, fun found known => ?_, returned⟩
  · rw [only found known]
    exact listed
  · rw [only found known]
    exact granted

/-- An admitted call owes the record of its run, which it writes exactly when
the adapter returns a value. -/
theorem auditObligation_iff_of_admitted
    (admitted : verdict ambient packId token call kernel = .admitted pack)
    (kinds : (newEvents ambient packId token call kernel).map AuditEvent.kind =
      recordedKinds ambient packId token call kernel) :
    AuditObligation ambient packId token call kernel ↔
      ((dispatchOf ambient.world token pack kernel call).reached ≠ none ->
        (dispatchOf ambient.world token pack kernel call).result = .ok ()) := by
  unfold recordedKinds at kinds
  simp only [admitted] at kinds
  constructor
  · intro obligation reached
    rcases Option.ne_none_iff_exists'.mp reached with ⟨run, ran⟩
    rcases obligation.invocation_recorded { plane := calledPlane call, run }
        (perform_adds_invocation_iff.mpr ⟨pack, admitted, ran, rfl⟩) with
      ⟨kind, recorded, _⟩
    rw [kinds] at recorded
    cases returned : (dispatchOf ambient.world token pack kernel call).result with
    | error error => simp [returned] at recorded
    | ok value => rfl
  · intro returns
    refine ⟨by simp [admitted, refusingPack], fun invocation added => ?_⟩
    rcases perform_adds_invocation_iff.mp added with ⟨found, same, reached, _⟩
    cases admitted.symm.trans same
    rw [kinds, returns (by simp [reached])]
    exact reportsOf_describes reached

end PerVerdict

/-- The exact calls whose audit obligation is met. -/
theorem auditObligation_iff_auditedCall (accepts : SinkAccepts kernel) :
    AuditObligation ambient packId token call kernel ↔
      AuditedCall ambient packId token call kernel := by
  have facts := verdict_facts ambient packId token call kernel
  have kinds := newEvents_kinds accepts ambient packId token call
  have recorded := kinds
  unfold recordedKinds at recorded
  cases judged : verdict ambient packId token call kernel with
  | unknownPack =>
    simp only [judged] at facts
    refine iff_of_true ?_ ⟨by simp [facts], by simp [facts], by simp [judged]⟩
    exact auditObligation_of_refused (by simp [judged]) (by simp [judged, refusingPack])
  | connectorRefused pack connector =>
    simp only [judged] at facts recorded
    refine iff_of_false (not_auditObligation_of_silent (by rw [judged]; rfl) recorded) ?_
    intro audited
    exact facts.2.2 (audited.connectorAllowed pack facts.1 connector facts.2.1)
  | outsidePack pack capability =>
    simp only [judged] at facts recorded
    refine iff_of_false (not_auditObligation_of_silent (by rw [judged]; rfl) recorded) ?_
    intro audited
    exact facts.2 (audited.packGrants pack facts.1)
  | denied pack error =>
    simp only [judged] at facts recorded
    refine iff_of_true (auditObligation_of_refused (by simp [judged]) ?_)
      (auditedCall_of_within facts.1 facts.2.1 facts.2.2 (by simp [judged]))
    intro refusing same
    rw [judged] at same
    cases same
    exact ⟨error.display, recorded⟩
  | admitted pack =>
    simp only [judged] at facts
    rw [auditObligation_iff_of_admitted judged kinds]
    constructor
    · intro returned
      refine auditedCall_of_within facts.1 facts.2.1 facts.2.2 fun found same => ?_
      cases judged.symm.trans same
      exact returned
    · intro audited
      exact audited.adapterReturned pack judged

/-- Event ids grow along every history in which the counter does not wrap, and
a call meets its audit obligation exactly when neither the connector list nor
the pack boundary refuses it and any adapter it reaches returns a value. -/
theorem auditTrail_contract (parsesAsVersion : String -> Bool)
    (auditRefuses : List AuditEvent -> AuditEvent -> Option AuditError) (ops : List (KernelOp ω))
    (room : Machine.Guarded (step parsesAsVersion) EventsHaveRoom
      (withRuntime .new auditRefuses) ops) :
    ((afterOps parsesAsVersion auditRefuses ops).auditLog.map AuditEvent.eventId).Pairwise
        (fun earlier later => earlier < later) /\
      ∀ kernel : LoongClawKernel π ω, SinkAccepts kernel ->
        ∀ (ambient : Ambient ω) (packId : String) (token : CapabilityToken) (call : KernelCall),
          AuditObligation ambient packId token call kernel ↔
            AuditedCall ambient packId token call kernel := by
  refine ⟨?_, fun kernel accepts ambient packId token call =>
    auditObligation_iff_auditedCall accepts⟩
  have initially : Numbered
      (withRuntime StaticPolicyEngine.new auditRefuses : LoongClawKernel _ ω) :=
    ⟨[], rfl, List.Pairwise.nil, fun _ member => by cases member⟩
  exact (Machine.guarded_run_invariant (step parsesAsVersion) step_numbered
    initially room).increasing

/-- A pack whose harness adapter fails. -/
def failingOps : List (KernelOp Unit) :=
  [.registerPack .samplePack, .registerHarnessAdapter
      { name := "pi-local"
        kind := .embeddedPi
        execute := fun _ _ => .error (.execution "adapter failed") }]

def failingKernel : LoongClawKernel StaticPolicyEngine Unit :=
  afterOps (fun _ => true) (fun _ _ => none) failingOps

theorem auditTrail_contract_sample :
    AuditObligation { nowEpochS := 500, world := () } "sales-intel" (sampleToken 1) sampleTask
      failingKernel := by
  have room : Machine.Guarded (step (fun _ => true)) EventsHaveRoom
      (withRuntime .new (fun _ _ => none)) failingOps := by
    refine ⟨?_, ?_, trivial⟩ <;> decide
  refine ((auditTrail_contract (fun _ => true) (fun _ _ => none) failingOps room).2 failingKernel
    (fun _ _ => rfl) { nowEpochS := 500, world := () } "sales-intel" (sampleToken 1)
    sampleTask).mpr ?_
  have registered : failingKernel.packs.lookup "sales-intel" = some .samplePack := rfl
  refine ⟨fun pack found connector named => ?_, fun pack found => ?_, fun pack admitted => ?_⟩
  · cases named
  · cases registered.symm.trans found
    decide
  · rcases verdict_eq_admitted_iff.mp admitted with ⟨_, _, _, authorized, _⟩
    exact absurd (StaticPolicyEngine.authorize_ok_iff.mp authorized).2.2.1 (by decide)

/-- Three calls that leave no event at all: a capability outside the pack, a
connector the pack does not list, and an adapter that ran and failed. -/
theorem auditObligation_fails :
    ¬ AuditObligation { nowEpochS := 120, world := () } "sales-intel" (sampleToken 1) (.executeTask
          { taskId := "task-1"
            objective := "summarize"
            requiredCapabilities := {.networkEgress}
            payload := .null }) failingKernel /\
      ¬ AuditObligation { nowEpochS := 120, world := () } "sales-intel" (sampleToken 1)
        (.executeConnectorCore none
          { connectorName := "erp"
            operation := "read"
            requiredCapabilities := {.invokeTool}
            payload := .null }) failingKernel /\
      ¬ AuditObligation { nowEpochS := 120, world := () } "sales-intel" (sampleToken 1)
        sampleTask failingKernel := by
  refine ⟨fun obligation => ?_, fun obligation => ?_, fun obligation => ?_⟩
  · rcases obligation.refusal_recorded .samplePack rfl with ⟨reason, recorded⟩
    cases recorded
  · rcases obligation.refusal_recorded .samplePack rfl with ⟨reason, recorded⟩
    cases recorded
  · rcases obligation.invocation_recorded
        { plane := none, run := { adapter := "pi-local", delegatedCore := none } } rfl with
      ⟨kind, recorded, _⟩
    cases recorded

end LoongClawKernel

end LoongClaw.Kernel
