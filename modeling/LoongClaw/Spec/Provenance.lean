import LoongClaw.Spec.ExecutionLog

namespace LoongClaw.Spec

open Foundation Contracts Kernel Program OrderedMap
open Plugins (ProviderConfig IntegrationCatalog resolveCall requireCaller chooseChannel)

/-!
# Provenance of connector calls

The reserved object in the payload of a connector call says who calls.  The
runtime writes it for the calls inside a programmatic tool call, over what the
payload has there.  The payload of a direct call reaches the connector as the
spec has it.
-/

/-! ## What a connector sees -/

/-- The core connector that ran, alone or for an extension. -/
def coreName (run : AdapterRun) : String :=
  run.delegatedCore.getD run.adapter

/-- The payload that the core connector is given. -/
def corePayload (run : AdapterRun) (command : ConnectorCommand) : Json :=
  if run.delegatedCore.isSome then (probeCommand command).payload else command.payload

section Executed

variable {ω : Type} (environment : SpecEnvironment ω)

/-- The provider whose bridge the execution was handed to, if it got that far. -/
def executedProvider (execution : Execution) : Option ProviderConfig :=
  match environment.preparation, execution.adapter, execution.command with
  | .ok prepared, some run, some command =>
    (registeredProvider prepared.catalog (coreName run)).bind fun registered =>
      (resolveCall (dynamicCatalogConnector environment.host registered) prepared.catalog
        (corePayload run command)).toOption.map Prod.fst
  | _, _, _ => none

/-- The provider allows some callers and not all. -/
def Restricted (provider : ProviderConfig) : Prop :=
  providerAllowedCallers environment.host.parseTexts provider ≠ [] /\
    contains "*" (providerAllowedCallers environment.host.parseTexts provider) = false

/-- The operation is a programmatic call, and the provider lists its caller. -/
def ListedCaller (operation : OperationSpec) (provider : ProviderConfig) : Prop :=
  ∃ call, operation = .programmaticToolCall call /\ contains (normalizedCaller call.caller)
      (providerAllowedCallers environment.host.parseTexts provider) = true

end Executed

/-- Every entry of the reserved object was written by the runtime. -/
def RuntimeWritten (execution : Execution) : Prop :=
  ∀ command, execution.command = some command -> ∀ key value,
    lookup key (reservedEntries command.payload) = some value ->
      ∃ provenance, execution.origin = .call provenance /\
        lookup key provenance.entries = some value

/-- The spec supplied an entry of the reserved object that the runtime does not
write over. -/
def Forged (execution : Execution) : Prop :=
  ∃ key,
    match execution.origin with
    | .operation => ∃ command, execution.command = some command /\
        (lookup key (reservedEntries command.payload)).isSome = true
    | .call provenance =>
      (lookup key (reservedEntries provenance.supplied)).isSome = true /\
        lookup key provenance.entries = none

/-! ## The check of the caller -/

variable {payload : Json}

/-- A provider that restricts its callers accepts only a listed one. -/
theorem callerIsAllowed_restricted {caller : Option String} {allowed : TextSet}
    (some : allowed ≠ []) (notAll : contains "*" allowed = false)
    (accepts : callerIsAllowed caller allowed = true) :
    ∃ name, caller = .some name /\ contains (normalizedCaller name) allowed = true := by
  unfold callerIsAllowed at accepts
  have nonempty : allowed.isEmpty = false := List.isEmpty_eq_false_iff.mpr some
  rw [nonempty, notAll, Bool.false_or, Bool.false_or, Option.any_eq_true] at accepts
  exact accepts

/-- The provider that a resolved call is handed to has accepted its caller. -/
theorem callerIsAllowed_of_resolveCall {ω : Type} {host : SpecHost ω} {catalog : IntegrationCatalog}
    {registered provider : ProviderConfig}
    (resolves : (resolveCall (dynamicCatalogConnector host registered) catalog
      payload).toOption.map Prod.fst = some provider) :
    callerIsAllowed (callerFromPayload payload)
      (providerAllowedCallers host.parseTexts provider) = true := by
  rcases Option.map_eq_some_iff.mp resolves with ⟨target, resolved, same⟩
  have ok : resolveCall (dynamicCatalogConnector host registered) catalog payload = .ok target := by
    cases outcome : resolveCall (dynamicCatalogConnector host registered) catalog payload with
    | error error => rw [outcome] at resolved; cases resolved
    | ok value => rw [outcome] at resolved; cases resolved; rfl
  rcases Fallible.bind_eq_ok_iff.mp ok with ⟨found, _, ok⟩
  rcases Fallible.bind_eq_ok_iff.mp ok with ⟨_, accepted, ok⟩
  rcases Fallible.bind_eq_ok_iff.mp ok with ⟨channel, _, ok⟩
  cases ok
  subst same
  unfold requireCaller dynamicCatalogConnector refuseCaller at accepted
  dsimp only at accepted
  split at accepted
  · cases accepted
  · case h_2 notRefused =>
      split at notRefused
      · assumption
      · cases notRefused

/-! ## Direct calls -/

section Runs

variable {ω : Type} {environment : SpecEnvironment ω} {operation : OperationSpec}
  {execution : Execution}

/-- A direct call without entries in the reserved object has no caller. -/
theorem executedProvider_not_restricted (direct : execution.origin = .operation)
    (notForged : ¬ Forged execution) {provider : ProviderConfig}
    (executed : executedProvider environment execution = some provider) :
    ¬ Restricted environment provider := by
  rintro ⟨someCallers, notAll⟩
  unfold executedProvider at executed
  split at executed
  · case h_1 prepared run command _ _ commanded =>
      rcases Option.bind_eq_some_iff.mp executed with ⟨registered, _, resolves⟩
      have accepts := callerIsAllowed_of_resolveCall resolves
      have unwritten : lookup "caller" (reservedEntries (corePayload run command)) =
          none := by
        unfold corePayload
        split
        · rfl
        · cases written : lookup "caller" (reservedEntries command.payload) with
          | none => rfl
          | some value =>
            refine absurd ⟨"caller", ?_⟩ notForged
            rw [direct]
            exact ⟨command, commanded, by rw [written]; rfl⟩
      rw [callerFromPayload, unwritten] at accepts
      rcases callerIsAllowed_restricted someCallers notAll accepts with ⟨_, impossible, _⟩
      cases impossible
  · cases executed

/-! ## Calls inside a programmatic tool call -/

theorem runtimeWritten_callExecution_iff (call : ConnectorInvocation) (run : AdapterRun) :
    RuntimeWritten (callExecution call run) ↔ ¬ Forged (callExecution call run) := by
  constructor
  · rintro written ⟨key, supplied, unwritten⟩
    rcases Option.isSome_iff_exists.mp supplied with ⟨value, present⟩
    have seen : lookup key (reservedEntries call.command.payload) = some value := by
      rw [ConnectorInvocation.command, lookup_reservedEntries_attach, unwritten, Option.none_or]
      exact present
    rcases written _ rfl key value seen with ⟨provenance, origin, found⟩
    cases origin
    rw [unwritten] at found
    cases found
  · intro notForged command commanded key value seen
    cases commanded
    refine ⟨call.provenance, rfl, ?_⟩
    rw [ConnectorInvocation.command, lookup_reservedEntries_attach] at seen
    cases written : lookup key call.provenance.entries with
    | some entry =>
      rw [written, Option.some_or] at seen
      exact seen
    | none =>
      rw [written, Option.none_or] at seen
      exact absurd ⟨key, by rw [seen]; rfl, written⟩ notForged

/-- A restricted provider is executed for a listed caller only. -/
theorem listedCaller_of_innerCall {call : ProgrammaticToolCall} (inner : InnerCall call execution)
    {provider : ProviderConfig} (executed : executedProvider environment execution = some provider)
    (restricted : Restricted environment provider) :
    ListedCaller environment (.programmaticToolCall call) provider := by
  rcases inner.declared with ⟨prepared, run, same, declared⟩
  subst same
  unfold executedProvider at executed
  split at executed
  · case h_1 ready reached command _ adapter commanded =>
      cases adapter
      cases commanded
      rcases Option.bind_eq_some_iff.mp executed with ⟨registered, _, resolves⟩
      have accepts := callerIsAllowed_of_resolveCall resolves
      rcases callerIsAllowed_restricted restricted.1 restricted.2 accepts with
        ⟨name, found, listed⟩
      refine ⟨call, rfl, ?_⟩
      unfold corePayload at found
      split at found
      · cases found
      · have written : lookup "caller" (reservedEntries prepared.command.payload) =
            some (.string prepared.provenance.caller) := by
          rw [ConnectorInvocation.command, lookup_reservedEntries_attach]
          rfl
        unfold callerFromPayload at found
        rw [written, Option.filter_eq_some_iff] at found
        rw [<- Option.some.inj found.1, normalizedCaller, normalizedCaller,
          Text.toAsciiLowercase_trim_idempotent, declared] at listed
        exact listed
  · cases executed

end Runs

/-! ## Every run -/

/-- A connector sees only what the runtime wrote, and a restricted provider is
executed for its callers only, exactly where the spec supplied no entry of its
own. -/
theorem connectors_see_runtime_provenance_iff {π ω : Type} [PolicyEngine π]
    (environment : SpecEnvironment ω) (spec : RunnerSpec) (kernel : LoongClawKernel π ω) :
    (executeSpec environment spec).Ensures
      (fun _ later => ∀ execution, execution ∈ later.executions -> ((RuntimeWritten execution /\
          ∀ provider, executedProvider environment execution = some provider ->
            Restricted environment provider -> ListedCaller environment spec.operation provider) ↔
          ¬ Forged execution))
      (initialState kernel) := by
  refine ensures_mono (executeSpec_executions spec) ?_
  intro result later logged execution member
  rcases (logged execution member).2 with ⟨adapter, same⟩ | ⟨call, operation, inner⟩
  · have direct : execution.origin = .operation := by rw [same]; rfl
    constructor
    · rintro ⟨written, _⟩ ⟨key, forged⟩
      rw [direct] at forged
      rcases forged with ⟨command, commanded, present⟩
      rcases Option.isSome_iff_exists.mp present with ⟨value, found⟩
      rcases written command commanded key value found with ⟨_, origin, _⟩
      rw [direct] at origin
      cases origin
    · intro notForged
      constructor
      · intro command commanded key value written
        refine absurd ⟨key, ?_⟩ notForged
        rw [direct]
        exact ⟨command, commanded, by rw [written]; rfl⟩
      · intro provider executed restricted
        exact absurd restricted (executedProvider_not_restricted direct notForged executed)
  · rcases inner.declared with ⟨prepared, run, same, _⟩
    have written := runtimeWritten_callExecution_iff prepared run
    rw [<- same] at written
    constructor
    · rintro ⟨holds, _⟩
      exact written.mp holds
    · intro notForged
      refine ⟨written.mpr notForged, ?_⟩
      intro provider executed restricted
      rw [operation]
      exact listedCaller_of_innerCall inner executed restricted

namespace ForgedCallerSample

/-- A provider for one caller. -/
def provider : ProviderConfig where
  providerId := "crm-provider"
  connectorName := "crm"
  version := "0.1.0"
  metadata := [("allowed_callers", "trusted")]

def catalog : IntegrationCatalog where
  providers := [("crm-provider", provider)]
  channels := [("main",
    { channelId := "main"
      providerId := "crm-provider"
      endpoint := "https://crm.local/invoke"
      enabled := true })]

/-- A direct call that names the caller itself. -/
def operation : OperationSpec :=
  .connectorCore (RunSample.command "crm"
      (.object [("_loongclaw", .object [("caller", .string "trusted")])]))
    (some "crm")

end ForgedCallerSample

open ForgedCallerSample

/-- A direct call passes the check of the caller. -/
theorem direct_call_reaches_restricted_provider : (RunSample.executions catalog
        (RunSample.spec [] operation)).map
        (fun execution =>
          (executedProvider (RunSample.environment catalog) execution).map
            ProviderConfig.providerId) = [some "crm-provider"] /\
      providerAllowedCallers RunSample.host.parseTexts provider = [("trusted", ())] := by
  decide +kernel

end LoongClaw.Spec
