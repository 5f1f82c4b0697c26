import LoongClaw.Contracts.Types

namespace LoongClaw.Tools

open Foundation

/-!
# The tool catalogue

The tools of a build with the default features, in name order, and the name
resolution that every later stage goes through.  Descriptions, definitions
and visibility gates are read by no modelled function.
-/

inductive ToolExecutionKind where
  | core
  | app
  deriving DecidableEq

inductive ToolExposureClass where
  | providerCore
  | discoverable
  deriving DecidableEq

structure ToolDescriptor where
  (name providerName : String)
  aliases : List String
  executionKind : ToolExecutionKind
  exposure : ToolExposureClass
  deriving DecidableEq

namespace ToolDescriptor

def matchesName (descriptor : ToolDescriptor) (raw : String) : Bool :=
  decide (descriptor.name = raw) || decide (descriptor.providerName = raw) ||
    descriptor.aliases.contains raw

end ToolDescriptor

def toolCatalog : List ToolDescriptor :=
  [ ⟨"approval_request_resolve", "approval_request_resolve", [], .app, .discoverable⟩,
    ⟨"approval_request_status", "approval_request_status", [], .app, .discoverable⟩,
    ⟨"approval_requests_list", "approval_requests_list", [], .app, .discoverable⟩,
    ⟨"browser.click", "browser_click", ["browser_click"], .core, .discoverable⟩,
    ⟨"browser.companion.click", "browser_companion_click", ["browser_companion_click"], .app,
      .discoverable⟩,
    ⟨"browser.companion.navigate", "browser_companion_navigate",
      ["browser_companion_navigate"], .core, .discoverable⟩,
    ⟨"browser.companion.session.start", "browser_companion_session_start",
      ["browser_companion_session_start"], .core, .discoverable⟩,
    ⟨"browser.companion.session.stop", "browser_companion_session_stop",
      ["browser_companion_session_stop"], .core, .discoverable⟩,
    ⟨"browser.companion.snapshot", "browser_companion_snapshot",
      ["browser_companion_snapshot"], .core, .discoverable⟩,
    ⟨"browser.companion.type", "browser_companion_type", ["browser_companion_type"], .app,
      .discoverable⟩,
    ⟨"browser.companion.wait", "browser_companion_wait", ["browser_companion_wait"], .core,
      .discoverable⟩,
    ⟨"browser.extract", "browser_extract", ["browser_extract"], .core, .discoverable⟩,
    ⟨"browser.open", "browser_open", ["browser_open"], .core, .providerCore⟩,
    ⟨"claw.migrate", "claw_migrate", [], .core, .discoverable⟩,
    ⟨"delegate", "delegate", [], .app, .discoverable⟩,
    ⟨"delegate_async", "delegate_async", [], .app, .discoverable⟩,
    ⟨"external_skills.fetch", "external_skills_fetch", [], .core, .discoverable⟩,
    ⟨"external_skills.inspect", "external_skills_inspect", [], .core, .discoverable⟩,
    ⟨"external_skills.install", "external_skills_install", [], .core, .discoverable⟩,
    ⟨"external_skills.invoke", "external_skills_invoke", [], .core, .discoverable⟩,
    ⟨"external_skills.list", "external_skills_list", [], .core, .discoverable⟩,
    ⟨"external_skills.policy", "external_skills_policy", [], .core, .discoverable⟩,
    ⟨"external_skills.remove", "external_skills_remove", [], .core, .discoverable⟩,
    ⟨"file.edit", "file_edit", [], .core, .discoverable⟩,
    ⟨"file.read", "file_read", [], .core, .discoverable⟩,
    ⟨"file.write", "file_write", [], .core, .discoverable⟩,
    ⟨"provider.switch", "provider_switch", [], .core, .discoverable⟩,
    ⟨"session_archive", "session_archive", [], .app, .discoverable⟩,
    ⟨"session_cancel", "session_cancel", [], .app, .discoverable⟩,
    ⟨"session_events", "session_events", [], .app, .discoverable⟩,
    ⟨"session_recover", "session_recover", [], .app, .discoverable⟩,
    ⟨"session_status", "session_status", [], .app, .discoverable⟩,
    ⟨"session_wait", "session_wait", [], .app, .discoverable⟩,
    ⟨"sessions_history", "sessions_history", [], .app, .discoverable⟩,
    ⟨"sessions_list", "sessions_list", [], .app, .discoverable⟩,
    ⟨"sessions_send", "sessions_send", [], .app, .discoverable⟩,
    ⟨"shell.exec", "shell_exec", ["shell"], .core, .providerCore⟩,
    ⟨"tool.invoke", "tool_invoke", [], .core, .providerCore⟩,
    ⟨"tool.search", "tool_search", [], .core, .providerCore⟩,
    ⟨"web.fetch", "web_fetch", ["web_fetch"], .core, .discoverable⟩,
    ⟨"web.search", "web_search", [], .core, .providerCore⟩ ]

namespace ToolCatalog

def resolve (rawToolName : String) : Option ToolDescriptor :=
  toolCatalog.find? (fun descriptor => descriptor.matchesName rawToolName)

end ToolCatalog

open ToolCatalog

/-- The canonical name and the alias of each feishu tool. -/
def feishuToolAliasPairs : List (String × String) :=
  [ ("feishu.whoami", "feishu_whoami"), ("feishu.doc.create", "feishu_doc_create"),
    ("feishu.doc.append", "feishu_doc_append"),
    ("feishu.doc.read", "feishu_doc_read"),
    ("feishu.messages.history", "feishu_messages_history"),
    ("feishu.messages.get", "feishu_messages_get"),
    ("feishu.messages.resource.get", "feishu_messages_resource_get"),
    ("feishu.messages.search", "feishu_messages_search"),
    ("feishu.messages.send", "feishu_messages_send"),
    ("feishu.messages.reply", "feishu_messages_reply"),
    ("feishu.card.update", "feishu_card_update"),
    ("feishu.calendar.list", "feishu_calendar_list"),
    ("feishu.calendar.freebusy", "feishu_calendar_freebusy") ]

variable (raw : String)

def canonicalFeishuToolName : Option String :=
  (feishuToolAliasPairs.find? (fun pair =>
    decide (pair.1 = raw) || decide (pair.2 = raw))).map Prod.fst

def isKnownFeishuToolName : Bool :=
  (canonicalFeishuToolName raw).isSome

/-- The name under which a tool is dispatched.  An unknown name stays. -/
def canonicalToolName : String :=
  match resolve raw with
  | some descriptor => descriptor.name
  | none => (canonicalFeishuToolName raw).getD raw

structure ResolvedToolExecution where
  canonicalName : String
  executionKind : ToolExecutionKind
  deriving DecidableEq

def resolveToolExecution : Option ResolvedToolExecution :=
  match resolve raw with
  | some descriptor =>
    some { canonicalName := descriptor.name, executionKind := descriptor.executionKind }
  | none =>
    (canonicalFeishuToolName raw).map (fun canonicalName =>
      { canonicalName, executionKind := .core })

def isProviderExposedToolName : Bool :=
  (resolve (canonicalToolName raw)).any (fun descriptor =>
    decide (descriptor.exposure = .providerCore))

/-- Tools that `tool.invoke` runs: known ones that are not called directly. -/
def isDiscoverable (toolId : String) : Bool :=
  (resolveToolExecution toolId).any (fun resolved =>
    !isProviderExposedToolName resolved.canonicalName)

/-! ## Governance and scheduling -/

inductive ToolSchedulingClass where
  | serialOnly
  | parallelSafe
  deriving DecidableEq

inductive ToolGovernanceScope where
  | routine
  | topologyMutation

def ToolGovernanceScope.asStr : ToolGovernanceScope -> String
  | .routine => "routine"
  | .topologyMutation => "topology_mutation"

inductive ToolRiskClass where
  | low
  | elevated
  | high
  deriving DecidableEq

def ToolRiskClass.asStr : ToolRiskClass -> String
  | .low => "low"
  | .elevated => "elevated"
  | .high => "high"

inductive ToolApprovalMode where
  | never
  | policyDriven
  deriving DecidableEq

def ToolApprovalMode.asStr : ToolApprovalMode -> String
  | .never => "never"
  | .policyDriven => "policy_driven"

structure ToolGovernanceProfile where
  scope : ToolGovernanceScope
  riskClass : ToolRiskClass
  approvalMode : ToolApprovalMode

def governanceProfileForToolName (toolName : String) : ToolGovernanceProfile :=
  if toolName ∈ ["delegate", "delegate_async"] then ⟨.topologyMutation, .high, .policyDriven⟩
  else if toolName ∈ ["browser.companion.click", "browser.companion.type"] then
    ⟨.routine, .high, .policyDriven⟩
  else if toolName ∈ ["session_archive", "session_cancel", "session_recover", "sessions_send"] then
    ⟨.routine, .elevated, .policyDriven⟩
  else ⟨.routine, .low, .never⟩

def governanceProfileForDescriptor (descriptor : ToolDescriptor) : ToolGovernanceProfile :=
  governanceProfileForToolName descriptor.name

def schedulingClassForToolName (toolName : String) : ToolSchedulingClass :=
  if toolName ∈ ["tool.search", "file.read", "web.fetch", "web.search", "sessions_list"] then
    .parallelSafe
  else .serialOnly

def ToolDescriptor.schedulingClass (descriptor : ToolDescriptor) : ToolSchedulingClass :=
  schedulingClassForToolName descriptor.name

/-! ## Canonical names are fixed points -/

variable {descriptor : ToolDescriptor} {raw : String} {resolved : ResolvedToolExecution}
  {toolId : String}

/-- What holds of every entry of the catalog. -/
theorem toolCatalog_entry : ∀ descriptor, descriptor ∈ toolCatalog ->
    resolve descriptor.name = some descriptor /\
      Text.startsWith descriptor.name "feishu." = false /\
      (descriptor.name = "tool.invoke" -> descriptor.executionKind = .core) /\
      (descriptor.exposure = .providerCore -> descriptor.executionKind = .core) := by
  decide +kernel

/-- What holds of every feishu tool. -/
theorem feishuToolAliasPairs_entry : ∀ pair, pair ∈ feishuToolAliasPairs ->
    resolve pair.1 = none /\ canonicalFeishuToolName pair.1 = some pair.1 /\
      Text.startsWith pair.1 "feishu." = true := by
  decide +kernel

theorem resolve_name (member : descriptor ∈ toolCatalog) :
    resolve descriptor.name = some descriptor :=
  (toolCatalog_entry descriptor member).1

theorem mem_of_resolve (resolved : resolve raw = some descriptor) : descriptor ∈ toolCatalog :=
  List.mem_of_find?_eq_some resolved

theorem canonicalToolName_of_resolve (resolved : resolve raw = some descriptor) :
    canonicalToolName raw = descriptor.name := by
  unfold canonicalToolName
  rw [resolved]

theorem canonicalToolName_canonical {raw : String} :
    canonicalToolName (canonicalToolName raw) = canonicalToolName raw := by
  cases resolved : resolve raw with
  | some descriptor =>
    rw [canonicalToolName_of_resolve resolved]
    exact canonicalToolName_of_resolve (resolve_name (mem_of_resolve resolved))
  | none =>
    unfold canonicalToolName
    rw [resolved]
    cases found : canonicalFeishuToolName raw with
    | some canonical =>
      rcases Option.map_eq_some_iff.mp found with ⟨pair, isFound, rfl⟩
      have entry := feishuToolAliasPairs_entry pair (List.mem_of_find?_eq_some isFound)
      simp only [Option.getD_some, entry.1, entry.2.1]
    | none => simp only [Option.getD_none, resolved, found]

section

variable (found : resolveToolExecution raw = some resolved)

include found

theorem resolveToolExecution_name : resolved.canonicalName = canonicalToolName raw := by
  unfold resolveToolExecution at found
  unfold canonicalToolName
  split at found
  · cases found
    rfl
  · rcases Option.map_eq_some_iff.mp found with ⟨canonical, isCanonical, rfl⟩
    rw [isCanonical]
    rfl

/-- A resolved tool is one of the catalog or one of feishu. -/
theorem resolveToolExecution_cases : (∃ descriptor, descriptor ∈ toolCatalog /\
        resolved = ⟨descriptor.name, descriptor.executionKind⟩) \/
      (∃ pair, pair ∈ feishuToolAliasPairs /\ resolved = ⟨pair.1, .core⟩) := by
  unfold resolveToolExecution at found
  split at found
  · rename_i descriptor isResolved
    exact Or.inl ⟨descriptor, mem_of_resolve isResolved, (Option.some.inj found).symm⟩
  · rcases Option.map_eq_some_iff.mp found with ⟨canonical, isCanonical, rfl⟩
    rcases Option.map_eq_some_iff.mp isCanonical with ⟨pair, isFound, rfl⟩
    exact Or.inr ⟨pair, List.mem_of_find?_eq_some isFound, rfl⟩

/-- Exactly the feishu tools have no descriptor. -/
theorem resolve_eq_none_iff_feishu : resolve resolved.canonicalName = none ↔
      Text.startsWith resolved.canonicalName "feishu." = true := by
  rcases resolveToolExecution_cases found with ⟨descriptor, member, rfl⟩ | ⟨pair, member, rfl⟩
  · simp [toolCatalog_entry descriptor member]
  · simp [feishuToolAliasPairs_entry pair member]

theorem invoke_isCore (isInvoke : resolved.canonicalName = "tool.invoke") :
    resolved.executionKind = .core := by
  rcases resolveToolExecution_cases found with ⟨descriptor, member, rfl⟩ | ⟨pair, member, rfl⟩
  · exact (toolCatalog_entry descriptor member).2.2.1 isInvoke
  · rfl

/-- The tools that the provider sees are core tools, and so are those without a
descriptor. -/
theorem isCore_of_exposed
    (exposed : resolve raw = none \/ isProviderExposedToolName raw = true) :
    resolved.executionKind = .core := by
  rcases exposed with missing | exposed
  · unfold resolveToolExecution at found
    rw [missing] at found
    rcases Option.map_eq_some_iff.mp found with ⟨canonical, _, rfl⟩
    rfl
  · unfold isProviderExposedToolName at exposed
    rw [<- resolveToolExecution_name found] at exposed
    rcases resolveToolExecution_cases found with ⟨descriptor, member, rfl⟩ | ⟨pair, member, rfl⟩
    · rw [resolve_name member, Option.any_some, decide_eq_true_iff] at exposed
      exact (toolCatalog_entry descriptor member).2.2.2 exposed
    · rfl

end

theorem resolveToolExecution_invoke (isInvoke : canonicalToolName raw = "tool.invoke") :
    resolveToolExecution raw = some ⟨"tool.invoke", .core⟩ := by
  cases found : resolveToolExecution raw with
  | none =>
    have unknown : canonicalToolName raw = raw := by
      unfold resolveToolExecution at found
      unfold canonicalToolName
      split at found
      · cases found
      · rw [Option.map_eq_none_iff.mp found]
        rfl
    have known : (resolveToolExecution "tool.invoke").isSome = true := by decide +kernel
    rw [<- isInvoke, unknown, found] at known
    cases known
  | some resolved =>
    have named := (resolveToolExecution_name found).trans isInvoke
    have isCore := invoke_isCore found named
    rw [<- named, <- isCore]

/-- App tools are in the catalog. -/
theorem notFeishu_of_app (found : resolveToolExecution raw = some resolved)
    (isApp : resolved.executionKind = .app) :
    Text.startsWith resolved.canonicalName "feishu." = false := by
  rcases resolveToolExecution_cases found with ⟨descriptor, member, rfl⟩ | ⟨pair, member, rfl⟩
  · exact (toolCatalog_entry descriptor member).2.1
  · cases isApp

theorem isProviderExposedToolName_invoke (isInvoke : canonicalToolName raw = "tool.invoke") :
    isProviderExposedToolName raw = true := by
  unfold isProviderExposedToolName
  rw [isInvoke]
  decide +kernel

theorem canonicalToolName_invoke : canonicalToolName "tool.invoke" = "tool.invoke" := by
  decide +kernel

theorem canonicalToolName_ne_of_exposed {name : String}
    (discoverable : isDiscoverable toolId = true)
      (exposed : isProviderExposedToolName name = true) :
    canonicalToolName toolId ≠ name := by
  rintro rfl
  rcases (Option.any_eq_true _ _).mp discoverable with ⟨resolved, found, notExposed⟩
  rw [resolveToolExecution_name found, exposed] at notExposed
  cases notExposed

/-- Only tools behind `tool.invoke` are discoverable, not itself. -/
theorem canonicalToolName_ne_invoke (discoverable : isDiscoverable toolId = true) :
    canonicalToolName toolId ≠ "tool.invoke" :=
  canonicalToolName_ne_of_exposed discoverable (by decide +kernel)

theorem canonicalToolName_ne_search (discoverable : isDiscoverable toolId = true) :
    canonicalToolName toolId ≠ "tool.search" :=
  canonicalToolName_ne_of_exposed discoverable (by decide +kernel)

end LoongClaw.Tools
