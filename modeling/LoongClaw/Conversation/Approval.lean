import LoongClaw.Session.Repository
import LoongClaw.Conversation.TurnEngine

namespace LoongClaw.Conversation

open Foundation Contracts Tools Session SessionRepository

/-!
# Approval of governed tools

Before an app tool is run the application may deny it, or store a request for
the approval of an operator and let the turn end there.  The name of a request
is a digest of the session, the turn, the tool call and the tool.  The digest
is a parameter.
-/

/-! ## Configuration -/

inductive GovernedToolApprovalMode where
  | disabled
  | mediumBalanced
  | strict

structure GovernedToolApprovalConfig where
  mode : GovernedToolApprovalMode
  (approvedCalls deniedCalls : List String)

def requiresApproval (mode : GovernedToolApprovalMode) (riskClass : ToolRiskClass) : Bool :=
  match mode with
  | .disabled => false
  | .mediumBalanced => decide (riskClass = .high)
  | .strict => true

variable (descriptor : ToolDescriptor)

def approvalKey : String :=
  "tool:" ++ descriptor.name

/-- What the configuration says about a tool: nothing, that it is denied, or
that it needs an approval. -/
def approvalPolicy (config : GovernedToolApprovalConfig) (descriptor : ToolDescriptor) :
    Except String Bool :=
  let governance := governanceProfileForDescriptor descriptor
  if descriptor.executionKind ≠ .app \/ governance.approvalMode ≠ .policyDriven then .ok false
  else if !requiresApproval config.mode governance.riskClass then .ok false
  else if config.approvedCalls.contains (approvalKey descriptor) then .ok false
  else if config.deniedCalls.contains (approvalKey descriptor) then
    .error ("app_tool_denied: governed tool `" ++ approvalKey descriptor ++
      "` is denied by approval policy")
  else .ok true

/-! ## Requests -/

/-- A tool call with all that a provider says about it. -/
structure ToolCallIntent extends ToolIntent where
  (source turnId toolCallId : String)

/-- A session and its parent. -/
structure LineageContext extends SessionContext where
  parentSessionId : Option String

structure ApprovalRequirement where
  (reason ruleId : String)
  (toolName approvalKey approvalRequestId : Option String)

def ApprovalRequirement.governedTool (toolName approvalKey reason ruleId : String)
    (approvalRequestId : Option String) : ApprovalRequirement where
  reason
  ruleId
  toolName := some toolName
  approvalKey := some approvalKey
  approvalRequestId

def approvalReason : String :=
  "operator approval required before running `" ++ descriptor.name ++ "`"

def approvalRuleId : String := "governed_tool_requires_approval"

def executionKindText : ToolExecutionKind -> String
  | .core => "core"
  | .app => "app"

def requestPayload (session : LineageContext) (intent : ToolCallIntent)
    (descriptor : ToolDescriptor) : Json :=
  .object
    [ ("args_json", intent.argsJson),
      ("execution_kind", .string (executionKindText descriptor.executionKind)),
      ("parent_session_id", session.parentSessionId.elim .null .string),
      ("session_id", .string session.sessionId),
      ("source", .string intent.source),
      ("tool_call_id", .string intent.toolCallId),
      ("tool_name", .string descriptor.name),
      ("turn_id", .string intent.turnId) ]

def governanceSnapshot : Json :=
  let governance := governanceProfileForDescriptor descriptor
  .object
    [ ("approval_mode", .string governance.approvalMode.asStr),
      ("governance_scope", .string governance.scope.asStr),
      ("reason", .string (approvalReason descriptor)),
      ("risk_class", .string governance.riskClass.asStr),
      ("rule_id", .string approvalRuleId) ]

section Digest

variable (digest : List UInt8 -> List UInt8) (session : LineageContext) (intent : ToolCallIntent)
  (descriptor : ToolDescriptor)

def governedApprovalRequestId (toolName : String) (intent : ToolCallIntent) : String :=
  let bytes (text : String) : List UInt8 := text.toUTF8.toList
  let hashed := digest (bytes session.sessionId ++ [0] ++ bytes intent.turnId ++ [0] ++
    bytes intent.toolCallId ++ [0] ++ bytes toolName)
  "apr_" ++ String.ofList (hashed.flatMap (fun byte => Hex.fixedHex 2 byte.toNat))

def newApprovalRequest : NewApprovalRequestRecord where
  approvalRequestId := governedApprovalRequestId digest session descriptor.name intent
  sessionId := session.sessionId
  turnId := intent.turnId
  toolCallId := intent.toolCallId
  toolName := descriptor.name
  approvalKey := approvalKey descriptor
  requestPayloadJson := requestPayload session intent descriptor
  governanceSnapshotJson := governanceSnapshot descriptor

/-! ## The preflight -/

/-- Climb to the session that grants are scoped to.  A session without a row
is its own scope. -/
def climbToScope (sessions : SessionTable) : Nat -> List String -> String -> Except String String
  | 0, _, current =>
    .error (cycleError current "resolving approval grant scope")
  | rounds + 1, visited, current =>
    if current ∈ visited then
      .error (cycleError current "resolving approval grant scope")
    else do
      let sessionId <- normalizeRequiredText current "session_id"
      match OrderedMap.lookup sessionId sessions with
      | none => .ok current
      | some session =>
        match session.parentSessionId with
        | some parent => climbToScope sessions rounds (current :: visited) parent
        | none => .ok current

def scopeSessionId : RepositoryProgram String :=
  query (fun repository =>
    climbToScope repository.sessions (repository.sessions.length + 2) [] session.sessionId)

/-- Open the database, which may fail. -/
def openRepository : RepositoryProgram Unit :=
  query (fun _ => .ok ())

def raiseApprovalRequest : RepositoryProgram (Option ApprovalRequirement) := do
  let stored <- ensureApprovalRequest (newApprovalRequest digest session intent descriptor)
  return some (.governedTool descriptor.name (approvalKey descriptor) (approvalReason descriptor)
    approvalRuleId (some stored.approvalRequestId))

/-- A grant of the lineage makes a request needless. -/
def requestApproval : RepositoryProgram (Option ApprovalRequirement) := do
  openRepository
  let _ <- ensureSession
    { sessionId := session.sessionId, parentSessionId := session.parentSessionId }
  let scope <- scopeSessionId session
  let granted <- loadApprovalGrant scope (approvalKey descriptor)
  if granted.isSome then pure none else raiseApprovalRequest digest session intent descriptor

def maybeRequireApproval (config : GovernedToolApprovalConfig) (session : LineageContext)
    (intent : ToolCallIntent) (descriptor : ToolDescriptor) :
    RepositoryProgram (Option ApprovalRequirement) := do
  let governed <- Program.lift (approvalPolicy config descriptor)
  if governed then requestApproval digest session intent descriptor else pure none

end Digest

end LoongClaw.Conversation
