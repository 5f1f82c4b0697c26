import LoongClaw.Kernel.Kernel
import LoongClaw.Tools.Catalog
import LoongClaw.Tools.RuntimeConfig

namespace LoongClaw.Tools

open Foundation Contracts Kernel Text

/-!
# Shell command policy

The name check that the executor and the policy extension share, and the
extension that the kernel consults before a shell call.
-/

/-- A text field, trimmed, unless nothing is left. -/
def trimmedText (value : Option Json) : Option String :=
  ((value.bind Json.asStr).map trim).filter (fun text => decide (text ≠ ""))

/-- The first word of a command line, or the line itself without one. -/
def firstWord (line : String) : String :=
  (splitWhitespace line).head?.getD line

/-- The bare lower-case command name that the policy is asked about. -/
def validateShellCommandName (command : String) : Except String String :=
  let trimmed := trim command
  if trimmed = "" then .error "shell.exec requires payload.command"
  else
    let trimmed := firstWord trimmed
    if containsChar trimmed '/' || containsChar trimmed '\\' then
      .error ("policy_denied: shell command `" ++ trimmed ++
        "` must be a bare command name without path separators")
    else
      let normalized := toAsciiLowercase trimmed
      if trimmed ≠ normalized then
        .error ("policy_denied: shell command `" ++ trimmed ++
          "` must use a lowercase bare command name to match shell policy")
      else .ok normalized

structure ToolPolicyExtension where
  (hardDeny allow : Finset String)
  defaultMode : ShellPolicyDefault

namespace ToolPolicyExtension

def fromConfig (config : ToolRuntimeConfig) : ToolPolicyExtension where
  hardDeny := config.shellDeny
  allow := config.shellAllow
  defaultMode := config.shellDefaultMode

/-- The tool and the payload that a request amounts to after unwrapping
`tool.invoke`. -/
def effectiveShellRequest (params : Json) : String × Option Json :=
  let rawToolName := ((params.get "tool_name").bind Json.asStr).getD ""
  let toolName := canonicalToolName rawToolName
  if toolName ≠ "tool.invoke" then (toolName, params.get "payload")
  else
    let payload := params.get "payload"
    let invokedToolName :=
      (((payload.bind (Json.get "tool_id")).bind Json.asStr).map canonicalToolName).getD toolName
    (invokedToolName, payload.bind (Json.get "arguments"))

variable (extension : ToolPolicyExtension)

def authorizeCommand (toolName command : String) : Except PolicyError Unit :=
  match validateShellCommandName command with
  | .error reason => .error (.toolCallDenied toolName reason)
  | .ok basename =>
    if basename ∈ extension.hardDeny then
      .error (.toolCallDenied toolName ("command `" ++ basename ++ "` is blocked by shell policy"))
    else if basename ∈ extension.allow then .ok ()
    else
      match extension.defaultMode with
      | .allow => .ok ()
      | .deny =>
        .error (.toolCallDenied toolName ("command `" ++ basename ++
          "` is not in the allow list (default-deny policy)"))

def authorizeExtension (context : PolicyExtensionContext) : Except PolicyError Unit :=
  match context.requestParameters with
  | none => .ok ()
  | some params =>
    let request := effectiveShellRequest params
    if request.1 ≠ "shell.exec" then .ok ()
    else
      match trimmedText (request.2.bind (Json.get "command")) with
      | none => .ok ()
      | some command => extension.authorizeCommand request.1 command

/-- As the kernel registers it.  The check reads nothing of the world. -/
def toPolicyExtension {ω : Type} : PolicyExtension ω where
  name := "tool-policy"
  authorizeExtension context _ := extension.authorizeExtension context

end ToolPolicyExtension

open ToolPolicyExtension

/-! ## What an accepted name is -/

/-- The policy that both checks implement: not denied, and allowed by name or
by default. -/
def ShellAllowed (config : ToolRuntimeConfig) (name : String) : Prop :=
  name ∉ config.shellDeny /\ (name ∈ config.shellAllow \/ config.shellDefaultMode = .allow)

instance (config : ToolRuntimeConfig) (name : String) : Decidable (ShellAllowed config name) :=
  inferInstanceAs (Decidable (_ /\ _))

variable {command name : String}

theorem validateShellCommandName_ok (valid : validateShellCommandName command = .ok name) :
    name = firstWord (trim command) := by
  unfold validateShellCommandName at valid
  dsimp only at valid
  split at valid
  · injection valid
  · split at valid
    · injection valid
    · split at valid
      · injection valid
      · case isFalse lowercase =>
          have same := Except.ok.inj valid
          rw [<- same, <- not_not.mp lowercase]

/-- The extension and the policy agree on every valid name. -/
theorem authorizeCommand_fromConfig_iff (config : ToolRuntimeConfig) (toolName : String)
    (valid : validateShellCommandName command = .ok name) :
    (fromConfig config).authorizeCommand toolName command = .ok () ↔ ShellAllowed config name := by
  unfold authorizeCommand ShellAllowed fromConfig
  rw [valid]
  by_cases denied : name ∈ config.shellDeny
  · simp [denied]
  · by_cases allowed : name ∈ config.shellAllow
    · simp [denied, allowed]
    · cases config.shellDefaultMode <;> simp [denied, allowed]

end LoongClaw.Tools
