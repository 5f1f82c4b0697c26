import LoongClaw.Tools.ShellPolicy

namespace LoongClaw.Tools

open Foundation Contracts Fallible Text

/-!
# Running shell commands

The executor checks one name and starts one process.  The name is the first
word of the command as it was given; the process is that word with arguments,
or a shell that is handed the whole line.  What the process was started with
is returned next to the outcome.
-/

/-- What a process is started with. -/
structure ShellCommand where
  command : String
  args : List String
  cwd : String
  timeoutMs : UInt64
  deriving DecidableEq

structure ProcessOutput where
  success : Bool
  code : Option Int32
  (stdout stderr : String)

def shellExecDefaultTimeoutMs : UInt64 := 30000

def shellExecMaxTimeoutMs : UInt64 := 600000

def containsShellOperators (command : String) : Bool :=
  containsChar command '|' || containsChar command '>' ||
    containsChar command '<' || containsText command "&&" ||
    containsText command "||" || containsChar command ';' ||
    containsChar command '$' || containsChar command '`'

def containsWhitespace (command : String) : Bool :=
  containsAny command isWhitespace

/-- Operators that explicit arguments are searched for. -/
def isOperatorArgument (argument : String) : Bool :=
  containsChar argument '|' || containsChar argument '>' ||
    containsChar argument '<' || argument == "&&" || argument == "||"

def explicitShellArgs (payload : Json) : List String :=
  match (payload.get "args").bind Json.asArray with
  | none => []
  | some values => values.filterMap Json.asStr

/-- The line that explicit arguments are put back together to. -/
def reassembledLine (rawCommand : String) (explicitArgs : List String) : String :=
  explicitArgs.foldl (fun line argument => line ++ " " ++ argument) rawCommand

/-- The program and arguments for a command and its explicit arguments. -/
def shellInvocation (rawCommand : String) (explicitArgs : List String) : String × List String :=
  if containsWhitespace rawCommand = true /\ explicitArgs = [] then
    if containsShellOperators rawCommand then ("sh", ["-c", rawCommand])
    else (firstWord rawCommand, (splitWhitespace rawCommand).tail ++ explicitArgs)
  else if explicitArgs ≠ [] /\ explicitArgs.any isOperatorArgument = true then
    ("sh", ["-c", reassembledLine rawCommand explicitArgs])
  else (rawCommand, explicitArgs)

def parseShellTimeoutMs (payload : Json) : Except String UInt64 :=
  match payload.get "timeout_ms" with
  | none => .ok (min (max shellExecDefaultTimeoutMs 1000) shellExecMaxTimeoutMs)
  | some value =>
    match value.asU64 with
    | none => .error "shell.exec payload.timeout_ms must be an integer"
    | some timeoutMs => .ok (min (max timeoutMs 1000) shellExecMaxTimeoutMs)

def requireShellCommand (payload : Json) : Except String String :=
  match payload.asObject with
  | none => .error "shell.exec payload must be an object"
  | some _ =>
    match trimmedText (payload.get "command") with
    | none => .error "shell.exec requires payload.command"
    | some rawCommand => .ok rawCommand

def checkShellPolicy (config : ToolRuntimeConfig) (basename : String) : Except String Unit :=
  if basename ∈ config.shellDeny then
    .error ("policy_denied: shell command `" ++ basename ++ "` is blocked by shell policy")
  else if basename ∉ config.shellAllow /\ config.shellDefaultMode ≠ .allow then
    .error ("policy_denied: shell command `" ++ basename ++
      "` is not in the allow list (default-deny policy)")
  else .ok ()

/-- Everything up to the start of the process.  `currentDir` is the working
directory of the runtime. -/
def prepareShellCommand (currentDir : String) (config : ToolRuntimeConfig) (payload : Json) :
    Except String ShellCommand := do
  let rawCommand <- requireShellCommand payload
  let basename <- validateShellCommandName rawCommand
  let invocation := shellInvocation rawCommand (explicitShellArgs payload)
  let cwd := ((payload.get "cwd").bind Json.asStr).getD currentDir
  let timeoutMs <- parseShellTimeoutMs payload
  checkShellPolicy config basename
  return { command := invocation.1, args := invocation.2, cwd, timeoutMs }

def shellOutcome (toolName : String) (started : ShellCommand) (output : ProcessOutput) :
    PlaneOutcome where
  status := if output.success then "ok" else "failed"
  payload := .object
    [ ("adapter", .string "core-tools"), ("args", .array (started.args.map .string)),
      ("command", .string started.command),
      ("cwd", .string started.cwd),
      ("exit_code", (output.code.map Json.ofInt32).getD .null),
      ("stderr", .string (trim output.stderr)),
      ("stdout", .string (trim output.stdout)),
      ("tool_name", .string toolName) ]

/-- The outcome, and what a process was started with if one was. -/
def executeShellToolWithConfig (currentDir : String)
    (runShellCommandWithTimeout : ShellCommand -> Except String ProcessOutput)
    (request : ToolCoreRequest) (config : ToolRuntimeConfig) :
    Except String PlaneOutcome × Option ShellCommand :=
  match prepareShellCommand currentDir config request.payload with
  | .error error => (.error error, none)
  | .ok started =>
    ((runShellCommandWithTimeout started).map (shellOutcome request.toolName started), some started)

/-! ## The first word is what the policy decided on -/

variable {line rawCommand : String} {payload : Json} {started : ShellCommand}

theorem firstWord_of_head {word : String} (first : (splitWhitespace line).head? = some word) :
    firstWord line = word := by
  unfold firstWord
  rw [first]
  rfl

theorem firstWord_eq_of_head_eq {other : String} (nonempty : splitWhitespace line ≠ [])
    (same : (splitWhitespace other).head? = (splitWhitespace line).head?) :
    firstWord other = firstWord line := by
  have first := List.head?_eq_some_head nonempty
  rw [firstWord_of_head first, firstWord_of_head (same.trans first)]

theorem firstWord_trim (nonempty : splitWhitespace line ≠ []) :
    firstWord (trim line) = firstWord line :=
  firstWord_eq_of_head_eq nonempty (congrArg List.head? splitWhitespace_trim)

/-- Appended arguments leave the first word alone. -/
theorem firstWord_reassembledLine (nonempty : splitWhitespace rawCommand ≠ [])
    {explicitArgs : List String} :
    firstWord (reassembledLine rawCommand explicitArgs) = firstWord rawCommand := by
  induction explicitArgs generalizing rawCommand with
  | nil => rfl
  | cons argument rest ih =>
    have words : splitWhitespace (rawCommand ++ " " ++ argument) =
        splitWhitespace rawCommand ++ splitWhitespace argument :=
      splitWhitespace_append
    have stillWords : splitWhitespace (rawCommand ++ " " ++ argument) ≠ [] := by
      rw [words]
      exact List.append_ne_nil_of_left_ne_nil nonempty _
    have sameFirst : firstWord (rawCommand ++ " " ++ argument) = firstWord rawCommand := by
      apply firstWord_eq_of_head_eq nonempty
      rw [words, List.head?_append_of_ne_nil _ nonempty]
    exact (ih stillWords).trans sameFirst

theorem firstWord_of_no_whitespace (visible : containsWhitespace line = false) :
    firstWord line = line := by
  by_cases empty : line = ""
  · subst empty
    decide
  · have eachVisible : ∀ c, c ∈ line.toList -> isWhitespace c = false := by
      intro c member
      have none := List.any_eq_false.mp visible c member
      exact Bool.eq_false_iff.mpr none
    unfold firstWord
    rw [splitWhitespace_of_visible empty eachVisible]
    rfl

/-- A trimmed field is not empty and has a word. -/
theorem trimmedText_words {value : Option Json} {text : String}
    (found : trimmedText value = some text) : splitWhitespace text ≠ [] := by
  rcases Option.filter_eq_some_iff.mp found with ⟨isTrimmed, nonempty⟩
  rcases Option.map_eq_some_iff.mp isTrimmed with ⟨raw, _, rfl⟩
  rw [splitWhitespace_trim]
  exact splitWhitespace_ne_nil (of_decide_eq_true nonempty)

theorem requireShellCommand_ok (required : requireShellCommand payload = .ok rawCommand) :
    trimmedText (payload.get "command") = some rawCommand := by
  unfold requireShellCommand at required
  split at required
  · injection required
  · split at required
    · injection required
    · case h_2 command found =>
        rw [found, Except.ok.inj required]

theorem checkShellPolicy_ok_iff {config : ToolRuntimeConfig} {basename : String} :
    checkShellPolicy config basename = .ok () ↔ ShellAllowed config basename := by
  unfold checkShellPolicy ShellAllowed
  by_cases denied : basename ∈ config.shellDeny
  · simp [denied]
  · by_cases allowed : basename ∈ config.shellAllow
    · simp [denied, allowed]
    · cases config.shellDefaultMode <;> simp [denied, allowed]

theorem prepareShellCommand_ok {currentDir : String} {config : ToolRuntimeConfig}
    (prepared : prepareShellCommand currentDir config payload = .ok started) :
    ∃ rawCommand, trimmedText (payload.get "command") = some rawCommand /\
      ShellAllowed config (firstWord rawCommand) /\
      started.command = (shellInvocation rawCommand (explicitShellArgs payload)).1 /\
      started.args = (shellInvocation rawCommand (explicitShellArgs payload)).2 := by
  rcases bind_eq_ok_iff.mp prepared with ⟨rawCommand, required, afterRequired⟩
  rcases bind_eq_ok_iff.mp afterRequired with ⟨basename, checked, afterChecked⟩
  rcases bind_eq_ok_iff.mp afterChecked with ⟨timeoutMs, _, afterTimeout⟩
  rcases bind_eq_ok_iff.mp afterTimeout with ⟨_, accepted, returned⟩
  have command := requireShellCommand_ok required
  have name : basename = firstWord rawCommand :=
    (validateShellCommandName_ok checked).trans (firstWord_trim (trimmedText_words command))
  have same := Except.ok.inj returned
  refine ⟨rawCommand, command, ?_, ?_, ?_⟩
  · exact name ▸ checkShellPolicy_ok_iff.mp accepted
  · rw [<- same]
  · rw [<- same]

/-- The process is the word run as a program, or a shell that is handed a line
with the word in front. -/
def RunsWord (started : ShellCommand) (word : String) : Prop :=
  started.command = word \/ (started.command = "sh" /\
      ∃ line, started.args = ["-c", line] /\ firstWord line = word)

theorem shellInvocation_runsWord {explicitArgs : List String}
    (nonempty : splitWhitespace rawCommand ≠ [])
    (separate : containsWhitespace rawCommand = true ->
      explicitArgs = [] \/ explicitArgs.any isOperatorArgument = true)
    (command : started.command = (shellInvocation rawCommand explicitArgs).1)
    (args : started.args = (shellInvocation rawCommand explicitArgs).2) :
    RunsWord started (firstWord rawCommand) := by
  unfold shellInvocation at command args
  split at command
  · case isTrue split =>
      rw [if_pos split] at args
      split at command
      · case isTrue operators =>
          rw [if_pos operators] at args
          exact .inr ⟨command, rawCommand, args, rfl⟩
      · exact .inl command
  · case isFalse unsplit =>
      rw [if_neg unsplit] at args
      split at command
      · case isTrue operators =>
          rw [if_pos operators] at args
          exact .inr ⟨command, reassembledLine rawCommand explicitArgs, args,
            firstWord_reassembledLine nonempty⟩
      · case isFalse plain =>
          have visible : containsWhitespace rawCommand = false := by
            cases whitespace : containsWhitespace rawCommand with
            | false => rfl
            | true =>
              rcases separate whitespace with none | operators
              · exact absurd ⟨whitespace, none⟩ unsplit
              · have some : explicitArgs ≠ [] := fun none => by
                  rw [none] at operators
                  cases operators
                exact absurd ⟨some, operators⟩ plain
          exact .inl (command.trans (firstWord_of_no_whitespace visible).symm)

/-- A started process means that the policy allows the first word of the
command.  That word is the program, or leads the line handed to the shell,
unless a command with whitespace comes with plain explicit arguments. -/
theorem started_first_word_allowed (currentDir : String)
    (runShellCommandWithTimeout : ShellCommand -> Except String ProcessOutput)
    (request : ToolCoreRequest) (config : ToolRuntimeConfig)
    (starts : (executeShellToolWithConfig currentDir runShellCommandWithTimeout request
      config).2 = some started) :
    ∃ rawCommand, trimmedText (request.payload.get "command") = some rawCommand /\
      ShellAllowed config (firstWord rawCommand) /\
      ((containsWhitespace rawCommand = true -> explicitShellArgs request.payload = [] \/
            (explicitShellArgs request.payload).any isOperatorArgument = true) ->
        RunsWord started (firstWord rawCommand)) := by
  unfold executeShellToolWithConfig at starts
  split at starts
  · cases starts
  · case h_2 prepared isPrepared =>
      have same := Option.some.inj starts
      rw [same] at isPrepared
      rcases prepareShellCommand_ok isPrepared with ⟨rawCommand, given, allowed, command, args⟩
      refine ⟨rawCommand, given, allowed, fun separate => ?_⟩
      exact shellInvocation_runsWord (trimmedText_words given) separate command args

/-! ## Words behind the first one -/

/-- The commands of an unquoted line, as a shell separates them. -/
def commandWords (line : String) : List String :=
  (line.toList.splitOnP (fun c => decide (c ∈ [';', '|', '&', '\n']))).filterMap (fun part =>
    (splitWhitespace (String.ofList part)).head?)

/-- The program of a process, and the commands of the line if the program is a
shell that is handed one. -/
def startedWords (started : ShellCommand) : List String :=
  started.command ::
    match started.args with
    | "-c" :: line :: _ =>
      if started.command ∈ ["sh", "bash", "dash", "ksh", "zsh"] then commandWords line else []
    | _ => []

namespace ShellSample

/-- Only `echo` is allowed, and `rm` is denied. -/
def config : ToolRuntimeConfig :=
  { ToolRuntimeConfig.default with shellAllow := {"echo"}, shellDeny := {"rm"} }

def request (command : String) : ToolCoreRequest where
  toolName := "shell.exec"
  payload := .object [("command", .string command)]

def echoHi : ShellCommand where
  command := "echo"
  args := ["hi"]
  cwd := "/work"
  timeoutMs := 30000

def echoThenRemove : ShellCommand where
  command := "sh"
  args := ["-c", "echo hi; rm x"]
  cwd := "/work"
  timeoutMs := 30000

def succeed : ShellCommand -> Except String ProcessOutput :=
  fun _ => .ok { success := true, code := some 0, stdout := "hi\n", stderr := "" }

end ShellSample

open ShellSample ToolPolicyExtension

theorem started_first_word_allowed_echo :
    (executeShellToolWithConfig "/work" succeed (request "echo hi") config).2 = some echoHi /\
    ∃ rawCommand, trimmedText ((request "echo hi").payload.get "command") = some rawCommand /\
        ShellAllowed config (firstWord rawCommand) /\
        ((containsWhitespace rawCommand = true ->
            explicitShellArgs (request "echo hi").payload = [] \/
              (explicitShellArgs (request "echo hi").payload).any isOperatorArgument = true) ->
          RunsWord echoHi (firstWord rawCommand)) := by
  have starts : (executeShellToolWithConfig "/work" succeed
      (request "echo hi") config).2 = some echoHi := by
    decide +kernel
  exact ⟨starts, started_first_word_allowed "/work" succeed (request "echo hi") config starts⟩

/-- An allowed first word brings a shell along that is not allowed, and with it
a denied command. -/
theorem started_words_refused : (executeShellToolWithConfig "/work" succeed
        (request "echo hi; rm x") config).2 =
      some echoThenRemove /\
    startedWords echoThenRemove = ["sh", "echo", "rm"] /\
    ¬ ShellAllowed config "sh" /\ "rm" ∈ config.shellDeny := by
  decide +kernel

/-! ## The two checks of one command -/

/-- The executor names the policy as its reason and starts nothing. -/
def refusedByPolicy : Except String PlaneOutcome × Option ShellCommand -> Bool
  | (.error reason, none) => startsWith reason "policy_denied: "
  | _ => false

theorem startsWith_policyDenied {middle rest : String} :
    startsWith ("policy_denied: shell command `" ++ middle ++ rest) "policy_denied: " = true := by
  simp [startsWith, String.toList_append]

theorem validateShellCommandName_refuses {reason : String} (nonempty : trim rawCommand ≠ "")
    (refused : validateShellCommandName rawCommand = .error reason) :
    startsWith reason "policy_denied: " = true := by
  unfold validateShellCommandName at refused
  dsimp only at refused
  rw [if_neg nonempty] at refused
  split at refused
  · rw [<- Except.error.inj refused, startsWith_policyDenied]
  · split at refused
    · rw [<- Except.error.inj refused, startsWith_policyDenied]
    · cases refused

theorem checkShellPolicy_refuses {config : ToolRuntimeConfig} {basename reason : String}
    (refused : checkShellPolicy config basename = .error reason) :
    startsWith reason "policy_denied: " = true := by
  unfold checkShellPolicy at refused
  split at refused
  · rw [<- Except.error.inj refused, startsWith_policyDenied]
  · split at refused
    · rw [<- Except.error.inj refused, startsWith_policyDenied]
    · cases refused

theorem parseShellTimeoutMs_error {reason : String}
    (failed : parseShellTimeoutMs payload = .error reason) :
    startsWith reason "policy_denied: " = false := by
  unfold parseShellTimeoutMs at failed
  split at failed
  · cases failed
  · split at failed
    · rw [<- Except.error.inj failed]
      decide +kernel
    · cases failed

/-- The executor refuses for the policy what the extension refuses, if it gets
as far: the timeout is read between the name and the lists. -/
theorem refusedByPolicy_iff_unauthorized (currentDir : String)
    (runShellCommandWithTimeout : ShellCommand -> Except String ProcessOutput)
    (config : ToolRuntimeConfig) (context : Kernel.PolicyExtensionContext) (params payload : Json)
    (requested : context.requestParameters = some params)
    (shell : effectiveShellRequest params = ("shell.exec", some payload)) :
    refusedByPolicy (executeShellToolWithConfig currentDir runShellCommandWithTimeout
        ⟨"shell.exec", payload⟩ config) = true ↔
      (fromConfig config).authorizeExtension context ≠ .ok () /\
        ((parseShellTimeoutMs payload).isOk = false ->
          ((requireShellCommand payload).bind validateShellCommandName).isOk = false) := by
  unfold authorizeExtension executeShellToolWithConfig prepareShellCommand
  simp only [requested, shell, Option.bind_some, ne_eq, not_true, if_false]
  cases given : trimmedText (payload.get "command") with
  | none =>
    unfold requireShellCommand
    rw [given]
    cases payload.asObject <;> simp [refusedByPolicy, bind, Except.bind] <;> decide +kernel
  | some command =>
    have required : requireShellCommand payload = .ok command := by
      cases payload with
      | object fields =>
        unfold requireShellCommand
        simp only [Json.asObject_object, given]
      | _ => cases given
    rw [required]
    cases checked : validateShellCommandName command with
    | error reason =>
      have nonempty : trim command ≠ "" := by
        intro empty
        apply trimmedText_words given
        rw [<- splitWhitespace_trim, empty]
        decide
      have denied : (fromConfig config).authorizeCommand "shell.exec" command ≠ .ok () := by
        unfold authorizeCommand
        rw [checked]
        nofun
      simp [bind, Except.bind, checked, refusedByPolicy, denied, Except.isOk, Except.toBool,
        validateShellCommandName_refuses nonempty checked]
    | ok basename =>
      rw [authorizeCommand_fromConfig_iff config "shell.exec" checked, <- checkShellPolicy_ok_iff]
      cases timeout : parseShellTimeoutMs payload with
      | error reason =>
        simp [bind, Except.bind, checked, refusedByPolicy, Except.isOk, Except.toBool,
          parseShellTimeoutMs_error timeout]
      | ok timeoutMs =>
        cases accepted : checkShellPolicy config basename with
        | error reason =>
          simp [bind, Except.bind, checked, accepted, refusedByPolicy,
            Except.isOk, Except.toBool, checkShellPolicy_refuses accepted]
        | ok =>
          simp [bind, Except.bind, checked, accepted, refusedByPolicy, pure, Except.pure]

namespace ShellSample

def removal (timeoutMs : Json) : Json :=
  .object [("command", .string "rm"), ("timeout_ms", timeoutMs)]

def context (payload : Json) : Kernel.PolicyExtensionContext where
  pack := VerticalPackManifest.samplePack
  token := ⟨"tok-1", "sales-intel", "agent-1", {.invokeTool}, 0, 1000, 1⟩
  nowEpochS := 1
  requiredCapabilities := {.invokeTool}
  requestParameters := some (.object [("payload", payload), ("tool_name", .string "shell.exec")])

end ShellSample

theorem refusedByPolicy_denied_command : refusedByPolicy (executeShellToolWithConfig "/work"
    succeed ⟨"shell.exec", removal (.ofNat 5000)⟩ config) = true := by
  have direct : canonicalToolName "shell.exec" = "shell.exec" := by decide +kernel
  refine (refusedByPolicy_iff_unauthorized "/work" succeed config
    (context (removal (.ofNat 5000))) _ _ rfl ?_).mpr ⟨?_, ?_⟩
  · simp [effectiveShellRequest, Json.get, Json.asStr, OrderedMap.lookup, direct]
  · decide +kernel
  · decide +kernel

/-- The extension denies the command, and the executor only says that it cannot
read the timeout. -/
theorem unread_timeout_hides_policy :
    ((fromConfig config).authorizeExtension (context (removal (.string "soon")))).isOk = false /\
      refusedByPolicy (executeShellToolWithConfig "/work" succeed
        ⟨"shell.exec", removal (.string "soon")⟩ config) = false := by
  decide +kernel

end LoongClaw.Tools
