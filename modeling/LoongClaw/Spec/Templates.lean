import LoongClaw.Spec.Operations

namespace LoongClaw.Spec

open Foundation Text

/-!
# Templates

The payload of a connector call may refer to the outputs of earlier steps.  A
text that is one placeholder becomes the value it refers to.  In any other text
the placeholders are replaced by texts.  The compact text of a JSON value is a
parameter.
-/

/-! ## Errors -/

inductive ProgrammaticErrorCode where
  | invalidSpec
  | unknownStep
  | pointerNotFound
  | templateError
  | connectorNotAllowed
  | callBudgetExceeded
  | circuitOpen
  | connectorInvokeFailed

def ProgrammaticErrorCode.asStr : ProgrammaticErrorCode -> String
  | .invalidSpec => "invalid_spec"
  | .unknownStep => "unknown_step"
  | .pointerNotFound => "pointer_not_found"
  | .templateError => "template_error"
  | .connectorNotAllowed => "connector_not_allowed"
  | .callBudgetExceeded => "call_budget_exceeded"
  | .circuitOpen => "circuit_open"
  | .connectorInvokeFailed => "connector_invoke_failed"

def programmaticError (code : ProgrammaticErrorCode) (message : String) : String :=
  "programmatic_error[" ++ code.asStr ++ "]: " ++ message

/-! ## Pointers -/

/-- Replace each pair of characters by one. -/
def replacePair (first second replacement : Char) : List Char -> List Char
  | [] => []
  | [char] => [char]
  | char :: next :: rest =>
    if char = first /\ next = second then
      replacement :: replacePair first second replacement rest
    else char :: replacePair first second replacement (next :: rest)

def unescapeToken (token : List Char) : String :=
  String.ofList (replacePair '~' '0' '~' (replacePair '~' '1' '/' token))

/-- An array index, without sign and without leading zeros. -/
def parseIndex (token : String) : Option Nat :=
  let digits := token.toList
  if digits.isEmpty || !digits.all Char.isDigit then none
  else if digits.head? = some '0' && digits.length ≠ 1 then none
  else some (digits.foldl (fun value digit => 10 * value + (digit.toNat - 48)) 0)

def pointerStep (value : Json) (token : String) : Option Json :=
  match value with
  | .object fields => OrderedMap.lookup token fields
  | .array items => (parseIndex token).bind fun index => items[index]?
  | _ => none

/-- The part of a value that a JSON pointer refers to. -/
def jsonPointer (pointer : String) (value : Json) : Option Json :=
  match pointer.toList with
  | [] => some value
  | '/' :: rest =>
    ((rest.splitOn '/').map unescapeToken).foldl
      (fun target token => target.bind fun value => pointerStep value token) (some value)
  | _ => none

def normalizeProgrammaticPointer (pointer : String) : Except String String :=
  let pointer := trim pointer
  if pointer = "" then
    .error (programmaticError .invalidSpec "json pointer cannot be empty")
  else if startsWith pointer "/" then .ok pointer
  else .ok ("/" ++ pointer)

/-! ## Resolution -/

abbrev StepOutputs :=
  OrderedMap String Json

def splitExpression (expression : String) : String × Option String :=
  match splitOnce '#' expression with
  | some (stepId, pointer) => (trim stepId, some (trim pointer))
  | none => (expression, none)

def resolveProgrammaticTemplateExpr (outputs : StepOutputs) (rawExpression : String) :
    Except String Json := do
  let expression := trim rawExpression
  if expression = "" then
    .error (programmaticError .templateError "template expression cannot be empty")
  else
    let (stepId, pointer) := splitExpression expression
    if stepId = "" then
      .error (programmaticError .templateError
        ("template expression " ++ expression ++ " has empty step_id"))
    else
      let value <- Fallible.okOr (OrderedMap.lookup stepId outputs) (programmaticError .unknownStep
          ("template expression references unknown step " ++ stepId))
      match pointer with
      | none => .ok value
      | some pointer =>
        let normalizedPointer <- normalizeProgrammaticPointer pointer
        Fallible.okOr (jsonPointer normalizedPointer value) (programmaticError .pointerNotFound
            ("template pointer " ++ normalizedPointer ++ " not found in step " ++ stepId))

section Resolution

variable (jsonText : Json -> String) (outputs : StepOutputs)

def templateText : Json -> String
  | .string text => text
  | value => jsonText value

def openBraces : List Char :=
  ['\x7b', '\x7b']

def closeBraces : List Char :=
  ['\x7d', '\x7d']

def missingBracesError (raw : String) : String :=
  programmaticError .templateError ("template placeholder is missing closing braces in: " ++ raw)

/-- Replace the placeholders of a text.  Each takes at least one character, so
`rounds` may be the length of the text. -/
def renderTemplate (raw : String) : Nat -> List Char -> Except String String
  | 0, rest => .ok (String.ofList rest)
  | rounds + 1, rest =>
    match breakOn openBraces rest with
    | none => .ok (String.ofList rest)
    | some (before, opened) =>
      match breakOn closeBraces opened with
      | none => .error (missingBracesError raw)
      | some (expression, closed) => do
        let value <- resolveProgrammaticTemplateExpr outputs (String.ofList expression)
        let rendered <- renderTemplate raw rounds closed
        .ok (String.ofList before ++ templateText jsonText value ++ rendered)

def resolveProgrammaticTemplateString (raw : String) : Except String Json :=
  match breakOn openBraces raw.toList with
  | none => .ok (.string raw)
  | some (before, opened) =>
    match breakOn closeBraces opened with
    | none => .error (missingBracesError raw)
    | some (expression, closed) =>
      if before.isEmpty && closed.isEmpty then
        resolveProgrammaticTemplateExpr outputs (String.ofList expression)
      else (renderTemplate jsonText outputs raw raw.toList.length raw.toList).map .string

mutual

def resolveProgrammaticPayloadTemplates : Json -> Except String Json
  | .object fields => (resolveFields fields).map .object
  | .array items => (resolveItems items).map .array
  | .string raw => resolveProgrammaticTemplateString jsonText outputs raw
  | value => .ok value

def resolveFields : List (String × Json) -> Except String (List (String × Json))
  | [] => .ok []
  | (key, value) :: rest => do
    let resolved <- resolveProgrammaticPayloadTemplates value
    let others <- resolveFields rest
    .ok ((key, resolved) :: others)

def resolveItems : List Json -> Except String (List Json)
  | [] => .ok []
  | value :: rest => do
    let resolved <- resolveProgrammaticPayloadTemplates value
    let others <- resolveItems rest
    .ok (resolved :: others)

end

end Resolution

end LoongClaw.Spec
