import LoongClaw.Foundation.Text

namespace LoongClaw.Memory

open Foundation

/-!
# The running summary

A summary body is grown one turn at a time under a byte budget.  A turn adds a
line of its role and its words, cut at the last character that fits.  Once the
body fills the budget further turns leave it unchanged, which is what lets
every reader of the turns stop early.
-/

structure PromptWindowTurn where
  (role content : String)
  deriving DecidableEq

/-- A body under construction and the bytes it may still take. -/
structure SummaryCursor where
  body : String
  remainingBytes : Nat

/-- The longest start of the characters that fits into the bytes. -/
def fittingChars (remainingBytes : Nat) : List Char -> List Char
  | [] => []
  | c :: rest =>
    if c.utf8Size <= remainingBytes then c :: fittingChars (remainingBytes - c.utf8Size) rest
    else []

variable (cursor : SummaryCursor)

/-- Append what fits of a fragment.  The flag says that all of it did. -/
def appendTruncatedSummaryFragment (fragment : String) : Bool × SummaryCursor :=
  if cursor.remainingBytes = 0 \/ fragment = "" then (decide (fragment = ""), cursor)
  else if fragment.utf8ByteSize <= cursor.remainingBytes then
    (true,
      { body := cursor.body ++ fragment
        remainingBytes := cursor.remainingBytes - fragment.utf8ByteSize })
  else
    let kept := String.ofList (fittingChars cursor.remainingBytes fragment.toList)
    if 0 < kept.utf8ByteSize then
      (false,
        { body := cursor.body ++ kept
          remainingBytes := cursor.remainingBytes - kept.utf8ByteSize })
    else (false, { cursor with remainingBytes := 0 })

/-- Append fragments one after the other, whether or not each one fits. -/
def appendFragments (fragments : List String) : SummaryCursor :=
  fragments.foldl (fun cursor fragment => (appendTruncatedSummaryFragment cursor fragment).2) cursor

/-- The words after the first, each behind a blank. -/
def appendSummaryTokens (cursor : SummaryCursor) : List String -> String
  | [] => cursor.body
  | token :: rest =>
    if cursor.remainingBytes = 0 then cursor.body
    else
      let spaced := (appendTruncatedSummaryFragment cursor " ").2
      match appendTruncatedSummaryFragment spaced token with
      | (true, next) => appendSummaryTokens next rest
      | (false, next) => next.body

def appendSummaryLine (summaryBudgetChars : Nat) (summaryBody role content : String) : String :=
  let remainingBytes := summaryBudgetChars - summaryBody.utf8ByteSize
  if remainingBytes = 0 then summaryBody
  else
    match Text.splitWhitespace content with
    | [] => summaryBody
    | firstToken :: tokens =>
      let lineBreak := if summaryBody = "" then [] else ["\n"]
      let cursor := appendFragments { body := summaryBody, remainingBytes }
        (lineBreak ++ ["- ", role, ": "])
      match appendTruncatedSummaryFragment cursor firstToken with
      | (true, next) => appendSummaryTokens next tokens
      | (false, next) => next.body

variable {summaryBudgetChars : Nat} {summaryBody : String}

theorem appendSummaryLine_saturated (saturated : summaryBudgetChars <= summaryBody.utf8ByteSize)
    (role content : String) :
    appendSummaryLine summaryBudgetChars summaryBody role content = summaryBody := by
  exact if_pos (Nat.sub_eq_zero_of_le saturated)

/-! ## Bodies only grow -/

theorem appendTruncatedSummaryFragment_grows (fragment : String) : cursor.body.utf8ByteSize <=
      (appendTruncatedSummaryFragment cursor fragment).2.body.utf8ByteSize := by
  unfold appendTruncatedSummaryFragment
  dsimp only
  split
  · exact Nat.le_refl _
  · split
    · rw [String.utf8ByteSize_append]
      exact Nat.le_add_right _ _
    · split
      · rw [String.utf8ByteSize_append]
        exact Nat.le_add_right _ _
      · exact Nat.le_refl _

theorem appendSummaryTokens_grows {tokens : List String} :
    cursor.body.utf8ByteSize <= (appendSummaryTokens cursor tokens).utf8ByteSize := by
  induction tokens generalizing cursor with
  | nil => exact Nat.le_refl _
  | cons token rest ih =>
    have spaced := appendTruncatedSummaryFragment_grows cursor " "
    have added := appendTruncatedSummaryFragment_grows
      (appendTruncatedSummaryFragment cursor " ").2 token
    unfold appendSummaryTokens
    dsimp only
    split
    · exact Nat.le_refl _
    · split
      · case h_1 next outcome =>
          rw [outcome] at added
          exact Nat.le_trans (Nat.le_trans spaced added) (ih next)
      · case h_2 next outcome =>
          rw [outcome] at added
          exact Nat.le_trans spaced added

theorem appendFragments_grows (fragments : List String) :
    cursor.body.utf8ByteSize <= (appendFragments cursor fragments).body.utf8ByteSize := by
  induction fragments generalizing cursor with
  | nil => exact Nat.le_refl _
  | cons fragment rest ih =>
    exact Nat.le_trans (appendTruncatedSummaryFragment_grows cursor fragment) (ih _)

theorem appendSummaryLine_grows {budget : Nat} {body role content : String} :
    body.utf8ByteSize <= (appendSummaryLine budget body role content).utf8ByteSize := by
  unfold appendSummaryLine
  dsimp only
  split
  · exact Nat.le_refl _
  · split
    · exact Nat.le_refl _
    · case h_2 firstToken tokens _ =>
        have opened := appendFragments_grows { body, remainingBytes := budget - body.utf8ByteSize }
          ((if body = "" then [] else ["\n"]) ++ ["- ", role, ": "])
        have added := appendTruncatedSummaryFragment_grows
          (appendFragments { body, remainingBytes := budget - body.utf8ByteSize }
            ((if body = "" then [] else ["\n"]) ++ ["- ", role, ": "])) firstToken
        have reached := Nat.le_trans opened added
        split
        · case h_1 next outcome =>
            rw [outcome] at reached
            exact Nat.le_trans reached (appendSummaryTokens_grows next)
        · case h_2 next outcome =>
            rw [outcome] at reached
            exact reached

/-- The body after the turns, in order. -/
def foldSummary (summaryBudgetChars : Nat) (summaryBody : String)
    (turns : List PromptWindowTurn) : String :=
  turns.foldl (fun body turn => appendSummaryLine summaryBudgetChars body turn.role turn.content)
    summaryBody

@[simp] theorem foldSummary_cons {summaryBudgetChars : Nat} {summaryBody : String}
    {turn : PromptWindowTurn} {rest : List PromptWindowTurn} :
    foldSummary summaryBudgetChars summaryBody (turn :: rest) = foldSummary summaryBudgetChars
        (appendSummaryLine summaryBudgetChars summaryBody turn.role turn.content) rest := rfl

theorem foldSummary_append {summaryBudgetChars : Nat} {summaryBody : String}
    {first second : List PromptWindowTurn} :
    foldSummary summaryBudgetChars summaryBody (first ++ second) =
      foldSummary summaryBudgetChars (foldSummary summaryBudgetChars summaryBody first) second :=
  List.foldl_append

/-- A full body absorbs every further turn. -/
theorem foldSummary_saturated (saturated : summaryBudgetChars <= summaryBody.utf8ByteSize)
    (turns : List PromptWindowTurn) :
    foldSummary summaryBudgetChars summaryBody turns = summaryBody := by
  induction turns with
  | nil => rfl
  | cons turn rest ih =>
    rw [foldSummary_cons, appendSummaryLine_saturated saturated]
    exact ih

theorem foldSummary_grows (summaryBudgetChars : Nat) (summaryBody : String)
    (turns : List PromptWindowTurn) :
    summaryBody.utf8ByteSize <=
      (foldSummary summaryBudgetChars summaryBody turns).utf8ByteSize := by
  induction turns generalizing summaryBody with
  | nil => exact Nat.le_refl _
  | cons turn rest ih =>
    exact Nat.le_trans appendSummaryLine_grows (ih _)

theorem foldSummary_ne_empty (nonempty : summaryBody ≠ "") {turns : List PromptWindowTurn} :
    foldSummary summaryBudgetChars summaryBody turns ≠ "" := by
  intro empty
  have grown := foldSummary_grows summaryBudgetChars summaryBody turns
  rw [empty, String.utf8ByteSize_empty] at grown
  exact nonempty (String.utf8ByteSize_eq_zero_iff.mp (Nat.le_zero.mp grown))

example : appendSummaryLine 20 "- user: hi" "assistant" "hello  there" =
    "- user: hi\n- assista" := by decide

end LoongClaw.Memory
