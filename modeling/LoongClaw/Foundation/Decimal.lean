import Mathlib.Data.List.Basic

namespace LoongClaw.Foundation

/-!
# Unsigned numbers in decimal

How the host language reads an unsigned number of a bounded type, with the
texts of its errors.  A number that is read back from its own decimal text is
that number, unless it is too large for the type.
-/

namespace Decimal

def digitValue (digit : Char) : Nat :=
  digit.toNat - '0'.toNat

def readDigits (limit : Nat) : List Char -> Nat -> Except String Nat
  | [], value => .ok value
  | digit :: rest, value =>
    if digit.isDigit = false then .error "invalid digit found in string"
    else if limit < 10 * value + digitValue digit then
      .error "number too large to fit in target type"
    else readDigits limit rest (10 * value + digitValue digit)

/-- A leading plus sign is read over, unless it stands alone. -/
def parse (limit : Nat) (text : String) : Except String Nat :=
  match text.toList with
  | [] => .error "cannot find integer in empty string"
  | ['+'] => .error "invalid digit found in string"
  | '+' :: digits => readDigits limit digits 0
  | digits => readDigits limit digits 0

variable {limit result : Nat}

theorem readDigits_ok {digits : List Char} {value : Nat}
    (read : readDigits limit digits value = .ok result) :
    result = Nat.ofDigitChars 10 digits value := by
  induction digits generalizing value with
  | nil =>
    cases read
    rfl
  | cons digit rest ih =>
    unfold readDigits at read
    split at read
    · cases read
    split at read
    · cases read
    exact ih read

theorem toString_toList (number : Nat) : (toString number).toList = Nat.toDigits 10 number := by
  simp [toString, Nat.repr]

theorem parse_toString {number : Nat} (parsed : parse limit (toString number) = .ok result) :
    result = number := by
  have digits := toString_toList number
  have plain : ∀ rest, Not (Nat.toDigits 10 number = '+' :: rest) := by
    intro rest signed
    have digit := @Nat.isDigit_of_mem_toDigits 10 number '+' (by decide) (by decide)
      (signed ▸ List.mem_cons_self)
    cases digit
  unfold parse at parsed
  rw [digits] at parsed
  split at parsed
  · cases parsed
  · cases parsed
  · rename_i rest _ signed
    exact absurd signed (plain rest)
  · rw [readDigits_ok parsed]
    exact Nat.ofDigitChars_toDigits (by decide) (by decide)

end Decimal

end LoongClaw.Foundation
