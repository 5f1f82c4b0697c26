import Mathlib.Algebra.Group.Nat.Defs

namespace LoongClaw.Foundation

/-!
# Fixed-width lower-case hexadecimal

`fixedHex width n` writes the last `width` hexadecimal digits of `n`, most
significant first.  On numbers below `16 ^ width` the text determines the
number, and the lexicographic order of the texts is the order of the numbers.
-/

namespace Hex

/-- One lower-case digit. -/
def digit (n : Nat) : Char :=
  if n < 10 then Char.ofNat (48 + n) else Char.ofNat (87 + n)

def fixedHex : Nat -> Nat -> List Char
  | 0, _ => []
  | width + 1, n => fixedHex width (n / 16) ++ [digit (n % 16)]

theorem fixedHex_length {width n : Nat} : (fixedHex width n).length = width := by
  induction width generalizing n with
  | zero => rfl
  | succ width ih => simp [fixedHex, ih]

variable {width first second : Nat}

theorem fixedHex_digits {n : Nat} {c : Char} (member : c ∈ fixedHex width n) :
    ∃ value, value < 16 /\ c = digit value := by
  induction width generalizing n with
  | zero => cases member
  | succ width ih =>
    rcases List.mem_append.mp member with earlier | last
    · exact ih earlier
    · exact ⟨n % 16, Nat.mod_lt n (by decide), List.mem_singleton.mp last⟩

theorem digit_lt_digit (less : first < second) (bound : second < 16) :
    digit first < digit second := by
  have pairs : ∀ a : Fin 16, ∀ b : Fin 16, a.val < b.val -> digit a.val < digit b.val := by
    decide
  exact pairs ⟨first, Nat.lt_trans less bound⟩ ⟨second, bound⟩ less

/-- A strict lexicographic comparison of equally long texts is decided
before either text ends, so it survives any continuations. -/
theorem append_lt_append {first second : List Char} (less : first < second)
    (sameLength : first.length = second.length) (left right : List Char) :
    first ++ left < second ++ right := by
  induction first generalizing second with
  | nil =>
    cases second with
    | nil => exact absurd less (List.lt_irrefl [])
    | cons _ _ => cases sameLength
  | cons head tail ih =>
    cases second with
    | nil => cases sameLength
    | cons head' tail' =>
      rcases List.cons_lt_cons_iff.mp less with smaller | ⟨same, rest⟩
      · exact List.cons_lt_cons_iff.mpr (Or.inl smaller)
      · exact List.cons_lt_cons_iff.mpr (Or.inr ⟨same, ih rest (Nat.succ.inj sameLength)⟩)

/-- Below `16 ^ width` the order of the texts is the order of the numbers. -/
theorem fixedHex_lt (less : first < second) (bound : second < 16 ^ width) :
    fixedHex width first < fixedHex width second := by
  induction width generalizing first second with
  | zero => exact absurd bound (by omega)
  | succ width ih =>
    have quotientBound : second / 16 < 16 ^ width := by
      apply Nat.div_lt_of_lt_mul
      omega
    rw [fixedHex, fixedHex]
    by_cases same : first / 16 = second / 16
    · rw [same]
      apply List.append_left_lt
      apply List.cons_lt_cons_iff.mpr
      exact Or.inl (digit_lt_digit (by omega) (Nat.mod_lt _ (by omega)))
    · apply append_lt_append
      · exact ih (by omega) quotientBound
      · rw [fixedHex_length, fixedHex_length]

theorem fixedHex_injective (firstBound : first < 16 ^ width) (secondBound : second < 16 ^ width)
    (same : fixedHex width first = fixedHex width second) : first = second := by
  rcases Nat.lt_trichotomy first second with less | equal | greater
  · have strict := fixedHex_lt less secondBound
    rw [same] at strict
    exact absurd strict (List.lt_irrefl _)
  · exact equal
  · have strict := fixedHex_lt greater firstBound
    rw [same] at strict
    exact absurd strict (List.lt_irrefl _)

end Hex

end LoongClaw.Foundation
