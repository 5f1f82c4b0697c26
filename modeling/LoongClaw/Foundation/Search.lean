import Mathlib.Data.List.Basic
import Mathlib.Order.Basic

namespace LoongClaw.Foundation

/-!
# Searches through ordered candidates

A search looks at candidates one after the other and ends with the first hit.
`tried` lists the candidates it looks at.
-/

namespace Search

universe u

variable {α : Type u} (hit : α -> Bool)

/-- The candidates up to the first hit, with the hit. -/
def tried : List α -> List α
  | [] => []
  | candidate :: rest => if hit candidate then [candidate] else candidate :: tried rest

variable {hit} {candidate : α} {first candidates : List α}

theorem tried_cons_hit (found : hit candidate = true) (rest : List α) :
    tried hit (candidate :: rest) = [candidate] := by
  unfold tried
  rw [if_pos found]

theorem tried_cons_miss (missed : hit candidate = false) (rest : List α) :
    tried hit (candidate :: rest) = candidate :: tried hit rest := by
  rw [tried, if_neg (Bool.eq_false_iff.mp missed)]

theorem tried_append_of_misses (missed : ∀ candidate, candidate ∈ first -> hit candidate = false)
    (second : List α) :
    tried hit (first ++ second) = first ++ tried hit second := by
  induction first with
  | nil => rfl
  | cons candidate rest ih =>
    rw [List.cons_append, tried_cons_miss (missed candidate List.mem_cons_self),
      ih fun other member => missed other (List.mem_cons_of_mem candidate member),
      List.cons_append]

theorem tried_append_of_hit (member : candidate ∈ first) (found : hit candidate = true)
    (second : List α) : tried hit (first ++ second) = tried hit first := by
  induction first with
  | nil => cases member
  | cons other rest ih =>
    cases decided : hit other with
    | true => rw [List.cons_append, tried_cons_hit decided, tried_cons_hit decided]
    | false =>
      rcases List.mem_cons.mp member with same | later
      · rw [<- same, found] at decided
        cases decided
      · rw [List.cons_append, tried_cons_miss decided, tried_cons_miss decided, ih later]

/-- The candidates looked at come first. -/
theorem tried_initial {candidates : List α} : tried hit candidates <+: candidates := by
  induction candidates with
  | nil => exact List.prefix_rfl
  | cons candidate rest ih =>
    cases decided : hit candidate with
    | true =>
      rw [tried_cons_hit decided]
      exact ⟨rest, rfl⟩
    | false =>
      rw [tried_cons_miss decided]
      exact (List.prefix_cons_inj candidate).mpr ih

theorem tried_of_misses (missed : ∀ candidate, candidate ∈ candidates -> hit candidate = false) :
    tried hit candidates = candidates := by
  have whole := tried_append_of_misses missed []
  rw [List.append_nil] at whole
  exact whole.trans (List.append_nil candidates)

/-- If the candidates stand in an order, the search looks at those that have no
hit before them. -/
theorem mem_tried_iff {β : Type u} [Preorder β] {position : α -> β}
    (ordered : candidates.Pairwise fun first second => position first < position second) :
    candidate ∈ tried hit candidates ↔ candidate ∈ candidates /\
      ∀ other, other ∈ candidates -> position other < position candidate -> hit other = false := by
  induction candidates with
  | nil => exact iff_of_false nofun fun found => nomatch found.1
  | cons first rest ih =>
    rcases List.pairwise_cons.mp ordered with ⟨ahead, ordered⟩
    have initial : ∀ other, other ∈ first :: rest -> ¬ position other < position first :=
      List.forall_mem_cons.mpr
        ⟨lt_irrefl _, fun other member back => lt_asymm back (ahead other member)⟩
    cases decided : hit first with
    | true =>
      rw [tried_cons_hit decided, List.mem_singleton]
      constructor
      · rintro rfl
        exact ⟨List.mem_cons_self, fun other member back => absurd back (initial other member)⟩
      · rintro ⟨member, misses⟩
        refine (List.mem_cons.mp member).resolve_right fun later => ?_
        rw [misses first List.mem_cons_self (ahead candidate later)] at decided
        cases decided
    | false =>
      rw [tried_cons_miss decided, List.mem_cons, List.mem_cons, ih ordered, List.forall_mem_cons]
      constructor
      · rintro (rfl | ⟨later, misses⟩)
        · exact ⟨.inl rfl, fun _ => decided, fun other member back =>
            absurd back (initial other (List.mem_cons_of_mem _ member))⟩
        · exact ⟨.inr later, fun _ => decided, misses⟩
      · rintro ⟨same | later, _, misses⟩
        · exact .inl same
        · exact .inr ⟨later, misses⟩

end Search

end LoongClaw.Foundation
