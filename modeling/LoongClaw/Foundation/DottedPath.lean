import Mathlib.Data.List.Infix
import Mathlib.Data.List.Basic

namespace LoongClaw.Foundation

/-!
# Relative paths as texts

The components of a path text are what stands between its slashes; one slash
at the end is not a component boundary.  Resolving a path drops empty
components and those that stay in place, and lets each step up cancel the
component before it.  Steps up at the front remain.
-/

namespace DottedPath

/-! ## Splitting -/

section Split

variable {α : Type} [DecidableEq α] {separator : α}

theorem not_mem_of_mem_splitOn {items piece : List α}
    (member : piece ∈ items.splitOn separator) : separator ∉ piece := by
  induction items generalizing piece with
  | nil =>
    rw [List.mem_singleton.mp member]
    exact List.not_mem_nil
  | cons item rest ih =>
    rw [List.splitOn_cons_eq_if_modifyHead] at member
    split at member
    · rcases List.mem_cons.mp member with isEmpty | later
      · rw [isEmpty]
        exact List.not_mem_nil
      · exact ih later
    · case isFalse different =>
        cases pieces : rest.splitOn separator with
        | nil => exact absurd pieces (List.splitOn_ne_nil separator rest)
        | cons first others =>
          rw [pieces] at member ih
          rcases List.mem_cons.mp member with isFirst | later
          · rw [isFirst, List.mem_cons, not_or]
            exact ⟨fun same => different (beq_iff_eq.mpr same.symm), ih List.mem_cons_self⟩
          · exact ih (List.mem_cons_of_mem first later)

variable {first second : List α}

theorem splitOn_injective (same : first.splitOn separator = second.splitOn separator) :
    first = second := by
  have joined : [separator].intercalate (first.splitOn separator) = first :=
    List.intercalate_splitOn separator
  rw [same, List.intercalate_splitOn] at joined
  exact joined.symm

/-- The pieces of one text start those of another exactly when the text does,
up to a separator. -/
theorem splitOn_prefix_iff : first.splitOn separator <+: second.splitOn separator ↔
      second = first \/ ∃ rest, second = first ++ separator :: rest := by
  constructor
  · rintro ⟨pieces, continues⟩
    by_cases isEmpty : pieces = []
    · left
      rw [isEmpty, List.append_nil] at continues
      exact (splitOn_injective continues).symm
    · right
      have free : ∀ piece, piece ∈ pieces -> separator ∉ piece := by
        intro piece member
        have inSecond : piece ∈ second.splitOn separator := by
          rw [<- continues]
          exact List.mem_append_right _ member
        exact not_mem_of_mem_splitOn inSecond
      have splits : second.splitOn separator =
          (first ++ separator :: [separator].intercalate pieces).splitOn separator := by
        rw [List.splitOn_append_cons_self, List.splitOn_intercalate separator free isEmpty]
        exact continues.symm
      exact ⟨[separator].intercalate pieces, splitOn_injective splits⟩
  · rintro (same | ⟨rest, continues⟩)
    · rw [same]
    · rw [continues, List.splitOn_append_cons_self]
      exact List.prefix_append _ _

end Split

/-! ## Components -/

/-- A text without one slash at its end. -/
def stem (text : List Char) : List Char :=
  if text.getLast? = some '/' then text.dropLast else text

def components (text : List Char) : List (List Char) :=
  if text = [] then [] else (stem text).splitOn '/'

def render (parts : List (List Char)) : List Char :=
  ['/'].intercalate parts

theorem stem_slash {text : List Char} : stem (text ++ ['/']) = text := by
  unfold stem
  rw [if_pos List.getLast?_concat, List.dropLast_concat]

variable {text path component : List Char} {parts : List (List Char)}

theorem stem_of_no_slash (noSlash : text.getLast? ≠ some '/') : stem text = text := by
  unfold stem
  rw [if_neg noSlash]

theorem eq_stem_slash (slash : text.getLast? = some '/') : text = stem text ++ ['/'] := by
  unfold stem
  rw [if_pos slash]
  exact (List.dropLast_append_getLast? '/' slash).symm

theorem stem_append {front rest : List Char} (nonempty : rest ≠ []) :
    stem (front ++ '/' :: rest) = front ++ '/' :: stem rest := by
  have last : (front ++ '/' :: rest).getLast? = rest.getLast? := by
    rw [List.getLast?_append_of_ne_nil _ (List.cons_ne_nil _ _),
      List.getLast?_cons_of_ne_nil nonempty]
  unfold stem
  rw [last, List.dropLast_append_of_ne_nil (List.cons_ne_nil _ _),
    List.dropLast_cons_of_ne_nil nonempty]
  split_ifs <;> rfl

/-- Below a text, or the text itself, up to one slash at its end. -/
def Covers (text path : List Char) : Prop :=
  text ≠ [] /\ (path = stem text \/ ∃ rest, path = stem text ++ '/' :: rest)

theorem covers_self (nonempty : text ≠ []) : Covers text text := by
  refine ⟨nonempty, ?_⟩
  by_cases slash : text.getLast? = some '/'
  · exact Or.inr ⟨[], eq_stem_slash slash⟩
  · exact Or.inl (stem_of_no_slash slash).symm

/-- A path whose components start with those of the text is covered by it. -/
theorem covers_of_components_prefix (nonempty : text ≠ [])
    (starts : components text <+: components path) : Covers text path := by
  refine ⟨nonempty, ?_⟩
  unfold components at starts
  rw [if_neg nonempty] at starts
  by_cases noPath : path = []
  · rw [if_pos noPath, List.prefix_nil] at starts
    exact absurd starts (List.splitOn_ne_nil '/' _)
  rw [if_neg noPath] at starts
  have below := splitOn_prefix_iff.mp starts
  by_cases slash : path.getLast? = some '/'
  · right
    have isPath := eq_stem_slash slash
    rcases below with same | ⟨rest, continues⟩
    · rw [same] at isPath
      exact ⟨[], isPath⟩
    · rw [continues, List.append_assoc] at isPath
      exact ⟨rest ++ ['/'], isPath⟩
  · rw [stem_of_no_slash slash] at below
    exact below

/-- Conversely, unless the path is the text up to a slash and ends in another
slash itself. -/
theorem components_prefix_of_covers (noSlash : path = stem text -> path.getLast? ≠ some '/')
    (noPath : path ≠ []) (covers : Covers text path) : components text <+: components path := by
  unfold components
  rw [if_neg covers.1, if_neg noPath, splitOn_prefix_iff]
  rcases covers.2 with same | ⟨rest, continues⟩
  · rw [stem_of_no_slash (noSlash same)]
    exact .inl same
  · by_cases isEmpty : rest = []
    · rw [continues, isEmpty, stem_slash]
      exact .inl rfl
    · exact .inr ⟨stem rest, by rw [continues, stem_append isEmpty]⟩

/-! ## Resolution -/

def up : List Char :=
  ['.', '.']

/-- One component, on top of the resolved ones before it. -/
def resolveStep (resolved : List (List Char)) (component : List Char) : List (List Char) :=
  if component = [] \/ component = ['.'] then resolved
  else if component = up then
    if resolved = [] \/ resolved.getLast? = some up then resolved ++ [up] else resolved.dropLast
  else resolved ++ [component]

def resolve (parts : List (List Char)) : List (List Char) :=
  parts.foldl resolveStep []

theorem resolveStep_length (resolved : List (List Char)) (component : List Char) :
    (resolveStep resolved component).length <= resolved.length + 1 := by
  unfold resolveStep
  split_ifs
  · omega
  · rw [List.length_append, List.length_singleton]
  · rw [List.length_dropLast]
    omega
  · rw [List.length_append, List.length_singleton]

theorem foldl_resolveStep_length (parts resolved : List (List Char)) :
    (parts.foldl resolveStep resolved).length <= resolved.length + parts.length := by
  induction parts generalizing resolved with
  | nil => exact Nat.le_refl _
  | cons component rest ih =>
    have step := resolveStep_length resolved component
    have run := ih (resolveStep resolved component)
    rw [List.foldl_cons, List.length_cons]
    omega

/-- A resolved path has at most the components of the path. -/
theorem resolve_length {parts : List (List Char)} : (resolve parts).length <= parts.length := by
  have bound := foldl_resolveStep_length parts []
  rw [List.length_nil, Nat.zero_add] at bound
  exact bound

/-- The components are names or steps up. -/
def Proper (parts : List (List Char)) : Prop :=
  ∀ component, component ∈ parts -> component ≠ [] /\ '/' ∉ component

/-- Resolution only drops components, the empty ones among them. -/
theorem mem_resolve : ∀ component, component ∈ resolve parts ->
    component ∈ parts /\ component ≠ [] := by
  refine List.foldlRecOn (motive := fun resolved => ∀ component, component ∈ resolved ->
    component ∈ parts /\ component ≠ []) parts resolveStep nofun ?_
  intro resolved kept component member
  have snoc : component ≠ [] -> ∀ part, part ∈ resolved ++ [component] ->
      part ∈ parts /\ part ≠ [] := fun nonempty =>
    List.forall_mem_append.mpr ⟨kept, List.forall_mem_singleton.mpr ⟨member, nonempty⟩⟩
  unfold resolveStep
  split_ifs with stays isUp keeps
  · exact kept
  · rw [isUp] at snoc
    exact snoc (by decide)
  · intro part earlier
    exact kept part (List.mem_of_mem_dropLast earlier)
  · exact snoc fun isEmpty => stays (Or.inl isEmpty)

theorem proper_resolve (noSlash : ∀ component, component ∈ parts -> '/' ∉ component) :
    Proper (resolve parts) := by
  intro component member
  rcases mem_resolve component member with ⟨kept, nonempty⟩
  exact ⟨nonempty, noSlash component kept⟩

/-! ## Resolved texts -/

theorem components_no_slash {text : List Char} (member : component ∈ components text) :
    '/' ∉ component := by
  unfold components at member
  split_ifs at member
  · cases member
  · exact not_mem_of_mem_splitOn member

theorem mem_render_iff {c : Char} (different : c ≠ '/') :
    c ∈ render parts ↔ ∃ component, component ∈ parts /\ c ∈ component := by
  unfold render
  induction parts with
  | nil => simp
  | cons first rest ih =>
    cases rest with
    | nil => simp
    | cons second others =>
      rw [List.intercalate_cons_cons]
      simp [different, ih]

/-- Resolution brings no characters but slashes. -/
theorem mem_of_mem_render_resolve {c : Char} (different : c ≠ '/')
    (member : c ∈ render (resolve (components text))) : c ∈ text := by
  rcases (mem_render_iff different).mp member with ⟨component, kept, inComponent⟩
  have joined : c ∈ render (components text) :=
    (mem_render_iff different).mpr ⟨component, (mem_resolve component kept).1, inComponent⟩
  unfold components at joined
  split_ifs at joined
  · cases joined
  · rw [render, List.intercalate_splitOn] at joined
    unfold stem at joined
    split_ifs at joined
    · exact List.mem_of_mem_dropLast joined
    · exact joined

theorem splitOn_render (proper : Proper parts) (nonempty : parts ≠ []) :
    (render parts).splitOn '/' = parts :=
  List.splitOn_intercalate '/' (fun component member => (proper component member).2) nonempty

/-- The text of proper components does not end in a slash. -/
theorem render_getLast (proper : Proper parts) : (render parts).getLast? ≠ some '/' := by
  intro slash
  by_cases isEmpty : parts = []
  · rw [isEmpty] at slash
    cases slash
  · have splits := splitOn_render proper isEmpty
    rw [eq_stem_slash slash, List.splitOn_append_cons_self] at splits
    -- what follows the last slash is an empty component
    have last : [] ∈ parts := by
      rw [<- splits]
      exact List.mem_append_right _ List.mem_cons_self
    exact (proper [] last).1 rfl

theorem components_render (proper : Proper parts) : components (render parts) = parts := by
  by_cases isEmpty : parts = []
  · rw [isEmpty]
    rfl
  · have splits := splitOn_render proper isEmpty
    have nonempty : render parts ≠ [] := by
      intro noText
      rw [noText] at splits
      have only : parts = [[]] := splits.symm
      rw [only] at proper
      exact (proper [] List.mem_cons_self).1 rfl
    unfold components
    rw [if_neg nonempty, stem_of_no_slash (render_getLast proper), splits]

/-- A text that does not end in a slash is that of its components. -/
theorem render_components (noSlash : text.getLast? ≠ some '/') :
    render (components text) = text := by
  unfold components
  split_ifs with isEmpty
  · rw [isEmpty]
    rfl
  · rw [stem_of_no_slash noSlash]
    exact List.intercalate_splitOn '/'

end DottedPath

end LoongClaw.Foundation
