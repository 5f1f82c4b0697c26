namespace LoongClaw.Foundation

/-!
# File paths

A path is absolute or relative and a list of steps.  The step `here` stands
for a dot and for a trailing separator; repeated separators carry no
information and are not kept.  The operations are those of the host
language's path type on a POSIX system.
-/

inductive PathStep where
  | here
  | parent
  | name (text : String)
  deriving DecidableEq

structure Path where
  absolute : Bool
  steps : List PathStep
  deriving DecidableEq

/-- The normalized pieces on which path comparisons work. -/
inductive PathComponent where
  | rootDir
  | curDir
  | parentDir
  | normal (text : String)
  deriving DecidableEq

namespace PathStep

def ofSegment (segment : List Char) : PathStep :=
  if segment = ['.'] then .here
  else if segment = ['.', '.'] then .parent
  else .name (String.ofList segment)

def text : PathStep -> String
  | here => "."
  | parent => ".."
  | name text => text

/-- The component of a step that is not the first one. -/
def component : PathStep -> Option PathComponent
  | here => none
  | parent => some .parentDir
  | name text => some (.normal text)

end PathStep

/-- A name as a file system has it. -/
structure ProperName (name : String) : Prop where
  nonempty : name ≠ ""
  noSeparator : '/' ∉ name.toList
  notHere : name ≠ "."
  notParent : name ≠ ".."

theorem ProperName.ofSegment {name : String} (proper : ProperName name) :
    PathStep.ofSegment name.toList = .name name := by
  have here : name.toList ≠ ['.'] := fun same => proper.notHere (String.toList_inj.mp same)
  have parent : name.toList ≠ ['.', '.'] := fun same => proper.notParent (String.toList_inj.mp same)
  unfold PathStep.ofSegment
  rw [if_neg here, if_neg parent, String.ofList_toList]

namespace Path

/-- Steps between separators.  An empty last segment is a trailing separator. -/
def stepsOfSegments : List (List Char) -> List PathStep
  | [] => []
  | [last] => if last = [] then [.here] else [PathStep.ofSegment last]
  | segment :: rest =>
    if segment = [] then stepsOfSegments rest
    else PathStep.ofSegment segment :: stepsOfSegments rest

def ofString (raw : String) : Path :=
  if raw = "" then { absolute := false, steps := [] }
  else
    { absolute := raw.toList.head? == some '/'
      steps := stepsOfSegments (raw.toList.splitOn '/') }

/-- The absolute path with the given names. -/
def ofNames (names : List String) : Path where
  absolute := true
  steps := names.map .name

variable (path : Path)

/-- The names among the steps. -/
def names : List String :=
  path.steps.filterMap (fun step =>
    match step with
    | .name text => some text
    | _ => none)

def display : String :=
  (if path.absolute then "/" else "") ++ "/".intercalate (path.steps.map PathStep.text)

def isAbsolute : Bool :=
  path.absolute

/-- A leading dot of a relative path is a component; every other dot is not. -/
def components : List PathComponent :=
  if path.absolute then .rootDir :: path.steps.filterMap PathStep.component
  else
    match path.steps with
    | .here :: rest => .curDir :: rest.filterMap PathStep.component
    | steps => steps.filterMap PathStep.component

/-- The path with the given components. -/
def ofComponents : List PathComponent -> Path
  | .rootDir :: rest => { absolute := true, steps := rest.map stepOf }
  | components => { absolute := false, steps := components.map stepOf }
where
  stepOf : PathComponent -> PathStep
    | .rootDir => .here
    | .curDir => .here
    | .parentDir => .parent
    | .normal text => .name text

/-- An absolute second path replaces the first one. -/
def join (other : Path) : Path :=
  if other.absolute then other
  else if path.absolute = false /\ path.steps = [] then other
  else
    { path with
      steps := path.steps ++ (if other.steps = [] then [.here] else other.steps) }

def parent? (path : Path) : Option Path :=
  match path.components.getLast? with
  | none => none
  | some .rootDir => none
  | some _ => some (ofComponents path.components.dropLast)

def fileName? (path : Path) : Option String :=
  match path.components.getLast? with
  | some (.normal text) => some text
  | _ => none

def startsWith (base : Path) : Bool :=
  base.components.isPrefixOf path.components

section

variable (names : List String)

include names

theorem components_ofNames : (ofNames names).components = .rootDir :: names.map .normal := by
  have each : names.filterMap (PathStep.component ∘ PathStep.name) = names.map .normal := by
    rw [<- List.filterMap_eq_map]
    rfl
  unfold components ofNames
  rw [if_pos rfl, List.filterMap_map, each]

theorem names_ofNames : (ofNames names).names = names := by
  unfold Path.names ofNames
  rw [List.filterMap_map]
  exact List.filterMap_some

variable (name : String)

theorem components_ofNames_snoc :
    (ofNames (names ++ [name])).components = (ofNames names).components ++ [.normal name] := by
  rw [components_ofNames, components_ofNames, List.map_append]
  rfl

theorem fileName_ofNames : (ofNames (names ++ [name])).fileName? = some name := by
  unfold fileName?
  rw [components_ofNames_snoc, List.getLast?_concat]

theorem parent_ofNames : (ofNames (names ++ [name])).parent? = some (ofNames names) := by
  unfold parent?
  rw [components_ofNames_snoc, List.getLast?_concat]
  rw [List.dropLast_concat, components_ofNames]
  unfold ofComponents ofNames
  dsimp only
  rw [List.map_map]
  rfl

theorem join_ofNames : (ofNames names).join { absolute := false, steps := [.name name] } =
      ofNames (names ++ [name]) := by
  simp [join, ofNames]

end

/-- No component of a relative path is the root directory. -/
theorem rootDir_not_mem_components {path : Path} (relative : path.absolute = false) :
    PathComponent.rootDir ∉ path.components := by
  have noRoot : ∀ steps : List PathStep,
      PathComponent.rootDir ∉ steps.filterMap PathStep.component := by
    intro steps member
    rcases List.mem_filterMap.mp member with ⟨step, _, isRoot⟩
    cases step <;> cases isRoot
  unfold components
  rw [if_neg (by simp [relative])]
  split
  · exact List.not_mem_cons_of_ne_of_not_mem nofun (noRoot _)
  · exact noRoot _

/-! ## Texts of paths -/

theorem stepsOfSegments_names {names : List String}
    (proper : ∀ name, name ∈ names -> ProperName name) :
    stepsOfSegments (names.map String.toList) = names.map .name := by
  induction names with
  | nil => rfl
  | cons name rest ih =>
    have properName := proper name List.mem_cons_self
    have nonempty : name.toList ≠ [] := fun empty =>
      properName.nonempty (String.toList_inj.mp empty)
    have others := ih fun other member => proper other (List.mem_cons_of_mem _ member)
    cases rest with
    | nil =>
      simp only [List.map_cons, List.map_nil, stepsOfSegments, if_neg nonempty,
        properName.ofSegment]
    | cons second more =>
      simp only [List.map_cons] at others ⊢
      rw [stepsOfSegments, if_neg nonempty, properName.ofSegment, others]
      nofun

/-- The text of an absolute path without dots stands for that path. -/
theorem ofString_display_ofNames {names : List String} (nonempty : names ≠ [])
    (proper : ∀ name, name ∈ names -> ProperName name) :
    ofString (ofNames names).display = ofNames names := by
  rcases List.exists_cons_of_ne_nil nonempty with ⟨name, rest, rfl⟩
  generalize whole : name :: rest = names at *
  have chars : (ofNames names).display.toList =
      ['/'].intercalate ([] :: names.map String.toList) := by
    unfold display ofNames
    have texts : (names.map PathStep.name).map PathStep.text = names := by
      rw [List.map_map]
      exact List.map_id names
    rw [texts, <- whole]
    simp [String.toList_append, String.toList_intercalate, List.intercalate_cons_cons]
  have segments : (ofNames names).display.toList.splitOn '/' = [] :: names.map String.toList := by
    rw [chars]
    refine List.splitOn_intercalate '/' ?_ (by simp)
    intro segment member
    rcases List.mem_cons.mp member with rfl | inNames
    · simp
    · rcases List.mem_map.mp inNames with ⟨name, isName, rfl⟩
      exact (proper name isName).noSeparator
  have begins : (ofNames names).display.toList.head? = some '/' := by
    unfold display ofNames
    rw [if_pos rfl, String.toList_append]
    rfl
  have notEmpty : (ofNames names).display ≠ "" := by
    intro empty
    rw [empty] at begins
    cases begins
  unfold ofString
  have steps := stepsOfSegments_names proper
  rw [if_neg notEmpty, begins, segments, stepsOfSegments, if_pos rfl, steps]
  · rfl
  · rw [<- whole]
    nofun

end Path

end LoongClaw.Foundation
