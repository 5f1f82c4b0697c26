import LoongClaw.Foundation.Attempt
import LoongClaw.Foundation.FileTree
import LoongClaw.Tools.RuntimeConfig

namespace LoongClaw.Tools

open Foundation Fallible FileSystem Path FileTree

/-!
# Paths of file tools

How a path of a file tool is confined to the configured root, and what
reading and writing the confined path touches.  The check resolves the longest
existing part of the path and appends the rest as it is.  That is safe except
where the rest starts with a link: one to something that does not exist yet,
which writing creates, or one that cannot be followed because the way to it has
used up the links that the system follows, which a fresh start does not.
-/

/-! ## Lexical normalization -/

def normalizeStep (hasRoot : Bool) (parts : List PathStep) : PathComponent -> List PathStep
  | .rootDir => parts
  | .curDir => parts
  | .parentDir =>
    match parts.getLast? with
    | some last =>
      if last ≠ .parent then parts.dropLast
      else if hasRoot then parts
      else parts ++ [.parent]
    | none => if hasRoot then parts else parts ++ [.parent]
  | .normal value => parts ++ [.name value]

def normalizeWithoutFs (path : Path) : Path :=
  let parts := path.components.foldl (normalizeStep path.absolute) []
  if path.absolute = false /\ parts = [] then { absolute := false, steps := [.here] }
  else { absolute := path.absolute, steps := parts }

/-! ## Confining a path -/

section

variable (fs : FileSystem) (path : Path)

def canonicalizeOrFallback : Except String Path :=
  if fs.pathExists path then
    match fs.canonicalize path with
    | .ok canonical => .ok canonical
    | .error error => .error ("failed to canonicalize " ++ path.display ++ ": " ++ error)
  else .ok (normalizeWithoutFs path)

def ensurePathWithinRoot (root path : Path) : Except String Unit :=
  if path.startsWith root then .ok ()
  else
    .error ("policy_denied: file path " ++ path.display ++ " escapes configured file root " ++
      root.display)

/-- Drop names from the end until what is left exists.  The fuel is the number
of components, one of which each round removes. -/
def splitExistingAncestorLoop (fs : FileSystem) (path : Path) :
    Nat -> Path -> List String -> Except String (Path × List String)
  | 0, _, _ => .error ("cannot resolve existing ancestor for " ++ path.display)
  | fuel + 1, cursor, suffix =>
    if fs.pathExists cursor then .ok (cursor, suffix)
    else
      match cursor.fileName?, cursor.parent? with
      | some name, some parent =>
        splitExistingAncestorLoop fs path fuel parent (name :: suffix)
      | _, _ => .error ("cannot resolve existing ancestor for " ++ path.display)

def splitExistingAncestor : Except String (Path × List String) :=
  splitExistingAncestorLoop fs path (path.components.length + 1) path []

def pushName (name : String) : Path :=
  path.join { absolute := false, steps := [.name name] }

def resolvePathWithinRoot (root normalized : Path) : Except String Path := do
  ensurePathWithinRoot root normalized
  if fs.pathExists normalized then
    let canonical <- (fs.canonicalize normalized).mapError (fun error =>
      "failed to canonicalize target file path " ++ normalized.display ++ ": " ++ error)
    ensurePathWithinRoot root canonical
    return canonical
  else
    let (ancestor, suffix) <- splitExistingAncestor fs normalized
    let canonicalAncestor <- (fs.canonicalize ancestor).mapError (fun error =>
      "failed to canonicalize ancestor " ++ ancestor.display ++ ": " ++ error)
    ensurePathWithinRoot root canonicalAncestor
    let reconstructed := suffix.foldl pushName canonicalAncestor
    ensurePathWithinRoot root reconstructed
    return reconstructed

/-- The path of a request below the root, lexically normalized. -/
def normalizedTarget (root candidate : Path) : Path :=
  normalizeWithoutFs (if candidate.isAbsolute then candidate else root.join candidate)

def resolveSafeFilePathWithConfig (raw : String) (config : ToolRuntimeConfig) :
    Except String Path := do
  let root <- canonicalizeOrFallback fs (config.fileRoot.getD (ofNames fs.cwd))
  resolvePathWithinRoot fs root (normalizedTarget root (ofString raw))

/-! ## What a confined path may touch -/

/-- The root that paths are confined to: the configured root without links, or
lexically normalized if it does not exist. -/
def canonicalRoot (config : ToolRuntimeConfig) : Path :=
  let root := config.fileRoot.getD (ofNames fs.cwd)
  match fs.resolve root with
  | some loc => ofNames loc
  | none => normalizeWithoutFs root

def Inside (root : Path) (loc : Location) : Prop :=
  (ofNames loc).startsWith root = true

instance (root : Path) (loc : Location) : Decidable (Inside root loc) :=
  inferInstanceAs (Decidable (_ = true))

/-- Every location that reading a path, writing it, or writing it after
creating its parent directories touches. -/
def fileTouches : List Location :=
  fs.readTouches path ++ fs.openTouches path ++ fs.createTouches path.names

/-- What names lead to from a directory when a file is read or written there:
the file itself or, where a directory is missing, everything that is created
from the first missing name on. -/
inductive Reaches (fs : FileSystem) (dir : Location) (names : List String) : Location -> Prop
  | opened {loc} (walked : fs.tree.walk true fs.linkLimit dir (names.map .name) = some loc) :
      Reaches fs dir names loc
  | created {part name rest last above loc} (split : names = part ++ name :: rest ++ [last])
      (walked : fs.tree.walk false fs.linkLimit dir (part.map .name) = some above)
      (isDirectory : fs.tree.node above = some .directory)
      (free : fs.tree.node (above ++ [name]) = none)
      (touched : loc ∈ below above (name :: rest ++ [last])) : Reaches fs dir names loc

/-- The first names of the path lead to a directory inside the root and the next
one is a link there that leads nowhere on this way.  Started from the directory,
the link and the names after it lead to something outside the root. -/
def EscapesThroughLink (root normalized : Path) : Prop :=
  normalized.startsWith root = true /\ ∃ front name more dir target loc,
    normalized = ofNames (front ++ name :: more) /\
    fs.resolve (ofNames front) = some dir /\ Inside root dir /\
    fs.resolve (ofNames (front ++ [name])) = none /\
    fs.tree.node (dir ++ [name]) = some (.link target) /\
    Reaches fs dir (name :: more) loc /\ ¬ Inside root loc

end

/-! ## Normalized paths -/

/-- Where a step leads by its text alone. -/
def lexicalStep (loc : Location) : PathStep -> Location
  | .here => loc
  | .parent => loc.dropLast
  | .name text => loc ++ [text]

/-- Where a path leads from a location by its text alone. -/
def lexicalResolution (path : Path) (start : Location) : Location :=
  path.steps.foldl lexicalStep (if path.absolute then [] else start)

/-- Steps up, none of them from the root, and then names. -/
def canonicalSteps (ups : Nat) (names : List String) : List PathStep :=
  List.replicate ups .parent ++ names.map .name

/-- The parts after one more step.  A dot changes nothing. -/
def partsAfter (absolute : Bool) (parts : List PathStep) (step : PathStep) : List PathStep :=
  step.component.elim parts (normalizeStep absolute parts)

variable {parts : List PathStep} {names : List String} {path root : Path} {dir loc : Location}
  {result : Path} {name : String} {front : List String} {normalized : Path}

section

variable {absolute : Bool}

theorem foldl_components : path.components.foldl (normalizeStep absolute) [] =
    path.steps.foldl (partsAfter absolute) [] := by
  have each : ∀ steps : List PathStep,
      (steps.filterMap PathStep.component).foldl (normalizeStep absolute) [] =
        steps.foldl (partsAfter absolute) [] := by
    intro steps
    rw [List.foldl_filterMap]
    congr 1
    funext parts step
    cases step <;> rfl
  unfold components
  split
  · exact each path.steps
  · split
    · case h_1 rest starts =>
      rw [starts]
      exact each rest
    · exact each path.steps

/-- A step keeps the form of the parts, and they lead where the step leads. -/
theorem partsAfter_canonical {ups : Nat} (rooted : absolute = true -> ups = 0) (step : PathStep) :
    ∃ ups' names', (absolute = true -> ups' = 0) /\
      partsAfter absolute (canonicalSteps ups names) step = canonicalSteps ups' names' /\
      ∀ start, lexicalResolution ⟨absolute, canonicalSteps ups' names'⟩ start =
        lexicalStep (lexicalResolution ⟨absolute, canonicalSteps ups names⟩ start) step := by
  cases step with
  | here => exact ⟨ups, names, rooted, rfl, fun _ => rfl⟩
  | name text =>
    refine ⟨ups, names ++ [text], rooted, ?_, ?_⟩
    · simp [partsAfter, PathStep.component, normalizeStep, canonicalSteps]
    · simp [lexicalResolution, lexicalStep, canonicalSteps]
  | parent =>
    rcases List.eq_nil_or_concat names with rfl | ⟨front, last, rfl⟩
    · cases absolute with
      | true =>
        cases rooted rfl
        exact ⟨0, [], rooted, rfl, fun _ => rfl⟩
      | false =>
        refine ⟨ups + 1, [], (absurd · Bool.false_ne_true), ?_, ?_⟩
        · cases ups <;> simp [partsAfter, PathStep.component, normalizeStep, canonicalSteps,
            List.getLast?_replicate, List.replicate_succ']
        · simp [lexicalResolution, lexicalStep, canonicalSteps, List.replicate_succ']
    · refine ⟨ups, front, rooted, ?_, ?_⟩
      · simp [partsAfter, PathStep.component, normalizeStep, canonicalSteps, <- List.append_assoc]
      · simp [lexicalResolution, lexicalStep, canonicalSteps]

theorem foldl_partsAfter (steps : List PathStep) :
    ∃ ups names, (absolute = true -> ups = 0) /\
      steps.foldl (partsAfter absolute) [] = canonicalSteps ups names /\
      ∀ start, lexicalResolution ⟨absolute, canonicalSteps ups names⟩ start =
        lexicalResolution ⟨absolute, steps⟩ start := by
  induction steps using List.reverseRecOn with
  | nil => exact ⟨0, [], fun _ => rfl, rfl, fun _ => rfl⟩
  | append_singleton steps step ih =>
    rcases ih with ⟨ups, names, rooted, same, leads⟩
    rcases partsAfter_canonical rooted step with ⟨ups', names', rooted', same', leads'⟩
    refine ⟨ups', names', rooted', ?_, fun start => ?_⟩
    · rw [List.foldl_append, same]
      exact same'
    · rw [leads' start, leads start]
      simp [lexicalResolution]

/-- Parts of the canonical form are the parts of their own path. -/
theorem foldl_partsAfter_canonicalSteps {ups : Nat} (rooted : absolute = true -> ups = 0) :
    (canonicalSteps ups names).foldl (partsAfter absolute) [] = canonicalSteps ups names := by
  have climbed : (List.replicate ups PathStep.parent).foldl (partsAfter absolute) [] =
      List.replicate ups .parent := by
    induction ups with
    | zero => rfl
    | succ ups ih =>
      cases absolute with
      | true => cases rooted rfl
      | false =>
        rw [List.replicate_succ', List.foldl_append, ih nofun]
        cases ups <;> simp [partsAfter, PathStep.component, normalizeStep, List.getLast?_replicate]
  unfold canonicalSteps
  rw [List.foldl_append, climbed]
  induction names using List.reverseRecOn with
  | nil => simp
  | append_singleton names name ih =>
    rw [List.map_append, List.foldl_append, ih]
    simp [partsAfter, PathStep.component, normalizeStep]

end

/-- The two forms of a normalized path: the canonical one, and a dot where a
relative path leads nowhere else. -/
inductive Normalized (path : Path) : Path -> Prop where
  | canonical {ups : Nat} {names : List String} (rooted : path.absolute = true -> ups = 0)
      (nonempty : path.absolute = false -> canonicalSteps ups names ≠ []) :
      Normalized path ⟨path.absolute, canonicalSteps ups names⟩
  | dot (relative : path.absolute = false) : Normalized path ⟨false, [.here]⟩

theorem normalizeWithoutFs_normalized (path : Path) :
    Normalized path (normalizeWithoutFs path) /\
      ∀ start, lexicalResolution (normalizeWithoutFs path) start =
        lexicalResolution path start := by
  rcases foldl_partsAfter path.steps with ⟨ups, names, rooted, same, leads⟩
  unfold normalizeWithoutFs
  rw [foldl_components, same]
  dsimp only
  split
  · case isTrue empty =>
    rw [empty.1, empty.2] at leads
    refine ⟨.dot empty.1, fun start => (leads start).trans ?_⟩
    rw [<- empty.1]
  · case isFalse nonempty =>
    exact ⟨.canonical rooted fun relative empty => nonempty ⟨relative, empty⟩, leads⟩

theorem normalizeWithoutFs_of_absolute (absolute : path.absolute = true) :
    ∃ names, normalizeWithoutFs path = ofNames names := by
  generalize same : normalizeWithoutFs path = result at *
  have form := (normalizeWithoutFs_normalized path).1
  rw [same] at form
  cases form with
  | canonical rooted =>
    cases rooted absolute
    rw [absolute]
    exact ⟨_, rfl⟩
  | dot relative => simp [relative] at absolute

theorem components_normalizeWithoutFs_ne_nil (relative : path.absolute = false) :
    (normalizeWithoutFs path).components ≠ [] := by
  have form := (normalizeWithoutFs_normalized path).1
  generalize normalizeWithoutFs path = result at form
  cases form with
  | @canonical ups names rooted nonempty =>
    have nonempty := nonempty relative
    rw [relative]
    cases ups with
    | succ ups => simp [components, canonicalSteps, List.replicate_succ, PathStep.component]
    | zero =>
      cases names with
      | nil => exact absurd rfl nonempty
      | cons name rest => simp [components, canonicalSteps, PathStep.component]
  | dot => simp [components]

/-- Normalization is lexical: the path leads where it led, it is a lone dot or
steps up and then names, with no step up from the root, and it is left alone by
another normalization. -/
theorem normalizeWithoutFs_lexical (path : Path) :
    Normalized path (normalizeWithoutFs path) /\
      (∀ start, lexicalResolution (normalizeWithoutFs path) start =
        lexicalResolution path start) /\
      normalizeWithoutFs (normalizeWithoutFs path) = normalizeWithoutFs path := by
  rcases normalizeWithoutFs_normalized path with ⟨form, leads⟩
  refine ⟨form, leads, ?_⟩
  generalize normalizeWithoutFs path = result at form
  cases form with
  | canonical rooted nonempty =>
    unfold normalizeWithoutFs
    rw [foldl_components, foldl_partsAfter_canonicalSteps rooted]
    exact if_neg fun empty => nonempty empty.1 empty.2
  | dot relative => rfl

/-- A relative path that comes back to where it starts is normalized to a dot. -/
theorem normalizeWithoutFs_returning :
    normalizeWithoutFs (ofString "a/..") = ofString "." /\
      PathComponent.curDir ∈ (normalizeWithoutFs (ofString "a/..")).components := by
  decide +kernel

/-! ## The root -/

theorem Inside.deeper (inside : Inside root dir) (isPrefix : dir <+: loc) : Inside root loc := by
  unfold Inside startsWith at inside ⊢
  rw [List.isPrefixOf_iff_prefix, components_ofNames] at inside ⊢
  exact inside.trans (List.cons_prefix_cons.mpr ⟨rfl, isPrefix.map _⟩)

/-- Nothing is inside a root that normalization left relative. -/
theorem not_inside_of_relative (relative : root.absolute = false) (nonempty : root.components ≠ [])
    (loc : Location) : ¬ Inside root loc := by
  intro inside
  unfold Inside startsWith at inside
  rw [List.isPrefixOf_iff_prefix, components_ofNames] at inside
  cases components : root.components with
  | nil => exact nonempty components
  | cons first rest =>
    rw [components] at inside
    have isRoot := (List.cons_prefix_cons.mp inside).1
    have noRoot := rootDir_not_mem_components relative
    rw [components, isRoot] at noRoot
    exact noRoot List.mem_cons_self

theorem normalizeWithoutFs_absolute {path : Path} :
    (normalizeWithoutFs path).absolute = path.absolute := by
  unfold normalizeWithoutFs
  dsimp only
  split
  · case isTrue relative => exact relative.1.symm
  · rfl

section

variable {fs : FileSystem}

theorem canonicalRoot_components_ne_nil {config : ToolRuntimeConfig}
    (relative : (canonicalRoot fs config).absolute = false) :
    (canonicalRoot fs config).components ≠ [] := by
  unfold canonicalRoot at relative ⊢
  dsimp only at relative ⊢
  cases resolved : fs.resolve (config.fileRoot.getD (ofNames fs.cwd)) with
  | some loc =>
    rw [resolved] at relative
    cases relative
  | none =>
    rw [resolved] at relative
    rw [normalizeWithoutFs_absolute] at relative
    exact components_normalizeWithoutFs_ne_nil relative

/-- Below an absolute root, every normalized target is a list of names. -/
theorem normalizedTarget_eq_ofNames (absolute : root.absolute = true) {candidate : Path} :
    ∃ names, normalizedTarget root candidate = ofNames names := by
  apply normalizeWithoutFs_of_absolute
  split
  · case isTrue isAbsolute => exact isAbsolute
  · case isFalse isRelative =>
      unfold isAbsolute at isRelative
      unfold join
      rw [if_neg isRelative, if_neg (by simp [absolute])]
      exact absolute

/-! ## The existing ancestor -/

/-- The loop stops at the longest existing part: the next name is missing. -/
theorem splitExistingAncestorLoop_spec {path : Path} {fuel : Nat}
    {suffix : List String} {result : Path × List String}
    (split : splitExistingAncestorLoop fs path fuel (ofNames names) suffix = .ok result) :
    ∃ front dropped, result = (ofNames front, dropped ++ suffix) /\ names = front ++ dropped /\
        fs.pathExists (ofNames front) = true /\
        ∀ name more, dropped = name :: more ->
          fs.pathExists (ofNames (front ++ [name])) = false := by
  induction fuel generalizing names suffix with
  | zero => injection split
  | succ fuel ih =>
    unfold splitExistingAncestorLoop at split
    cases present : fs.pathExists (ofNames names) with
    | true =>
      rw [present, if_pos rfl] at split
      have same := Except.ok.inj split
      exact ⟨names, [], by rw [<- same]; rfl, by simp, present, by simp⟩
    | false =>
      rw [present, if_neg (by simp)] at split
      rcases List.eq_nil_or_concat names with rfl | ⟨front, name, rfl⟩
      · injection split
      · rw [List.concat_eq_append] at split present
        rw [fileName_ofNames, parent_ofNames] at split
        rcases ih split with ⟨earlier, dropped, same, names, exists_, missing⟩
        refine ⟨earlier, dropped ++ [name], ?_, ?_, exists_, ?_⟩
        · rw [same]
          simp
        · rw [names]
          simp
        · intro first more starts
          cases dropped with
          | nil =>
            cases starts
            rw [List.append_nil] at names
            rw [<- names]
            exact present
          | cons other rest =>
            cases starts
            exact missing first rest rfl

/-! ## What the check returns -/

/-- The two ways to pass the check: the target exists, or its longest existing
part does and a name below it is missing. -/
inductive Confined (fs : FileSystem) (root : Path) (names : List String) : Path -> Prop where
  | existing {loc : Location} (resolved : fs.resolve (ofNames names) = some loc)
      (inside : Inside root loc) : Confined fs root names (ofNames loc)
  | missing {front more : List String} {name : String} {dir : Location}
      (split : names = front ++ name :: more)
      (resolved : fs.resolve (ofNames front) = some dir)
      (absent : fs.resolve (ofNames (front ++ [name])) = none)
      (inside : Inside root dir) : Confined fs root names (ofNames (dir ++ name :: more))

theorem ensurePathWithinRoot_ok (within : ensurePathWithinRoot root path = .ok ()) :
    path.startsWith root = true := by
  unfold ensurePathWithinRoot at within
  split at within
  · case isTrue starts => exact starts
  · injection within

theorem canonicalize_ok {canonical : Path} {render : String -> String}
    (succeeds : (fs.canonicalize path).mapError render = .ok canonical) :
    ∃ loc, fs.resolve path = some loc /\ canonical = ofNames loc := by
  unfold canonicalize at succeeds
  split at succeeds
  · case h_1 loc resolved => exact ⟨loc, resolved, (Except.ok.inj succeeds).symm⟩
  · injection succeeds

theorem foldl_pushName {names : List String} (more : List String) :
    more.foldl pushName (ofNames names) = ofNames (names ++ more) := by
  induction more generalizing names with
  | nil => rw [List.append_nil]; rfl
  | cons name rest ih =>
    have pushed : pushName (ofNames names) name = ofNames (names ++ [name]) :=
      join_ofNames names name
    rw [List.foldl_cons, pushed, ih, List.append_assoc]
    rfl

theorem resolvePathWithinRoot_confined
    (returned : resolvePathWithinRoot fs root (ofNames names) = .ok result) :
    Confined fs root names result := by
  rcases bind_eq_ok_iff.mp returned with ⟨_, _, afterLexical⟩
  split at afterLexical
  · rcases bind_eq_ok_iff.mp afterLexical with ⟨canonical, found, afterFound⟩
    rcases bind_eq_ok_iff.mp afterFound with ⟨_, within, same⟩
    rcases canonicalize_ok found with ⟨loc, resolved, rfl⟩
    cases Except.ok.inj same
    exact .existing resolved (ensurePathWithinRoot_ok within)
  · case isFalse notThere =>
      rcases bind_eq_ok_iff.mp afterLexical with ⟨⟨ancestor, suffix⟩, split, afterSplit⟩
      rcases bind_eq_ok_iff.mp afterSplit with ⟨canonical, found, afterFound⟩
      rcases bind_eq_ok_iff.mp afterFound with ⟨_, within, afterWithin⟩
      rcases bind_eq_ok_iff.mp afterWithin with ⟨_, _, same⟩
      rcases splitExistingAncestorLoop_spec split with
        ⟨front, dropped, parts, whole, exists_, missing⟩
      rcases Prod.mk.inj parts with ⟨rfl, rfl⟩
      rcases canonicalize_ok found with ⟨dir, resolved, rfl⟩
      cases Except.ok.inj same
      rw [List.append_nil, foldl_pushName]
      cases dropped with
      | nil =>
        rw [List.append_nil] at whole
        rw [whole] at notThere
        exact absurd exists_ notThere
      | cons name more =>
        have absent := missing name more rfl
        unfold pathExists at absent
        exact .missing whole resolved (Option.not_isSome_iff_eq_none.mp (by simp [absent]))
          (ensurePathWithinRoot_ok within)

/-! ## What a confined path touches -/

theorem resolve_real (resolved : fs.resolve path = some loc) : fs.tree.Real loc :=
  locate_real fs.cwd_real resolved

theorem resolve_ofNames : fs.resolve (ofNames names) =
    fs.tree.walk false fs.linkLimit [] (names.map .name) :=
  locate_ofNames

/-- Below a directory without links, touching a path is reaching its names. -/
theorem mem_fileTouches_iff (real : fs.tree.Real dir) {names : List String} {last : String} :
    loc ∈ fileTouches fs (ofNames (dir ++ (names ++ [last]))) ↔
      Reaches fs dir (names ++ [last]) loc := by
  have walked : ∀ creating (part : List String),
      fs.tree.walk creating fs.linkLimit [] ((dir ++ part).map .name) =
        fs.tree.walk creating fs.linkLimit dir (part.map .name) := by
    intro creating part
    rw [List.map_append, walk_names real]
  have begun : fs.tree.walk false fs.linkLimit [] (([] ++ dir).map .name) = some dir :=
    locate_ofNames.symm.trans (@locate_of_real _ _ [] _ _ real)
  have opens : fs.openTouches (ofNames (dir ++ (names ++ [last]))) =
      (fs.tree.walk true fs.linkLimit dir ((names ++ [last]).map .name)).toList := by
    unfold openTouches
    rw [locate_ofNames, walked]
  have creates : fs.createTouches (dir ++ (names ++ [last])) =
      createdTouches (fs.openTouches (ofNames (dir ++ (names ++ [last])))) last
        (fs.tree.createDirAll fs.linkLimit dir names) := by
    unfold createTouches
    rw [<- List.append_assoc, List.getLast?_concat, List.dropLast_concat]
    dsimp only
    rw [createDirAll_append begun]
    rfl
  unfold fileTouches readTouches
  rw [resolve_ofNames, walked, opens, names_ofNames, List.mem_append, List.mem_append,
    Option.mem_toList, Option.mem_toList, creates]
  constructor
  · rintro ((read | opened) | created)
    · rcases (walk_real real read).2 with ⟨left, goesOn⟩
      have opened := goesOn true []
      rw [List.append_nil, walk_eq _ left] at opened
      exact .opened opened
    · exact .opened opened
    · cases succeeds : fs.tree.createDirAll fs.linkLimit dir names with
      | none =>
        rw [succeeds] at created
        cases created
      | some result =>
        rcases result with ⟨reached, made⟩
        rw [succeeds] at created
        rcases createDirAll_cases succeeds with
          rfl | ⟨part, name, more, above, rfl, there, isDirectory, free, rfl, rfl⟩
        · rw [opens] at created
          exact .opened (Option.mem_toList.mp created)
        · rw [walked] at there
          refine .created (by rfl) there isDirectory free ?_
          rw [below_snoc]
          exact created
  · rintro (opened | @⟨part, name, rest, other, above, _, split, there, isDirectory, free, touched⟩)
    · exact .inl (.inr opened)
    · right
      rcases List.append_inj' split rfl with ⟨rfl, last⟩
      cases last
      rw [<- walked] at there
      rw [createDirAll_append there, createDirAll, there, Option.bind_some,
        if_pos isDirectory, free]
      rw [below_snoc] at touched
      exact touched

theorem touches_of_real (real : fs.tree.Real dir)
    (touched : loc ∈ fileTouches fs (ofNames dir)) : loc = dir := by
  rcases List.eq_nil_or_concat dir with rfl | ⟨parent, last, rfl⟩
  · have located : ∀ creating, fs.tree.locate creating fs.linkLimit fs.cwd (ofNames []) = some [] :=
      fun _ => locate_of_real real
    simpa [fileTouches, readTouches, openTouches, createTouches, FileSystem.resolve, located,
      names_ofNames] using touched
  · rw [List.concat_eq_append] at *
    have located : fs.tree.locate true fs.linkLimit [] (ofNames (parent ++ [last])) =
        some (parent ++ [last]) := locate_of_real real
    have above := real.front (List.prefix_append parent [last])
    rw [locate_ofNames, List.map_append, walk_names above] at located
    have reached : Reaches fs parent ([] ++ [last]) loc := (mem_fileTouches_iff above).mp touched
    cases reached with
    | opened walked => exact Option.some.inj (walked.symm.trans located)
    | created split =>
      have lengths := congrArg List.length split
      simp at lengths
      omega

/-- From a name that is free, everything lies below its directory. -/
theorem Reaches.prefix_of_free {more : List String} (reaches : Reaches fs dir (name :: more) loc)
    (free : fs.tree.node (dir ++ [name]) = none) : dir <+: loc := by
  have leads : ∀ steps loc,
      fs.tree.walk false fs.linkLimit dir (.name name :: steps) ≠ some loc := by
    intro steps loc walked
    rcases (walk_name_some walked).2 with ⟨node, found⟩
    cases free.symm.trans found
  cases reaches with
  | opened walked =>
    by_cases isDirectory : fs.tree.node dir = some .directory
    · rw [List.map_cons, walk_free isDirectory free] at walked
      split_ifs at walked
      cases walked
      exact List.prefix_append _ _
    · rw [List.map_cons, walk_eq, walkWith_stuck isDirectory] at walked
      cases walked
  | @created part _ _ _ _ _ split walked _ _ touched =>
    cases part with
    | nil =>
      rw [List.map_nil, walk_eq] at walked
      cases walked
      exact below_prefix touched
    | cons first part =>
      cases (List.cons.inj split).1
      exact absurd walked (leads _ _)

/-! ## When the check confines -/

/-- A name below an existing directory leads nowhere only if it is free or a link. -/
theorem free_or_link_of_absent (resolved : fs.resolve (ofNames front) = some dir)
    (absent : fs.resolve (ofNames (front ++ [name])) = none) :
    fs.tree.node (dir ++ [name]) = none \/
      ∃ target, fs.tree.node (dir ++ [name]) = some (.link target) := by
  rw [resolve_ofNames] at resolved absent
  rcases (walk_real Real.nil resolved).2 with ⟨left, goesOn⟩
  rw [List.map_append, goesOn, walk_eq] at absent
  cases found : fs.tree.node (dir ++ [name]) with
  | none => exact .inl rfl
  | some node =>
    have isDirectory := fs.tree.parent_directory dir name (by rw [found]; rfl)
    cases node with
    | link target => exact .inr ⟨target, rfl⟩
    | directory | file =>
      rw [List.map_singleton, walkWith_name_of_node isDirectory found nofun] at absent
      cases absent

theorem touches_inside_of_confined (lexical : (ofNames names).startsWith root = true)
    (confined : Confined fs root names result)
    (noEscape : ¬ EscapesThroughLink fs root (ofNames names))
    (touched : loc ∈ fileTouches fs result) : Inside root loc := by
  cases confined with
  | existing resolved inside =>
    rw [touches_of_real (resolve_real resolved) touched]
    exact inside
  | @missing front more name dir split resolved absent inside =>
    rcases List.eq_nil_or_concat (name :: more) with impossible | ⟨others, last, snoc⟩
    · cases impossible
    rw [List.concat_eq_append] at snoc
    rw [snoc, mem_fileTouches_iff (resolve_real resolved), <- snoc] at touched
    rcases free_or_link_of_absent resolved absent with free | ⟨target, isLink⟩
    · exact inside.deeper (touched.prefix_of_free free)
    · by_contra outside
      exact noEscape ⟨lexical, front, name, more, dir, target, loc, by rw [split], resolved, inside,
        absent, isLink, touched, outside⟩

/-- The loop goes back to the names before the first one that leads nowhere. -/
theorem splitExistingAncestorLoop_of_missing (there : fs.pathExists (ofNames front) = true)
    {more : List String}
    (missing : ∀ part, part <+: more -> fs.pathExists (ofNames (front ++ name :: part)) = false)
    {fuel : Nat} (enough : more.length + 1 < fuel) (suffix : List String) :
    splitExistingAncestorLoop fs path fuel (ofNames (front ++ name :: more)) suffix =
      .ok (ofNames front, name :: more ++ suffix) := by
  induction more using List.reverseRecOn generalizing fuel suffix with
  | nil =>
    rcases Nat.exists_eq_add_of_lt enough with ⟨rest, rfl⟩
    unfold splitExistingAncestorLoop
    rw [missing [] (List.prefix_refl _), if_neg Bool.false_ne_true, fileName_ofNames,
      parent_ofNames]
    dsimp only
    rw [List.length_nil, Nat.zero_add, Nat.add_comm 1]
    unfold splitExistingAncestorLoop
    rw [there, if_pos rfl]
    rfl
  | append_singleton more last ih =>
    cases fuel with
    | zero => cases enough
    | succ fuel =>
      unfold splitExistingAncestorLoop
      rw [missing _ (List.prefix_refl _), if_neg Bool.false_ne_true, <- List.cons_append,
        <- List.append_assoc, fileName_ofNames, parent_ofNames]
      dsimp only
      rw [ih (fun part inside => missing part (inside.trans (List.prefix_append _ _)))
        (by simp at enough; omega)]
      simp

/-- With its directory inside the root, a missing target passes the check. -/
theorem resolvePathWithinRoot_of_missing {more : List String}
    (lexical : (ofNames (front ++ name :: more)).startsWith root = true)
    (absent : fs.resolve (ofNames (front ++ [name])) = none)
    (resolved : fs.resolve (ofNames front) = some dir) (inside : Inside root dir) :
    resolvePathWithinRoot fs root (ofNames (front ++ name :: more)) =
      .ok (ofNames (dir ++ name :: more)) := by
  have missing : ∀ part, fs.pathExists (ofNames (front ++ name :: part)) = false := by
    intro part
    rw [resolve_ofNames] at absent
    unfold pathExists
    rw [resolve_ofNames, List.append_cons, List.map_append, walk_append_of_none absent (.inl rfl)]
    rfl
  have there : fs.pathExists (ofNames front) = true := by
    unfold pathExists
    rw [resolved]
    rfl
  have split : splitExistingAncestor fs (ofNames (front ++ name :: more)) =
      .ok (ofNames front, name :: more) := by
    have enough : more.length + 1 < (ofNames (front ++ name :: more)).components.length + 1 := by
      rw [components_ofNames]
      simp
      omega
    unfold splitExistingAncestor
    rw [splitExistingAncestorLoop_of_missing there (fun part _ => missing part) enough,
      List.append_nil]
  have canonical : fs.canonicalize (ofNames front) = .ok (ofNames dir) := by
    unfold canonicalize
    rw [resolved]
  have insideName : Inside root (dir ++ name :: more) := inside.deeper (List.prefix_append _ _)
  refine bind_eq_ok_iff.mpr ⟨(), if_pos lexical, ?_⟩
  rw [if_neg (ne_true_of_eq_false (missing more))]
  refine bind_eq_ok_iff.mpr ⟨_, split, ?_⟩
  refine bind_eq_ok_iff.mpr ⟨_, mapError_eq_ok_iff.mpr canonical, ?_⟩
  dsimp only
  rw [foldl_pushName]
  refine bind_eq_ok_iff.mpr ⟨(), if_pos inside, ?_⟩
  exact bind_eq_ok_iff.mpr ⟨(), if_pos insideName, rfl⟩

/-- A path that passes the check has something inside the root. -/
theorem inside_of_resolvePathWithinRoot
    (returned : resolvePathWithinRoot fs root normalized = .ok result) :
    ∃ loc, Inside root loc := by
  rcases bind_eq_ok_iff.mp returned with ⟨_, _, afterLexical⟩
  split at afterLexical
  · rcases bind_eq_ok_iff.mp afterLexical with ⟨canonical, found, afterFound⟩
    rcases bind_eq_ok_iff.mp afterFound with ⟨_, within, _⟩
    rcases canonicalize_ok found with ⟨loc, _, rfl⟩
    exact ⟨loc, ensurePathWithinRoot_ok within⟩
  · rcases bind_eq_ok_iff.mp afterLexical with ⟨_, _, afterSplit⟩
    rcases bind_eq_ok_iff.mp afterSplit with ⟨canonical, found, afterFound⟩
    rcases bind_eq_ok_iff.mp afterFound with ⟨_, within, _⟩
    rcases canonicalize_ok found with ⟨loc, _, rfl⟩
    exact ⟨loc, ensurePathWithinRoot_ok within⟩

theorem resolveSafeFilePathWithConfig_eq {raw : String} {config : ToolRuntimeConfig} :
    resolveSafeFilePathWithConfig fs raw config = resolvePathWithinRoot fs (canonicalRoot fs config)
        (normalizedTarget (canonicalRoot fs config) (ofString raw)) := by
  unfold resolveSafeFilePathWithConfig canonicalizeOrFallback canonicalRoot pathExists canonicalize
  dsimp only
  cases fs.resolve (config.fileRoot.getD (ofNames fs.cwd)) with
  | none | some => rfl

/-- An escaping link passes the check, and what is done with the returned path
leaves the root. -/
theorem exists_touch_outside (escapes : EscapesThroughLink fs root normalized) :
    ∃ path, resolvePathWithinRoot fs root normalized = .ok path /\
      ∃ loc, loc ∈ fileTouches fs path /\ ¬ Inside root loc := by
  rcases escapes with ⟨lexical, front, name, more, dir, target, loc, rfl, resolved, inside, absent,
    isLink, reaches, outside⟩
  refine ⟨_, resolvePathWithinRoot_of_missing lexical absent resolved inside, loc, ?_, outside⟩
  rcases List.eq_nil_or_concat (name :: more) with impossible | ⟨others, last, snoc⟩
  · cases impossible
  · rw [snoc, List.concat_eq_append] at reaches ⊢
    exact (mem_fileTouches_iff (resolve_real resolved)).mpr reaches

end

namespace DanglingLinkSample

/-- A root with one entry: a link to a free name in a directory beside it. -/
def tree : FileTree :=
  .ofEntries
    [ ([], .directory), (["outside"], .directory), (["root"], .directory),
      (["root", "link"], .link (ofNames ["outside", "created"])) ]
    (by decide) (by decide)

def fs : FileSystem where
  tree := tree
  linkLimit := 40
  cwd := []
  cwd_real := Real.nil
  errorText _ := "No such file or directory (os error 2)"

def config : ToolRuntimeConfig :=
  { ToolRuntimeConfig.default with fileRoot := some (ofNames ["root"]) }

end DanglingLinkSample

open DanglingLinkSample

end LoongClaw.Tools
