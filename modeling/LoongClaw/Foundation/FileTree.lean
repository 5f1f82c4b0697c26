import LoongClaw.Foundation.OrderedMap
import LoongClaw.Foundation.Path

namespace LoongClaw.Foundation

/-!
# File trees with symbolic links

A tree assigns a node to every location, where a location is the list of names
on the way down from the root.  Path resolution follows links, also in the
middle of a path, up to a bound on the links that are followed on the whole
way; a resolved location is reached through directories only.  Opening a path
for writing resolves it in the same way but may end at a name that is still
free.
-/

/-- Names on the way down from the root of the tree. -/
abbrev Location := List String

inductive FileNode where
  | directory
  | file
  | link (target : Path)
  deriving DecidableEq

structure FileTree where
  node : Location -> Option FileNode
  root_directory : node [] = some .directory
  parent_directory : ∀ dir name, (node (dir ++ [name])).isSome = true -> node dir = some .directory

namespace FileTree

/-- The tree with the given entries, each of which lies in a directory. -/
def ofEntries (entries : OrderedMap Location FileNode)
    (rooted : entries.lookup [] = some .directory)
    (closed : ∀ entry, entry ∈ entries -> entry.1 ≠ [] ->
      entries.lookup entry.1.dropLast = some .directory) : FileTree where
  node loc := entries.lookup loc
  root_directory := rooted
  parent_directory dir name isSome := by
    rcases Option.isSome_iff_exists.mp isSome with ⟨node, found⟩
    have parent := closed _ (OrderedMap.mem_of_lookup found) (by simp)
    rwa [List.dropLast_concat] at parent

variable (tree : FileTree)

/-- Where a path starts. -/
def startOf (base : Location) (path : Path) : Location :=
  if path.absolute then [] else base

/-- Take steps one after another, each out of a directory.  `follow` goes on
where a link is met, with the steps that are left.  When a file may be created,
the last name may be free. -/
def walkWith (creating : Bool) (follow : Location -> Path -> List PathStep -> Option Location) :
    Location -> List PathStep -> Option Location
  | dir, [] => some dir
  | dir, step :: rest =>
    if tree.node dir = some .directory then
      match step with
      | .here => walkWith creating follow dir rest
      | .parent => walkWith creating follow dir.dropLast rest
      | .name text =>
        match tree.node (dir ++ [text]) with
        | none => if creating = true /\ rest = [] then some (dir ++ [text]) else none
        | some (.link target) => follow dir target rest
        | some _ => walkWith creating follow (dir ++ [text]) rest
    else none

/-- The location that steps lead to, with a bound on the links followed.  The
steps of a target are taken before those that are left.  An empty target leads
nowhere. -/
def walk (creating : Bool) : Nat -> Location -> List PathStep -> Option Location
  | 0 => tree.walkWith creating (fun _ _ _ => none)
  | links + 1 => tree.walkWith creating (fun dir target rest =>
      if target.absolute = false /\ target.steps = [] then none
      else walk creating links (startOf dir target) (target.steps ++ rest))

/-- Go on where a link is met. -/
def followLink (creating : Bool) (links : Nat) (dir : Location) (target : Path)
    (rest : List PathStep) : Option Location :=
  match links with
  | 0 => none
  | links + 1 =>
    if target.absolute = false /\ target.steps = [] then none
    else tree.walk creating links (startOf dir target) (target.steps ++ rest)

/-- The location that a path leads to.  An empty path leads nowhere. -/
def locate (creating : Bool) (links : Nat) (base : Location) (path : Path) : Option Location :=
  if path.absolute = false /\ path.steps = [] then none
  else tree.walk creating links (startOf base path) path.steps

/-- The locations passed on the way from a directory down the names. -/
def below (dir : Location) : List String -> List Location
  | [] => []
  | name :: rest => (dir ++ [name]) :: below (dir ++ [name]) rest

/-- Create the missing directories of a path, of which the first names are
there: the directory reached and the directories created.  A name that is taken
by anything but a directory, a dangling link included, ends the attempt. -/
def createDirAll (links : Nat) (done : List String) :
    List String -> Option (Location × List Location)
  | [] =>
    (tree.walk false links [] (done.map .name)).bind (fun dir =>
      if tree.node dir = some .directory then some (dir, []) else none)
  | name :: rest =>
    (tree.walk false links [] (done.map .name)).bind (fun dir =>
      if tree.node dir = some .directory then
        match tree.node (dir ++ [name]) with
        | none => some (dir ++ name :: rest, below dir (name :: rest))
        | some _ => createDirAll links (done ++ [name]) rest
      else none)

/-! ## Real locations -/

/-- Every name on the way exists and none is a link. -/
def Real (loc : Location) : Prop :=
  ∀ front name, front ++ [name] <+: loc ->
    ∃ node, tree.node (front ++ [name]) = some node /\ ∀ target, node ≠ .link target

variable {tree}

theorem Real.nil : tree.Real [] := by
  intro front name isPrefix
  exact absurd (List.prefix_nil.mp isPrefix) (by simp)

variable {loc dir : Location} {name : String} {base : Location} {depth : Nat} {names : List String}

theorem Real.front {front : Location} (real : tree.Real loc) (isPrefix : front <+: loc) :
    tree.Real front :=
  fun before name inside => real before name (inside.trans isPrefix)

theorem Real.last (real : tree.Real (dir ++ [name])) : tree.node dir = some .directory /\
      ∃ node, tree.node (dir ++ [name]) = some node /\ ∀ target, node ≠ .link target := by
  have found := real dir name (List.prefix_refl _)
  rcases found with ⟨node, isNode, notLink⟩
  exact ⟨tree.parent_directory dir name (by rw [isNode]; rfl), node, isNode, notLink⟩

/-! ## Walking -/

theorem walk_eq (creating : Bool) (links : Nat) :
    tree.walk creating links = tree.walkWith creating (tree.followLink creating links) := by
  cases links <;> rfl

theorem startOf_real (real : tree.Real base) {path : Path} : tree.Real (startOf base path) := by
  unfold startOf
  split
  · exact Real.nil
  · exact real

section Walking

variable {creating : Bool} {links : Nat} {steps rest : List PathStep}
  {follow : Location -> Path -> List PathStep -> Option Location} {node : FileNode}

theorem walkWith_stuck {step : PathStep} (notDirectory : tree.node dir ≠ some .directory) :
    tree.walkWith creating follow dir (step :: rest) = none := by
  cases step <;> rw [walkWith, if_neg notDirectory]

theorem walkWith_name_of_node (isDirectory : tree.node dir = some .directory)
    (found : tree.node (dir ++ [name]) = some node) (notLink : ∀ target, node ≠ .link target) :
    tree.walkWith creating follow dir (.name name :: rest) =
      tree.walkWith creating follow (dir ++ [name]) rest := by
  rw [walkWith, if_pos isDirectory, found]
  cases node with
  | directory | file => rfl
  | link target => exact absurd rfl (notLink target)

/-- Walking down a real location by its names goes on from there. -/
theorem walkWith_names (real : tree.Real (dir ++ names)) :
    tree.walkWith creating follow dir (names.map .name ++ rest) =
      tree.walkWith creating follow (dir ++ names) rest := by
  induction names generalizing dir with
  | nil => rw [List.append_nil]; rfl
  | cons name others ih =>
    have split : dir ++ name :: others = (dir ++ [name]) ++ others := by simp
    rw [split] at real ⊢
    rcases (real.front (List.prefix_append _ _)).last with ⟨isDirectory, node, found, notLink⟩
    rw [List.map_cons, List.cons_append, walkWith_name_of_node isDirectory found notLink]
    exact ih real

theorem walk_names (real : tree.Real loc) :
    tree.walk creating links [] (loc.map .name ++ rest) = tree.walk creating links loc rest := by
  rw [walk_eq]
  exact walkWith_names real

/-- Where steps lead decides how a walk goes on after them, with the links that
are left.  If they lead nowhere, no longer walk leads anywhere. -/
def Cuts (tree : FileTree) (links : Nat) (dir : Location) (steps : List PathStep) : Prop :=
  (∀ creating more, creating = false \/ more ≠ [] ->
    tree.walk creating links dir (steps ++ more) = none) \/
  ∃ reached left, (tree.Real dir -> tree.Real reached) /\ ∀ creating more,
    tree.walk creating links dir (steps ++ more) = tree.walk creating left reached more

theorem Cuts.of_step {after : Nat} {next : Location} {others : List PathStep}
    (cuts : tree.Cuts after next others) (real : tree.Real dir -> tree.Real next)
    (same : ∀ creating more, tree.walk creating links dir (steps ++ more) =
      tree.walk creating after next (others ++ more)) : tree.Cuts links dir steps := by
  rcases cuts with stuck | ⟨reached, left, realEnd, goesOn⟩
  · exact .inl fun creating more longer => (same creating more).trans (stuck creating more longer)
  · refine .inr ⟨reached, left, fun start => realEnd (real start), fun creating more => ?_⟩
    exact (same creating more).trans (goesOn creating more)

theorem cuts_nil : tree.Cuts links dir [] :=
  .inr ⟨dir, links, fun real => real, fun _ _ => rfl⟩

theorem Real.snoc (real : tree.Real dir) (found : tree.node (dir ++ [name]) = some node)
    (notLink : ∀ target, node ≠ .link target) : tree.Real (dir ++ [name]) := by
  intro front other isPrefix
  rcases List.prefix_concat_iff.mp isPrefix with same | earlier
  · rw [same]
    exact ⟨node, found, notLink⟩
  · exact real front other earlier

/-- By induction on the links that may be followed and, for each of them, on the
steps: only a link makes the steps longer. -/
theorem cuts (links : Nat) (dir : Location) (steps : List PathStep) :
    tree.Cuts links dir steps := by
  induction links using Nat.strongRecOn generalizing dir steps with
  | ind links follows =>
  induction steps generalizing dir with
  | nil => exact cuts_nil
  | cons step rest ih =>
    by_cases isDirectory : tree.node dir = some .directory
    case neg =>
      refine .inl fun creating more _ => ?_
      rw [walk_eq]
      exact walkWith_stuck isDirectory
    cases step with
    | here =>
      refine (ih dir).of_step (fun real => real) fun creating more => ?_
      rw [walk_eq, List.cons_append, walkWith, if_pos isDirectory]
    | parent =>
      refine (ih dir.dropLast).of_step (·.front (List.dropLast_prefix dir))
        fun creating more => ?_
      rw [walk_eq, List.cons_append, walkWith, if_pos isDirectory]
    | name text =>
      cases found : tree.node (dir ++ [text]) with
      | none =>
        refine .inl fun creating more longer => ?_
        rw [walk_eq, List.cons_append, walkWith, if_pos isDirectory, found]
        refine if_neg ?_
        rintro ⟨isCreating, isLast⟩
        rcases longer with notCreating | notLast
        · cases isCreating.symm.trans notCreating
        · exact notLast (List.append_eq_nil_iff.mp isLast).2
      | some node =>
        by_cases isLink : ∃ target, node = .link target
        case neg =>
          have notLink : ∀ target, node ≠ .link target := fun target same => isLink ⟨target, same⟩
          refine (ih (dir ++ [text])).of_step (·.snoc found notLink) fun creating more => ?_
          rw [walk_eq, List.cons_append, walkWith_name_of_node isDirectory found notLink]
        rcases isLink with ⟨target, rfl⟩
        have met : ∀ creating more, tree.walk creating links dir (.name text :: rest ++ more) =
            tree.followLink creating links dir target (rest ++ more) := by
          intro creating more
          rw [walk_eq, List.cons_append, walkWith, if_pos isDirectory, found]
        cases links with
        | zero => exact .inl fun creating more _ => met creating more
        | succ links =>
          by_cases empty : target.absolute = false /\ target.steps = []
          · exact .inl fun creating more _ => (met creating more).trans (if_pos empty)
          · refine (follows links (Nat.lt_succ_self links) (startOf dir target)
              (target.steps ++ rest)).of_step (startOf_real ·) fun creating more => ?_
            rw [met, List.append_assoc]
            exact if_neg empty

theorem walk_real (real : tree.Real dir) (walked : tree.walk false links dir steps = some loc) :
    tree.Real loc /\ ∃ left, ∀ creating more,
      tree.walk creating links dir (steps ++ more) = tree.walk creating left loc more := by
  rcases tree.cuts links dir steps with stuck | ⟨reached, left, realEnd, goesOn⟩
  · have nowhere := stuck false [] (.inl rfl)
    rw [List.append_nil] at nowhere
    cases walked.symm.trans nowhere
  · have ends := goesOn false []
    rw [List.append_nil, walked, walk_eq] at ends
    cases ends
    exact ⟨realEnd real, left, goesOn⟩

theorem walk_append_of_none (walked : tree.walk false links dir steps = none)
    (longer : creating = false \/ rest ≠ []) :
    tree.walk creating links dir (steps ++ rest) = none := by
  rcases tree.cuts links dir steps with stuck | ⟨reached, left, _, goesOn⟩
  · exact stuck creating rest longer
  · have ends := goesOn false []
    rw [List.append_nil, walked, walk_eq] at ends
    cases ends

theorem walk_name_some (walked : tree.walk false links dir (.name name :: rest) = some loc) :
    tree.node dir = some .directory /\ ∃ node, tree.node (dir ++ [name]) = some node := by
  rw [walk_eq] at walked
  by_cases isDirectory : tree.node dir = some .directory
  · refine ⟨isDirectory, Option.ne_none_iff_exists'.mp fun free => ?_⟩
    rw [walkWith, if_pos isDirectory, free] at walked
    cases walked
  · rw [walkWith_stuck isDirectory] at walked
    cases walked

theorem walk_free (isDirectory : tree.node dir = some .directory)
    (free : tree.node (dir ++ [name]) = none) :
    tree.walk creating links dir (.name name :: rest) =
      if creating = true /\ rest = [] then some (dir ++ [name]) else none := by
  rw [walk_eq, walkWith, if_pos isDirectory, free]

end Walking

theorem locate_ofNames {creating : Bool} {links : Nat} :
    tree.locate creating links base (Path.ofNames names) =
      tree.walk creating links [] (names.map .name) := by
  unfold locate startOf Path.ofNames
  rw [if_neg (by simp), if_pos rfl]

theorem locate_of_real {creating : Bool} {links : Nat} (real : tree.Real loc) :
    tree.locate creating links base (Path.ofNames loc) = some loc := by
  have walked : tree.walk creating links [] (loc.map .name ++ []) = _ := walk_names real
  rw [locate_ofNames, <- List.append_nil (List.map _ _), walked, walk_eq]
  rfl

theorem locate_real {links : Nat} {path : Path} (real : tree.Real base)
    (located : tree.locate false links base path = some loc) : tree.Real loc := by
  unfold locate at located
  split at located
  · cases located
  · exact (walk_real (startOf_real real) located).1

/-! ## Creating directories -/

section Creating

variable {links : Nat} {done part rest : List String}

theorem below_prefix (member : loc ∈ below dir names) : dir <+: loc := by
  induction names generalizing dir with
  | nil => cases member
  | cons name rest ih =>
    rcases List.mem_cons.mp member with rfl | later
    · exact List.prefix_append _ _
    · exact (List.prefix_append _ _).trans (ih later)

theorem below_snoc {last : String} :
    below dir (names ++ [last]) = below dir names ++ [dir ++ names ++ [last]] := by
  induction names generalizing dir with
  | nil => simp [below]
  | cons name rest ih => simp [below, ih]

/-- Names that lead somewhere are passed. -/
theorem createDirAll_append {above : Location}
    (walked : tree.walk false links [] ((done ++ part).map .name) = some above) :
    tree.createDirAll links done (part ++ rest) =
      tree.createDirAll links (done ++ part) rest := by
  induction part generalizing done with
  | nil => rw [List.append_nil, List.nil_append]
  | cons name part ih =>
    rw [List.map_append] at walked
    cases begun : tree.walk false links [] (done.map .name) with
    | none => cases walked.symm.trans (walk_append_of_none begun (.inl rfl))
    | some dir =>
      rcases (walk_real Real.nil begun).2 with ⟨left, goesOn⟩
      rcases walk_name_some ((goesOn false _).symm.trans walked) with ⟨isDirectory, node, found⟩
      rw [List.cons_append, createDirAll, begun, Option.bind_some, if_pos isDirectory, found]
      dsimp only
      rw [<- List.map_append, List.append_cons] at walked
      rw [ih walked, <- List.append_cons]

/-- Either the directory is there, or it is created with those that it lies in,
from the first missing one on. -/
theorem createDirAll_cases {reached : Location} {created : List Location}
    (succeeds : tree.createDirAll links done rest = some (reached, created)) : created = [] \/
      ∃ part name more above, rest = part ++ name :: more /\
        tree.walk false links [] ((done ++ part).map .name) = some above /\
        tree.node above = some .directory /\ tree.node (above ++ [name]) = none /\
        reached = above ++ name :: more /\ created = below above (name :: more) := by
  induction rest generalizing done with
  | nil =>
    rcases Option.bind_eq_some_iff.mp succeeds with ⟨dir, walked, found⟩
    split at found
    · cases found
      exact .inl rfl
    · cases found
  | cons name rest ih =>
    rcases Option.bind_eq_some_iff.mp succeeds with ⟨dir, walked, found⟩
    by_cases isDirectory : tree.node dir = some .directory
    case neg =>
      rw [if_neg isDirectory] at found
      cases found
    rw [if_pos isDirectory] at found
    split at found
    case h_1 free =>
      cases found
      exact .inr ⟨[], name, rest, dir, rfl, by rw [List.append_nil]; exact walked,
        isDirectory, free, rfl, rfl⟩
    case h_2 =>
      rcases ih found with none | ⟨part, next, more, above, rfl, walked, rest⟩
      · exact .inl none
      · rw [<- List.append_cons] at walked
        exact .inr ⟨name :: part, next, more, above, rfl, walked, rest⟩

end Creating

end FileTree

/-! ## A file system -/

/-- A tree with a working directory.  The text of an error is the operating
system's. -/
structure FileSystem where
  tree : FileTree
  linkLimit : Nat
  cwd : Location
  cwd_real : tree.Real cwd
  errorText : Path -> String

namespace FileSystem

variable (fs : FileSystem) (path : Path)

def resolve : Option Location :=
  fs.tree.locate false fs.linkLimit fs.cwd path

def pathExists : Bool :=
  (fs.resolve path).isSome

def canonicalize : Except String Path :=
  match fs.resolve path with
  | some loc => .ok (Path.ofNames loc)
  | none => .error (fs.errorText path)

/-- The target of the link that a path names, if its last name is one. -/
def readLink : Option Path :=
  match path.steps.getLast? with
  | some (.name text) =>
    (fs.resolve { path with steps := path.steps.dropLast ++ [.here] }).bind (fun dir =>
      match fs.tree.node (dir ++ [text]) with
      | some (.link target) => some target
      | _ => none)
  | _ => none

/-- The location that reading a path reads. -/
def readTouches : List Location :=
  (fs.resolve path).toList

/-- The location that writing a path writes or creates. -/
def openTouches : List Location :=
  (fs.tree.locate true fs.linkLimit fs.cwd path).toList

/-- What writing a file touches after its parent directories have been created:
the new directories and the file, or what is opened if there are none. -/
def createdTouches (opened : List Location) (name : String) :
    Option (Location × List Location) -> List Location
  | none => []
  | some (_, []) => opened
  | some (dir, created) => created ++ [dir ++ [name]]

/-- The locations that writing the file with these names touches when missing
parent directories are created first. -/
def createTouches (names : List String) : List Location :=
  match names.getLast? with
  | none => []
  | some name => createdTouches (fs.openTouches (Path.ofNames names)) name
      (fs.tree.createDirAll fs.linkLimit [] names.dropLast)

end FileSystem

end LoongClaw.Foundation
