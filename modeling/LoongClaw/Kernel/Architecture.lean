import LoongClaw.Foundation.DottedPath
import LoongClaw.Foundation.Text

namespace LoongClaw.Kernel

open Foundation Text DottedPath

/-!
# The architecture guard

Paths that may be changed are told from those that may not by prefixes.  A
path is compared with them as a text, after backslashes, one leading `./` and
leading slashes are normalised; dot components inside the path stay.
-/

inductive ArchitecturePathDecision where
  | allowedMutable
  | deniedImmutable
  | deniedUnknown
  deriving DecidableEq

structure ArchitecturePathReport where
  path : String
  decision : ArchitecturePathDecision
  matchedPrefix : Option String
  reason : String

structure ArchitectureGuardReport where
  totalPaths : Nat
  (allowedPaths deniedPaths unknownPaths : List String)
  reports : List ArchitecturePathReport

def ArchitectureGuardReport.empty : ArchitectureGuardReport where
  totalPaths := 0
  allowedPaths := []
  deniedPaths := []
  unknownPaths := []
  reports := []

structure ArchitectureBoundaryPolicy where
  (immutablePrefixes mutablePrefixes : List String)

def ArchitectureBoundaryPolicy.default : ArchitectureBoundaryPolicy where
  immutablePrefixes :=
    [ "crates/kernel/src/contracts.rs", "crates/kernel/src/errors.rs",
      "crates/kernel/src/harness.rs",
      "crates/kernel/src/kernel.rs",
      "crates/kernel/src/policy.rs" ]
  mutablePrefixes :=
    [ "README.md", "crates/daemon/src/", "crates/kernel/src/architecture.rs",
      "crates/kernel/src/audit.rs",
      "crates/kernel/src/awareness.rs",
      "crates/kernel/src/connector.rs",
      "crates/kernel/src/evolution.rs",
      "crates/kernel/src/integration.rs",
      "crates/kernel/src/memory.rs",
      "crates/kernel/src/plugin.rs",
      "crates/kernel/src/plugin_ir.rs",
      "crates/kernel/src/policy_ext.rs",
      "crates/kernel/src/runtime.rs",
      "crates/kernel/src/tests.rs",
      "crates/kernel/src/tool.rs",
      "docs/",
      "examples/" ]

/-! ## Matching -/

def slashes (c : Char) : Char :=
  if c = '\\' then '/' else c

/-- The characters of a normalised path. -/
def normalizeChars (path : List Char) : List Char :=
  let replaced := (trimChars path).map slashes
  let withoutPrefix := if ['.', '/'].isPrefixOf replaced then replaced.drop 2 else replaced
  withoutPrefix.dropWhile (fun c => decide (c = '/'))

def normalize (path : String) : String :=
  String.ofList (normalizeChars path.toList)

def prefixMatches (path boundary : String) : Bool :=
  if boundary = "" then false
  else if path = boundary then true
  else if endsWith boundary "/" then
    decide (path.toList = boundary.toList.dropLast) || startsWith path boundary
  else startsWith path (boundary ++ "/")

/-- The longest, and the last one of several. -/
def maxByLength : List String -> Option String :=
  List.foldl (fun best candidate =>
    match best with
    | none => some candidate
    | some longest =>
      if candidate.utf8ByteSize < longest.utf8ByteSize then some longest else some candidate)
    none

def longestPrefixMatch (path : String) (prefixes : List String) : Option String :=
  maxByLength (prefixes.filter (prefixMatches path))

/-! ## Evaluation -/

namespace ArchitectureBoundaryPolicy

variable (policy : ArchitectureBoundaryPolicy)

def reportPath (normalized : String) : ArchitecturePathReport :=
  match longestPrefixMatch normalized (policy.immutablePrefixes.map normalize) with
  | some boundary =>
    { path := normalized
      decision := .deniedImmutable
      matchedPrefix := some boundary
      reason := "path is protected by immutable core boundary: " ++ boundary }
  | none =>
    match longestPrefixMatch normalized (policy.mutablePrefixes.map normalize) with
    | some boundary =>
      { path := normalized
        decision := .allowedMutable
        matchedPrefix := some boundary
        reason := "path is inside mutable extension boundary: " ++ boundary }
    | none =>
      { path := normalized
        decision := .deniedUnknown
        matchedPrefix := none
        reason := "path is outside declared mutable boundaries" }

def addReport (report : ArchitectureGuardReport) (entry : ArchitecturePathReport) :
    ArchitectureGuardReport :=
  let counted :=
    { report with
      totalPaths := report.totalPaths + 1
      reports := report.reports ++ [entry] }
  match entry.decision with
  | .deniedImmutable => { counted with deniedPaths := report.deniedPaths ++ [entry.path] }
  | .allowedMutable => { counted with allowedPaths := report.allowedPaths ++ [entry.path] }
  | .deniedUnknown =>
    { counted with
      deniedPaths := report.deniedPaths ++ [entry.path]
      unknownPaths := report.unknownPaths ++ [entry.path] }

def evaluatePaths (paths : List String) : ArchitectureGuardReport :=
  paths.foldl (fun report path => addReport report (policy.reportPath (normalize path))) .empty

end ArchitectureBoundaryPolicy

/-! ## What is denied -/

theorem maxByLength_eq_none_iff {candidates : List String} :
    maxByLength candidates = none ↔ candidates = [] := by
  cases candidates with
  | nil => exact iff_of_true rfl rfl
  | cons first rest =>
    refine iff_of_false ?_ nofun
    refine List.foldlRecOn (motive := (· ≠ none)) rest _ (Option.some_ne_none first) ?_
    intro best present candidate _
    cases best with
    | none => exact absurd rfl present
    | some longest =>
      dsimp only
      split_ifs <;> nofun

variable {path : String} {prefixes : List String} {boundary : String}

namespace ArchitectureBoundaryPolicy

variable {policy : ArchitectureBoundaryPolicy}

/-- A prefix of the list matches the text of the path. -/
def Matches (prefixes : List String) (path : String) : Prop :=
  ∃ boundary, boundary ∈ prefixes /\ prefixMatches (normalize path) (normalize boundary) = true

variable {path : String}

theorem not_matches_iff : ¬ Matches prefixes path ↔
      longestPrefixMatch (normalize path) (prefixes.map normalize) = none := by
  unfold longestPrefixMatch Matches
  rw [maxByLength_eq_none_iff, List.filter_eq_nil_iff, List.forall_mem_map]
  push Not
  rfl

/-- A path is allowed exactly when a mutable prefix matches its text and no
immutable one does. -/
theorem reportPath_allowed_iff : (policy.reportPath (normalize path)).decision = .allowedMutable ↔
      ¬ Matches policy.immutablePrefixes path /\ Matches policy.mutablePrefixes path := by
  unfold reportPath
  rw [not_matches_iff]
  cases longestPrefixMatch (normalize path) (policy.immutablePrefixes.map normalize) with
  | some boundary => simp
  | none =>
    cases mutable : longestPrefixMatch (normalize path) (policy.mutablePrefixes.map normalize) with
    | some boundary =>
      have isMatched : Matches policy.mutablePrefixes path := by
        by_contra unmatched
        rw [not_matches_iff, mutable] at unmatched
        cases unmatched
      simp [isMatched]
    | none => simp [not_matches_iff.mpr mutable]

theorem reportPath_path {normalized : String} :
    (policy.reportPath normalized).path = normalized := by
  unfold reportPath
  split
  · rfl
  · split <;> rfl

theorem mem_addReport_denied {report : ArchitectureGuardReport} {entry : ArchitecturePathReport} :
    path ∈ (addReport report entry).deniedPaths ↔
      path ∈ report.deniedPaths \/ entry.decision ≠ .allowedMutable /\ path = entry.path := by
  unfold addReport
  cases entry.decision <;> simp

/-- The denied paths of a report are the normalised paths that are not allowed. -/
theorem mem_evaluatePaths_denied {paths : List String} {denied : String} :
    denied ∈ (policy.evaluatePaths paths).deniedPaths ↔
      ∃ path, path ∈ paths /\ normalize path = denied /\
        (policy.reportPath denied).decision ≠ .allowedMutable := by
  have run : ∀ (rest : List String) (report : ArchitectureGuardReport),
      denied ∈ (rest.foldl (fun report path =>
        addReport report (policy.reportPath (normalize path))) report).deniedPaths ↔
        denied ∈ report.deniedPaths \/ ∃ path, path ∈ rest /\ normalize path = denied /\
            (policy.reportPath denied).decision ≠ .allowedMutable := by
    intro rest
    induction rest with
    | nil => simp
    | cons path others ih =>
      intro report
      rw [List.foldl_cons, ih, mem_addReport_denied, reportPath_path, or_assoc,
        List.exists_mem_cons_iff]
      apply or_congr Iff.rfl
      apply or_congr _ Iff.rfl
      rw [and_comm, eq_comm]
      exact and_congr_right (fun same => by rw [same])
  have started := run paths .empty
  unfold evaluatePaths
  rw [started]
  simp [ArchitectureGuardReport.empty]

/-- Every evaluation of the path denies it. -/
def Denies (policy : ArchitectureBoundaryPolicy) (path : String) : Prop :=
  ∀ paths, path ∈ paths -> normalize path ∈ (policy.evaluatePaths paths).deniedPaths

theorem denies_iff : policy.Denies path ↔
      Matches policy.immutablePrefixes path \/ ¬ Matches policy.mutablePrefixes path := by
  have byDecision : policy.Denies path ↔
      (policy.reportPath (normalize path)).decision ≠ .allowedMutable := by
    constructor
    · intro denies
      rcases mem_evaluatePaths_denied.mp (denies [path] List.mem_cons_self) with
        ⟨_, _, _, decision⟩
      exact decision
    · intro decision paths member
      exact mem_evaluatePaths_denied.mpr ⟨path, member, rfl, decision⟩
  rw [byDecision, ne_eq, reportPath_allowed_iff]
  tauto

end ArchitectureBoundaryPolicy

/-! ## Texts and components -/

theorem normalize_toList {path : String} : (normalize path).toList = normalizeChars path.toList :=
  String.toList_ofList

/-- The text of a path is matched by a prefix exactly when the prefix covers it. -/
theorem prefixMatches_iff : prefixMatches path boundary = true ↔
      Covers boundary.toList path.toList := by
  unfold prefixMatches
  by_cases empty : boundary = ""
  · rw [if_pos empty, empty]
    exact ⟨nofun, fun covers => absurd rfl covers.1⟩
  have nonempty : boundary.toList ≠ [] := fun nothing => empty (String.toList_eq_nil_iff.mp nothing)
  rw [if_neg empty]
  by_cases same : path = boundary
  · rw [if_pos same, same]
    exact ⟨fun _ => covers_self nonempty, fun _ => rfl⟩
  unfold Covers startsWith
  rw [if_neg same, and_iff_right nonempty]
  by_cases slash : boundary.toList.getLast? = some '/'
  · have isBoundary := eq_stem_slash slash
    have ends : endsWith boundary "/" = true :=
      List.isSuffixOf_iff_suffix.mpr ⟨_, isBoundary.symm⟩
    have isStem : boundary.toList.dropLast = stem boundary.toList := by
      unfold stem
      rw [if_pos slash]
    have joins : ∀ rest, boundary.toList ++ rest =
        stem boundary.toList ++ '/' :: rest := by
      intro rest
      nth_rewrite 1 [isBoundary]
      rw [List.append_assoc, List.singleton_append]
    rw [if_pos ends, isStem, Bool.or_eq_true, decide_eq_true_iff, List.isPrefixOf_iff_prefix]
    refine or_congr Iff.rfl (exists_congr fun rest => ?_)
    rw [joins, eq_comm]
  · have ends : ¬ endsWith boundary "/" = true := by
      intro suffix
      rcases List.isSuffixOf_iff_suffix.mp suffix with ⟨front, isText⟩
      apply slash
      rw [<- isText]
      exact List.getLast?_concat
    have joins : ∀ rest, (boundary ++ "/").toList ++ rest = boundary.toList ++ '/' :: rest := by
      intro rest
      rw [String.toList_append, List.append_assoc]
      rfl
    rw [if_neg ends, stem_of_no_slash slash, List.isPrefixOf_iff_prefix,
      or_iff_right (mt String.toList_inj.mp same)]
    refine exists_congr fun rest => ?_
    rw [joins, eq_comm]

theorem normalizeChars_no_backslash {path : List Char} : '\\' ∉ normalizeChars path := by
  intro member
  unfold normalizeChars at member
  have replaced : '\\' ∈ (trimChars path).map slashes := by
    have kept := (List.dropWhile_suffix _).subset member
    split_ifs at kept
    · exact List.mem_of_mem_drop kept
    · exact kept
  rcases List.mem_map.mp replaced with ⟨c, _, same⟩
  unfold slashes at same
  split_ifs at same with backslash
  · cases same
  · exact backslash same

theorem normalizeChars_head (path : List Char) : (normalizeChars path).head? ≠ some '/' := by
  unfold normalizeChars
  dsimp only
  generalize (if ['.', '/'].isPrefixOf ((trimChars path).map slashes) = true then
    ((trimChars path).map slashes).drop 2 else (trimChars path).map slashes) = text
  intro isSlash
  have found := List.head?_dropWhile_not (fun c => decide (c = '/')) text
  rw [isSlash] at found
  cases found

/-- A leading `./` shields the rest of a normalised text. -/
theorem normalizeChars_shielded {text : List Char} (noBackslash : '\\' ∉ text)
    (noSlash : text.head? ≠ some '/') (nonempty : text ≠ []) :
    normalizeChars ('.' :: (('/' :: text) ++ ['/'])) = text ++ ['/'] := by
  have keeps : ∀ c, c ∈ text -> slashes c = c := by
    intro c member
    unfold slashes
    rw [if_neg]
    intro backslash
    exact noBackslash (backslash ▸ member)
  have mapped : ('.' :: (('/' :: text) ++ ['/'])).map slashes = '.' :: '/' :: (text ++ ['/']) := by
    rw [List.map_cons, List.map_append, List.map_cons, List.map_congr_left keeps, List.map_id']
    rfl
  unfold normalizeChars
  rw [trimChars_of_visible_ends (by decide) (by decide), mapped]
  dsimp only
  rw [if_pos (by simp [List.isPrefixOf])]
  cases text with
  | nil => exact absurd rfl nonempty
  | cons first rest =>
    have visible : first ≠ '/' := fun same => noSlash (congrArg some same)
    rw [List.drop_succ_cons, List.drop_succ_cons, List.drop_zero, List.cons_append,
      List.dropWhile_cons_of_neg (by simpa using visible)]

/-! ## Protected paths -/

/-- The path, with its dot components resolved, is the prefix or below it. -/
def AtOrBelow (boundary path : String) : Prop :=
  components (normalize boundary).toList <+:
    resolve (components (normalize path).toList)

instance (boundary path : String) : Decidable (AtOrBelow boundary path) :=
  inferInstanceAs (Decidable (_ <+: _))

/-- An immutable prefix that no longer mutable one overrides. -/
def Protected (policy : ArchitectureBoundaryPolicy) (path : String) : Prop :=
  ∃ boundary, boundary ∈ policy.immutablePrefixes /\ AtOrBelow boundary path /\
      ∀ mutable, mutable ∈ policy.mutablePrefixes -> AtOrBelow mutable path ->
        (components (normalize mutable).toList).length <=
          (components (normalize boundary).toList).length

/-- The text of the path after its dot components are resolved. -/
def resolvedText (path : String) : String :=
  String.ofList (render
    (resolve (components (normalize path).toList)))

/-! ## Paths that the guard reads rightly -/

open ArchitectureBoundaryPolicy

theorem matches_iff : Matches prefixes path ↔ ∃ boundary, boundary ∈ prefixes /\
        Covers (normalize boundary).toList (normalize path).toList := by
  unfold Matches
  simp only [prefixMatches_iff]

/-- What it means that a path is written in resolved form. -/
structure WrittenResolved (path : String) : Prop where
  components : components (normalize path).toList =
    resolve (components (normalize path).toList)
  noSlash : (normalize path).toList.getLast? ≠ some '/'

theorem writtenResolved_iff : WrittenResolved path ↔ resolvedText path = normalize path := by
  have proper : Proper (resolve (components (normalize path).toList)) :=
    proper_resolve fun _ member => components_no_slash member
  constructor
  · intro written
    apply String.toList_inj.mp
    unfold resolvedText
    rw [String.toList_ofList, <- written.components]
    exact render_components written.noSlash
  · intro same
    have rendered : render (resolve
        (components (normalize path).toList)) = (normalize path).toList := by
      have texts := congrArg String.toList same
      unfold resolvedText at texts
      rw [String.toList_ofList] at texts
      exact texts
    constructor
    · have parts := components_render proper
      rw [rendered] at parts
      exact parts
    · have last := render_getLast proper
      rw [rendered] at last
      exact last

/-- A mutable prefix that matches the text of a resolved path lies above it. -/
theorem WrittenResolved.atOrBelow_of_covers (written : WrittenResolved path)
    (covers : Covers (normalize boundary).toList (normalize path).toList) :
    AtOrBelow boundary path := by
  unfold AtOrBelow
  rw [<- written.components]
  apply components_prefix_of_covers (fun _ => written.noSlash) _ covers
  intro noPath
  rw [noPath] at covers
  rcases covers with ⟨nonempty, atStem | ⟨rest, below⟩⟩
  · have head := normalizeChars_head boundary.toList
    rw [<- normalize_toList] at head
    by_cases slash : (normalize boundary).toList.getLast? = some '/'
    · have isSlash := eq_stem_slash slash
      rw [<- atStem] at isSlash
      rw [isSlash] at head
      exact head rfl
    · rw [stem_of_no_slash slash] at atStem
      exact nonempty atStem.symm
  · simp at below

theorem WrittenResolved.denied (written : WrittenResolved path)
    {policy : ArchitectureBoundaryPolicy} (isProtected : Protected policy path) :
    policy.Denies path := by
  rcases isProtected with ⟨boundary, immutable, below, longest⟩
  rw [denies_iff]
  by_cases empty : (normalize boundary).toList = []
  · right
    rw [matches_iff]
    rintro ⟨mutable, member, covers⟩
    have short := longest mutable member (written.atOrBelow_of_covers covers)
    rw [empty] at short
    unfold DottedPath.components at short
    rw [if_neg covers.1, if_pos rfl, List.length_nil, Nat.le_zero, List.length_eq_zero_iff] at short
    exact List.splitOn_ne_nil '/' _ short
  · left
    unfold AtOrBelow at below
    rw [<- written.components] at below
    exact matches_iff.mpr ⟨boundary, immutable, DottedPath.covers_of_components_prefix empty below⟩

theorem normalize_empty : (normalize "").toList = [] := by
  rw [normalize_toList]
  rfl

theorem atOrBelow_empty {path : String} : AtOrBelow "" path := by
  unfold AtOrBelow
  rw [normalize_empty]
  exact List.nil_prefix

/-- The empty prefix protects what no mutable prefix is above of, but the guard
lets a mutable prefix match the text all the same. -/
theorem not_denied_of_covers {mutable : String}
    (covers : Covers (normalize mutable).toList (normalize path).toList)
    (elsewhere : ¬ AtOrBelow mutable path) :
    Protected ⟨[""], [mutable]⟩ path /\
      ¬ Denies ⟨[""], [mutable]⟩ path := by
  constructor
  · refine ⟨"", List.mem_singleton_self "", atOrBelow_empty, ?_⟩
    intro other member below
    rw [List.mem_singleton.mp member] at below
    exact absurd below elsewhere
  · rw [denies_iff, matches_iff, matches_iff]
    rintro (⟨boundary, member, nothing⟩ | unmatched)
    · rw [List.mem_singleton.mp member] at nothing
      exact nothing.1 normalize_empty
    · exact unmatched ⟨mutable, List.mem_singleton_self mutable, covers⟩

theorem writtenResolved_of_denied (denied : ∀ policy, Protected policy path -> policy.Denies path) :
    WrittenResolved path := by
  have nothingCovers : ∀ mutable,
      DottedPath.Covers (normalize mutable).toList (normalize path).toList ->
      AtOrBelow mutable path := by
    intro mutable covers
    by_contra elsewhere
    rcases not_denied_of_covers covers elsewhere with ⟨isProtected, allowed⟩
    exact allowed (denied _ isProtected)
  have components : DottedPath.components (normalize path).toList =
      DottedPath.resolve (DottedPath.components (normalize path).toList) := by
    by_cases empty : (normalize path).toList = []
    · rw [empty]
      rfl
    · have below := nothingCovers path (DottedPath.covers_self empty)
      exact below.eq_of_length_le DottedPath.resolve_length
  refine ⟨components, fun slash => ?_⟩
  -- With a slash at the end, the same text with one more slash matches it too.
  have nonempty : (normalize path).toList ≠ [] := by
    intro empty
    rw [empty] at slash
    cases slash
  have longer : (normalize ("./" ++ normalize path ++ "/")).toList =
      (normalize path).toList ++ ['/'] := by
    rw [normalize_toList, normalize_toList] at *
    rw [String.toList_append, String.toList_append, normalize_toList]
    exact normalizeChars_shielded normalizeChars_no_backslash (normalizeChars_head _) nonempty
  have covers : DottedPath.Covers (normalize ("./" ++ normalize path ++ "/")).toList
      (normalize path).toList := by
    rw [longer]
    exact ⟨by simp, Or.inl DottedPath.stem_slash.symm⟩
  have below := nothingCovers _ covers
  unfold AtOrBelow at below
  rw [<- components, longer] at below
  have fewer := below.length_le
  unfold DottedPath.components at fewer
  rw [if_neg (by simp), if_neg nonempty, DottedPath.stem_slash] at fewer
  have isPath := DottedPath.eq_stem_slash slash
  generalize DottedPath.stem (normalize path).toList = stem at isPath fewer
  rw [isPath, List.splitOn_append_cons_self, List.length_append] at fewer
  have more : 0 < (([] : List Char).splitOn '/').length := by decide
  omega

/-- Every policy denies a path that it protects exactly when the path is
written in resolved form: its normalised text has no dot components to resolve,
no empty ones and no slash at the end. -/
theorem protected_path_denied_iff (path : String) :
    (∀ policy : ArchitectureBoundaryPolicy, Protected policy path -> policy.Denies path) ↔
      resolvedText path = normalize path := by
  rw [<- writtenResolved_iff]
  constructor
  · exact writtenResolved_of_denied
  · intro written policy isProtected
    exact written.denied isProtected

/-! ### Prefixes that are not empty -/

/-- A prefix with the components of the resolved path. -/
def resolvedPrefix (path : String) : String :=
  "./" ++ resolvedText path ++ "/"

section ResolvedPrefix

variable (below : resolve (components (normalize path).toList) ≠ [])

include below

theorem normalize_resolvedPrefix : (normalize (resolvedPrefix path)).toList =
    render (resolve (components (normalize path).toList)) ++ ['/'] := by
  have proper : Proper (resolve (components (normalize path).toList)) :=
    proper_resolve fun _ member => components_no_slash member
  have noBackslash : '\\' ∉ render (resolve (components (normalize path).toList)) := by
    intro member
    have inPath := mem_of_mem_render_resolve (by decide) member
    rw [normalize_toList] at inPath
    exact normalizeChars_no_backslash inPath
  unfold resolvedPrefix resolvedText
  generalize resolve (components (normalize path).toList) = parts at *
  have nonempty : render parts ≠ [] := by
    intro noText
    have same := components_render proper
    rw [noText] at same
    exact below same.symm
  have head : (render parts).head? ≠ some '/' := by
    intro slash
    rcases List.head?_eq_some_iff.mp slash with ⟨rest, isText⟩
    have splits := splitOn_render proper below
    rw [isText, <- List.nil_append ('/' :: rest), List.splitOn_append_cons_self] at splits
    have first : [] ∈ parts := by
      rw [<- splits]
      exact List.mem_append_left _ List.mem_cons_self
    exact (proper [] first).1 rfl
  rw [normalize_toList, String.toList_append, String.toList_append,
    @String.toList_ofList (render parts)]
  exact normalizeChars_shielded noBackslash head nonempty

theorem components_resolvedPrefix : components (normalize (resolvedPrefix path)).toList =
    resolve (components (normalize path).toList) := by
  unfold DottedPath.components
  rw [normalize_resolvedPrefix below, if_neg (by simp), stem_slash]
  exact splitOn_render (proper_resolve fun _ member => components_no_slash member) below

/-- The prefix protects the path, even if the path is listed as mutable. -/
theorem protected_of_resolvedPrefix : Protected ⟨[resolvedPrefix path], [path]⟩ path := by
  refine ⟨_, List.mem_singleton_self _, ?_, ?_⟩
  · unfold AtOrBelow
    rw [components_resolvedPrefix below]
  · intro mutable _ above
    rw [components_resolvedPrefix below]
    exact above.length_le

/-- The text of the path starts with the prefix only if it resolves to a front
of its own components. -/
theorem front_of_resolvedPrefix_covers (nonempty : (normalize path).toList ≠ [])
    (covers : Covers (normalize (resolvedPrefix path)).toList (normalize path).toList) :
    resolve (components (normalize path).toList) <+: components (normalize path).toList := by
  rw [<- components_resolvedPrefix below]
  refine components_prefix_of_covers (fun same => ?_) nonempty covers
  rw [same, normalize_resolvedPrefix below, stem_slash]
  exact render_getLast (proper_resolve fun _ member => components_no_slash member)

end ResolvedPrefix

/-- For policies without an empty immutable prefix, a path is denied wherever it
is protected exactly when it resolves to nothing or to a front of its own
components. -/
theorem protected_path_denied_iff_front (path : String) :
    (∀ policy : ArchitectureBoundaryPolicy,
        (∀ boundary, boundary ∈ policy.immutablePrefixes -> normalize boundary ≠ "") ->
        Protected policy path -> policy.Denies path) ↔
      resolve (components (normalize path).toList) = [] \/
        resolve (components (normalize path).toList) <+: components (normalize path).toList := by
  constructor
  · intro denied
    by_contra neither
    rcases not_or.mp neither with ⟨below, elsewhere⟩
    have nonempty : (normalize path).toList ≠ [] := by
      intro empty
      rw [empty] at below
      exact below rfl
    have named : normalize (resolvedPrefix path) ≠ "" := by
      intro empty
      have isText := normalize_resolvedPrefix below
      rw [empty] at isText
      exact List.append_ne_nil_of_right_ne_nil _ (List.cons_ne_nil _ _) isText.symm
    have denies := denied ⟨[resolvedPrefix path], [path]⟩
      (fun boundary member => List.mem_singleton.mp member ▸ named)
      (protected_of_resolvedPrefix below)
    rw [denies_iff, matches_iff, matches_iff] at denies
    rcases denies with ⟨boundary, member, covers⟩ | unmatched
    · rw [List.mem_singleton.mp member] at covers
      exact elsewhere (front_of_resolvedPrefix_covers below nonempty covers)
    · exact unmatched ⟨path, List.mem_singleton_self path, covers_self nonempty⟩
  · rintro front policy named ⟨boundary, immutable, below, _⟩
    rw [denies_iff]
    left
    have nonempty : (normalize boundary).toList ≠ [] := fun empty =>
      named boundary immutable (String.toList_eq_nil_iff.mp empty)
    refine matches_iff.mpr ⟨boundary, immutable, covers_of_components_prefix nonempty ?_⟩
    rcases front with nothing | front
    · unfold AtOrBelow at below
      rw [nothing, List.prefix_nil] at below
      rw [below]
      exact List.nil_prefix
    · exact below.trans front

/-- The path leads out of the mutable `docs/` to a core file. -/
theorem climbing_path_allowed : Protected .default "docs/../crates/kernel/src/kernel.rs" /\
      ¬ default.Denies "docs/../crates/kernel/src/kernel.rs" := by
  constructor
  · refine ⟨"crates/kernel/src/kernel.rs", by decide, by decide +kernel, ?_⟩
    decide +kernel
  · intro denies
    have denied := denies ["docs/../crates/kernel/src/kernel.rs"] List.mem_cons_self
    have nothing : (default.evaluatePaths
        ["docs/../crates/kernel/src/kernel.rs"]).deniedPaths = [] := by
      decide +kernel
    rw [nothing] at denied
    cases denied

end LoongClaw.Kernel
