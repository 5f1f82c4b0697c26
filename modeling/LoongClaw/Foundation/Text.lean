import Mathlib.Data.List.DropRight

namespace LoongClaw.Foundation

/-!
# Text operations on Unicode strings

The string functions of the host language, at the level of scalar values.
Whitespace is the Unicode `White_Space` property, lower-casing is restricted
to ASCII, and the length of a text is its number of UTF-8 bytes.
-/

namespace Text

/-- The Unicode `White_Space` property. -/
def isWhitespace (c : Char) : Bool :=
  let code := c.toNat
  (9 <= code && code <= 13) || code == 0x20 || code == 0x85 || code == 0xA0 || code == 0x1680 ||
    (0x2000 <= code && code <= 0x200A) || code == 0x2028 || code == 0x2029 || code == 0x202F ||
    code == 0x205F || code == 0x3000

def trimChars (chars : List Char) : List Char :=
  ((chars.dropWhile isWhitespace).reverse.dropWhile isWhitespace).reverse

variable (text : String)

/-- Remove leading and trailing whitespace. -/
def trim : String :=
  String.ofList (trimChars text.toList)

/-- The maximal whitespace-free pieces, in order. -/
def words (chars : List Char) : List (List Char) :=
  (chars.splitOnP isWhitespace).filter (fun word => !word.isEmpty)

def splitWhitespace : List String :=
  (words text.toList).map String.ofList

def toAsciiLower (c : Char) : Char :=
  if 65 <= c.toNat && c.toNat <= 90 then Char.ofNat (c.toNat + 32) else c

def toAsciiLowercase : String :=
  String.ofList (text.toList.map toAsciiLower)

def containsChar (c : Char) : Bool :=
  text.toList.contains c

/-- Some character satisfies the predicate. -/
def containsAny (predicate : Char -> Bool) : Bool :=
  text.toList.any predicate

def containsChars (pattern : List Char) : List Char -> Bool
  | [] => pattern.isEmpty
  | head :: rest => pattern.isPrefixOf (head :: rest) || containsChars pattern rest

/-- The text has `pattern` as a contiguous part. -/
def containsText (text pattern : String) : Bool :=
  containsChars pattern.toList text.toList

def startsWith (text start : String) : Bool :=
  start.toList.isPrefixOf text.toList

def endsWith (text ending : String) : Bool :=
  ending.toList.isSuffixOf text.toList

/-- The text without a leading part, if it has it. -/
def stripStart (start text : String) : String :=
  if startsWith text start then String.ofList (text.toList.drop start.toList.length) else text

def eqIgnoreAsciiCase (first second : String) : Bool :=
  decide (toAsciiLowercase first = toAsciiLowercase second)

/-- The trimmed text, unless nothing is left of it. -/
def filled (value : Option String) : Option String :=
  (value.map trim).filter (fun text => decide (text ≠ ""))

/-- The text in the host language's debug form; characters that need an escape
other than quotes and backslashes are written as they are. -/
def debug : String :=
  "\"" ++ (text.replace "\\" "\\\\").replace "\"" "\\\"" ++ "\""

/-- The parts before and after the first separator. -/
def splitOnce (separator : Char) (text : String) : Option (String × String) :=
  match text.toList.dropWhile (· != separator) with
  | [] => none
  | _ :: rest =>
    some (String.ofList (text.toList.takeWhile (· != separator)), String.ofList rest)

/-- The characters before and after the first occurrence of a pattern. -/
def breakOn (pattern : List Char) : List Char -> Option (List Char × List Char)
  | [] => if pattern.isEmpty then some ([], []) else none
  | head :: rest =>
    if pattern.isPrefixOf (head :: rest) then
      some ([], (head :: rest).drop pattern.length)
    else (breakOn pattern rest).map fun parts => (head :: parts.1, parts.2)

/-! ## Trimming -/

theorem trim_trim : trim (trim text) = trim text := by
  have asDrops : ∀ chars,
      trimChars chars = (chars.dropWhile isWhitespace).rdropWhile isWhitespace := fun _ => rfl
  have front :
      ((text.toList.dropWhile isWhitespace).rdropWhile isWhitespace).dropWhile isWhitespace =
        (text.toList.dropWhile isWhitespace).rdropWhile isWhitespace := by
    rw [List.dropWhile_eq_self_iff]
    intro nonempty
    have lead := List.rdropWhile_prefix isWhitespace (l := text.toList.dropWhile isWhitespace)
    have longer : 0 < (text.toList.dropWhile isWhitespace).length :=
      Nat.lt_of_lt_of_le nonempty lead.length_le
    rw [lead.getElem nonempty]
    exact List.dropWhile_get_zero_not _ _ longer
  unfold trim
  rw [String.toList_ofList, asDrops, asDrops, front, List.rdropWhile_idempotent]

variable {text : String} {c separator : Char} {chars : List Char} {first second : String}

theorem dropWhile_of_visible (visible : ∀ c, c ∈ chars -> isWhitespace c = false) :
    chars.dropWhile isWhitespace = chars := by
  rw [List.dropWhile_eq_self_iff]
  intro nonempty
  rw [visible _ (List.getElem_mem nonempty)]
  exact Bool.false_ne_true

theorem trim_of_visible (visible : ∀ c, c ∈ text.toList -> isWhitespace c = false) :
    trim text = text := by
  unfold trim trimChars
  rw [dropWhile_of_visible visible,
    dropWhile_of_visible (fun c member => visible c (List.mem_reverse.mp member)),
    List.reverse_reverse, String.ofList_toList]

/-! ## Lower case -/

theorem toNat_ofNat_small {code : Nat} (small : code < 128) : (Char.ofNat code).toNat = code := by
  have valid : code.isValidChar := Or.inl (by omega)
  rw [Char.ofNat, dif_pos valid]
  rfl

theorem isWhitespace_toAsciiLower (c : Char) : isWhitespace (toAsciiLower c) = isWhitespace c := by
  unfold toAsciiLower
  split
  · case isTrue upper =>
      rw [Bool.and_eq_true, decide_eq_true_iff, decide_eq_true_iff] at upper
      have visible : ∀ code, 65 <= code -> code <= 122 ->
          ((9 <= code && code <= 13) || code == 0x20 || code == 0x85 || code == 0xA0 ||
            code == 0x1680 || (0x2000 <= code && code <= 0x200A) || code == 0x2028 ||
            code == 0x2029 || code == 0x202F || code == 0x205F || code == 0x3000) = false := by
        intro code above below
        simp
        omega
      unfold isWhitespace
      rw [toNat_ofNat_small (by omega)]
      rw [visible _ (by omega) (by omega), visible _ (by omega) (by omega)]
  · rfl

theorem toAsciiLower_toAsciiLower (c : Char) : toAsciiLower (toAsciiLower c) = toAsciiLower c := by
  unfold toAsciiLower
  split
  · case isTrue upper =>
      rw [Bool.and_eq_true, decide_eq_true_iff, decide_eq_true_iff] at upper
      rw [toNat_ofNat_small (by omega), if_neg]
      rw [Bool.and_eq_true, decide_eq_true_iff, decide_eq_true_iff]
      omega
  · rfl

/-- Trimming and lower-casing once more changes nothing. -/
theorem toAsciiLowercase_trim_idempotent (text : String) :
    toAsciiLowercase (trim (toAsciiLowercase (trim text))) = toAsciiLowercase (trim text) := by
  have same : isWhitespace ∘ toAsciiLower = isWhitespace := funext isWhitespace_toAsciiLower
  have trimMap : ∀ chars : List Char,
      trimChars (chars.map toAsciiLower) = (trimChars chars).map toAsciiLower := by
    intro chars
    unfold trimChars
    rw [List.dropWhile_map, same, <- List.map_reverse, List.dropWhile_map, same, List.map_reverse]
  have twice : toAsciiLower ∘ toAsciiLower = toAsciiLower := funext toAsciiLower_toAsciiLower
  have trimmed := congrArg String.toList (trim_trim text)
  simp only [trim, String.toList_ofList] at trimmed
  simp only [toAsciiLowercase, trim, String.toList_ofList]
  rw [trimMap, trimmed, List.map_map, twice]

theorem visible_of_all (all : (text.toList.all fun c => !isWhitespace c) = true) :
    ∀ c, c ∈ text.toList -> isWhitespace c = false := by
  intro c member
  simpa using List.all_eq_true.mp all c member

theorem filled_eq_some_iff {value : Option String} : filled value = some text ↔
      text ≠ "" /\ ∃ raw, value = some raw /\ trim raw = text := by
  unfold filled
  rw [Option.filter_eq_some_iff, Option.map_eq_some_iff, decide_eq_true_iff]
  exact and_comm

/-- What is left after trimming keeps its first character. -/
theorem trim_ne_empty_of_visible {rest : List Char} (start : text.toList = c :: rest)
    (visible : isWhitespace c = false) : trim text ≠ "" := by
  intro blank
  have dropped : trimChars (c :: rest) = [] := by
    have empty := congrArg String.toList blank
    unfold trim at empty
    rw [String.toList_ofList, start] at empty
    exact empty
  unfold trimChars at dropped
  rw [List.dropWhile_cons_of_neg (by simp [visible]), List.reverse_eq_nil_iff,
    List.dropWhile_eq_nil_iff] at dropped
  have whitespace := dropped c (List.mem_reverse.mpr List.mem_cons_self)
  rw [visible] at whitespace
  exact Bool.false_ne_true whitespace

/-- Nothing is trimmed between visible characters. -/
theorem trimChars_of_visible_ends {first last : Char} {middle : List Char}
    (firstVisible : isWhitespace first = false) (lastVisible : isWhitespace last = false) :
    trimChars (first :: (middle ++ [last])) = first :: (middle ++ [last]) := by
  unfold trimChars
  rw [List.dropWhile_cons_of_neg (by simp [firstVisible]), List.reverse_cons,
    List.reverse_append, List.reverse_singleton, List.singleton_append, List.cons_append,
    List.dropWhile_cons_of_neg (by simp [lastVisible])]
  simp

/-! ## Words -/

theorem words_append_cons (first second : List Char) (whitespace : isWhitespace separator = true) :
    words (first ++ separator :: second) = words first ++ words second := by
  unfold words
  rw [List.splitOnP_append_cons first second whitespace, List.filter_append]

theorem words_cons_of_whitespace (whitespace : isWhitespace c = true) (rest : List Char) :
    words (c :: rest) = words rest :=
  words_append_cons [] rest whitespace

theorem words_cons_ne_nil (visible : isWhitespace c = false) (rest : List Char) :
    words (c :: rest) ≠ [] := by
  unfold words
  rw [List.splitOnP_cons_eq_if_modifyHead, if_neg (by simp [visible])]
  cases pieces : rest.splitOnP isWhitespace with
  | nil => exact absurd pieces (List.splitOnP_ne_nil _ _)
  | cons piece others => simp

theorem words_eq_nil_iff : words chars = [] ↔ ∀ c, c ∈ chars -> isWhitespace c = true := by
  induction chars with
  | nil => simp [words]
  | cons c rest ih =>
    cases visible : isWhitespace c with
    | true => simp [words_cons_of_whitespace visible, ih, visible]
    | false => simp [words_cons_ne_nil visible, visible]

theorem words_dropWhile {chars : List Char} :
    words (chars.dropWhile isWhitespace) = words chars := by
  induction chars with
  | nil => rfl
  | cons c rest ih =>
    cases visible : isWhitespace c with
    | true => rw [List.dropWhile_cons_of_pos visible, ih, words_cons_of_whitespace visible]
    | false => rw [List.dropWhile_cons_of_neg (by simp [visible])]

theorem words_dropWhile_reverse {chars : List Char} :
    words (chars.dropWhile isWhitespace).reverse = words chars.reverse := by
  induction chars with
  | nil => rfl
  | cons c rest ih =>
    cases visible : isWhitespace c with
    | true =>
      rw [List.dropWhile_cons_of_pos visible, ih, List.reverse_cons,
        words_append_cons rest.reverse [] visible]
      exact (List.append_nil _).symm
    | false => rw [List.dropWhile_cons_of_neg (by simp [visible])]

theorem splitWhitespace_trim {text : String} :
    splitWhitespace (trim text) = splitWhitespace text := by
  unfold splitWhitespace trim trimChars
  rw [String.toList_ofList, words_dropWhile_reverse, List.reverse_reverse, words_dropWhile]

/-- A text that trimming does not empty has a word. -/
theorem splitWhitespace_ne_nil (nonempty : trim text ≠ "") : splitWhitespace text ≠ [] := by
  intro noWords
  apply nonempty
  have whitespace := words_eq_nil_iff.mp (List.map_eq_nil_iff.mp noWords)
  unfold trim trimChars
  rw [List.dropWhile_eq_nil_iff.mpr whitespace]
  rfl

theorem splitWhitespace_append {first second : String} : splitWhitespace (first ++ " " ++ second) =
      splitWhitespace first ++ splitWhitespace second := by
  have chars : (first ++ " " ++ second).toList = first.toList ++ ' ' :: second.toList := by simp
  unfold splitWhitespace
  rw [chars, words_append_cons _ _ (by decide), List.map_append]

/-- A text without whitespace is its own only word. -/
theorem splitWhitespace_of_visible (nonempty : text ≠ "")
    (visible : ∀ c, c ∈ text.toList -> isWhitespace c = false) :
    splitWhitespace text = [text] := by
  have chars : text.toList ≠ [] := fun empty => nonempty (String.toList_eq_nil_iff.mp empty)
  unfold splitWhitespace words
  rw [List.splitOnP_eq_singleton visible]
  simp [chars]

/-! ## Splitting at a separator -/

theorem splitOnce_of_toList (parts : text.toList = first.toList ++ separator :: second.toList)
    (absent : separator ∉ first.toList) : splitOnce separator text = some (first, second) := by
  have passes : ∀ c, c ∈ first.toList -> (c != separator) = true := by
    intro c member
    refine bne_iff_ne.mpr ?_
    rintro rfl
    exact absent member
  unfold splitOnce
  rw [parts, List.dropWhile_append_of_pos passes, List.takeWhile_append_of_pos passes]
  simp

theorem toList_of_splitOnce (split : splitOnce separator text = some (first, second)) :
    text.toList = first.toList ++ separator :: second.toList := by
  unfold splitOnce at split
  cases remaining : text.toList.dropWhile (· != separator) with
  | nil => simp [remaining] at split
  | cons head rest =>
    have isSeparator : head = separator := by
      have stops := List.head?_dropWhile_not (· != separator) text.toList
      rw [remaining] at stops
      simpa using stops
    simp only [remaining, Option.some.injEq, Prod.mk.injEq] at split
    rcases split with ⟨rfl, rfl⟩
    subst isSeparator
    rw [String.toList_ofList, String.toList_ofList, <- remaining, List.takeWhile_append_dropWhile]

end Text

end LoongClaw.Foundation
