import Mathlib.Data.List.Basic

namespace LoongClaw.Channel

/-!
# Chunks of a Telegram message

A message that is too long for Telegram is sent in chunks.  Each chunk ends
after the last newline of the part that fits, or after its last space, or
where the part ends.  The limits count characters and the cuts are made at byte
offsets; one inside of a character would end the call.
-/

def telegramMaxMessageLength : Nat := 4096
def telegramContinuationOverhead : Nat := 30

/-- The offset in bytes of the character at an index, or the length if there is
none. -/
def byteOffset (text : List Char) (index : Nat) : Nat :=
  (text.take index).foldr (fun c bytes => c.utf8Size + bytes) 0

/-- The parts of a text before and after a byte offset between two characters. -/
def splitAtByte : Nat -> List Char -> Option (List Char × List Char)
  | 0, text => some ([], text)
  | _ + 1, [] => none
  | offset + 1, c :: rest =>
    if c.utf8Size <= offset + 1 then
      (splitAtByte (offset + 1 - c.utf8Size) rest).map fun parts => (c :: parts.1, parts.2)
    else none

/-- The offset of the last occurrence of a character. -/
def rfind (c : Char) (area : List Char) : Option Nat :=
  (area.reverse.idxOf? c).map fun back => byteOffset area (area.length - 1 - back)

/-- The offset at which the next chunk of a text ends that does not fit. -/
def chunkEnd (limit : Nat) (remaining : List Char) : Nat :=
  let hardSplit := byteOffset remaining limit
  if hardSplit = byteOffset remaining remaining.length then hardSplit
  else
    let searchArea := remaining.take limit
    let candidate := ((rfind '\n' searchArea).map (· + 1)).or ((rfind ' ' searchArea).map (· + 1))
    match candidate with
    | some position => if position <= hardSplit then position else hardSplit
    | none => hardSplit

/-- The chunks of a text, in at most the given number of rounds of the loop. -/
def splitRemaining : Nat -> List Char -> Option (List (List Char))
  | 0, _ => none
  | rounds + 1, remaining =>
    let limit := telegramMaxMessageLength - telegramContinuationOverhead
    if remaining = [] then some []
    else if remaining.length <= limit then some [remaining]
    else
      (splitAtByte (chunkEnd limit remaining) remaining).bind fun parts =>
        (splitRemaining rounds parts.2).map (parts.1 :: ·)

def splitMessageForTelegram (rounds : Nat) (message : String) : Option (List String) :=
  if message.length <= telegramMaxMessageLength then some [message]
  else (splitRemaining rounds message.toList).map (List.map String.ofList)

/-- The text that is sent for a chunk, with the marks that it continues. -/
def textToSend (chunks : List String) (index : Nat) (chunk : String) : String :=
  if 1 < chunks.length then
    if index = 0 then chunk ++ "\n\n(continues...)"
    else if index = chunks.length - 1 then "(continued)\n\n" ++ chunk
    else "(continued)\n\n" ++ chunk ++ "\n\n(continues...)"
  else chunk

/-- Every chunk but an unsplit message leaves room for the marks, and none is
empty. -/
def Fits (chunk : List Char) : Prop :=
  chunk ≠ [] /\ chunk.length <= telegramMaxMessageLength - telegramContinuationOverhead

/-! ## Cuts between characters -/

section Offsets

variable {c : Char} {text area remaining : List Char} {index limit position : Nat}

theorem byteOffset_cons : byteOffset (c :: text) (index + 1) =
    c.utf8Size + byteOffset text index := rfl

theorem byteOffset_take (within : index <= limit) :
    byteOffset (text.take limit) index = byteOffset text index := by
  unfold byteOffset
  rw [List.take_take, Nat.min_eq_left within]

theorem byteOffset_succ (inside : index < text.length) :
    byteOffset text (index + 1) = byteOffset text index + text[index].utf8Size := by
  induction text generalizing index with
  | nil => cases inside
  | cons c rest ih =>
    cases index with
    | zero => exact Nat.add_comm _ _
    | succ index =>
      rw [byteOffset_cons, byteOffset_cons, ih (Nat.lt_of_succ_lt_succ inside), Nat.add_assoc]
      rfl

theorem splitAtByte_byteOffset (within : index <= text.length) :
    splitAtByte (byteOffset text index) text = some (text.take index, text.drop index) := by
  induction text generalizing index with
  | nil => cases Nat.le_zero.mp within; rfl
  | cons c rest ih =>
    cases index with
    | zero => rfl
    | succ index =>
      rcases Nat.exists_eq_add_one_of_ne_zero (Nat.ne_of_gt c.utf8Size_pos) with ⟨bytes, isSize⟩
      have later : bytes + 1 + byteOffset rest index = (bytes + byteOffset rest index) + 1 := by
        omega
      rw [byteOffset_cons, isSize, later, splitAtByte, isSize, if_pos (by omega), <- later,
        Nat.add_sub_cancel_left, ih (Nat.le_of_succ_le_succ within)]
      rfl

/-- What follows a character of one byte is again at the start of a character. -/
theorem rfind_boundary (oneByte : c.utf8Size = 1) (found : rfind c area = some position) :
    ∃ index, index < area.length /\ position + 1 = byteOffset area (index + 1) := by
  rcases Option.map_eq_some_iff.mp found with ⟨back, isBack, rfl⟩
  rcases List.idxOf?_eq_some_iff.mp isBack with ⟨inside, same, _⟩
  rw [List.length_reverse] at inside
  refine ⟨area.length - 1 - back, by omega, ?_⟩
  rw [List.getElem_reverse] at same
  rw [byteOffset_succ (by omega), same, oneByte]

/-- A chunk ends after a character, and not beyond the limit. -/
theorem chunkEnd_boundary (positive : 0 < limit) (long : limit < remaining.length) :
    ∃ index, 0 < index /\ index <= limit /\
      chunkEnd limit remaining = byteOffset remaining index := by
  have ends : ∀ c, c.utf8Size = 1 -> ∀ position, (rfind c (remaining.take limit)).map (· + 1) =
      some position -> ∃ index, 0 < index /\ index <= limit /\
        position = byteOffset remaining index := by
    intro c oneByte position found
    rcases Option.map_eq_some_iff.mp found with ⟨place, isPlace, rfl⟩
    rcases rfind_boundary oneByte isPlace with ⟨index, inside, same⟩
    have within : index + 1 <= limit := by
      rw [List.length_take] at inside
      omega
    exact ⟨index + 1, Nat.succ_pos index, within, by rw [same, byteOffset_take within]⟩
  unfold chunkEnd
  dsimp only
  split
  · exact ⟨limit, positive, Nat.le_refl limit, rfl⟩
  · split
    · rename_i position found
      split
      · rcases Option.or_eq_some_iff.mp found with newline | ⟨_, space⟩
        · exact ends '\n' (by decide) position newline
        · exact ends ' ' (by decide) position space
      · exact ⟨limit, positive, Nat.le_refl limit, rfl⟩
    · exact ⟨limit, positive, Nat.le_refl limit, rfl⟩

end Offsets

/-! ## The chunks -/

/-- With more rounds than characters the loop has ended, with chunks that fit
and add up to the text. -/
theorem splitRemaining_spec (remaining : List Char) : ∃ chunks : List (List Char),
    (∀ rounds, remaining.length < rounds -> splitRemaining rounds remaining = some chunks) /\
      chunks.flatten = remaining /\ ∀ chunk, chunk ∈ chunks -> Fits chunk := by
  induction length : remaining.length using Nat.strongRecOn generalizing remaining with
  | _ size ih =>
    let limit := telegramMaxMessageLength - telegramContinuationOverhead
    have next : ∀ rounds, size < rounds -> ∃ fewer, rounds = fewer + 1 /\ size <= fewer := by
      intro rounds enough
      exact ⟨rounds - 1, by omega, by omega⟩
    by_cases empty : remaining = []
    · refine ⟨[], ?_, empty.symm, by simp⟩
      intro rounds enough
      rcases next rounds enough with ⟨fewer, rfl, _⟩
      rw [splitRemaining, if_pos empty]
    by_cases fits : remaining.length <= limit
    · refine ⟨[remaining], ?_, by simp, ?_⟩
      · intro rounds enough
        rcases next rounds enough with ⟨fewer, rfl, _⟩
        rw [splitRemaining, if_neg empty, if_pos fits]
      · intro chunk member
        rw [List.mem_singleton.mp member]
        exact ⟨empty, fits⟩
    · have long := Nat.lt_of_not_le fits
      rcases chunkEnd_boundary (by decide) long with ⟨index, positive, within, isEnd⟩
      rcases ih (remaining.drop index).length (by rw [List.length_drop]; omega) _ rfl with
        ⟨chunks, ends, whole, fit⟩
      refine ⟨remaining.take index :: chunks, ?_, ?_, ?_⟩
      · intro rounds enough
        rcases next rounds enough with ⟨fewer, rfl, later⟩
        have parts := splitAtByte_byteOffset (show index <= remaining.length by omega)
        rw [splitRemaining, if_neg empty, if_neg fits, isEnd, parts, Option.bind_some,
          ends fewer (by rw [List.length_drop]; omega), Option.map_some]
      · rw [List.flatten_cons, whole, List.take_append_drop]
      · intro chunk member
        rcases List.mem_cons.mp member with first | later
        · have taken : chunk.length = index := by
            rw [first, List.length_take]
            omega
          refine ⟨?_, by rw [taken]; exact within⟩
          rintro rfl
          rw [List.length_nil] at taken
          omega
        · exact fit chunk later

/-- The chunks of a message add up to it and are not empty, the loop ends, and
with its marks every chunk is within the limit of Telegram. -/
theorem message_chunks (message : String) : ∃ chunks,
    (∀ rounds, message.length < rounds -> splitMessageForTelegram rounds message = some chunks) /\
      chunks.flatMap String.toList = message.toList /\ (message ≠ "" -> "" ∉ chunks) /\
      ∀ chunk index, (chunk, index) ∈ chunks.zipIdx ->
        (textToSend chunks index chunk).length <= telegramMaxMessageLength := by
  by_cases short : message.length <= telegramMaxMessageLength
  · refine ⟨[message], ?_, by simp, ?_, ?_⟩
    · intro rounds _
      exact if_pos short
    · intro nonempty member
      exact nonempty (List.mem_singleton.mp member).symm
    · intro chunk index member
      have same : chunk = message := List.mem_singleton.mp (List.fst_mem_of_mem_zipIdx member)
      rw [same]
      exact short
  · rcases splitRemaining_spec message.toList with ⟨chunks, ends, whole, fit⟩
    have fits : ∀ chunk, chunk ∈ chunks.map String.ofList -> Fits chunk.toList := by
      intro chunk member
      rcases List.mem_map.mp member with ⟨chars, inside, rfl⟩
      rw [String.toList_ofList]
      exact fit chars inside
    refine ⟨chunks.map String.ofList, ?_, ?_, ?_, ?_⟩
    · intro rounds enough
      unfold splitMessageForTelegram
      rw [if_neg short, ends rounds enough, Option.map_some]
    · rw [List.flatMap_map, <- whole]
      simp
    · intro _ member
      exact (fits "" member).1 rfl
    · intro chunk index member
      have within : chunk.length <= 4066 := (fits chunk (List.fst_mem_of_mem_zipIdx member)).2
      have before : "(continued)\n\n".length = 13 := rfl
      have after : "\n\n(continues...)".length = 16 := rfl
      unfold textToSend telegramMaxMessageLength
      split_ifs
      · rw [String.length_append]
        omega
      · rw [String.length_append]
        omega
      · rw [String.length_append, String.length_append]
        omega
      · omega

end LoongClaw.Channel
