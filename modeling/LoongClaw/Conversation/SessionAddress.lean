import Mathlib.Logic.Equiv.List
import LoongClaw.Acp.Session

namespace LoongClaw.Conversation

open Foundation Text Acp

/-!
# Session addresses

A conversation of a channel is bound to a route session.  The id of the route
session is the channel and those parts of the address that are present, joined
by colons; a part that has a colon in it or looks encoded is encoded.
-/

/-- The base64 encoding of texts, with the laws that the argument uses. -/
structure SegmentEncoding where
  urlSafeNoPad : String -> String
  injective : Function.Injective urlSafeNoPad
  colonFree : ∀ text, ':' ∉ (urlSafeNoPad text).toList

structure ConversationSessionAddress where
  sessionId : String
  (channelId accountId conversationId threadId : Option String)

def routeSessionSegmentB64Prefix : String := "~b64~"

def routeSessionSegmentNeedsEncoding (value : String) : Bool :=
  containsChar value ':' || startsWith value routeSessionSegmentB64Prefix

namespace SegmentEncoding

def encodeTrimmed (encoding : SegmentEncoding) (trimmed : String) : String :=
  if routeSessionSegmentNeedsEncoding trimmed then
    routeSessionSegmentB64Prefix ++ encoding.urlSafeNoPad trimmed
  else trimmed

def encodeRouteSessionSegment (encoding : SegmentEncoding) (value : String) : String :=
  encoding.encodeTrimmed (trim value)

end SegmentEncoding

namespace ConversationSessionAddress

variable (address : ConversationSessionAddress)

def canonicalChannelId : Option String :=
  address.channelId.bind normalizeDispatchChannelId

/-- The account, conversation and thread, each trimmed, absent when empty. -/
def parts : List (Option String) :=
  [address.accountId, address.conversationId, address.threadId].map (·.bind trimmedNonEmpty)

def structuredChannelPath : List String :=
  address.parts.filterMap id

def structuredRouteSessionId (encoding : SegmentEncoding) (address : ConversationSessionAddress) :
    Option String := do
  let channelId <- address.canonicalChannelId
  let path := address.structuredChannelPath
  if path.isEmpty then return channelId
  else return channelId ++ ":" ++ ":".intercalate (path.map encoding.encodeRouteSessionSegment)

/-- Which of the parts are present. -/
def presence : List Bool :=
  address.parts.map Option.isSome

end ConversationSessionAddress

open SegmentEncoding ConversationSessionAddress

/-! ## Segments -/

variable {encoding : SegmentEncoding}

theorem colonFree_encodeTrimmed (value : String) : ':' ∉ (encoding.encodeTrimmed value).toList := by
  unfold encodeTrimmed
  split
  · rw [String.toList_append, List.mem_append, not_or]
    exact ⟨by decide, encoding.colonFree value⟩
  · rename_i plain
    intro colon
    refine plain ?_
    unfold routeSessionSegmentNeedsEncoding containsChar
    rw [List.contains_iff_mem.mpr colon, Bool.true_or]

/-- What is encoded looks so, and what looks encoded is encoded. -/
theorem encodeTrimmed_injective : Function.Injective encoding.encodeTrimmed := by
  have marked : ∀ text, routeSessionSegmentNeedsEncoding
      (routeSessionSegmentB64Prefix ++ encoding.urlSafeNoPad text) = true := by
    intro text
    unfold routeSessionSegmentNeedsEncoding startsWith
    rw [String.toList_append, List.isPrefixOf_iff_prefix.mpr (List.prefix_append _ _),
      Bool.or_true]
  intro left right same
  unfold encodeTrimmed at same
  split at same
  · split at same
    · exact encoding.injective ((String.append_right_inj _).mp same)
    · rename_i plain
      exact absurd (same ▸ marked left) plain
  · rename_i plain
    split at same
    · exact absurd (same.symm ▸ marked right) plain
    · exact same

/-! ## Ids -/

variable {first second : ConversationSessionAddress} {channelId : String}

/-- What is joined to the id: the channel and the encoded path. -/
def segments (encoding : SegmentEncoding) (channelId : String)
    (address : ConversationSessionAddress) : List String :=
  channelId :: address.structuredChannelPath.map encoding.encodeTrimmed

theorem structuredRouteSessionId_eq (channel : first.canonicalChannelId = some channelId) :
    first.structuredRouteSessionId encoding =
      some (":".intercalate (segments encoding channelId first)) := by
  have trimmed : first.structuredChannelPath.map encoding.encodeRouteSessionSegment =
      first.structuredChannelPath.map encoding.encodeTrimmed := by
    refine List.map_congr_left ?_
    intro text member
    rcases List.mem_filterMap.mp member with ⟨part, listed, rfl⟩
    rcases List.mem_map.mp listed with ⟨raw, _, present⟩
    rcases Option.bind_eq_some_iff.mp present with ⟨value, _, filled⟩
    unfold trimmedNonEmpty at filled
    dsimp only at filled
    split at filled
    · cases filled
    · unfold encodeRouteSessionSegment
      rw [<- Option.some.inj filled, trim_trim]
  unfold structuredRouteSessionId segments
  rw [channel, Option.bind_eq_bind, Option.bind_some]
  dsimp only
  rw [trimmed]
  cases path : first.structuredChannelPath with
  | nil => rfl
  | cons head rest =>
    rw [String.intercalate_cons_of_ne_nil (by simp)]
    rfl

theorem colonFree_segments (channel : first.canonicalChannelId = some channelId)
    {segment : List Char}
    (member : segment ∈ (segments encoding channelId first).map String.toList) :
    ':' ∉ segment := by
  rcases List.mem_map.mp member with ⟨text, listed, rfl⟩
  rcases List.mem_cons.mp listed with isChannel | inPath
  · rcases Option.bind_eq_some_iff.mp channel with ⟨raw, _, normalized⟩
    unfold normalizeDispatchChannelId at normalized
    rw [isChannel]
    split at normalized
    · cases normalized
    · split_ifs at normalized with refused continues
      rw [<- Option.some.inj normalized, String.toList_ofList]
      intro colon
      rcases List.mem_cons.mp colon with rfl | later
      · exact refused rfl
      · exact absurd (List.all_eq_true.mp continues ':' later) (by decide)
  · rcases List.mem_map.mp inPath with ⟨value, _, rfl⟩
    exact colonFree_encodeTrimmed value

/-- An id determines the channel and the path. -/
theorem route_of_same_id (channel : first.canonicalChannelId ≠ none)
    (same : first.structuredRouteSessionId encoding = second.structuredRouteSessionId encoding) :
    first.canonicalChannelId = second.canonicalChannelId /\
      first.structuredChannelPath = second.structuredChannelPath := by
  rcases Option.ne_none_iff_exists'.mp channel with ⟨channelId, isFirst⟩
  rw [structuredRouteSessionId_eq isFirst] at same
  cases isSecond : second.canonicalChannelId with
  | none =>
    unfold structuredRouteSessionId at same
    rw [isSecond] at same
    cases same
  | some otherId =>
    rw [structuredRouteSessionId_eq isSecond] at same
    have joined : [':'].intercalate ((segments encoding channelId first).map String.toList) =
        [':'].intercalate ((segments encoding otherId second).map String.toList) := by
      rw [show [':'] = ":".toList from rfl, <- String.toList_intercalate,
        <- String.toList_intercalate, Option.some.inj same]
    have split := congrArg (List.splitOn ':') joined
    rw [List.splitOn_intercalate ':' (fun _ => colonFree_segments isFirst) (by simp [segments]),
      List.splitOn_intercalate ':' (fun _ => colonFree_segments isSecond) (by simp [segments]),
      List.map_inj_right (fun _ _ => String.toList_inj.mp)] at split
    rcases List.cons.inj split with ⟨sameChannel, samePath⟩
    refine ⟨isFirst.trans (congrArg some sameChannel), ?_⟩
    exact (List.map_inj_right fun _ _ => (encodeTrimmed_injective ·)).mp samePath

/-- Present parts in the same places with the same texts. -/
theorem eq_of_filterMap {left right : List (Option String)}
    (shape : left.map Option.isSome = right.map Option.isSome)
    (same : left.filterMap id = right.filterMap id) : left = right := by
  induction left generalizing right with
  | nil => exact (List.map_eq_nil_iff.mp shape.symm).symm
  | cons part rest ih =>
    cases right with
    | nil => cases shape
    | cons other others =>
      rcases List.cons.inj shape with ⟨here, later⟩
      cases part <;> cases other <;> cases here
      · rw [ih later same]
      · rcases List.cons.inj same with ⟨rfl, sameRest⟩
        rw [ih later sameRest]

/-- For an address with a channel, equal ids come from equal addresses exactly if
the same texts do not stand in different parts of the two. -/
theorem equal_route_session_iff (encoding : SegmentEncoding)
    (first second : ConversationSessionAddress) :
    (first.canonicalChannelId ≠ none ->
      first.structuredRouteSessionId encoding = second.structuredRouteSessionId encoding ->
        first.canonicalChannelId = second.canonicalChannelId /\ first.parts = second.parts) ↔
      (first.canonicalChannelId ≠ none ->
        first.canonicalChannelId = second.canonicalChannelId ->
          first.parts.filterMap id = second.parts.filterMap id ->
            first.presence = second.presence) := by
  refine forall_congr' fun channel => ⟨?_, ?_⟩
  · intro determines sameChannel samePath
    unfold presence
    rw [(determines ?_).2]
    unfold structuredRouteSessionId structuredChannelPath
    rw [sameChannel, samePath]
  · intro apart same
    rcases route_of_same_id channel same with ⟨sameChannel, samePath⟩
    exact ⟨sameChannel, eq_of_filterMap (apart sameChannel samePath) samePath⟩

/-- An encoding with the laws: the number of a text, in strokes. -/
def strokes : SegmentEncoding where
  urlSafeNoPad text :=
    String.ofList (List.replicate (Encodable.encode (text.toList.map Char.toNat)) 'a')
  injective := by
    intro left right same
    have counts := congrArg String.length same
    simp only [String.length_ofList, List.length_replicate, Encodable.encode_inj] at counts
    exact String.toList_inj.mp ((List.map_inj_right fun _ _ => Char.toNat_inj.mp).mp counts)
  colonFree := by
    intro text
    simp

/-- A thread of a chat and a chat of an account are one route session. -/
theorem two_chats_one_route :
    let thread : ConversationSessionAddress := ⟨"", some "telegram", none, some "7", some "9"⟩
    let chat : ConversationSessionAddress := ⟨"", some "telegram", some "7", some "9", none⟩
    thread.structuredRouteSessionId strokes = some "telegram:7:9" /\
      chat.structuredRouteSessionId strokes = some "telegram:7:9" /\
      thread.parts ≠ chat.parts := by
  decide +kernel

end LoongClaw.Conversation
