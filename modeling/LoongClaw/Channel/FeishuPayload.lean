import LoongClaw.Foundation.Attempt
import LoongClaw.Foundation.Hex
import LoongClaw.Foundation.Json
import LoongClaw.Foundation.Text

namespace LoongClaw.Channel

open Foundation Fallible OrderedMap Text

/-!
# Feishu payloads

A payload of the Feishu webhook or websocket becomes an action: a challenge to
answer, nothing, an inbound message or a card callback.  Webhook payloads may
be encrypted, and the action is read from what is inside.  Decoders, ciphers
and the texts shown to the model are parameters, gathered in `FeishuCodec`.
-/

/-! ## Sessions and targets -/

inductive ChannelPlatform where
  | telegram
  | feishu
  | matrix

structure ChannelSession where
  platform : ChannelPlatform
  (configuredAccountId accountId : Option String)
  conversationId : String
  (participantId threadId : Option String)

namespace ChannelSession

def withAccount (platform : ChannelPlatform) (accountId conversationId : String) : ChannelSession :=
  { platform
    configuredAccountId := none
    accountId := some accountId
    conversationId
    participantId := none
    threadId := none }

def withConfiguredAccountId (session : ChannelSession) (configuredAccountId : String) :
    ChannelSession :=
  { session with configuredAccountId := some configuredAccountId }

end ChannelSession

inductive ChannelOutboundTargetKind where
  | conversation
  | messageReply
  | receiveId

structure ChannelOutboundDeliveryOptions where
  idempotencyKey : Option String := none
  feishuReceiveIdType : Option String := none
  feishuReplyInThread : Option Bool := none

structure ChannelOutboundTarget where
  platform : ChannelPlatform
  kind : ChannelOutboundTargetKind
  id : String
  options : ChannelOutboundDeliveryOptions := {}

namespace ChannelOutboundTarget

def feishuMessageReply (messageId : String) : ChannelOutboundTarget :=
  { platform := .feishu, kind := .messageReply, id := messageId }

def feishuReceiveId (receiveId : String) : ChannelOutboundTarget :=
  { platform := .feishu, kind := .receiveId, id := receiveId }

def withFeishuReplyInThread (target : ChannelOutboundTarget) (replyInThread : Bool) :
    ChannelOutboundTarget :=
  { target with options := { target.options with feishuReplyInThread := some replyInThread } }

def withFeishuReceiveIdType (target : ChannelOutboundTarget) (receiveIdType : String) :
    ChannelOutboundTarget :=
  { target with options := { target.options with feishuReceiveIdType := some receiveIdType } }

end ChannelOutboundTarget

structure ChannelDeliveryResource where
  (resourceType fileKey : String)
  fileName : Option String

/-! ## Events -/

/-- The profile fields that no payload fills are left out. -/
structure FeishuUserPrincipal where
  (accountId openId : String)
  (unionId userId tenantKey : Option String)

def FeishuUserPrincipal.storageKey (principal : FeishuUserPrincipal) : String :=
  trim principal.accountId ++ ":" ++ trim principal.openId

structure FeishuInboundEvent where
  (eventId messageId : String)
  (rootId parentId : Option String)
  session : ChannelSession
  principal : Option FeishuUserPrincipal
  replyTarget : ChannelOutboundTarget
  text : String
  resources : List ChannelDeliveryResource

inductive FeishuCardCallbackVersion where
  | v1
  | v2

structure FeishuCardCallbackAction where
  tag : String
  name : Option String
  (value formValue : Option Json)
  timezone : Option String

structure FeishuCardCallbackContext where
  (openMessageId openChatId url previewToken : Option String)

structure FeishuCardCallbackEvent where
  eventId : String
  version : FeishuCardCallbackVersion
  session : ChannelSession
  principal : Option FeishuUserPrincipal
  callbackToken : Option String
  action : FeishuCardCallbackAction
  context : FeishuCardCallbackContext
  text : String

inductive FeishuWebhookAction where
  | urlVerification (challenge : String)
  | ignore
  | inbound (event : FeishuInboundEvent)
  | cardCallback (event : FeishuCardCallbackEvent)

namespace FeishuWebhookAction

/-- The identifier of the event that the action processes, if it has one. -/
def eventId : FeishuWebhookAction -> Option String
  | .urlVerification _ => none
  | .ignore => none
  | .inbound event => some event.eventId
  | .cardCallback event => some event.eventId

end FeishuWebhookAction

/-! ## The codec -/

/-- Third-party decoders, and the rendering of contents for the model. -/
structure FeishuCodec where
  utf8Error : ByteArray -> String
  parseJson : ByteArray -> Except String Json
  jsonText : Json -> String
  base64Decode : String -> Except String ByteArray
  sha256 : ByteArray -> Vector UInt8 32
  /-- Padded AES-256 in CBC mode, with a key, an initial vector and a cipher text. -/
  aesDecrypt : Vector UInt8 32 -> ByteArray -> ByteArray -> Except String ByteArray
  messageText : String -> Json -> Option String
  messageResources : String -> Json -> List ChannelDeliveryResource
  cardSummary : FeishuCardCallbackVersion -> Option FeishuUserPrincipal ->
    FeishuCardCallbackContext -> FeishuCardCallbackAction -> String

/-- The account that the payload is for. -/
structure FeishuAccount where
  allowedChatIds : List String
  ignoreBotMessages : Bool
  (configuredAccountId accountId : String)

inductive FeishuTransportAuth where
  | webhook (verificationToken encryptKey : Option String)
  | websocket

/-! ## Fields -/

def stringField (payload : Json) (key : String) : Option String :=
  (payload.get key).bind Json.asStr

variable (object : OrderedMap String Json) (key : String)

def requiredStringField : Option String :=
  filled (stringField (.object object) key)

def optionalStringField : Option String :=
  requiredStringField object key

def optionalJsonField : Option Json :=
  match lookup key object with
  | some .null => none
  | field => field

def objectField (payload : Json) (key : String) : Option (OrderedMap String Json) :=
  (payload.get key).bind Json.asObject

/-- A text field of the payload's header. -/
def headerField (payload : Json) (key : String) : Option String :=
  (payload.get "header").bind (stringField · key)

/-! ## Decryption -/

namespace FeishuCodec

def decryptFeishuEventPayload (codec : FeishuCodec) (encryptedPayload encryptKey : String) :
    Except String Json := do
  let raw <- (codec.base64Decode (trim encryptedPayload)).mapError
    ("decode encrypted feishu payload failed: " ++ ·)
  if raw.size < 16 then .error "decode encrypted feishu payload failed: payload too short"
  else if raw.size = 16 then .error "decode encrypted feishu payload failed: ciphertext is empty"
  else do
    let decrypted <- (codec.aesDecrypt (codec.sha256 encryptKey.toUTF8) (raw.extract 0 16)
      (raw.extract 16 raw.size)).mapError ("decrypt feishu payload failed: " ++ ·)
    (codec.parseJson decrypted).mapError ("parse decrypted feishu payload failed: " ++ ·)

def decryptPayloadIfNeeded (codec : FeishuCodec) (payload : Json) (encryptKey : Option String) :
    Except String (Option Json) :=
  match stringField payload "encrypt" with
  | none => .ok none
  | some encryptedPayload => do
    let encryptKey <- okOr (filled encryptKey)
      "unauthorized: feishu payload is encrypted but encrypt key is not configured"
    let decrypted <- codec.decryptFeishuEventPayload encryptedPayload encryptKey
    return some decrypted

/-- The payload that the action is read from. -/
def openPayload (codec : FeishuCodec) (auth : FeishuTransportAuth) (payload : Json) :
    Except String Json :=
  match auth with
  | .websocket => .ok payload
  | .webhook _ encryptKey => do
    let decrypted <- codec.decryptPayloadIfNeeded payload encryptKey
    return decrypted.getD payload

end FeishuCodec

/-! ## The verification token -/

variable (payload : Json)

/-- The token that a payload carries: the header's, or one at the top level. -/
def carriedToken : Option String :=
  (filled (headerField payload "token")).or (filled (stringField payload "token"))

def verifyFeishuToken (verificationToken : Option String) : Except String Unit := do
  let expectedToken <- okOr (filled verificationToken)
    "unauthorized: feishu verification token is not configured"
  let incoming := (carriedToken payload).getD ""
  if incoming = "" then .error "unauthorized: feishu payload missing token"
  else if incoming ≠ expectedToken then
    .error "unauthorized: feishu verification token mismatch"
  else .ok ()

def FeishuTransportAuth.checkToken (auth : FeishuTransportAuth) (payload : Json) :
    Except String Unit :=
  match auth with
  | .websocket => .ok ()
  | .webhook verificationToken _ => verifyFeishuToken payload verificationToken

/-! ## Card callbacks -/

def looksLikeFeishuLegacyCardCallback : Bool :=
  match payload.asObject with
  | none => false
  | some object =>
    (objectField payload "action").isSome && (requiredStringField object "open_message_id").isSome

def isAllowedFeishuCardCallbackChat (openChatId : Option String) (allowedChatIds : List String) :
    Bool :=
  if allowedChatIds.isEmpty then true
  else
    match filled openChatId with
    | none => false
    | some openChatId => allowedChatIds.contains openChatId

def parseFeishuCardCallbackAction : Except String FeishuCardCallbackAction := do
  let action <- okOr (objectField (.object object) key)
    ("feishu card callback payload missing " ++ key ++ " object")
  let tag <- okOr (requiredStringField action "tag") "feishu card callback action missing tag"
  return {
    tag
    name := optionalStringField action "name"
    value := optionalJsonField action "value"
    formValue := optionalJsonField action "form_value"
    timezone := optionalStringField action "timezone" }

def parseFeishuCardCallbackPrincipalV2 (event : OrderedMap String Json) (accountId : String) :
    Option FeishuUserPrincipal := do
  let operator <- objectField (.object event) "operator"
  let operatorId := (objectField (.object operator) "operator_id").getD operator
  let openId <- requiredStringField operatorId "open_id"
  return {
    accountId := trim accountId
    openId
    unionId := optionalStringField operatorId "union_id"
    userId := optionalStringField operatorId "user_id"
    tenantKey := none }

def parseFeishuCardCallbackPrincipalV1 (payload : OrderedMap String Json) (accountId : String) :
    Option FeishuUserPrincipal := do
  let openId <- requiredStringField payload "open_id"
  return {
    accountId := trim accountId
    openId
    unionId := optionalStringField payload "union_id"
    userId := optionalStringField payload "user_id"
    tenantKey := optionalStringField payload "tenant_key" }

def feishuCardCallbackVersionLabel : FeishuCardCallbackVersion -> String
  | .v1 => "v1"
  | .v2 => "v2"

/-- An optional entry of an object that is being built. -/
def insertPresent (value : Option Json) (fields : OrderedMap String Json) :
    OrderedMap String Json :=
  match value with
  | none => fields
  | some present => insert key present fields

def actionFingerprint (action : FeishuCardCallbackAction) : Json :=
  .object (insertPresent "timezone" (action.timezone.map .string)
      (insertPresent "form_value" action.formValue (insertPresent "value" action.value
          (insertPresent "name" (action.name.map .string) (insert "tag" (.string action.tag) [])))))

variable (codec : FeishuCodec)

def buildFeishuCardCallbackEventId (version : FeishuCardCallbackVersion)
    (principal : Option FeishuUserPrincipal) (context : FeishuCardCallbackContext)
    (action : FeishuCardCallbackAction) : String :=
  let operator := (filled (principal.map (·.openId))).getD "unknown_operator"
  let message := (filled context.openMessageId).getD "unknown_message"
  "card_callback:" ++ feishuCardCallbackVersionLabel version ++ ":" ++ message ++ ":" ++
    operator ++ ":" ++ codec.jsonText (actionFingerprint action)

variable (account : FeishuAccount)

def buildFeishuCardCallbackEvent (payload : Json)
    (version : FeishuCardCallbackVersion) (principal : Option FeishuUserPrincipal)
    (callbackToken : Option String) (action : FeishuCardCallbackAction)
    (context : FeishuCardCallbackContext) : Except String FeishuCardCallbackEvent := do
  let conversationId <- okOr (filled
      (((context.openChatId.or context.openMessageId).or context.previewToken).or context.url))
    "feishu card callback missing routable conversation context"
  let session := (ChannelSession.withAccount .feishu account.accountId
    conversationId).withConfiguredAccountId account.configuredAccountId
  return {
    eventId :=
      ((objectField payload "header").bind (requiredStringField · "event_id")).getD
        (buildFeishuCardCallbackEventId codec version principal context action)
    version
    session :=
      { session with
        participantId := principal.map (·.openId)
        threadId := context.openMessageId }
    principal
    callbackToken
    action
    context
    text := codec.cardSummary version principal context action }

def parseFeishuCardCallbackV2 (payload : Json) : Except String FeishuWebhookAction := do
  let event <- okOr (objectField payload "event")
    "feishu card callback payload missing event object"
  let context := (objectField (.object event) "context").getD []
  let openChatId := optionalStringField context "open_chat_id"
  if isAllowedFeishuCardCallbackChat openChatId account.allowedChatIds = false then .ok .ignore
  else do
    let action <- parseFeishuCardCallbackAction event "action"
    let callback <- buildFeishuCardCallbackEvent codec account payload .v2
      (parseFeishuCardCallbackPrincipalV2 event account.accountId)
      (optionalStringField event "token") action
      { openMessageId := optionalStringField context "open_message_id"
        openChatId
        url := optionalStringField context "url"
        previewToken := optionalStringField context "preview_token" }
    return .cardCallback callback

def parseFeishuCardCallbackV1 (payload : Json) : Except String FeishuWebhookAction := do
  let object <- okOr payload.asObject "feishu legacy card callback payload must be a JSON object"
  let openChatId := optionalStringField object "open_chat_id"
  if isAllowedFeishuCardCallbackChat openChatId account.allowedChatIds = false then .ok .ignore
  else do
    let action <- parseFeishuCardCallbackAction object "action"
    let callback <- buildFeishuCardCallbackEvent codec account payload .v1
      (parseFeishuCardCallbackPrincipalV1 object account.accountId) none action
      { openMessageId := optionalStringField object "open_message_id"
        openChatId
        url := none
        previewToken := none }
    return .cardCallback callback

/-! ## Messages -/

def feishuStructuredOnlyMessageTypes : List String :=
  ["folder", "sticker", "interactive", "share_chat", "share_user", "system", "location",
    "video_chat", "todo", "vote", "merge_forward", "share_calendar_event", "calendar",
    "general_calendar"]

def isSupportedFeishuInboundMessageType (messageType : String) : Bool :=
  ["text", "image", "file", "post", "audio", "media"].contains messageType ||
    feishuStructuredOnlyMessageTypes.contains messageType

def parseSenderPrincipal (event : OrderedMap String Json) (accountId : String) :
    Option FeishuUserPrincipal := do
  let sender <- lookup "sender" event
  let senderId <- objectField sender "sender_id"
  let openId <- requiredStringField senderId "open_id"
  return {
    accountId := trim accountId
    openId
    unionId := optionalStringField senderId "union_id"
    userId := optionalStringField senderId "user_id"
    tenantKey := none }

/-- The event of a message in an allowed chat. -/
def buildFeishuInboundEvent (payload : Json)
    (event message : OrderedMap String Json) (messageType chatId : String) :
    Except String FeishuInboundEvent := do
  let messageId <- okOr (requiredStringField message "message_id")
    "feishu message event missing message.message_id"
  let rootId := optionalStringField message "root_id"
  let parentId := optionalStringField message "parent_id"
  let threadId := ((optionalStringField message "thread_id").or rootId).or parentId
  let principal := parseSenderPrincipal event account.accountId
  let content <- okOr (lookup "content" message) "feishu message event missing message.content"
  let text <- okOr (codec.messageText messageType content)
    ("feishu message content is not a supported non-empty " ++ messageType ++ " payload")
  let session := (ChannelSession.withAccount .feishu account.accountId
    chatId).withConfiguredAccountId account.configuredAccountId
  let replyTarget := ChannelOutboundTarget.feishuMessageReply messageId
  return {
    eventId := (filled (headerField payload "event_id")).getD ("message:" ++ messageId)
    messageId
    rootId
    parentId
    session :=
      { session with
        participantId := principal.map (·.openId)
        threadId }
    principal
    replyTarget :=
      if threadId.isSome then replyTarget.withFeishuReplyInThread true else replyTarget
    text
    resources := codec.messageResources messageType content }

def parseFeishuMessageEvent (payload : Json) : Except String FeishuWebhookAction := do
  let event <- okOr (objectField payload "event")
    "feishu message event payload missing event object"
  let senderType :=
    ((lookup "sender" event).bind (stringField · "sender_type")).getD ""
  if account.ignoreBotMessages && ["app", "bot"].contains senderType then .ok .ignore
  else do
    let message <- okOr (objectField (.object event) "message")
      "feishu message event payload missing message object"
    let messageType := (stringField (.object message) "message_type").getD ""
    if isSupportedFeishuInboundMessageType messageType = false then .ok .ignore
    else do
      let chatId <- okOr (requiredStringField message "chat_id")
        "feishu message event missing message.chat_id"
      if account.allowedChatIds.contains chatId = false then .ok .ignore
      else do
        let inbound <- buildFeishuInboundEvent codec account payload event message
          messageType chatId
        return .inbound inbound

/-! ## Parsing -/

def isUrlVerification : Bool :=
  stringField payload "type" = some "url_verification"

/-- The action of a payload that is not encrypted, or no longer. -/
def parseOpenedPayload (auth : FeishuTransportAuth)
    (account : FeishuAccount) (payload : Json) : Except String FeishuWebhookAction :=
  let eventType := (headerField payload "event_type").getD ""
  if isUrlVerification payload then do
    auth.checkToken payload
    let challenge <- okOr (filled (stringField payload "challenge"))
      "feishu url_verification payload missing challenge"
    return .urlVerification challenge
  else if eventType = "card.action.trigger" then do
    auth.checkToken payload
    parseFeishuCardCallbackV2 codec account payload
  else if eventType = "card.action.trigger_v1" || looksLikeFeishuLegacyCardCallback payload then do
    auth.checkToken payload
    parseFeishuCardCallbackV1 codec account payload
  else if eventType ≠ "im.message.receive_v1" then .ok .ignore
  else do
    auth.checkToken payload
    parseFeishuMessageEvent codec account payload

def parseFeishuInboundPayload (auth : FeishuTransportAuth)
    (account : FeishuAccount) (payload : Json) : Except String FeishuWebhookAction := do
  let opened <- codec.openPayload auth payload
  parseOpenedPayload codec auth account opened

/-! ## What an event carries -/

variable {payload : Json} {verificationToken : Option String} {codec : FeishuCodec}
  {account : FeishuAccount} {action : FeishuWebhookAction} {value : Option String}
  {auth : FeishuTransportAuth}

theorem verifyFeishuToken_eq_ok_iff : verifyFeishuToken payload verificationToken = .ok () ↔
      ∃ token, filled verificationToken = some token /\ carriedToken payload = some token := by
  unfold verifyFeishuToken
  rw [bind_eq_ok_iff]
  refine exists_congr fun token => ?_
  rw [okOr_eq_ok_iff]
  refine and_congr_right fun configured => ?_
  have nonempty : token ≠ "" := (filled_eq_some_iff.mp configured).1
  cases carriedToken payload with
  | none => simp
  | some incoming =>
    by_cases same : incoming = token
    · subst same
      simp [nonempty]
    · by_cases blank : incoming = "" <;> simp [blank, same, nonempty.symm]

variable {id : String}

/-- A webhook payload becomes an event only if it carries the configured token. -/
theorem parseOpenedPayload_token {encryptKey : Option String}
    (parsed : parseOpenedPayload codec (.webhook verificationToken encryptKey) account payload =
      .ok action) (event : action.eventId = some id) :
    verifyFeishuToken payload verificationToken = .ok () := by
  have checked : ∀ {rest : Except String FeishuWebhookAction},
      (FeishuTransportAuth.checkToken (.webhook verificationToken encryptKey) payload >>=
        fun _ => rest) = .ok action ->
      verifyFeishuToken payload verificationToken = .ok () := by
    intro rest succeeds
    rcases bind_eq_ok_iff.mp succeeds with ⟨_, passed, _⟩
    exact passed
  unfold parseOpenedPayload at parsed
  dsimp only at parsed
  split_ifs at parsed
  · exact checked parsed
  · exact checked parsed
  · exact checked parsed
  · cases parsed
    cases event
  · exact checked parsed

/-! ## Event identifiers -/

theorem trim_ne_empty_of_filled {text : String} (present : filled value = some text) :
    trim text ≠ "" := by
  rcases filled_eq_some_iff.mp present with ⟨nonempty, raw, _, trimmed⟩
  rw [<- trimmed, trim_trim, trimmed]
  exact nonempty

theorem trim_getD_ne_empty {other : String} (present : ∀ text, value = some text -> trim text ≠ "")
    (otherwise : trim other ≠ "") : trim (value.getD other) ≠ "" := by
  cases value with
  | none => exact otherwise
  | some text => exact present text rfl

theorem buildFeishuCardCallbackEvent_id {version : FeishuCardCallbackVersion}
    {principal : Option FeishuUserPrincipal} {callbackToken : Option String}
    {action : FeishuCardCallbackAction} {context : FeishuCardCallbackContext}
    {event : FeishuCardCallbackEvent}
    (built : buildFeishuCardCallbackEvent codec account payload version principal callbackToken
      action context = .ok event) : trim event.eventId ≠ "" := by
  rcases bind_eq_ok_iff.mp built with ⟨conversationId, _, result⟩
  cases result
  refine trim_getD_ne_empty ?_ ?_
  · intro text found
    rcases Option.bind_eq_some_iff.mp found with ⟨header, _, field⟩
    exact trim_ne_empty_of_filled field
  · apply trim_ne_empty_of_visible
    · unfold buildFeishuCardCallbackEventId
      simp only [String.toList_append]
      rfl
    · decide

theorem parseFeishuCardCallback_id
    (parsed : parseFeishuCardCallbackV2 codec account payload = .ok action \/
      parseFeishuCardCallbackV1 codec account payload = .ok action)
    (event : action.eventId = some id) : trim id ≠ "" := by
  rcases parsed with parsed | parsed
  all_goals
    rcases bind_eq_ok_iff.mp parsed with ⟨object, _, rest⟩
    dsimp only at rest
    split_ifs at rest
    · cases rest
      cases event
    · rcases bind_eq_ok_iff.mp rest with ⟨cardAction, _, rest⟩
      rcases bind_eq_ok_iff.mp rest with ⟨callback, built, result⟩
      cases result
      cases event
      exact buildFeishuCardCallbackEvent_id built

theorem parseFeishuMessageEvent_id
    (parsed : parseFeishuMessageEvent codec account payload = .ok action)
    (event : action.eventId = some id) : trim id ≠ "" := by
  rcases bind_eq_ok_iff.mp parsed with ⟨object, _, rest⟩
  dsimp only at rest
  split_ifs at rest with fromBot
  · cases rest
    cases event
  rcases bind_eq_ok_iff.mp rest with ⟨message, _, rest⟩
  split_ifs at rest with unsupported
  · cases rest
    cases event
  rcases bind_eq_ok_iff.mp rest with ⟨chatId, _, rest⟩
  split_ifs at rest with foreign
  · cases rest
    cases event
  rcases bind_eq_ok_iff.mp rest with ⟨inbound, built, result⟩
  cases result
  cases event
  rcases bind_eq_ok_iff.mp built with ⟨messageId, _, rest⟩
  rcases bind_eq_ok_iff.mp rest with ⟨content, _, rest⟩
  rcases bind_eq_ok_iff.mp rest with ⟨text, _, result⟩
  cases result
  refine trim_getD_ne_empty (fun text found => trim_ne_empty_of_filled found) ?_
  apply trim_ne_empty_of_visible
  · rw [String.toList_append]
    rfl
  · decide

/-- Every event has an identifier that is not blank. -/
theorem parseOpenedPayload_id (parsed : parseOpenedPayload codec auth account payload = .ok action)
    (event : action.eventId = some id) : trim id ≠ "" := by
  unfold parseOpenedPayload at parsed
  dsimp only at parsed
  split_ifs at parsed
  · rcases bind_eq_ok_iff.mp parsed with ⟨_, _, rest⟩
    rcases bind_eq_ok_iff.mp rest with ⟨challenge, _, result⟩
    cases result
    cases event
  · rcases bind_eq_ok_iff.mp parsed with ⟨_, _, rest⟩
    exact parseFeishuCardCallback_id (.inl rest) event
  · rcases bind_eq_ok_iff.mp parsed with ⟨_, _, rest⟩
    exact parseFeishuCardCallback_id (.inr rest) event
  · cases parsed
    cases event
  · rcases bind_eq_ok_iff.mp parsed with ⟨_, _, rest⟩
    exact parseFeishuMessageEvent_id rest event

/-- A challenge is no event. -/
theorem parseOpenedPayload_urlVerification (challenge : isUrlVerification payload = true)
    (parsed : parseOpenedPayload codec auth account payload = .ok action) :
    action.eventId = none := by
  unfold parseOpenedPayload at parsed
  rw [if_pos challenge] at parsed
  rcases bind_eq_ok_iff.mp parsed with ⟨_, _, rest⟩
  rcases bind_eq_ok_iff.mp rest with ⟨answer, _, result⟩
  cases result
  rfl

end LoongClaw.Channel
