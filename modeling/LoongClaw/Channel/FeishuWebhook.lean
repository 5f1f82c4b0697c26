import LoongClaw.Channel.FeishuPayload

namespace LoongClaw.Channel

open Foundation Fallible OrderedMap Text

/-!
# The Feishu webhook

A request is checked against its signature, its payload becomes an action, and
an event that has not been seen recently is processed.  The signature check
looks at the payload as it was sent, the action comes from the payload inside.
What the rest of the process decides, including what other requests do to the
cache of recent events while this one is processed, is a `Circumstances`.
-/

/-! ## Recent events -/

inductive RecentIdState where
  | processing
  | completed

inductive RecentIdReservation where
  | accepted
  | inProgressDuplicate
  | completedDuplicate

structure RecentIdCache where
  maxLen : Nat
  queue : List String
  states : OrderedMap String RecentIdState
  maxLen_pos : 0 < maxLen

namespace RecentIdCache

def new (maxLen : Nat) : RecentIdCache where
  maxLen := max maxLen 1
  queue := []
  states := []
  maxLen_pos := by omega

/-- Drop the oldest identifiers until at most `maxLen` are left. -/
def trimEntries (maxLen : Nat) : List String -> OrderedMap String RecentIdState ->
      List String × OrderedMap String RecentIdState
  | [], states => ([], states)
  | removed :: rest, states =>
    if maxLen < rest.length + 1 then trimEntries maxLen rest (erase removed states)
    else (removed :: rest, states)

variable (cache : RecentIdCache)

def trimToMax : RecentIdCache :=
  let trimmed := trimEntries cache.maxLen cache.queue cache.states
  { cache with queue := trimmed.1, states := trimmed.2 }

def beginProcessing (id : String) : RecentIdReservation × RecentIdCache :=
  let id := trim id
  if id = "" then (.completedDuplicate, cache)
  else
    match lookup id cache.states with
    | some .processing => (.inProgressDuplicate, cache)
    | some .completed => (.completedDuplicate, cache)
    | none =>
      (.accepted,
        { cache with
          queue := cache.queue ++ [id]
          states := insert id .processing cache.states }.trimToMax)

def markCompleted (id : String) : RecentIdCache :=
  let id := trim id
  if contains id cache.states then
    { cache with states := insert id .completed cache.states }
  else cache

def release (id : String) : RecentIdCache :=
  let id := trim id
  if contains id cache.states then
    { cache with
      states := erase id cache.states
      queue := cache.queue.filter (fun entry => decide (entry ≠ id)) }
  else cache

theorem beginProcessing_accepted_iff {cache : RecentIdCache} {id : String} :
    (cache.beginProcessing id).1 = .accepted ↔
      trim id ≠ "" /\ lookup (trim id) cache.states = none := by
  unfold beginProcessing
  by_cases blank : trim id = ""
  · simp [blank]
  · rw [if_neg blank]
    cases lookup (trim id) cache.states with
    | none => simp [blank]
    | some state => cases state <;> simp

end RecentIdCache

open RecentIdCache

/-! ## Requests -/

/-- Header names are compared without case. -/
structure FeishuWebhookRequest where
  headers : List (String × List UInt8)
  body : ByteArray

structure FeishuWebhookState where
  account : FeishuAccount
  (verificationToken encryptKey : Option String)

/-- An HTTP status with a message. -/
abbrev Rejection :=
  Nat × String

variable (headers : List (String × List UInt8)) (name : String)

def headerValue : Option (List UInt8) :=
  (headers.find? (fun header => eqIgnoreAsciiCase header.1 name)).map (·.2)

/-- A header value is a text if its bytes are tabs or visible ASCII. -/
def headerText (value : List UInt8) : Except String String :=
  if value.all (fun byte => byte == 9 || (32 <= byte && byte < 127)) then
    .ok (String.ofList (value.map (fun byte => Char.ofNat byte.toNat)))
  else .error "failed to convert header to a str"

def readHeaderRequired : Except Rejection String := do
  let value <- okOr (headerValue headers name)
    (401, "unauthorized: missing required header `" ++ name ++ "`")
  let text <- (headerText value).mapError
    (fun error => (401, "unauthorized: invalid header `" ++ name ++ "`: " ++ error))
  if trim text = "" then
    .error (401, "unauthorized: empty required header `" ++ name ++ "`")
  else .ok (trim text)

/-! ## The signature -/

/-- The digest of the timestamp, nonce, key and body, in lower-case hexadecimal. -/
def FeishuCodec.signatureOf (codec : FeishuCodec) (timestamp nonce encryptKey : String)
    (rawBody : ByteArray) : String :=
  let digest := codec.sha256 (timestamp.toUTF8 ++ nonce.toUTF8 ++ encryptKey.toUTF8 ++ rawBody)
  String.ofList (digest.toList.flatMap (fun byte => Hex.fixedHex 2 byte.toNat))

def verifyFeishuSignature (codec : FeishuCodec) (headers : List (String × List UInt8))
    (rawBody : String) (payload : Json) (encryptKey : Option String) : Except Rejection Unit :=
  if isUrlVerification payload then .ok ()
  else do
    let encryptKey <- okOr (filled encryptKey)
      (401, "unauthorized: feishu encrypt key is not configured")
    let timestamp <- readHeaderRequired headers "X-Lark-Request-Timestamp"
    let nonce <- readHeaderRequired headers "X-Lark-Request-Nonce"
    let signature <- readHeaderRequired headers "X-Lark-Signature"
    if codec.signatureOf timestamp nonce encryptKey rawBody.toUTF8 ≠ signature then
      .error (401, "unauthorized: feishu signature mismatch")
    else .ok ()

/-! ## Processing -/

structure ChannelDeliveryFeishuCallback where
  (callbackToken openMessageId openChatId operatorOpenId deferredContextId : Option String)

structure ChannelDelivery where
  ackCursor : Option String := none
  (sourceMessageId senderPrincipalKey threadRootId parentMessageId : Option String)
  resources : List ChannelDeliveryResource
  feishuCallback : Option ChannelDeliveryFeishuCallback

structure ChannelInboundMessage where
  session : ChannelSession
  replyTarget : ChannelOutboundTarget
  text : String
  delivery : ChannelDelivery

def buildFeishuInboundMessage (event : FeishuInboundEvent) : ChannelInboundMessage :=
  { session := event.session
    replyTarget := event.replyTarget
    text := event.text
    delivery :=
      { sourceMessageId := some event.messageId
        senderPrincipalKey := event.principal.map (·.storageKey)
        threadRootId := event.rootId
        parentMessageId := event.parentId
        resources := event.resources
        feishuCallback := none } }

def buildFeishuCardCallbackInboundMessage (event : FeishuCardCallbackEvent) :
    ChannelInboundMessage :=
  let replyTarget :=
    match event.context.openMessageId, event.context.openChatId with
    | some messageId, _ =>
      (ChannelOutboundTarget.feishuMessageReply messageId).withFeishuReplyInThread true
    | none, some chatId =>
      (ChannelOutboundTarget.feishuReceiveId chatId).withFeishuReceiveIdType "chat_id"
    | none, none => ChannelOutboundTarget.feishuReceiveId event.session.conversationId
  { session := event.session
    replyTarget
    text := event.text
    delivery :=
      { sourceMessageId := event.context.openMessageId
        senderPrincipalKey := event.principal.map (·.storageKey)
        threadRootId := event.context.openMessageId
        parentMessageId := none
        resources := []
        feishuCallback := some
          { callbackToken := event.callbackToken
            openMessageId := event.context.openMessageId
            openChatId := event.context.openChatId
            operatorOpenId := event.principal.map (·.openId)
            deferredContextId := some event.eventId } } }

/-- What the process around the handler decides. -/
structure Circumstances where
  runStart : Except String Unit
  reply : Except String String
  (sent refreshed resent : Except String Unit)
  /-- The callback response that a reply spells out. -/
  structuredResponse : String -> Option Json
  /-- The work of other requests on the cache while the event is processed. -/
  meanwhile : RecentIdCache -> RecentIdCache

/-- What became of a request, and the message that was given to the provider. -/
structure Handled where
  response : Except Rejection Json
  seenEvents : RecentIdCache
  processed : Option ChannelInboundMessage

def serverError (text : String) : Rejection :=
  (500, text)

variable (circumstances : Circumstances)

/-- Send the reply, once more with a fresh token if that fails. -/
def Circumstances.answer : Except Rejection Json := do
  discard (circumstances.reply.mapError
    (fun error => serverError ("provider processing failed: " ++ error)))
  match circumstances.sent with
  | .ok () => .ok (.object [("code", .number (.posInt 0)), ("msg", .string "ok")])
  | .error firstError => do
    circumstances.refreshed.mapError (fun error => serverError
      ("feishu token refresh failed after send error `" ++ firstError ++ "`: " ++ error))
    circumstances.resent.mapError
      (fun error => serverError ("feishu reply failed after token refresh: " ++ error))
    return .object [("code", .number (.posInt 0)), ("msg", .string "ok")]

def handleFeishuInboundEvent (event : FeishuInboundEvent) :
    Except Rejection Json × Option ChannelInboundMessage :=
  match circumstances.runStart with
  | .error error => (.error (serverError ("channel runtime start failed: " ++ error)), none)
  | .ok () => (circumstances.answer, some (buildFeishuInboundMessage event))

/-- A failing provider leaves the empty response. -/
def handleFeishuCardCallbackEvent (event : FeishuCardCallbackEvent) :
    Json × Option ChannelInboundMessage :=
  match circumstances.runStart with
  | .error _ => (.object [], none)
  | .ok () =>
    let response :=
      match circumstances.reply with
      | .error _ => .object []
      | .ok reply => (circumstances.structuredResponse reply).getD (.object [])
    (response, some (buildFeishuCardCallbackInboundMessage event))

def handleFeishuParsedAction (seenEvents : RecentIdCache)
    (parsed : FeishuWebhookAction) : Handled :=
  match parsed with
  | .urlVerification challenge =>
    { response := .ok (.object [("challenge", .string challenge)])
      seenEvents
      processed := none }
  | .ignore =>
    { response := .ok (.object [("code", .number (.posInt 0)), ("msg", .string "ignored")])
      seenEvents
      processed := none }
  | .cardCallback event =>
    match seenEvents.beginProcessing event.eventId with
    | (.accepted, reserved) =>
      let outcome := handleFeishuCardCallbackEvent circumstances event
      { response := .ok outcome.1
        seenEvents := (circumstances.meanwhile reserved).markCompleted event.eventId
        processed := outcome.2 }
    | (_, unchanged) =>
      { response := .ok (.object []), seenEvents := unchanged, processed := none }
  | .inbound event =>
    match seenEvents.beginProcessing event.eventId with
    | (.accepted, reserved) =>
      let outcome := handleFeishuInboundEvent circumstances event
      let later := circumstances.meanwhile reserved
      { response := outcome.1
        seenEvents :=
          match outcome.1 with
          | .ok _ => later.markCompleted event.eventId
          | .error _ => later.release event.eventId
        processed := outcome.2 }
    | (_, unchanged) =>
      { response := .ok
          (.object [("code", .number (.posInt 0)), ("msg", .string "duplicate_event")])
        seenEvents := unchanged
        processed := none }

/-! ## The handler -/

def mapFeishuParseError (error : String) : Rejection :=
  if startsWith error "unauthorized:" then
    (401, trim (stripStart "unauthorized:" error))
  else (400, error)

namespace FeishuWebhookState

def auth (state : FeishuWebhookState) : FeishuTransportAuth :=
  .webhook state.verificationToken state.encryptKey

variable (codec : FeishuCodec) (state : FeishuWebhookState)

/-- The action of a request that passes the signature check. -/
def admitPayload (headers : List (String × List UInt8)) (rawBody : String) (payload : Json) :
    Except Rejection FeishuWebhookAction := do
  verifyFeishuSignature codec headers rawBody payload state.encryptKey
  (parseFeishuInboundPayload codec state.auth state.account payload).mapError mapFeishuParseError

def handleFeishuWebhookPayload (circumstances : Circumstances) (seenEvents : RecentIdCache)
    (headers : List (String × List UInt8)) (rawBody : String) (payload : Json) : Handled :=
  match state.admitPayload codec headers rawBody payload with
  | .error rejection => { response := .error rejection, seenEvents, processed := none }
  | .ok parsed => handleFeishuParsedAction circumstances seenEvents parsed

/-- Decode the body as text and as JSON. -/
def readBody (body : ByteArray) : Except Rejection (String × Json) := do
  let rawBody <- okOr (String.fromUTF8? body)
    (400, "invalid utf-8 request body: " ++ codec.utf8Error body)
  let payload <- (codec.parseJson body).mapError
    (fun error => (400, "invalid JSON request body: " ++ error))
  return (rawBody, payload)

def feishuWebhookHandler (circumstances : Circumstances) (seenEvents : RecentIdCache)
    (request : FeishuWebhookRequest) : Handled :=
  match readBody codec request.body with
  | .error rejection => { response := .error rejection, seenEvents, processed := none }
  | .ok (rawBody, payload) =>
    state.handleFeishuWebhookPayload codec circumstances seenEvents request.headers rawBody payload

end FeishuWebhookState

open FeishuWebhookState

/-! ## Authentic requests -/

/-- The text of a header, without surrounding blanks. -/
def carriedHeader : Option String :=
  ((headerValue headers name).bind (fun value => (headerText value).toOption)).map trim

section

variable (codec : FeishuCodec) (state : FeishuWebhookState) (request : FeishuWebhookRequest)

/-- The request carries the signature of its raw body under the configured key. -/
def Signed : Prop :=
  ∃ encryptKey timestamp nonce, filled state.encryptKey = some encryptKey /\
      carriedHeader request.headers "X-Lark-Request-Timestamp" = some timestamp /\
      carriedHeader request.headers "X-Lark-Request-Nonce" = some nonce /\
      carriedHeader request.headers "X-Lark-Signature" =
        some (codec.signatureOf timestamp nonce encryptKey request.body)

/-- The payload inside the request, decrypted if it is encrypted, carries the
configured token. -/
def CarriesToken : Prop :=
  ∃ token payload opened,
    filled state.verificationToken = some token /\ codec.parseJson request.body = .ok payload /\
      codec.openPayload state.auth payload = .ok opened /\
      carriedToken opened = some token

def Authentic : Prop :=
  (∃ encryptKey, filled state.encryptKey = some encryptKey) /\
    Signed codec state request /\ CarriesToken codec state request

/-- The request calls itself a challenge, but the payload that is encrypted in
it is an event. -/
def ConcealsEvent : Prop :=
  ∃ rawBody payload opened,
  ∃ action : FeishuWebhookAction,
    String.fromUTF8? request.body = some rawBody /\ codec.parseJson request.body = .ok payload /\
      isUrlVerification payload = true /\
      codec.decryptPayloadIfNeeded payload state.encryptKey = .ok (some opened) /\
      parseOpenedPayload codec state.auth state.account opened = .ok action /\
      action.eventId ≠ none

variable {text rawBody : String} {payload opened : Json} {action : FeishuWebhookAction}
  {circumstances : Circumstances} {seenEvents : RecentIdCache} {parsed : FeishuWebhookAction}

theorem readHeaderRequired_eq_ok {headers : List (String × List UInt8)} {name : String}
    (read : readHeaderRequired headers name = .ok text) :
    carriedHeader headers name = some text := by
  rcases bind_eq_ok_iff.mp read with ⟨value, found, rest⟩
  rcases bind_eq_ok_iff.mp rest with ⟨raw, decoded, rest⟩
  rw [okOr_eq_ok_iff] at found
  rw [mapError_eq_ok_iff] at decoded
  split_ifs at rest
  cases rest
  unfold carriedHeader
  rw [found, Option.bind_some, decoded]
  rfl

theorem toUTF8_of_fromUTF8 {bytes : ByteArray} (decoded : String.fromUTF8? bytes = some text) :
    text.toUTF8 = bytes := by
  unfold String.fromUTF8? at decoded
  split at decoded
  case isTrue valid =>
      cases decoded
      rfl
  case isFalse invalid => cases decoded

variable {codec : FeishuCodec} {request : FeishuWebhookRequest} {state : FeishuWebhookState}

/-- Only a challenge passes the check without a signature. -/
theorem signed_of_verifyFeishuSignature (decoded : String.fromUTF8? request.body = some rawBody)
    (event : isUrlVerification payload = false)
    (verified : verifyFeishuSignature codec request.headers rawBody payload state.encryptKey =
      .ok ()) : Signed codec state request := by
  unfold verifyFeishuSignature at verified
  rw [event, if_neg Bool.false_ne_true] at verified
  rcases bind_eq_ok_iff.mp verified with ⟨encryptKey, configured, rest⟩
  rcases bind_eq_ok_iff.mp rest with ⟨timestamp, timestampRead, rest⟩
  rcases bind_eq_ok_iff.mp rest with ⟨nonce, nonceRead, rest⟩
  rcases bind_eq_ok_iff.mp rest with ⟨signature, signatureRead, rest⟩
  split_ifs at rest with same
  refine ⟨encryptKey, timestamp, nonce, okOr_eq_ok_iff.mp configured,
    readHeaderRequired_eq_ok timestampRead, readHeaderRequired_eq_ok nonceRead, ?_⟩
  rw [readHeaderRequired_eq_ok signatureRead, <- not_not.mp same, toUTF8_of_fromUTF8 decoded]

/-! ## Processed requests -/

theorem event_of_processed
    (processed : (handleFeishuParsedAction circumstances seenEvents parsed).processed ≠ none) :
    ∃ id, parsed.eventId = some id := by
  cases parsed with
  | urlVerification | ignore => exact absurd rfl processed
  | inbound event | cardCallback event => exact ⟨event.eventId, rfl⟩

/-- An event that was not seen is processed as soon as the runtime starts. -/
theorem processed_of_event {id : String} (event : parsed.eventId = some id)
    (starts : circumstances.runStart = .ok ())
    (fresh : (seenEvents.beginProcessing id).1 = .accepted) :
    (handleFeishuParsedAction circumstances seenEvents parsed).processed ≠ none := by
  have reserves : seenEvents.beginProcessing id = (.accepted, (seenEvents.beginProcessing id).2) :=
    Prod.ext fresh rfl
  cases parsed with
  | urlVerification | ignore => cases event
  | inbound inbound =>
    cases event
    unfold handleFeishuParsedAction
    dsimp only
    rw [reserves]
    unfold handleFeishuInboundEvent
    rw [starts]
    exact Option.some_ne_none _
  | cardCallback callback =>
    cases event
    unfold handleFeishuParsedAction
    dsimp only
    rw [reserves]
    unfold handleFeishuCardCallbackEvent
    rw [starts]
    exact Option.some_ne_none _

/-- The way of an event through the handler. -/
structure AdmittedEvent (codec : FeishuCodec) (state : FeishuWebhookState)
    (request : FeishuWebhookRequest) (rawBody : String) (payload opened : Json)
    (action : FeishuWebhookAction) (id : String) : Prop where
  decoded : String.fromUTF8? request.body = some rawBody
  read : codec.parseJson request.body = .ok payload
  verified : verifyFeishuSignature codec request.headers rawBody payload state.encryptKey = .ok ()
  opens : codec.openPayload state.auth payload = .ok opened
  parsed : parseOpenedPayload codec state.auth state.account opened = .ok action
  event : action.eventId = some id

theorem AdmittedEvent.handled {id : String}
    (admitted : AdmittedEvent codec state request rawBody payload opened action id)
    (circumstances : Circumstances) (seenEvents : RecentIdCache) :
    state.feishuWebhookHandler codec circumstances seenEvents request =
      handleFeishuParsedAction circumstances seenEvents action := by
  have body : readBody codec request.body = .ok (rawBody, payload) := by
    unfold readBody
    rw [admitted.decoded, admitted.read]
    rfl
  have admits : state.admitPayload codec request.headers rawBody payload = .ok action := by
    unfold admitPayload parseFeishuInboundPayload
    rw [admitted.verified, admitted.opens]
    exact mapError_eq_ok_iff.mpr admitted.parsed
  unfold feishuWebhookHandler
  rw [body]
  unfold handleFeishuWebhookPayload
  dsimp only
  rw [admits]

theorem admittedEvent_of_processed (processed :
      (state.feishuWebhookHandler codec circumstances seenEvents request).processed ≠ none) :
    ∃ rawBody payload, ∃ opened action,
      ∃ id, AdmittedEvent codec state request rawBody payload opened action id := by
  unfold feishuWebhookHandler at processed
  cases body : readBody codec request.body with
  | error rejection =>
    rw [body] at processed
    exact absurd rfl processed
  | ok parts =>
    rw [body] at processed
    unfold handleFeishuWebhookPayload at processed
    dsimp only at processed
    cases admits : state.admitPayload codec request.headers parts.1 parts.2 with
    | error rejection =>
      rw [admits] at processed
      exact absurd rfl processed
    | ok action =>
      rw [admits] at processed
      rcases event_of_processed processed with ⟨id, event⟩
      rcases bind_eq_ok_iff.mp body with ⟨rawBody, decoded, rest⟩
      rcases bind_eq_ok_iff.mp rest with ⟨payload, read, result⟩
      cases result
      rcases bind_eq_ok_iff.mp admits with ⟨_, verified, parses⟩
      rcases bind_eq_ok_iff.mp (mapError_eq_ok_iff.mp parses) with
        ⟨opened, opens, parsed⟩
      exact ⟨rawBody, payload, opened, action, id,
        { decoded := okOr_eq_ok_iff.mp decoded
          read := mapError_eq_ok_iff.mp read
          verified
          opens
          parsed
          event }⟩

namespace AdmittedEvent

variable {rawBody : String} {payload opened : Json} {action : FeishuWebhookAction} {id : String}

section

variable (admitted : AdmittedEvent codec state request rawBody payload opened action id)

include admitted

theorem carriesToken : CarriesToken codec state request := by
  have verified := parseOpenedPayload_token admitted.parsed admitted.event
  rcases verifyFeishuToken_eq_ok_iff.mp verified with ⟨token, configured, carried⟩
  exact ⟨token, payload, opened, configured, admitted.read, admitted.opens, carried⟩

theorem signed_or_conceals : Signed codec state request \/ ConcealsEvent codec state request := by
  cases challenge : isUrlVerification payload with
  | false =>
    exact Or.inl (signed_of_verifyFeishuSignature admitted.decoded challenge admitted.verified)
  | true =>
    refine Or.inr ⟨rawBody, payload, opened, action, admitted.decoded, admitted.read, challenge,
      ?_, admitted.parsed, ?_⟩
    · rcases bind_eq_ok_iff.mp admitted.opens with ⟨decrypted, decryption, result⟩
      cases decrypted with
      | some inner =>
        cases result
        exact decryption
      | none =>
        -- The payload itself would be the event, but a challenge is not one.
        cases result
        have event := admitted.event
        rw [parseOpenedPayload_urlVerification challenge admitted.parsed] at event
        cases event
    · rw [admitted.event]
      exact Option.some_ne_none id

/-- The configured key is used for the signature or for the decryption. -/
theorem encryptKey : ∃ encryptKey, filled state.encryptKey = some encryptKey := by
  rcases admitted.signed_or_conceals with
    ⟨encryptKey, _, _, configured, _⟩ | ⟨_, _, _, _, _, _, _, decryption, _⟩
  · exact ⟨encryptKey, configured⟩
  · unfold FeishuCodec.decryptPayloadIfNeeded at decryption
    split at decryption
    · cases decryption
    · rcases bind_eq_ok_iff.mp decryption with ⟨key, configured, _⟩
      exact ⟨key, okOr_eq_ok_iff.mp configured⟩

end

end AdmittedEvent

theorem ConcealsEvent.admitted (conceals : ConcealsEvent codec state request) :
    ∃ rawBody payload, ∃ opened action,
      ∃ id, AdmittedEvent codec state request rawBody payload opened action id := by
  rcases conceals with ⟨rawBody, payload, opened, action, decoded, read, challenge, decryption,
    parsed, event⟩
  rcases Option.ne_none_iff_exists'.mp event with ⟨id, event⟩
  refine ⟨rawBody, payload, opened, action, id,
    { decoded, read, verified := ?_, opens := ?_, parsed, event }⟩
  · unfold verifyFeishuSignature
    rw [if_pos challenge]
  · unfold FeishuCodec.openPayload auth
    dsimp only
    rw [decryption]
    rfl

/-- Circumstances in which an event is processed. -/
def Circumstances.smooth : Circumstances where
  runStart := .ok ()
  reply := .ok ""
  sent := .ok ()
  refreshed := .ok ()
  resent := .ok ()
  structuredResponse := fun _ => none
  meanwhile := id

/-- Exactly the requests that conceal an event in a challenge get it processed
without a signature. -/
theorem processed_request_authentic_iff (codec : FeishuCodec) (state : FeishuWebhookState)
    (request : FeishuWebhookRequest) :
    (∀ circumstances seenEvents,
      (state.feishuWebhookHandler codec circumstances seenEvents request).processed ≠ none ->
        Authentic codec state request) ↔
      (ConcealsEvent codec state request -> Signed codec state request) := by
  constructor
  · intro authentic conceals
    rcases conceals.admitted with ⟨rawBody, payload, opened, action, id, admitted⟩
    refine (authentic .smooth (new 2048) ?_).2.1
    rw [admitted.handled]
    exact processed_of_event admitted.event rfl (beginProcessing_accepted_iff.mpr
      ⟨parseOpenedPayload_id admitted.parsed admitted.event, rfl⟩)
  · intro signsConcealed circumstances seenEvents processed
    rcases admittedEvent_of_processed processed with
      ⟨rawBody, payload, opened, action, id, admitted⟩
    refine ⟨admitted.encryptKey, ?_, admitted.carriesToken⟩
    rcases admitted.signed_or_conceals with signed | conceals
    · exact signed
    · exact signsConcealed conceals

/-! ## A concealed message -/

end

namespace ConcealedSample

def outerText : String :=
  "\x7b\"encrypt\":\"c2VhbGVk\",\"type\":\"url_verification\"\x7d"

def outerPayload : Json :=
  .object [("encrypt", .string "c2VhbGVk"), ("type", .string "url_verification")]

/-- A message that was delivered, and encrypted, before. -/
def innerPayload : Json :=
  .object
    [("event", .object
        [("message", .object
          [("chat_id", .string "oc_1"), ("content", .string "hello"),
            ("message_id", .string "om_1"), ("message_type", .string "text")])]),
      ("header", .object
        [("event_type", .string "im.message.receive_v1"), ("token", .string "token")])]

def codec : FeishuCodec where
  utf8Error := fun _ => ""
  parseJson := fun bytes =>
    if bytes.toList = outerText.toUTF8.toList then .ok outerPayload
    else if bytes.toList = "inner".toUTF8.toList then .ok innerPayload
    else .error "expected value"
  jsonText := fun _ => ""
  base64Decode := fun _ => .ok ⟨Array.replicate 32 (UInt8.ofNat 0)⟩
  sha256 := fun _ => Vector.replicate 32 (UInt8.ofNat 0)
  aesDecrypt := fun _ _ _ => .ok "inner".toUTF8
  messageText := fun _ content => content.asStr
  messageResources := fun _ _ => []
  cardSummary := fun _ _ _ _ => ""

def state : FeishuWebhookState where
  account :=
    { allowedChatIds := ["oc_1"]
      ignoreBotMessages := true
      configuredAccountId := "default"
      accountId := "feishu_main" }
  verificationToken := some "token"
  encryptKey := some "key"

/-- The request has no header at all. -/
def request : FeishuWebhookRequest where
  headers := []
  body := outerText.toUTF8

end ConcealedSample

open ConcealedSample

/-- A recorded cipher text in a challenge is processed without a signature. -/
theorem unsigned_challenge_processes_message : (state.feishuWebhookHandler codec .smooth
        (new 2048) request).processed.isSome = true /\
      ¬ Authentic codec state request := by
  constructor
  · decide +kernel
  · rintro ⟨_, ⟨encryptKey, timestamp, nonce, _, carried, _⟩, _⟩
    cases carried

end LoongClaw.Channel
