import LoongClaw.Tools.Invoke

namespace LoongClaw.Conversation

open Foundation Contracts Tools OrderedMap

/-!
# Conversation ingress

What the channel knows about the message that started a turn.  Calls of feishu
tools get this metadata under the reserved key of their payload, direct calls
at the top level and wrapped ones inside `arguments`.  Writing it is what makes
the payload trusted.
-/

def insertOptionalString (fields : OrderedMap String Json) (key : String)
    (value : Option String) : OrderedMap String Json :=
  match value with
  | none => fields
  | some text => insert key (.string text) fields

/-- Blank text counts as none. -/
def normalizedOptionalString (value : Option String) : Option String :=
  (value.map Text.trim).filter (fun text => decide (text ≠ ""))

structure ConversationIngressChannel where
  platform : String
  (configuredAccountId accountId : Option String)
  conversationId : String
  (participantId threadId : Option String)

structure ConversationIngressDeliveryResource where
  (resourceType fileKey : String)
  fileName : Option String

structure ConversationIngressDelivery where
  (sourceMessageId senderIdentityKey threadRootId parentMessageId : Option String)
  resources : List ConversationIngressDeliveryResource

structure ConversationIngressFeishuCallbackContext where
  (callbackToken openMessageId openChatId operatorOpenId deferredContextId : Option String)

structure ConversationIngressPrivateContext where
  feishuCallback : Option ConversationIngressFeishuCallbackContext

structure ConversationIngressContext where
  channel : ConversationIngressChannel
  delivery : ConversationIngressDelivery
  privateContext : ConversationIngressPrivateContext

def ConversationIngressChannel.asJson (channel : ConversationIngressChannel) : Json :=
  let fields := insert "conversation_id" (.string channel.conversationId)
    (insert "platform" (.string channel.platform) [])
  let fields := insertOptionalString fields "configured_account_id" channel.configuredAccountId
  let fields := insertOptionalString fields "account_id" channel.accountId
  let fields := insertOptionalString fields "participant_id" channel.participantId
  .object (insertOptionalString fields "thread_id" channel.threadId)

namespace ConversationIngressDeliveryResource

/-- A resource without a type or a key is dropped. -/
def normalized (resource : ConversationIngressDeliveryResource) :
    Option ConversationIngressDeliveryResource :=
  let resourceType := Text.trim resource.resourceType
  let fileKey := Text.trim resource.fileKey
  if resourceType = "" \/ fileKey = "" then none
  else
    some
      { resourceType
        fileKey
        fileName := normalizedOptionalString resource.fileName }

def asJson (resource : ConversationIngressDeliveryResource) : Json :=
  let fields := insert "file_key" (.string resource.fileKey)
    (insert "type" (.string resource.resourceType) [])
  .object (insertOptionalString fields "file_name" resource.fileName)

end ConversationIngressDeliveryResource

open ConversationIngressDeliveryResource

namespace ConversationIngressDelivery

def hasValues (delivery : ConversationIngressDelivery) : Bool :=
  delivery.sourceMessageId.isSome || delivery.senderIdentityKey.isSome ||
    delivery.threadRootId.isSome || delivery.parentMessageId.isSome ||
    delivery.resources.any (fun resource => resource.normalized.isSome)

def fields (delivery : ConversationIngressDelivery) : OrderedMap String Json :=
  let fields := insertOptionalString [] "source_message_id" delivery.sourceMessageId
  let fields := insertOptionalString fields "sender_identity_key" delivery.senderIdentityKey
  let fields := insertOptionalString fields "thread_root_id" delivery.threadRootId
  let fields := insertOptionalString fields "parent_message_id" delivery.parentMessageId
  let resources :=
    (delivery.resources.filterMap normalized).map asJson
  if resources.isEmpty then fields else insert "resources" (.array resources) fields

end ConversationIngressDelivery

namespace ConversationIngressFeishuCallbackContext

def normalized (callback : ConversationIngressFeishuCallbackContext) :
    Option ConversationIngressFeishuCallbackContext :=
  let callbackToken := normalizedOptionalString callback.callbackToken
  let openMessageId := normalizedOptionalString callback.openMessageId
  let openChatId := normalizedOptionalString callback.openChatId
  let operatorOpenId := normalizedOptionalString callback.operatorOpenId
  let deferredContextId := normalizedOptionalString callback.deferredContextId
  if callbackToken.isNone && openMessageId.isNone && openChatId.isNone &&
      operatorOpenId.isNone && deferredContextId.isNone then none
  else some { callbackToken, openMessageId, openChatId, operatorOpenId, deferredContextId }

def asJson (callback : ConversationIngressFeishuCallbackContext) : Option Json :=
  callback.normalized.map (fun normalized =>
    let fields := insertOptionalString [] "callback_token" normalized.callbackToken
    let fields := insertOptionalString fields "open_message_id" normalized.openMessageId
    let fields := insertOptionalString fields "open_chat_id" normalized.openChatId
    let fields := insertOptionalString fields "operator_open_id" normalized.operatorOpenId
    .object (insertOptionalString fields "deferred_context_id" normalized.deferredContextId))

end ConversationIngressFeishuCallbackContext

def ConversationIngressPrivateContext.hasValues
    (privateContext : ConversationIngressPrivateContext) : Bool :=
  (privateContext.feishuCallback.bind ConversationIngressFeishuCallbackContext.normalized).isSome

namespace ConversationIngressContext

variable (ingress : ConversationIngressContext)

def hasContextualHints : Bool :=
  ingress.channel.participantId.isSome || ingress.channel.threadId.isSome ||
    ingress.delivery.hasValues

def asEventPayload : Json :=
  let payload := insert "channel" ingress.channel.asJson
    (insert "source" (.string "channel") [])
  let delivery := ingress.delivery.fields
  .object (if delivery.isEmpty then payload
    else insert "delivery" (.object delivery) payload)

def hasInternalToolHints : Bool :=
  ingress.hasContextualHints || ingress.privateContext.hasValues

end ConversationIngressContext

open ConversationIngressContext

/-! ## Injection -/

structure InjectedToolPayload where
  payload : Json
  trustedInternalContext : Bool

def internalToolIngressKey : String := "ingress"
def internalToolFeishuCallbackKey : String := "feishu_callback"

def hintedContext (ingress : ConversationIngressContext) : OrderedMap String Json :=
  if ingress.hasContextualHints then
    insert internalToolIngressKey ingress.asEventPayload []
  else []

/-- The entries that the runtime writes about the ingress. -/
def feishuInternalContext (ingress : ConversationIngressContext) : OrderedMap String Json :=
  match ingress.privateContext.feishuCallback.bind
      ConversationIngressFeishuCallbackContext.asJson with
  | none => hintedContext ingress
  | some callback =>
    insert internalToolFeishuCallbackKey callback (hintedContext ingress)

def injectFeishuInternalContext (payload : Json) (ingress : ConversationIngressContext) :
    InjectedToolPayload :=
  match payload with
  | .object body =>
    let internal := feishuInternalContext ingress
    if internal.isEmpty then { payload := .object body, trustedInternalContext := false }
    else
      { payload :=
          .object (insert internalToolContextKey (.object internal) body)
        trustedInternalContext := true }
  | payload => { payload, trustedInternalContext := false }

variable {ingress : ConversationIngressContext} {key : String} {value : Json}
  {outer : OrderedMap String Json} {present : ConversationIngressContext}

theorem hintedContext_lookup (found : (hintedContext ingress).lookup key = some value) :
    key = internalToolIngressKey /\ value = ingress.asEventPayload := by
  unfold hintedContext at found
  split at found
  · rw [lookup_insert] at found
    split at found
    · rename_i same
      exact ⟨same, (Option.some.inj found).symm⟩
    · cases found
  · cases found

/-- Every entry is one of the two that describe the ingress. -/
theorem feishuInternalContext_lookup
    (found : (feishuInternalContext ingress).lookup key = some value) :
    (key = internalToolIngressKey /\ value = ingress.asEventPayload) \/
      (key = internalToolFeishuCallbackKey /\ ingress.privateContext.feishuCallback.bind
          ConversationIngressFeishuCallbackContext.asJson = some value) := by
  unfold feishuInternalContext at found
  split at found
  · exact Or.inl (hintedContext_lookup found)
  · rename_i callback isCallback
    rw [lookup_insert] at found
    split at found
    · rename_i same
      exact Or.inr ⟨same, by rw [isCallback, Option.some.inj found]⟩
    · exact Or.inl (hintedContext_lookup found)

variable {fields : OrderedMap String Json}

theorem insert_isEmpty {key : String} {value : Json} :
    (OrderedMap.insert key value fields).isEmpty = false := by
  cases fields with
  | nil => rfl
  | cons entry rest =>
    unfold OrderedMap.insert
    split
    · rfl
    · split <;> rfl

/-- An ingress with hints always has something to write. -/
theorem feishuInternalContext_isEmpty (ingress : ConversationIngressContext) :
    (feishuInternalContext ingress).isEmpty = !ingress.hasInternalToolHints := by
  have callback : (ingress.privateContext.feishuCallback.bind
      ConversationIngressFeishuCallbackContext.asJson).isSome =
        ingress.privateContext.hasValues := by
    unfold ConversationIngressPrivateContext.hasValues
    cases ingress.privateContext.feishuCallback with
    | none => rfl
    | some callback => simp [ConversationIngressFeishuCallbackContext.asJson]
  unfold feishuInternalContext hasInternalToolHints
  rw [<- callback]
  split
  · rename_i noCallback
    rw [noCallback]
    unfold hintedContext
    cases ingress.hasContextualHints <;> simp [insert_isEmpty]
  · rename_i value isCallback
    rw [isCallback, insert_isEmpty]
    simp

/-- The canonical name of the tool inside an invocation. -/
def invokedToolName (payload : Json) : Option String :=
  ((payload.get "tool_id").bind Json.asStr).map canonicalToolName

def wrapsFeishuTool (payload : Json) : Bool :=
  (invokedToolName payload).any (fun name => Text.startsWith name "feishu.")

/-- A wrapped call gets the context inside its arguments. -/
def injectIntoArguments (outer : OrderedMap String Json) (ingress : ConversationIngressContext) :
    InjectedToolPayload :=
  let arguments := (outer.lookup "arguments").getD (.object [])
  let injected := injectFeishuInternalContext arguments ingress
  { payload := .object (insert "arguments" injected.payload (outer.erase "arguments"))
    trustedInternalContext := injected.trustedInternalContext }

def injectInternalToolIngress (toolName : String) (payload : Json)
    (ingress : Option ConversationIngressContext) : InjectedToolPayload :=
  match ingress.filter hasInternalToolHints with
  | none => { payload, trustedInternalContext := false }
  | some ingress =>
    let canonicalName := canonicalToolName toolName
    if canonicalName = "tool.invoke" then
      if wrapsFeishuTool payload then
        match payload with
        | .object outer => injectIntoArguments outer ingress
        | payload => { payload, trustedInternalContext := false }
      else { payload, trustedInternalContext := false }
    else if Text.startsWith canonicalName "feishu." then
      injectFeishuInternalContext payload ingress
    else { payload, trustedInternalContext := false }

/-! ## Which calls become trusted -/

/-- The arguments of an invocation are an object, or missing. -/
def hasObjectArguments (outer : OrderedMap String Json) : Bool :=
  ((outer.lookup "arguments").getD (.object [])).asObject.isSome

variable (ingress : Option ConversationIngressContext)

/-- The invocation wraps a feishu tool and comes from a channel with hints. -/
def ingressTrustsInvocation (outer : OrderedMap String Json) : Bool :=
  ingress.any hasInternalToolHints && wrapsFeishuTool (.object outer) && hasObjectArguments outer

/-- What the injection makes of the payload of an invocation. -/
structure InjectedInvocation (outer injected : OrderedMap String Json) : Prop where
  others : ∀ key, key ≠ "arguments" -> injected.lookup key = outer.lookup key
  untrusted : ingressTrustsInvocation ingress outer = false ->
      injected.lookup "arguments" = outer.lookup "arguments"
  trusted : ingressTrustsInvocation ingress outer = true ->
      ∃ present, ingress = some present /\ ∃ entries : OrderedMap String Json,
          injected.lookup "arguments" = some (.object entries) /\
            entries.lookup internalToolContextKey = some (.object (feishuInternalContext present))

/-- Writing a field back leaves the others. -/
theorem lookup_replace {key other : String} {value : Json} :
    (insert key value (fields.erase key)).lookup other =
      if other = key then some value else fields.lookup other := by
  by_cases same : other = key
  · rw [if_pos same, same, lookup_insert_self]
  · rw [if_neg same, lookup_insert_of_ne same, lookup_erase_of_ne same]

theorem injectFeishuInternalContext_object (hinted : present.hasInternalToolHints = true)
    (body : OrderedMap String Json) :
    injectFeishuInternalContext (.object body) present =
      { payload :=
          .object (insert internalToolContextKey
            (.object (feishuInternalContext present)) body)
        trustedInternalContext := true } := by
  have nonempty := feishuInternalContext_isEmpty present
  rw [hinted] at nonempty
  unfold injectFeishuInternalContext
  simp [nonempty]

theorem injectFeishuInternalContext_other {payload : Json} (notObject : payload.asObject = none) :
    injectFeishuInternalContext payload present = { payload, trustedInternalContext := false } := by
  cases payload with
  | object body => cases notObject
  | _ => rfl

/-- An invocation that wraps no feishu tool, or has no hints, stays as it is. -/
theorem injectInternalToolIngress_plain {ingress : Option ConversationIngressContext}
    (plain : (ingress.any hasInternalToolHints && wrapsFeishuTool (.object outer)) = false) :
    injectInternalToolIngress "tool.invoke" (.object outer) ingress =
      { payload := .object outer, trustedInternalContext := false } := by
  unfold injectInternalToolIngress
  cases ingress with
  | none => rfl
  | some present =>
    cases hinted : present.hasInternalToolHints with
    | false => simp [Option.filter, hinted]
    | true =>
      have noFeishu : wrapsFeishuTool (.object outer) = false := by
        simpa [hinted] using plain
      simp [Option.filter, hinted, canonicalToolName_invoke, noFeishu]

theorem injectInternalToolIngress_invoke (outer : OrderedMap String Json) :
    ∃ injected, injectInternalToolIngress "tool.invoke" (.object outer) ingress =
          { payload := .object injected
            trustedInternalContext := ingressTrustsInvocation ingress outer } /\
        InjectedInvocation ingress outer injected := by
  cases wrapped : ingress.any hasInternalToolHints && wrapsFeishuTool (.object outer) with
  | false =>
    have plain : ingressTrustsInvocation ingress outer = false := by
      simp [ingressTrustsInvocation, wrapped]
    rw [plain, injectInternalToolIngress_plain wrapped]
    refine ⟨outer, rfl, fun _ _ => rfl, fun _ => rfl, ?_⟩
    intro trusts
    rw [plain] at trusts
    cases trusts
  | true =>
    rcases Bool.and_eq_true_iff.mp wrapped with ⟨hints, wraps⟩
    rcases (Option.any_eq_true _ _).mp hints with ⟨present, rfl, hinted⟩
    have decides : ingressTrustsInvocation (some present) outer = hasObjectArguments outer := by
      unfold ingressTrustsInvocation
      rw [wrapped, Bool.true_and]
    have injects : injectInternalToolIngress "tool.invoke" (.object outer) (some present) =
        injectIntoArguments outer present := by
      unfold injectInternalToolIngress
      simp [Option.filter, hinted, canonicalToolName_invoke, wraps]
    rw [injects, decides]
    cases arguments : ((outer.lookup "arguments").getD (.object [])).asObject with
    | none =>
      have noObject : hasObjectArguments outer = false := by
        simp [hasObjectArguments, arguments]
      cases found : outer.lookup "arguments" with
      | none =>
        rw [found] at arguments
        cases arguments
      | some value =>
        rw [found, Option.getD_some] at arguments
        unfold injectIntoArguments
        simp only [found, Option.getD_some, injectFeishuInternalContext_other arguments, noObject]
        refine ⟨_, rfl, ?_, ?_, ?_⟩
        · intro key different
          rw [lookup_replace, if_neg different]
        · intro _
          rw [lookup_replace, if_pos rfl, found]
        · intro trusts
          rw [decides, noObject] at trusts
          cases trusts
    | some body =>
      have isObject : hasObjectArguments outer = true := by
        simp [hasObjectArguments, arguments]
      unfold injectIntoArguments
      simp only [Json.asObject_eq_some.mp arguments, injectFeishuInternalContext_object hinted,
        isObject]
      refine ⟨_, rfl, ?_, ?_, ?_⟩
      · intro key different
        rw [lookup_replace, if_neg different]
      · intro plain
        rw [decides, isObject] at plain
        cases plain
      · intro _
        refine ⟨present, rfl, insert internalToolContextKey
          (.object (feishuInternalContext present)) body, ?_, ?_⟩
        · rw [lookup_replace, if_pos rfl]
        · rw [lookup_insert_self]

end LoongClaw.Conversation
