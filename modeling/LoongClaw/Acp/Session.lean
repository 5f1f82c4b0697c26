import LoongClaw.Foundation.OrderedMap
import LoongClaw.Foundation.Text

namespace LoongClaw.Acp

open Foundation OrderedMap Text

/-!
# Sessions of the agent control plane

A session is stored under its key.  A bootstrap names the session that a call
wants by its key, by a route that a channel is bound to, or by a conversation.
Calls on one session are meant to be serialised by an actor key, which is derived
from a bootstrap or from what is stored of a session.
-/

inductive AcpSessionState where
  | initializing
  | ready
  | busy
  | cancelling
  | error
  | closed
  deriving DecidableEq

inductive AcpSessionMode where
  | interactive
  | background
  | review
  deriving DecidableEq

inductive AcpRoutingOrigin where
  | explicitRequest
  | automaticAgentPrefixed
  | automaticDispatch
  deriving DecidableEq

def AcpRoutingOrigin.parse (value : String) : Option AcpRoutingOrigin :=
  match trim value with
  | "explicit_request" => some .explicitRequest
  | "automatic_agent_prefixed" => some .automaticAgentPrefixed
  | "automatic_dispatch" => some .automaticDispatch
  | _ => none

structure AcpSessionBindingScope where
  routeSessionId : String
  (channelId accountId conversationId threadId : Option String)
  deriving DecidableEq

structure AcpSessionHandle where
  (sessionKey backendId runtimeSessionName : String)
  (workingDirectory backendSessionId agentSessionId : Option String)
  binding : Option AcpSessionBindingScope

structure AcpSessionMetadata where
  sessionKey : String
  conversationId : Option String
  binding : Option AcpSessionBindingScope
  activationOrigin : Option AcpRoutingOrigin
  (backendId runtimeSessionName : String)
  (workingDirectory backendSessionId agentSessionId : Option String)
  mode : Option AcpSessionMode
  state : AcpSessionState
  lastActivityMs : Nat
  lastError : Option String
  deriving DecidableEq

/-- What a call says about the session that it wants.  Only the backend reads the
rest. -/
structure AcpSessionBootstrap where
  sessionKey : String
  conversationId : Option String
  binding : Option AcpSessionBindingScope
  mode : Option AcpSessionMode
  metadata : OrderedMap String String

def AcpSessionMetadata.toHandle (metadata : AcpSessionMetadata) : AcpSessionHandle where
  sessionKey := metadata.sessionKey
  backendId := metadata.backendId
  runtimeSessionName := metadata.runtimeSessionName
  workingDirectory := metadata.workingDirectory
  backendSessionId := metadata.backendSessionId
  agentSessionId := metadata.agentSessionId
  binding := metadata.binding

def AcpSessionHandle.intoMetadata (handle : AcpSessionHandle) (conversationId : Option String)
    (binding : Option AcpSessionBindingScope) (mode : Option AcpSessionMode)
    (state : AcpSessionState) (nowMs : Nat) : AcpSessionMetadata where
  sessionKey := handle.sessionKey
  conversationId := conversationId
  binding := binding.or handle.binding
  activationOrigin := none
  backendId := handle.backendId
  runtimeSessionName := handle.runtimeSessionName
  workingDirectory := handle.workingDirectory
  backendSessionId := handle.backendSessionId
  agentSessionId := handle.agentSessionId
  mode := mode
  state := state
  lastActivityMs := nowMs
  lastError := none

/-! ## Bindings -/

def trimmedNonEmpty (value : String) : Option String :=
  let trimmed := trim value
  if trimmed.isEmpty then none else some trimmed

def isAsciiAlphanumeric (c : Char) : Bool :=
  (48 <= c.toNat && c.toNat <= 57) || (65 <= c.toNat && c.toNat <= 90) ||
    (97 <= c.toNat && c.toNat <= 122)

def normalizeDispatchChannelId (raw : String) : Option String :=
  match (toAsciiLowercase (trim raw)).toList with
  | [] => none
  | first :: rest =>
    if !isAsciiAlphanumeric first then none
    else if rest.all fun c => isAsciiAlphanumeric c || c == '-' || c == '_' then
      some (String.ofList (first :: rest))
    else none

/-- The characters of an account, with runs of separators made one.  The result
is built from its end. -/
def normalizeAccountChars (built : List Char) (lastWasSeparator : Bool) : List Char -> List Char
  | [] => built
  | value :: rest =>
    if isAsciiAlphanumeric value then
      normalizeAccountChars (toAsciiLower value :: built) false rest
    else if built.isEmpty || lastWasSeparator then
      normalizeAccountChars built lastWasSeparator rest
    else
      normalizeAccountChars ((if value == '_' || value == '-' then value else '-') :: built) true
        rest

def normalizeDispatchAccountId (raw : String) : Option String :=
  let built := normalizeAccountChars [] false (trim raw).toList
  let normalized := (built.dropWhile fun c => c == '-' || c == '_').reverse
  if normalized.isEmpty then none else some (String.ofList normalized)

def AcpSessionBindingScope.fromMetadata (metadata : OrderedMap String String) :
    Option AcpSessionBindingScope := do
  let routeSessionId <- (lookup "route_session_id" metadata).bind trimmedNonEmpty
  return {
    routeSessionId := routeSessionId
    channelId := (lookup "channel" metadata).bind normalizeDispatchChannelId
    accountId := (lookup "channel_account_id" metadata).bind normalizeDispatchAccountId
    conversationId := (lookup "channel_conversation_id" metadata).bind trimmedNonEmpty
    threadId := (lookup "channel_thread_id" metadata).bind trimmedNonEmpty }

def AcpSessionBindingScope.fromBootstrap (bootstrap : AcpSessionBootstrap) :
    Option AcpSessionBindingScope :=
  bootstrap.binding.or (fromMetadata bootstrap.metadata)

/-! ## Actor keys -/

def normalizedConversationId (raw : Option String) : Option String :=
  raw.bind trimmedNonEmpty

def sessionActorKey (sessionKey : String) (conversationId : Option String)
    (binding : Option AcpSessionBindingScope) : String :=
  match binding with
  | some binding => "route:" ++ binding.routeSessionId
  | none =>
    match normalizedConversationId conversationId with
    | some conversationId => "conversation:" ++ conversationId
    | none => "session:" ++ trim sessionKey

def actorKeyForBootstrap (bootstrap : AcpSessionBootstrap) : String :=
  sessionActorKey bootstrap.sessionKey bootstrap.conversationId
    (AcpSessionBindingScope.fromBootstrap bootstrap)

def actorKeyForMetadata (metadata : AcpSessionMetadata) : String :=
  sessionActorKey metadata.sessionKey metadata.conversationId metadata.binding

end LoongClaw.Acp
