import LoongClaw.Contracts.Types
import LoongClaw.Tools.RuntimeConfig
import LoongClaw.Tools.WebHttp

namespace LoongClaw.Tools

open Foundation Contracts Fallible Attempt Text

/-!
# The web.fetch tool

A target is validated before every request, with a lookup of its own, and
redirects are followed by hand.  The browser tools share the validation and
the redirect loop; each surface puts its name before the errors.
-/

/-! ## Targets -/

def domainRuleMatches (host rule : String) : Bool :=
  if startsWith rule "*." then
    let suffix := stripStart "*." rule
    host == suffix || endsWith host ("." ++ suffix)
  else host == rule

def firstMatchingDomainRule (host : String) (rules : Finset String) : Option String :=
  (ascending rules).find? (domainRuleMatches host)

/-- The host of a URL whose scheme and domain the policy accepts. -/
def screenWebHost (library : WebLibrary) (url : Url) (policy : WebFetchRuntimePolicy)
    (surfaceName : String) : Except String UrlHost := do
  if url.scheme ≠ "http" /\ url.scheme ≠ "https" then
    .error (surfaceName ++ " requires http or https url, got scheme `" ++ url.scheme ++ "`")
  else do
    let host <- okOr url.host (surfaceName ++ " url `" ++ url.text ++ "` has no host")
    let name := toAsciiLowercase (library.hostStr host)
    match firstMatchingDomainRule name policy.blockedDomains with
    | some rule =>
      .error (surfaceName ++ " blocked host `" ++ name ++
        "` because it matches blocked domain rule `" ++ rule ++ "`")
    | none =>
      if policy.enforceAllowedDomains &&
          (firstMatchingDomainRule name policy.allowedDomains).isNone then
        .error (surfaceName ++ " denied host `" ++ name ++ "` because it is not in allowed_domains")
      else .ok host

/-- Addresses that a name resolves to when its target is validated. -/
def checkResolvedAddresses (library : WebLibrary) (surfaceName host : String)
    (addresses : List IpAddr) : Except String String :=
  match addresses.find? isPrivateOrSpecialIp with
  | some address =>
    .error (surfaceName ++ " blocked private or special-use address `" ++
      library.ipText address ++ "` for host `" ++ host ++ "`")
  | none =>
    if addresses.isEmpty then
      .error (surfaceName ++ " resolved no addresses for host `" ++ host ++ "`")
    else .ok host

section Tool

variable {σ : Type} (network : Network) (library : WebLibrary)

/-- The validation of a target whose scheme and name the policy accepts. -/
def validateScreened (url : Url) (allowPrivateHosts : Bool) (surfaceName : String)
    (target : UrlHost) : Attempt (WebState σ) String String :=
  let host := toAsciiLowercase (library.hostStr target)
  if allowPrivateHosts then pure host
  else if host = "localhost" then
    fail (surfaceName ++ " blocked private or special-use host `localhost`")
  else
    match target.parseIpAddr with
    | some address =>
      if isPrivateOrSpecialIp address then
        fail (surfaceName ++ " blocked private or special-use address `" ++
          library.ipText address ++ "`")
      else pure host
    | none => do
      discard (lift (okOr url.portOrKnownDefault
        (surfaceName ++ " url `" ++ url.text ++ "` has no known port")))
      let answer <- systemLookup network host
      let addresses <- lift (answer.mapError
        (surfaceName ++ " failed to resolve host `" ++ host ++ "`: " ++ ·))
      lift (checkResolvedAddresses library surfaceName host addresses)

def validateWebTarget (url : Url) (policy : WebFetchRuntimePolicy) (surfaceName : String) :
    Attempt (WebState σ) String String := do
  let target <- lift (screenWebHost library url policy surfaceName)
  validateScreened network library url policy.allowPrivateHosts surfaceName target

/-! ## Redirects -/

/-- A response that is no redirect, and where it came from. -/
structure Fetched where
  response : HttpResponse
  url : Url
  host : String
  redirectCount : Nat

def redirectLocation (surfaceName : String) (response : HttpResponse) : Except String String := do
  let location <- okOr response.location
    (surfaceName ++ " received redirect status " ++ library.statusText response.status ++
      " without Location header")
  location.mapError (surfaceName ++ " redirect Location header was invalid: " ++ ·)

/-- Send a request, with its failures reported for the surface. -/
def sendFor (resolver : DnsResolver) (surfaceName : String) (url : Url) :
    Attempt (WebState σ) String HttpResponse :=
  fun state =>
    let outcome := resolver.send network library url state
    (outcome.1.mapError (surfaceName ++ " request failed: " ++ ·), outcome.2)

/-- `remaining` redirects may still be followed. -/
def fetchLoop (resolver : DnsResolver) (policy : WebFetchRuntimePolicy) (surfaceName : String)
    (remaining : Nat) (url : Url) (host : String) (redirectCount : Nat) :
    Attempt (WebState σ) String Fetched := do
  let response <- sendFor network library resolver surfaceName url
  if response.isRedirection then
    match remaining with
    | 0 =>
      fail (surfaceName ++ " exceeded redirect limit (" ++
        toString policy.maxRedirects.toNat ++ ")")
    | remaining + 1 => do
      let location <- lift (redirectLocation library surfaceName response)
      let nextUrl <- lift ((library.join url location).mapError
        (surfaceName ++ " failed to resolve redirect target: " ++ ·))
      let nextHost <- validateWebTarget network library nextUrl policy surfaceName
      fetchLoop resolver policy surfaceName remaining nextUrl nextHost (redirectCount + 1)
  else if response.isSuccess then pure { response, url, host, redirectCount }
  else
    fail (surfaceName ++ " returned non-success status " ++
      library.statusText response.status ++ " for `" ++ url.text ++ "`")

/-- Validate a URL and fetch it.  The two surfaces word the error of a URL that
does not parse in their own way. -/
def fetchUrl (resolver : DnsResolver) (policy : WebFetchRuntimePolicy)
    (surfaceName invalidUrl rawUrl : String) : Attempt (WebState σ) String Fetched := do
  let url <- lift ((library.parseUrl rawUrl).mapError (invalidUrl ++ " `" ++ rawUrl ++ "`: " ++ ·))
  let host <- validateWebTarget network library url policy surfaceName
  fetchLoop network library resolver policy surfaceName policy.maxRedirects.toNat url host 0

/-! ## The tool -/

inductive RenderMode where
  | readableText
  | rawText
  deriving DecidableEq

def RenderMode.asStr : RenderMode -> String
  | .readableText => "readable_text"
  | .rawText => "raw_text"

def parseRenderMode (payload : OrderedMap String Json) : Except String RenderMode :=
  match OrderedMap.lookup "mode" payload with
  | none => .ok .readableText
  | some value => do
    let raw <- okOr (filled value.asStr) "web.fetch payload.mode must be a string"
    if raw = "readable_text" \/ raw = "text" then .ok .readableText
    else if raw = "raw_text" \/ raw = "raw" then .ok .rawText
    else
      .error ("web.fetch payload.mode must be one of `readable_text`, `raw_text`, `text`, " ++
        "or `raw`")

/-- A byte limit of the caller, at most the configured one. -/
def parseMaxBytes (payload : OrderedMap String Json) (configuredMax : UInt64)
    (toolName : String) : Except String UInt64 :=
  match OrderedMap.lookup "max_bytes" payload with
  | none => .ok configuredMax
  | some value => do
    let parsed <- okOr value.asU64 (toolName ++ " payload.max_bytes must be an integer")
    if parsed = 0 then .error (toolName ++ " payload.max_bytes must be >= 1")
    else if configuredMax < parsed then
      .error (toolName ++ " payload.max_bytes exceeds configured limit (" ++
        toString configuredMax.toNat ++ " bytes)")
    else .ok parsed

/-- Collect the chunks of a body, up to one byte more than the limit. -/
def collectBody (maxBytes : UInt64) (body : List UInt8) :
    List (Except String (List UInt8)) -> Except String (List UInt8)
  | [] => .ok body
  | .error error :: _ => .error ("failed to read web.fetch response body: " ++ error)
  | .ok chunk :: rest =>
    if min (maxBytes.toNat + 1) (2 ^ 64 - 1) < body.length + chunk.length then
      .error ("web.fetch response exceeded max_bytes limit (" ++ toString maxBytes.toNat ++
        " bytes)")
    else collectBody maxBytes (body ++ chunk) rest

def optionalText (value : Option String) : Json :=
  (value.map Json.string).getD .null

def countJson (count : Nat) : Json :=
  .number (.posInt (UInt64.ofNat count))

def renderWebFetch (toolName rawUrl : String) (mode : RenderMode) (maxBytes : UInt64)
    (fetched : Fetched) : Except String Json := do
  if fetched.response.contentLength.any (fun length => decide (maxBytes < length)) then
    .error ("web.fetch response Content-Length (" ++
      toString (fetched.response.contentLength.map UInt64.toNat |>.getD 0) ++
      ") exceeds max_bytes limit (" ++ toString maxBytes.toNat ++ " bytes)")
  else do
    let body <- collectBody maxBytes [] fetched.response.chunks
    let contentType := fetched.response.contentType
    let rawText := library.lossyText body
    let isHtml := library.looksLikeHtml contentType rawText
    if mode = .readableText && !isHtml && library.responseIsProbablyBinary contentType body then
      .error ("web.fetch readable_text mode only supports text-like responses; " ++
        "binary bodies are not returned")
    else
      .ok (.object
        [ ("adapter", .string "core-tools"), ("bytes_downloaded", countJson body.length),
          ("content", .string
            (if mode = .readableText && isHtml then library.extractReadableTextFromHtml rawText
            else trim rawText)),
          ("content_type", optionalText contentType),
          ("final_url", .string fetched.url.text),
          ("host", .string fetched.host),
          ("mode", .string mode.asStr),
          ("redirect_count", countJson fetched.redirectCount),
          ("requested_url", .string rawUrl),
          ("status_code", countJson fetched.response.status),
          ("title", optionalText (if isHtml then library.extractHtmlTitle rawText else none)),
          ("tool_name", .string toolName) ])

def executeWebFetchTool (config : ToolRuntimeConfig) (request : ToolCoreRequest) :
    Attempt (WebState σ) String Json := do
  if config.webFetch.enabled = false then
    fail "web.fetch is disabled by config.tools.web.enabled=false"
  else do
    let payload <- lift (okOr request.payload.asObject "web.fetch payload must be an object")
    let rawUrl <- lift (okOr (filled ((OrderedMap.lookup "url" payload).bind Json.asStr))
      "web.fetch requires payload.url")
    let mode <- lift (parseRenderMode payload)
    let maxBytes <- lift (parseMaxBytes payload config.webFetch.maxBytes "web.fetch")
    let fetched <- fetchUrl network library (.ssrfSafe config.webFetch.allowPrivateHosts)
      config.webFetch "web.fetch" "invalid web.fetch url" rawUrl
    lift (renderWebFetch library request.toolName rawUrl mode maxBytes fetched)

end Tool

/-! ## Accepted targets -/

theorem screenWebHost_host {library : WebLibrary} {url : Url} {policy : WebFetchRuntimePolicy}
    {surfaceName : String} {host : UrlHost}
    (screened : screenWebHost library url policy surfaceName = .ok host) :
    url.host = some host := by
  unfold screenWebHost at screened
  split_ifs at screened
  rcases bind_eq_ok_iff.mp screened with ⟨found, present, rest⟩
  dsimp only at rest
  split at rest
  · cases rest
  · split_ifs at rest
    cases rest
    exact okOr_eq_ok_iff.mp present

theorem firstMatchingDomainRule_eq_none_iff {host : String} {rules : Finset String} :
    firstMatchingDomainRule host rules = none ↔
      ∀ rule, rule ∈ rules -> domainRuleMatches host rule = false := by
  unfold firstMatchingDomainRule ascending
  rw [List.find?_eq_none]
  simp only [Finset.mem_sort, Bool.not_eq_true]

theorem firstMatchingDomainRule_isNone_iff {host : String} {rules : Finset String} :
    (firstMatchingDomainRule host rules).isNone = true ↔
      ¬ ∃ rule, rule ∈ rules /\ domainRuleMatches host rule = true := by
  rw [Option.isNone_iff_eq_none, firstMatchingDomainRule_eq_none_iff]
  simp

/-- The name that the domain rules are matched with. -/
def targetName (library : WebLibrary) (target : UrlHost) : String :=
  Text.toAsciiLowercase (library.hostStr target)

/-- What a policy asks of the scheme and the name of a target. -/
structure Screened (library : WebLibrary) (policy : WebFetchRuntimePolicy) (url : Url)
    (target : UrlHost) : Prop where
  scheme : url.scheme = "http" \/ url.scheme = "https"
  host : url.host = some target
  unblocked : ∀ rule, rule ∈ policy.blockedDomains ->
    domainRuleMatches (targetName library target) rule = false
  allowed : policy.enforceAllowedDomains = true -> ∃ rule,
    rule ∈ policy.allowedDomains /\ domainRuleMatches (targetName library target) rule = true

theorem screenWebHost_eq_ok_iff {library : WebLibrary} {url : Url}
    {policy : WebFetchRuntimePolicy} {surfaceName : String} {target : UrlHost} :
    screenWebHost library url policy surfaceName = .ok target ↔
      Screened library policy url target := by
  have listed : ∀ name, (policy.enforceAllowedDomains &&
      (firstMatchingDomainRule name policy.allowedDomains).isNone) = false ↔
        (policy.enforceAllowedDomains = true -> ∃ rule,
          rule ∈ policy.allowedDomains /\ domainRuleMatches name rule = true) := by
    intro name
    cases policy.enforceAllowedDomains with
    | false => simp
    | true =>
      rw [Bool.true_and, Bool.eq_false_iff, ne_eq, firstMatchingDomainRule_isNone_iff]
      simp
  constructor
  · intro screened
    have host := screenWebHost_host screened
    unfold screenWebHost at screened
    split_ifs at screened with scheme
    rcases bind_eq_ok_iff.mp screened with ⟨found, present, rest⟩
    cases host.symm.trans (okOr_eq_ok_iff.mp present)
    dsimp only at rest
    split at rest
    · cases rest
    case h_2 unblocked =>
      split_ifs at rest with denied
      refine ⟨?_, host, firstMatchingDomainRule_eq_none_iff.mp unblocked, ?_⟩
      · by_contra other
        exact scheme ⟨fun http => other (.inl http), fun https => other (.inr https)⟩
      · exact (listed _).mp (Bool.eq_false_iff.mpr denied)
  · intro screened
    have scheme : ¬ (url.scheme ≠ "http" /\ url.scheme ≠ "https") := by
      rintro ⟨notHttp, notHttps⟩
      rcases screened.scheme with http | https
      · exact notHttp http
      · exact notHttps https
    have unblocked := firstMatchingDomainRule_eq_none_iff.mpr screened.unblocked
    have allowed := (listed _).mpr screened.allowed
    unfold targetName at unblocked allowed
    unfold screenWebHost
    rw [if_neg scheme]
    apply bind_eq_ok_iff.mpr
    refine ⟨target, okOr_eq_ok_iff.mpr screened.host, ?_⟩
    dsimp only
    rw [unblocked]
    rw [allowed, if_neg Bool.false_ne_true]

/-- At the time, the target is no private one: its name is not `localhost`, and
its address, or each one that its name resolves to, is public. -/
structure PublicTarget (network : Network) (library : WebLibrary) (target : UrlHost)
    (time : Nat) : Prop where
  notLocalhost : targetName library target ≠ "localhost"
  literal : ∀ address, target.parseIpAddr = some address -> isPrivateOrSpecialIp address = false
  resolved : target.parseIpAddr = none -> ∃ addresses,
    network.lookup time (targetName library target) = .ok addresses /\ addresses ≠ [] /\
      AllPublic addresses

/-- How often a name is looked up for a target when it is validated. -/
def UrlHost.lookups (target : UrlHost) : Nat :=
  match target.parseIpAddr with
  | some _ => 0
  | none => 1

/-- A policy without private hosts accepts the URL at the time. -/
structure AcceptedTarget (network : Network) (library : WebLibrary)
    (policy : WebFetchRuntimePolicy) (url : Url) (target : UrlHost) (time : Nat) : Prop where
  screened : Screened library policy url target
  isPublic : PublicTarget network library target time

section Validation

variable {σ : Type} {network : Network} {library : WebLibrary} {policy : WebFetchRuntimePolicy}
  {surfaceName : String} {url : Url} {target : UrlHost}

theorem checkResolvedAddresses_eq_ok_iff {host result : String} {addresses : List IpAddr} :
    checkResolvedAddresses library surfaceName host addresses = .ok result ↔
      (addresses ≠ [] /\ AllPublic addresses) /\ host = result := by
  unfold checkResolvedAddresses AllPublic
  cases found : addresses.find? isPrivateOrSpecialIp with
  | some blocked =>
    have isPrivate := List.find?_some found
    have listed := List.mem_of_find?_eq_some found
    constructor
    · intro impossible
      cases impossible
    · rintro ⟨⟨_, isPublic⟩, _⟩
      cases isPrivate.symm.trans (isPublic blocked listed)
  | none =>
    rw [List.find?_eq_none] at found
    cases addresses with
    | nil => simp
    | cons address rest => simp_all

/-- The validation accepts the targets that are public at its time, and asks the
network at most once. -/
theorem validateScreened_cases (scheme : url.scheme = "http" \/ url.scheme = "https")
    (state : WebState σ) :
    (PublicTarget network library target state.time /\
      validateScreened network library url false surfaceName target state =
        (.ok (targetName library target), { state with time := state.time + target.lookups })) \/
    (¬ PublicTarget network library target state.time /\ ∃ error time,
      validateScreened network library url false surfaceName target state =
        (.error error, { state with time })) := by
  have port : ∃ port, url.portOrKnownDefault = some port := by
    unfold Url.portOrKnownDefault
    cases url.port with
    | some port => exact ⟨port, rfl⟩
    | none =>
      rcases scheme with http | https
      · exact ⟨80, by rw [http]; rfl⟩
      · exact ⟨443, by rw [https]; rfl⟩
  rcases port with ⟨port, known⟩
  unfold validateScreened UrlHost.lookups
  rw [if_neg Bool.false_ne_true, <- targetName]
  by_cases isLocalhost : targetName library target = "localhost"
  · rw [if_pos isLocalhost]
    exact .inr ⟨fun isPublic => isPublic.notLocalhost isLocalhost, _, state.time, rfl⟩
  rw [if_neg isLocalhost]
  cases parsed : target.parseIpAddr with
  | some address =>
    by_cases isPrivate : isPrivateOrSpecialIp address = true
    · refine .inr ⟨fun isPublic => ?_, _, state.time, congrFun (if_pos isPrivate) state⟩
      cases isPrivate.symm.trans (isPublic.literal address parsed)
    · refine .inl ⟨⟨isLocalhost, ?_, fun missing => by cases parsed.symm.trans missing⟩,
        congrFun (if_neg isPrivate) state⟩
      intro literal same
      cases parsed.symm.trans same
      exact Bool.eq_false_iff.mpr isPrivate
  | none =>
    have resolves : PublicTarget network library target state.time ↔ ∃ addresses,
        network.lookup state.time (targetName library target) = .ok addresses /\
          addresses ≠ [] /\ AllPublic addresses := by
      refine ⟨fun isPublic => isPublic.resolved parsed, fun resolved => ?_⟩
      refine ⟨isLocalhost, ?_, fun _ => resolved⟩
      intro literal same
      cases parsed.symm.trans same
    have ported : (discard (lift (Except.ok port)) : Attempt (WebState σ) String PUnit) state =
        (.ok ⟨⟩, state) := rfl
    rw [resolves, known]
    cases answer : network.lookup state.time (targetName library target) with
    | error error =>
      refine .inr ⟨nofun, surfaceName ++ " failed to resolve host `" ++
        targetName library target ++ "`: " ++ error, state.time + 1, ?_⟩
      simp [okOr, ported, systemLookup, bind_apply, lift_apply, answer, Except.mapError]
    | ok addresses =>
      cases checked : checkResolvedAddresses library surfaceName (targetName library target)
          addresses with
      | ok host =>
        rcases checkResolvedAddresses_eq_ok_iff.mp checked with ⟨isPublic, rfl⟩
        refine .inl ⟨⟨addresses, rfl, isPublic⟩, ?_⟩
        simp [okOr, ported, systemLookup, bind_apply, lift_apply, answer, Except.mapError, checked]
      | error error =>
        refine .inr ⟨?_, error, state.time + 1, ?_⟩
        · rintro ⟨others, same, isPublic⟩
          cases same
          cases checked.symm.trans (checkResolvedAddresses_eq_ok_iff.mpr ⟨isPublic, rfl⟩)
        · simp [okOr, ported, systemLookup, bind_apply, lift_apply, answer, Except.mapError,
            checked]

theorem validateWebTarget_cases (denied : policy.allowPrivateHosts = false)
    (state : WebState σ) :
    (∃ target, AcceptedTarget network library policy url target state.time /\
      validateWebTarget network library url policy surfaceName state =
        (.ok (targetName library target), { state with time := state.time + target.lookups })) \/
    ((¬ ∃ target, AcceptedTarget network library policy url target state.time) /\
      ∃ error time, validateWebTarget network library url policy surfaceName state =
        (.error error, { state with time })) := by
  unfold validateWebTarget
  rw [denied]
  cases screening : screenWebHost library url policy surfaceName with
  | error error =>
    refine .inr ⟨?_, error, state.time, rfl⟩
    rintro ⟨target, accepted⟩
    cases screening.symm.trans (screenWebHost_eq_ok_iff.mpr accepted.screened)
  | ok target =>
    have screened := screenWebHost_eq_ok_iff.mp screening
    rw [bind_ok lift_apply]
    rcases validateScreened_cases screened.scheme state with
      ⟨isPublic, accepts⟩ | ⟨isPrivate, error, time, refuses⟩
    · exact .inl ⟨target, ⟨screened, isPublic⟩, accepts⟩
    · refine .inr ⟨?_, error, time, refuses⟩
      rintro ⟨other, accepted⟩
      cases screened.host.symm.trans accepted.screened.host
      exact isPrivate accepted.isPublic

end Validation

/-! ## Requests -/

/-- The URLs that a fetch visits, each with the time at which it is requested.
From a URL that is requested at a time, a redirect leads to the next one if the
network answers the request with it and the policy accepts its target. -/
inductive Visits (network : Network) (library : WebLibrary) (policy : WebFetchRuntimePolicy)
    (resolver : DnsResolver) : Nat -> Url -> Nat -> Url -> Nat -> Prop
  | here {remaining url time} :
      Visits network library policy resolver remaining url time url time
  | redirect {remaining url time host addresses later response location nextUrl target last
      lastTime} :
      url.host = some host -> Contacts network resolver time host addresses later ->
      network.respond later url = .ok response -> response.isRedirection = true ->
      response.location = some (.ok location) -> library.join url location = .ok nextUrl ->
      AcceptedTarget network library policy nextUrl target (later + 1) ->
      Visits network library policy resolver remaining nextUrl (later + 1 + target.lookups) last
        lastTime ->
      Visits network library policy resolver (remaining + 1) url time last lastTime

section Requests

variable {σ α : Type} {network : Network} {library : WebLibrary}
  {policy : WebFetchRuntimePolicy} {surfaceName : String} {url : Url} {resolver : DnsResolver}
  {state : WebState σ}

theorem AcceptedTarget.literalPublic {target : UrlHost} {time : Nat}
    (accepted : AcceptedTarget network library policy url target time) : url.LiteralPublic := by
  intro address literal
  cases accepted.screened.host.symm.trans literal
  exact accepted.isPublic.literal _ rfl

theorem redirectLocation_eq_ok_iff {response : HttpResponse} {location : String} :
    redirectLocation library surfaceName response = .ok location ↔
      response.location = some (.ok location) := by
  unfold redirectLocation
  rw [bind_eq_ok_iff]
  constructor
  · rintro ⟨found, present, valid⟩
    rw [okOr_eq_ok_iff.mp present, mapError_eq_ok_iff.mp valid]
  · intro located
    exact ⟨_, okOr_eq_ok_iff.mpr located, rfl⟩

theorem publicIff_validate_bind (denied : policy.allowPrivateHosts = false)
    {next : String -> Attempt (WebState σ) String α} {after : UrlHost -> Prop}
    (rest : ∀ target, AcceptedTarget network library policy url target state.time ->
      PublicIff (next (targetName library target))
        { state with time := state.time + target.lookups } (after target)) :
    PublicIff (validateWebTarget network library url policy surfaceName >>= next) state
      (∀ target, AcceptedTarget network library policy url target state.time -> after target) := by
  unfold PublicIff
  rcases validateWebTarget_cases denied state with
    ⟨target, accepted, ran⟩ | ⟨refused, error, time, ran⟩
  · rw [bind_ok ran, show _ ↔ _ from rest target accepted]
    refine and_congr_right fun _ => ⟨fun holds other alsoAccepted => ?_, fun all => all _ accepted⟩
    cases accepted.screened.host.symm.trans alsoAccepted.screened.host
    exact holds
  · rw [bind_error ran]
    refine (and_iff_left fun target accepted => ?_).symm
    exact absurd ⟨target, accepted⟩ refused

theorem publicIff_sendFor_bind {host : UrlHost} (named : url.host = some host)
    (literal : url.LiteralPublic) {next : HttpResponse -> Attempt (WebState σ) String α}
    {after : HttpResponse -> Nat -> Prop}
    (rest : ∀ response later hops,
      PublicIff (next response) { state with time := later + 1, hops } (after response later)) :
    PublicIff (sendFor network library resolver surfaceName url >>= next) state
      (ConnectsPublicly network resolver url state.time /\ ∀ addresses later response,
        Contacts network resolver state.time host addresses later ->
        network.respond later url = .ok response -> after response later) := by
  unfold PublicIff
  rcases DnsResolver.send_cases named state with
    ⟨addresses, later, contacts, sent⟩ | ⟨unanswered, error, time, sent⟩
  · have dialled := DnsResolver.dialled_public_iff named literal contacts
    have appended : ({ state with
        time := later + 1
        hops := state.hops ++ [⟨resolver, host, network.dial later addresses⟩] } :
          WebState σ).HopsPublic ↔
        state.HopsPublic /\ ConnectsPublicly network resolver url state.time := by
      rw [<- dialled]
      exact List.forall_mem_append.trans (and_congr_right fun _ => List.forall_mem_singleton)
    cases answer : network.respond later url with
    | error error =>
      rw [answer] at sent
      rw [bind_error (show sendFor network library resolver surfaceName url state = _ by
        unfold sendFor; rw [sent]; rfl), appended]
      refine and_congr_right fun _ => (and_iff_left ?_).symm
      intro others lastly response alsoContacts responds
      rw [(contacts.unique alsoContacts).2] at answer
      cases answer.symm.trans responds
    | ok response =>
      rw [answer] at sent
      rw [bind_ok (show sendFor network library resolver surfaceName url state = _ by
        unfold sendFor; rw [sent]; rfl), show _ ↔ _ from rest response later _, appended, and_assoc]
      refine and_congr_right fun _ => and_congr_right fun _ =>
        ⟨fun holds others lastly other alsoContacts responds => ?_, fun all => ?_⟩
      · rw [<- (contacts.unique alsoContacts).2] at responds ⊢
        cases answer.symm.trans responds
        exact holds
      · exact all addresses later response contacts answer
  · rw [bind_error (show sendFor network library resolver surfaceName url state = _ by
      unfold sendFor; rw [sent]; rfl)]
    refine (and_iff_left ⟨DnsResolver.connectsPublicly_of_unanswered named unanswered, ?_⟩).symm
    intro addresses later response contacts
    exact absurd ⟨addresses, later, contacts⟩ unanswered

/-- A fetch is public exactly when each request on its way is. -/
theorem publicIff_fetchLoop (denied : policy.allowPrivateHosts = false) (remaining : Nat)
    {target : UrlHost} (named : url.host = some target) (literal : url.LiteralPublic)
    (host : String) (redirectCount : Nat) :
    PublicIff (fetchLoop network library resolver policy surfaceName remaining url host
        redirectCount) state
      (∀ last lastTime,
        Visits network library policy resolver remaining url state.time last lastTime ->
        ConnectsPublicly network resolver last lastTime) := by
  induction remaining generalizing url target host redirectCount state with
  | zero =>
    unfold fetchLoop
    refine PublicIff.congr (publicIff_sendFor_bind named literal fun response later hops =>
      (?_ : PublicIff _ _ True)) ?_
    · split_ifs
      · exact publicIff_fail
      · exact publicIff_of_sent rfl
      · exact publicIff_fail
    · constructor
      · rintro ⟨connects, _⟩ last lastTime visits
        cases visits
        exact connects
      · intro all
        exact ⟨all url state.time .here, fun _ _ _ _ _ => trivial⟩
  | succ remaining ih =>
    unfold fetchLoop
    refine PublicIff.congr (publicIff_sendFor_bind named literal fun response later hops =>
      (?_ : PublicIff _ _ (response.isRedirection = true -> ∀ location,
        redirectLocation library surfaceName response = .ok location -> ∀ nextUrl,
        (library.join url location).mapError
          (surfaceName ++ " failed to resolve redirect target: " ++ ·) = .ok nextUrl ->
        ∀ target, AcceptedTarget network library policy nextUrl target (later + 1) ->
        ∀ last lastTime, Visits network library policy resolver remaining nextUrl
          (later + 1 + target.lookups) last lastTime ->
          ConnectsPublicly network resolver last lastTime))) ?_
    · split_ifs with redirected succeeded
      · refine PublicIff.congr (publicIff_lift_bind fun location located =>
          publicIff_lift_bind fun nextUrl joined =>
            publicIff_validate_bind denied fun target accepted =>
              ih accepted.screened.host accepted.literalPublic _ _) ?_
        exact ⟨fun all _ => all, fun all => all redirected⟩
      · exact PublicIff.congr (publicIff_of_sent rfl) (by simp [redirected])
      · exact PublicIff.congr publicIff_fail (by simp [redirected])
    · constructor
      · rintro ⟨connects, rest⟩ last lastTime visits
        cases visits with
        | here => exact connects
        | redirect hosted contacts responds redirected located joined accepted visits =>
          cases named.symm.trans hosted
          exact rest _ _ _ contacts responds redirected _
            (redirectLocation_eq_ok_iff.mpr located) _
              (mapError_eq_ok_iff.mpr joined) _ accepted _ _
            visits
      · intro all
        refine ⟨all url state.time .here, ?_⟩
        intro addresses later response contacts responds redirected location located nextUrl joined
          target accepted last lastTime visits
        exact all last lastTime (.redirect named contacts responds redirected
          (redirectLocation_eq_ok_iff.mp located) (mapError_eq_ok_iff.mp joined) accepted visits)

/-- The URLs that a fetch of the text visits. -/
def FetchVisits (network : Network) (library : WebLibrary) (policy : WebFetchRuntimePolicy)
    (resolver : DnsResolver) (rawUrl : String) (time : Nat) (last : Url) (lastTime : Nat) : Prop :=
  ∃ url target, library.parseUrl rawUrl = .ok url /\
    AcceptedTarget network library policy url target time /\
    Visits network library policy resolver policy.maxRedirects.toNat url (time + target.lookups)
      last lastTime

theorem publicIff_fetchUrl (denied : policy.allowPrivateHosts = false)
    {invalidUrl rawUrl : String} :
    PublicIff (fetchUrl network library resolver policy surfaceName invalidUrl rawUrl) state
      (∀ last lastTime,
        FetchVisits network library policy resolver rawUrl state.time last lastTime ->
        ConnectsPublicly network resolver last lastTime) := by
  refine PublicIff.congr (publicIff_lift_bind fun url parsed =>
    publicIff_validate_bind denied fun target accepted => publicIff_fetchLoop denied _
      accepted.screened.host accepted.literalPublic _ 0) ?_
  constructor
  · rintro all last lastTime ⟨url, target, parsed, accepted, visits⟩
    exact all url (mapError_eq_ok_iff.mpr parsed) target accepted last lastTime visits
  · intro all url parsed target accepted last lastTime visits
    exact all last lastTime ⟨url, target, mapError_eq_ok_iff.mp parsed, accepted, visits⟩

end Requests

end LoongClaw.Tools
