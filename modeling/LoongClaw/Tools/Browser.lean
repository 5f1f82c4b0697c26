import Mathlib.Data.List.MinMax
import LoongClaw.Tools.WebFetch

namespace LoongClaw.Tools

open Foundation Contracts Fallible Attempt OrderedMap

/-!
# The browser tools

A browser session keeps its client and its last page.  The links of a page are
validated when they are listed and again when one is clicked.  The client is
built without a resolver of its own, so that it asks the system.
-/

structure BrowserLink where
  id : Nat
  (text url : String)

structure BrowserPage where
  (requestedUrl finalUrl host : String)
  (title contentType : Option String)
  (rawHtml pageText : String)
  links : List BrowserLink
  (bytesDownloaded redirectCount : Nat)

structure BrowserSession where
  client : DnsResolver
  page : BrowserPage
  sequence : UInt64

/-- The sessions of every scope, and the next sequence number. -/
structure BrowserStore where
  scopes : OrderedMap String (OrderedMap String BrowserSession)
  nextSequence : UInt64

inductive BrowserExtractMode where
  | pageText
  | title
  | links
  | selectorText

def BrowserExtractMode.asStr : BrowserExtractMode -> String
  | .pageText => "page_text"
  | .title => "title"
  | .links => "links"
  | .selectorText => "selector_text"

/-! ## Payload fields -/

variable (payload : OrderedMap String Json) (key : String)

def parseOptionalString : Option String :=
  Text.filled ((lookup key payload).bind Json.asStr)

def parseRequiredString (toolName : String) : Except String String :=
  okOr (parseOptionalString payload key) (toolName ++ " requires payload." ++ key)

def browserScopeIdFromPayload : String :=
  (parseOptionalString payload "__loongclaw_browser_scope").getD "__global"

def rejectCallerSuppliedSessionId (toolName : String) : Except String Unit :=
  if contains "session_id" payload then
    .error (toolName ++ " does not accept payload.session_id; use the opaque session_id " ++
      "returned by browser.open")
  else .ok ()

def parseRequiredLinkId : Except String Nat := do
  let parsed <- okOr ((lookup "link_id" payload).bind Json.asU64)
    "browser.click requires payload.link_id"
  return parsed.toNat

def parseOptionalLimit (configuredMax : UInt64) (toolName : String) : Except String Nat :=
  match lookup key payload with
  | none => .ok configuredMax.toNat
  | some value => do
    let parsed <- okOr value.asU64 (toolName ++ " payload." ++ key ++ " must be an integer")
    if parsed = 0 then .error (toolName ++ " payload." ++ key ++ " must be >= 1")
    else if configuredMax < parsed then
      .error (toolName ++ " payload." ++ key ++ " exceeds configured limit (" ++
        toString configuredMax.toNat ++ ")")
    else .ok parsed.toNat

def parseExtractMode : Except String BrowserExtractMode :=
  match lookup "mode" payload with
  | none => .ok .pageText
  | some value => do
    let raw <- okOr (Text.filled value.asStr) "browser.extract payload.mode must be a string"
    match raw with
    | "page_text" => .ok .pageText
    | "title" => .ok .title
    | "links" => .ok .links
    | "selector_text" => .ok .selectorText
    | _ =>
      .error ("browser.extract payload.mode must be one of `page_text`, `title`, `links`, " ++
        "or `selector_text`")

def truncateChars (input : String) (maxChars : Nat) : String :=
  String.ofList (input.toList.take maxChars)

def collapseWhitespace (input : String) : String :=
  String.intercalate " " (Text.splitWhitespace input)

/-! ## Pages -/

/-- Read at most one byte more than the limit.  A failure after that many bytes
is not noticed. -/
def readLimited (maxBytes : UInt64) (body : List UInt8) :
    List (Except String (List UInt8)) -> Except String (List UInt8)
  | [] => .ok body
  | .error error :: rest =>
    if min (maxBytes.toNat + 1) (2 ^ 64 - 1) <= body.length then readLimited maxBytes body rest
    else .error ("failed to read browser response body: " ++ error)
  | .ok chunk :: rest =>
    readLimited maxBytes ((body ++ chunk).take (min (maxBytes.toNat + 1) (2 ^ 64 - 1))) rest

/-- A link without a text shows its address. -/
def newLink (url : Url) (anchorText : String) : BrowserLink :=
  let text := collapseWhitespace anchorText
  { id := 0, text := if text = "" then url.text else text, url := url.text }

def numberLinks (links : OrderedMap String BrowserLink) : List BrowserLink :=
  links.values.mapIdx (fun index link => { link with id := index + 1 })

section Tool

variable (network : Network) (library : WebLibrary)

/-- Whether a target passes validation.  The lookup happens either way. -/
def isValidTarget (url : Url) (policy : WebFetchRuntimePolicy) (surfaceName : String) :
    Attempt (WebState BrowserStore) String Bool :=
  fun state =>
    let outcome := validateWebTarget network library url policy surfaceName state
    (.ok outcome.1.toBool, outcome.2)

variable (scopeId : String) (currentUrl : Url) (payload : OrderedMap String Json)
  (sessionId : String)

/-- The address of a link, if it is one that can be clicked. -/
def linkTarget (rawHref : String) : Option Url :=
  let href := Text.trim rawHref
  if href = "" then none
  else (library.join currentUrl href).toOption.filter
    (fun url => decide (url.scheme = "http" \/ url.scheme = "https"))

def collectLinks (currentUrl : Url) (policy : WebFetchRuntimePolicy) (maxLinks : UInt64)
    (seen : OrderedMap String BrowserLink) :
    List (String × String) -> Attempt (WebState BrowserStore) String (List BrowserLink)
  | [] => pure (numberLinks seen)
  | anchor :: rest =>
    match linkTarget library currentUrl anchor.1 with
    | none => collectLinks currentUrl policy maxLinks seen rest
    | some url => do
      let valid <- isValidTarget network library url policy "browser.click"
      if valid = false \/ contains url.text seen = true then
        collectLinks currentUrl policy maxLinks seen rest
      else
        let seen := insert url.text (newLink url anchor.2) seen
        if maxLinks.toNat <= seen.length then pure (numberLinks seen)
        else collectLinks currentUrl policy maxLinks seen rest

def discoverPageLinks (html : String) (policy : WebFetchRuntimePolicy) (maxLinks : UInt64) :
    Attempt (WebState BrowserStore) String (List BrowserLink) :=
  collectLinks network library currentUrl policy maxLinks [] (library.anchors html)

/-- Only HTML has links. -/
def pageLinks (isHtml : Bool) (rawText : String) (config : ToolRuntimeConfig) :
    Attempt (WebState BrowserStore) String (List BrowserLink) :=
  if isHtml then
    discoverPageLinks network library currentUrl rawText config.webFetch config.browser.maxLinks
  else pure []

/-- The bytes of a page, unless they are too many or no text. -/
def readPage (maxBytes : UInt64) (response : HttpResponse) : Except String (List UInt8) := do
  let body <- readLimited maxBytes [] response.chunks
  if maxBytes.toNat < body.length then
    .error ("browser response exceeded max_bytes limit (" ++ toString maxBytes.toNat ++ " bytes)")
  else if library.looksLikeHtml response.contentType (library.lossyText body) = false /\
      library.responseIsProbablyBinary response.contentType body = true then
    .error ("browser tools only support text-like responses; " ++ "binary bodies are not returned")
  else .ok body

def fetchBrowserPage (client : DnsResolver) (rawUrl : String) (maxBytes : UInt64)
    (config : ToolRuntimeConfig) : Attempt (WebState BrowserStore) String BrowserPage := do
  let fetched <- fetchUrl network library client config.webFetch "browser" "invalid browser url"
    rawUrl
  let body <- lift (readPage library maxBytes fetched.response)
  let rawText := library.lossyText body
  let isHtml := library.looksLikeHtml fetched.response.contentType rawText
  let links <- pageLinks network library fetched.url isHtml rawText config
  return {
    requestedUrl := rawUrl
    finalUrl := fetched.url.text
    host := fetched.host
    title := if isHtml then library.extractHtmlTitle rawText else none
    contentType := fetched.response.contentType
    rawHtml := rawText
    pageText := truncateChars
      (if isHtml then library.extractReadableTextFromHtml rawText else Text.trim rawText)
      config.browser.maxTextChars.toNat
    links
    bytesDownloaded := body.length
    redirectCount := fetched.redirectCount }

/-! ## Sessions -/

def findSession (store : BrowserStore) : Option BrowserSession :=
  (lookup scopeId store.scopes).bind (lookup sessionId)

def nextBrowserSequence : Attempt (WebState BrowserStore) String UInt64 :=
  fun state =>
    (.ok state.store.nextSequence,
      { state with
        store := { state.store with nextSequence := state.store.nextSequence + 1 } })

/-- Make room for one more session by dropping the one that was used least recently. -/
def evictOldest (sessions : OrderedMap String BrowserSession) :
    Except String (OrderedMap String BrowserSession) := do
  let oldest <- okOr (List.argmin (fun entry => entry.2.sequence.toNat) sessions)
    "browser session eviction failed"
  return erase oldest.1 sessions

def storeBrowserSession (session : BrowserSession) (maxSessions : UInt64) :
    Attempt (WebState BrowserStore) String Unit := do
  let state <- read
  let sessions := (lookup scopeId state.store.scopes).getD []
  let kept <- lift (if contains sessionId sessions = false /\
    maxSessions.toNat <= sessions.length then
      evictOldest sessions
    else .ok sessions)
  fun state =>
    (.ok (),
      { state with
        store :=
          { state.store with
            scopes := insert scopeId (insert sessionId session kept)
              state.store.scopes } })

/-- Renew the sequence number, unless another call has done so. -/
def touchBrowserSession (sequence : UInt64) : Attempt (WebState BrowserStore) String Unit := do
  let state <- read
  match findSession scopeId sessionId state.store with
  | none => pure ()
  | some session =>
    if session.sequence = sequence then do
      let renewed <- nextBrowserSequence
      let sessions := (lookup scopeId state.store.scopes).getD []
      fun state =>
        (.ok (),
          { state with
            store :=
              { state.store with
                scopes := insert scopeId
                  (insert sessionId { session with sequence := renewed } sessions)
                  state.store.scopes } })
    else pure ()

/-! ## The tools -/

def browserLinkJson (link : BrowserLink) : Json :=
  .object [("id", countJson link.id), ("text", .string link.text), ("url", .string link.url)]

def browserPagePayload (toolName sessionId : String) (page : BrowserPage)
    (clickedLink : Option Json) : Json :=
  .object
    [ ("adapter", .string "core-tools"),
      ("available_links", .array (page.links.map browserLinkJson)),
      ("bytes_downloaded", countJson page.bytesDownloaded),
      ("clicked_link", clickedLink.getD .null),
      ("content_type", optionalText page.contentType),
      ("execution_tier", .string "restricted"),
      ("final_url", .string page.finalUrl),
      ("host", .string page.host),
      ("page_text", .string page.pageText),
      ("redirect_count", countJson page.redirectCount),
      ("requested_url", .string page.requestedUrl),
      ("session_id", .string sessionId),
      ("title", optionalText page.title),
      ("tool_name", .string toolName) ]

/-- No resolver is configured. -/
def buildBrowserClient : DnsResolver :=
  .system

variable (config : ToolRuntimeConfig)

def executeBrowserOpen : Attempt (WebState BrowserStore) String Json := do
  let rawUrl <- lift (parseRequiredString payload "url" "browser.open")
  lift (rejectCallerSuppliedSessionId payload "browser.open")
  let sequence <- nextBrowserSequence
  let sessionId := "browser-" ++ toString sequence.toNat
  let maxBytes <- lift (parseMaxBytes payload config.webFetch.maxBytes "browser.open")
  let page <- fetchBrowserPage network library buildBrowserClient rawUrl maxBytes config
  storeBrowserSession (browserScopeIdFromPayload payload) sessionId
    { client := buildBrowserClient, page, sequence } config.browser.maxSessions
  return browserPagePayload "browser.open" sessionId page none

def executeBrowserClick : Attempt (WebState BrowserStore) String Json := do
  let scopeId := browserScopeIdFromPayload payload
  let sessionId <- lift (parseRequiredString payload "session_id" "browser.click")
  let linkId <- lift (parseRequiredLinkId payload)
  let state <- read
  let session <- lift (okOr (findSession scopeId sessionId state.store)
    ("browser.click unknown session `" ++ sessionId ++ "`"))
  let link <- lift (okOr (session.page.links.find? (fun link => link.id == linkId))
    ("browser.click could not find link_id " ++ toString linkId ++ " in session `" ++
      sessionId ++ "`"))
  let page <- fetchBrowserPage network library session.client link.url config.webFetch.maxBytes
    config
  let sequence <- nextBrowserSequence
  storeBrowserSession scopeId sessionId { client := session.client, page, sequence }
    config.browser.maxSessions
  return browserPagePayload "browser.click" sessionId page (some (browserLinkJson link))

/-- The entries of an extraction that depend on its mode. -/
def extractFields (mode : BrowserExtractMode) (page : BrowserPage) (selector : Option String)
    (limit : Nat) (config : ToolRuntimeConfig) : Except String (OrderedMap String Json) :=
  match mode with
  | .pageText =>
    .ok
      [ ("content", .string (truncateChars page.pageText config.browser.maxTextChars.toNat)),
        ("title", optionalText page.title) ]
  | .title => .ok [("content", .string (page.title.getD ""))]
  | .links => .ok [("links", .array ((page.links.take limit).map browserLinkJson))]
  | .selectorText => do
    let selector <- okOr selector "browser.extract selector_text mode requires payload.selector"
    let texts <- (library.selectTexts selector page.rawHtml).mapError
      ("browser.extract selector_text mode could not parse selector: " ++ ·)
    let items := ((texts.map collapseWhitespace).filter (fun text => decide (text ≠ ""))).take limit
    return [("items", .array (items.map (fun text =>
      .string (truncateChars text config.browser.maxTextChars.toNat))))]

def executeBrowserExtract : Attempt (WebState BrowserStore) String Json := do
  let scopeId := browserScopeIdFromPayload payload
  let sessionId <- lift (parseRequiredString payload "session_id" "browser.extract")
  let mode <- lift (parseExtractMode payload)
  let limit <- lift (parseOptionalLimit payload "limit" config.browser.maxLinks "browser.extract")
  let state <- read
  let session <- lift (okOr (findSession scopeId sessionId state.store)
    ("browser.extract unknown session `" ++ sessionId ++ "`"))
  touchBrowserSession scopeId sessionId session.sequence
  let fields <- lift (extractFields library mode session.page
    (parseOptionalString payload "selector") limit config)
  return .object (extend
    [ ("adapter", .string "core-tools"), ("execution_tier", .string "restricted"),
      ("final_url", .string session.page.finalUrl),
      ("mode", .string mode.asStr),
      ("session_id", .string sessionId),
      ("tool_name", .string "browser.extract") ] fields)

def executeBrowserTool (request : ToolCoreRequest) :
    Attempt (WebState BrowserStore) String Json := do
  if config.browser.enabled = false then
    fail "browser tools are disabled by config.tools.browser.enabled=false"
  else do
    let payload <- lift (okOr request.payload.asObject
      (request.toolName ++ " payload must be an object"))
    match request.toolName with
    | "browser.open" => executeBrowserOpen network library payload config
    | "browser.extract" => executeBrowserExtract library payload config
    | "browser.click" => executeBrowserClick network library payload config
    | _ => fail ("tool_not_found: unknown browser tool `" ++ request.toolName ++ "`")

/-- The web tools of the tool dispatcher. -/
def executeWebTool (request : ToolCoreRequest) : Attempt (WebState BrowserStore) String Json :=
  if request.toolName = "web.fetch" then executeWebFetchTool network library config request
  else executeBrowserTool network library config request

end Tool

/-! ## Requests -/

/-- The URL that a call asks for, and the client that it asks: what the tools
read from the payload, from the configuration and from the stored sessions. -/
inductive Asks (config : ToolRuntimeConfig) (store : BrowserStore) (request : ToolCoreRequest) :
    DnsResolver -> String -> Prop
  | fetch {payload rawUrl mode maxBytes} (named : request.toolName = "web.fetch")
      (enabled : config.webFetch.enabled = true)
      (fields : request.payload.asObject = some payload)
      (url : Text.filled ((lookup "url" payload).bind Json.asStr) = some rawUrl)
      (rendered : parseRenderMode payload = .ok mode)
      (limit : parseMaxBytes payload config.webFetch.maxBytes "web.fetch" = .ok maxBytes) :
      Asks config store request (.ssrfSafe config.webFetch.allowPrivateHosts) rawUrl
  | openPage {payload rawUrl maxBytes} (named : request.toolName = "browser.open")
      (enabled : config.browser.enabled = true)
      (fields : request.payload.asObject = some payload)
      (url : parseOptionalString payload "url" = some rawUrl)
      (fresh : rejectCallerSuppliedSessionId payload "browser.open" = .ok ())
      (limit : parseMaxBytes payload config.webFetch.maxBytes "browser.open" = .ok maxBytes) :
      Asks config store request .system rawUrl
  | click {payload sessionId linkId session link} (named : request.toolName = "browser.click")
      (enabled : config.browser.enabled = true)
      (fields : request.payload.asObject = some payload)
      (known : parseOptionalString payload "session_id" = some sessionId)
      (numbered : parseRequiredLinkId payload = .ok linkId)
      (found : findSession (browserScopeIdFromPayload payload) sessionId store = some session)
      (listed : session.page.links.find? (fun link => link.id == linkId) = some link) :
      Asks config store request session.client link.url

/-- Each request on the way of a call is public: from the URL that it asks for,
through the redirects that the network answers with. -/
def VisitsPublicly (network : Network) (library : WebLibrary) (config : ToolRuntimeConfig)
    (store : BrowserStore) (request : ToolCoreRequest) (time : Nat) : Prop :=
  ∀ client rawUrl, Asks config store request client rawUrl -> ∀ url requested,
    FetchVisits network library config.webFetch client rawUrl time url requested ->
    ConnectsPublicly network client url requested

section Requests

variable {network : Network} {library : WebLibrary} {hops : List Hop}
variable {config : ToolRuntimeConfig} {policy : WebFetchRuntimePolicy}
  {state : WebState BrowserStore} {client : DnsResolver} {payload : OrderedMap String Json}

theorem keeps_isValidTarget (denied : policy.allowPrivateHosts = false) (url : Url)
    (surfaceName : String) :
    Keeps (SentSoFar hops) (fun _ => True)
      (isValidTarget network library url policy surfaceName) := by
  intro state sent
  refine ⟨?_, fun _ _ => trivial⟩
  unfold isValidTarget
  rcases validateWebTarget_cases denied state with ⟨_, _, ran⟩ | ⟨_, _, _, ran⟩
  · rw [ran]
    exact sent
  · rw [ran]
    exact sent

theorem keeps_collectLinks (denied : policy.allowPrivateHosts = false) (currentUrl : Url)
    (maxLinks : UInt64) (seen : OrderedMap String BrowserLink) (anchors : List (String × String)) :
    Keeps (SentSoFar hops) (fun _ => True)
      (collectLinks network library currentUrl policy maxLinks seen anchors) := by
  induction anchors generalizing seen with
  | nil => exact keeps_pure trivial
  | cons anchor rest ih =>
    unfold collectLinks
    cases linkTarget library currentUrl anchor.1 with
    | none => exact ih seen
    | some url =>
      refine keeps_bind _ (keeps_isValidTarget denied url _) fun valid _ => ?_
      dsimp only
      split_ifs
      · exact ih seen
      · exact keeps_pure trivial
      · exact ih _

theorem keeps_storeBrowserSession {scopeId sessionId : String} {session : BrowserSession}
    {maxSessions : UInt64} :
    Keeps (SentSoFar hops) (fun _ => True)
      (storeBrowserSession scopeId sessionId session maxSessions) := by
  refine keeps_read_bind fun _ => keeps_lift_bind fun _ _ => ?_
  intro state sent
  exact ⟨sent, fun _ _ => trivial⟩

theorem keeps_executeBrowserExtract :
    Keeps (SentSoFar hops) (fun _ => True) (executeBrowserExtract library payload config) := by
  refine keeps_lift_bind fun sessionId _ => keeps_lift_bind fun mode _ => ?_
  refine keeps_lift_bind fun limit _ => keeps_read_bind fun _ => ?_
  refine keeps_lift_bind fun session _ => ?_
  refine keeps_bind (fun _ => True) ?_ fun _ _ => keeps_lift_bind fun fields _ => keeps_pure trivial
  refine keeps_read_bind fun before => ?_
  cases findSession (browserScopeIdFromPayload payload) sessionId before.store with
  | none => exact keeps_pure trivial
  | some session =>
    dsimp only
    split_ifs
    · intro state sent
      exact ⟨sent, fun _ _ => trivial⟩
    · exact keeps_pure trivial

variable {request : ToolCoreRequest}

/-- A call that asks for no URL and sends nothing is public. -/
theorem publicIff_of_asks_nothing {computation : Attempt (WebState BrowserStore) String Json}
    (quiet : (computation state).2.hops = state.hops)
    (silent : ∀ client rawUrl, ¬ Asks config state.store request client rawUrl) :
    PublicIff computation state
      (VisitsPublicly network library config state.store request state.time) :=
  (publicIff_of_sent quiet).congr
    (iff_of_true trivial fun client rawUrl asks => absurd asks (silent client rawUrl))

variable (denied : config.webFetch.allowPrivateHosts = false)

include denied

/-- Reading the links of a page sends no request. -/
theorem publicIff_fetchBrowserPage {rawUrl : String} {maxBytes : UInt64} :
    PublicIff (fetchBrowserPage network library client rawUrl maxBytes config) state
      (∀ url requested,
        FetchVisits network library config.webFetch client rawUrl state.time url requested ->
        ConnectsPublicly network client url requested) := by
  refine publicIff_bind_quiet (publicIff_fetchUrl denied) fun fetched hops => ?_
  refine keeps_lift_bind fun body _ => ?_
  refine keeps_bind (fun _ => True) ?_ fun links _ => keeps_pure trivial
  unfold pageLinks
  split_ifs
  · exact keeps_collectLinks denied _ _ _ _
  · exact keeps_pure trivial

theorem publicIff_executeWebFetchTool (named : request.toolName = "web.fetch") :
    PublicIff (executeWebFetchTool network library config request) state
      (VisitsPublicly network library config state.store request state.time) := by
  unfold executeWebFetchTool
  split_ifs with disabled
  · refine publicIff_of_asks_nothing rfl fun client rawUrl asks => ?_
    cases asks <;> simp_all
  refine PublicIff.congr (publicIff_okOr_bind fun payload _ => publicIff_okOr_bind fun rawUrl _ =>
    publicIff_lift_bind fun mode _ => publicIff_lift_bind fun maxBytes _ =>
      publicIff_bind_quiet (publicIff_fetchUrl denied) fun fetched hops =>
        keeps_lift fun _ _ => trivial) ⟨?_, ?_⟩
  · intro all client rawUrl asks
    cases asks with
    | fetch _ _ fields url rendered limit => exact all _ fields _ url _ rendered _ limit
    | openPage other => exact absurd (named.symm.trans other) (by decide)
    | click other => exact absurd (named.symm.trans other) (by decide)
  · intro all payload fields rawUrl url mode rendered maxBytes limit
    exact all _ _ (.fetch named (Bool.eq_true_of_not_eq_false disabled) fields url rendered limit)

variable (enabled : config.browser.enabled = true)
  (fields : request.payload.asObject = some payload)

include enabled fields

theorem publicIff_executeBrowserOpen (named : request.toolName = "browser.open") :
    PublicIff (executeBrowserOpen network library payload config) state
      (VisitsPublicly network library config state.store request state.time) := by
  refine PublicIff.congr (publicIff_okOr_bind fun rawUrl _ => publicIff_lift_bind fun _ _ =>
    -- the sequence number changes the store, not the time or the requests
    (publicIff_lift_bind fun maxBytes _ =>
      publicIff_bind_quiet (publicIff_fetchBrowserPage denied) fun page hops =>
        keeps_bind _ keeps_storeBrowserSession fun _ _ => keeps_pure trivial :
      PublicIff _ { state with store := _ } _)) ⟨?_, ?_⟩
  · intro all client rawUrl asks
    cases asks with
    | fetch other => exact absurd (named.symm.trans other) (by decide)
    | openPage _ _ same url fresh limit =>
      cases fields.symm.trans same
      exact all _ url () fresh _ limit
    | click other => exact absurd (named.symm.trans other) (by decide)
  · intro all rawUrl url _ fresh maxBytes limit
    exact all _ _ (.openPage named enabled fields url fresh limit)

theorem publicIff_executeBrowserClick (named : request.toolName = "browser.click") :
    PublicIff (executeBrowserClick network library payload config) state
      (VisitsPublicly network library config state.store request state.time) := by
  have quiet : ∀ hops, Keeps (SentSoFar hops) (fun _ => True) nextBrowserSequence :=
    fun _ _ sent => ⟨sent, fun _ _ => trivial⟩
  refine PublicIff.congr (publicIff_okOr_bind fun sessionId _ => publicIff_lift_bind fun linkId _ =>
    (publicIff_okOr_bind fun session _ => publicIff_okOr_bind fun link _ =>
      publicIff_bind_quiet (publicIff_fetchBrowserPage denied) fun page hops =>
        keeps_bind _ (quiet hops) fun _ _ =>
          keeps_bind _ keeps_storeBrowserSession fun _ _ => keeps_pure trivial :
      PublicIff _ state _)) ⟨?_, ?_⟩
  · intro all client rawUrl asks
    cases asks with
    | fetch other => exact absurd (named.symm.trans other) (by decide)
    | openPage other => exact absurd (named.symm.trans other) (by decide)
    | click _ _ same known numbered found listed =>
      cases fields.symm.trans same
      exact all _ known _ numbered _ found _ listed
  · intro all sessionId known linkId numbered session found link listed
    exact all _ _ (.click named enabled fields known numbered found listed)

omit enabled fields

/-- A call is public exactly when each request on its way is. -/
theorem publicIff_executeWebTool :
    PublicIff (executeWebTool network library config request) state
      (VisitsPublicly network library config state.store request state.time) := by
  unfold executeWebTool
  split_ifs with isFetch
  · exact publicIff_executeWebFetchTool denied isFetch
  unfold executeBrowserTool
  split_ifs with disabled
  · refine publicIff_of_asks_nothing rfl fun client rawUrl asks => ?_
    cases asks <;> simp_all
  have enabled := Bool.eq_true_of_not_eq_false disabled
  cases fields : request.payload.asObject with
  | none =>
    refine publicIff_of_asks_nothing rfl fun client rawUrl asks => ?_
    cases asks <;> simp_all
  | some payload =>
    refine (?_ : PublicIff _ state _)
    split
    case h_1 named => exact publicIff_executeBrowserOpen denied enabled fields named
    case h_2 named =>
      refine publicIff_of_asks_nothing (keeps_executeBrowserExtract state rfl).1
        fun client rawUrl asks => ?_
      cases asks <;> simp_all
    case h_3 named => exact publicIff_executeBrowserClick denied enabled fields named
    case h_4 =>
      refine publicIff_of_asks_nothing rfl fun client rawUrl asks => ?_
      cases asks <;> simp_all

end Requests

/-! ## Private addresses -/

/-- The requests that a call sends. -/
def callHops (network : Network) (library : WebLibrary) (config : ToolRuntimeConfig)
    (request : ToolCoreRequest) (time : Nat) (store : BrowserStore) : List Hop :=
  (executeWebTool network library config request { time, hops := [], store }).2.hops

/-- No call connects to a private or special address exactly when this holds of
the literal IPv6 addresses that it visits and, unless the tool is web.fetch, of
the answers that the client gets when it looks up the names that it visits. -/
theorem web_calls_stay_public_iff (network : Network) (library : WebLibrary)
    (config : ToolRuntimeConfig) (denied : config.webFetch.allowPrivateHosts = false)
    (request : ToolCoreRequest) (time : Nat) (store : BrowserStore) :
    (∀ hop, hop ∈ callHops network library config request time store -> hop.Public) ↔
      VisitsPublicly network library config store request time := by
  have sends : PublicIff (executeWebTool network library config request)
      { time, hops := [], store } _ := publicIff_executeWebTool denied
  exact Iff.trans sends (and_iff_right nofun)

namespace RebindingSample

def library : WebLibrary where
  ipText := fun _ => ""
  parseUrl := fun raw =>
    .ok
      { scheme := "http"
        host := some (.domain "rebind.example")
        port := none
        text := raw }
  join := fun url _ => .ok url
  statusText := fun _ => ""
  lossyText := fun _ => ""
  looksLikeHtml := fun _ _ => false
  responseIsProbablyBinary := fun _ _ => false
  extractHtmlTitle := fun _ => none
  extractReadableTextFromHtml := id
  anchors := fun _ => []
  selectTexts := fun _ _ => .ok []

/-- Public addresses for the first `honest` questions, the loopback address later. -/
def network (honest : Nat) : Network where
  lookup := fun time _ =>
    .ok [.v4 (if time < honest then ⟨93, 184, 216, 34⟩ else ⟨127, 0, 0, 1⟩)]
  dial := fun _ addresses => addresses
  dial_subset := fun _ _ _ member => member
  respond := fun _ _ => .error "connection closed"

def request (toolName : String) : ToolCoreRequest where
  toolName := toolName
  payload := .object [("url", .string "http://rebind.example/")]

def store : BrowserStore where
  scopes := []
  nextSequence := 1

end RebindingSample

open RebindingSample in
theorem fetch_of_public_name_stays_public :
    ToolRuntimeConfig.default.webFetch.allowPrivateHosts = false /\
      ∀ hop, hop ∈ callHops (network 2) library .default (request "web.fetch") 0 store ->
        hop.Public := by
  refine ⟨rfl, ?_⟩
  apply (web_calls_stay_public_iff (network 2) library .default rfl (request "web.fetch") 0
    store).mpr
  intro client rawUrl asks url requested visits
  cases asks with
  | openPage named => exact absurd named (by decide)
  | click named => exact absurd named (by decide)
  | fetch =>
    rcases visits with ⟨first, target, parsed, accepted, visits⟩
    cases parsed
    cases visits with
    | here => exact fun unscreened => absurd rfl unscreened
    | redirect _ _ responds => cases responds

open RebindingSample in
/-- The name resolves to a public address when it is validated, and to the
loopback address when the browser's client looks it up again. -/
theorem rebound_name_reaches_loopback :
    ToolRuntimeConfig.default.webFetch.allowPrivateHosts = false /\
      ¬ ∀ hop, hop ∈ callHops (network 1) library .default (request "browser.open") 0 store ->
        hop.Public := by
  refine ⟨rfl, ?_⟩
  have sentOne : callHops (network 1) library .default (request "browser.open") 0 store =
      [⟨.system, .domain "rebind.example", [.v4 ⟨127, 0, 0, 1⟩]⟩] := by
    decide +kernel
  intro isPublic
  rw [sentOne] at isPublic
  have loopback := isPublic _ List.mem_cons_self (.v4 ⟨127, 0, 0, 1⟩) List.mem_cons_self
  exact absurd loopback (by decide)

end LoongClaw.Tools
