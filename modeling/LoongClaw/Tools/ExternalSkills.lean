import LoongClaw.Tools.WebNarrowing

namespace LoongClaw.Tools.ExternalSkills

open Foundation Contracts Fallible Text

/-!
# Downloads of external skills

A download is requested only if the host of its URL passes the domain rules of
the policy.  The rules are matched with the host as the URL has it, in lower
case, so that a dot at its end is part of what they are matched with.
-/

structure ExternalSkillsRuntimePolicy where
  (enabled requireDownloadApproval : Bool)
  (allowedDomains blockedDomains : Finset String)

structure ExternalSkillsPolicyOverride where
  (enabled requireDownloadApproval : Option Bool)
  (allowedDomains blockedDomains : Option (Finset String))

variable (configured : ExternalSkillsRuntimePolicy) (overrideState : ExternalSkillsPolicyOverride)

def buildEffectivePolicy :
    ExternalSkillsRuntimePolicy where
  enabled := overrideState.enabled.getD configured.enabled
  requireDownloadApproval :=
    overrideState.requireDownloadApproval.getD configured.requireDownloadApproval
  allowedDomains := overrideState.allowedDomains.getD configured.allowedDomains
  blockedDomains := overrideState.blockedDomains.getD configured.blockedDomains

def requireEnabledRuntimePolicy :
    Except String ExternalSkillsRuntimePolicy :=
  let policy := buildEffectivePolicy configured overrideState
  if !policy.enabled then
    .error "external skills runtime is disabled; enable `external_skills.enabled = true` first"
  else .ok policy

def parseOptionalString (payload : OrderedMap String Json) (key : String) :
    Except String (Option String) :=
  match payload.lookup key with
  | none => .ok none
  | some value =>
    (okOr (filled value.asStr)
      ("external_skills.fetch payload." ++ key ++ " must be a non-empty string")).map some

def defaultMaxDownloadBytes : Nat := 5 * 1024 * 1024
def hardMaxDownloadBytes : Nat := 20 * 1024 * 1024

def parseMaxDownloadBytes (payload : OrderedMap String Json) : Except String Nat :=
  match payload.lookup "max_bytes" with
  | none => .ok defaultMaxDownloadBytes
  | some value => do
    let parsed <- okOr value.asU64 "external_skills.fetch payload.max_bytes must be an integer"
    if parsed = 0 then .error "external_skills.fetch payload.max_bytes must be >= 1"
    else return min parsed.toNat hardMaxDownloadBytes

/-- What the URL parser finds. -/
structure SkillUrl where
  scheme : String
  hostStr : Option String

/-- The request that is sent for a download. -/
structure SkillDownload where
  url : SkillUrl
  maxBytes : Nat
  saveAs : Option String

section

variable (parseUrl : String -> Except String SkillUrl) (configured : ExternalSkillsRuntimePolicy)
  (overrideState : ExternalSkillsPolicyOverride)

/-- The tool, up to the request that it sends. -/
def executeExternalSkillsFetch (request : ToolCoreRequest) : Except String SkillDownload := do
  let payload <- okOr request.payload.asObject "external_skills.fetch payload must be an object"
  let url <- okOr (filled ((payload.lookup "url").bind Json.asStr))
    "external_skills.fetch requires payload.url"
  let parsedUrl <- (parseUrl url).mapError fun error =>
    "invalid external skills url `" ++ url ++ "`: " ++ error
  let host <- okOr (parsedUrl.hostStr.map toAsciiLowercase)
    ("external skills url `" ++ url ++ "` has no host")
  if parsedUrl.scheme ≠ "https" then
    .error ("external skills download requires https url, got scheme `" ++ parsedUrl.scheme ++ "`")
  else do
    let policy <- requireEnabledRuntimePolicy configured overrideState
    match firstMatchingDomainRule host policy.blockedDomains with
    | some rule =>
      .error ("external skills download blocked: host `" ++ host ++
        "` matches blocked domain rule `" ++ rule ++ "`")
    | none =>
      if policy.allowedDomains ≠ ∅ /\
          (firstMatchingDomainRule host policy.allowedDomains).isNone then
        .error ("external skills download denied: host `" ++ host ++ "` is not in allowed_domains")
      else if policy.requireDownloadApproval /\
          ((payload.lookup "approval_granted").bind Json.asBool).getD false = false then
        .error ("external skills download requires explicit authorization; " ++
          "set payload.approval_granted=true after user approval")
      else do
        let maxBytes <- parseMaxDownloadBytes payload
        let saveAs <- parseOptionalString payload "save_as"
        return ⟨parsedUrl, maxBytes, saveAs⟩

/-- The domain rules have no objection to a host. -/
structure HostPasses (policy : ExternalSkillsRuntimePolicy) (host : String) : Prop where
  unblocked : ∀ rule, rule ∈ policy.blockedDomains -> domainRuleMatches host rule = false
  allowed : policy.allowedDomains ≠ ∅ ->
    ∃ rule, rule ∈ policy.allowedDomains /\ domainRuleMatches host rule = true

/-- The host in lower case, without a dot at its end. -/
def canonicalHost (host : String) : String :=
  let lower := toAsciiLowercase host
  if endsWith lower "." then String.ofList lower.toList.dropLast else lower

/-- The domain rules are consulted for the host of a URL. -/
structure Addresses (policy : ExternalSkillsRuntimePolicy) (raw : String) (parsed : SkillUrl)
    (host : String) : Prop where
  url : ∃ url, filled (some raw) = some url /\ parseUrl url = .ok parsed
  https : parsed.scheme = "https"
  host : parsed.hostStr = some host
  enabled : policy.enabled = true

variable {parseUrl configured overrideState} {policy : ExternalSkillsRuntimePolicy} {raw : String}

section

variable (effective : buildEffectivePolicy configured overrideState = policy)

include effective

theorem hostPasses_of_fetch {toolName : String} {payload : OrderedMap String Json}
    {download : SkillDownload} (isRaw : payload.lookup "url" = some (.string raw))
    (sent : executeExternalSkillsFetch parseUrl configured overrideState
      ⟨toolName, .object payload⟩ = .ok download) :
    ∃ host, Addresses parseUrl policy raw download.url host /\
      HostPasses policy (toAsciiLowercase host) := by
  rcases bind_eq_ok_iff.mp sent with ⟨_, isObject, sent⟩
  cases isObject
  rcases bind_eq_ok_iff.mp sent with ⟨url, isUrl, sent⟩
  rw [isRaw] at isUrl
  rcases bind_eq_ok_iff.mp sent with ⟨parsedUrl, isParsed, sent⟩
  rcases bind_eq_ok_iff.mp sent with ⟨name, isName, sent⟩
  rcases Option.map_eq_some_iff.mp (okOr_eq_ok_iff.mp isName) with ⟨host, isHost, rfl⟩
  split at sent
  · cases sent
  rename_i isHttps
  rcases bind_eq_ok_iff.mp sent with ⟨_, isPolicy, sent⟩
  unfold requireEnabledRuntimePolicy at isPolicy
  rw [effective] at isPolicy
  dsimp only at isPolicy
  split at isPolicy
  · cases isPolicy
  rename_i enabled
  cases isPolicy
  split at sent
  · cases sent
  rename_i unblocked
  split_ifs at sent with denied unapproved
  rcases bind_eq_ok_iff.mp sent with ⟨maxBytes, _, sent⟩
  rcases bind_eq_ok_iff.mp sent with ⟨saveAs, _, sent⟩
  cases sent
  refine ⟨host, ⟨⟨url, okOr_eq_ok_iff.mp isUrl, mapError_eq_ok_iff.mp isParsed⟩,
    not_not.mp isHttps, isHost, by simpa using enabled⟩,
    firstMatchingDomainRule_eq_none_iff.mp unblocked, ?_⟩
  intro nonempty
  by_contra unmatched
  exact denied ⟨nonempty, firstMatchingDomainRule_isNone_iff.mpr unmatched⟩

/-- An approved download is requested from every host that passes. -/
theorem fetch_of_hostPasses {parsed : SkillUrl} {host : String}
    (addresses : Addresses parseUrl policy raw parsed host)
    (passes : HostPasses policy (toAsciiLowercase host)) :
    executeExternalSkillsFetch parseUrl configured overrideState ⟨"external_skills.fetch",
        .object [("url", .string raw), ("approval_granted", .bool true)]⟩ =
      .ok ⟨parsed, defaultMaxDownloadBytes, none⟩ := by
  rcases addresses.url with ⟨url, isUrl, isParsed⟩
  have unblocked := firstMatchingDomainRule_eq_none_iff.mpr passes.unblocked
  refine bind_eq_ok_iff.mpr ⟨_, rfl, ?_⟩
  refine bind_eq_ok_iff.mpr ⟨url, okOr_eq_ok_iff.mpr isUrl, ?_⟩
  refine bind_eq_ok_iff.mpr ⟨parsed, mapError_eq_ok_iff.mpr isParsed, ?_⟩
  refine bind_eq_ok_iff.mpr ⟨_, okOr_eq_ok_iff.mpr (congrArg _ addresses.host), ?_⟩
  rw [if_neg (not_not.mpr addresses.https)]
  refine bind_eq_ok_iff.mpr ⟨policy, ?_, ?_⟩
  · unfold requireEnabledRuntimePolicy
    simp only [effective, addresses.enabled, Bool.not_true, Bool.false_eq_true, if_false]
  · rw [unblocked]
    dsimp only
    rw [if_neg ?_, if_neg fun unapproved => nomatch unapproved.2]
    · rfl
    · rintro ⟨nonempty, unmatched⟩
      exact firstMatchingDomainRule_isNone_iff.mp unmatched (passes.allowed nonempty)

end

/-- Whatever is requested for a URL is as the policy demands exactly if a host
that ends in a dot and passes also passes without the dot. -/
theorem external_skills_fetch_screened_iff (parseUrl : String -> Except String SkillUrl)
    (configured : ExternalSkillsRuntimePolicy) (overrideState : ExternalSkillsPolicyOverride)
    (raw : String) :
    let policy := buildEffectivePolicy configured overrideState
    (∀ toolName payload download, OrderedMap.lookup "url" payload = some (.string raw) ->
      executeExternalSkillsFetch parseUrl configured overrideState
          ⟨toolName, .object payload⟩ = .ok download ->
        download.url.scheme = "https" /\ ∃ host, download.url.hostStr = some host /\
          HostPasses policy (canonicalHost host)) ↔
      ∀ parsed host, Addresses parseUrl policy raw parsed host ->
        endsWith (toAsciiLowercase host) "." = true ->
          HostPasses policy (toAsciiLowercase host) -> HostPasses policy (canonicalHost host) := by
  intro policy
  constructor
  · intro screened parsed host addresses _ passes
    have sent := fetch_of_hostPasses rfl addresses passes
    rcases (screened _ _ _ rfl sent).2 with ⟨other, isOther, canonical⟩
    cases addresses.host.symm.trans isOther
    exact canonical
  · intro dotted toolName payload download isRaw sent
    rcases hostPasses_of_fetch rfl isRaw sent with ⟨host, addresses, passes⟩
    refine ⟨addresses.https, host, addresses.host, ?_⟩
    by_cases dot : endsWith (toAsciiLowercase host) "." = true
    · exact dotted _ host addresses dot passes
    · unfold canonicalHost
      rw [if_neg dot]
      exact passes

/-- A blocked host is requested when its name is written with a dot at its end. -/
theorem dotted_host_evades_block :
    let parseUrl : String -> Except String SkillUrl :=
      fun _ => .ok ⟨"https", some "evil.example."⟩
    let payload : Json := .object [("url", .string "https://evil.example./")]
    (executeExternalSkillsFetch parseUrl ⟨true, false, ∅, {"evil.example"}⟩
        ⟨none, none, none, none⟩ ⟨"external_skills.fetch", payload⟩).isOk = true /\
      domainRuleMatches (canonicalHost "evil.example.") "evil.example" = true := by
  decide +kernel

end

end LoongClaw.Tools.ExternalSkills
