import Mathlib.Data.Finset.Sort
import Mathlib.Data.String.Basic
import LoongClaw.Foundation.Path

namespace LoongClaw.Tools

open Foundation

/-!
# The runtime configuration of tools

The settings that the modelled executors read, and the narrowing that a child
session imposes on them.  Settings of executors that are not modelled are left
out.
-/

/-- A set of texts in ascending order. -/
def ascending (texts : Finset String) : List String :=
  texts.sort (· <= ·)

inductive ShellPolicyDefault where
  | deny
  | allow
  deriving DecidableEq

structure BrowserRuntimeNarrowing where
  (maxSessions maxLinks maxTextChars : Option UInt64)

structure WebFetchRuntimeNarrowing where
  allowPrivateHosts : Option Bool
  (allowedDomains blockedDomains : Finset String)
  (timeoutSeconds maxBytes maxRedirects : Option UInt64)

structure ToolRuntimeNarrowing where
  browser : BrowserRuntimeNarrowing
  webFetch : WebFetchRuntimeNarrowing

def BrowserRuntimeNarrowing.isEmpty (narrowing : BrowserRuntimeNarrowing) : Bool :=
  narrowing.maxSessions.isNone && narrowing.maxLinks.isNone && narrowing.maxTextChars.isNone

def WebFetchRuntimeNarrowing.isEmpty (narrowing : WebFetchRuntimeNarrowing) : Bool :=
  narrowing.allowPrivateHosts.isNone && decide (narrowing.allowedDomains = ∅) &&
    decide (narrowing.blockedDomains = ∅) && narrowing.timeoutSeconds.isNone &&
    narrowing.maxBytes.isNone && narrowing.maxRedirects.isNone

def ToolRuntimeNarrowing.isEmpty (narrowing : ToolRuntimeNarrowing) : Bool :=
  narrowing.browser.isEmpty && narrowing.webFetch.isEmpty

structure BrowserRuntimePolicy where
  enabled : Bool
  (maxSessions maxLinks maxTextChars : UInt64)

structure WebFetchRuntimePolicy where
  (enabled allowPrivateHosts enforceAllowedDomains : Bool)
  (allowedDomains blockedDomains : Finset String)
  (timeoutSeconds maxBytes maxRedirects : UInt64)

structure ToolRuntimeConfig where
  fileRoot : Option Path
  (shellAllow shellDeny : Finset String)
  shellDefaultMode : ShellPolicyDefault
  browser : BrowserRuntimePolicy
  webFetch : WebFetchRuntimePolicy

namespace ToolRuntimeConfig

def default : ToolRuntimeConfig where
  fileRoot := none
  shellAllow := ∅
  shellDeny := ∅
  shellDefaultMode := .deny
  browser :=
    { enabled := true
      maxSessions := 8
      maxLinks := 40
      maxTextChars := 6000 }
  webFetch :=
    { enabled := true
      allowPrivateHosts := false
      enforceAllowedDomains := false
      allowedDomains := ∅
      blockedDomains := ∅
      timeoutSeconds := 15
      maxBytes := 1024 * 1024
      maxRedirects := 3 }

end ToolRuntimeConfig

/-! ## Narrowing -/

/-- A limit that a narrowing may lower, to one at least. -/
def narrowedLimit (limit : UInt64) : Option UInt64 -> UInt64
  | some bound => min limit (max bound 1)
  | none => limit

def BrowserRuntimePolicy.narrowed (policy : BrowserRuntimePolicy)
    (narrowing : BrowserRuntimeNarrowing) : BrowserRuntimePolicy :=
  { policy with
    maxSessions := narrowedLimit policy.maxSessions narrowing.maxSessions
    maxLinks := narrowedLimit policy.maxLinks narrowing.maxLinks
    maxTextChars := narrowedLimit policy.maxTextChars narrowing.maxTextChars }

/-- Empty allowed domains stand for every domain unless they are enforced, and
enforced empty domains stay empty. -/
def narrowedAllowedDomains (policy : WebFetchRuntimePolicy) (allowed : Finset String) :
    Finset String :=
  if allowed = ∅ then policy.allowedDomains
  else if policy.enforceAllowedDomains = true /\ policy.allowedDomains = ∅ then
    policy.allowedDomains
  else if policy.allowedDomains = ∅ then allowed
  else policy.allowedDomains ∩ allowed

def WebFetchRuntimePolicy.narrowed (policy : WebFetchRuntimePolicy)
    (narrowing : WebFetchRuntimeNarrowing) : WebFetchRuntimePolicy :=
  { policy with
    allowPrivateHosts :=
      match narrowing.allowPrivateHosts with
      | some false => false
      | some true => policy.allowPrivateHosts
      | none => policy.allowPrivateHosts
    enforceAllowedDomains :=
      if narrowing.allowedDomains = ∅ then policy.enforceAllowedDomains else true
    allowedDomains := narrowedAllowedDomains policy narrowing.allowedDomains
    blockedDomains := policy.blockedDomains ∪ narrowing.blockedDomains
    timeoutSeconds := narrowedLimit policy.timeoutSeconds narrowing.timeoutSeconds
    maxBytes := narrowedLimit policy.maxBytes narrowing.maxBytes
    maxRedirects :=
      match narrowing.maxRedirects with
      | some maxRedirects => min policy.maxRedirects maxRedirects
      | none => policy.maxRedirects }

variable (config : ToolRuntimeConfig)

def ToolRuntimeConfig.narrowed (narrowing : ToolRuntimeNarrowing) : ToolRuntimeConfig :=
  if narrowing.isEmpty then config
  else
    { config with
      browser := config.browser.narrowed narrowing.browser
      webFetch := config.webFetch.narrowed narrowing.webFetch }

/-- Narrowing never widens: limits do not grow, private hosts are not opened,
blocked domains stay blocked, and an enforced set of allowed domains stays
enforced and gains no domain. -/
structure ToolRuntimeConfig.AtMost (narrower wider : ToolRuntimeConfig) : Prop where
  maxSessions : narrower.browser.maxSessions <= wider.browser.maxSessions
  maxLinks : narrower.browser.maxLinks <= wider.browser.maxLinks
  maxTextChars : narrower.browser.maxTextChars <= wider.browser.maxTextChars
  privateHosts : narrower.webFetch.allowPrivateHosts = true ->
    wider.webFetch.allowPrivateHosts = true
  blocked : wider.webFetch.blockedDomains ⊆ narrower.webFetch.blockedDomains
  enforced : wider.webFetch.enforceAllowedDomains = true ->
    narrower.webFetch.enforceAllowedDomains = true /\
      narrower.webFetch.allowedDomains ⊆ wider.webFetch.allowedDomains
  timeout : narrower.webFetch.timeoutSeconds <= wider.webFetch.timeoutSeconds
  maxBytes : narrower.webFetch.maxBytes <= wider.webFetch.maxBytes
  maxRedirects : narrower.webFetch.maxRedirects <= wider.webFetch.maxRedirects

theorem ToolRuntimeConfig.AtMost.refl : config.AtMost config where
  maxSessions := UInt64.le_refl _
  maxLinks := UInt64.le_refl _
  maxTextChars := UInt64.le_refl _
  privateHosts := id
  blocked := Finset.Subset.refl _
  enforced := fun enforced => ⟨enforced, Finset.Subset.refl _⟩
  timeout := UInt64.le_refl _
  maxBytes := UInt64.le_refl _
  maxRedirects := UInt64.le_refl _

theorem narrowedLimit_le {limit : UInt64} {bound : Option UInt64} :
    narrowedLimit limit bound <= limit := by
  cases bound with
  | none => exact UInt64.le_refl limit
  | some bound => exact Std.min_le_left

theorem ToolRuntimeConfig.narrowed_atMost (narrowing : ToolRuntimeNarrowing) :
    (config.narrowed narrowing).AtMost config := by
  unfold ToolRuntimeConfig.narrowed
  split
  · exact AtMost.refl config
  · constructor
    case privateHosts =>
      unfold WebFetchRuntimePolicy.narrowed
      split
      · intro impossible
        cases impossible
      · exact id
      · exact id
    case enforced =>
      intro enforced
      constructor
      · unfold WebFetchRuntimePolicy.narrowed
        dsimp only
        split
        · exact enforced
        · rfl
      · show narrowedAllowedDomains _ _ ⊆ _
        unfold narrowedAllowedDomains
        split
        · exact Finset.Subset.refl _
        · split
          · exact Finset.Subset.refl _
          · case isFalse kept =>
              split
              · case isTrue empty => exact absurd ⟨enforced, empty⟩ kept
              · exact Finset.inter_subset_left
    case maxRedirects =>
      unfold WebFetchRuntimePolicy.narrowed
      dsimp only
      split
      · exact Std.min_le_left
      · exact UInt64.le_refl _
    case blocked => exact Finset.subset_union_left
    all_goals exact narrowedLimit_le

end LoongClaw.Tools
