import LoongClaw.Foundation.Machine
import LoongClaw.Tools.WebFetch

namespace LoongClaw.Tools

open Foundation Fallible Attempt Machine ToolRuntimeConfig

/-!
# Narrowing one time after another

Empty allowed domains stand for every domain or for none, depending on whether
they are enforced, so that a narrowing cannot be read off as an intersection.
Narrowings nevertheless commute, and what one of them demands stays demanded
by the result of all.
-/

/-! ## Order -/

theorem narrowedLimit_comm (limit : UInt64) (first second : Option UInt64) :
    narrowedLimit (narrowedLimit limit first) second =
      narrowedLimit (narrowedLimit limit second) first := by
  cases first with
  | none => rfl
  | some first =>
    cases second with
    | none => rfl
    | some second =>
      unfold narrowedLimit
      rw [<- UInt64.toNat_inj]
      simp only [UInt64.toNat_min, UInt64.toNat_max]
      omega

variable (policy : WebFetchRuntimePolicy) (config : ToolRuntimeConfig)
  (first second : WebFetchRuntimeNarrowing)

/-- The allowed domains and whether they are enforced, after two narrowings. -/
theorem narrowedDomains_comm : ((policy.narrowed first).narrowed second).enforceAllowedDomains =
        ((policy.narrowed second).narrowed first).enforceAllowedDomains /\
      ((policy.narrowed first).narrowed second).allowedDomains =
        ((policy.narrowed second).narrowed first).allowedDomains := by
  unfold WebFetchRuntimePolicy.narrowed narrowedAllowedDomains
  generalize policy.allowedDomains = base
  generalize first.allowedDomains = left
  generalize second.allowedDomains = right
  by_cases noLeft : left = ∅
  · simp [noLeft]
  by_cases noRight : right = ∅
  · simp [noRight]
  by_cases noBase : base = ∅
  · cases policy.enforceAllowedDomains <;> simp [noLeft, noRight, noBase, Finset.inter_comm]
  · have swapped : base ∩ left ∩ right = base ∩ right ∩ left := by
      rw [Finset.inter_right_comm]
    by_cases noFirst : base ∩ left = ∅
    · have nothing : base ∩ right ∩ left = ∅ := by rw [<- swapped, noFirst, Finset.empty_inter]
      by_cases noSecond : base ∩ right = ∅
      · simp [noLeft, noRight, noBase, noFirst, noSecond]
      · simp [noLeft, noRight, noBase, noFirst, noSecond, nothing]
    · by_cases noSecond : base ∩ right = ∅
      · have nothing : base ∩ left ∩ right = ∅ := by rw [swapped, noSecond, Finset.empty_inter]
        simp [noLeft, noRight, noBase, noFirst, noSecond, nothing]
      · simp [noLeft, noRight, noBase, noFirst, noSecond, swapped]

theorem WebFetchRuntimePolicy.narrowed_comm :
    (policy.narrowed first).narrowed second = (policy.narrowed second).narrowed first := by
  have domains := narrowedDomains_comm policy first second
  rw [WebFetchRuntimePolicy.mk.injEq]
  refine ⟨rfl, ?privateHosts, domains.1, domains.2, ?blocked, ?timeout, ?bytes, ?redirects⟩
  case privateHosts =>
    unfold WebFetchRuntimePolicy.narrowed
    rcases first.allowPrivateHosts with _ | _ | _ <;>
      rcases second.allowPrivateHosts with _ | _ | _ <;> rfl
  case blocked => exact Finset.union_right_comm _ _ _
  case timeout | bytes => exact narrowedLimit_comm _ _ _
  case redirects =>
    unfold WebFetchRuntimePolicy.narrowed
    cases first.maxRedirects with
    | none => rfl
    | some first =>
      cases second.maxRedirects with
      | none => rfl
      | some second =>
        rw [<- UInt64.toNat_inj]
        simp only [UInt64.toNat_min]
        omega

theorem BrowserRuntimePolicy.narrowed_comm (policy : BrowserRuntimePolicy)
    (first second : BrowserRuntimeNarrowing) :
    (policy.narrowed first).narrowed second = (policy.narrowed second).narrowed first := by
  unfold BrowserRuntimePolicy.narrowed
  rw [narrowedLimit_comm policy.maxSessions, narrowedLimit_comm policy.maxLinks,
    narrowedLimit_comm policy.maxTextChars]

/-- A narrowing that demands nothing is no exception. -/
theorem ToolRuntimeConfig.narrowed_eq {narrowing : ToolRuntimeNarrowing} :
    config.narrowed narrowing =
      { config with
        browser := config.browser.narrowed narrowing.browser
        webFetch := config.webFetch.narrowed narrowing.webFetch } := by
  unfold narrowed
  split
  case isFalse => rfl
  case isTrue empty =>
    unfold ToolRuntimeNarrowing.isEmpty BrowserRuntimeNarrowing.isEmpty
      WebFetchRuntimeNarrowing.isEmpty at empty
    simp only [Bool.and_eq_true, Option.isNone_iff_eq_none, decide_eq_true_eq] at empty
    rcases empty with ⟨⟨⟨sessions, links⟩, chars⟩, ⟨⟨⟨⟨hosts, allowed⟩, blocked⟩, timeout⟩, bytes⟩,
      redirects⟩
    unfold BrowserRuntimePolicy.narrowed WebFetchRuntimePolicy.narrowed narrowedAllowedDomains
    rw [sessions, links, chars, hosts, allowed, blocked, timeout, bytes, redirects]
    simp [narrowedLimit]

theorem ToolRuntimeConfig.narrowed_comm (first second : ToolRuntimeNarrowing) :
    (config.narrowed first).narrowed second = (config.narrowed second).narrowed first := by
  simp only [narrowed_eq]
  rw [BrowserRuntimePolicy.narrowed_comm, WebFetchRuntimePolicy.narrowed_comm]

/-! ## Accepted targets -/

/-- The validation of a target in a state accepts it. -/
def Accepted {σ : Type} (network : Network) (library : WebLibrary)
    (policy : WebFetchRuntimePolicy) (surfaceName : String) (url : Url) (state : WebState σ) :
    Prop :=
  ∃ host, (validateWebTarget network library url policy surfaceName state).1 = .ok host

section Acceptance

variable {σ : Type} {network : Network} {library : WebLibrary} {surfaceName : String} {url : Url}
  {state : WebState σ}

variable {policy : WebFetchRuntimePolicy}

theorem accepted_iff : Accepted network library policy surfaceName url state ↔
      ∃ target, Screened library policy url target /\ ∃ host,
        (validateScreened network library url policy.allowPrivateHosts surfaceName target
          state).1 = .ok host := by
  have split : (validateWebTarget network library url policy surfaceName :
      Attempt (WebState σ) String _) = lift (screenWebHost library url policy surfaceName) >>=
          validateScreened network library url policy.allowPrivateHosts surfaceName := rfl
  unfold Accepted
  rw [split, bind_apply]
  cases screened : screenWebHost library url policy surfaceName with
  | error error =>
    constructor
    · rintro ⟨host, impossible⟩
      cases impossible
    · rintro ⟨target, holds, _⟩
      cases screened.symm.trans (screenWebHost_eq_ok_iff.mpr holds)
  | ok target =>
    constructor
    · rintro ⟨host, accepted⟩
      exact ⟨target, screenWebHost_eq_ok_iff.mp screened, host, accepted⟩
    · rintro ⟨other, holds, host, accepted⟩
      cases screened.symm.trans (screenWebHost_eq_ok_iff.mpr holds)
      exact ⟨host, accepted⟩

/-- A policy that asks for less accepts what another one accepts. -/
theorem Accepted.widen {narrower wider : WebFetchRuntimePolicy}
    (accepted : Accepted network library narrower surfaceName url state)
    (blocked : wider.blockedDomains ⊆ narrower.blockedDomains)
    (enforced : wider.enforceAllowedDomains = true ->
      narrower.enforceAllowedDomains = true /\ narrower.allowedDomains ⊆ wider.allowedDomains)
    (privateHosts : narrower.allowPrivateHosts = true -> wider.allowPrivateHosts = true) :
    Accepted network library wider surfaceName url state := by
  rcases accepted_iff.mp accepted with ⟨target, screened, host, validated⟩
  apply accepted_iff.mpr
  refine ⟨target, ⟨screened.scheme, screened.host, ?_, ?_⟩, ?_⟩
  · intro rule member
    exact screened.unblocked rule (blocked member)
  · intro isEnforced
    rcases enforced isEnforced with ⟨alsoEnforced, subset⟩
    rcases screened.allowed alsoEnforced with ⟨rule, member, matching⟩
    exact ⟨rule, subset member, matching⟩
  · cases opened : wider.allowPrivateHosts with
    | true => exact ⟨_, rfl⟩
    | false =>
      have closed : narrower.allowPrivateHosts = false := by
        apply Bool.eq_false_iff.mpr
        intro isOpen
        cases opened.symm.trans (privateHosts isOpen)
      rw [closed] at validated
      exact ⟨host, validated⟩

/-- The target of a URL satisfies what a narrowing demands of targets. -/
def WebFetchRuntimeNarrowing.Admits (narrowing : WebFetchRuntimeNarrowing) (network : Network)
    (library : WebLibrary) (url : Url) (state : WebState σ) : Prop :=
  ∃ target, url.host = some target /\ (narrowing.allowedDomains ≠ ∅ -> ∃ rule,
      rule ∈ narrowing.allowedDomains /\
        domainRuleMatches (targetName library target) rule = true) /\
    (∀ rule, rule ∈ narrowing.blockedDomains ->
      domainRuleMatches (targetName library target) rule = false) /\
    (narrowing.allowPrivateHosts = some false -> PublicTarget network library target state.time)

/-- The policy demands what the narrowing does. -/
structure WebFetchRuntimePolicy.Imposes (policy : WebFetchRuntimePolicy)
    (narrowing : WebFetchRuntimeNarrowing) : Prop where
  allowed : narrowing.allowedDomains ≠ ∅ ->
    policy.enforceAllowedDomains = true /\ policy.allowedDomains ⊆ narrowing.allowedDomains
  blocked : narrowing.blockedDomains ⊆ policy.blockedDomains
  privateHosts : narrowing.allowPrivateHosts = some false -> policy.allowPrivateHosts = false

theorem Accepted.admits {narrowing : WebFetchRuntimeNarrowing}
    (accepted : Accepted network library policy surfaceName url state)
    (imposes : policy.Imposes narrowing) : narrowing.Admits network library url state := by
  rcases accepted_iff.mp accepted with ⟨target, screened, host, validated⟩
  refine ⟨target, screened.host, ?_, ?_, ?_⟩
  · intro nonempty
    rcases imposes.allowed nonempty with ⟨enforced, subset⟩
    rcases screened.allowed enforced with ⟨rule, member, matching⟩
    exact ⟨rule, subset member, matching⟩
  · intro rule member
    exact screened.unblocked rule (imposes.blocked member)
  · intro closes
    rw [imposes.privateHosts closes] at validated
    rcases validateScreened_cases screened.scheme state with
      ⟨isPublic, _⟩ | ⟨_, error, time, refused⟩
    · exact isPublic
    · rw [refused] at validated
      cases validated

end Acceptance

/-! ## Any number of narrowings -/

theorem ToolRuntimeConfig.AtMost.trans {first second third : ToolRuntimeConfig}
    (lower : first.AtMost second) (upper : second.AtMost third) : first.AtMost third where
  maxSessions := UInt64.le_trans lower.maxSessions upper.maxSessions
  maxLinks := UInt64.le_trans lower.maxLinks upper.maxLinks
  maxTextChars := UInt64.le_trans lower.maxTextChars upper.maxTextChars
  privateHosts := fun opened => upper.privateHosts (lower.privateHosts opened)
  blocked := upper.blocked.trans lower.blocked
  enforced := by
    intro enforced
    rcases upper.enforced enforced with ⟨between, subset⟩
    rcases lower.enforced between with ⟨below, smaller⟩
    exact ⟨below, smaller.trans subset⟩
  timeout := UInt64.le_trans lower.timeout upper.timeout
  maxBytes := UInt64.le_trans lower.maxBytes upper.maxBytes
  maxRedirects := UInt64.le_trans lower.maxRedirects upper.maxRedirects

theorem ToolRuntimeConfig.narrowed_imposes (narrowing : ToolRuntimeNarrowing) :
    (config.narrowed narrowing).webFetch.Imposes narrowing.webFetch := by
  rw [narrowed_eq]
  unfold WebFetchRuntimePolicy.narrowed
  constructor
  case allowed =>
    intro nonempty
    refine ⟨if_neg nonempty, ?_⟩
    show narrowedAllowedDomains _ _ ⊆ _
    unfold narrowedAllowedDomains
    rw [if_neg nonempty]
    split_ifs with denyAll
    · rw [denyAll.2]
      exact Finset.empty_subset _
    · exact Finset.Subset.refl _
    · exact Finset.inter_subset_right
  case blocked => exact Finset.subset_union_right
  case privateHosts =>
    intro closes
    rw [closes]

/-- A demand stays when a configuration is narrowed further. -/
theorem WebFetchRuntimePolicy.Imposes.narrowed {config : ToolRuntimeConfig}
    {narrowing : WebFetchRuntimeNarrowing} (imposes : config.webFetch.Imposes narrowing)
    (other : ToolRuntimeNarrowing) : (config.narrowed other).webFetch.Imposes narrowing := by
  have atMost := config.narrowed_atMost other
  constructor
  case allowed =>
    intro nonempty
    rcases imposes.allowed nonempty with ⟨enforced, subset⟩
    rcases atMost.enforced enforced with ⟨still, smaller⟩
    exact ⟨still, smaller.trans subset⟩
  case blocked => exact imposes.blocked.trans atMost.blocked
  case privateHosts =>
    intro closes
    apply Bool.eq_false_iff.mpr
    intro opened
    cases (imposes.privateHosts closes).symm.trans (atMost.privateHosts opened)

/-- After any narrowings, one after another, every accepted target is accepted
without them and satisfies the demands of each; no limit has grown; and their
order does not matter. -/
theorem narrowings_only_restrict (config : ToolRuntimeConfig)
    (narrowings : List ToolRuntimeNarrowing) :
    let result := run narrowed config narrowings
    (∀ (σ : Type) (network : Network) (library : WebLibrary) (surfaceName : String)
        (url : Url) (state : WebState σ),
      Accepted network library result.webFetch surfaceName url state ->
        Accepted network library config.webFetch surfaceName url state /\
          ∀ narrowing, narrowing ∈ narrowings ->
            narrowing.webFetch.Admits network library url state) /\
    (result.browser.maxSessions <= config.browser.maxSessions /\
      result.browser.maxLinks <= config.browser.maxLinks /\
      result.browser.maxTextChars <= config.browser.maxTextChars /\
      result.webFetch.timeoutSeconds <= config.webFetch.timeoutSeconds /\
      result.webFetch.maxBytes <= config.webFetch.maxBytes /\
      result.webFetch.maxRedirects <= config.webFetch.maxRedirects) /\
    (∀ others, narrowings.Perm others -> run narrowed config others = result) := by
  intro result
  have atMost : result.AtMost config :=
    run_related narrowed (fun wider narrower => narrower.AtMost wider)
      ToolRuntimeConfig.AtMost.refl (fun upper lower => lower.trans upper)
      narrowed_atMost config narrowings
  refine ⟨?_, ?_, ?_⟩
  · intro σ network library surfaceName url state accepted
    refine ⟨accepted.widen atMost.blocked atMost.enforced atMost.privateHosts, ?_⟩
    intro narrowing member
    apply accepted.admits
    exact run_of_mem narrowed (fun reached => reached.webFetch.Imposes narrowing.webFetch)
      (fun reached => reached.narrowed_imposes narrowing)
      (fun _ other imposes => imposes.narrowed other) member
  · exact ⟨atMost.maxSessions, atMost.maxLinks, atMost.maxTextChars, atMost.timeout,
      atMost.maxBytes, atMost.maxRedirects⟩
  · intro others shuffled
    exact (run_perm narrowed narrowed_comm config shuffled).symm

end LoongClaw.Tools
