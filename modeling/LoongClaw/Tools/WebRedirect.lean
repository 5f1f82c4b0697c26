import LoongClaw.Foundation.Loop
import LoongClaw.Tools.WebFetch

namespace LoongClaw.Tools

open Foundation Contracts Attempt

/-!
# The redirect loop of web.fetch

The loop of the source runs until a response is no redirect, or fails.  Each
round begins with a request.  The loop is taken here round by round, for as
many rounds as one likes, to count the requests and to find the validation
before each of them; it agrees with the recursion over the redirects that may
still be followed.
-/

/-- The variables of the loop. -/
structure FetchRound where
  url : Url
  host : String
  redirectCount : Nat

section Rounds

variable {σ : Type} (network : Network) (library : WebLibrary) (resolver : DnsResolver)
  (policy : WebFetchRuntimePolicy) (surfaceName : String)

/-- The body of the loop, up to the response that ends it. -/
def fetchRound (round : FetchRound) : Attempt (WebState σ) String (Control FetchRound Fetched) := do
  let response <- sendFor network library resolver surfaceName round.url
  if response.isRedirection then
    if policy.maxRedirects.toNat <= round.redirectCount then
      fail (surfaceName ++ " exceeded redirect limit (" ++
        toString policy.maxRedirects.toNat ++ ")")
    else do
      let location <- lift (redirectLocation library surfaceName response)
      let nextUrl <- lift ((library.join round.url location).mapError
        (surfaceName ++ " failed to resolve redirect target: " ++ ·))
      let nextHost <- validateWebTarget network library nextUrl policy surfaceName
      return .again ⟨nextUrl, nextHost, round.redirectCount + 1⟩
  else if response.isSuccess then
    return .done
      { response, url := round.url, host := round.host, redirectCount := round.redirectCount }
  else
    fail (surfaceName ++ " returned non-success status " ++
      library.statusText response.status ++ " for `" ++ round.url.text ++ "`")

/-- The requests of a fetch: the rounds of its loop, each with the state in
which it begins. -/
def fetchRequests (rawUrl : String) (fuel : Nat) (state : WebState σ) :
    List (FetchRound × WebState σ) :=
  match library.parseUrl rawUrl with
  | .error _ => []
  | .ok url =>
    match validateWebTarget network library url policy surfaceName state with
    | (.error _, _) => []
    | (.ok host, later) =>
      Loop.rounds (fetchRound network library resolver policy surfaceName) fuel ⟨url, host, 0⟩ later

/-- A fetch whose loop is run for at most the given number of rounds. -/
def fetchUrlFor (invalidUrl rawUrl : String) (fuel : Nat) :
    Attempt (WebState σ) String (Option Fetched) := do
  let url <- lift ((library.parseUrl rawUrl).mapError (invalidUrl ++ " `" ++ rawUrl ++ "`: " ++ ·))
  let host <- validateWebTarget network library url policy surfaceName
  Loop.run (fetchRound network library resolver policy surfaceName) fuel ⟨url, host, 0⟩

variable {network library resolver policy surfaceName}

/-- A further round follows a redirect below the limit, to a URL that was
validated last. -/
theorem fetchRound_again {round next : FetchRound} {state later : WebState σ}
    (ran : fetchRound network library resolver policy surfaceName round state =
      (.ok (.again next), later)) :
    round.redirectCount < policy.maxRedirects.toNat /\
      next.redirectCount = round.redirectCount + 1 /\
      ∃ before, validateWebTarget network library next.url policy surfaceName before =
          (.ok next.host, later) := by
  rcases bind_eq_ok ran with ⟨response, afterSend, _, rest⟩
  split_ifs at rest with redirected exceeded succeeded
  · cases (Prod.mk.inj rest).1
  · rcases bind_eq_ok rest with ⟨location, _, _, rest⟩
    rcases bind_eq_ok rest with ⟨nextUrl, joined, _, rest⟩
    rcases bind_eq_ok rest with ⟨nextHost, validated, accepted, returned⟩
    have control := Except.ok.inj (Prod.mk.inj returned).1
    have state := (Prod.mk.inj returned).2
    cases control
    subst state
    exact ⟨Nat.lt_of_not_le exceeded, rfl, joined, accepted⟩
  · cases Except.ok.inj (Prod.mk.inj rest).1
  · cases (Prod.mk.inj rest).1

variable {fuel : Nat}

/-- The loop is the recursion over the redirects that may still be followed. -/
theorem run_fetchRound (remaining : Nat) (round : FetchRound)
    (counted : round.redirectCount + remaining = policy.maxRedirects.toNat)
    (enough : remaining < fuel) :
    (Loop.run (fetchRound network library resolver policy surfaceName) fuel round :
        Attempt (WebState σ) String (Option Fetched)) =
      some <$> fetchLoop network library resolver policy surfaceName remaining round.url
        round.host round.redirectCount := by
  induction fuel generalizing remaining round with
  | zero => cases enough
  | succ fuel ih =>
    cases remaining with
    | zero =>
      unfold Loop.run fetchLoop fetchRound
      simp only [bind_assoc, map_bind]
      congr 1
      funext response
      split_ifs with redirected exceeded succeeded
      · rfl
      · omega
      · rfl
      · rfl
    | succ remaining =>
      unfold Loop.run fetchLoop fetchRound
      simp only [bind_assoc, map_bind]
      congr 1
      funext response
      split_ifs with redirected exceeded succeeded
      · omega
      · simp only [bind_assoc, map_bind, pure_bind]
        congr 1
        funext location
        congr 1
        funext nextUrl
        congr 1
        funext nextHost
        exact ih _ ⟨nextUrl, nextHost, round.redirectCount + 1⟩ (by dsimp only; omega) (by omega)
      · rfl
      · rfl

/-- However many rounds one allows, every request of web.fetch follows at once on
a validation of its URL under the policy, there is at most one request more than
redirects may be followed, and with as many rounds the loop has ended, with what
the tool then renders. -/
theorem web_fetch_requests_validated (network : Network) (library : WebLibrary)
    (policy : WebFetchRuntimePolicy) (rawUrl : String) (state : WebState σ) :
    let client := DnsResolver.ssrfSafe policy.allowPrivateHosts
    (∀ fuel,
      let requests := fetchRequests network library client policy "web.fetch" rawUrl fuel state
      (∀ request, request ∈ requests -> ∃ before,
        validateWebTarget network library request.1.url policy "web.fetch" before =
          (.ok request.1.host, request.2)) /\
      requests.length <= policy.maxRedirects.toNat + 1) /\
    fetchUrlFor network library client policy "web.fetch" "invalid web.fetch url" rawUrl
        (policy.maxRedirects.toNat + 1) state =
      (some <$> fetchUrl network library client policy "web.fetch" "invalid web.fetch url"
        rawUrl : Attempt (WebState σ) String _) state := by
  intro client
  refine ⟨?_, congrFun ?_ state⟩
  rotate_left
  · unfold fetchUrlFor fetchUrl
    simp only [map_bind]
    congr 1
    funext url
    congr 1
    funext host
    exact run_fetchRound policy.maxRedirects.toNat ⟨url, host, 0⟩ (Nat.zero_add _)
      (Nat.lt_succ_self _)
  intro fuel requests
  subst requests
  unfold fetchRequests
  cases library.parseUrl rawUrl with
  | error error => exact ⟨nofun, Nat.zero_le _⟩
  | ok url =>
    dsimp only
    split
    case h_1 => exact ⟨nofun, Nat.zero_le _⟩
    case h_2 host later validated =>
      constructor
      · have first : ∃ before, validateWebTarget network library url policy "web.fetch" before =
              (.ok host, later) := ⟨state, validated⟩
        exact @Loop.rounds_forall _ _ _ _ _ (fun round began => ∃ before,
            validateWebTarget network library round.url policy "web.fetch" before =
              (.ok round.host, began))
          (fun _ _ _ _ _ ran => (fetchRound_again ran).2.2) fuel ⟨url, host, 0⟩ later first
      · refine @Loop.Decreasing.rounds_length_le _ _ _ _ _ (fun round : FetchRound =>
          policy.maxRedirects.toNat - round.redirectCount) ?_ fuel ⟨url, host, 0⟩ later
        intro round state next later ran
        rcases fetchRound_again ran with ⟨below, counted, _⟩
        dsimp only
        omega

end Rounds

end LoongClaw.Tools
