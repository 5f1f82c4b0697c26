import Mathlib.Data.Finset.Basic
import LoongClaw.Foundation.Attempt
import LoongClaw.Foundation.Machine
import LoongClaw.Foundation.OrderedMap
import LoongClaw.Foundation.Text

namespace LoongClaw.Protocol

open Foundation Machine Text

/-!
# The protocol router

A method name is checked, resolved to a route with a policy, and a request is
authorised against the policy.  The one standard method has a policy of its
own; other methods have the policy they were registered with.
-/

inductive ProtocolRoute where
  | toolsCall
  | custom (method : String)

namespace ProtocolRoute

def fromMethod (method : String) : ProtocolRoute :=
  if method = "tools/call" then .toolsCall else .custom method

def method : ProtocolRoute -> String
  | .toolsCall => "tools/call"
  | .custom method => method

def isStandard : ProtocolRoute -> Bool
  | .toolsCall => true
  | .custom _ => false

theorem method_fromMethod {name : String} : (fromMethod name).method = name := by
  unfold fromMethod
  split
  case isTrue standard => exact standard.symm
  case isFalse => rfl

theorem isStandard_fromMethod {name : String} :
    (fromMethod name).isStandard = true ↔ name = "tools/call" := by
  unfold fromMethod
  split
  case isTrue standard => exact iff_of_true rfl standard
  case isFalse custom => exact iff_of_false Bool.false_ne_true custom

end ProtocolRoute

structure RoutePolicy where
  allowAnonymous : Bool
  requiredCapability : Option String

def RoutePolicy.default : RoutePolicy where
  allowAnonymous := true
  requiredCapability := none

structure ResolvedRoute where
  route : ProtocolRoute
  policy : RoutePolicy

def ResolvedRoute.method (resolved : ResolvedRoute) : String :=
  resolved.route.method

inductive RouterError where
  | unknownMethod (method : String)
  | invalidMethod (detail : String)

def RouterError.display : RouterError -> String
  | .unknownMethod method => "unknown protocol method: " ++ method
  | .invalidMethod detail => "invalid protocol method: " ++ detail

/-! ## Method names -/

def isMethodChar (c : Char) : Bool :=
  (97 <= c.toNat && c.toNat <= 122) || (48 <= c.toNat && c.toNat <= 57) ||
    c == '-' || c == '_' || c == '/' || c == '.'

def validateMethodName (method : String) : Except RouterError Unit :=
  if trim method = "" then .error (.invalidMethod "method cannot be empty")
  else if trim method ≠ method then
    .error (.invalidMethod ("method cannot include surrounding whitespace: " ++ debug method))
  else if 128 < method.utf8ByteSize then
    .error (.invalidMethod ("method exceeds max length (128): " ++ toString method.utf8ByteSize))
  else if startsWith method "/" || endsWith method "/" ||
      containsText method "//" then
    .error (.invalidMethod ("method contains invalid slash placement: " ++ method))
  else if !method.toList.all isMethodChar then
    .error (.invalidMethod ("method contains unsupported characters: " ++ method))
  else .ok ()

def normalizeCapability (raw : String) : String :=
  toAsciiLowercase (trim raw)

/-! ## The router -/

structure ProtocolRouter where
  strict : Bool
  customRoutes : OrderedMap String RoutePolicy

structure RouteAuthorizationRequest where
  capabilities : Finset String

inductive RouteAuthorizationDecision where
  | allow

inductive RouteAuthorizationError where
  | missingCapability (method requiredCapability : String)

namespace ProtocolRouter

def new (strict : Bool) : ProtocolRouter where
  strict := strict
  customRoutes := []

variable (router : ProtocolRouter)

def registerCustomRoute (method : String) (policy : RoutePolicy) :
    Except RouterError ProtocolRouter := do
  validateMethodName method
  if (ProtocolRoute.fromMethod method).isStandard then
    .error (.invalidMethod ("standard route cannot be registered as custom: " ++ method))
  else
    .ok { router with customRoutes := router.customRoutes.insert method policy }

/-- The route of a checked method name. -/
def resolveRoute (route : ProtocolRoute) : Except RouterError ResolvedRoute :=
  match route with
  | .toolsCall =>
    .ok { route := .toolsCall
          policy := { allowAnonymous := false, requiredCapability := some "invoke" } }
  | .custom custom =>
    match router.customRoutes.lookup custom with
    | some policy => .ok { route := .custom custom, policy := policy }
    | none =>
      if router.strict then .error (.unknownMethod custom)
      else .ok { route := .custom custom, policy := .default }

def resolve (method : String) : Except RouterError ResolvedRoute := do
  validateMethodName method
  router.resolveRoute (ProtocolRoute.fromMethod method)

def authorize (resolved : ResolvedRoute) (request : RouteAuthorizationRequest) :
    Except RouteAuthorizationError RouteAuthorizationDecision :=
  match resolved.policy.requiredCapability with
  | some required =>
    if ∃ capability, capability ∈ request.capabilities /\
        (normalizeCapability capability = normalizeCapability required \/
          normalizeCapability capability = "*") then .ok .allow
    else .error (.missingCapability resolved.method (normalizeCapability required))
  | none => .ok .allow

/-! ## Any registrations -/

/-- A registration that is refused leaves the router. -/
def register (registration : String × RoutePolicy) : ProtocolRouter :=
  match router.registerCustomRoute registration.1 registration.2 with
  | .ok next => next
  | .error _ => router

variable {router : ProtocolRouter} {resolved : ResolvedRoute} {method : String}

/-- Every route of the router was registered under its name, which is no
standard one. -/
def Registered (strict : Bool) (registrations : List (String × RoutePolicy))
    (router : ProtocolRouter) : Prop :=
  router.strict = strict /\ ∀ method policy, router.customRoutes.lookup method = some policy ->
    (method, policy) ∈ registrations

variable {registrations : List (String × RoutePolicy)}

theorem Registered.register {strict : Bool}
    (registered : Registered strict registrations router) {registration : String × RoutePolicy}
    (member : registration ∈ registrations) :
    Registered strict registrations (router.register registration) := by
  unfold ProtocolRouter.register
  split
  case h_1 next accepted =>
    rcases Fallible.bind_eq_ok_iff.mp accepted with ⟨_, _, rest⟩
    split at rest
    case isTrue => cases rest
    case isFalse =>
      cases rest
      refine ⟨registered.1, ?_⟩
      intro method policy found
      rw [OrderedMap.lookup_insert] at found
      split at found
      case isTrue isMethod =>
        cases found
        rw [isMethod]
        exact member
      case isFalse => exact registered.2 method policy found
  case h_2 => exact registered

theorem registered_run {strict : Bool} :
    Registered strict registrations (run register (new strict) registrations) := by
  have initially : Registered strict registrations (new strict) :=
    ⟨rfl, fun _ _ found => nomatch found⟩
  have listed : Guarded register
      (fun _ registration => registration ∈ registrations) (new strict) registrations :=
    guarded_of_forall register (fun _ _ member => member) (new strict)
  have preserved : ∀ router registration, registration ∈ registrations ->
      Registered strict registrations router ->
        Registered strict registrations (router.register registration) :=
    fun _ _ member registered => registered.register member
  exact guarded_run_invariant register preserved initially listed

/-- A resolved route is the one that was asked for. -/
theorem resolveRoute_route {route : ProtocolRoute}
    (found : router.resolveRoute route = .ok resolved) : resolved.route = route := by
  unfold resolveRoute at found
  split at found
  · cases found
    rfl
  · split at found
    · cases found
      rfl
    · split at found
      · cases found
      · cases found
        rfl

theorem resolveRoute_strict (strict : router.strict = true)
    (found : router.resolveRoute (ProtocolRoute.fromMethod method) = .ok resolved) :
    (ProtocolRoute.fromMethod method).isStandard = true \/
      router.customRoutes.lookup method = some resolved.policy := by
  by_cases standard : method = "tools/call"
  · exact .inl (ProtocolRoute.isStandard_fromMethod.mpr standard)
  · right
    unfold ProtocolRoute.fromMethod at found
    rw [if_neg standard] at found
    unfold resolveRoute at found
    dsimp only at found
    split at found
    case h_1 policy stored =>
      cases found
      exact stored
    case h_2 =>
      rw [if_pos strict] at found
      cases found

/-- After any registrations, a resolved method has the name that was resolved; a
standard method has the route that it has in a new router; and a strict router
resolves only valid names, which are standard or registered.  A route that does
not allow anonymous access refuses every request without capabilities exactly
if its policy requires a capability. -/
theorem routed_requests_authorized_iff (strict : Bool)
    (registrations : List (String × RoutePolicy)) (method : String) :
    let router := run register (new strict) registrations
    ((ProtocolRoute.fromMethod method).isStandard = true ->
      router.resolve method = (new strict).resolve method) /\
    ∀ resolved, router.resolve method = .ok resolved -> resolved.method = method /\
      (strict = true -> validateMethodName method = .ok () /\
        ((ProtocolRoute.fromMethod method).isStandard = true \/
          ∃ policy, (method, policy) ∈ registrations)) /\
      ((resolved.policy.allowAnonymous = false -> authorize resolved ⟨∅⟩ ≠ .ok .allow) ↔
        (resolved.policy.allowAnonymous = false -> resolved.policy.requiredCapability ≠ none)) := by
  intro router
  constructor
  · intro standard
    rw [ProtocolRoute.isStandard_fromMethod.mp standard]
    rfl
  intro resolved accepted
  rcases Fallible.bind_eq_ok_iff.mp accepted with ⟨_, valid, found⟩
  have registered : Registered strict registrations router := registered_run
  refine ⟨?_, ?_, ?_⟩
  · unfold ResolvedRoute.method
    rw [resolveRoute_route found, ProtocolRoute.method_fromMethod]
  · intro isStrict
    refine ⟨valid, ?_⟩
    rcases resolveRoute_strict (registered.1.trans isStrict) found with standard | stored
    · exact .inl standard
    · exact .inr ⟨resolved.policy, registered.2 method resolved.policy stored⟩
  · refine forall_congr' fun _ => not_congr ?_
    unfold authorize
    cases resolved.policy.requiredCapability with
    | none => exact iff_of_true rfl rfl
    | some required =>
      refine iff_of_false ?_ nofun
      nofun

/-- A registered route that is closed to anonymous requests, without a
capability of its own, lets a request without capabilities pass. -/
theorem closed_route_authorizes_anonymous :
    let policy : RoutePolicy := { allowAnonymous := false, requiredCapability := none }
    let router := run register (new true) [("admin/reset", policy)]
    router.resolve "admin/reset" = .ok { route := .custom "admin/reset", policy := policy } /\
      authorize { route := .custom "admin/reset", policy := policy } ⟨∅⟩ = .ok .allow := by
  refine ⟨?_, ?_⟩
  · rfl
  · rfl

end ProtocolRouter

end LoongClaw.Protocol
