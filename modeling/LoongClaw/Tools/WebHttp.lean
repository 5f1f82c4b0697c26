import LoongClaw.Foundation.Attempt
import LoongClaw.Foundation.Json
import LoongClaw.Foundation.Text

namespace LoongClaw.Tools

open Foundation Attempt

/-!
# HTTP for the web tools

Addresses that the web tools must not reach, and HTTP clients over a network
whose name server may answer every lookup differently.  A client connects to
the literal address of a URL, or to addresses that its resolver gives for the
name in it.  It uses no proxy and follows no redirect by itself.
-/

/-! ## Addresses -/

structure Ipv4Addr where
  (first second third fourth : UInt8)
  deriving DecidableEq

structure Ipv6Addr where
  segments : Vector UInt16 8
  deriving DecidableEq

inductive IpAddr where
  | v4 (address : Ipv4Addr)
  | v6 (address : Ipv6Addr)
  deriving DecidableEq

namespace Ipv4Addr

variable (address : Ipv4Addr)

def isPrivate : Bool :=
  address.first == 10 ||
    (address.first == 172 && 16 <= address.second && address.second <= 31) ||
    (address.first == 192 && address.second == 168)

def isLoopback : Bool :=
  address.first == 127

def isLinkLocal : Bool :=
  address.first == 169 && address.second == 254

def isBroadcast : Bool :=
  address == ⟨255, 255, 255, 255⟩

def isDocumentation : Bool :=
  (address.first == 192 && address.second == 0 && address.third == 2) ||
    (address.first == 198 && address.second == 51 && address.third == 100) ||
    (address.first == 203 && address.second == 0 && address.third == 113)

def isUnspecified : Bool :=
  address == ⟨0, 0, 0, 0⟩

def isMulticast : Bool :=
  224 <= address.first && address.first <= 239

end Ipv4Addr

def isPrivateOrSpecialIpv4 (address : Ipv4Addr) : Bool :=
  address.isPrivate || address.isLoopback || address.isLinkLocal || address.isBroadcast ||
    address.isDocumentation || address.isUnspecified || address.isMulticast ||
    address.first == 0 ||
    (address.first == 100 && 64 <= address.second && address.second <= 127) ||
    (address.first == 192 && address.second == 0 && address.third == 0) ||
    (address.first == 198 && (address.second == 18 || address.second == 19)) ||
    (address.first == 198 && address.second == 51 && address.third == 100) ||
    (address.first == 203 && address.second == 0 && address.third == 113) ||
    240 <= address.first

namespace Ipv6Addr

variable (address : Ipv6Addr)

def isLoopback : Bool :=
  address == ⟨#v[0, 0, 0, 0, 0, 0, 0, 1]⟩

def isUnspecified : Bool :=
  address == ⟨#v[0, 0, 0, 0, 0, 0, 0, 0]⟩

def isMulticast : Bool :=
  address.segments[0] &&& 0xff00 == 0xff00

/-- The IPv4 address in the last two segments. -/
def lastSegments : Ipv4Addr where
  first := (address.segments[6] >>> 8).toUInt8
  second := address.segments[6].toUInt8
  third := (address.segments[7] >>> 8).toUInt8
  fourth := address.segments[7].toUInt8

def toIpv4Mapped : Option Ipv4Addr :=
  if address.segments.toList.take 6 = [0, 0, 0, 0, 0, 0xffff] then some address.lastSegments
  else none

/-- Compatible addresses too. -/
def toIpv4 : Option Ipv4Addr :=
  if address.segments.toList.take 6 = [0, 0, 0, 0, 0, 0] then some address.lastSegments
  else address.toIpv4Mapped

end Ipv6Addr

def isPrivateOrSpecialIpv6 (address : Ipv6Addr) : Bool :=
  if address.isLoopback || address.isUnspecified || address.isMulticast then true
  else
    match address.toIpv4Mapped.or address.toIpv4 with
    | some embedded => isPrivateOrSpecialIpv4 embedded
    | none =>
      (address.segments[0] &&& 0xfe00 == 0xfc00) ||
        (address.segments[0] &&& 0xffc0 == 0xfe80) ||
        (address.segments[0] &&& 0xffc0 == 0xfec0) ||
        (address.segments[0] == 0x2001 && address.segments[1] == 0x0db8)

def isPrivateOrSpecialIp : IpAddr -> Bool
  | .v4 address => isPrivateOrSpecialIpv4 address
  | .v6 address => isPrivateOrSpecialIpv6 address

/-! ## URLs and responses -/

inductive UrlHost where
  | domain (name : String)
  | ipv4 (address : Ipv4Addr)
  | ipv6 (address : Ipv6Addr)
  deriving DecidableEq

/-- A parsed URL with its text. -/
structure Url where
  scheme : String
  host : Option UrlHost
  port : Option UInt16
  text : String

def Url.portOrKnownDefault (url : Url) : Option UInt16 :=
  url.port.or (match url.scheme with
    | "http" => some 80
    | "https" => some 443
    | _ => none)

/-- The address that the text of a host parses as.  The URL parser makes every
numeric host an address, and the text of an IPv6 host keeps its brackets. -/
def UrlHost.parseIpAddr : UrlHost -> Option IpAddr
  | .domain _ => none
  | .ipv4 address => some (.v4 address)
  | .ipv6 _ => none

structure HttpResponse where
  status : Nat
  location : Option (Except String String)
  contentType : Option String
  contentLength : Option UInt64
  chunks : List (Except String (List UInt8))

def HttpResponse.isRedirection (response : HttpResponse) : Bool :=
  decide (300 <= response.status /\ response.status < 400)

def HttpResponse.isSuccess (response : HttpResponse) : Bool :=
  decide (200 <= response.status /\ response.status < 300)

/-- Third-party text handling. -/
structure WebLibrary where
  ipText : IpAddr -> String
  parseUrl : String -> Except String Url
  join : Url -> String -> Except String Url
  statusText : Nat -> String
  lossyText : List UInt8 -> String
  looksLikeHtml : Option String -> String -> Bool
  responseIsProbablyBinary : Option String -> List UInt8 -> Bool
  extractHtmlTitle : String -> Option String
  extractReadableTextFromHtml : String -> String
  /-- The targets and texts of the links on a page, in document order. -/
  anchors : String -> List (String × String)
  /-- The texts of the nodes that a selector finds in a page. -/
  selectTexts : String -> String -> Except String (List String)

def WebLibrary.hostStr (library : WebLibrary) : UrlHost -> String
  | .domain name => name
  | .ipv4 address => library.ipText (.v4 address)
  | .ipv6 address => "[" ++ library.ipText (.v6 address) ++ "]"

/-! ## Clients -/

/-- What a client asks for the addresses of a name. -/
inductive DnsResolver where
  | system
  | ssrfSafe (allowPrivateHosts : Bool)
  deriving DecidableEq

/-- A request that a client sent, and the addresses that it connected to. -/
structure Hop where
  resolver : DnsResolver
  host : UrlHost
  dialled : List IpAddr
  deriving DecidableEq

/-- The answers of the outside at each point in time. -/
structure Network where
  lookup : Nat -> String -> Except String (List IpAddr)
  dial : Nat -> List IpAddr -> List IpAddr
  dial_subset : ∀ time addresses address, address ∈ dial time addresses -> address ∈ addresses
  respond : Nat -> Url -> Except String HttpResponse

/-- The state of a web tool: how often the outside was asked, and the requests. -/
structure WebState (σ : Type) where
  time : Nat
  hops : List Hop
  store : σ

section Client

variable {σ : Type} (network : Network) (library : WebLibrary)

/-- A lookup by the system resolver. -/
def systemLookup (host : String) : Attempt (WebState σ) String (Except String (List IpAddr)) :=
  fun state => (.ok (network.lookup state.time host), { state with time := state.time + 1 })

namespace DnsResolver

variable (resolver : DnsResolver)

/-- The answer of the resolver, given that of the system. -/
def admitAddresses (host : String) (addresses : List IpAddr) : Except String (List IpAddr) :=
  match resolver with
  | .system => .ok addresses
  | .ssrfSafe allowPrivateHosts =>
    if addresses.isEmpty then
      .error ("web HTTP resolved no addresses for host `" ++ host ++ "`")
    else if allowPrivateHosts then .ok addresses
    else
      match addresses.find? isPrivateOrSpecialIp with
      | none => .ok addresses
      | some address =>
        .error ("web HTTP blocked private or special-use address `" ++
          library.ipText address ++ "` for host `" ++ host ++ "`")

/-- The addresses that a client may connect to. -/
def candidates (host : UrlHost) : Attempt (WebState σ) String (List IpAddr) :=
  match host with
  | .ipv4 address => pure [.v4 address]
  | .ipv6 address => pure [.v6 address]
  | .domain name => do
    let answer <- systemLookup network name
    let addresses <- lift answer
    lift (resolver.admitAddresses library name addresses)

/-- Connect to some of the addresses. -/
def connect (host : UrlHost) (addresses : List IpAddr) : Attempt (WebState σ) String Unit :=
  fun state =>
    (.ok (),
      { state with
        hops := state.hops ++
          [{ resolver, host, dialled := network.dial state.time addresses }] })

def awaitResponse (url : Url) : Attempt (WebState σ) String HttpResponse :=
  fun state => (network.respond state.time url, { state with time := state.time + 1 })

def send (url : Url) : Attempt (WebState σ) String HttpResponse := do
  let host <- lift (Fallible.okOr url.host "builder error: empty host")
  let addresses <- candidates network library resolver host
  connect network resolver host addresses
  awaitResponse network url

end DnsResolver

end Client

/-! ## Public requests -/

/-- None of the addresses is private or special. -/
def AllPublic (addresses : List IpAddr) : Prop :=
  ∀ address, address ∈ addresses -> isPrivateOrSpecialIp address = false

/-- No connection was opened to a private or special address. -/
def Hop.Public (hop : Hop) : Prop :=
  AllPublic hop.dialled

/-- Every request so far was public. -/
def WebState.HopsPublic {σ : Type} (state : WebState σ) : Prop :=
  ∀ hop, hop ∈ state.hops -> hop.Public

/-- A literal IPv4 address of the URL is public. -/
def Url.LiteralPublic (url : Url) : Prop :=
  ∀ address, url.host = some (.ipv4 address) -> isPrivateOrSpecialIp (.v4 address) = false

/-- What the resolver of a client asks of the answer to a lookup. -/
def DnsResolver.Admits (resolver : DnsResolver) (addresses : List IpAddr) : Prop :=
  match resolver with
  | .system => True
  | .ssrfSafe allowPrivateHosts =>
    addresses ≠ [] /\ (allowPrivateHosts = false -> AllPublic addresses)

/-- A client that begins a request for a host at the first time may connect to
these addresses at the second one.  A name is looked up in between. -/
inductive Contacts (network : Network) (resolver : DnsResolver) (time : Nat) :
    UrlHost -> List IpAddr -> Nat -> Prop
  | ipv4 (address) : Contacts network resolver time (.ipv4 address) [.v4 address] time
  | ipv6 (address) : Contacts network resolver time (.ipv6 address) [.v6 address] time
  | domain {name addresses} :
      network.lookup time name = .ok addresses -> resolver.Admits addresses ->
      Contacts network resolver time (.domain name) addresses (time + 1)

/-- What has to hold of the outside for a request at the time to be public: of
the address in the URL if it is an IPv6 one, and of the answer to the lookup of
a name if the resolver of the client does not screen it. -/
def ConnectsPublicly (network : Network) (resolver : DnsResolver) (url : Url) (time : Nat) :
    Prop :=
  match url.host with
  | some (.ipv6 address) => AllPublic (network.dial time [.v6 address])
  | some (.domain name) =>
    resolver ≠ .ssrfSafe false -> ∀ addresses, network.lookup time name = .ok addresses ->
      AllPublic (network.dial (time + 1) addresses)
  | _ => True

/-- The requests that a computation sends from the state are public exactly
under the condition. -/
def PublicIff {σ α : Type} (computation : Attempt (WebState σ) String α) (state : WebState σ)
    (condition : Prop) : Prop :=
  (computation state).2.HopsPublic ↔ state.HopsPublic /\ condition

/-- The requests so far are the given ones. -/
def SentSoFar {σ : Type} (hops : List Hop) (state : WebState σ) : Prop :=
  state.hops = hops

theorem Contacts.unique {network : Network} {resolver : DnsResolver} {time later other : Nat}
    {host : UrlHost} {addresses others : List IpAddr}
    (contacts : Contacts network resolver time host addresses later)
    (also : Contacts network resolver time host others other) :
    addresses = others /\ later = other := by
  cases contacts with
  | ipv4 address =>
    cases also
    exact ⟨rfl, rfl⟩
  | ipv6 address =>
    cases also
    exact ⟨rfl, rfl⟩
  | domain answer _ =>
    cases also with
    | domain answered _ =>
      cases answer.symm.trans answered
      exact ⟨rfl, rfl⟩

section Screening

variable {σ α β : Type} {network : Network} {library : WebLibrary} {state : WebState σ}
  {first : Attempt (WebState σ) String α} {next : α -> Attempt (WebState σ) String β}
  {condition : Prop}

theorem PublicIff.congr {other : Prop} (sends : PublicIff first state condition)
    (same : condition ↔ other) : PublicIff first state other := by
  unfold PublicIff
  rw [<- same]
  exact sends

theorem publicIff_of_sent (quiet : (first state).2.hops = state.hops) :
    PublicIff first state True := by
  unfold PublicIff WebState.HopsPublic
  rw [quiet, and_true]

theorem publicIff_fail {error : String} :
    PublicIff (fail error : Attempt (WebState σ) String α) state True :=
  publicIff_of_sent rfl

theorem publicIff_lift_bind {outcome : Except String α} {after : α -> Prop}
    (rest : ∀ value, outcome = .ok value -> PublicIff (next value) state (after value)) :
    PublicIff (lift outcome >>= next) state (∀ value, outcome = .ok value -> after value) := by
  cases outcome with
  | error error =>
    unfold PublicIff
    rw [eq_true (show ∀ value, Except.error error = .ok value -> after value from nofun), and_true]
    rfl
  | ok value =>
    have sends := rest value rfl
    unfold PublicIff at *
    rw [bind_ok lift_apply, sends]
    constructor
    · rintro ⟨before, holds⟩
      refine ⟨before, fun other same => ?_⟩
      rw [<- Except.ok.inj same]
      exact holds
    · rintro ⟨before, holds⟩
      exact ⟨before, holds value rfl⟩

theorem publicIff_okOr_bind {value : Option α} {error : String} {after : α -> Prop}
    (rest : ∀ found, value = some found -> PublicIff (next found) state (after found)) :
    PublicIff (lift (Fallible.okOr value error) >>= next) state
      (∀ found, value = some found -> after found) := by
  refine PublicIff.congr (publicIff_lift_bind fun found same =>
    rest found (Fallible.okOr_eq_ok_iff.mp same)) (forall_congr' fun found => ?_)
  rw [Fallible.okOr_eq_ok_iff]

/-- What is done after the last request does not matter. -/
theorem publicIff_bind_quiet (sends : PublicIff first state condition)
    (quiet : ∀ value hops, Keeps (SentSoFar hops) (fun _ => True) (next value)) :
    PublicIff (first >>= next) state condition := by
  have sameHops : ((first >>= next) state).2.hops = (first state).2.hops := by
    rw [bind_apply]
    split
    case h_1 value later ran =>
      rw [ran]
      exact (quiet value later.hops later rfl).1
    case h_2 error later failed => rw [failed]
  unfold PublicIff WebState.HopsPublic at *
  rw [sameHops]
  exact sends

namespace DnsResolver

variable {addresses : List IpAddr} {url : Url} {host : UrlHost} {resolver : DnsResolver}

theorem admitAddresses_eq_ok_iff {name : String} {admitted : List IpAddr} :
    resolver.admitAddresses library name addresses = .ok admitted ↔
      resolver.Admits addresses /\ addresses = admitted := by
  cases resolver with
  | system => simp [admitAddresses, Admits]
  | ssrfSafe allowPrivateHosts =>
    cases addresses with
    | nil => simp [admitAddresses, Admits]
    | cons address rest =>
      cases allowPrivateHosts with
      | true => simp [admitAddresses, Admits]
      | false =>
        unfold admitAddresses Admits AllPublic
        dsimp only
        cases found : (address :: rest).find? isPrivateOrSpecialIp with
        | none =>
          rw [List.find?_eq_none] at found
          simp_all
        | some blocked =>
          have isPrivate := List.find?_some found
          have listed := List.mem_of_find?_eq_some found
          constructor
          · intro impossible
            cases impossible
          · rintro ⟨⟨_, isPublic⟩, _⟩
            cases isPrivate.symm.trans (isPublic rfl blocked listed)

/-- Either the client gets addresses, connects to some of them and awaits the
response, or no request is sent. -/
theorem send_cases (named : url.host = some host) (state : WebState σ) :
    (∃ addresses later, Contacts network resolver state.time host addresses later /\
      resolver.send network library url state =
        (network.respond later url,
          { state with
            time := later + 1
            hops := state.hops ++ [⟨resolver, host, network.dial later addresses⟩] })) \/
    ((¬ ∃ addresses later, Contacts network resolver state.time host addresses later) /\
      ∃ error time, resolver.send network library url state =
        (.error error, { state with time })) := by
  unfold send
  rw [named]
  cases host with
  | ipv4 address => exact .inl ⟨_, _, .ipv4 address, rfl⟩
  | ipv6 address => exact .inl ⟨_, _, .ipv6 address, rfl⟩
  | domain name =>
    cases answer : network.lookup state.time name with
    | error error =>
      refine .inr ⟨?_, error, state.time + 1, ?_⟩
      · rintro ⟨addresses, later, contacts⟩
        cases contacts with
        | domain answered _ => cases answer.symm.trans answered
      · simp [Fallible.okOr, candidates, systemLookup, bind_apply, lift_apply, answer]
    | ok addresses =>
      cases admitted : resolver.admitAddresses library name addresses with
      | ok same =>
        rcases admitAddresses_eq_ok_iff.mp admitted with ⟨admits, rfl⟩
        refine .inl ⟨addresses, _, .domain answer admits, ?_⟩
        simp [Fallible.okOr, candidates, systemLookup, bind_apply, lift_apply, answer, admitted,
          connect, awaitResponse]
      | error error =>
        refine .inr ⟨?_, error, state.time + 1, ?_⟩
        · rintro ⟨others, later, contacts⟩
          cases contacts with
          | domain answered admits =>
            cases answer.symm.trans answered
            cases admitted.symm.trans (admitAddresses_eq_ok_iff.mpr ⟨admits, rfl⟩)
        · simp [Fallible.okOr, candidates, systemLookup, bind_apply, lift_apply, answer, admitted]

/-- The addresses of a request are public under the condition, which only asks
about those that nobody has checked. -/
theorem dialled_public_iff (named : url.host = some host) (literal : url.LiteralPublic)
    {time later : Nat} (contacts : Contacts network resolver time host addresses later) :
    AllPublic (network.dial later addresses) ↔ ConnectsPublicly network resolver url time := by
  unfold ConnectsPublicly
  rw [named]
  cases contacts with
  | ipv4 address =>
    refine iff_of_true ?_ trivial
    intro dialled member
    rw [List.mem_singleton.mp (network.dial_subset _ _ _ member)]
    exact literal address named
  | ipv6 address => exact Iff.rfl
  | domain answer admits =>
    constructor
    · intro isPublic _ others other
      cases answer.symm.trans other
      exact isPublic
    · intro condition
      by_cases safe : resolver = .ssrfSafe false
      · rw [safe] at admits
        intro dialled member
        exact admits.2 rfl dialled (network.dial_subset _ _ _ member)
      · exact condition safe _ answer

/-- A client that gets no addresses has nothing to ask for. -/
theorem connectsPublicly_of_unanswered (named : url.host = some host) {time : Nat}
    (none : ¬ ∃ addresses later, Contacts network resolver time host addresses later) :
    ConnectsPublicly network resolver url time := by
  unfold ConnectsPublicly
  rw [named]
  cases host with
  | ipv4 address => trivial
  | ipv6 address => exact absurd ⟨_, _, .ipv6 address⟩ none
  | domain name =>
    intro _ addresses answer dialled member
    have listed := network.dial_subset _ _ _ member
    cases resolver with
    | system => exact absurd ⟨_, _, .domain answer trivial⟩ none
    | ssrfSafe allowPrivateHosts =>
      cases allowPrivateHosts with
      | false => contradiction
      | true =>
        refine absurd ⟨_, _, .domain answer ⟨?_, nofun⟩⟩ none
        exact List.ne_nil_of_mem listed

end DnsResolver

end Screening

end LoongClaw.Tools
