import LoongClaw.Foundation.SignedText
import LoongClaw.Foundation.Attempt
import LoongClaw.Kernel.Policy
import LoongClaw.Tools.Catalog

namespace LoongClaw.Tools

open Foundation Contracts Kernel Fallible

/-!
# Tool leases

`tool.search` hands out a lease with every tool it lists, and `tool.invoke`
runs a tool only with a lease for it.  A lease is signed text: the claims name
the tool, the digest of the catalog, the time at which the lease expires, and
the token, session and turn that the search request was bound to.  The JSON
and base64 encodings and the hash behind the signature are parameters, with
the laws that the argument uses.
-/

def toolLeaseTtlSeconds : UInt64 := 300

structure ToolLeaseClaims where
  (toolId catalogDigest : String)
  expiresAtUnix : UInt64
  (tokenId sessionId turnId : Option String)

structure ToolLeaseBinding where
  (tokenId sessionId turnId : Option String)

def toolLeaseTokenIdField : String := "_lease_token_id"
def toolLeaseSessionIdField : String := "_lease_session_id"
def toolLeaseTurnIdField : String := "_lease_turn_id"

def extractToolLeaseBinding (payload : OrderedMap String Json) : ToolLeaseBinding where
  tokenId := (payload.lookup toolLeaseTokenIdField).bind Json.asStr
  sessionId := (payload.lookup toolLeaseSessionIdField).bind Json.asStr
  turnId := (payload.lookup toolLeaseTurnIdField).bind Json.asStr

/-- The encodings of a lease and the key of the process that signs it. -/
structure LeaseScheme (Bytes : Type) where
  claimsJson : Codec ToolLeaseClaims Bytes String
  urlSafeNoPad : Codec Bytes String String
  dotFree : ∀ bytes, '.' ∉ (urlSafeNoPad.encode bytes).toList
  sha256Hex : String -> String
  toolLeaseSecret : String
  sign_injective :
    Function.Injective (fun encodedClaims => sha256Hex (toolLeaseSecret ++ ":" ++ encodedClaims))

/-- What a lease is issued or checked under: the catalog and the clock. -/
structure LeaseMoment where
  toolCatalogDigest : String
  nowUnixSeconds : UInt64

section Scheme

variable {Bytes : Type} (scheme : LeaseScheme Bytes)

def signToolLease (encodedClaims : String) : String :=
  scheme.sha256Hex (scheme.toolLeaseSecret ++ ":" ++ encodedClaims)

variable (moment : LeaseMoment) (expectedToolId : String)

def leaseClaims (toolId : String) (payload : OrderedMap String Json) : ToolLeaseClaims :=
  let binding := extractToolLeaseBinding payload
  { toolId
    catalogDigest := moment.toolCatalogDigest
    expiresAtUnix := saturatingAdd moment.nowUnixSeconds toolLeaseTtlSeconds
    tokenId := binding.tokenId
    sessionId := binding.sessionId
    turnId := binding.turnId }

def issueToolLease (toolId : String) (payload : OrderedMap String Json) : String :=
  let claimsBytes := scheme.claimsJson.encode (leaseClaims moment toolId payload)
  let encodedClaims := scheme.urlSafeNoPad.encode claimsBytes
  encodedClaims ++ "." ++ signToolLease scheme encodedClaims

/-- A field of the binding counts only if the lease records it. -/
def checkLeaseBinding (field : String) (recorded supplied : Option String) : Except String Unit :=
  if recorded.isSome && recorded != supplied then
    .error ("invalid_tool_lease: " ++ field ++ " mismatch")
  else .ok ()

def checkLeaseClaims (payload : OrderedMap String Json) (claims : ToolLeaseClaims) :
    Except String Unit :=
  if claims.toolId ≠ expectedToolId then .error "invalid_tool_lease: tool mismatch"
  else if claims.catalogDigest ≠ moment.toolCatalogDigest then
    .error "invalid_tool_lease: catalog mismatch"
  else if claims.expiresAtUnix <= moment.nowUnixSeconds then
    .error "invalid_tool_lease: expired lease"
  else do
    let binding := extractToolLeaseBinding payload
    checkLeaseBinding "token" claims.tokenId binding.tokenId
    checkLeaseBinding "session" claims.sessionId binding.sessionId
    checkLeaseBinding "turn" claims.turnId binding.turnId

def readLeaseClaims (encodedClaims : String) : Except String ToolLeaseClaims := do
  let claimsBytes <- (scheme.urlSafeNoPad.decode encodedClaims).mapError
    (fun error => "invalid_tool_lease: claims decode failed: " ++ error)
  (scheme.claimsJson.decode claimsBytes).mapError
    (fun error => "invalid_tool_lease: claims parse failed: " ++ error)

def validateToolLease (lease : String) (payload : OrderedMap String Json) : Except String Unit :=
  match Text.splitOnce '.' lease with
  | none => .error "invalid_tool_lease: malformed lease"
  | some (encodedClaims, signature) =>
    if signToolLease scheme encodedClaims ≠ signature then
      .error "invalid_tool_lease: signature mismatch"
    else do
      let claims <- readLeaseClaims scheme encodedClaims
      checkLeaseClaims moment expectedToolId payload claims

/-- Of the payload, a check reads the binding only. -/
theorem validateToolLease_congr {lease : String} {payload other : OrderedMap String Json}
    (same : extractToolLeaseBinding other = extractToolLeaseBinding payload) :
    validateToolLease scheme moment expectedToolId lease other =
      validateToolLease scheme moment expectedToolId lease payload := by
  unfold validateToolLease checkLeaseClaims
  rw [same]

end Scheme

/-! ## Binding a request -/

def insertBound (field : String) (value : Option String) (payload : OrderedMap String Json) :
    OrderedMap String Json :=
  match value with
  | none => payload
  | some text => payload.insert field (.string text)

def injectToolLeaseBinding (payload : OrderedMap String Json)
    (tokenId sessionId turnId : Option String) : OrderedMap String Json :=
  insertBound toolLeaseTurnIdField turnId (insertBound toolLeaseSessionIdField sessionId
      (insertBound toolLeaseTokenIdField tokenId payload))

/-! ## Which leases are accepted -/

namespace ToolLeaseBinding

/-- Every field that the first binding records, the second one has too. -/
structure RecordedIn (recorded supplied : ToolLeaseBinding) : Prop where
  token : ∀ tokenId, recorded.tokenId = some tokenId -> supplied.tokenId = some tokenId
  session : ∀ sessionId, recorded.sessionId = some sessionId -> supplied.sessionId = some sessionId
  turn : ∀ turnId, recorded.turnId = some turnId -> supplied.turnId = some turnId

end ToolLeaseBinding

theorem checkLeaseBinding_ok_iff {field : String} {recorded supplied : Option String} :
    checkLeaseBinding field recorded supplied = .ok () ↔
      ∀ value, recorded = some value -> supplied = some value := by
  unfold checkLeaseBinding
  cases recorded with
  | none => simp
  | some text =>
    by_cases same : some text = supplied
    · subst same
      simp
    · have differs : (some text != supplied) = true := bne_iff_ne.mpr same
      rw [differs]
      simp only [Option.isSome_some, Bool.and_self, if_true, Option.some.injEq, forall_eq']
      constructor
      · intro impossible
        injection impossible
      · intro supplies
        exact absurd supplies.symm same

/-- The conditions under which a payload may use what the claims allow. -/
structure ClaimsAllow (moment : LeaseMoment) (expectedToolId : String)
    (payload : OrderedMap String Json) (claims : ToolLeaseClaims) : Prop where
  tool : claims.toolId = expectedToolId
  catalog : claims.catalogDigest = moment.toolCatalogDigest
  fresh : moment.nowUnixSeconds < claims.expiresAtUnix
  binding : ToolLeaseBinding.RecordedIn ⟨claims.tokenId, claims.sessionId, claims.turnId⟩
      (extractToolLeaseBinding payload)

theorem checkLeaseClaims_ok_iff {moment : LeaseMoment} {expectedToolId : String}
    {payload : OrderedMap String Json} {claims : ToolLeaseClaims} :
    checkLeaseClaims moment expectedToolId payload claims = .ok () ↔
      ClaimsAllow moment expectedToolId payload claims := by
  unfold checkLeaseClaims
  constructor
  · intro accepted
    split at accepted
    · injection accepted
    · rename_i sameTool
      split at accepted
      · injection accepted
      · rename_i sameCatalog
        split at accepted
        · injection accepted
        · rename_i notExpired
          rcases bind_eq_ok_iff.mp accepted with ⟨⟨⟩, token, later⟩
          rcases bind_eq_ok_iff.mp later with ⟨⟨⟩, session, turn⟩
          exact
            { tool := not_not.mp sameTool
              catalog := not_not.mp sameCatalog
              fresh := UInt64.not_le.mp notExpired
              binding :=
                ⟨checkLeaseBinding_ok_iff.mp token,
                  checkLeaseBinding_ok_iff.mp session,
                  checkLeaseBinding_ok_iff.mp turn⟩ }
  · intro allowed
    rw [if_neg (not_not.mpr allowed.tool), if_neg (not_not.mpr allowed.catalog),
      if_neg (UInt64.not_le.mpr allowed.fresh)]
    refine bind_eq_ok_iff.mpr ⟨(), checkLeaseBinding_ok_iff.mpr ?_, ?_⟩
    · exact allowed.binding.token
    refine bind_eq_ok_iff.mpr ⟨(), checkLeaseBinding_ok_iff.mpr ?_, ?_⟩
    · exact allowed.binding.session
    exact checkLeaseBinding_ok_iff.mpr allowed.binding.turn

/-- One call of the issuer. -/
structure LeaseIssue where
  moment : LeaseMoment
  toolId : String
  payload : OrderedMap String Json

namespace LeaseIssue

def claims (issue : LeaseIssue) : ToolLeaseClaims :=
  leaseClaims issue.moment issue.toolId issue.payload

def binding (issue : LeaseIssue) : ToolLeaseBinding :=
  extractToolLeaseBinding issue.payload

end LeaseIssue

namespace LeaseScheme

variable {Bytes : Type} (scheme : LeaseScheme Bytes)

def signature : KeyedSignature where
  sign := signToolLease scheme
  sign_injective := scheme.sign_injective

def encodeClaims (claims : ToolLeaseClaims) : String :=
  scheme.urlSafeNoPad.encode (scheme.claimsJson.encode claims)

def lease (issue : LeaseIssue) : String :=
  issueToolLease scheme issue.moment issue.toolId issue.payload

/-- The presented text carries no signature but those of issued leases. -/
def Unforgeable (issued : List LeaseIssue) (presented : String) : Prop :=
  scheme.signature.Unforgeable (issued.map (fun issue => scheme.encodeClaims issue.claims))
    presented

variable (issue : LeaseIssue)

theorem lease_eq_sealText :
    scheme.lease issue = scheme.signature.sealText (scheme.encodeClaims issue.claims) := rfl

theorem readLeaseClaims_encodeClaims {claims : ToolLeaseClaims} :
    readLeaseClaims scheme (scheme.encodeClaims claims) = .ok claims := by
  unfold readLeaseClaims encodeClaims
  rw [scheme.urlSafeNoPad.decode_encode]
  change (scheme.claimsJson.decode (scheme.claimsJson.encode claims)).mapError _ = _
  rw [scheme.claimsJson.decode_encode]
  rfl

variable {moment : LeaseMoment} {expectedToolId : String} {issued : List LeaseIssue}
  {payload : OrderedMap String Json}

/-- An accepted lease is one that the issuer produced. -/
theorem issued_of_validateToolLease {lease : String} (unforgeable : scheme.Unforgeable issued lease)
    (accepted : validateToolLease scheme moment expectedToolId lease payload = .ok ()) :
    ∃ issue, issue ∈ issued /\ lease = scheme.lease issue := by
  unfold validateToolLease at accepted
  split at accepted
  · injection accepted
  · rename_i encodedClaims tag split
    split at accepted
    · injection accepted
    · rename_i same
      rw [<- not_not.mp same] at split
      rcases scheme.signature.sealed_of_verified unforgeable split with ⟨signed, sealedText⟩
      rcases List.mem_map.mp signed with ⟨issue, member, rfl⟩
      exact ⟨issue, member, sealedText⟩

/-- Presenting an issued lease is no forgery. -/
theorem unforgeable_lease {issue : LeaseIssue} (member : issue ∈ issued) :
    scheme.Unforgeable issued (scheme.lease issue) := by
  intro body text split
  have dotFree : '.' ∉ (scheme.encodeClaims issue.claims).toList := scheme.dotFree _
  rw [lease_eq_sealText, scheme.signature.splitOnce_sealText dotFree] at split
  have parts := Prod.mk.inj (Option.some.inj split)
  exact ⟨_, List.mem_map.mpr ⟨issue, member, rfl⟩, parts.2⟩

theorem validateToolLease_lease_ok_iff (moment : LeaseMoment)
    (expectedToolId : String) (payload : OrderedMap String Json) :
    validateToolLease scheme moment expectedToolId (scheme.lease issue) payload = .ok () ↔
      ClaimsAllow moment expectedToolId payload issue.claims := by
  have dotFree : '.' ∉ (scheme.encodeClaims issue.claims).toList := scheme.dotFree _
  have split := scheme.signature.splitOnce_sealText dotFree
  have signed : signToolLease scheme (scheme.encodeClaims issue.claims) =
      scheme.signature.sign (scheme.encodeClaims issue.claims) := rfl
  unfold validateToolLease
  rw [lease_eq_sealText, split]
  dsimp only
  rw [if_neg (not_not.mpr signed), readLeaseClaims_encodeClaims]
  exact checkLeaseClaims_ok_iff

/-- The leases that the checker accepts are those that the issuer produced for
the same tool and catalog, that have not expired, and whose recorded binding
the request repeats. -/
theorem validateToolLease_ok_iff {lease : String}
    (unforgeable : scheme.Unforgeable issued lease) (moment : LeaseMoment)
    (expectedToolId : String) (payload : OrderedMap String Json) :
    (validateToolLease scheme moment expectedToolId lease payload = .ok () ↔
      ∃ issue, issue ∈ issued /\ lease = scheme.lease issue /\ issue.toolId = expectedToolId /\
        issue.moment.toolCatalogDigest = moment.toolCatalogDigest /\
        moment.nowUnixSeconds < saturatingAdd issue.moment.nowUnixSeconds toolLeaseTtlSeconds /\
        issue.binding.RecordedIn (extractToolLeaseBinding payload)) /\
    (∀ issue, lease = scheme.lease issue ->
      ((∃ sessionId, issue.binding.sessionId = some sessionId /\
          (extractToolLeaseBinding payload).sessionId ≠ some sessionId) \/
        (∃ turnId, issue.binding.turnId = some turnId /\
          (extractToolLeaseBinding payload).turnId ≠ some turnId)) ->
      validateToolLease scheme moment expectedToolId lease payload ≠ .ok ()) := by
  refine ⟨⟨?sound, ?complete⟩, ?bound⟩
  case sound =>
    intro accepted
    rcases scheme.issued_of_validateToolLease unforgeable accepted with ⟨issue, member, rfl⟩
    have allowed := (scheme.validateToolLease_lease_ok_iff issue _ _ _).mp accepted
    exact ⟨issue, member, rfl, allowed.tool, allowed.catalog, allowed.fresh, allowed.binding⟩
  case complete =>
    rintro ⟨issue, _, rfl, tool, catalog, fresh, binding⟩
    exact (scheme.validateToolLease_lease_ok_iff issue _ _ _).mpr ⟨tool, catalog, fresh, binding⟩
  case bound =>
    rintro issue rfl other accepted
    have recorded := ((scheme.validateToolLease_lease_ok_iff issue _ _ _).mp accepted).binding
    rcases other with ⟨sessionId, bound, differs⟩ | ⟨turnId, bound, differs⟩
    · exact differs (recorded.session sessionId bound)
    · exact differs (recorded.turn turnId bound)

end LeaseScheme

/-! ## A scheme to compute with -/

namespace LeaseSample

/-- A number as a run of one letter, closed by another. -/
def encodeNumbers : List Nat -> List Char
  | [] => []
  | number :: rest => List.replicate number 'a' ++ 'b' :: encodeNumbers rest

def decodeNumbers (count : Nat) : List Char -> List Nat
  | [] => []
  | letter :: rest =>
    if letter = 'a' then decodeNumbers (count + 1) rest else count :: decodeNumbers 0 rest

theorem decodeNumbers_replicate {count number : Nat} {rest : List Char} :
    decodeNumbers count (List.replicate number 'a' ++ 'b' :: rest) =
      (count + number) :: decodeNumbers 0 rest := by
  induction number generalizing count with
  | zero => simp [decodeNumbers]
  | succ number ih =>
    rw [List.replicate_succ, List.cons_append, decodeNumbers, if_pos rfl, ih]
    simp only [List.cons.injEq, and_true]
    omega

theorem decodeNumbers_encodeNumbers (numbers : List Nat) :
    decodeNumbers 0 (encodeNumbers numbers) = numbers := by
  induction numbers with
  | nil => rfl
  | cons number rest ih => rw [encodeNumbers, decodeNumbers_replicate, ih, Nat.zero_add]

/-- A text as the codes of its letters, closed by a zero. -/
def writeText (text : String) (rest : List Nat) : List Nat :=
  text.toList.map (fun letter => letter.toNat + 1) ++ 0 :: rest

def readLetters : List Nat -> List Char × List Nat
  | [] => ([], [])
  | 0 :: rest => ([], rest)
  | (code + 1) :: rest =>
    let later := readLetters rest
    (Char.ofNat code :: later.1, later.2)

theorem readLetters_map (letters : List Char) (rest : List Nat) :
    readLetters (letters.map (fun letter => letter.toNat + 1) ++ 0 :: rest) = (letters, rest) := by
  induction letters with
  | nil => rfl
  | cons letter letters ih =>
    rw [List.map_cons, List.cons_append, readLetters, ih, Char.ofNat_toNat]

def readText (numbers : List Nat) : String × List Nat :=
  let read := readLetters numbers
  (String.ofList read.1, read.2)

theorem readText_writeText (text : String) (rest : List Nat) :
    readText (writeText text rest) = (text, rest) := by
  have letters := readLetters_map text.toList rest
  unfold readText writeText
  simp only [letters, String.ofList_toList]

def writeOptional (text : Option String) (rest : List Nat) : List Nat :=
  match text with
  | none => 0 :: rest
  | some text => 1 :: writeText text rest

def readOptional : List Nat -> Option String × List Nat
  | [] => (none, [])
  | 0 :: rest => (none, rest)
  | (_ + 1) :: rest => ((readText rest).map some id)

theorem readOptional_writeOptional {text : Option String} {rest : List Nat} :
    readOptional (writeOptional text rest) = (text, rest) := by
  cases text with
  | none => rfl
  | some text =>
    have read := readText_writeText text rest
    simp only [writeOptional, readOptional, read, Prod.map, id]

def writeClaims (claims : ToolLeaseClaims) : List Nat :=
  claims.expiresAtUnix.toNat :: writeText claims.toolId (writeText claims.catalogDigest
    (writeOptional claims.tokenId (writeOptional claims.sessionId
      (writeOptional claims.turnId []))))

def readClaims : List Nat -> Except String ToolLeaseClaims
  | [] => .error "no claims"
  | expires :: rest =>
    let tool := readText rest
    let digest := readText tool.2
    let token := readOptional digest.2
    let session := readOptional token.2
    let turn := readOptional session.2
    .ok
      { toolId := tool.1
        catalogDigest := digest.1
        expiresAtUnix := UInt64.ofNat expires
        tokenId := token.1
        sessionId := session.1
        turnId := turn.1 }

/-- Plain encodings, and a hash that keeps its input. -/
def scheme : LeaseScheme (List Nat) where
  claimsJson :=
    { encode := writeClaims
      decode := readClaims
      decode_encode := by
        intro claims
        unfold readClaims writeClaims
        simp only [readText_writeText, readOptional_writeOptional, UInt64.ofNat_toNat] }
  urlSafeNoPad :=
    { encode := fun numbers => String.ofList (encodeNumbers numbers)
      decode := fun text => .ok (decodeNumbers 0 text.toList)
      decode_encode := by
        intro numbers
        rw [String.toList_ofList, decodeNumbers_encodeNumbers] }
  dotFree := by
    intro numbers
    rw [String.toList_ofList]
    induction numbers with
    | nil => exact List.not_mem_nil
    | cons number rest ih =>
      simp only [encodeNumbers, List.mem_append, List.mem_replicate, List.mem_cons, not_or]
      exact ⟨by simp, by decide, ih⟩
  sha256Hex := id
  toolLeaseSecret := "secret"
  sign_injective := by
    intro first second same
    exact (String.append_right_inj _).mp same

def payload (sessionId : String) : OrderedMap String Json :=
  injectToolLeaseBinding [] (some "tok-1") (some sessionId) none

def issue : LeaseIssue where
  moment := ⟨"catalog", 1000⟩
  toolId := "file.read"
  payload := payload "session-a"

end LeaseSample

open LeaseSample

theorem LeaseScheme.validateToolLease_ok_sample : scheme.Unforgeable [issue] (scheme.lease issue) /\
      validateToolLease scheme ⟨"catalog", 1299⟩ "file.read"
        (scheme.lease issue) (payload "session-a") = .ok () /\
      validateToolLease scheme ⟨"catalog", 1299⟩ "file.read"
        (scheme.lease issue) (payload "session-b") ≠ .ok () := by
  have unforgeable :=
    scheme.unforgeable_lease (List.mem_singleton_self issue)
  have same : issue.binding.RecordedIn (extractToolLeaseBinding (payload "session-a")) :=
    ⟨fun _ recorded => recorded, fun _ recorded => recorded, fun _ recorded => recorded⟩
  have other : (extractToolLeaseBinding (payload "session-b")).sessionId ≠
        some "session-a" := by decide
  refine ⟨unforgeable, ?_, ?_⟩
  · exact (scheme.validateToolLease_ok_iff unforgeable _ _ _).1.mpr
      ⟨issue, List.mem_singleton_self _, rfl, rfl, rfl, by decide, same⟩
  · exact (scheme.validateToolLease_ok_iff unforgeable _ _ _).2 issue rfl
      (Or.inl ⟨"session-a", by decide, other⟩)

end LoongClaw.Tools
