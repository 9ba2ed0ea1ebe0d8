import SolidOidcVerifier.AccessToken
import SolidOidcVerifier.CompactJws
import SolidOidcVerifier.Freshness

/-! The proof of possession behind an accepted access token: the DPoP proof and the client
certificate that its `cnf` claim binds it to. -/
namespace SolidOidcVerifier
open Foundation

theorem asBytes_injective (left right : String) (same : Text.asBytes left = Text.asBytes right) :
    left = right := by
  apply String.toByteArray_inj.mp
  apply ByteArray.ext
  exact Array.toList_inj.mp same

private theorem differences_zero (differences : List UInt8) :
    ∀ found : UInt8, differences.foldl (· ||| ·) found = 0 ↔ found = 0 ∧ ∀ d ∈ differences, d = 0 := by
  induction differences with
  | nil => intro found; simp
  | cons d rest ih =>
    intro found
    rw [List.foldl_cons,ih,UInt8.or_eq_zero_iff]
    simp only [List.mem_cons,forall_eq_or_imp]
    exact and_assoc

theorem constantTimeEq_iff (left : List UInt8) :
    ∀ right : List UInt8, constantTimeEq left right = true ↔ left = right := by
  intro right
  unfold constantTimeEq
  by_cases width : left.length = right.length
  · rw [if_neg (not_not.mpr width),beq_iff_eq,differences_zero]
    simp only [true_and]
    constructor
    · intro zeros
      apply List.ext_getElem width
      intro i inLeft inRight
      apply UInt8.xor_eq_zero_iff.mp
      apply zeros
      apply List.mem_iff_getElem.mpr
      exact ⟨i,by simp [inLeft,inRight],List.getElem_zipWith⟩
    · intro same d member
      obtain ⟨i,bound,equal⟩ := List.mem_iff_getElem.mp member
      rw [List.getElem_zipWith] at equal
      rw [← equal]
      subst same
      exact UInt8.xor_self
  · rw [if_pos width]
    constructor
    · intro equal
      cases equal
    · intro same
      exact absurd (congrArg List.length same) width

def SignedProof (build : Build) (crates : Crates) (proof : String) (claims : Claims) (jwk : Jwk) : Prop :=
  (∃ header, peekHeader crates proof = .ok header ∧ header.jwk = some jwk) ∧
    VerifiedJws build crates proof [jwk] "dpop+jwt" claims

theorem verifiedProof_ok (build : Build) (crates : Crates) (law : PayloadLaw crates) (proof : String)
    (claims : Claims) (jwk : Jwk) :
    verifiedProof build crates proof = .ok (claims,jwk) ↔ SignedProof build crates proof claims jwk := by
  unfold verifiedProof verifyProofWithEmbeddedJwk SignedProof
  simp only [Except.mapError_ok,Except.bind_ok,Except.orError_ok,Except.ensure_ok,exists_const,
    verifySignature_ok build crates law]
  constructor
  · intro run
    obtain ⟨header,peeked,key,embedded,isPublic,asymmetric,signed,verified,same⟩ := run
    cases Except.ok.inj same
    exact ⟨⟨header,peeked,embedded⟩,verified⟩
  · intro accepted
    obtain ⟨⟨header,peeked,embedded⟩,verified⟩ := accepted
    obtain ⟨_,_,_,_,_,key,member,isPublic,_⟩ := id verified
    have same : key = jwk := List.mem_singleton.mp member
    subst same
    exact ⟨header,peeked,key,embedded,isPublic.2,isPublic.1,claims,verified,rfl⟩

def AthRule (crates : Crates) (claims : Claims) (accessToken : String) (absentAllowed : Prop) : Prop :=
  claims.str "ath" = some (ath crates accessToken) ∨ (absentAllowed ∧ claims.str "ath" = none)

theorem checkAth_ok (crates : Crates) (claims : Claims) (accessToken : String) (requireAth : Bool)
    (value : Unit) :
    checkAth crates claims accessToken requireAth = .ok value ↔
      AthRule crates claims accessToken (requireAth = false) := by
  unfold checkAth AthRule
  cases claims.str "ath" with
  | none => simp [Except.ensure_ok]
  | some a => simp [Except.ensure_ok]

/-- A proof for the request, the access token and the key with thumbprint `jkt`. -/
structure ValidProof (build : Build) (crates : Crates) (config : VerifierConfig) (now : Int)
    (req : AuthRequest) (proof accessToken jkt : String) (absentAth : Prop) (claims : Claims) (jwk : Jwk)
    (iat : Int) : Prop where
  signed : SignedProof build crates proof claims jwk
  htm : Text.eqIgnoreAsciiCase ((claims.str "htm").getD "").toList req.method.toList
  htu : ∃ htu, claims.str "htu" = some htu ∧ normalizeHtu crates.url htu = normalizeHtu crates.url req.url
  jti : ∃ jti, claims.str "jti" = some jti ∧ jti ≠ ""
  issued : claims.i64 "iat" = some iat
  fresh : Fresh build config now iat
  ath : AthRule crates claims accessToken absentAth
  bound : jwk.thumbprintSha256 crates = .ok jkt

theorem validateDpopProof_ok (build : Build) (crates : Crates) (law : PayloadLaw crates)
    (config : VerifierConfig) (now : Int) (req : AuthRequest) (proof accessToken jkt : String)
    (requireAth : Bool) (value : Unit) :
    validateDpopProof build crates config now req proof accessToken jkt requireAth = .ok value ↔
      ∃ claims jwk iat,
        ValidProof build crates config now req proof accessToken jkt (requireAth = false) claims jwk iat := by
  unfold validateDpopProof
  simp only [Except.bind_ok,liftStop_ok,rejectUnless_ok,exists_const,Except.orError_ok,checkFreshness_ok,
    checkAth_ok,Except.mapError_ok,Option.map_eq_some_iff,presentStr_ne_none,Prod.exists,
    verifiedProof_ok build crates law]
  constructor
  · intro run
    obtain ⟨claims,jwk,signed,htm,htu,jti,iat,issued,fresh,hash,found,bound,same⟩ := run
    exact ⟨claims,jwk,iat,signed,htm,htu,jti,issued,fresh,hash,by rw [bound,same]⟩
  · intro valid
    obtain ⟨claims,jwk,iat,valid⟩ := valid
    exact ⟨claims,jwk,valid.signed,valid.htm,valid.htu,valid.jti,iat,valid.issued,valid.fresh,valid.ath,
      jkt,valid.bound,rfl⟩

theorem validateCertBinding_ok (req : AuthRequest) (expected : String) (value : Unit) :
    validateCertBinding req expected = .ok value ↔ req.clientCertX5tS256 = some expected := by
  unfold validateCertBinding
  simp only [Except.bind_ok,Except.orError_ok,Except.ensure_ok,constantTimeEq_iff]
  constructor
  · intro run
    obtain ⟨presented,given,same⟩ := run
    rw [given,asBytes_injective presented expected same]
  · intro given
    exact ⟨expected,given,rfl⟩

/-- The request proves possession of whatever the signed claims bind the access token to. -/
structure Possession (build : Build) (crates : Crates) (config : VerifierConfig) (now : Int)
    (req : AuthRequest) (accessToken : String) (dpopScheme : Bool) (claims : Claims) : Prop where
  wellFormed : extractCnfX5tS256 claims ≠ some .malformed
  dpop : ((extractCnfJkt claims).isSome ∨ dpopScheme ∨
      (config.requireDpop ∧ extractCnfX5tS256 claims = none)) →
    ∃ jkt proof proofClaims jwk iat, extractCnfJkt claims = some jkt ∧ req.dpop = some proof ∧
      ValidProof build crates config now req proof accessToken jkt config.allowMissingAth proofClaims jwk iat
  certificate : ∀ thumbprint, extractCnfX5tS256 claims = some (.thumbprint thumbprint) →
    req.clientCertX5tS256 = some thumbprint

theorem mustDpop_iff (config : VerifierConfig) (dpopScheme : Bool) (claims : Claims)
    (wellFormed : extractCnfX5tS256 claims ≠ some .malformed) :
    mustDpop config dpopScheme claims = true ↔ (extractCnfJkt claims).isSome ∨ dpopScheme ∨
      (config.requireDpop ∧ extractCnfX5tS256 claims = none) := by
  unfold mustDpop
  cases found : extractCnfX5tS256 claims with
  | none => simp [or_assoc]
  | some x5t =>
    cases x5t with
    | thumbprint text => simp [X5tS256.wellFormed]
    | malformed => exact absurd found wellFormed

/-- The compatibility for a missing `ath` reads the unverified payload; a signed proof has the
same claims, so it is the signed `ath` that counts. -/
theorem ValidProof.absentAth (build : Build) (crates : Crates) (law : PayloadLaw crates)
    (config : VerifierConfig) (now : Int) (req : AuthRequest) (proof accessToken jkt : String)
    (claims : Claims) (jwk : Jwk) (iat : Int) :
    ValidProof build crates config now req proof accessToken jkt
        ((!(config.allowMissingAth && !proofHasAth crates proof)) = false) claims jwk iat ↔
      ValidProof build crates config now req proof accessToken jkt config.allowMissingAth claims jwk iat := by
  have reading : ∀ signed : SignedProof build crates proof claims jwk,
      (AthRule crates claims accessToken ((!(config.allowMissingAth && !proofHasAth crates proof)) = false) ↔
        AthRule crates claims accessToken config.allowMissingAth) := by
    intro signed
    have payload := signed.2.payload build crates law proof [jwk] "dpop+jwt" claims
    unfold AthRule proofHasAth
    rw [payload]
    cases hash : claims.str "ath" with
    | none => simp [hash]
    | some text => simp [hash]
  constructor
  · intro valid
    exact ⟨valid.signed,valid.htm,valid.htu,valid.jti,valid.issued,valid.fresh,
      (reading valid.signed).mp valid.ath,valid.bound⟩
  · intro valid
    exact ⟨valid.signed,valid.htm,valid.htu,valid.jti,valid.issued,valid.fresh,
      (reading valid.signed).mpr valid.ath,valid.bound⟩

theorem checkDpop_ok (build : Build) (crates : Crates) (law : PayloadLaw crates) (config : VerifierConfig)
    (now : Int) (req : AuthRequest) (accessToken : String) (required : Bool) (cnfJkt : Option String)
    (value : Unit) :
    checkDpop build crates config now req accessToken required cnfJkt = .ok value ↔
      (required = true → ∃ jkt proof proofClaims jwk iat, cnfJkt = some jkt ∧ req.dpop = some proof ∧
        ValidProof build crates config now req proof accessToken jkt config.allowMissingAth
          proofClaims jwk iat) := by
  unfold checkDpop
  cases required with
  | false => simp
  | true =>
    simp only [if_true,Except.bind_ok,liftStop_ok,Except.orError_ok,validateDpopProof_ok build crates law,
      ValidProof.absentAth build crates law,true_implies]
    constructor
    · intro run
      obtain ⟨proof,presented,jkt,named,claims,jwk,iat,valid⟩ := run
      exact ⟨jkt,proof,claims,jwk,iat,named,presented,valid⟩
    · intro shown
      obtain ⟨jkt,proof,claims,jwk,iat,named,presented,valid⟩ := shown
      exact ⟨proof,presented,jkt,named,claims,jwk,iat,valid⟩

theorem checkPossession_ok (build : Build) (crates : Crates) (law : PayloadLaw crates)
    (config : VerifierConfig) (now : Int) (req : AuthRequest) (accessToken : String) (dpopScheme : Bool)
    (claims : Claims) (value : Unit) :
    checkPossession build crates config now req accessToken dpopScheme claims = .ok value ↔
      Possession build crates config now req accessToken dpopScheme claims := by
  unfold checkPossession
  simp only [Except.bind_ok,liftStop_ok,rejectUnless_ok,exists_const,checkDpop_ok build crates law]
  have certificate : checkCert req ((extractCnfX5tS256 claims).bind X5tS256.wellFormed) = .ok value ↔
      ∀ thumbprint, extractCnfX5tS256 claims = some (.thumbprint thumbprint) →
        req.clientCertX5tS256 = some thumbprint := by
    unfold checkCert
    cases extractCnfX5tS256 claims with
    | none => simp
    | some x5t =>
      cases x5t with
      | thumbprint text => simp [X5tS256.wellFormed,validateCertBinding_ok]
      | malformed => simp [X5tS256.wellFormed]
  rw [certificate]
  constructor
  · intro run
    obtain ⟨wellFormed,proved,presented⟩ := run
    exact ⟨wellFormed,fun needed => proved ((mustDpop_iff config dpopScheme claims wellFormed).mpr needed),
      presented⟩
  · intro possession
    refine ⟨possession.wellFormed,?_,possession.certificate⟩
    intro required
    exact possession.dpop ((mustDpop_iff config dpopScheme claims possession.wellFormed).mp required)

theorem validateToken_ok {S : Type} (env : Env S) (law : PayloadLaw env.crates) (config : VerifierConfig)
    (req : AuthRequest) (parsed : Parsed) (claimedIssuer : String) (dpopScheme : Bool)
    (world after : World S) (claims : Claims)
    (access : validateAccessToken env config parsed claimedIssuer world = (.ok claims,after)) :
    (validateToken env config req parsed claimedIssuer dpopScheme world).1 = .ok claims ↔
      Possession env.build env.crates config (nowSecs env.proofClock) req parsed.token dpopScheme claims := by
  rw [← checkPossession_ok env.build env.crates law config (nowSecs env.proofClock) req parsed.token
    dpopScheme claims ()]
  unfold validateToken
  rw [Exec.bind_of_ok _ _ world after claims access]
  cases checkPossession env.build env.crates config (nowSecs env.proofClock) req parsed.token dpopScheme
      claims with
  | ok value =>
    rw [Exec.bind_of_ok (Exec.checked (.ok value)) _ after after value rfl]
    exact ⟨fun _ => rfl,fun _ => rfl⟩
  | error stop =>
    rw [Exec.bind_of_error (Exec.checked (.error stop)) _ after after stop rfl]
    constructor
    · intro accepted
      cases accepted
    · intro passed
      cases passed

/-- Once the access token is valid, its presentation is accepted exactly where the request proves
possession. -/
theorem validateToken_accepts_possession {S : Type} (env : Env S) (law : PayloadLaw env.crates)
    (config : VerifierConfig) (req : AuthRequest) (parsed : Parsed) (claimedIssuer : String)
    (dpopScheme : Bool) (world after : World S) (claims : Claims)
    (access : validateAccessToken env config parsed claimedIssuer world = (.ok claims,after)) :
    (∃ accepted, (validateToken env config req parsed claimedIssuer dpopScheme world).1 = .ok accepted) ↔
      Possession env.build env.crates config (nowSecs env.proofClock) req parsed.token dpopScheme claims := by
  rw [← validateToken_ok env law config req parsed claimedIssuer dpopScheme world after claims access]
  constructor
  · intro run
    obtain ⟨accepted,ok⟩ := run
    generalize outcome : validateToken env config req parsed claimedIssuer dpopScheme world = result at ok
    obtain ⟨found,last⟩ := result
    change found = .ok accepted at ok
    subst ok
    unfold validateToken at outcome
    rw [Exec.bind_of_ok _ _ world after claims access] at outcome
    obtain ⟨_,_,_,done⟩ := (Exec.bind_ok _ _ _ _ _).mp outcome
    cases done
    rfl
  · intro ok
    exact ⟨claims,ok⟩

/-! A sample deployment: an issuer, a client and the tokens that they signed with Ed25519. -/

section sample

def sampleIssuerKey : String := "AjmSQzjAOuYCQjgu7Si_nfOTq8eOLJfttpjpRo-OzUM"

def sampleClientKey : String := "77vF6ZE7xM2iu_TPekHEGVJYILICJMi7hF9SCUL6WDQ"

def sampleThumbprint : String := "aXgp2xm5A7jXOK7DuzvXkum7O05xpZZk6il569r0vRo"

def sampleAth : String := "-CP1dxVYnTIhCBdJsoACV_uoHVj6au69XvWPJ4WAYfA"

def sampleCanonical : String :=
  "\x7b\"crv\":\"Ed25519\",\"kty\":\"OKP\",\"x\":\"77vF6ZE7xM2iu_TPekHEGVJYILICJMi7hF9SCUL6WDQ\"\x7d"

def accessHeader : String :=
  "\x7b\"alg\":\"EdDSA\",\"typ\":\"at+jwt\"\x7d"

def boundPayload : String :=
  "\x7b\"cnf\":\x7b\"jkt\":\"aXgp2xm5A7jXOK7DuzvXkum7O05xpZZk6il569r0vRo\"\x7d," ++
    "\"iss\":\"https://idp.example\",\"sub\":\"alice\",\"jti\":\"t1\"," ++
    "\"client_id\":\"app\",\"aud\":\"https://rs.example\",\"iat\":1700000000," ++
    "\"exp\":1700000600,\"webid\":\"https://alice.example/card#me\"\x7d"

def bearerPayload : String :=
  "\x7b\"iss\":\"https://idp.example\",\"sub\":\"alice\",\"jti\":\"t1\"," ++
    "\"client_id\":\"app\",\"aud\":\"https://rs.example\",\"iat\":1700000000," ++
    "\"exp\":1700000600,\"webid\":\"https://alice.example/card#me\"\x7d"

def emptyJktPayload : String :=
  "\x7b\"cnf\":\x7b\"jkt\":\"\"\x7d,\"iss\":\"https://idp.example\"," ++
    "\"sub\":\"alice\",\"jti\":\"t1\",\"client_id\":\"app\",\"aud\":\"https://rs.example\"," ++
    "\"iat\":1700000000,\"exp\":1700000600,\"webid\":\"https://alice.example/card#me\"\x7d"

def proofHeader : String :=
  "\x7b\"alg\":\"EdDSA\",\"typ\":\"dpop+jwt\",\"jwk\":\x7b\"kty\":\"OKP\"," ++
    "\"crv\":\"Ed25519\",\"x\":\"77vF6ZE7xM2iu_TPekHEGVJYILICJMi7hF9SCUL6WDQ\"\x7d\x7d"

def proofPayload : String :=
  "\x7b\"htm\":\"GET\",\"htu\":\"https://rs.example/r\",\"jti\":\"p1\"," ++
    "\"iat\":1700000000,\"ath\":\"-CP1dxVYnTIhCBdJsoACV_uoHVj6au69XvWPJ4WAYfA\"\x7d"

def methodlessPayload : String :=
  "\x7b\"htu\":\"https://rs.example/r\",\"jti\":\"p1\",\"iat\":1700000000," ++
    "\"ath\":\"-CP1dxVYnTIhCBdJsoACV_uoHVj6au69XvWPJ4WAYfA\"\x7d"

def emptyHeader : String := "\x7b\x7d"

def unsignedPayload : String := "\x7b\"jti\":\"x\"\x7d"

def sampleClaims (cnf : Claims) : Claims :=
  cnf ++ [("iss",.string "https://idp.example"),("sub",.string "alice"),("jti",.string "t1"),
    ("client_id",.string "app"),("aud",.string "https://rs.example"),
    ("iat",.number (.posInt 1700000000 (by norm_num))),("exp",.number (.posInt 1700000600 (by norm_num))),
    ("webid",.string "https://alice.example/card#me")]

def sampleProofClaims (method : Claims) : Claims :=
  method ++ [("htu",.string "https://rs.example/r"),("jti",.string "p1"),
    ("iat",.number (.posInt 1700000000 (by norm_num))),("ath",.string sampleAth)]

/-- What the JSON parser reads from the segments of the sample tokens. -/
def sampleDocuments : List (String × Claims) :=
  [(accessHeader,[("alg",.string "EdDSA"),("typ",.string "at+jwt")]),
    (proofHeader,[("alg",.string "EdDSA"),("typ",.string "dpop+jwt"),
      ("jwk",.object [("kty",.string "OKP"),("crv",.string "Ed25519"),("x",.string sampleClientKey)])]),
    (boundPayload,sampleClaims [("cnf",.object [("jkt",.string sampleThumbprint)])]),
    (bearerPayload,sampleClaims []),
    (emptyJktPayload,sampleClaims [("cnf",.object [("jkt",.string "")])]),
    (proofPayload,sampleProofClaims [("htm",.string "GET")]),
    (methodlessPayload,sampleProofClaims []),
    (emptyHeader,[]),
    (unsignedPayload,[("jti",.string "x")])]

def sampleToken (header payload : String) (signature : List UInt8) : String :=
  encodedJws (Text.asBytes header) (Text.asBytes payload) signature

def boundSignature : List UInt8 :=
  [69,69,87,218,115,44,15,163,45,48,234,19,25,127,78,213,40,61,160,15,181,232,203,220,46,27,150,7,
    18,176,100,81,231,184,119,37,107,47,250,125,51,231,229,66,219,134,188,124,251,243,51,1,140,254,
    150,236,225,10,240,245,183,151,184,14]

def boundToken : String := sampleToken accessHeader boundPayload boundSignature

def bearerToken : String := sampleToken accessHeader bearerPayload
  [176,245,210,87,128,119,163,27,234,176,153,38,208,45,191,206,54,197,85,207,74,240,246,173,157,
    114,105,247,248,148,23,81,211,131,62,36,83,136,65,121,171,146,77,104,140,112,253,158,97,67,232,
    229,56,235,156,202,218,168,232,239,209,2,66,7]

def emptyJktToken : String := sampleToken accessHeader emptyJktPayload
  [139,175,219,175,165,113,88,251,122,251,72,107,82,229,183,212,78,106,231,86,70,83,78,66,155,139,
    54,138,159,230,142,101,9,220,244,197,184,104,194,46,225,136,141,142,187,168,2,4,87,83,201,149,
    67,90,200,19,214,210,134,24,61,59,198,9]

def sampleProof : String := sampleToken proofHeader proofPayload
  [167,41,92,242,100,195,20,191,37,237,121,85,173,148,89,167,83,200,119,55,249,102,82,145,141,64,
    241,93,210,53,13,131,42,170,248,37,2,227,121,191,74,50,8,95,67,127,239,59,15,143,223,169,173,
    205,169,253,222,64,135,103,23,34,130,5]

def methodlessProof : String := sampleToken proofHeader methodlessPayload
  [40,236,88,179,228,101,138,139,245,15,77,156,129,46,67,95,80,170,205,7,236,139,161,228,154,10,
    220,175,67,18,69,30,150,148,137,71,99,95,71,240,166,251,234,139,174,110,53,61,43,182,227,149,59,
    163,117,221,228,146,88,175,237,163,52,7]

def sampleSignatures : List (String × String) :=
  [(boundToken,sampleIssuerKey),(bearerToken,sampleIssuerKey),(emptyJktToken,sampleIssuerKey),
    (sampleProof,sampleClientKey),(methodlessProof,sampleClientKey)]

def sampleDigest (bytes : List UInt8) : List UInt8 :=
  if bytes = Text.asBytes boundToken then
    [248,35,245,119,21,88,157,50,33,8,23,73,178,128,2,87,251,168,29,88,250,106,238,189,94,245,143,39,
    133,128,97,240]
  else
    [105,120,41,219,25,185,3,184,215,56,174,195,187,59,215,146,233,187,59,78,113,165,150,100,234,41,
    121,235,218,244,189,26]

def sampleParse (bytes : List UInt8) : Option Json :=
  (sampleDocuments.find? (fun document => Text.asBytes document.1 == bytes)).map (.object ·.2)

def sampleUrl : UrlCrate where
  Url := String
  parse text :=
    if text ∈ ["https://rs.example/r","https://alice.example/card#me","https://alice.example/card"] then
      some text
    else none
  join _ _ := none
  toText url := url
  scheme _ := "https"
  username _ := ""
  password _ := none
  hostStr url := some (String.ofList ((url.toList.drop 8).takeWhile (· != '/')))
  portOrKnownDefault _ := some 443
  clearQuery url := String.ofList (url.toList.takeWhile (· != '?'))
  clearFragment url := String.ofList (url.toList.takeWhile (· != '#'))
  clearUsername url := url
  clearPassword url := url

def sampleParser : Crates where
  finalSigma _ _ := false
  fromSlice := sampleParse
  sha256 := sampleDigest
  url := sampleUrl
  jsonwebtoken := ⟨Empty,fun _ _ => .error "",fun _ _ => .error "",fun _ => .error "",fun _ key => key.elim⟩
  p521 := ⟨Empty,Empty,fun _ => none,fun _ => none,fun key => key.elim⟩

def sampleDecode (token key : String) (alg : Algorithm) : Except String Claims :=
  if alg = .edDsa ∧ (token,key) ∈ sampleSignatures then orError (peekClaims sampleParser token) "InvalidToken"
  else .error "InvalidSignature"

def sampleCrates : Crates where
  __ := sampleParser
  jsonwebtoken := {
    DecodingKey := String
    fromEcComponents _ _ := .error "InvalidEcdsaKey"
    fromRsaComponents _ _ := .error "InvalidRsaKey"
    fromEdComponents x := .ok x
    decode := sampleDecode }

theorem sampleCrates_decode (token key : String) (alg : Algorithm) :
    sampleCrates.jsonwebtoken.decode token key alg = sampleDecode token key alg := rfl

theorem sampleCrates_payload : PayloadLaw sampleCrates := by
  intro token key alg claims decoded
  have decoded : sampleDecode token key alg = .ok claims := decoded
  unfold sampleDecode at decoded
  split at decoded
  · exact (Except.orError_ok _ _ _).mp decoded
  · cases decoded

private theorem find_document (documents : List (String × Claims)) (document : String × Claims)
    (distinct : (documents.map Prod.fst).Nodup) (member : document ∈ documents) :
    documents.find? (fun other => Text.asBytes other.1 == Text.asBytes document.1) = some document := by
  induction documents with
  | nil => simp at member
  | cons first rest ih =>
    rw [List.map_cons,List.nodup_cons] at distinct
    rcases List.mem_cons.mp member with same | inside
    · rw [same,List.find?_cons_of_pos (by simp)]
    · rw [List.find?_cons_of_neg]
      · exact ih distinct.2 inside
      · intro equal
        have texts := asBytes_injective _ _ (beq_iff_eq.mp equal)
        rw [texts] at distinct
        exact distinct.1 (List.mem_map.mpr ⟨document,inside,rfl⟩)

theorem sampleParse_document (text : String) (members : Claims) (member : (text,members) ∈ sampleDocuments) :
    sampleParse (Text.asBytes text) = some (.object members) := by
  have distinct : (sampleDocuments.map Prod.fst).Nodup := by decide +kernel
  unfold sampleParse
  rw [find_document sampleDocuments (text,members) distinct member]
  rfl

theorem sampleDocuments_filled (text : String) (members : Claims)
    (member : (text,members) ∈ sampleDocuments) : Text.asBytes text ≠ [] := by
  intro empty
  have blank : text = "" := asBytes_injective text "" empty
  have filled : "" ∉ sampleDocuments.map Prod.fst := by decide +kernel
  rw [blank] at member
  exact filled (List.mem_map.mpr ⟨_,member,rfl⟩)

section token

variable (header payload : String) (head claims : Claims) (signature : List UInt8)
  (knownHeader : (header,head) ∈ sampleDocuments) (knownPayload : (payload,claims) ∈ sampleDocuments)
  (filled : signature ≠ [])

include knownHeader knownPayload filled

theorem sampleToken_compact :
    CompactJws (sampleToken header payload signature) (Base64Url.encode (Text.asBytes header))
      (Base64Url.encode (Text.asBytes payload)) (Base64Url.encode signature) :=
  encodedJws_compact _ _ _ (sampleDocuments_filled header head knownHeader)
    (sampleDocuments_filled payload claims knownPayload) filled

theorem sampleToken_claims : peekClaims sampleCrates (sampleToken header payload signature) = some claims := by
  apply (peekClaims_some _ _ _).mpr
  exact ⟨_,_,_,Text.asBytes payload,
    sampleToken_compact header payload head claims signature knownHeader knownPayload filled,
    Base64Url.decode_encode _,sampleParse_document payload claims knownPayload⟩

theorem sampleToken_header (alg : String) (jwk : Option Jwk)
    (named : ((Json.object head).get "alg").bind Json.asStr = some alg)
    (embedded : jwkParameter (.object head) = .ok jwk) :
    peekHeader sampleCrates (sampleToken header payload signature) =
      .ok ⟨alg,((Json.object head).get "typ").bind Json.asStr,jwk⟩ := by
  have compact := sampleToken_compact header payload head claims signature knownHeader knownPayload filled
  unfold peekHeader
  rw [(splitCompact_ok _ _ _ _).mpr compact]
  simp only [Except.bind_ok,Except.orError_ok]
  exact ⟨_,rfl,Text.asBytes header,Base64Url.decode_encode _,.object head,
    sampleParse_document header head knownHeader,alg,named,jwk,embedded,rfl⟩

end token

def sampleConfig : VerifierConfig := VerifierConfig.new ["https://idp.example"] "https://rs.example"

def sampleStore : ReplayStore (List String) where
  mark jti _ seen := if jti ∈ seen then (.replay,seen) else (.new,jti :: seen)

def sampleIssuerJwk : Jwk :=
  ⟨"OKP",some "Ed25519",some sampleIssuerKey,none,none,none,none,none,none,none,none,none,none,none,none⟩

def sampleClientJwk : Jwk :=
  ⟨"OKP",some "Ed25519",some sampleClientKey,none,none,none,none,none,none,none,none,none,none,none,none⟩

def sampleEnv : Env (List String) where
  build := ⟨false,false⟩
  crates := sampleCrates
  keysFor issuer := if issuer = "https://idp.example" then .ok [sampleIssuerJwk] else .error "unknown issuer"
  replay := sampleStore
  tokenClock := some 1700000010
  proofClock := some 1700000010

theorem sampleToken_verified (header payload typ key : String) (head claims : Claims)
    (signature : List UInt8) (jwk : Jwk) (embedded : Option Jwk)
    (knownHeader : (header,head) ∈ sampleDocuments) (knownPayload : (payload,claims) ∈ sampleDocuments)
    (filled : signature ≠ []) (named : ((Json.object head).get "alg").bind Json.asStr = some "EdDSA")
    (parameter : jwkParameter (.object head) = .ok embedded)
    (typed : typMatches ⟨"EdDSA",((Json.object head).get "typ").bind Json.asStr,embedded⟩ typ)
    (okp : jwk.kty = "OKP" ∧ jwk.x = some key) (isPublic : PublicKey jwk)
    (signed : (sampleToken header payload signature,key) ∈ sampleSignatures) :
    VerifiedJws ⟨false,false⟩ sampleCrates (sampleToken header payload signature) [jwk] typ claims := by
  have peeked := sampleToken_header header payload head claims signature knownHeader knownPayload filled
    "EdDSA" embedded named parameter
  have payloadRead := sampleToken_claims header payload head claims signature knownHeader knownPayload filled
  have policy : algInPolicy "EdDSA" := by decide
  have verifiable : algIsVerifiable ⟨false,false⟩ "EdDSA" := by decide
  have built : BuildsKey sampleCrates jwk key := Or.inr (Or.inr ⟨okp.1,key,okp.2,rfl⟩)
  have decoded : sampleCrates.jsonwebtoken.decode (sampleToken header payload signature) key .edDsa =
      .ok claims := by
    rw [sampleCrates_decode,sampleDecode,if_pos ⟨rfl,signed⟩]
    exact (Except.orError_ok _ _ _).mpr payloadRead
  exact ⟨_,peeked,policy,verifiable,typed,jwk,List.mem_singleton_self jwk,isPublic,
    .jsonwebtoken .edDsa key rfl built decoded⟩

theorem sampleClaims_accepted (cnf : Claims) (short : cnf = [] ∨ ∃ value, cnf = [("cnf",value)]) :
    AccessClaims sampleEnv sampleConfig "https://idp.example" (sampleClaims cnf) := by
  rcases short with none | ⟨value,some⟩
  · subst none
    refine ⟨?_,rfl,Or.inl rfl,1700000600,1700000000,rfl,⟨1700000005,by decide,by decide⟩,?_,rfl,
      ⟨1699999995,by decide,by decide⟩⟩
    · simp [sampleClaims,Claims.str,Claims.get,List.lookup,Json.asStr]
    · intro nbf read
      cases read
  · subst some
    refine ⟨?_,rfl,Or.inl rfl,1700000600,1700000000,rfl,⟨1700000005,by decide,by decide⟩,?_,rfl,
      ⟨1699999995,by decide,by decide⟩⟩
    · simp [sampleClaims,Claims.str,Claims.get,List.lookup,Json.asStr]
    · intro nbf read
      cases read

theorem sampleToken_valid (payload : String) (cnf : Claims) (signature : List UInt8)
    (short : cnf = [] ∨ ∃ value, cnf = [("cnf",value)])
    (known : (payload,sampleClaims cnf) ∈ sampleDocuments) (filled : signature ≠ [])
    (signed : (sampleToken accessHeader payload signature,sampleIssuerKey) ∈ sampleSignatures) :
    ValidAccessToken sampleEnv sampleConfig (sampleToken accessHeader payload signature)
      "https://idp.example" (sampleClaims cnf) := by
  have served : sampleEnv.keysFor "https://idp.example" = .ok [sampleIssuerJwk] := rfl
  have isPublic : PublicKey sampleIssuerJwk := by
    unfold PublicKey
    decide
  refine ⟨⟨[sampleIssuerJwk],served,?_⟩,sampleClaims_accepted cnf short⟩
  exact sampleToken_verified accessHeader payload "at+jwt" sampleIssuerKey _ (sampleClaims cnf) signature
    sampleIssuerJwk none (List.mem_of_mem_head? rfl) known filled rfl rfl (by decide) ⟨rfl,rfl⟩
    isPublic signed

theorem boundToken_compact : CompactJws boundToken (Base64Url.encode (Text.asBytes accessHeader))
    (Base64Url.encode (Text.asBytes boundPayload)) (Base64Url.encode boundSignature) :=
  sampleToken_compact accessHeader boundPayload _ _ _ (List.mem_of_getElem? (i := 0) rfl)
    (List.mem_of_getElem? (i := 2) rfl) (List.cons_ne_nil _ _)

theorem sampleCrates_sha256 (bytes : List UInt8) : sampleCrates.sha256 bytes = sampleDigest bytes := rfl

theorem sample_ath : ath sampleCrates boundToken = sampleAth := by
  unfold ath digestText
  rw [sampleCrates_sha256,sampleDigest,if_pos rfl]
  decide +kernel

theorem sample_thumbprint : sampleClientJwk.thumbprintSha256 sampleCrates = .ok sampleThumbprint := by
  have canonical : sampleClientJwk.canonical = .ok sampleCanonical := by decide +kernel
  have first : sampleCanonical.toList.head? = some '\x7b' := by decide +kernel
  have other : Text.asBytes sampleCanonical ≠ Text.asBytes boundToken := by
    intro same
    rw [asBytes_injective _ _ same] at first
    rw [boundToken_compact.whole] at first
    revert first
    decide +kernel
  unfold Jwk.thumbprintSha256
  rw [canonical]
  change Except.ok (digestText sampleCrates sampleCanonical) = .ok sampleThumbprint
  unfold digestText
  rw [sampleCrates_sha256,sampleDigest,if_neg other]
  decide +kernel

theorem sample_fresh : Fresh ⟨false,false⟩ sampleConfig 1700000010 1700000000 :=
  ⟨305,10,10,by decide,by decide,by decide,by decide⟩

theorem sampleProof_valid (config : VerifierConfig) (req : AuthRequest) (payload : String) (method : Claims)
    (signature : List UInt8) (tolerance : config.clockToleranceSecs = 5)
    (short : method = [] ∨ ∃ value, method = [("htm",value)])
    (known : (payload,sampleProofClaims method) ∈ sampleDocuments) (filled : signature ≠ [])
    (signed : (sampleToken proofHeader payload signature,sampleClientKey) ∈ sampleSignatures)
    (url : req.url = "https://rs.example/r")
    (matched : Text.eqIgnoreAsciiCase (((sampleProofClaims method).str "htm").getD "").toList
      req.method.toList) :
    ValidProof ⟨false,false⟩ sampleCrates config 1700000010 req
      (sampleToken proofHeader payload signature) boundToken sampleThumbprint config.allowMissingAth
      (sampleProofClaims method) sampleClientJwk 1700000000 := by
  have isPublic : PublicKey sampleClientJwk := by
    unfold PublicKey
    decide
  have header := sampleToken_header proofHeader payload _ (sampleProofClaims method) signature
    (List.mem_of_getElem? (i := 1) rfl) known filled "EdDSA" (some sampleClientJwk) rfl rfl
  have verified := sampleToken_verified proofHeader payload "dpop+jwt" sampleClientKey _
    (sampleProofClaims method) signature sampleClientJwk (some sampleClientJwk)
    (List.mem_of_getElem? (i := 1) rfl) known filled rfl rfl (by decide) ⟨rfl,rfl⟩ isPublic signed
  have fresh : Fresh ⟨false,false⟩ config 1700000010 1700000000 := by
    obtain ⟨width,difference,distance,read,rest⟩ := sample_fresh
    refine ⟨width,difference,distance,?_,rest⟩
    unfold VerifierConfig.freshnessWidth at read ⊢
    rw [tolerance]
    exact read
  have claimed : (sampleProofClaims method).str "htu" = some "https://rs.example/r" ∧
      (sampleProofClaims method).str "jti" = some "p1" ∧
      (sampleProofClaims method).i64 "iat" = some 1700000000 ∧
      (sampleProofClaims method).str "ath" = some sampleAth := by
    rcases short with none | ⟨value,some⟩
    · rw [none]
      exact ⟨rfl,rfl,rfl,rfl⟩
    · rw [some]
      exact ⟨rfl,rfl,rfl,rfl⟩
  obtain ⟨htu,jti,iat,hash⟩ := claimed
  exact {
    signed := ⟨⟨_,header,rfl⟩,verified⟩
    htm := matched
    htu := ⟨_,htu,by rw [url]⟩
    jti := ⟨_,jti,by decide⟩
    issued := iat
    fresh := fresh
    ath := Or.inl (by rw [hash,sample_ath])
    bound := sample_thumbprint }

def sampleRequest : AuthRequest where
  authorization := some ("DPoP " ++ boundToken)
  dpop := some sampleProof
  method := "GET"
  url := "https://rs.example/r"
  clientCertX5tS256 := none

def boundClaims : Claims := sampleClaims [("cnf",.object [("jkt",.string sampleThumbprint)])]

theorem boundToken_valid : ValidAccessToken sampleEnv sampleConfig boundToken "https://idp.example" boundClaims :=
  sampleToken_valid boundPayload _ _ (Or.inr ⟨_,rfl⟩) (List.mem_of_getElem? (i := 2) rfl) (by decide)
    (List.mem_of_getElem? (i := 0) rfl)

theorem validateToken_accepts_sample :
    let parsed : Parsed := ⟨"dpop",boundToken⟩
    validateAccessToken sampleEnv sampleConfig parsed "https://idp.example" ⟨[],[]⟩ =
        (.ok boundClaims,⟨[],[.keysFor "https://idp.example"]⟩) ∧
      ((∃ accepted, (validateToken sampleEnv sampleConfig sampleRequest parsed "https://idp.example" true
          ⟨[],[]⟩).1 = .ok accepted) ↔
        Possession sampleEnv.build sampleEnv.crates sampleConfig (nowSecs sampleEnv.proofClock) sampleRequest
          boundToken true boundClaims) := by
  intro parsed
  have access : validateAccessToken sampleEnv sampleConfig parsed "https://idp.example" ⟨[],[]⟩ =
      (.ok boundClaims,⟨[],[.keysFor "https://idp.example"]⟩) :=
    (validateAccessToken_ok sampleEnv sampleCrates_payload sampleConfig parsed _ _ _ _).mpr
      ⟨boundToken_valid,rfl⟩
  exact ⟨access,validateToken_accepts_possession sampleEnv sampleCrates_payload sampleConfig sampleRequest
    parsed "https://idp.example" true ⟨[],[]⟩ _ boundClaims access⟩

/-- A proof without `htm` passes for a request whose method is the empty text. -/
theorem absent_htm_matches_empty_method :
    let req : AuthRequest := {sampleRequest with dpop := some methodlessProof,method := ""}
    let parsed : Parsed := ⟨"dpop",boundToken⟩
    (∃ after, validateAccessToken sampleEnv sampleConfig parsed "https://idp.example" ⟨[],[]⟩ =
        (.ok boundClaims,after)) ∧
      (∃ accepted, (validateToken sampleEnv sampleConfig req parsed "https://idp.example" true
        ⟨[],[]⟩).1 = .ok accepted) ∧
      ∀ claims, peekClaims sampleCrates methodlessProof = some claims → claims.get "htm" = none := by
  intro req parsed
  have access : validateAccessToken sampleEnv sampleConfig parsed "https://idp.example" ⟨[],[]⟩ =
      (.ok boundClaims,⟨[],[.keysFor "https://idp.example"]⟩) :=
    (validateAccessToken_ok sampleEnv sampleCrates_payload sampleConfig parsed _ _ _ _).mpr
      ⟨boundToken_valid,rfl⟩
  have valid := sampleProof_valid sampleConfig req methodlessPayload [] _ rfl (Or.inl rfl)
    (List.mem_of_getElem? (i := 6) rfl) (by decide) (List.mem_of_getElem? (i := 4) rfl) rfl rfl
  have possession : Possession sampleEnv.build sampleEnv.crates sampleConfig (nowSecs sampleEnv.proofClock) req
      boundToken true boundClaims := by
    refine ⟨by decide,?_,?_⟩
    · intro _
      exact ⟨sampleThumbprint,methodlessProof,_,_,_,rfl,rfl,valid⟩
    · intro thumbprint bound
      cases bound
  refine ⟨⟨_,access⟩,⟨boundClaims,?_⟩,?_⟩
  · exact (validateToken_ok sampleEnv sampleCrates_payload sampleConfig req parsed _ true _ _ boundClaims access).mpr
      possession
  · intro claims read
    have known : peekClaims sampleCrates methodlessProof = some (sampleProofClaims []) :=
      sampleToken_claims proofHeader methodlessPayload _ _ _ (List.mem_of_getElem? (i := 1) rfl)
        (List.mem_of_getElem? (i := 6) rfl) (by decide)
    rw [known] at read
    cases read
    rfl

end sample

end SolidOidcVerifier
