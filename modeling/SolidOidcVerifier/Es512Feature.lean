import SolidOidcVerifier.Acceptance
import SolidOidcVerifier.CompactJws

/-! The `es512` feature: what it leaves as it was, what is refused without it, and what an ES512
signature takes with it. -/
namespace SolidOidcVerifier
open Foundation

def HeaderAlgIs (crates : Crates) (token alg : String) : Prop :=
  ∃ header, peekHeader crates token = .ok header ∧ header.alg = alg

theorem algIsVerifiable_feature (checks : Bool) (alg : String) (other : alg ≠ "ES512") :
    algIsVerifiable ⟨true,checks⟩ alg = algIsVerifiable ⟨false,checks⟩ alg := by
  unfold algIsVerifiable
  rw [beq_false_of_ne other,Bool.and_false,Bool.and_false]

/-- The function refuses ES512 before it asks what the build can verify. -/
theorem mapAlgorithm_feature (checks : Bool) (alg : String) :
    mapAlgorithm ⟨true,checks⟩ alg = mapAlgorithm ⟨false,checks⟩ alg := by
  by_cases es512 : alg = "ES512"
  · rw [es512]
    rfl
  · unfold mapAlgorithm
    rw [algIsVerifiable_feature checks alg es512]

theorem verifySignature_feature (checks : Bool) (crates : Crates) (token : String) (keys : List Jwk)
    (expectedTyp : Option String) (other : ¬HeaderAlgIs crates token "ES512") :
    verifySignature ⟨true,checks⟩ crates token keys expectedTyp =
      verifySignature ⟨false,checks⟩ crates token keys expectedTyp := by
  unfold verifySignature
  cases peeked : peekHeader crates token with
  | error error => rfl
  | ok header =>
    have primary : header.alg ≠ "ES512" := fun named => other ⟨header,peeked,named⟩
    simp only [bind,Except.bind,primary,and_false,if_false,mapAlgorithm_feature]

theorem verifiedProof_feature (checks : Bool) (crates : Crates) (proof : String)
    (other : ¬HeaderAlgIs crates proof "ES512") :
    verifiedProof ⟨true,checks⟩ crates proof = verifiedProof ⟨false,checks⟩ crates proof := by
  unfold verifiedProof verifyProofWithEmbeddedJwk
  simp only [verifySignature_feature checks crates proof _ _ other]

theorem validateDpopProof_feature (checks : Bool) (crates : Crates) (config : VerifierConfig) (now : Int)
    (req : AuthRequest) (proof accessToken cnfJkt : String) (requireAth : Bool)
    (other : ¬HeaderAlgIs crates proof "ES512") :
    validateDpopProof ⟨true,checks⟩ crates config now req proof accessToken cnfJkt requireAth =
      validateDpopProof ⟨false,checks⟩ crates config now req proof accessToken cnfJkt requireAth := by
  unfold validateDpopProof
  rw [verifiedProof_feature checks crates proof other]
  rfl

theorem checkDpop_feature (checks : Bool) (crates : Crates) (config : VerifierConfig) (now : Int) (req : AuthRequest)
    (accessToken : String) (mustDpop : Bool) (cnfJkt : Option String)
    (other : ∀ proof, req.dpop = some proof → ¬HeaderAlgIs crates proof "ES512") :
    checkDpop ⟨true,checks⟩ crates config now req accessToken mustDpop cnfJkt =
      checkDpop ⟨false,checks⟩ crates config now req accessToken mustDpop cnfJkt := by
  cases carried : req.dpop with
  | none =>
    unfold checkDpop
    rw [carried]
    rfl
  | some proof =>
    have read : ∀ build, checkDpop build crates config now req accessToken mustDpop cnfJkt =
        if mustDpop then liftStop (orError cnfJkt
            (invalidTokenDpop "Access token is not DPoP-bound (no cnf.jkt confirmation claim).")) >>= fun jkt =>
          validateDpopProof build crates config now req proof accessToken jkt
            !(config.allowMissingAth && !proofHasAth crates proof)
        else .ok () := by
      intro build
      unfold checkDpop
      rw [carried]
      rfl
    rw [read,read]
    simp only [validateDpopProof_feature checks crates config now req proof accessToken _ _ (other proof carried)]

theorem checkPossession_feature (checks : Bool) (crates : Crates) (config : VerifierConfig) (now : Int)
    (req : AuthRequest) (accessToken : String) (dpopScheme : Bool) (claims : Claims)
    (other : ∀ proof, req.dpop = some proof → ¬HeaderAlgIs crates proof "ES512") :
    checkPossession ⟨true,checks⟩ crates config now req accessToken dpopScheme claims =
      checkPossession ⟨false,checks⟩ crates config now req accessToken dpopScheme claims := by
  unfold checkPossession
  rw [checkDpop_feature checks crates config now req accessToken _ _ other]

variable {S : Type}

theorem validateAccessToken_feature (env : Env S) (checks : Bool) (config : VerifierConfig) (parsed : Parsed)
    (issuer : String) (other : ¬HeaderAlgIs env.crates parsed.token "ES512") :
    validateAccessToken {env with build := ⟨true,checks⟩} config parsed issuer =
      validateAccessToken {env with build := ⟨false,checks⟩} config parsed issuer := by
  unfold validateAccessToken verifiedAccessToken
  simp only [verifySignature_feature checks env.crates parsed.token _ _ other]
  cases peeked : peekHeader env.crates parsed.token with
  | error error => rfl
  | ok header =>
    have primary : header.alg ≠ "ES512" := fun named => other ⟨header,peeked,named⟩
    funext world
    have begun : (Exec.lift (.ok header) : Exec (World S) VerifyError Header) world = (.ok header,world) := rfl
    rw [Exec.bind_of_ok _ _ world world header begun,Exec.bind_of_ok _ _ world world header begun,
      algIsVerifiable_feature checks header.alg primary]
    rfl

theorem authenticate_feature (env : Env S) (checks : Bool) (config : VerifierConfig) (req : AuthRequest)
    (parsed : Parsed) (other : ¬HeaderAlgIs env.crates parsed.token "ES512")
    (proofs : ∀ proof, req.dpop = some proof → ¬HeaderAlgIs env.crates proof "ES512") :
    authenticate {env with build := ⟨true,checks⟩} config req parsed =
      authenticate {env with build := ⟨false,checks⟩} config req parsed := by
  have possession := fun dpopScheme claims => checkPossession_feature checks env.crates config (nowSecs env.proofClock)
    req parsed.token dpopScheme claims proofs
  unfold authenticate validateToken
  simp only [validateAccessToken_feature env checks config parsed _ other,possession]

/-- Without an ES512 header the feature changes nothing: not the answer, not the calls and not the store. -/
theorem verify_feature (env : Env S) (checks : Bool) (config : VerifierConfig) (req : AuthRequest)
    (tokens : ∀ parsed, parseAuthorization env.crates req.authorization = some parsed →
      ¬HeaderAlgIs env.crates parsed.token "ES512")
    (proofs : ∀ proof, req.dpop = some proof → ¬HeaderAlgIs env.crates proof "ES512") :
    verify {env with build := ⟨true,checks⟩} config req = verify {env with build := ⟨false,checks⟩} config req := by
  unfold verify
  cases presented : parseAuthorization env.crates req.authorization with
  | none => rfl
  | some parsed =>
    simp only [authenticate_feature env checks config req parsed (tokens parsed presented) proofs]
    rfl

theorem verifySignature_without (build : Build) (crates : Crates) (token : String) (keys : List Jwk)
    (expectedTyp : Option String) (claims : Claims) (absent : build.es512 = false)
    (ok : verifySignature build crates token keys expectedTyp = .ok claims) : ¬HeaderAlgIs crates token "ES512" := by
  intro named
  obtain ⟨header,peeked,alg⟩ := named
  obtain ⟨other,again,_,verifiable,_⟩ := verifySignature_accepts build crates token keys expectedTyp claims ok
  cases peeked.symm.trans again
  rw [alg] at verifiable
  simp [algIsVerifiable,absent] at verifiable

theorem checkDpop_without (build : Build) (crates : Crates) (config : VerifierConfig) (now : Int) (req : AuthRequest)
    (accessToken : String) (cnfJkt : Option String) (absent : build.es512 = false)
    (ok : checkDpop build crates config now req accessToken true cnfJkt = .ok ()) :
    ∃ proof, req.dpop = some proof ∧ ¬HeaderAlgIs crates proof "ES512" := by
  unfold checkDpop at ok
  rw [if_pos rfl] at ok
  simp only [Except.bind_ok,liftStop_ok,Except.orError_ok] at ok
  obtain ⟨proof,carried,jkt,_,validated⟩ := ok
  unfold validateDpopProof at validated
  simp only [Except.bind_ok,liftStop_ok] at validated
  obtain ⟨⟨claims,jwk⟩,verified,_⟩ := validated
  unfold verifiedProof verifyProofWithEmbeddedJwk at verified
  simp only [Except.mapError_ok,Except.bind_ok] at verified
  obtain ⟨header,_,other,_,_,_,_,_,found,signed,_⟩ := verified
  exact ⟨proof,carried,verifySignature_without build crates proof [other] _ found absent signed⟩

theorem validateToken_without (env : Env S) (config : VerifierConfig) (req : AuthRequest) (parsed : Parsed)
    (issuer : String) (dpopScheme : Bool) (world after : World S) (claims : Claims) (absent : env.build.es512 = false)
    (ok : validateToken env config req parsed issuer dpopScheme world = (.ok claims,after)) :
    ¬HeaderAlgIs env.crates parsed.token "ES512" ∧
      (mustDpop config dpopScheme claims → ∃ proof, req.dpop = some proof ∧ ¬HeaderAlgIs env.crates proof "ES512") := by
  unfold validateToken at ok
  simp only [Exec.bind_ok,Exec.checked_ok,Exec.pure_run] at ok
  obtain ⟨found,middle,access,_,last,⟨possession,_⟩,done⟩ := ok
  cases done
  refine ⟨?_,?_⟩
  · unfold validateAccessToken verifiedAccessToken at access
    simp only [Exec.bind_ok,Exec.lift_ok,Except.mapError_ok] at access
    obtain ⟨header,_,_,_,_,_,_,_,_,keys,_,_,answer,_,⟨signed,_⟩,_⟩ := access
    exact verifySignature_without env.build env.crates parsed.token keys _ answer absent signed
  · intro required
    unfold checkPossession at possession
    simp only [Except.bind_ok] at possession
    obtain ⟨_,_,_,proved,_⟩ := possession
    rw [required] at proved
    exact checkDpop_without env.build env.crates config _ req parsed.token _ absent proved

theorem verify_without (env : Env S) (config : VerifierConfig) (req : AuthRequest) (world : World S)
    (token : VerifiedToken) (absent : env.build.es512 = false) (ok : (verify env config req world).1 = .ok token)
    (named : token.webId ≠ none) :
    ∃ (parsed : Parsed) (authenticated : Authenticated), parseAuthorization env.crates req.authorization = some parsed ∧
      token = authenticated.credentials ∧ ¬HeaderAlgIs env.crates parsed.token "ES512" ∧
      (mustDpop config (parsed.scheme == "dpop") authenticated.claims →
        ∃ proof, req.dpop = some proof ∧ ¬HeaderAlgIs env.crates proof "ES512") := by
  cases presented : parseAuthorization env.crates req.authorization with
  | none =>
    unfold verify at ok
    rw [presented] at ok
    cases ok
    exact absurd rfl named
  | some parsed =>
    obtain ⟨authenticated,middle,_,checked,_,_,same⟩ := (verify_run env config req parsed world token presented).mp ok
    unfold authenticate at checked
    simp only [Exec.bind_ok,Exec.pure_run] at checked
    obtain ⟨_,_,_,issuer,_,_,_,_,_,claims,_,validated,webId,_,_,_,_,_,done⟩ := checked
    cases done
    obtain ⟨bearer,proof⟩ := validateToken_without env config req parsed issuer _ _ _ claims absent validated
    exact ⟨parsed,_,rfl,same,bearer,proof⟩

/-- The candidate behind an ES512 signature, the point its coordinates name, and the text it signed. -/
structure Es512Candidate (crates : Crates) (token : String) (jwk : Jwk) : Prop where
  isPublic : ¬jwk.isSymmetric ∧ ¬jwk.hasPrivateMaterial
  kty : Text.eqIgnoreAsciiCase jwk.kty.toList "EC".toList
  crv : jwk.crv = some "P-521"
  verified : ∃ x y xBytes yBytes key h p s sigBytes signature, jwk.x = some x ∧ jwk.y = some y ∧
    b64urlDecode x.toList = some xBytes ∧ b64urlDecode y.toList = some yBytes ∧ xBytes.length = 66 ∧
    yBytes.length = 66 ∧ crates.p521.fromSec1Bytes (4 :: (xBytes ++ yBytes)) = some key ∧ CompactJws token h p s ∧
    (∀ c ∈ h ++ '.' :: p, c.toNat < 128) ∧ b64urlDecode s = some sigBytes ∧ sigBytes.length = 132 ∧
    crates.p521.signatureFromSlice sigBytes = some signature ∧
    crates.p521.verify key (Text.asBytes (String.ofList (h ++ '.' :: p))) signature

theorem peekHeader_segment (crates : Crates) (token : String) (h p s : List Char) (header : Header)
    (compact : CompactJws token h p s) (peeked : peekHeader crates token = .ok header) :
    ∃ bytes, b64urlDecode h = some bytes := by
  unfold peekHeader at peeked
  simp only [Except.bind_ok,Except.orError_ok] at peeked
  obtain ⟨⟨first,second,third⟩,split,bytes,decoded,_⟩ := peeked
  rw [(splitCompact_ok token h p s).mpr compact] at split
  cases split
  exact ⟨bytes,decoded⟩

theorem peekClaims_segment (crates : Crates) (token : String) (h p s : List Char) (claims : Claims)
    (compact : CompactJws token h p s) (payload : peekClaims crates token = some claims) :
    ∃ bytes, b64urlDecode p = some bytes := by
  obtain ⟨first,second,third,bytes,again,decoded,_⟩ := (peekClaims_some crates token claims).mp payload
  have split := (splitCompact_ok token h p s).mpr compact
  rw [(splitCompact_ok token first second third).mpr again] at split
  cases split
  exact ⟨bytes,decoded⟩

theorem es512_candidate (build : Build) (crates : Crates) (token : String) (keys : List Jwk)
    (expectedTyp : Option String) (claims : Claims) (named : HeaderAlgIs crates token "ES512")
    (ok : verifySignature build crates token keys expectedTyp = .ok claims) :
    ∃ jwk ∈ keys, Es512Candidate crates token jwk := by
  obtain ⟨header,peeked,alg⟩ := named
  obtain ⟨other,again,_,_,_,jwk,member,isPublic,verifies⟩ :=
    verifySignature_accepts build crates token keys expectedTyp claims ok
  cases peeked.symm.trans again
  refine ⟨jwk,member,?_⟩
  cases verifies with
  | jsonwebtoken a key primary built decoded =>
    rw [alg] at primary
    cases a <;> simp [Algorithm.name] at primary
  | p521 signingInput key signature feature es512 built parts verified =>
    obtain ⟨kty,crv,x,y,xBytes,yBytes,hx,hy,dx,dy,lx,ly,point⟩ := built
    obtain ⟨h,p,s,sigBytes,split,input,decoded,width,read,payload⟩ := parts
    have compact := (splitCompact_ok token h p s).mp split
    have ascii : ∀ c ∈ h ++ '.' :: p, c.toNat < 128 := by
      obtain ⟨headerBytes,headerText⟩ := peekHeader_segment crates token h p s header compact peeked
      obtain ⟨payloadBytes,payloadText⟩ := peekClaims_segment crates token h p s claims compact payload
      intro c inside
      obtain first | dot | second : c ∈ h ∨ c = '.' ∨ c ∈ p := by simpa using inside
      · exact Base64Url.decode_ascii h headerBytes headerText c first
      · rw [dot]
        decide
      · exact Base64Url.decode_ascii p payloadBytes payloadText c second
    rw [input] at verified
    exact {
      isPublic := isPublic
      kty := kty
      crv := crv
      verified := ⟨x,y,xBytes,yBytes,key,h,p,s,sigBytes,signature,hx,hy,dx,dy,lx,ly,point,compact,ascii,decoded,width,
        read,verified⟩ }

/-- The feature extends the verifier conservatively: requests without ES512 are answered as before; ES512
authenticates nobody where the feature is off; and where it is on, ES512 takes a P-521 key and signature. -/
theorem es512_conservative (env : Env S) (config : VerifierConfig) (req : AuthRequest) (checks : Bool) :
    ((∀ parsed, parseAuthorization env.crates req.authorization = some parsed →
        ¬HeaderAlgIs env.crates parsed.token "ES512") →
      (∀ proof, req.dpop = some proof → ¬HeaderAlgIs env.crates proof "ES512") →
      verify {env with build := ⟨true,checks⟩} config req = verify {env with build := ⟨false,checks⟩} config req) ∧
    (∀ world token, (verify {env with build := ⟨false,checks⟩} config req world).1 = .ok token → token.webId ≠ none →
      ∃ (parsed : Parsed) (authenticated : Authenticated), parseAuthorization env.crates req.authorization = some parsed ∧
        token = authenticated.credentials ∧ ¬HeaderAlgIs env.crates parsed.token "ES512" ∧
        (mustDpop config (parsed.scheme == "dpop") authenticated.claims →
          ∃ proof, req.dpop = some proof ∧ ¬HeaderAlgIs env.crates proof "ES512")) ∧
    ∀ token keys expectedTyp claims, HeaderAlgIs env.crates token "ES512" →
      verifySignature ⟨true,checks⟩ env.crates token keys expectedTyp = .ok claims →
      ∃ jwk ∈ keys, Es512Candidate env.crates token jwk := by
  refine ⟨?_,?_,?_⟩
  · intro tokens proofs
    exact verify_feature env checks config req tokens proofs
  · intro world token ok named
    exact verify_without {env with build := ⟨false,checks⟩} config req world token rfl ok named
  · intro token keys expectedTyp claims named ok
    exact es512_candidate ⟨true,checks⟩ env.crates token keys expectedTyp claims named ok

theorem headerAlgIs_other (crates : Crates) (token alg : String) (header : Header)
    (peeked : peekHeader crates token = .ok header) (differs : header.alg ≠ alg) : ¬HeaderAlgIs crates token alg := by
  intro named
  obtain ⟨other,again,same⟩ := named
  cases peeked.symm.trans again
  exact differs same

theorem boundToken_other : ¬HeaderAlgIs sampleCrates boundToken "ES512" :=
  headerAlgIs_other _ _ _ _ (sampleToken_header accessHeader boundPayload _ _ _ (List.mem_of_getElem? (i := 0) rfl)
    (List.mem_of_getElem? (i := 2) rfl) (List.cons_ne_nil _ _) "EdDSA" none rfl rfl) (by decide)

theorem sampleProof_other : ¬HeaderAlgIs sampleCrates sampleProof "ES512" :=
  headerAlgIs_other _ _ _ _ (sampleToken_header proofHeader proofPayload _ _ _ (List.mem_of_getElem? (i := 1) rfl)
    (List.mem_of_getElem? (i := 5) rfl) (List.cons_ne_nil _ _) "EdDSA" (some sampleClientJwk) rfl rfl) (by decide)

def es512Header : String := "\x7b\"alg\":\"ES512\",\"typ\":\"at+jwt\"\x7d"

def es512X : List UInt8 :=
  [1,39,55,50,241,239,182,209,156,209,128,51,41,210,5,242,104,29,13,216,114,201,34,10,242,44,182,
    214,4,254,148,100,14,254,232,124,128,114,243,203,160,10,21,17,74,220,240,255,53,167,126,155,180,
    147,66,204,159,26,57,83,16,231,48,125,254,79]

def es512Y : List UInt8 :=
  [1,74,67,126,230,131,140,201,6,214,146,39,169,169,115,11,191,137,94,22,250,249,122,223,192,2,100,
    225,97,187,138,86,159,138,85,189,15,98,50,193,138,242,67,247,167,128,89,245,127,104,209,68,141,
    106,136,152,78,165,218,204,6,64,131,215,101,251]

def es512Signature : List UInt8 :=
  [1,106,252,180,121,136,0,213,43,193,83,149,101,97,92,147,132,102,106,174,166,136,0,135,174,103,
    148,154,250,34,114,146,76,177,30,130,123,24,88,219,49,181,38,24,29,14,38,138,42,45,28,111,83,
    240,239,98,65,13,211,135,194,158,230,170,18,86,0,35,27,148,255,79,202,211,90,238,189,229,118,24,
    175,13,100,78,53,143,40,241,216,7,131,122,120,44,12,148,148,151,172,8,201,143,94,167,207,56,51,
    57,201,93,56,43,106,71,44,117,234,230,55,228,78,143,10,50,164,42,116,13,232,176,69,186]

def es512Token : String := sampleToken es512Header bearerPayload es512Signature

def es512Input : List Char :=
  Base64Url.encode (Text.asBytes es512Header) ++ '.' :: Base64Url.encode (Text.asBytes bearerPayload)

def es512Jwk : Jwk :=
  ⟨"EC",some "P-521",some (String.ofList (Base64Url.encode es512X)),some (String.ofList (Base64Url.encode es512Y)),none,
    none,none,none,none,none,none,none,none,none,none⟩

def es512Parse (bytes : List UInt8) : Option Json :=
  if bytes = Text.asBytes es512Header then some (.object [("alg",.string "ES512"),("typ",.string "at+jwt")])
  else sampleParse bytes

def es512Point (bytes : List UInt8) : Option (List UInt8) :=
  if bytes = 4 :: (es512X ++ es512Y) then some bytes else none

def es512Pair (bytes : List UInt8) : Option (List UInt8) := if bytes = es512Signature then some bytes else none

def es512Verify (key message signature : List UInt8) : Bool :=
  key = 4 :: (es512X ++ es512Y) ∧ message = Text.asBytes (String.ofList es512Input) ∧ signature = es512Signature

/-- The curve at the point of the key and at its signature of the token. -/
def es512Crates : Crates :=
  {sampleParser with fromSlice := es512Parse,p521 := ⟨List UInt8,List UInt8,es512Point,es512Pair,es512Verify⟩}

theorem es512Point_own : es512Point (4 :: (es512X ++ es512Y)) = some (4 :: (es512X ++ es512Y)) := if_pos rfl

theorem es512Pair_own : es512Pair es512Signature = some es512Signature := if_pos rfl

theorem es512Verify_own : es512Verify (4 :: (es512X ++ es512Y)) (Text.asBytes (String.ofList es512Input))
    es512Signature = true := by
  unfold es512Verify
  exact decide_eq_true ⟨rfl,rfl,rfl⟩

theorem es512Crates_payload : PayloadLaw es512Crates := by
  intro token key alg claims decoded
  exact key.elim

theorem es512Token_compact : CompactJws es512Token (Base64Url.encode (Text.asBytes es512Header))
    (Base64Url.encode (Text.asBytes bearerPayload)) (Base64Url.encode es512Signature) := by
  apply encodedJws_compact
  · intro empty
    exact absurd (asBytes_injective es512Header "" empty) (by decide +kernel)
  · intro empty
    exact absurd (asBytes_injective bearerPayload "" empty) (by decide +kernel)
  · exact List.cons_ne_nil _ _

theorem es512Token_claims : peekClaims es512Crates es512Token = some (sampleClaims []) := by
  apply (peekClaims_some _ _ _).mpr
  refine ⟨_,_,_,Text.asBytes bearerPayload,es512Token_compact,Base64Url.decode_encode _,?_⟩
  have other : Text.asBytes bearerPayload ≠ Text.asBytes es512Header := by
    intro same
    exact absurd (asBytes_injective _ _ same) (by decide +kernel)
  change es512Parse (Text.asBytes bearerPayload) = _
  rw [es512Parse,if_neg other]
  exact sampleParse_document bearerPayload _ (List.mem_of_getElem? (i := 3) rfl)

theorem es512Token_header : peekHeader es512Crates es512Token = .ok ⟨"ES512",some "at+jwt",none⟩ := by
  have read : es512Crates.fromSlice (Text.asBytes es512Header) =
      some (.object [("alg",.string "ES512"),("typ",.string "at+jwt")]) := by
    change es512Parse (Text.asBytes es512Header) = _
    rw [es512Parse,if_pos rfl]
  unfold peekHeader
  rw [(splitCompact_ok _ _ _ _).mpr es512Token_compact]
  simp only [Except.bind_ok,Except.orError_ok]
  exact ⟨_,rfl,Text.asBytes es512Header,Base64Url.decode_encode _,_,read,"ES512",rfl,none,rfl,rfl⟩

theorem es512Jwk_builds : BuildsP521Key es512Crates es512Jwk (4 :: (es512X ++ es512Y)) := by
  have first : b64urlDecode (String.ofList (Base64Url.encode es512X)).toList = some es512X := by
    rw [String.toList_ofList]
    exact Base64Url.decode_encode es512X
  have second : b64urlDecode (String.ofList (Base64Url.encode es512Y)).toList = some es512Y := by
    rw [String.toList_ofList]
    exact Base64Url.decode_encode es512Y
  exact ⟨by decide,rfl,_,_,es512X,es512Y,rfl,rfl,first,second,by decide,by decide,es512Point_own⟩

theorem es512Token_verified :
    VerifiedJws ⟨true,false⟩ es512Crates es512Token [es512Jwk] "at+jwt" (sampleClaims []) := by
  have isPublic : PublicKey es512Jwk := by
    unfold PublicKey
    decide
  have parts : Es512Parts es512Crates es512Token es512Input es512Signature (sampleClaims []) :=
    ⟨_,_,_,es512Signature,(splitCompact_ok _ _ _ _).mpr es512Token_compact,rfl,Base64Url.decode_encode _,
      by decide +kernel,es512Pair_own,es512Token_claims⟩
  have verified : es512Crates.p521.verify (4 :: (es512X ++ es512Y)) (Text.asBytes (String.ofList es512Input))
      es512Signature = true := by
    have curve : es512Crates.p521.verify = es512Verify := rfl
    rw [curve]
    exact es512Verify_own
  exact ⟨_,es512Token_header,by decide,by decide,by decide,es512Jwk,List.mem_singleton_self _,isPublic,
    .p521 es512Input _ es512Signature rfl rfl es512Jwk_builds parts verified⟩

/-- A request without ES512 in both builds, and an ES512 token that the feature accepts. -/
theorem es512_conservative_sample :
    verify {sampleEnv with build := ⟨true,false⟩} sampleConfig sampleRequest =
        verify {sampleEnv with build := ⟨false,false⟩} sampleConfig sampleRequest ∧
      (∃ parsed : Parsed, parseAuthorization sampleCrates sampleRequest.authorization = some parsed ∧
        ¬HeaderAlgIs sampleCrates parsed.token "ES512") ∧
      HeaderAlgIs es512Crates es512Token "ES512" ∧
      verifySignature ⟨true,false⟩ es512Crates es512Token [es512Jwk] (some "at+jwt") = .ok (sampleClaims []) ∧
      ∃ jwk ∈ [es512Jwk], Es512Candidate es512Crates es512Token jwk := by
  obtain ⟨same,without,_⟩ := es512_conservative sampleEnv sampleConfig sampleRequest false
  obtain ⟨_,_,candidate⟩ := es512_conservative {sampleEnv with crates := es512Crates} sampleConfig sampleRequest false
  have named : HeaderAlgIs es512Crates es512Token "ES512" := ⟨_,es512Token_header,rfl⟩
  have accepted := (verifySignature_ok ⟨true,false⟩ es512Crates es512Crates_payload es512Token [es512Jwk] "at+jwt"
    (sampleClaims [])).mpr es512Token_verified
  refine ⟨same ?_ ?_,?_,named,accepted,candidate es512Token [es512Jwk] _ _ named accepted⟩
  · intro parsed presented
    rw [(parseAuthorization_some _ _ _ _).mpr sampleRequest_presents] at presented
    rw [← Option.some.inj presented]
    exact boundToken_other
  · intro proof carried
    have own : sampleProof = proof := Option.some.inj carried
    rw [← own]
    exact sampleProof_other
  · obtain ⟨parsed,_,presented,_,other,_⟩ := without ⟨[],[]⟩ _ sampleRequest_verified (Option.some_ne_none _)
    exact ⟨parsed,presented,other⟩

end SolidOidcVerifier
