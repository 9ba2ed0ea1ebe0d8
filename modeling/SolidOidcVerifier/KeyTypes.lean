import SolidOidcVerifier.CandidateKeys

/-! Which declared types the key has that `verify_signature` accepts a token with. The builder for
`jsonwebtoken` keys does not read `crv`, and the builder for P-521 keys does not mind the case of `kty`. -/
namespace SolidOidcVerifier
open Foundation

structure DeclaresFor (alg : String) (jwk : Jwk) : Prop where
  es256 : alg = "ES256" → jwk.kty = "EC" ∧ jwk.crv = some "P-256"
  es384 : alg = "ES384" → jwk.kty = "EC" ∧ jwk.crv = some "P-384"
  es512 : alg = "ES512" → jwk.kty = "EC" ∧ jwk.crv = some "P-521"
  rsa : alg ∈ ["PS256","PS384","PS512","RS256","RS384","RS512"] → jwk.kty = "RSA"
  okp : alg = "EdDSA" → jwk.kty = "OKP"

/-- The part of the declaration that no builder checks. -/
structure DeclaresUnread (alg : String) (jwk : Jwk) : Prop where
  es256 : alg = "ES256" → jwk.crv = some "P-256"
  es384 : alg = "ES384" → jwk.crv = some "P-384"
  es512 : alg = "ES512" → jwk.kty = "EC"

def Verifies (build : Build) (crates : Crates) (token alg : String) (jwk : Jwk) : Prop :=
  PublicKey jwk ∧ ∃ claims, KeyVerifies build crates token alg jwk claims

/-- The candidate that the loop accepts the token with: alone it is enough, and all before it are not. -/
def AcceptsWith (build : Build) (crates : Crates) (token : String) (keys : List Jwk) (expectedTyp : Option String)
    (jwk : Jwk) : Prop :=
  ∃ before after, keys = before ++ jwk :: after ∧
    (∀ claims, verifySignature build crates token before expectedTyp ≠ .ok claims) ∧
    ∃ claims, verifySignature build crates token [jwk] expectedTyp = .ok claims

theorem KeyVerifies.acceptable (build : Build) (crates : Crates) (token alg : String) (jwk : Jwk) (claims : Claims)
    (verifies : KeyVerifies build crates token alg jwk claims) : algInPolicy alg ∧ algIsVerifiable build alg := by
  apply (acceptable_cases build alg).mpr
  cases verifies with
  | jsonwebtoken a key named built decoded => exact Or.inl ⟨a,named⟩
  | p521 signingInput key signature feature named built parts verified => exact Or.inr ⟨feature,named⟩

theorem verifySignature_verifies (build : Build) (crates : Crates) (token : String) (keys : List Jwk)
    (expectedTyp : Option String) (header : Header) (peeked : peekHeader crates token = .ok header) :
    (∃ claims, verifySignature build crates token keys expectedTyp = .ok claims) ↔
      TypFits header expectedTyp ∧ ∃ jwk ∈ keys, Verifies build crates token header.alg jwk := by
  constructor
  · intro accepts
    obtain ⟨claims,ok⟩ := accepts
    obtain ⟨other,again,_,_,typed,jwk,member,isPublic,verifies⟩ :=
      verifySignature_accepts build crates token keys expectedTyp claims ok
    cases peeked.symm.trans again
    exact ⟨typed,jwk,member,isPublic,claims,verifies⟩
  · intro accepts
    obtain ⟨typed,jwk,member,isPublic,claims,verifies⟩ := accepts
    obtain ⟨policy,verifiable⟩ := verifies.acceptable
    have accepted : AcceptedJws build crates token keys expectedTyp claims :=
      ⟨header,peeked,policy,verifiable,typed,jwk,member,isPublic,verifies⟩
    exact verifySignature_some build crates token keys expectedTyp claims accepted

theorem acceptsWith_iff (build : Build) (crates : Crates) (token : String) (keys : List Jwk)
    (expectedTyp : Option String) (jwk : Jwk) (header : Header) (peeked : peekHeader crates token = .ok header) :
    AcceptsWith build crates token keys expectedTyp jwk ↔ TypFits header expectedTyp ∧
      ∃ before after, keys = before ++ jwk :: after ∧
        (∀ other ∈ before, ¬Verifies build crates token header.alg other) ∧
        Verifies build crates token header.alg jwk := by
  have exact_keys := fun list => verifySignature_verifies build crates token list expectedTyp header peeked
  constructor
  · intro accepts
    obtain ⟨before,after,split,earlier,alone⟩ := accepts
    obtain ⟨typed,only,member,verifies⟩ := (exact_keys [jwk]).mp alone
    cases List.mem_singleton.mp member
    refine ⟨typed,before,after,split,?_,verifies⟩
    intro other inside also
    obtain ⟨claims,ok⟩ := (exact_keys before).mpr ⟨typed,other,inside,also⟩
    exact earlier claims ok
  · intro accepts
    obtain ⟨typed,before,after,split,earlier,verifies⟩ := accepts
    refine ⟨before,after,split,?_,?_⟩
    · intro claims ok
      obtain ⟨_,other,inside,also⟩ := (exact_keys before).mp ⟨claims,ok⟩
      exact earlier other inside also
    · exact (exact_keys [jwk]).mpr ⟨typed,jwk,List.mem_singleton_self jwk,verifies⟩

theorem first_such {α : Type} (such : α → Prop) (list : List α) (found : ∃ member ∈ list, such member) :
    ∃ first before after, list = before ++ first :: after ∧ (∀ other ∈ before, ¬such other) ∧ such first := by
  classical
  cases search : list.find? fun member => decide (such member) with
  | none =>
    obtain ⟨member,inside,holds⟩ := found
    have none_such := List.find?_eq_none.mp search member inside
    exact absurd (decide_eq_true holds) none_such
  | some first =>
    obtain ⟨holds,before,after,split,earlier⟩ := List.find?_eq_some_iff_append.mp search
    refine ⟨first,before,after,split,?_,of_decide_eq_true holds⟩
    intro other inside also
    have skipped := earlier other inside
    rw [decide_eq_true also] at skipped
    cases skipped

/-- Every token that is accepted is accepted with a key. -/
theorem accepted_with_key (build : Build) (crates : Crates) (token : String) (keys : List Jwk)
    (expectedTyp : Option String) :
    (∃ claims, verifySignature build crates token keys expectedTyp = .ok claims) ↔
      ∃ jwk, AcceptsWith build crates token keys expectedTyp jwk := by
  cases peeked : peekHeader crates token with
  | error error =>
    have refused : ∀ list claims, verifySignature build crates token list expectedTyp ≠ .ok claims := by
      intro list claims ok
      unfold verifySignature at ok
      rw [peeked] at ok
      cases ok
    constructor
    · intro accepts
      obtain ⟨claims,ok⟩ := accepts
      exact absurd ok (refused keys claims)
    · intro accepts
      obtain ⟨jwk,_,_,_,_,claims,ok⟩ := accepts
      exact absurd ok (refused [jwk] claims)
  | ok header =>
    rw [verifySignature_verifies build crates token keys expectedTyp header peeked]
    simp only [acceptsWith_iff build crates token keys expectedTyp _ header peeked]
    constructor
    · intro accepts
      obtain ⟨typed,found⟩ := accepts
      obtain ⟨jwk,first⟩ := first_such _ keys found
      exact ⟨jwk,typed,first⟩
    · intro accepts
      obtain ⟨jwk,typed,before,after,split,_,verifies⟩ := accepts
      refine ⟨typed,jwk,?_,verifies⟩
      rw [split]
      exact List.mem_append_right before (List.mem_cons_self)

theorem Verifies.declares (build : Build) (crates : Crates) (families : FamilyLaw crates) (token alg : String)
    (jwk : Jwk) (verifies : Verifies build crates token alg jwk) (unread : DeclaresUnread alg jwk) :
    DeclaresFor alg jwk := by
  obtain ⟨_,claims,keyed⟩ := verifies
  cases keyed with
  | jsonwebtoken a key named built decoded =>
    have kty := families.kty crates jwk token a claims key built decoded
    rw [named] at unread ⊢
    refine ⟨?_,?_,?_,?_,?_⟩
    · intro is
      refine ⟨?_,unread.es256 is⟩
      rw [kty,Algorithm.name_injective a .es256 is,Algorithm.kty]
    · intro is
      refine ⟨?_,unread.es384 is⟩
      rw [kty,Algorithm.name_injective a .es384 is,Algorithm.kty]
    · intro is
      exact absurd is a.name_ne_es512
    · intro inside
      rw [kty]
      cases a <;> simp [Algorithm.name,Algorithm.kty] at inside ⊢
    · intro is
      rw [kty,Algorithm.name_injective a .edDsa is,Algorithm.kty]
  | p521 signingInput key signature feature named built parts verified =>
    obtain ⟨_,crv,_⟩ := built
    rw [named] at unread ⊢
    refine ⟨by simp,by simp,fun _ => ⟨unread.es512 rfl,crv⟩,by simp,by simp⟩

theorem DeclaresFor.unread (alg : String) (jwk : Jwk) (declares : DeclaresFor alg jwk) : DeclaresUnread alg jwk :=
  ⟨fun is => (declares.es256 is).2,fun is => (declares.es384 is).2,fun is => (declares.es512 is).1⟩

/-- The key that a token is accepted with is declared for the token's `alg` where the first candidate that
verifies names the curve of ES256 and ES384 and writes the key type of ES512 in capitals, and only there. -/
theorem declared_type_iff (build : Build) (crates : Crates) (families : FamilyLaw crates) (token : String)
    (keys : List Jwk) (expectedTyp : Option String) :
    (∀ header jwk, peekHeader crates token = .ok header → AcceptsWith build crates token keys expectedTyp jwk →
      DeclaresFor header.alg jwk) ↔
    ∀ header before jwk after, peekHeader crates token = .ok header → TypFits header expectedTyp →
      keys = before ++ jwk :: after → (∀ other ∈ before, ¬Verifies build crates token header.alg other) →
      Verifies build crates token header.alg jwk → DeclaresUnread header.alg jwk := by
  constructor
  · intro fits header before jwk after peeked typed split earlier verifies
    have accepts := (acceptsWith_iff build crates token keys expectedTyp jwk header peeked).mpr
      ⟨typed,before,after,split,earlier,verifies⟩
    exact (fits header jwk peeked accepts).unread
  · intro named header jwk peeked accepts
    obtain ⟨typed,before,after,split,earlier,verifies⟩ :=
      (acceptsWith_iff build crates token keys expectedTyp jwk header peeked).mp accepts
    exact verifies.declares build crates families token header.alg jwk
      (named header before jwk after peeked typed split earlier verifies)

def curveHeader : String := "\x7b\"alg\":\"ES256\",\"typ\":\"at+jwt\"\x7d"

def curveSignature : List UInt8 :=
  [164,253,247,125,6,105,153,155,227,48,29,73,109,51,241,192,22,217,188,73,149,236,20,88,89,89,65,111,14,125,82,2,
    81,144,202,208,163,163,79,22,82,118,60,66,143,226,229,7,52,118,186,7,168,112,226,235,92,189,113,74,7,196,129,56]

def curveX : String := "bGsYJS8ljhwmQArkOxbyvT3v__GLL9TONwv8bc8Unwg"

def curveY : String := "qBCVqO31rl2_0SxLkWeF5vO93b70Ar_Nuj-eB5T2lgU"

def curveToken : String := sampleToken curveHeader boundPayload curveSignature

def curveHead : Claims := [("alg",.string "ES256"),("typ",.string "at+jwt")]

def curveParse (bytes : List UInt8) : Option Json :=
  if bytes = Text.asBytes curveHeader then some (.object curveHead) else sampleParse bytes

/-- The signature is one of the P-256 key with the two coordinates. -/
def curveDecode (token : String) (key : String × String) (alg : Algorithm) : Except String Claims :=
  if alg = .es256 ∧ token = curveToken ∧ key = (curveX,curveY) then
    orError (peekClaims {sampleParser with fromSlice := curveParse} token) "InvalidToken"
  else .error "InvalidSignature"

def curveCrates : Crates where
  __ := sampleParser
  fromSlice := curveParse
  jsonwebtoken := {
    DecodingKey := String × String
    fromEcComponents x y := .ok (x,y)
    fromRsaComponents _ _ := .error "InvalidRsaKey"
    fromEdComponents _ := .error "InvalidEddsaKey"
    decode := curveDecode }

theorem curveCrates_decode (token : String) (key : String × String) (alg : Algorithm) :
    curveCrates.jsonwebtoken.decode token key alg = curveDecode token key alg := rfl

theorem curveCrates_fromSlice (bytes : List UInt8) : curveCrates.fromSlice bytes = curveParse bytes := rfl

theorem curveCrates_family : FamilyLaw curveCrates := by
  refine ⟨?_,?_,?_⟩
  · intro x y key token a claims built decoded
    change curveDecode token key a = .ok claims at decoded
    unfold curveDecode at decoded
    split at decoded
    case isTrue signed => rw [signed.1,Algorithm.kty]
    case isFalse => cases decoded
  · intro n e key token a claims built
    cases built
  · intro x key token a claims built
    cases built

theorem curveToken_compact : CompactJws curveToken (Base64Url.encode (Text.asBytes curveHeader))
    (Base64Url.encode (Text.asBytes boundPayload)) (Base64Url.encode curveSignature) := by
  apply encodedJws_compact
  · intro empty
    exact absurd (asBytes_injective curveHeader "" empty) (by decide +kernel)
  · exact sampleDocuments_filled boundPayload _ (List.mem_of_getElem? (i := 2) rfl)
  · exact List.cons_ne_nil _ _

theorem curveToken_header : peekHeader curveCrates curveToken = .ok ⟨"ES256",some "at+jwt",none⟩ := by
  have parsed : curveParse (Text.asBytes curveHeader) = some (.object curveHead) := if_pos rfl
  unfold peekHeader
  rw [(splitCompact_ok _ _ _ _).mpr curveToken_compact]
  simp only [Except.bind_ok,Except.orError_ok]
  exact ⟨_,rfl,_,Base64Url.decode_encode _,_,parsed,"ES256",rfl,none,rfl,rfl⟩

theorem curveToken_claims : peekClaims curveCrates curveToken = some boundClaims := by
  have other : Text.asBytes boundPayload ≠ Text.asBytes curveHeader := by
    intro same
    exact absurd (asBytes_injective _ _ same) (by decide +kernel)
  have parsed : sampleParse (Text.asBytes boundPayload) = some (.object boundClaims) :=
    sampleParse_document boundPayload boundClaims (List.mem_of_getElem? (i := 2) rfl)
  have read : curveCrates.fromSlice (Text.asBytes boundPayload) = some (.object boundClaims) := by
    rw [curveCrates_fromSlice,curveParse,if_neg other]
    exact parsed
  have decoded := Base64Url.decode_encode (Text.asBytes boundPayload)
  exact (peekClaims_some _ _ _).mpr ⟨_,_,_,Text.asBytes boundPayload,curveToken_compact,decoded,read⟩

/-- The P-256 key that signed the token, under whatever curve it is declared with. -/
def curveJwk (crv : Option String) : Jwk :=
  ⟨"EC",crv,some curveX,some curveY,none,none,none,none,none,none,none,none,none,none,none⟩

theorem curveJwk_verifies (crv : Option String) :
    Verifies ⟨false,false⟩ curveCrates curveToken "ES256" (curveJwk crv) := by
  have built : BuildsKey curveCrates (curveJwk crv) (curveX,curveY) := Or.inl ⟨rfl,curveX,curveY,rfl,rfl,rfl⟩
  have decoded : curveCrates.jsonwebtoken.decode curveToken (curveX,curveY) .es256 = .ok boundClaims := by
    rw [curveCrates_decode,curveDecode,if_pos ⟨rfl,rfl,rfl⟩]
    exact (Except.orError_ok _ _ _).mpr curveToken_claims
  have isPublic : PublicKey (curveJwk crv) := by
    refine ⟨?_,Bool.false_ne_true⟩
    change ¬Text.eqIgnoreAsciiCase "EC".toList "oct".toList = true
    decide
  exact ⟨isPublic,boundClaims,.jsonwebtoken .es256 _ rfl built decoded⟩

theorem curveJwk_accepted (crv : Option String) :
    AcceptsWith ⟨false,false⟩ curveCrates curveToken [curveJwk crv] (some "at+jwt") (curveJwk crv) := by
  apply (acceptsWith_iff _ _ _ _ _ _ _ curveToken_header).mpr
  have typed : TypFits ⟨"ES256",some "at+jwt",none⟩ (some "at+jwt") := by
    intro want same
    cases same
    decide
  exact ⟨typed,[],[],rfl,by simp,curveJwk_verifies crv⟩

/-- A key declared for P-384, and one with no curve, are accepted for an ES256 token. -/
theorem declared_curve_unread :
    AcceptsWith ⟨false,false⟩ curveCrates curveToken [curveJwk (some "P-384")] (some "at+jwt") (curveJwk (some "P-384")) ∧
    AcceptsWith ⟨false,false⟩ curveCrates curveToken [curveJwk none] (some "at+jwt") (curveJwk none) ∧
    peekHeader curveCrates curveToken = .ok ⟨"ES256",some "at+jwt",none⟩ ∧
    ¬DeclaresFor "ES256" (curveJwk (some "P-384")) ∧ ¬DeclaresFor "ES256" (curveJwk none) := by
  refine ⟨curveJwk_accepted _,curveJwk_accepted _,curveToken_header,?_,?_⟩
  · intro declares
    exact absurd (declares.es256 rfl).2 (by decide)
  · intro declares
    exact absurd (declares.es256 rfl).2 (by decide)

theorem declared_type_sample :
    AcceptsWith ⟨false,false⟩ curveCrates curveToken [curveJwk (some "P-256")] (some "at+jwt") (curveJwk (some "P-256")) ∧
    DeclaresFor "ES256" (curveJwk (some "P-256")) := by
  have fits := (declared_type_iff ⟨false,false⟩ curveCrates curveCrates_family curveToken [curveJwk (some "P-256")]
    (some "at+jwt")).mpr
  refine ⟨curveJwk_accepted _,fits ?_ _ _ curveToken_header (curveJwk_accepted _)⟩
  intro header before jwk after peeked _ split _ _
  cases curveToken_header.symm.trans peeked
  have member : jwk ∈ [curveJwk (some "P-256")] := by
    rw [split]
    exact List.mem_append_right before (List.mem_cons_self)
  rw [List.mem_singleton.mp member]
  exact ⟨fun _ => rfl,by simp,by simp⟩

end SolidOidcVerifier
