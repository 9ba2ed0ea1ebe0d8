import SolidOidcVerifier.Acceptance

/-! The candidate keys of `verify_signature`: acceptance depends on the list only through the keys in it
that fit the algorithm. -/
namespace SolidOidcVerifier
open Foundation

def Algorithm.kty : Algorithm → String
  | .es256 | .es384 => "EC"
  | .ps256 | .ps384 | .ps512 | .rs256 | .rs384 | .rs512 => "RSA"
  | .edDsa => "OKP"

/-- `jsonwebtoken::decode` refuses a key of another family than the algorithm's. -/
structure FamilyLaw (crates : Crates) : Prop where
  ec : ∀ x y key token a claims, crates.jsonwebtoken.fromEcComponents x y = .ok key →
    crates.jsonwebtoken.decode token key a = .ok claims → a.kty = "EC"
  rsa : ∀ n e key token a claims, crates.jsonwebtoken.fromRsaComponents n e = .ok key →
    crates.jsonwebtoken.decode token key a = .ok claims → a.kty = "RSA"
  okp : ∀ x key token a claims, crates.jsonwebtoken.fromEdComponents x = .ok key →
    crates.jsonwebtoken.decode token key a = .ok claims → a.kty = "OKP"

/-- The key is usable on the backend of the algorithm and verifies the signature there. -/
inductive SignatureChecks (build : Build) (crates : Crates) (token alg : String) (jwk : Jwk) : Prop
  | jsonwebtoken (a : Algorithm) (key : crates.jsonwebtoken.DecodingKey) (named : alg = a.name)
      (built : BuildsKey crates jwk key) (verified : ∃ claims, crates.jsonwebtoken.decode token key a = .ok claims)
  | p521 (h p s : List Char) (sigBytes : List UInt8) (key : crates.p521.VerifyingKey)
      (signature : crates.p521.Signature) (feature : build.es512) (named : alg = "ES512")
      (built : BuildsP521Key crates jwk key) (split : splitCompact token = .ok (h,p,s))
      (decoded : b64urlDecode s = some sigBytes) (width : sigBytes.length = 2*p521CoordLen)
      (read : crates.p521.signatureFromSlice sigBytes = some signature)
      (verified : crates.p521.verify key (Text.asBytes (String.ofList (h ++ '.' :: p))) signature)

/-- A key that cannot verify under the algorithm: symmetric, with private members, without a key to build
from it, or of another type. -/
inductive Unfit (crates : Crates) (alg : String) (jwk : Jwk) : Prop
  | symmetric (is : jwk.isSymmetric)
  | privateBearing (bears : jwk.hasPrivateMaterial)
  | malformed (a : Algorithm) (named : alg = a.name) (unbuilt : ∀ key, ¬BuildsKey crates jwk key)
  | malformedP521 (named : alg = "ES512") (unbuilt : ∀ key, ¬BuildsP521Key crates jwk key)
  | wrongType (a : Algorithm) (named : alg = a.name) (other : jwk.kty ≠ a.kty)
  | wrongTypeP521 (named : alg = "ES512")
      (other : ¬Text.eqIgnoreAsciiCase jwk.kty.toList "EC".toList ∨ jwk.crv ≠ some "P-521")

/-- All of an answer but the text of its error. -/
def outcome (answer : Except VerifyError Claims) : Except (ErrorKind × Bool) Claims :=
  answer.mapError fun error => (error.kind,error.dpop)

theorem Algorithm.name_injective (a b : Algorithm) (same : a.name = b.name) : a = b := by
  cases a <;> cases b <;> first | rfl | simp [Algorithm.name] at same

theorem Algorithm.name_ne_es512 (a : Algorithm) : a.name ≠ "ES512" := by
  cases a <;> simp [Algorithm.name]

theorem FamilyLaw.kty (crates : Crates) (law : FamilyLaw crates) (jwk : Jwk) (token : String) (a : Algorithm)
    (claims : Claims) (key : crates.jsonwebtoken.DecodingKey) (built : BuildsKey crates jwk key)
    (decoded : crates.jsonwebtoken.decode token key a = .ok claims) : jwk.kty = a.kty := by
  obtain ⟨kty,x,y,_,_,from_ec⟩ | ⟨kty,n,e,_,_,from_rsa⟩ | ⟨kty,x,_,from_ed⟩ := built
  · rw [kty,law.ec x y key token a claims from_ec decoded]
  · rw [kty,law.rsa n e key token a claims from_rsa decoded]
  · rw [kty,law.okp x key token a claims from_ed decoded]

theorem KeyVerifies.checks (build : Build) (crates : Crates) (token alg : String) (jwk : Jwk) (claims : Claims)
    (verifies : KeyVerifies build crates token alg jwk claims) : SignatureChecks build crates token alg jwk := by
  cases verifies with
  | jsonwebtoken a key named built decoded => exact .jsonwebtoken a key named built ⟨claims,decoded⟩
  | p521 signingInput key signature feature named built parts verified =>
    obtain ⟨h,p,s,sigBytes,split,input,decoded,width,read,_⟩ := parts
    rw [input] at verified
    exact .p521 h p s sigBytes key signature feature named built split decoded width read verified

theorem SignatureChecks.verifies (build : Build) (crates : Crates) (token alg : String) (jwk : Jwk)
    (signed : SignatureChecks build crates token "ES512" jwk → ∃ claims, peekClaims crates token = some claims)
    (checks : SignatureChecks build crates token alg jwk) : ∃ claims, KeyVerifies build crates token alg jwk claims := by
  cases checks with
  | jsonwebtoken a key named built verified =>
    obtain ⟨claims,decoded⟩ := verified
    exact ⟨claims,.jsonwebtoken a key named built decoded⟩
  | p521 h p s sigBytes key signature feature named built split decoded width read verified =>
    obtain ⟨claims,payload⟩ := signed (.p521 h p s sigBytes key signature feature rfl built split decoded width read
      verified)
    have parts : Es512Parts crates token (h ++ '.' :: p) signature claims :=
      ⟨h,p,s,sigBytes,split,rfl,decoded,width,read,payload⟩
    exact ⟨claims,.p521 (h ++ '.' :: p) key signature feature named built parts verified⟩

theorem KeyVerifies.fit (build : Build) (crates : Crates) (law : FamilyLaw crates) (token alg : String) (jwk : Jwk)
    (claims : Claims) (isPublic : PublicKey jwk) (verifies : KeyVerifies build crates token alg jwk claims) :
    ¬Unfit crates alg jwk := by
  intro unfit
  cases verifies with
  | jsonwebtoken a key named built decoded =>
    cases unfit with
    | symmetric is => exact isPublic.1 is
    | privateBearing bears => exact isPublic.2 bears
    | malformed _ _ unbuilt => exact unbuilt key built
    | wrongType b other differs =>
      rw [Algorithm.name_injective a b (named.symm.trans other)] at decoded
      exact differs (law.kty crates jwk token b claims key built decoded)
    | malformedP521 other _ => exact a.name_ne_es512 (named.symm.trans other)
    | wrongTypeP521 other _ => exact a.name_ne_es512 (named.symm.trans other)
  | p521 signingInput key signature feature named built parts verified =>
    cases unfit with
    | symmetric is => exact isPublic.1 is
    | privateBearing bears => exact isPublic.2 bears
    | malformed a other _ => exact a.name_ne_es512 (other.symm.trans named)
    | wrongType a other _ => exact a.name_ne_es512 (other.symm.trans named)
    | malformedP521 _ unbuilt => exact unbuilt key built
    | wrongTypeP521 _ differs =>
      obtain ⟨kty,crv,_⟩ := built
      obtain unlike | elsewhere := differs
      · exact unlike kty
      · exact elsewhere crv

theorem AcceptedJws.fit (build : Build) (crates : Crates) (law : FamilyLaw crates) (token : String)
    (keys others : List Jwk) (expectedTyp : Option String) (claims : Claims)
    (fitting : ∀ header, peekHeader crates token = .ok header → ∀ jwk, ¬Unfit crates header.alg jwk → jwk ∈ keys →
      jwk ∈ others)
    (accepted : AcceptedJws build crates token keys expectedTyp claims) :
    AcceptedJws build crates token others expectedTyp claims := by
  obtain ⟨header,peeked,policy,verifiable,typed,jwk,member,isPublic,verifies⟩ := accepted
  have fit := verifies.fit build crates law token header.alg jwk claims isPublic
  exact ⟨header,peeked,policy,verifiable,typed,jwk,fitting header peeked jwk fit member,isPublic,verifies⟩

/-- An `invalid_token` error that does not ask for DPoP by itself. -/
def Plain (error : VerifyError) : Prop := error.kind = .invalidToken ∧ error.dpop = false

theorem plain_invalidToken (message : String) : Plain (invalidToken message) := ⟨rfl,rfl⟩

theorem outcome_error (error : VerifyError) (plain : Plain error) :
    outcome (.error error) = .error (.invalidToken,false) := by
  change Except.error (error.kind,error.dpop) = _
  rw [plain.1,plain.2]

theorem mapAlgorithm_plain (build : Build) (alg : String) : Except.Rejects Plain (mapAlgorithm build alg) := by
  unfold mapAlgorithm
  apply Except.rejects_bind Plain _ _ (Except.rejects_ensure Plain _ _ (plain_invalidToken _))
  intro policy
  apply Except.rejects_bind Plain _ _ (Except.rejects_ensure Plain _ _ (plain_invalidToken _))
  intro primary
  apply Except.rejects_bind Plain _ _ (Except.rejects_ensure Plain _ _ (plain_invalidToken _))
  intro verifiable
  split
  case h_10 => exact Except.rejects_error Plain _ (plain_invalidToken _)
  all_goals exact Except.rejects_ok Plain _

theorem enforceTyp_plain (header : Header) (expectedTyp : Option String) :
    Except.Rejects Plain (enforceTyp header expectedTyp) := by
  cases expectedTyp with
  | none => exact Except.rejects_ok Plain _
  | some want => exact Except.rejects_ensure Plain _ _ (plain_invalidToken _)

theorem publicOnly_plain (jwk : Jwk) : Except.Rejects Plain (publicOnly jwk) := by
  unfold publicOnly
  apply Except.rejects_bind Plain _ _ (Except.rejects_ensure Plain _ _ (plain_invalidToken _))
  intro asymmetric
  exact Except.rejects_ensure Plain _ _ (plain_invalidToken _)

theorem decodingKeyFromJwk_plain (crates : Crates) (jwk : Jwk) :
    Except.Rejects Plain (decodingKeyFromJwk crates jwk) := by
  have member : ∀ {α : Type} (value : Option α) message, Except.Rejects Plain (orError value (invalidToken message)) :=
    fun value message => Except.rejects_orError Plain value _ (plain_invalidToken message)
  have built : ∀ {K : Type} kind (key : Except String K), Except.Rejects Plain (backendKey kind key) :=
    fun kind key => Except.rejects_mapError Plain key _ fun _ => plain_invalidToken _
  unfold decodingKeyFromJwk
  apply Except.rejects_bind Plain _ _ (publicOnly_plain jwk)
  intro isPublic
  split
  · apply Except.rejects_bind Plain _ _ (member _ _)
    intro x
    apply Except.rejects_bind Plain _ _ (member _ _)
    intro y
    exact built _ _
  · split
    · apply Except.rejects_bind Plain _ _ (member _ _)
      intro n
      apply Except.rejects_bind Plain _ _ (member _ _)
      intro e
      exact built _ _
    · split
      · apply Except.rejects_bind Plain _ _ (member _ _)
        intro x
        exact built _ _
      · exact Except.rejects_error Plain _ (plain_invalidToken _)

theorem p521VerifyingKeyFromJwk_plain (crates : Crates) (jwk : Jwk) :
    Except.Rejects Plain (p521VerifyingKeyFromJwk crates jwk) := by
  have member : ∀ {α : Type} (value : Option α) message, Except.Rejects Plain (orError value (invalidToken message)) :=
    fun value message => Except.rejects_orError Plain value _ (plain_invalidToken message)
  unfold p521VerifyingKeyFromJwk
  apply Except.rejects_bind Plain _ _ (publicOnly_plain jwk)
  intro isPublic
  apply Except.rejects_bind Plain _ _ (Except.rejects_ensure Plain _ _ (plain_invalidToken _))
  intro kty
  apply Except.rejects_bind Plain _ _ (Except.rejects_ensure Plain _ _ (plain_invalidToken _))
  intro crv
  apply Except.rejects_bind Plain _ _ (member _ _)
  intro x
  apply Except.rejects_bind Plain _ _ (member _ _)
  intro y
  apply Except.rejects_bind Plain _ _ (member _ _)
  intro xBytes
  apply Except.rejects_bind Plain _ _ (member _ _)
  intro yBytes
  apply Except.rejects_bind Plain _ _ (Except.rejects_ensure Plain _ _ (plain_invalidToken _))
  intro widths
  exact member _ _

/-- A loop that ends without a key that verifies answers an error of its last step. -/
theorem firstVerified_plain (verify : Jwk → Except VerifyError Claims) (plain : ∀ jwk, Except.Rejects Plain (verify jwk))
    (keys : List Jwk) : ∀ lastErr : Option VerifyError, (∀ error, lastErr = some error → Plain error) →
      Except.Rejects Plain (firstVerified verify keys lastErr) := by
  induction keys with
  | nil =>
    intro lastErr before
    cases lastErr with
    | none => exact Except.rejects_error Plain _ (plain_invalidToken _)
    | some error => exact Except.rejects_error Plain _ (before error rfl)
  | cons jwk rest ih =>
    intro lastErr before
    unfold firstVerified
    cases tried : verify jwk with
    | ok claims => exact Except.rejects_ok Plain _
    | error error =>
      apply ih (some error)
      intro other same
      cases same
      exact plain jwk error tried

theorem verifySignature_plain (build : Build) (crates : Crates) (token : String) (keys : List Jwk)
    (expectedTyp : Option String) : Except.Rejects Plain (verifySignature build crates token keys expectedTyp) := by
  have some_key : Except.Rejects Plain
      (ensure (keys ≠ []) (invalidToken "No verification key available for issuer.")) :=
    Except.rejects_ensure Plain _ _ (plain_invalidToken _)
  have member : ∀ {α : Type} (value : Option α) message, Except.Rejects Plain (orError value (invalidToken message)) :=
    fun value message => Except.rejects_orError Plain value _ (plain_invalidToken message)
  unfold verifySignature
  apply Except.rejects_bind Plain _ _ (peekHeader_rejects Plain plain_invalidToken crates token)
  intro header
  split
  · apply Except.rejects_bind Plain _ _ (enforceTyp_plain header expectedTyp)
    intro typed
    unfold verifyEs512OverCandidates
    apply Except.rejects_bind Plain _ _ some_key
    intro nonempty
    apply Except.rejects_bind Plain _ _ (splitCompact_rejects Plain plain_invalidToken token)
    intro parts
    apply Except.rejects_bind Plain _ _ (member _ _)
    intro sigBytes
    apply Except.rejects_bind Plain _ _ (Except.rejects_ensure Plain _ _ (plain_invalidToken _))
    intro width
    apply Except.rejects_bind Plain _ _ (member _ _)
    intro signature
    apply Except.rejects_bind Plain _ _ (member _ _)
    intro claims
    apply firstVerified_plain
    · intro jwk
      unfold verifyEs512With
      apply Except.rejects_bind Plain _ _ (p521VerifyingKeyFromJwk_plain crates jwk)
      intro key
      apply Except.rejects_bind Plain _ _ (Except.rejects_ensure Plain _ _ (plain_invalidToken _))
      intro verified
      exact Except.rejects_ok Plain _
    · intro error same
      cases same
  · apply Except.rejects_bind Plain _ _ (mapAlgorithm_plain build header.alg)
    intro a
    apply Except.rejects_bind Plain _ _ (enforceTyp_plain header expectedTyp)
    intro typed
    apply Except.rejects_bind Plain _ _ some_key
    intro nonempty
    apply firstVerified_plain
    · intro jwk
      unfold verifyWith
      apply Except.rejects_bind Plain _ _ (decodingKeyFromJwk_plain crates jwk)
      intro key
      exact Except.rejects_mapError Plain _ _ fun _ => plain_invalidToken _
    · intro error same
      cases same

/-- `verify_signature` accepts exactly where the header names an acceptable `alg` with the expected `typ`
and some public candidate checks under it, and the claims are the decoded payload; of the candidates only
those matter that fit the algorithm, wherever and however often they are in the list. -/
theorem verifySignature_outcome (build : Build) (crates : Crates) (law : PayloadLaw crates) (families : FamilyLaw crates)
    (token : String) (signed : ∀ jwk, SignatureChecks build crates token "ES512" jwk →
      ∃ claims, peekClaims crates token = some claims) (keys : List Jwk) (expectedTyp : Option String) :
    ((∃ claims, verifySignature build crates token keys expectedTyp = .ok claims) ↔
      ∃ header, peekHeader crates token = .ok header ∧ algInPolicy header.alg ∧ algIsVerifiable build header.alg ∧
        TypFits header expectedTyp ∧
        ∃ jwk ∈ keys, PublicKey jwk ∧ SignatureChecks build crates token header.alg jwk) ∧
    (∀ claims, verifySignature build crates token keys expectedTyp = .ok claims →
      peekClaims crates token = some claims) ∧
    ∀ others, (∀ header, peekHeader crates token = .ok header → ∀ jwk, ¬Unfit crates header.alg jwk →
        (jwk ∈ others ↔ jwk ∈ keys)) →
      outcome (verifySignature build crates token others expectedTyp) =
        outcome (verifySignature build crates token keys expectedTyp) := by
  have exact_keys : ∀ list claims, verifySignature build crates token list expectedTyp = .ok claims ↔
      AcceptedJws build crates token list expectedTyp claims :=
    fun list claims => verifySignature_accepted build crates law token list expectedTyp claims
  refine ⟨?_,?_,?_⟩
  · constructor
    · intro accepts
      obtain ⟨claims,ok⟩ := accepts
      obtain ⟨header,peeked,policy,verifiable,typed,jwk,member,isPublic,verifies⟩ := (exact_keys keys claims).mp ok
      exact ⟨header,peeked,policy,verifiable,typed,jwk,member,isPublic,verifies.checks⟩
    · intro accepts
      obtain ⟨header,peeked,policy,verifiable,typed,jwk,member,isPublic,checks⟩ := accepts
      obtain ⟨claims,verifies⟩ := checks.verifies build crates token header.alg jwk (signed jwk)
      have accepted : AcceptedJws build crates token keys expectedTyp claims :=
        ⟨header,peeked,policy,verifiable,typed,jwk,member,isPublic,verifies⟩
      exact ⟨claims,(exact_keys keys claims).mpr accepted⟩
  · intro claims ok
    exact ((exact_keys keys claims).mp ok).payload build crates law token keys expectedTyp claims
  · intro others same
    have forth : ∀ claims, AcceptedJws build crates token others expectedTyp claims →
        AcceptedJws build crates token keys expectedTyp claims :=
      fun claims => AcceptedJws.fit build crates families token others keys expectedTyp claims
        fun header peeked jwk fit => (same header peeked jwk fit).mp
    have back : ∀ claims, AcceptedJws build crates token keys expectedTyp claims →
        AcceptedJws build crates token others expectedTyp claims :=
      fun claims => AcceptedJws.fit build crates families token keys others expectedTyp claims
        fun header peeked jwk fit => (same header peeked jwk fit).mpr
    cases answer : verifySignature build crates token keys expectedTyp with
    | ok claims =>
      have accepted := back claims ((exact_keys keys claims).mp answer)
      rw [(exact_keys others claims).mpr accepted]
    | error error =>
      have plain := verifySignature_plain build crates token keys expectedTyp error answer
      cases found : verifySignature build crates token others expectedTyp with
      | ok claims =>
        have accepted := forth claims ((exact_keys others claims).mp found)
        rw [(exact_keys keys claims).mpr accepted] at answer
        cases answer
      | error other =>
        have also := verifySignature_plain build crates token others expectedTyp other found
        rw [outcome_error error plain,outcome_error other also]

theorem sampleCrates_family : FamilyLaw sampleCrates := by
  refine ⟨?_,?_,?_⟩
  · intro x y key token a claims built
    cases built
  · intro n e key token a claims built
    cases built
  · intro x key token a claims built decoded
    change sampleDecode token key a = .ok claims at decoded
    unfold sampleDecode at decoded
    split at decoded
    case isTrue signed => rw [signed.1,Algorithm.kty]
    case isFalse => cases decoded

def sharedSecret : Jwk := {sampleIssuerJwk with kty := "oct"}

theorem verifySignature_outcome_sample :
    (∃ claims, verifySignature ⟨false,false⟩ sampleCrates boundToken [sampleIssuerJwk] (some "at+jwt") = .ok claims) ∧
    (∃ header, peekHeader sampleCrates boundToken = .ok header ∧ algInPolicy header.alg ∧
      algIsVerifiable ⟨false,false⟩ header.alg ∧ TypFits header (some "at+jwt") ∧ ∃ jwk ∈ [sampleIssuerJwk],
        PublicKey jwk ∧ SignatureChecks ⟨false,false⟩ sampleCrates boundToken header.alg jwk) ∧
    outcome (verifySignature ⟨false,false⟩ sampleCrates boundToken [sharedSecret,sampleIssuerJwk,sampleIssuerJwk]
        (some "at+jwt")) =
      outcome (verifySignature ⟨false,false⟩ sampleCrates boundToken [sampleIssuerJwk] (some "at+jwt")) := by
  have signed : ∀ jwk, SignatureChecks ⟨false,false⟩ sampleCrates boundToken "ES512" jwk →
      ∃ claims, peekClaims sampleCrates boundToken = some claims := by
    intro jwk _
    obtain ⟨⟨keys,_,verified⟩,_⟩ := boundToken_valid
    exact ⟨_,verified.payload _ _ sampleCrates_payload _ _ _ _⟩
  have symmetric : ∀ alg, Unfit sampleCrates alg sharedSecret := fun alg => .symmetric (by decide)
  obtain ⟨⟨keys,served,verified⟩,_⟩ := boundToken_valid
  cases served
  have ok := (verifySignature_ok _ sampleCrates sampleCrates_payload boundToken _ "at+jwt" _).mpr verified
  obtain ⟨accepts,_,same⟩ := verifySignature_outcome ⟨false,false⟩ sampleCrates sampleCrates_payload sampleCrates_family
    boundToken signed [sampleIssuerJwk] (some "at+jwt")
  refine ⟨⟨_,ok⟩,accepts.mp ⟨_,ok⟩,same _ ?_⟩
  intro header peeked jwk fit
  have other : jwk ≠ sharedSecret := by
    intro found
    rw [found] at fit
    exact fit (symmetric header.alg)
  simp [other]

end SolidOidcVerifier
