import SolidOidcVerifier.Foundation.Rejections
import SolidOidcVerifier.Jwt

/-! What a verified compact JWS says: the header, the key and the claims behind an accepted
signature, on both verification backends. -/
namespace SolidOidcVerifier
open Foundation

def Algorithm.name : Algorithm → String
  | .es256 => "ES256"
  | .es384 => "ES384"
  | .ps256 => "PS256"
  | .ps384 => "PS384"
  | .ps512 => "PS512"
  | .rs256 => "RS256"
  | .rs384 => "RS384"
  | .rs512 => "RS512"
  | .edDsa => "EdDSA"

theorem mapAlgorithm_ok (build : Build) (alg : String) (a : Algorithm) :
    mapAlgorithm build alg = .ok a ↔ alg = a.name := by
  constructor
  · intro mapped
    simp only [mapAlgorithm,Except.bind_ok,Except.ensure_ok,exists_const] at mapped
    obtain ⟨_,_,_,mapped⟩ := mapped
    split at mapped
    all_goals first
      | contradiction
      | (cases Except.ok.inj mapped; rfl)
  · rintro rfl
    cases a <;> simp [mapAlgorithm,Except.bind_ok,Except.ensure_ok,Algorithm.name,algInPolicy,
      signingAlgs,algIsVerifiable]

theorem acceptable_cases (build : Build) (alg : String) :
    algInPolicy alg ∧ algIsVerifiable build alg ↔
      (∃ a : Algorithm, alg = a.name) ∨ (build.es512 ∧ alg = "ES512") := by
  constructor
  · rintro ⟨policy,verifiable⟩
    simp only [algInPolicy,signingAlgs,List.contains_eq_mem,decide_eq_true_eq,List.mem_cons,
      List.not_mem_nil,or_false] at policy
    rcases policy with rfl | rfl | rfl | rfl | rfl | rfl | rfl | rfl | rfl | rfl
    · exact Or.inl ⟨.es256,rfl⟩
    · exact Or.inl ⟨.es384,rfl⟩
    · exact Or.inr ⟨by simpa [algIsVerifiable] using verifiable,rfl⟩
    · exact Or.inl ⟨.ps256,rfl⟩
    · exact Or.inl ⟨.ps384,rfl⟩
    · exact Or.inl ⟨.ps512,rfl⟩
    · exact Or.inl ⟨.rs256,rfl⟩
    · exact Or.inl ⟨.rs384,rfl⟩
    · exact Or.inl ⟨.rs512,rfl⟩
    · exact Or.inl ⟨.edDsa,rfl⟩
  · rintro (⟨a,rfl⟩ | ⟨feature,rfl⟩)
    · cases a <;> simp [algInPolicy,signingAlgs,algIsVerifiable,Algorithm.name]
    · simp [algInPolicy,signingAlgs,algIsVerifiable,feature]

theorem splitCompact_rejects (allowed : VerifyError → Prop) (fine : ∀ message, allowed (invalidToken message))
    (token : String) : Except.Rejects allowed (splitCompact token) := by
  unfold splitCompact
  split
  · split
    · exact Except.rejects_ok allowed _
    · exact Except.rejects_error allowed _ (fine _)
  · exact Except.rejects_error allowed _ (fine _)

theorem peekHeader_rejects (allowed : VerifyError → Prop) (fine : ∀ message, allowed (invalidToken message))
    (crates : Crates) (token : String) : Except.Rejects allowed (peekHeader crates token) := by
  unfold peekHeader
  apply Except.rejects_bind allowed _ _ (splitCompact_rejects allowed fine token)
  intro segments
  apply Except.rejects_bind allowed _ _ (Except.rejects_orError allowed _ _ (fine _))
  intro bytes
  apply Except.rejects_bind allowed _ _ (Except.rejects_orError allowed _ _ (fine _))
  intro value
  apply Except.rejects_bind allowed _ _ (Except.rejects_orError allowed _ _ (fine _))
  intro alg
  apply Except.rejects_bind allowed
  · unfold jwkParameter
    split
    · exact Except.rejects_ok allowed _
    · exact Except.rejects_ok allowed _
    · split
      · exact Except.rejects_ok allowed _
      · exact Except.rejects_error allowed _ (fine _)
  · intro jwk
    exact Except.rejects_ok allowed _

def PublicKey (jwk : Jwk) : Prop := ¬jwk.isSymmetric ∧ ¬jwk.hasPrivateMaterial

def BuildsKey (crates : Crates) (jwk : Jwk) (key : crates.jsonwebtoken.DecodingKey) : Prop :=
  (jwk.kty = "EC" ∧ ∃ x y, jwk.x = some x ∧ jwk.y = some y ∧
    crates.jsonwebtoken.fromEcComponents x y = .ok key) ∨
  (jwk.kty = "RSA" ∧ ∃ n e, jwk.n = some n ∧ jwk.e = some e ∧
    crates.jsonwebtoken.fromRsaComponents n e = .ok key) ∨
  (jwk.kty = "OKP" ∧ ∃ x, jwk.x = some x ∧ crates.jsonwebtoken.fromEdComponents x = .ok key)

def BuildsP521Key (crates : Crates) (jwk : Jwk) (key : crates.p521.VerifyingKey) : Prop :=
  Text.eqIgnoreAsciiCase jwk.kty.toList "EC".toList ∧ jwk.crv = some "P-521" ∧
    ∃ x y xBytes yBytes, jwk.x = some x ∧ jwk.y = some y ∧
      b64urlDecode x.toList = some xBytes ∧ b64urlDecode y.toList = some yBytes ∧
      xBytes.length = p521CoordLen ∧ yBytes.length = p521CoordLen ∧
      crates.p521.fromSec1Bytes (4 :: (xBytes ++ yBytes)) = some key

def Es512Parts (crates : Crates) (token : String) (signingInput : List Char)
    (signature : crates.p521.Signature) (claims : Claims) : Prop :=
  ∃ h p s sigBytes, splitCompact token = .ok (h,p,s) ∧ signingInput = h ++ '.' :: p ∧
    b64urlDecode s = some sigBytes ∧ sigBytes.length = 2*p521CoordLen ∧
    crates.p521.signatureFromSlice sigBytes = some signature ∧ peekClaims crates token = some claims

/-- `jwk` verifies the token under exactly the algorithm `alg`, and `claims` are what it signed. -/
inductive KeyVerifies (build : Build) (crates : Crates) (token alg : String) (jwk : Jwk)
    (claims : Claims) : Prop
  | jsonwebtoken (a : Algorithm) (key : crates.jsonwebtoken.DecodingKey) (named : alg = a.name)
      (built : BuildsKey crates jwk key)
      (decoded : crates.jsonwebtoken.decode token key a = .ok claims)
  | p521 (signingInput : List Char) (key : crates.p521.VerifyingKey) (signature : crates.p521.Signature)
      (feature : build.es512) (named : alg = "ES512") (built : BuildsP521Key crates jwk key)
      (parts : Es512Parts crates token signingInput signature claims)
      (verified : crates.p521.verify key (Text.asBytes (String.ofList signingInput)) signature)

theorem publicOnly_ok (jwk : Jwk) (value : Unit) : publicOnly jwk = .ok value ↔ PublicKey jwk := by
  simp only [publicOnly,Except.bind_ok,Except.ensure_ok,exists_const,PublicKey]

theorem backendKey_ok {K : Type} (kind : String) (built : Except String K) (key : K) :
    backendKey kind built = .ok key ↔ built = .ok key := by
  cases built <;> simp [backendKey,Except.mapError]

theorem decodingKeyFromJwk_ok (crates : Crates) (jwk : Jwk) (key : crates.jsonwebtoken.DecodingKey) :
    decodingKeyFromJwk crates jwk = .ok key ↔ PublicKey jwk ∧ BuildsKey crates jwk key := by
  unfold decodingKeyFromJwk BuildsKey
  simp only [Except.bind_ok,publicOnly_ok,exists_const]
  apply and_congr_right
  intro _
  by_cases ec : jwk.kty = "EC"
  · simp [ec,Except.bind_ok,Except.orError_ok,backendKey_ok]
  · by_cases rsa : jwk.kty = "RSA"
    · simp [rsa,Except.bind_ok,Except.orError_ok,backendKey_ok]
    · by_cases okp : jwk.kty = "OKP"
      · simp [okp,Except.bind_ok,Except.orError_ok,backendKey_ok]
      · simp [ec,rsa,okp]

theorem p521VerifyingKeyFromJwk_ok (crates : Crates) (jwk : Jwk) (key : crates.p521.VerifyingKey) :
    p521VerifyingKeyFromJwk crates jwk = .ok key ↔ PublicKey jwk ∧ BuildsP521Key crates jwk key := by
  unfold p521VerifyingKeyFromJwk BuildsP521Key
  simp only [Except.bind_ok,exists_const,publicOnly_ok,Except.ensure_ok,Except.orError_ok]
  constructor
  · rintro ⟨isPublic,kty,crv,x,hx,y,hy,xBytes,dx,yBytes,dy,⟨lx,ly⟩,point⟩
    exact ⟨isPublic,kty,crv,x,y,xBytes,yBytes,hx,hy,dx,dy,lx,ly,point⟩
  · rintro ⟨isPublic,kty,crv,x,y,xBytes,yBytes,hx,hy,dx,dy,lx,ly,point⟩
    exact ⟨isPublic,kty,crv,x,hx,y,hy,xBytes,dx,yBytes,dy,⟨lx,ly⟩,point⟩

theorem verifyWith_ok (crates : Crates) (token : String) (a : Algorithm) (jwk : Jwk) (claims : Claims) :
    verifyWith crates token a jwk = .ok claims ↔ PublicKey jwk ∧ ∃ key, BuildsKey crates jwk key ∧
      crates.jsonwebtoken.decode token key a = .ok claims := by
  simp only [verifyWith,Except.bind_ok,decodingKeyFromJwk_ok]
  constructor
  · rintro ⟨key,⟨isPublic,built⟩,decoded⟩
    cases result : crates.jsonwebtoken.decode token key a with
    | error e => simp [result,Except.mapError] at decoded
    | ok found =>
      simp only [result,Except.mapError,Except.ok.injEq] at decoded
      exact ⟨isPublic,key,built,by rw [result,decoded]⟩
  · rintro ⟨isPublic,key,built,decoded⟩
    exact ⟨key,⟨isPublic,built⟩,by simp [decoded,Except.mapError]⟩

theorem verifyEs512With_ok (crates : Crates) (signingInput : List Char)
    (signature : crates.p521.Signature) (signed claims : Claims) (jwk : Jwk) :
    verifyEs512With crates signingInput signature signed jwk = .ok claims ↔ PublicKey jwk ∧
      (∃ key, BuildsP521Key crates jwk key ∧
        crates.p521.verify key (Text.asBytes (String.ofList signingInput)) signature) ∧ signed = claims := by
  simp only [verifyEs512With,Except.bind_ok,p521VerifyingKeyFromJwk_ok,Except.ensure_ok,exists_const]
  constructor
  · rintro ⟨key,⟨isPublic,built⟩,verified,same⟩
    exact ⟨isPublic,⟨key,built,verified⟩,Except.ok.inj same⟩
  · rintro ⟨isPublic,⟨key,built,verified⟩,same⟩
    exact ⟨key,⟨isPublic,built⟩,verified,congrArg Except.ok same⟩

theorem firstVerified_sound (verify : Jwk → Except VerifyError Claims) (keys : List Jwk) :
    ∀ (lastErr : Option VerifyError) (claims : Claims), firstVerified verify keys lastErr = .ok claims →
      ∃ jwk ∈ keys, verify jwk = .ok claims := by
  induction keys with
  | nil => intro lastErr claims found; simp [firstVerified] at found
  | cons jwk rest ih =>
    intro lastErr claims found
    cases tried : verify jwk with
    | ok first =>
      simp only [firstVerified,tried,Except.ok.injEq] at found
      exact ⟨jwk,by simp,by rw [tried,found]⟩
    | error e =>
      simp only [firstVerified,tried] at found
      obtain ⟨other,member,verified⟩ := ih (some e) claims found
      exact ⟨other,by simp [member],verified⟩

theorem firstVerified_complete (verify : Jwk → Except VerifyError Claims) (keys : List Jwk) :
    ∀ (lastErr : Option VerifyError) (jwk : Jwk) (claims : Claims), jwk ∈ keys → verify jwk = .ok claims →
      ∃ found, firstVerified verify keys lastErr = .ok found := by
  induction keys with
  | nil => intro lastErr jwk claims member; simp at member
  | cons head rest ih =>
    intro lastErr jwk claims member verified
    cases tried : verify head with
    | ok first => exact ⟨first,by simp [firstVerified,tried]⟩
    | error e =>
      have inside : jwk ∈ rest := by
        rcases List.mem_cons.mp member with rfl | inside
        · rw [verified] at tried; cases tried
        · exact inside
      obtain ⟨found,ok⟩ := ih (some e) jwk claims inside verified
      exact ⟨found,by simp [firstVerified,tried,ok]⟩

/-- Where all keys that verify give the same claims, the loop answers them whenever one does. -/
theorem firstVerified_ok (verify : Jwk → Except VerifyError Claims) (keys : List Jwk)
    (lastErr : Option VerifyError) (claims : Claims)
    (same : ∀ jwk found, verify jwk = .ok found → found = claims) :
    firstVerified verify keys lastErr = .ok claims ↔ ∃ jwk ∈ keys, verify jwk = .ok claims := by
  constructor
  · exact firstVerified_sound verify keys lastErr claims
  · rintro ⟨jwk,member,verified⟩
    obtain ⟨found,ok⟩ := firstVerified_complete verify keys lastErr jwk claims member verified
    obtain ⟨other,_,again⟩ := firstVerified_sound verify keys lastErr found ok
    rw [ok,same other found again]

def TypFits (header : Header) (expectedTyp : Option String) : Prop :=
  ∀ want, expectedTyp = some want → typMatches header want

theorem enforceTyp_ok (header : Header) (expectedTyp : Option String) (value : Unit) :
    enforceTyp header expectedTyp = .ok value ↔ TypFits header expectedTyp := by
  cases expectedTyp with
  | none => simp [enforceTyp,TypFits]
  | some want =>
    simp only [enforceTyp,Except.ensure_ok,TypFits,Option.some.injEq]
    constructor
    · intro fits other same
      rw [← same]
      exact fits
    · intro fits
      exact fits want rfl

/-- A token that some candidate key verifies, with an acceptable `alg` and the `typ` that is expected,
if one is. -/
def AcceptedJws (build : Build) (crates : Crates) (token : String) (keys : List Jwk) (expectedTyp : Option String)
    (claims : Claims) : Prop :=
  ∃ header, peekHeader crates token = .ok header ∧ algInPolicy header.alg ∧
    algIsVerifiable build header.alg ∧ TypFits header expectedTyp ∧
    ∃ jwk ∈ keys, PublicKey jwk ∧ KeyVerifies build crates token header.alg jwk claims

/-- A token that some candidate key verifies, with the expected `typ` and an acceptable `alg`. -/
def VerifiedJws (build : Build) (crates : Crates) (token : String) (keys : List Jwk) (typ : String)
    (claims : Claims) : Prop :=
  ∃ header, peekHeader crates token = .ok header ∧ algInPolicy header.alg ∧
    algIsVerifiable build header.alg ∧ typMatches header typ ∧
    ∃ jwk ∈ keys, PublicKey jwk ∧ KeyVerifies build crates token header.alg jwk claims

/-- `jsonwebtoken::decode` answers the decoded payload of the token, as `peekClaims` reads it. -/
def PayloadLaw (crates : Crates) : Prop :=
  ∀ token key alg claims, crates.jsonwebtoken.decode token key alg = .ok claims →
    peekClaims crates token = some claims

theorem verifyEs512OverCandidates_sound (build : Build) (crates : Crates) (token : String)
    (keys : List Jwk) (claims : Claims) (feature : build.es512)
    (ok : verifyEs512OverCandidates crates token keys = .ok claims) :
    ∃ jwk ∈ keys, PublicKey jwk ∧ KeyVerifies build crates token "ES512" jwk claims := by
  simp only [verifyEs512OverCandidates,Except.bind_ok,Except.ensure_ok,Except.orError_ok,
    exists_const] at ok
  obtain ⟨_,⟨h,p,s⟩,split,sigBytes,decoded,width,signature,read,signed,payload,found⟩ := ok
  obtain ⟨jwk,member,verified⟩ := firstVerified_sound _ _ _ _ found
  obtain ⟨isPublic,⟨key,built,accepted⟩,same⟩ := (verifyEs512With_ok _ _ _ _ _ _).mp verified
  subst same
  have parts : Es512Parts crates token (h ++ '.' :: p) signature signed :=
    ⟨h,p,s,sigBytes,split,rfl,decoded,width,read,payload⟩
  exact ⟨jwk,member,isPublic,.p521 _ key signature feature rfl built parts accepted⟩

theorem verifySignature_accepts (build : Build) (crates : Crates) (token : String) (keys : List Jwk)
    (expectedTyp : Option String) (claims : Claims)
    (ok : verifySignature build crates token keys expectedTyp = .ok claims) :
    AcceptedJws build crates token keys expectedTyp claims := by
  simp only [verifySignature,Except.bind_ok] at ok
  obtain ⟨header,peeked,ok⟩ := ok
  split at ok
  · rename_i fork
    simp only [Except.bind_ok,enforceTyp_ok,exists_const] at ok
    obtain ⟨typed,ok⟩ := ok
    have accepted := (acceptable_cases build header.alg).mpr (Or.inr fork)
    have keyed := verifyEs512OverCandidates_sound build crates token keys claims fork.1 ok
    exact ⟨header,peeked,accepted.1,accepted.2,typed,by rw [fork.2]; exact keyed⟩
  · simp only [Except.bind_ok,enforceTyp_ok,Except.ensure_ok,exists_const] at ok
    obtain ⟨a,mapped,typed,_,ok⟩ := ok
    have named := (mapAlgorithm_ok build header.alg a).mp mapped
    have accepted := (acceptable_cases build header.alg).mpr (Or.inl ⟨a,named⟩)
    obtain ⟨jwk,member,verified⟩ := firstVerified_sound _ _ _ _ ok
    obtain ⟨isPublic,key,built,decoded⟩ := (verifyWith_ok _ _ _ _ _).mp verified
    exact ⟨header,peeked,accepted.1,accepted.2,typed,jwk,member,isPublic,.jsonwebtoken a key named built decoded⟩

theorem verifyEs512OverCandidates_complete (crates : Crates) (token : String)
    (keys : List Jwk) (jwk : Jwk) (claims : Claims) (signingInput : List Char)
    (key : crates.p521.VerifyingKey) (signature : crates.p521.Signature)
    (member : jwk ∈ keys) (isPublic : PublicKey jwk) (built : BuildsP521Key crates jwk key)
    (parts : Es512Parts crates token signingInput signature claims)
    (verified : crates.p521.verify key (Text.asBytes (String.ofList signingInput)) signature) :
    verifyEs512OverCandidates crates token keys = .ok claims := by
  obtain ⟨h,p,s,sigBytes,split,rfl,decoded,width,read,payload⟩ := parts
  simp only [verifyEs512OverCandidates,Except.bind_ok,Except.ensure_ok,Except.orError_ok,exists_const]
  refine ⟨List.ne_nil_of_mem member,(h,p,s),split,sigBytes,decoded,width,signature,read,claims,payload,?_⟩
  apply (firstVerified_ok _ _ _ _ ?_).mpr
  · exact ⟨jwk,member,(verifyEs512With_ok _ _ _ _ _ _).mpr ⟨isPublic,⟨key,built,verified⟩,rfl⟩⟩
  · intro other found ok
    exact ((verifyEs512With_ok _ _ _ _ _ _).mp ok).2.2.symm

theorem AcceptedJws.payload (build : Build) (crates : Crates) (law : PayloadLaw crates)
    (token : String) (keys : List Jwk) (expectedTyp : Option String) (claims : Claims)
    (accepted : AcceptedJws build crates token keys expectedTyp claims) :
    peekClaims crates token = some claims := by
  obtain ⟨_,_,_,_,_,_,_,_,verified⟩ := accepted
  cases verified with
  | jsonwebtoken a key named built decoded => exact law _ _ _ _ decoded
  | p521 signingInput key signature feature named built parts verified =>
    obtain ⟨_,_,_,_,_,_,_,_,_,payload⟩ := parts
    exact payload

/-- The claims may be those of another candidate that the loop meets first. -/
theorem verifySignature_some (build : Build) (crates : Crates) (token : String) (keys : List Jwk)
    (expectedTyp : Option String) (claims : Claims)
    (accepted : AcceptedJws build crates token keys expectedTyp claims) :
    ∃ found, verifySignature build crates token keys expectedTyp = .ok found := by
  obtain ⟨header,peeked,_,_,typed,jwk,member,isPublic,verified⟩ := accepted
  simp only [verifySignature,Except.bind_ok]
  cases verified with
  | jsonwebtoken a key named built decoded =>
    have primary : ¬(build.es512 ∧ header.alg = "ES512") := by
      rintro ⟨_,fork⟩
      rw [fork] at named
      cases a <;> simp [Algorithm.name] at named
    have checks := (verifyWith_ok crates token a jwk claims).mpr ⟨isPublic,key,built,decoded⟩
    obtain ⟨found,first⟩ := firstVerified_complete (verifyWith crates token a) keys none jwk claims member checks
    refine ⟨found,header,peeked,?_⟩
    rw [if_neg primary]
    simp only [Except.bind_ok,enforceTyp_ok,Except.ensure_ok,exists_const]
    exact ⟨a,(mapAlgorithm_ok build header.alg a).mpr named,typed,List.ne_nil_of_mem member,first⟩
  | p521 signingInput key signature feature named built parts verified =>
    refine ⟨claims,header,peeked,?_⟩
    rw [if_pos ⟨feature,named⟩]
    simp only [Except.bind_ok,enforceTyp_ok,exists_const]
    exact ⟨typed,verifyEs512OverCandidates_complete crates token keys jwk claims signingInput key signature
      member isPublic built parts verified⟩

theorem verifySignature_of_accepted (build : Build) (crates : Crates) (law : PayloadLaw crates)
    (token : String) (keys : List Jwk) (expectedTyp : Option String) (claims : Claims)
    (accepted : AcceptedJws build crates token keys expectedTyp claims) :
    verifySignature build crates token keys expectedTyp = .ok claims := by
  obtain ⟨found,ok⟩ := verifySignature_some build crates token keys expectedTyp claims accepted
  have other := verifySignature_accepts build crates token keys expectedTyp found ok
  have payload := AcceptedJws.payload build crates law token keys expectedTyp claims accepted
  rw [AcceptedJws.payload build crates law token keys expectedTyp found other] at payload
  rw [ok,Option.some.inj payload]

/-- Verification accepts exactly the tokens that some public candidate key verifies. -/
theorem verifySignature_accepted (build : Build) (crates : Crates) (law : PayloadLaw crates) (token : String)
    (keys : List Jwk) (expectedTyp : Option String) (claims : Claims) :
    verifySignature build crates token keys expectedTyp = .ok claims ↔
      AcceptedJws build crates token keys expectedTyp claims :=
  ⟨verifySignature_accepts build crates token keys expectedTyp claims,
    verifySignature_of_accepted build crates law token keys expectedTyp claims⟩

theorem accepted_verified (build : Build) (crates : Crates) (token : String) (keys : List Jwk) (typ : String)
    (claims : Claims) :
    AcceptedJws build crates token keys (some typ) claims ↔ VerifiedJws build crates token keys typ claims := by
  have fits : ∀ header, TypFits header (some typ) ↔ typMatches header typ := by
    intro header
    rw [← enforceTyp_ok header (some typ) ()]
    exact Except.ensure_ok _ _ _
  unfold AcceptedJws VerifiedJws
  simp only [fits]

theorem verifySignature_sound (build : Build) (crates : Crates) (token : String) (keys : List Jwk)
    (typ : String) (claims : Claims)
    (ok : verifySignature build crates token keys (some typ) = .ok claims) :
    VerifiedJws build crates token keys typ claims :=
  (accepted_verified build crates token keys typ claims).mp
    (verifySignature_accepts build crates token keys (some typ) claims ok)

theorem verifySignature_ok (build : Build) (crates : Crates) (law : PayloadLaw crates)
    (token : String) (keys : List Jwk) (typ : String) (claims : Claims) :
    verifySignature build crates token keys (some typ) = .ok claims ↔
      VerifiedJws build crates token keys typ claims := by
  rw [verifySignature_accepted build crates law]
  exact accepted_verified build crates token keys typ claims

theorem VerifiedJws.payload (build : Build) (crates : Crates) (law : PayloadLaw crates)
    (token : String) (keys : List Jwk) (typ : String) (claims : Claims)
    (accepted : VerifiedJws build crates token keys typ claims) :
    peekClaims crates token = some claims :=
  AcceptedJws.payload build crates law token keys (some typ) claims
    ((accepted_verified build crates token keys typ claims).mpr accepted)

end SolidOidcVerifier
