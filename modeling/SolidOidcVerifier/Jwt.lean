import SolidOidcVerifier.Error
import SolidOidcVerifier.Jwk

/-! Compact JWS decoding and signature verification over candidate keys. -/
namespace SolidOidcVerifier
open Foundation

structure Header where
  alg : String
  typ : Option String
  jwk : Option Jwk

/-- Exactly three dot-separated segments, none of them empty. -/
def splitCompact (token : String) : Except VerifyError (List Char × List Char × List Char) :=
  match token.toList.splitOn '.' with
  | [h,p,s] => if h ≠ [] ∧ p ≠ [] ∧ s ≠ [] then .ok (h,p,s) else .error (invalidToken "Malformed token.")
  | _ => .error (invalidToken "Malformed token.")

def b64urlDecode (segment : List Char) : Option (List UInt8) := Base64Url.decode segment

def jwkParameter (header : Json) : Except VerifyError (Option Jwk) :=
  match header.get "jwk" with
  | none | some .null => .ok none
  | some value =>
    match Jwk.fromValue value with
    | some jwk => .ok (some jwk)
    | none => .error (invalidToken "DPoP proof jwk header parameter must be a JSON object.")

def peekHeader (crates : Crates) (token : String) : Except VerifyError Header := do
  let (h,_,_) ← splitCompact token
  let bytes ← orError (b64urlDecode h) (invalidToken "Malformed token header.")
  let v ← orError (crates.fromSlice bytes) (invalidToken "Malformed token header.")
  let alg ← orError ((v.get "alg").bind Json.asStr) (invalidToken "Token header has no alg.")
  let jwk ← jwkParameter v
  return ⟨alg,(v.get "typ").bind Json.asStr,jwk⟩

def peekClaims (crates : Crates) (token : String) : Option Claims := do
  let (_,p,_) ← (splitCompact token).toOption
  let bytes ← b64urlDecode p
  let v ← crates.fromSlice bytes
  v.asObject

def peekIssuer (crates : Crates) (token : String) : Except VerifyError String := do
  let claims ← orError (peekClaims crates token) (invalidToken "Malformed access token.")
  match claims.str "iss" with
  | some s => if s ≠ "" then .ok s else .error (invalidToken "Access token has no issuer.")
  | none => .error (invalidToken "Access token has no issuer.")

def proofHasAth (crates : Crates) (proof : String) : Bool :=
  match (peekClaims crates proof).bind (·.str "ath") with
  | some ath => ath ≠ ""
  | none => false

def mapAlgorithm (build : Build) (alg : String) : Except VerifyError Algorithm := do
  ensure (algInPolicy alg) (invalidToken ("Unsupported or non-asymmetric signature algorithm: " ++ alg ++ "."))
  ensure (alg ≠ "ES512") (invalidToken es512KnownNarrowing)
  ensure (algIsVerifiable build alg) (invalidToken es512KnownNarrowing)
  match alg with
  | "ES256" => .ok .es256
  | "ES384" => .ok .es384
  | "PS256" => .ok .ps256
  | "PS384" => .ok .ps384
  | "PS512" => .ok .ps512
  | "RS256" => .ok .rs256
  | "RS384" => .ok .rs384
  | "RS512" => .ok .rs512
  | "EdDSA" => .ok .edDsa
  | other => .error (invalidToken ("Unsupported signature algorithm: " ++ other ++ "."))

def typMatches (header : Header) (want : String) : Bool :=
  match header.typ with
  | some got => Text.eqIgnoreAsciiCase got.toList want.toList
  | none => false

def enforceTyp (header : Header) (expectedTyp : Option String) : Except VerifyError Unit :=
  match expectedTyp with
  | some want => ensure (typMatches header want) (invalidToken ("Unexpected token typ (want " ++ want ++ ")."))
  | none => .ok ()

def publicOnly (jwk : Jwk) : Except VerifyError Unit := do
  ensure (¬jwk.isSymmetric) (invalidToken "Symmetric keys are not accepted.")
  ensure (¬jwk.hasPrivateMaterial)
    (invalidToken "Key contains private material; only a public key is accepted.")

def backendKey {K : Type} (kind : String) (key : Except String K) : Except VerifyError K :=
  key.mapError (fun e => invalidToken ("Invalid " ++ kind ++ " public key: " ++ e ++ "."))

def decodingKeyFromJwk (crates : Crates) (jwk : Jwk) :
    Except VerifyError crates.jsonwebtoken.DecodingKey := do
  publicOnly jwk
  if jwk.kty = "EC" then
    let x ← orError jwk.x (invalidToken "EC JWK missing x.")
    let y ← orError jwk.y (invalidToken "EC JWK missing y.")
    backendKey "EC" (crates.jsonwebtoken.fromEcComponents x y)
  else if jwk.kty = "RSA" then
    let n ← orError jwk.n (invalidToken "RSA JWK missing n.")
    let e ← orError jwk.e (invalidToken "RSA JWK missing e.")
    backendKey "RSA" (crates.jsonwebtoken.fromRsaComponents n e)
  else if jwk.kty = "OKP" then
    let x ← orError jwk.x (invalidToken "OKP JWK missing x.")
    backendKey "OKP" (crates.jsonwebtoken.fromEdComponents x)
  else .error (invalidToken ("Unsupported JWK key type: " ++ jwk.kty ++ "."))

/-- The loop over candidate keys: the first that verifies wins, otherwise the last error stays. -/
def firstVerified (verify : Jwk → Except VerifyError Claims) :
    List Jwk → Option VerifyError → Except VerifyError Claims
  | [],lastErr => .error (lastErr.getD (invalidToken "signature verification failed"))
  | jwk :: rest,_ =>
    match verify jwk with
    | .ok claims => .ok claims
    | .error e => firstVerified verify rest (some e)

def p521CoordLen : Nat := 66

def p521VerifyingKeyFromJwk (crates : Crates) (jwk : Jwk) :
    Except VerifyError crates.p521.VerifyingKey := do
  publicOnly jwk
  ensure (Text.eqIgnoreAsciiCase jwk.kty.toList "EC".toList) (invalidToken "ES512 requires an EC key.")
  ensure (jwk.crv = some "P-521") (invalidToken "ES512 requires an EC key on curve P-521.")
  let x ← orError jwk.x (invalidToken "EC JWK missing x.")
  let y ← orError jwk.y (invalidToken "EC JWK missing y.")
  let x ← orError (b64urlDecode x.toList) (invalidToken "EC JWK x is not valid base64url.")
  let y ← orError (b64urlDecode y.toList) (invalidToken "EC JWK y is not valid base64url.")
  ensure (x.length = p521CoordLen ∧ y.length = p521CoordLen)
    (invalidToken "ES512 EC coordinate is not the expected 66-byte P-521 length.")
  orError (crates.p521.fromSec1Bytes (4 :: (x ++ y))) (invalidToken "Invalid P-521 public key.")

/-- One candidate on the `p521` path. The signing input is the text `header.payload`. -/
def verifyEs512With (crates : Crates) (signingInput : List Char) (signature : crates.p521.Signature)
    (claims : Claims) (jwk : Jwk) : Except VerifyError Claims := do
  let key ← p521VerifyingKeyFromJwk crates jwk
  ensure (crates.p521.verify key (Text.asBytes (String.ofList signingInput)) signature)
    (invalidToken "signature verification failed")
  return claims

def verifyEs512OverCandidates (crates : Crates) (token : String) (candidateKeys : List Jwk) :
    Except VerifyError Claims := do
  ensure (candidateKeys ≠ []) (invalidToken "No verification key available for issuer.")
  let (h,p,s) ← splitCompact token
  let sigBytes ← orError (b64urlDecode s) (invalidToken "ES512 signature is not valid base64url.")
  ensure (sigBytes.length = 2*p521CoordLen)
    (invalidToken "ES512 signature is not the expected 132-byte (r||s) length.")
  let signature ← orError (crates.p521.signatureFromSlice sigBytes)
    (invalidToken "ES512 signature is malformed.")
  let claims ← orError (peekClaims crates token) (invalidToken "Malformed token payload.")
  firstVerified (verifyEs512With crates (h ++ '.' :: p) signature claims) candidateKeys none

def verifyWith (crates : Crates) (token : String) (alg : Algorithm) (jwk : Jwk) :
    Except VerifyError Claims := do
  let key ← decodingKeyFromJwk crates jwk
  (crates.jsonwebtoken.decode token key alg).mapError
    (fun e => invalidToken ("signature verification failed: " ++ e))

def verifySignature (build : Build) (crates : Crates) (token : String) (candidateKeys : List Jwk)
    (expectedTyp : Option String) : Except VerifyError Claims := do
  let header ← peekHeader crates token
  if build.es512 ∧ header.alg = "ES512" then
    enforceTyp header expectedTyp
    verifyEs512OverCandidates crates token candidateKeys
  else
    let alg ← mapAlgorithm build header.alg
    enforceTyp header expectedTyp
    ensure (candidateKeys ≠ []) (invalidToken "No verification key available for issuer.")
    firstVerified (verifyWith crates token alg) candidateKeys none

def verifyProofWithEmbeddedJwk (build : Build) (crates : Crates) (proof : String)
    (expectedTyp : String) : Except VerifyError (Claims × Jwk) := do
  let header ← peekHeader crates proof
  let jwk ← orError header.jwk (invalidToken "DPoP proof jwk header parameter must be a JSON object.")
  ensure (¬jwk.hasPrivateMaterial)
    (invalidToken "DPoP proof embedded a private key; only a public key is accepted.")
  ensure (¬jwk.isSymmetric) (invalidToken "DPoP proof embedded a symmetric key.")
  let claims ← verifySignature build crates proof [jwk] (some expectedTyp)
  return (claims,jwk)

end SolidOidcVerifier
