import SolidOidcVerifier.Crates
import SolidOidcVerifier.Foundation.Base64Url
import SolidOidcVerifier.Foundation.Exec
import SolidOidcVerifier.Foundation.Text

/-! The algorithm allowlist, JSON Web Keys and their RFC 7638 thumbprints. -/
namespace SolidOidcVerifier
open Foundation

def signingAlgs : List String :=
  ["ES256","ES384","ES512","PS256","PS384","PS512","RS256","RS384","RS512","EdDSA"]

def dpopAlgs : List String := signingAlgs

def es512KnownNarrowing : String :=
  "ES512 is in the policy allowlist but unverifiable without the `es512` feature; rejected (see KNOWN NARROWING)."

def algIsVerifiable (build : Build) (alg : String) : Bool :=
  ["ES256","ES384","PS256","PS384","PS512","RS256","RS384","RS512","EdDSA"].contains alg ||
    (build.es512 && alg == "ES512")

def algInPolicy (alg : String) : Bool := signingAlgs.contains alg

structure Jwk where
  kty : String
  crv : Option String
  x : Option String
  y : Option String
  n : Option String
  e : Option String
  d : Option String
  p : Option String
  q : Option String
  dp : Option String
  dq : Option String
  qi : Option String
  alg : Option String
  use : Option String
  kid : Option String
deriving DecidableEq,Repr

namespace Jwk

/-- An `Option<String>` field of the derived deserializer: `null` reads as absent. -/
def optionalField : Json → Option (Option String)
  | .null => some none
  | .string value => some (some value)
  | _ => none

def fieldOf (members : Claims) (name : String) : Option (Option String) :=
  match members.get name with
  | none => some none
  | some value => optionalField value

def fromMembers (members : Claims) : Option Jwk := do
  return ⟨← members.str "kty",← fieldOf members "crv",← fieldOf members "x",← fieldOf members "y",
    ← fieldOf members "n",← fieldOf members "e",← fieldOf members "d",← fieldOf members "p",
    ← fieldOf members "q",← fieldOf members "dp",← fieldOf members "dq",← fieldOf members "qi",
    ← fieldOf members "alg",← fieldOf members "use",← fieldOf members "kid"⟩

/-- `serde_json::from_value::<Jwk>`. The derived deserializer also reads an array that holds the
fifteen fields in order. -/
def fromValue : Json → Option Jwk
  | .object members => fromMembers members
  | .array [kty,crv,x,y,n,e,d,p,q,dp,dq,qi,alg,use,kid] => do
    return ⟨← kty.asStr,← optionalField crv,← optionalField x,← optionalField y,← optionalField n,
      ← optionalField e,← optionalField d,← optionalField p,← optionalField q,← optionalField dp,
      ← optionalField dq,← optionalField qi,← optionalField alg,← optionalField use,
      ← optionalField kid⟩
  | _ => none

def hasPrivateMaterial (jwk : Jwk) : Bool :=
  jwk.d.isSome || jwk.p.isSome || jwk.q.isSome || jwk.dp.isSome || jwk.dq.isSome || jwk.qi.isSome

def isSymmetric (jwk : Jwk) : Bool := Text.eqIgnoreAsciiCase jwk.kty.toList "oct".toList

end Jwk

inductive JwkError where
  | missingMember (name : String)
  | unsupportedKty (kty : String)
deriving DecidableEq,Repr

def JwkError.display : JwkError → String
  | .missingMember name => "JWK is missing the required member '" ++ name ++ "'"
  | .unsupportedKty kty => "unsupported JWK key type '" ++ kty ++ "'"

def jsonEscape (s : String) : String :=
  String.ofList (Text.replace '"' ['\\','"'] (Text.replace '\\' ['\\','\\'] s.toList))

/-- The text that the thumbprint hashes. -/
def Jwk.canonical (jwk : Jwk) : Except JwkError String :=
  if jwk.kty = "EC" then do
    let crv ← orError jwk.crv (.missingMember "crv")
    let x ← orError jwk.x (.missingMember "x")
    let y ← orError jwk.y (.missingMember "y")
    return "\x7b\"crv\":\"" ++ jsonEscape crv ++ "\",\"kty\":\"EC\",\"x\":\"" ++ jsonEscape x ++
      "\",\"y\":\"" ++ jsonEscape y ++ "\"\x7d"
  else if jwk.kty = "RSA" then do
    let e ← orError jwk.e (.missingMember "e")
    let n ← orError jwk.n (.missingMember "n")
    return "\x7b\"e\":\"" ++ jsonEscape e ++ "\",\"kty\":\"RSA\",\"n\":\"" ++ jsonEscape n ++ "\"\x7d"
  else if jwk.kty = "OKP" then do
    let crv ← orError jwk.crv (.missingMember "crv")
    let x ← orError jwk.x (.missingMember "x")
    return "\x7b\"crv\":\"" ++ jsonEscape crv ++ "\",\"kty\":\"OKP\",\"x\":\"" ++ jsonEscape x ++
      "\"\x7d"
  else .error (.unsupportedKty jwk.kty)

def digestText (crates : Crates) (text : String) : String :=
  String.ofList (Base64Url.encode (crates.sha256 (Text.asBytes text)))

def Jwk.thumbprintSha256 (crates : Crates) (jwk : Jwk) : Except JwkError String :=
  jwk.canonical.map (digestText crates)

end SolidOidcVerifier
