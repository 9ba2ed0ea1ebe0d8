import SolidOidcVerifier.Json

/-! The third-party functions the verifier calls. They stand for code outside the repository, so
every result holds for all of them; what a result relies on is a named hypothesis there. -/
namespace SolidOidcVerifier

/-- The algorithms of `jsonwebtoken` that `map_algorithm` selects. -/
inductive Algorithm where
  | es256 | es384 | ps256 | ps384 | ps512 | rs256 | rs384 | rs512 | edDsa
deriving DecidableEq,Repr

/-- `decode` verifies under the one algorithm given, with all claim validation off. Errors carry
the text they display. -/
structure Jsonwebtoken where
  DecodingKey : Type
  fromEcComponents : String → String → Except String DecodingKey
  fromRsaComponents : String → String → Except String DecodingKey
  fromEdComponents : String → Except String DecodingKey
  decode : String → DecodingKey → Algorithm → Except String Claims

structure P521 where
  VerifyingKey : Type
  Signature : Type
  fromSec1Bytes : List UInt8 → Option VerifyingKey
  signatureFromSlice : List UInt8 → Option Signature
  verify : VerifyingKey → List UInt8 → Signature → Bool

structure UrlCrate where
  Url : Type
  parse : String → Option Url
  join : Url → String → Option Url
  toText : Url → String
  scheme : Url → String
  username : Url → String
  password : Url → Option String
  hostStr : Url → Option String
  portOrKnownDefault : Url → Option Nat
  clearQuery : Url → Url
  clearFragment : Url → Url
  clearUsername : Url → Url
  clearPassword : Url → Url

/-- `finalSigma` is the contextual rule of Unicode lower-casing, over the text before and after. -/
structure Crates where
  finalSigma : List Char → List Char → Bool
  fromSlice : List UInt8 → Option Json
  sha256 : List UInt8 → List UInt8
  url : UrlCrate
  jsonwebtoken : Jsonwebtoken
  p521 : P521

/-- How the crate is compiled: the `es512` feature and the arithmetic overflow checks. -/
structure Build where
  es512 : Bool
  overflowChecks : Bool
deriving DecidableEq,Repr

end SolidOidcVerifier
