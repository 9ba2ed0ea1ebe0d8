import SolidOidcVerifier.Foundation.Text

/-! Verification failures and the challenge they render to. -/
namespace SolidOidcVerifier
open Foundation

inductive ErrorKind where
  | invalidRequest
  | invalidToken
  | replayStoreUnavailable
deriving DecidableEq,Repr

def ErrorKind.code : ErrorKind → String
  | .invalidRequest => "invalid_request"
  | .invalidToken | .replayStoreUnavailable => "invalid_token"

def ErrorKind.status : ErrorKind → Nat
  | .invalidRequest | .invalidToken => 401
  | .replayStoreUnavailable => 503

structure VerifyError where
  kind : ErrorKind
  message : String
  dpop : Bool
deriving DecidableEq,Repr

def invalidToken (message : String) : VerifyError := ⟨.invalidToken,message,false⟩

def invalidTokenDpop (message : String) : VerifyError := ⟨.invalidToken,message,true⟩

def invalidRequest (message : String) : VerifyError := ⟨.invalidRequest,message,false⟩

def escapeQuoted (value : String) : String :=
  String.ofList (Text.replace '"' ['\\','"'] (Text.replace '\\' ['\\','\\'] value.toList))

def VerifyError.wwwAuthenticate (error : VerifyError) (trustedIssuers dpopAlgs : List String)
    (requireDpop : Bool) : String :=
  let dpop := error.dpop || requireDpop
  let scheme := if dpop then "DPoP" else "Bearer"
  let issuers := String.intercalate " " trustedIssuers
  let params := [
    "error=\"" ++ error.kind.code ++ "\"",
    "error_description=\"" ++ escapeQuoted error.message ++ "\"",
    "scope=\"webid\"",
    "issuer=\"" ++ escapeQuoted issuers ++ "\""] ++
    (if dpop then ["algs=\"" ++ String.intercalate " " dpopAlgs ++ "\""] else [])
  scheme ++ " " ++ String.intercalate ", " params

end SolidOidcVerifier
