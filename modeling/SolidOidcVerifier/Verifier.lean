import SolidOidcVerifier.Config
import SolidOidcVerifier.Jwt

/-! The resource-server token verifier. -/
namespace SolidOidcVerifier
open Foundation

structure AuthRequest where
  authorization : Option String
  dpop : Option String
  method : String
  url : String
  clientCertX5tS256 : Option String

inductive X5tS256 where
  | thumbprint (value : String)
  | malformed
deriving DecidableEq,Repr

structure VerifiedToken where
  webId : Option String
  issuer : Option String
  clientId : Option String
  scopes : List String
  cnfJkt : Option String
  cnfX5tS256 : Option X5tS256
  expiry : Option Int
deriving DecidableEq,Repr

def VerifiedToken.public : VerifiedToken := ⟨none,none,none,[],none,none,none⟩

def VerifiedToken.isPublic (token : VerifiedToken) : Bool := token.webId.isNone

/-- The answer of `ReplayStore::mark`; a backend may also panic. -/
inductive MarkReply where
  | new
  | replay
  | backendError (text : String)
  | panicked
deriving DecidableEq,Repr

/-- A replay store over its state. `mark` takes the TTL in whole seconds. -/
structure ReplayStore (S : Type) where
  mark : String → Nat → S → MarkReply × S

/-- What one call of `verify` meets. The two clocks are its two readings of `SystemTime::now`, in
seconds since the epoch (`none` before it). -/
structure Env (S : Type) where
  build : Build
  crates : Crates
  keysFor : String → Except String (List Jwk)
  replay : ReplayStore S
  tokenClock : Option Nat
  proofClock : Option Nat

inductive Call where
  | keysFor (issuer : String)
  | mark (jti : String) (ttl : Nat)
  | resolve (webId : String)
deriving DecidableEq,Repr

structure World (S : Type) where
  store : S
  calls : List Call

structure Parsed where
  scheme : String
  token : String

def parseAuthorization (crates : Crates) (header : Option String) : Option Parsed := do
  let header ← header
  let (scheme,rest) ← Text.splitOnce ' ' (Text.trim header.toList)
  let token := Text.trim rest
  if token = [] then none
  else some ⟨String.ofList (Text.toLowercase crates.finalSigma scheme),String.ofList token⟩

def constantTimeEq (a b : List UInt8) : Bool :=
  if a.length ≠ b.length then false
  else (List.zipWith (· ^^^ ·) a b).foldl (· ||| ·) 0 == 0

def ath (crates : Crates) (token : String) : String := digestText crates token

def cnfMember (claims : Claims) (name : String) : Option Json :=
  ((claims.get "cnf").bind Json.asObject).bind (·.get name)

def extractCnfJkt (claims : Claims) : Option String :=
  ((cnfMember claims "jkt").bind Json.asStr).filter (· ≠ "")

def isValidX5tS256 (s : String) : Bool :=
  match b64urlDecode s.toList with
  | some bytes => bytes.length == 32
  | none => false

def readX5tS256 (raw : Json) : X5tS256 :=
  match raw.asStr with
  | some s => if isValidX5tS256 s then .thumbprint s else .malformed
  | none => .malformed

def extractCnfX5tS256 (claims : Claims) : Option X5tS256 := (cnfMember claims "x5t#S256").map readX5tS256

def X5tS256.wellFormed : X5tS256 → Option String
  | .thumbprint value => some value
  | .malformed => none

def tokenIsCertBound (crates : Crates) (token : String) : Bool :=
  (((peekClaims crates token).bind extractCnfX5tS256).bind X5tS256.wellFormed).isSome

def audienceMatches (claims : Claims) (audience : String) : Bool :=
  match claims.get "aud" with
  | some (.string s) => s == audience
  | some (.array items) => items.any (fun v => v.asStr == some audience)
  | _ => false

def normalizeHtu (url : UrlCrate) (htu : String) : String :=
  match url.parse htu with
  | some u => url.toText (url.clearFragment (url.clearQuery u))
  | none => htu

def nowSecs (clock : Option Nat) : Int :=
  match clock with
  | some secs => MachineInt.wrapI64 secs
  | none => 0

/-- An `i64` operation whose overflow panics. -/
def arith {ε : Type} (value : Option Int) : Except (Stop ε) Int := orError value .panicked

def rejectUnless (condition : Prop) [Decidable condition] (error : VerifyError) :
    Except (Stop VerifyError) Unit := ensure condition (.rejected error)

theorem arith_ok {ε : Type} (value : Option Int) (result : Int) :
    (arith value : Except (Stop ε) Int) = .ok result ↔ value = some result := Except.orError_ok _ _ _

theorem rejectUnless_ok (condition : Prop) [Decidable condition] (error : VerifyError) (value : Unit) :
    rejectUnless condition error = .ok value ↔ condition := Except.ensure_ok _ _ _

def checkExp (build : Build) (now tol : Int) (claims : Claims) : Except (Stop VerifyError) Unit :=
  match claims.i64 "exp" with
  | some exp => do
    let earliest ← arith (MachineInt.i64 build.overflowChecks (now-tol))
    rejectUnless (¬earliest > exp) (invalidToken "Access token verification failed: token expired.")
  | none => .error (.rejected (invalidToken "Access token verification failed: missing exp."))

def checkNbf (build : Build) (now tol : Int) (claims : Claims) : Except (Stop VerifyError) Unit :=
  match claims.i64 "nbf" with
  | some nbf => do
    let latest ← arith (MachineInt.i64 build.overflowChecks (now+tol))
    rejectUnless (¬latest < nbf)
      (invalidToken "Access token verification failed: token not yet valid.")
  | none => .ok ()

def checkIat (build : Build) (now tol : Int) (claims : Claims) : Except (Stop VerifyError) Unit :=
  match claims.i64 "iat" with
  | some iat => do
    let issued ← arith (MachineInt.i64 build.overflowChecks (iat-tol))
    rejectUnless (¬issued > now)
      (invalidToken "Access token verification failed: iat in the future.")
  | none => .error (.rejected (invalidToken "Access token verification failed: missing iat."))

def checkTemporal (build : Build) (config : VerifierConfig) (now : Int) (claims : Claims) :
    Except (Stop VerifyError) Unit := do
  let tol := MachineInt.wrapI64 config.clockToleranceSecs.toNat
  checkExp build now tol claims
  checkNbf build now tol claims
  checkIat build now tol claims

/-- The symmetric integer-second window of a proof's `iat`. -/
def checkFreshness (build : Build) (config : VerifierConfig) (now iat : Int) :
    Except (Stop VerifyError) Unit := do
  let width ← orError (config.freshnessWidth build) .panicked
  let window := MachineInt.wrapI64 width
  let difference ← arith (MachineInt.i64 build.overflowChecks (now-iat))
  let distance ← arith (MachineInt.absI64 build.overflowChecks difference)
  rejectUnless (¬distance > window) (invalidTokenDpop "DPoP proof iat is not recent enough.")

def checkAth (crates : Crates) (claims : Claims) (accessToken : String) (requireAth : Bool) :
    Except VerifyError Unit :=
  match claims.str "ath" with
  | some a => ensure (a = ath crates accessToken) (invalidTokenDpop "DPoP proof ath mismatch.")
  | none => ensure (¬requireAth) (invalidTokenDpop "DPoP proof is missing ath.")

def presentStr (claims : Claims) (name : String) : Option String := (claims.str name).filter (· ≠ "")

theorem presentStr_some (claims : Claims) (name text : String) :
    presentStr claims name = some text ↔ claims.str name = some text ∧ text ≠ "" := by
  unfold presentStr
  rw [Option.filter_eq_some_iff]
  simp

theorem presentStr_ne_none (claims : Claims) (name : String) :
    presentStr claims name ≠ none ↔ ∃ text, claims.str name = some text ∧ text ≠ "" := by
  rw [Option.ne_none_iff_exists']
  simp only [presentStr_some]

def proofKeyError (error : JwkError) : VerifyError :=
  invalidTokenDpop ("DPoP proof key is invalid: " ++ error.display ++ ".")

/-- The claims of a proof verified by its embedded key, with the prefix its errors get. -/
def verifiedProof (build : Build) (crates : Crates) (proof : String) : Except VerifyError (Claims × Jwk) :=
  (verifyProofWithEmbeddedJwk build crates proof "dpop+jwt").mapError
    (fun e => invalidTokenDpop ("DPoP proof verification failed: " ++ e.message))

def liftStop {α : Type} (result : Except VerifyError α) : Except (Stop VerifyError) α :=
  result.mapError .rejected

theorem liftStop_ok {α : Type} (result : Except VerifyError α) (value : α) :
    liftStop result = .ok value ↔ result = .ok value := by
  cases result <;> simp [liftStop,Except.mapError]

def validateDpopProof (build : Build) (crates : Crates) (config : VerifierConfig) (now : Int)
    (req : AuthRequest) (proof accessToken cnfJkt : String) (requireAth : Bool) :
    Except (Stop VerifyError) Unit := do
  let (claims,jwk) ← liftStop (verifiedProof build crates proof)
  rejectUnless (Text.eqIgnoreAsciiCase ((claims.str "htm").getD "").toList req.method.toList)
    (invalidTokenDpop "DPoP proof htm mismatch.")
  rejectUnless ((claims.str "htu").map (normalizeHtu crates.url) = some (normalizeHtu crates.url req.url))
    (invalidTokenDpop "DPoP proof htu mismatch.")
  rejectUnless (presentStr claims "jti" ≠ none) (invalidTokenDpop "DPoP proof is missing a jti.")
  let iat ← liftStop (orError (claims.i64 "iat") (invalidTokenDpop "DPoP proof is missing iat."))
  checkFreshness build config now iat
  liftStop (checkAth crates claims accessToken requireAth)
  let proofJkt ← liftStop ((jwk.thumbprintSha256 crates).mapError proofKeyError)
  rejectUnless (proofJkt = cnfJkt)
    (invalidTokenDpop "JWT Access Token confirmation mismatch (cnf.jkt != proof jwk thumbprint).")

def validateCertBinding (req : AuthRequest) (expectedThumbprint : String) : Except VerifyError Unit := do
  let presented ← orError req.clientCertX5tS256
    (invalidToken "Certificate-bound access token requires a client certificate (none presented).")
  ensure (constantTimeEq (Text.asBytes presented) (Text.asBytes expectedThumbprint))
    (invalidToken "Certificate-bound access token confirmation mismatch (cnf.x5t#S256 != presented client certificate).")

/-- (5a): the DPoP proof, when one is required. -/
def checkDpop (build : Build) (crates : Crates) (config : VerifierConfig) (now : Int)
    (req : AuthRequest) (accessToken : String) (mustDpop : Bool) (cnfJkt : Option String) :
    Except (Stop VerifyError) Unit :=
  if mustDpop then do
    let proof ← liftStop (orError req.dpop
      (invalidTokenDpop "DPoP proof is required (no DPoP HTTP Header)."))
    let cnfJkt ← liftStop (orError cnfJkt
      (invalidTokenDpop "Access token is not DPoP-bound (no cnf.jkt confirmation claim)."))
    let athCompat := config.allowMissingAth && !proofHasAth crates proof
    validateDpopProof build crates config now req proof accessToken cnfJkt !athCompat
  else .ok ()

/-- (5b): the client certificate, when the token is bound to one. -/
def checkCert (req : AuthRequest) (certThumbprint : Option String) : Except VerifyError Unit :=
  match certThumbprint with
  | some expected => validateCertBinding req expected
  | none => .ok ()

def mustDpop (config : VerifierConfig) (dpopScheme : Bool) (claims : Claims) : Bool :=
  (extractCnfJkt claims).isSome || dpopScheme ||
    (config.requireDpop && !((extractCnfX5tS256 claims).bind X5tS256.wellFormed).isSome)

/-- The proof of possession that `validate_token` asks of signature-verified claims. -/
def checkPossession (build : Build) (crates : Crates) (config : VerifierConfig) (now : Int)
    (req : AuthRequest) (accessToken : String) (dpopScheme : Bool) (claims : Claims) :
    Except (Stop VerifyError) Unit := do
  let cnfX5t := extractCnfX5tS256 claims
  rejectUnless (cnfX5t ≠ some .malformed)
    (invalidToken "Access token certificate binding (cnf.x5t#S256) is malformed.")
  checkDpop build crates config now req accessToken (mustDpop config dpopScheme claims)
    (extractCnfJkt claims)
  liftStop (checkCert req (cnfX5t.bind X5tS256.wellFormed))

/-- The claims RFC 9068 requires to be non-empty strings, in the order they are checked. -/
def requireClaims (claims : Claims) : List String → Except VerifyError Unit
  | [] => .ok ()
  | claim :: rest => do
    ensure (presentStr claims claim ≠ none)
      (invalidToken ("Access token is missing the '" ++ claim ++ "' claim."))
    requireClaims claims rest

variable {S : Type}

def keysFor (env : Env S) (issuer : String) : Exec (World S) VerifyError (List Jwk) := fun world =>
  ((env.keysFor issuer).mapError (fun _ => .rejected (invalidToken "Access token verification failed.")),
    {world with calls := world.calls ++ [.keysFor issuer]})

def verifiedAccessToken (env : Env S) (token : String) (keys : List Jwk) : Except VerifyError Claims :=
  (verifySignature env.build env.crates token keys (some "at+jwt")).mapError
    (fun e => invalidToken ("Access token verification failed: " ++ e.message))

def checkAccessClaims (env : Env S) (config : VerifierConfig) (claimedIssuer : String) (claims : Claims) :
    Except (Stop VerifyError) Unit := do
  liftStop (requireClaims claims ["sub","jti","client_id"])
  rejectUnless (claims.str "iss" = some claimedIssuer) (invalidToken "Access token issuer mismatch.")
  rejectUnless (audienceMatches claims config.audience)
    (invalidToken "Access token verification failed: audience mismatch.")
  checkTemporal env.build config (nowSecs env.tokenClock) claims

def validateAccessToken (env : Env S) (config : VerifierConfig) (parsed : Parsed)
    (claimedIssuer : String) : Exec (World S) VerifyError Claims := do
  let header ← Exec.lift (peekHeader env.crates parsed.token)
  Exec.lift (ensure (algInPolicy header.alg)
    (invalidToken ("Unsupported or non-asymmetric signature algorithm: " ++ header.alg ++ ".")))
  Exec.lift (ensure (algIsVerifiable env.build header.alg) (invalidToken es512KnownNarrowing))
  let keys ← keysFor env claimedIssuer
  let claims ← Exec.lift (verifiedAccessToken env parsed.token keys)
  Exec.checked (checkAccessClaims env config claimedIssuer claims)
  return claims

def validateToken (env : Env S) (config : VerifierConfig) (req : AuthRequest) (parsed : Parsed)
    (claimedIssuer : String) (dpopScheme : Bool) : Exec (World S) VerifyError Claims := do
  let claims ← validateAccessToken env config parsed claimedIssuer
  Exec.checked (checkPossession env.build env.crates config (nowSecs env.proofClock) req parsed.token
    dpopScheme claims)
  return claims

def extractWebid (url : UrlCrate) (config : VerifierConfig) (claims : Claims) : Except VerifyError String := do
  let raw ← orError (presentStr claims config.webidClaim)
    (invalidToken ("Token is missing the '" ++ config.webidClaim ++ "' claim."))
  validateWebidClaim url raw

def checkAuthorizedParty (config : VerifierConfig) (claims : Claims) : Except VerifyError Unit :=
  if config.authorizedParties = [] then .ok ()
  else match (claims.str "azp").or (claims.str "client_id") with
    | some a => ensure (a ∈ config.authorizedParties)
        (invalidToken "Token authorized party is not accepted.")
    | none => .error (invalidToken "Token authorized party is not accepted.")

def mark (env : Env S) (jti : String) (ttl : Nat) : Exec (World S) VerifyError MarkReply := fun world =>
  let (reply,store) := env.replay.mark jti ttl world.store
  (.ok reply,⟨store,world.calls ++ [.mark jti ttl]⟩)

def acceptReply (config : VerifierConfig) : MarkReply → Except (Stop VerifyError) Unit
  | .new => .ok ()
  | .replay => .error (.rejected (invalidTokenDpop "DPoP proof has already been used (replay)."))
  | .backendError _ =>
    if config.replayFailClosed then
      .error (.rejected ⟨.replayStoreUnavailable,"Replay protection backend is unavailable.",true⟩)
    else .ok ()
  | .panicked => .error .panicked

def proofJti (crates : Crates) (proof : String) : Option String :=
  (peekClaims crates proof).bind (presentStr · "jti")

def checkReplay (env : Env S) (config : VerifierConfig) (proof : String) : Exec (World S) VerifyError Unit := do
  let jti ← Exec.lift (orError (proofJti env.crates proof) (invalidTokenDpop "DPoP proof is missing a jti."))
  let ttl ← Exec.checked (orError (config.replayTtl env.build) .panicked)
  let reply ← mark env jti ttl
  Exec.checked (acceptReply config reply)

def resolve (resolver : WebIdResolver) (webId : String) :
    Exec (World S) VerifyError (Except String WebIdProfile) := fun world =>
  (.ok (resolver webId),{world with calls := world.calls ++ [.resolve webId]})

def profileLists (profile : Except String WebIdProfile) (issuer : String) : Bool :=
  match profile with
  | .ok profile => issuer ∈ profile.issuers
  | .error _ => false

def bidirectionalRejection : VerifyError := invalidToken "WebID issuer check failed."

def checkBidirectional (config : VerifierConfig) (webId issuer : String) : Exec (World S) VerifyError Unit :=
  if config.bidirectionalMode = .off then pure ()
  else match config.webidResolver with
    | none => Exec.lift (ensure (config.bidirectionalMode ≠ .strict) bidirectionalRejection)
    | some resolver => do
      let profile ← resolve resolver webId
      Exec.lift (ensure (profileLists profile issuer ∨ config.bidirectionalMode ≠ .strict)
        bidirectionalRejection)

/-- (2): a bearer presentation under `require_dpop` needs a certificate binding. -/
def schemeGate (crates : Crates) (config : VerifierConfig) (parsed : Parsed) : Except VerifyError Unit :=
  if parsed.scheme = "bearer" then
    ensure (¬(config.requireDpop ∧ ¬tokenIsCertBound crates parsed.token))
      (invalidRequest "DPoP-bound token required; Bearer not accepted.")
  else if parsed.scheme = "dpop" then .ok ()
  else .error (invalidRequest ("Unsupported Authorization scheme: " ++ parsed.scheme ++ "."))

/-- A request that passed the checks (2) to (6). -/
structure Authenticated where
  claims : Claims
  claimedIssuer : String
  webId : String

def authenticate (env : Env S) (config : VerifierConfig) (req : AuthRequest) (parsed : Parsed) :
    Exec (World S) VerifyError Authenticated := do
  Exec.lift (schemeGate env.crates config parsed)
  let claimedIssuer ← Exec.lift (peekIssuer env.crates parsed.token)
  Exec.lift (ensure (claimedIssuer ∈ config.trustedIssuers) (invalidToken "Token issuer is not trusted."))
  let dpopScheme := parsed.scheme == "dpop"
  let claims ← validateToken env config req parsed claimedIssuer dpopScheme
  let webId ← Exec.lift (extractWebid env.crates.url config claims)
  Exec.lift (checkAuthorizedParty config claims)
  return ⟨claims,claimedIssuer,webId⟩

/-- (7): the proof's `jti`, whenever the request carries a DPoP header. -/
def replayStep (env : Env S) (config : VerifierConfig) (req : AuthRequest) : Exec (World S) VerifyError Unit :=
  match req.dpop with
  | some proof => checkReplay env config proof
  | none => pure ()

def Authenticated.issuer (authenticated : Authenticated) : String :=
  (authenticated.claims.str "iss").getD authenticated.claimedIssuer

def Authenticated.credentials (authenticated : Authenticated) : VerifiedToken where
  webId := some authenticated.webId
  issuer := some authenticated.issuer
  clientId := authenticated.claims.str "client_id"
  scopes := ((authenticated.claims.str "scope").map
    (fun s => (Text.splitWhitespace s.toList).map String.ofList)).getD []
  cnfJkt := extractCnfJkt authenticated.claims
  cnfX5tS256 := extractCnfX5tS256 authenticated.claims
  expiry := authenticated.claims.i64 "exp"

def verify (env : Env S) (config : VerifierConfig) (req : AuthRequest) :
    Exec (World S) VerifyError VerifiedToken :=
  match parseAuthorization env.crates req.authorization with
  | none => pure VerifiedToken.public
  | some parsed => do
    let authenticated ← authenticate env config req parsed
    replayStep env config req
    checkBidirectional config authenticated.webId authenticated.issuer
    return authenticated.credentials

def wwwAuthenticate (config : VerifierConfig) (error : VerifyError) : String :=
  error.wwwAuthenticate config.trustedIssuers dpopAlgs config.requireDpop

end SolidOidcVerifier
