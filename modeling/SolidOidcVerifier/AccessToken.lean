import SolidOidcVerifier.Signature
import SolidOidcVerifier.Verifier

/-! The rule for access tokens: the signature under a key of the issuer and the signed claims. -/
namespace SolidOidcVerifier
open Foundation

variable {S : Type}

/-- `exp`, `nbf` and `iat` in machine arithmetic, with the clock tolerance on either side. -/
structure Temporal (build : Build) (config : VerifierConfig) (now : Int) (claims : Claims)
    (exp iat : Int) : Prop where
  expiry : claims.i64 "exp" = some exp
  unexpired : ∃ earliest, MachineInt.i64 build.overflowChecks
    (now-MachineInt.wrapI64 config.clockToleranceSecs.toNat) = some earliest ∧ earliest ≤ exp
  begun : ∀ nbf, claims.i64 "nbf" = some nbf → ∃ latest, MachineInt.i64 build.overflowChecks
    (now+MachineInt.wrapI64 config.clockToleranceSecs.toNat) = some latest ∧ nbf ≤ latest
  issued : claims.i64 "iat" = some iat
  past : ∃ least, MachineInt.i64 build.overflowChecks
    (iat-MachineInt.wrapI64 config.clockToleranceSecs.toNat) = some least ∧ least ≤ now

theorem checkExp_ok (build : Build) (now tol : Int) (claims : Claims) (value : Unit) :
    checkExp build now tol claims = .ok value ↔ ∃ exp, claims.i64 "exp" = some exp ∧
      ∃ earliest, MachineInt.i64 build.overflowChecks (now-tol) = some earliest ∧ earliest ≤ exp := by
  unfold checkExp
  cases claims.i64 "exp" with
  | none => simp
  | some exp => simp [Except.bind_ok,arith_ok,rejectUnless_ok]

theorem checkNbf_ok (build : Build) (now tol : Int) (claims : Claims) (value : Unit) :
    checkNbf build now tol claims = .ok value ↔ ∀ nbf, claims.i64 "nbf" = some nbf →
      ∃ latest, MachineInt.i64 build.overflowChecks (now+tol) = some latest ∧ nbf ≤ latest := by
  unfold checkNbf
  cases claims.i64 "nbf" with
  | none => simp
  | some nbf => simp [Except.bind_ok,arith_ok,rejectUnless_ok]

theorem checkIat_ok (build : Build) (now tol : Int) (claims : Claims) (value : Unit) :
    checkIat build now tol claims = .ok value ↔ ∃ iat, claims.i64 "iat" = some iat ∧
      ∃ least, MachineInt.i64 build.overflowChecks (iat-tol) = some least ∧ least ≤ now := by
  unfold checkIat
  cases claims.i64 "iat" with
  | none => simp
  | some iat => simp [Except.bind_ok,arith_ok,rejectUnless_ok]

theorem checkTemporal_ok (build : Build) (config : VerifierConfig) (now : Int) (claims : Claims)
    (value : Unit) :
    checkTemporal build config now claims = .ok value ↔ ∃ exp iat, Temporal build config now claims exp iat := by
  unfold checkTemporal
  simp only [Except.bind_ok,checkExp_ok,checkNbf_ok,checkIat_ok,exists_const]
  constructor
  · intro run
    obtain ⟨⟨exp,expiry,unexpired⟩,begun,iat,issued,past⟩ := run
    exact ⟨exp,iat,expiry,unexpired,begun,issued,past⟩
  · intro temporal
    obtain ⟨exp,iat,temporal⟩ := temporal
    exact ⟨⟨exp,temporal.expiry,temporal.unexpired⟩,temporal.begun,iat,temporal.issued,temporal.past⟩

def NamesAudience (claims : Claims) (audience : String) : Prop :=
  claims.get "aud" = some (.string audience) ∨
    ∃ items, claims.get "aud" = some (.array items) ∧ .string audience ∈ items

theorem audienceMatches_iff (claims : Claims) (audience : String) :
    audienceMatches claims audience = true ↔ NamesAudience claims audience := by
  unfold audienceMatches NamesAudience
  cases claims.get "aud" with
  | none => simp
  | some value =>
    cases value with
    | string text => simp
    | array items => simp [List.any_eq_true,Json.asStr_some]
    | _ => simp

theorem requireClaims_ok (claims : Claims) (names : List String) (value : Unit) :
    requireClaims claims names = .ok value ↔
      ∀ name ∈ names, ∃ text, claims.str name = some text ∧ text ≠ "" := by
  induction names with
  | nil => simp [requireClaims]
  | cons name rest ih =>
    unfold requireClaims
    simp only [Except.bind_ok,Except.ensure_ok,exists_const,ih,presentStr_ne_none,List.mem_cons,
      forall_eq_or_imp]

structure AccessClaims (env : Env S) (config : VerifierConfig) (issuer : String) (claims : Claims) : Prop where
  required : ∀ name ∈ ["sub","jti","client_id"], ∃ text, claims.str name = some text ∧ text ≠ ""
  issuer : claims.str "iss" = some issuer
  audience : NamesAudience claims config.audience
  temporal : ∃ exp iat, Temporal env.build config (nowSecs env.tokenClock) claims exp iat

theorem checkAccessClaims_ok (env : Env S) (config : VerifierConfig) (issuer : String) (claims : Claims)
    (value : Unit) :
    checkAccessClaims env config issuer claims = .ok value ↔ AccessClaims env config issuer claims := by
  unfold checkAccessClaims
  simp only [Except.bind_ok,liftStop_ok,rejectUnless_ok,exists_const,requireClaims_ok,checkTemporal_ok,
    audienceMatches_iff]
  constructor
  · intro run
    obtain ⟨required,issuer,audience,temporal⟩ := run
    exact ⟨required,issuer,audience,temporal⟩
  · intro claims
    exact ⟨claims.required,claims.issuer,claims.audience,claims.temporal⟩

/-- An access token that some key of its issuer verifies, with acceptable signed claims. -/
def ValidAccessToken (env : Env S) (config : VerifierConfig) (token issuer : String) (claims : Claims) : Prop :=
  (∃ keys, env.keysFor issuer = .ok keys ∧ VerifiedJws env.build env.crates token keys "at+jwt" claims) ∧
    AccessClaims env config issuer claims

/-- A token has one payload, whatever issuer it is checked for. -/
theorem ValidAccessToken.unique {env : Env S} (law : PayloadLaw env.crates) {config : VerifierConfig}
    {token issuer otherIssuer : String} {claims other : Claims} (valid : ValidAccessToken env config token issuer claims)
    (again : ValidAccessToken env config token otherIssuer other) : claims = other := by
  obtain ⟨⟨_,_,verified⟩,_⟩ := valid
  obtain ⟨⟨_,_,second⟩,_⟩ := again
  have payload := second.payload env.build env.crates law
  rw [verified.payload env.build env.crates law] at payload
  exact Option.some.inj payload

theorem keysFor_ok (env : Env S) (issuer : String) (world after : World S) (keys : List Jwk) :
    keysFor env issuer world = (.ok keys,after) ↔
      env.keysFor issuer = .ok keys ∧ after = {world with calls := world.calls ++ [.keysFor issuer]} := by
  unfold keysFor
  rw [Prod.mk.injEq,Except.mapError_ok]
  exact and_congr_right (fun _ => eq_comm)

theorem validateAccessToken_ok (env : Env S) (law : PayloadLaw env.crates) (config : VerifierConfig)
    (parsed : Parsed) (issuer : String) (world after : World S) (claims : Claims) :
    validateAccessToken env config parsed issuer world = (.ok claims,after) ↔
      ValidAccessToken env config parsed.token issuer claims ∧
        after = {world with calls := world.calls ++ [.keysFor issuer]} := by
  unfold validateAccessToken ValidAccessToken verifiedAccessToken
  simp only [Exec.bind_ok,Exec.lift_ok,Exec.checked_ok,keysFor_ok,Except.ensure_ok,Except.mapError_ok,
    checkAccessClaims_ok,verifySignature_ok _ _ law,Exec.pure_run]
  constructor
  · intro run
    obtain ⟨header,first,⟨peeked,same⟩,_,second,⟨policy,again⟩,_,third,⟨verifiable,unchanged⟩,keys,fourth,
      ⟨served,called⟩,found,fifth,⟨verified,kept⟩,_,last,⟨checked,left⟩,done⟩ := run
    subst same again unchanged kept left called
    cases done
    exact ⟨⟨⟨keys,served,verified⟩,checked⟩,rfl⟩
  · intro valid
    obtain ⟨⟨⟨keys,served,verified⟩,checked⟩,called⟩ := valid
    obtain ⟨header,peeked,policy,verifiable,_⟩ := id verified
    exact ⟨header,world,⟨peeked,rfl⟩,(),world,⟨policy,rfl⟩,(),world,⟨verifiable,rfl⟩,keys,after,
      ⟨served,called⟩,claims,after,⟨verified,rfl⟩,(),after,⟨checked,rfl⟩,rfl⟩

end SolidOidcVerifier
