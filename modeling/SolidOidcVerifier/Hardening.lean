import SolidOidcVerifier.Foundation.TwoRuns
import SolidOidcVerifier.ReplayMarks

/-! Hardening a configuration only rejects more: what passes a configuration passes a relaxed one, with the
same credentials and the same replay store. -/
namespace SolidOidcVerifier
open Foundation

structure Relaxes (config lax : VerifierConfig) : Prop where
  trustedIssuers : config.trustedIssuers ⊆ lax.trustedIssuers
  webidClaim : lax.webidClaim = config.webidClaim
  requireDpop : lax.requireDpop = true → config.requireDpop = true
  allowMissingAth : config.allowMissingAth = true → lax.allowMissingAth = true
  clockToleranceSecs : lax.clockToleranceSecs = config.clockToleranceSecs
  audience : lax.audience = config.audience
  authorizedParties : lax.authorizedParties = config.authorizedParties ∨
    (config.authorizedParties ≠ [] ∧
      (lax.authorizedParties = [] ∨ config.authorizedParties ⊆ lax.authorizedParties))
  bidirectionalMode : lax.bidirectionalMode = config.bidirectionalMode ∨ lax.bidirectionalMode = .off ∨
    (config.bidirectionalMode = .strict ∧ lax.bidirectionalMode = .warn)
  webidResolver : lax.webidResolver = config.webidResolver
  replayFailClosed : lax.replayFailClosed = true → config.replayFailClosed = true

def SameStore {S : Type} (left right : World S) : Prop := left.store = right.store

theorem keysFor_follows {S : Type} (env : Env S) (issuer : String) :
    Exec.Follows SameStore (fun _ => SameStore) (keysFor env issuer) (keysFor env issuer) := by
  intro left right same keys reached run
  obtain ⟨served,called⟩ := (keysFor_ok _ _ _ _ _).mp run
  refine ⟨_,(keysFor_ok _ _ _ _ _).mpr ⟨served,rfl⟩,?_⟩
  rw [called]
  exact same

theorem validateAccessToken_follows {S : Type} (env : Env S) (config : VerifierConfig) (parsed : Parsed)
    (issuer : String) : Exec.Follows SameStore (fun _ => SameStore)
      (validateAccessToken env config parsed issuer) (validateAccessToken env config parsed issuer) := by
  have lifted : ∀ {α : Type} (result : Except VerifyError α), Exec.Follows SameStore (fun _ => SameStore)
      (Exec.lift result : Exec (World S) VerifyError α) (Exec.lift result) :=
    fun result => Exec.follows_lift SameStore result result (fun _ found => found)
  apply Exec.follows_keeps SameStore (lifted _)
  intro header
  apply Exec.follows_keeps SameStore (lifted _)
  intro _
  apply Exec.follows_keeps SameStore (lifted _)
  intro _
  apply Exec.follows_keeps SameStore (keysFor_follows env issuer)
  intro keys
  apply Exec.follows_keeps SameStore (lifted _)
  intro claims
  apply Exec.follows_keeps SameStore
  · exact Exec.follows_checked SameStore _ _ (fun _ found => found)
  · intro _
    exact Exec.follows_pure SameStore claims

section stages

variable {S : Type} (build : Build) (crates : Crates) (env : Env S) (config lax : VerifierConfig)
  (relaxes : Relaxes config lax)

include relaxes

theorem schemeGate_relaxed (parsed : Parsed) (value : Unit) (passed : schemeGate crates config parsed = .ok value) :
    schemeGate crates lax parsed = .ok value := by
  obtain ⟨dpopScheme,named,bound⟩ := (schemeGate_ok _ _ _ _).mp passed
  refine (schemeGate_ok _ _ _ _).mpr ⟨dpopScheme,named,?_⟩
  intro bearer required
  exact bound bearer (relaxes.requireDpop required)

theorem freshnessWidth_relaxed : lax.freshnessWidth build = config.freshnessWidth build := by
  unfold VerifierConfig.freshnessWidth
  rw [relaxes.clockToleranceSecs]

theorem replayTtl_relaxed : lax.replayTtl build = config.replayTtl build := by
  unfold VerifierConfig.replayTtl
  rw [freshnessWidth_relaxed build config lax relaxes]

theorem checkFreshness_relaxed (now iat : Int) :
    checkFreshness build lax now iat = checkFreshness build config now iat := by
  unfold checkFreshness
  rw [freshnessWidth_relaxed build config lax relaxes]

theorem checkAth_relaxed (claims : Claims) (accessToken proof : String) (value : Unit)
    (passed : checkAth crates claims accessToken (!(config.allowMissingAth && !proofHasAth crates proof)) = .ok value) :
    checkAth crates claims accessToken (!(lax.allowMissingAth && !proofHasAth crates proof)) = .ok value := by
  rcases (checkAth_ok _ _ _ _ _).mp passed with hash | ⟨compat,absent⟩
  · exact (checkAth_ok _ _ _ _ _).mpr (Or.inl hash)
  · refine (checkAth_ok _ _ _ _ _).mpr (Or.inr ⟨?_,absent⟩)
    simp only [Bool.not_eq_false',Bool.and_eq_true] at compat ⊢
    exact ⟨relaxes.allowMissingAth compat.1,compat.2⟩

theorem validateDpopProof_relaxed (now : Int) (req : AuthRequest) (proof accessToken jkt : String) (value : Unit)
    (passed : validateDpopProof build crates config now req proof accessToken jkt
      (!(config.allowMissingAth && !proofHasAth crates proof)) = .ok value) :
    validateDpopProof build crates lax now req proof accessToken jkt
      (!(lax.allowMissingAth && !proofHasAth crates proof)) = .ok value := by
  unfold validateDpopProof at passed ⊢
  rw [Except.bind_ok] at passed ⊢
  obtain ⟨signed,verified,passed⟩ := passed
  refine ⟨signed,verified,?_⟩
  simp only [Except.bind_ok,checkFreshness_relaxed build config lax relaxes,liftStop_ok] at passed ⊢
  obtain ⟨_,htm,_,htu,_,jti,iat,issued,_,fresh,_,hash,bound⟩ := passed
  exact ⟨_,htm,_,htu,_,jti,iat,issued,_,fresh,_,
    checkAth_relaxed crates config lax relaxes _ accessToken proof _ hash,bound⟩

theorem mustDpop_relaxed (dpopScheme : Bool) (claims : Claims) (must : mustDpop lax dpopScheme claims = true) :
    mustDpop config dpopScheme claims = true := by
  unfold mustDpop at must ⊢
  simp only [Bool.or_eq_true,Bool.and_eq_true] at must ⊢
  rcases must with bound | required
  · exact Or.inl bound
  · exact Or.inr ⟨relaxes.requireDpop required.1,required.2⟩

theorem checkDpop_relaxed (now : Int) (req : AuthRequest) (accessToken : String) (dpopScheme : Bool)
    (claims : Claims) (jkt : Option String) (value : Unit)
    (passed : checkDpop build crates config now req accessToken (mustDpop config dpopScheme claims) jkt = .ok value) :
    checkDpop build crates lax now req accessToken (mustDpop lax dpopScheme claims) jkt = .ok value := by
  cases must : mustDpop lax dpopScheme claims with
  | false => rfl
  | true =>
    rw [mustDpop_relaxed config lax relaxes dpopScheme claims must] at passed
    unfold checkDpop at passed ⊢
    simp only [if_true,Except.bind_ok] at passed ⊢
    obtain ⟨proof,given,jkt,bound,valid⟩ := passed
    exact ⟨proof,given,jkt,bound,validateDpopProof_relaxed build crates config lax relaxes now req proof accessToken
      jkt value valid⟩

theorem checkPossession_relaxed (now : Int) (req : AuthRequest) (accessToken : String) (dpopScheme : Bool)
    (claims : Claims) (value : Unit)
    (passed : checkPossession build crates config now req accessToken dpopScheme claims = .ok value) :
    checkPossession build crates lax now req accessToken dpopScheme claims = .ok value := by
  unfold checkPossession at passed ⊢
  simp only [Except.bind_ok] at passed ⊢
  obtain ⟨_,wellFormed,_,proved,presented⟩ := passed
  exact ⟨_,wellFormed,_,checkDpop_relaxed build crates config lax relaxes now req accessToken dpopScheme claims _ _
    proved,presented⟩

theorem checkAuthorizedParty_relaxed (claims : Claims) (value : Unit)
    (passed : checkAuthorizedParty config claims = .ok value) : checkAuthorizedParty lax claims = .ok value := by
  rw [checkAuthorizedParty_ok] at passed ⊢
  unfold AcceptedParty at passed ⊢
  obtain same | ⟨listed,anyone | more⟩ := relaxes.authorizedParties
  · rw [same]
    exact passed
  · exact Or.inl anyone
  · obtain none | ⟨party,member,named⟩ := passed
    · exact absurd none listed
    · exact Or.inr ⟨party,more member,named⟩

theorem extractWebid_relaxed (claims : Claims) :
    extractWebid crates.url lax claims = extractWebid crates.url config claims := by
  unfold extractWebid
  rw [relaxes.webidClaim]

theorem acceptReply_relaxed (reply : MarkReply) (value : Unit) (passed : acceptReply config reply = .ok value) :
    acceptReply lax reply = .ok value := by
  rw [acceptReply_ok] at passed ⊢
  obtain new | ⟨opened,unavailable⟩ := passed
  · exact Or.inl new
  · refine Or.inr ⟨?_,unavailable⟩
    rw [← Bool.not_eq_true]
    intro closed
    rw [relaxes.replayFailClosed closed] at opened
    cases opened

theorem validateAccessToken_relaxed (parsed : Parsed) (issuer : String) :
    validateAccessToken env lax parsed issuer = validateAccessToken env config parsed issuer := by
  have claims : checkAccessClaims env lax = checkAccessClaims env config := by
    ext issuer claims
    unfold checkAccessClaims checkTemporal
    rw [relaxes.audience,relaxes.clockToleranceSecs]
  unfold validateAccessToken
  rw [claims]

theorem validateToken_follows (req : AuthRequest) (parsed : Parsed) (issuer : String) (dpopScheme : Bool) :
    Exec.Follows SameStore (fun _ => SameStore) (validateToken env config req parsed issuer dpopScheme)
      (validateToken env lax req parsed issuer dpopScheme) := by
  apply Exec.follows_keeps SameStore
  · rw [validateAccessToken_relaxed env config lax relaxes]
    exact validateAccessToken_follows env config parsed issuer
  · intro claims
    apply Exec.follows_keeps SameStore
    · apply Exec.follows_checked
      intro value passed
      exact checkPossession_relaxed env.build env.crates config lax relaxes _ req parsed.token dpopScheme claims value
        passed
    · intro _
      exact Exec.follows_pure SameStore claims

theorem authenticate_follows (req : AuthRequest) (parsed : Parsed) : Exec.Follows SameStore
    (fun _ => SameStore) (authenticate env config req parsed) (authenticate env lax req parsed) := by
  apply Exec.follows_keeps SameStore
    (Exec.follows_lift SameStore _ _ (schemeGate_relaxed env.crates config lax relaxes parsed))
  intro _
  apply Exec.follows_keeps SameStore
    (Exec.follows_lift SameStore _ _ (fun _ found => found))
  intro issuer
  apply Exec.follows_keeps SameStore
  · apply Exec.follows_lift
    intro value passed
    rw [Except.ensure_ok] at passed ⊢
    exact relaxes.trustedIssuers passed
  intro _
  apply Exec.follows_keeps SameStore
    (validateToken_follows env config lax relaxes req parsed issuer _)
  intro claims
  rw [extractWebid_relaxed env.crates config lax relaxes claims]
  apply Exec.follows_keeps SameStore
    (Exec.follows_lift SameStore _ _ (fun _ found => found))
  intro webId
  apply Exec.follows_keeps SameStore
    (Exec.follows_lift SameStore _ _ (checkAuthorizedParty_relaxed config lax relaxes claims))
  intro _
  exact Exec.follows_pure SameStore _

theorem replayStep_follows (req : AuthRequest) : Exec.Follows SameStore (fun _ => SameStore)
    (replayStep env config req) (replayStep env lax req) := by
  unfold replayStep
  cases req.dpop with
  | none => exact Exec.follows_pure SameStore ()
  | some proof =>
    intro left right same value reached run
    obtain ⟨jti,ttl,carried,read,admitted,marked⟩ := (checkReplay_ok _ _ _ _ _ _).mp run
    unfold SameStore at same
    rw [← acceptReply_ok config _ value] at admitted
    have admits := (acceptReply_ok lax _ value).mp (acceptReply_relaxed config lax relaxes _ value admitted)
    rw [same] at admits
    refine ⟨_,(checkReplay_ok _ _ _ _ _ _).mpr ⟨jti,ttl,carried,?_,admits,rfl⟩,?_⟩
    · rw [replayTtl_relaxed env.build config lax relaxes]
      exact read
    · rw [marked]
      unfold SameStore
      rw [same]

theorem checkBidirectional_follows (webId issuer : String) : Exec.Follows SameStore (fun _ => SameStore)
    (checkBidirectional config webId issuer : Exec (World S) VerifyError Unit)
    (checkBidirectional lax webId issuer) := by
  intro left right same value reached run
  have confirmed := (checkBidirectional_ok config webId issuer left).mp ⟨value,reached,run⟩
  have relaxed : ProfileConfirms lax webId issuer := by
    intro strict
    rw [relaxes.webidResolver]
    apply confirmed
    obtain kept | off | ⟨_,warn⟩ := relaxes.bidirectionalMode
    · rw [← kept]
      exact strict
    · rw [off] at strict
      cases strict
    · rw [warn] at strict
      cases strict
  obtain ⟨answer,other,passed⟩ := (checkBidirectional_ok lax webId issuer right).mpr relaxed
  refine ⟨other,passed,?_⟩
  have before := (checkBidirectional_marks_nothing config webId issuer left).1
  have after := (checkBidirectional_marks_nothing lax webId issuer right).1
  rw [run] at before
  rw [passed] at after
  change reached.store = other.store
  exact before.trans (same.trans after.symm)

/-- Whatever a configuration accepts, a relaxed one accepts with the same credentials and store. -/
theorem verify_relaxed (req : AuthRequest) (world : World S) (token : VerifiedToken)
    (accepted : (verify env config req world).1 = .ok token) :
    (verify env lax req world).1 = .ok token ∧
      (verify env lax req world).2.store = (verify env config req world).2.store := by
  have follows : Exec.Follows SameStore (fun _ => SameStore) (verify env config req) (verify env lax req) := by
    unfold verify
    cases parseAuthorization env.crates req.authorization with
    | none => exact Exec.follows_pure SameStore _
    | some parsed =>
      apply Exec.follows_keeps SameStore
        (authenticate_follows env config lax relaxes req parsed)
      intro authenticated
      apply Exec.follows_keeps SameStore
        (replayStep_follows env config lax relaxes req)
      intro _
      apply Exec.follows_keeps SameStore
        (checkBidirectional_follows config lax relaxes _ _)
      intro _
      exact Exec.follows_pure SameStore _
  obtain ⟨later,passed,same⟩ := follows world world rfl token _ (Prod.ext accepted rfl)
  rw [passed]
  exact ⟨rfl,same.symm⟩

end stages

def laxConfig : VerifierConfig :=
  {sampleConfig with
    trustedIssuers := ["https://idp.example","https://other.example"]
    requireDpop := false
    allowMissingAth := true
    replayFailClosed := false}

theorem sampleConfig_relaxes : Relaxes sampleConfig laxConfig where
  trustedIssuers := by decide
  webidClaim := rfl
  requireDpop := by decide
  allowMissingAth := by decide
  clockToleranceSecs := rfl
  audience := rfl
  authorizedParties := Or.inl rfl
  bidirectionalMode := Or.inl rfl
  webidResolver := rfl
  replayFailClosed := by decide

theorem verify_relaxed_sample : (verify sampleEnv laxConfig sampleRequest ⟨[],[]⟩).1 =
    .ok (Authenticated.mk boundClaims "https://idp.example" "https://alice.example/card#me").credentials ∧
      (verify sampleEnv laxConfig sampleRequest ⟨[],[]⟩).2.store =
        (verify sampleEnv sampleConfig sampleRequest ⟨[],[]⟩).2.store :=
  verify_relaxed sampleEnv sampleConfig laxConfig sampleConfig_relaxes sampleRequest ⟨[],[]⟩ _
    sampleRequest_verified

end SolidOidcVerifier
