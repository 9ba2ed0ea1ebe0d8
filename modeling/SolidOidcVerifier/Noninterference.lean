import SolidOidcVerifier.CallTrace
import SolidOidcVerifier.Foundation.Rejections
import SolidOidcVerifier.Foundation.TwoRuns

/-! What an error tells the client: the status, and nothing of what the seams keep to themselves. -/
namespace SolidOidcVerifier
open Foundation

def Ordinary (error : VerifyError) : Prop := error.kind ≠ .replayStoreUnavailable

def OrdinaryStop : Stop VerifyError → Prop
  | .rejected error => Ordinary error
  | .panicked => True

theorem invalidToken_ordinary (message : String) : Ordinary (invalidToken message) := by
  intro same
  cases same

theorem invalidTokenDpop_ordinary (message : String) : Ordinary (invalidTokenDpop message) := by
  intro same
  cases same

theorem invalidRequest_ordinary (message : String) : Ordinary (invalidRequest message) := by
  intro same
  cases same

theorem liftStop_ordinary {α : Type} (result : Except VerifyError α) (fine : Except.Rejects Ordinary result) :
    Except.Rejects OrdinaryStop (liftStop result) := by
  intro stop found
  cases result with
  | ok value => cases found
  | error error =>
    cases found
    exact fine error rfl

section ordinary

variable (build : Build) (crates : Crates) (config : VerifierConfig)

theorem peekIssuer_ordinary (token : String) : Except.Rejects Ordinary (peekIssuer crates token) := by
  unfold peekIssuer
  apply Except.rejects_bind _ _ _ (Except.rejects_orError _ _ _ (invalidToken_ordinary _))
  intro claims
  split
  · split
    · exact Except.rejects_ok _ _
    · exact Except.rejects_error _ _ (invalidToken_ordinary _)
  · exact Except.rejects_error _ _ (invalidToken_ordinary _)

theorem rejectUnless_ordinary (condition : Prop) [Decidable condition] (error : VerifyError)
    (fine : Ordinary error) : Except.Rejects OrdinaryStop (rejectUnless condition error) :=
  Except.rejects_ensure OrdinaryStop condition _ fine

theorem arith_ordinary (value : Option Int) :
    Except.Rejects OrdinaryStop (arith value : Except (Stop VerifyError) Int) :=
  Except.rejects_orError OrdinaryStop value _ trivial

theorem checkTemporal_ordinary (now : Int) (claims : Claims) :
    Except.Rejects OrdinaryStop (checkTemporal build config now claims) := by
  apply Except.rejects_bind
  · unfold checkExp
    split
    · apply Except.rejects_bind _ _ _ (arith_ordinary _)
      intro earliest
      exact rejectUnless_ordinary _ _ (invalidToken_ordinary _)
    · exact Except.rejects_error _ _ (invalidToken_ordinary _)
  intro _
  apply Except.rejects_bind
  · unfold checkNbf
    split
    · apply Except.rejects_bind _ _ _ (arith_ordinary _)
      intro latest
      exact rejectUnless_ordinary _ _ (invalidToken_ordinary _)
    · exact Except.rejects_ok _ _
  intro _
  unfold checkIat
  split
  · apply Except.rejects_bind _ _ _ (arith_ordinary _)
    intro issued
    exact rejectUnless_ordinary _ _ (invalidToken_ordinary _)
  · exact Except.rejects_error _ _ (invalidToken_ordinary _)

theorem requireClaims_ordinary (claims : Claims) (names : List String) :
    Except.Rejects Ordinary (requireClaims claims names) := by
  induction names with
  | nil => exact Except.rejects_ok _ _
  | cons name rest ih =>
    unfold requireClaims
    apply Except.rejects_bind _ _ _ (Except.rejects_ensure _ _ _ (invalidToken_ordinary _))
    intro _
    exact ih

theorem checkFreshness_ordinary (now iat : Int) :
    Except.Rejects OrdinaryStop (checkFreshness build config now iat) := by
  unfold checkFreshness
  apply Except.rejects_bind
  · exact Except.rejects_orError OrdinaryStop _ _ trivial
  intro width
  apply Except.rejects_bind _ _ _ (arith_ordinary _)
  intro difference
  apply Except.rejects_bind _ _ _ (arith_ordinary _)
  intro distance
  exact rejectUnless_ordinary _ _ (invalidTokenDpop_ordinary _)

theorem checkAth_ordinary (claims : Claims) (accessToken : String) (requireAth : Bool) :
    Except.Rejects Ordinary (checkAth crates claims accessToken requireAth) := by
  unfold checkAth
  split
  · exact Except.rejects_ensure _ _ _ (invalidTokenDpop_ordinary _)
  · exact Except.rejects_ensure _ _ _ (invalidTokenDpop_ordinary _)

theorem validateDpopProof_ordinary (now : Int) (req : AuthRequest) (proof accessToken jkt : String)
    (requireAth : Bool) : Except.Rejects OrdinaryStop
      (validateDpopProof build crates config now req proof accessToken jkt requireAth) := by
  apply Except.rejects_bind
  · apply liftStop_ordinary
    exact Except.rejects_mapError _ _ _ (fun _ => invalidTokenDpop_ordinary _)
  intro signed
  apply Except.rejects_bind _ _ _ (rejectUnless_ordinary _ _ (invalidTokenDpop_ordinary _))
  intro _
  apply Except.rejects_bind _ _ _ (rejectUnless_ordinary _ _ (invalidTokenDpop_ordinary _))
  intro _
  apply Except.rejects_bind _ _ _ (rejectUnless_ordinary _ _ (invalidTokenDpop_ordinary _))
  intro _
  apply Except.rejects_bind
  · exact liftStop_ordinary _ (Except.rejects_orError _ _ _ (invalidTokenDpop_ordinary _))
  intro iat
  apply Except.rejects_bind _ _ _ (checkFreshness_ordinary build config now iat)
  intro _
  apply Except.rejects_bind _ _ _ (liftStop_ordinary _ (checkAth_ordinary crates _ accessToken requireAth))
  intro _
  apply Except.rejects_bind
  · apply liftStop_ordinary
    exact Except.rejects_mapError _ _ _ (fun _ => invalidTokenDpop_ordinary _)
  intro thumbprint
  exact rejectUnless_ordinary _ _ (invalidTokenDpop_ordinary _)

theorem checkPossession_ordinary (now : Int) (req : AuthRequest) (accessToken : String) (dpopScheme : Bool)
    (claims : Claims) : Except.Rejects OrdinaryStop
      (checkPossession build crates config now req accessToken dpopScheme claims) := by
  apply Except.rejects_bind _ _ _ (rejectUnless_ordinary _ _ (invalidToken_ordinary _))
  intro _
  apply Except.rejects_bind
  · unfold checkDpop
    split
    · apply Except.rejects_bind
      · exact liftStop_ordinary _ (Except.rejects_orError _ _ _ (invalidTokenDpop_ordinary _))
      intro proof
      apply Except.rejects_bind
      · exact liftStop_ordinary _ (Except.rejects_orError _ _ _ (invalidTokenDpop_ordinary _))
      intro jkt
      exact validateDpopProof_ordinary build crates config now req proof accessToken jkt _
    · exact Except.rejects_ok _ _
  intro _
  apply liftStop_ordinary
  unfold checkCert
  split
  · apply Except.rejects_bind _ _ _ (Except.rejects_orError _ _ _ (invalidToken_ordinary _))
    intro presented
    exact Except.rejects_ensure _ _ _ (invalidToken_ordinary _)
  · exact Except.rejects_ok _ _

theorem extractWebid_ordinary (url : UrlCrate) (claims : Claims) :
    Except.Rejects Ordinary (extractWebid url config claims) := by
  unfold extractWebid
  apply Except.rejects_bind _ _ _ (Except.rejects_orError _ _ _ (invalidToken_ordinary _))
  intro raw
  apply Except.rejects_bind _ _ _ (Except.rejects_ensure _ _ _ (invalidToken_ordinary _))
  intro _
  apply Except.rejects_bind _ _ _ (Except.rejects_orError _ _ _ (invalidToken_ordinary _))
  intro parsed
  apply Except.rejects_bind _ _ _ (Except.rejects_ensure _ _ _ (invalidToken_ordinary _))
  intro _
  apply Except.rejects_bind _ _ _ (Except.rejects_ensure _ _ _ (invalidToken_ordinary _))
  intro _
  exact Except.rejects_ok _ _

theorem checkAuthorizedParty_ordinary (claims : Claims) :
    Except.Rejects Ordinary (checkAuthorizedParty config claims) := by
  unfold checkAuthorizedParty
  split
  · exact Except.rejects_ok _ _
  · split
    · exact Except.rejects_ensure _ _ _ (invalidToken_ordinary _)
    · exact Except.rejects_error _ _ (invalidToken_ordinary _)

theorem schemeGate_ordinary (parsed : Parsed) : Except.Rejects Ordinary (schemeGate crates config parsed) := by
  unfold schemeGate
  split
  · exact Except.rejects_ensure _ _ _ (invalidRequest_ordinary _)
  · split
    · exact Except.rejects_ok _ _
    · exact Except.rejects_error _ _ (invalidRequest_ordinary _)

variable {S : Type} (env : Env S)

theorem keysFor_ordinary (issuer : String) : Exec.Rejects OrdinaryStop (keysFor env issuer) := by
  intro world
  exact Except.rejects_mapError _ _ _ (fun _ => invalidToken_ordinary _)

theorem checkAccessClaims_ordinary (issuer : String) (claims : Claims) :
    Except.Rejects OrdinaryStop (checkAccessClaims env config issuer claims) := by
  apply Except.rejects_bind _ _ _ (liftStop_ordinary _ (requireClaims_ordinary claims _))
  intro _
  apply Except.rejects_bind _ _ _ (rejectUnless_ordinary _ _ (invalidToken_ordinary _))
  intro _
  apply Except.rejects_bind _ _ _ (rejectUnless_ordinary _ _ (invalidToken_ordinary _))
  intro _
  exact checkTemporal_ordinary env.build config _ claims

theorem validateAccessToken_ordinary (parsed : Parsed) (issuer : String) :
    Exec.Rejects OrdinaryStop (validateAccessToken env config parsed issuer) := by
  apply Exec.rejects_bind OrdinaryStop _ _ (Exec.rejects_lift OrdinaryStop _
    (peekHeader_rejects Ordinary invalidToken_ordinary env.crates parsed.token))
  intro header
  apply Exec.rejects_bind
  · exact Exec.rejects_lift OrdinaryStop _ (Except.rejects_ensure _ _ _ (invalidToken_ordinary _))
  intro _
  apply Exec.rejects_bind
  · exact Exec.rejects_lift OrdinaryStop _ (Except.rejects_ensure _ _ _ (invalidToken_ordinary _))
  intro _
  apply Exec.rejects_bind _ _ _ (keysFor_ordinary env issuer)
  intro keys
  apply Exec.rejects_bind
  · apply Exec.rejects_lift
    exact Except.rejects_mapError _ _ _ (fun _ => invalidToken_ordinary _)
  intro claims
  apply Exec.rejects_bind _ _ _ (Exec.rejects_checked _ _ (checkAccessClaims_ordinary config env issuer claims))
  intro _
  exact Exec.rejects_pure _ _

theorem authenticate_ordinary (req : AuthRequest) (parsed : Parsed) :
    Exec.Rejects OrdinaryStop (authenticate env config req parsed) := by
  apply Exec.rejects_bind OrdinaryStop _ _ (Exec.rejects_lift OrdinaryStop _ (schemeGate_ordinary env.crates config parsed))
  intro _
  apply Exec.rejects_bind OrdinaryStop _ _ (Exec.rejects_lift OrdinaryStop _ (peekIssuer_ordinary env.crates parsed.token))
  intro issuer
  apply Exec.rejects_bind
  · exact Exec.rejects_lift OrdinaryStop _ (Except.rejects_ensure _ _ _ (invalidToken_ordinary _))
  intro _
  apply Exec.rejects_bind
  · apply Exec.rejects_bind _ _ _ (validateAccessToken_ordinary config env parsed issuer)
    intro claims
    apply Exec.rejects_bind
    · exact Exec.rejects_checked _ _ (checkPossession_ordinary env.build env.crates config _ req parsed.token _ claims)
    intro _
    exact Exec.rejects_pure _ _
  intro claims
  apply Exec.rejects_bind OrdinaryStop _ _ (Exec.rejects_lift OrdinaryStop _ (extractWebid_ordinary config env.crates.url claims))
  intro webId
  apply Exec.rejects_bind OrdinaryStop _ _ (Exec.rejects_lift OrdinaryStop _ (checkAuthorizedParty_ordinary config claims))
  intro _
  exact Exec.rejects_pure _ _

theorem checkBidirectional_ordinary (webId issuer : String) :
    Exec.Rejects OrdinaryStop (checkBidirectional config webId issuer : Exec (World S) VerifyError Unit) := by
  unfold checkBidirectional
  split
  · exact Exec.rejects_pure _ _
  · split
    · exact Exec.rejects_lift OrdinaryStop _ (Except.rejects_ensure _ _ _ (invalidToken_ordinary _))
    · apply Exec.rejects_bind
      · intro world error found
        cases found
      intro profile
      exact Exec.rejects_lift OrdinaryStop _ (Except.rejects_ensure _ _ _ (invalidToken_ordinary _))

end ordinary

section status

variable {S : Type} (env : Env S) (config : VerifierConfig) (req : AuthRequest)

/-- One of the calls was a mark that the store could not answer, and the configuration fails closed. -/
def StoreUnavailable (store : S) (calls : List Call) : Prop :=
  config.replayFailClosed = true ∧
    ∃ jti ttl text, .mark jti ttl ∈ calls ∧ (env.replay.mark jti ttl store).1 = .backendError text

theorem available_of_unmarked (store : S) (calls : List Call) (clean : ∀ jti ttl, .mark jti ttl ∉ calls) :
    ¬StoreUnavailable env config store calls := by
  intro unavailable
  obtain ⟨_,jti,ttl,_,member,_⟩ := unavailable
  exact clean jti ttl member

theorem acceptReply_status (reply : MarkReply) (error : VerifyError)
    (refused : acceptReply config reply = .error (.rejected error)) :
    Ordinary error ↔ ¬(config.replayFailClosed = true ∧ ∃ text, reply = .backendError text) := by
  unfold acceptReply at refused
  unfold Ordinary
  cases reply with
  | new => cases refused
  | replay =>
    cases refused
    simp [invalidTokenDpop]
  | backendError text =>
    cases closed : config.replayFailClosed with
    | false =>
      rw [closed] at refused
      cases refused
    | true =>
      rw [closed] at refused
      cases refused
      simp
  | panicked => cases refused

theorem checkBidirectional_unmarked (webId issuer : String) (world : World S) (jti : String) (ttl : Nat) :
    .mark jti ttl ∈ (checkBidirectional config webId issuer world).2.calls ↔ .mark jti ttl ∈ world.calls := by
  obtain same | fetched := checkBidirectional_calls config webId issuer world
  · rw [same]
  · rw [fetched]
    simp [World.called]

theorem bidirectional_then (authenticated : Authenticated) (world : World S) (error : VerifyError)
    (failed : ((checkBidirectional config authenticated.webId authenticated.issuer >>= fun _ =>
      (pure authenticated.credentials : Exec (World S) VerifyError VerifiedToken)) world).1 =
        .error (.rejected error)) : Ordinary error := by
  have rejects : Exec.Rejects OrdinaryStop
      (checkBidirectional config authenticated.webId authenticated.issuer >>= fun _ =>
        (pure authenticated.credentials : Exec (World S) VerifyError VerifiedToken)) := by
    apply Exec.rejects_bind OrdinaryStop _ _ (checkBidirectional_ordinary config _ _)
    intro _
    exact Exec.rejects_pure OrdinaryStop _
  exact rejects world _ failed

theorem conclude_status (authenticated : Authenticated) (world : World S) (error : VerifyError)
    (clean : ∀ jti ttl, .mark jti ttl ∉ world.calls)
    (failed : (conclude env config req authenticated world).1 = .error (.rejected error)) :
    Ordinary error ↔ ¬StoreUnavailable env config world.store (conclude env config req authenticated world).2.calls := by
  unfold conclude at failed ⊢
  obtain ⟨_,skipped⟩ | ⟨stop,early,refused⟩ | ⟨proof,jti,ttl,_,_,asked⟩ := replayStep_calls env config req world
  · rw [Exec.bind_of_ok _ _ _ _ _ skipped] at failed ⊢
    apply iff_of_true (bidirectional_then config authenticated world error failed)
    apply available_of_unmarked
    intro jti ttl member
    rw [then_pure_state,checkBidirectional_unmarked] at member
    exact clean jti ttl member
  · rw [Exec.bind_of_error _ _ _ _ _ refused] at failed ⊢
    have ordinary : Ordinary error := by
      cases failed
      rcases early with panicked | missing
      · cases panicked
      · cases missing
        exact invalidTokenDpop_ordinary _
    exact iff_of_true ordinary (available_of_unmarked env config world.store _ clean)
  · have unavailable : ∀ calls, (∀ other width, .mark other width ∈ calls ↔
        .mark other width ∈ world.calls ++ [.mark jti ttl]) →
        (StoreUnavailable env config world.store calls ↔ config.replayFailClosed = true ∧
          ∃ text, (env.replay.mark jti ttl world.store).1 = .backendError text) := by
      intro calls marks
      unfold StoreUnavailable
      apply and_congr_right
      intro _
      constructor
      · intro marked
        obtain ⟨other,width,text,member,reply⟩ := marked
        rcases List.mem_append.mp ((marks other width).mp member) with before | last
        · exact absurd before (clean other width)
        · cases List.mem_singleton.mp last
          exact ⟨text,reply⟩
      · intro failed
        obtain ⟨text,reply⟩ := failed
        exact ⟨jti,ttl,text,(marks jti ttl).mpr (by simp),reply⟩
    cases reply : acceptReply config (env.replay.mark jti ttl world.store).1 with
    | error stop =>
      rw [reply] at asked
      rw [Exec.bind_of_error _ _ _ _ _ asked] at failed ⊢
      cases failed
      rw [unavailable _ (fun _ _ => Iff.rfl)]
      exact acceptReply_status config _ error reply
    | ok value =>
      rw [reply] at asked
      rw [Exec.bind_of_ok _ _ _ _ _ asked] at failed ⊢
      apply iff_of_true (bidirectional_then config authenticated _ error failed)
      rw [then_pure_state,unavailable _ (fun other width => checkBidirectional_unmarked config _ _ _ other width)]
      intro closed
      obtain ⟨closed,text,answer⟩ := closed
      rw [answer] at reply
      unfold acceptReply at reply
      rw [closed] at reply
      cases reply

/-- Every error is the request's own, unless the store failed and the configuration fails closed. -/
theorem verify_status (store : S) (error : VerifyError)
    (failed : (verify env config req ⟨store,[]⟩).1 = .error (.rejected error)) :
    Ordinary error ↔ ¬StoreUnavailable env config store (verify env config req ⟨store,[]⟩).2.calls := by
  unfold verify at failed ⊢
  cases presented : parseAuthorization env.crates req.authorization with
  | none =>
    rw [presented] at failed
    cases failed
  | some parsed =>
    rw [presented] at failed
    change ((authenticate env config req parsed >>= conclude env config req) ⟨store,[]⟩).1 = _ at failed
    change Ordinary error ↔ ¬StoreUnavailable env config store
      ((authenticate env config req parsed >>= conclude env config req) ⟨store,[]⟩).2.calls
    generalize outcome : authenticate env config req parsed ⟨store,[]⟩ = result
    obtain ⟨answer,middle⟩ := result
    cases answer with
    | error stop =>
      rw [Exec.bind_of_error _ _ _ _ _ outcome] at failed ⊢
      have ordinary := authenticate_ordinary config env req parsed ⟨store,[]⟩ stop (by rw [outcome])
      cases failed
      apply iff_of_true ordinary
      apply available_of_unmarked
      obtain same | ⟨issuer,_,called⟩ :=
        authenticate_refused env config req parsed presented _ middle _ outcome
      · rw [same]
        simp
      · rw [called]
        simp [World.called]
    | ok authenticated =>
      rw [Exec.bind_of_ok _ _ _ _ _ outcome] at failed ⊢
      obtain ⟨_,called⟩ := authenticate_passed env config req parsed presented _ middle authenticated outcome
      have kept : middle.store = store := by rw [called]; rfl
      rw [← kept]
      apply conclude_status env config req authenticated middle error _ failed
      rw [called]
      simp [World.called]

theorem status_of_ordinary (error : VerifyError) :
    (Ordinary error → error.kind.status = 401) ∧ (¬Ordinary error → error.kind.status = 503) := by
  unfold Ordinary
  cases error.kind <;> simp [ErrorKind.status]

end status

def MarkReply.silenced : MarkReply → MarkReply
  | .backendError _ => .backendError ""
  | reply => reply

def ClaimedIssuer (crates : Crates) (req : AuthRequest) (issuer : String) : Prop :=
  ∃ parsed peeked, parseAuthorization crates req.authorization = some parsed ∧
    peekClaims crates parsed.token = some peeked ∧ peeked.str "iss" = some issuer

/-- Two environments that agree but for the texts of errors and, in strict mode, for the reason why a
profile does not confirm the issuer. -/
structure Indistinct {S T : Type} (env : Env S) (other : Env T) (config rival : VerifierConfig)
    (req : AuthRequest) (store : S) (mirror : T) : Prop where
  build : other.build = env.build
  crates : other.crates = env.crates
  tokenClock : other.tokenClock = env.tokenClock
  proofClock : other.proofClock = env.proofClock
  keys : ∀ issuer, (other.keysFor issuer).toOption = (env.keysFor issuer).toOption
  replies : ∀ jti ttl, (other.replay.mark jti ttl mirror).1.silenced = (env.replay.mark jti ttl store).1.silenced
  configured : rival = {config with webidResolver := rival.webidResolver}
  resolvers : rival.webidResolver.isSome = config.webidResolver.isSome
  profiles : config.bidirectionalMode = .strict → ∀ resolver substitute, config.webidResolver = some resolver →
    rival.webidResolver = some substitute → ∀ webId issuer, ClaimedIssuer env.crates req issuer →
      profileLists (substitute webId) issuer = profileLists (resolver webId) issuer

section runs

variable {S T : Type} (env : Env S) (other : Env T) (config : VerifierConfig) (store : S) (mirror : T)

def Stores (left : World S) (right : World T) : Prop := left.store = store ∧ right.store = mirror

theorem keysFor_alike (issuer : String)
    (keys : (other.keysFor issuer).toOption = (env.keysFor issuer).toOption) :
    Exec.Alike (Stores store mirror) (fun _ => Stores store mirror) (keysFor env issuer) (keysFor other issuer) := by
  intro left right related
  refine ⟨?_,fun _ _ => related⟩
  unfold keysFor
  cases found : env.keysFor issuer with
  | error text =>
    cases answer : other.keysFor issuer with
    | error otherText => rfl
    | ok served =>
      rw [found,answer] at keys
      cases keys
  | ok served =>
    cases answer : other.keysFor issuer with
    | error text =>
      rw [found,answer] at keys
      cases keys
    | ok otherServed =>
      rw [found,answer] at keys
      cases keys
      rfl

theorem authenticate_alike (req : AuthRequest) (parsed : Parsed) (build : other.build = env.build)
    (crates : other.crates = env.crates) (tokenClock : other.tokenClock = env.tokenClock)
    (proofClock : other.proofClock = env.proofClock)
    (keys : ∀ issuer, (other.keysFor issuer).toOption = (env.keysFor issuer).toOption) :
    Exec.Alike (Stores store mirror) (fun _ => Stores store mirror) (authenticate env config req parsed)
      (authenticate other config req parsed) := by
  have asked := fun issuer => keysFor_alike env other store mirror issuer (keys issuer)
  obtain ⟨ownBuild,ownCrates,serve,replay,ownClock,ownProofClock⟩ := env
  obtain ⟨otherBuild,otherCrates,otherServe,otherReplay,otherClock,otherProofClock⟩ := other
  dsimp only at build crates tokenClock proofClock
  subst build crates tokenClock proofClock
  have lifted : ∀ {α : Type} (result : Except VerifyError α), Exec.Alike (Stores store mirror)
      (fun _ => Stores store mirror) (Exec.lift result : Exec (World S) VerifyError α) (Exec.lift result) :=
    fun result => Exec.alike_lift (Stores store mirror) result result rfl
  apply Exec.alike_keeps (Stores store mirror) (lifted _)
  intro _
  apply Exec.alike_keeps (Stores store mirror) (lifted _)
  intro issuer
  apply Exec.alike_keeps (Stores store mirror) (lifted _)
  intro _
  apply Exec.alike_keeps (Stores store mirror)
  · apply Exec.alike_keeps (Stores store mirror)
    · apply Exec.alike_keeps (Stores store mirror) (lifted _)
      intro header
      apply Exec.alike_keeps (Stores store mirror) (lifted _)
      intro _
      apply Exec.alike_keeps (Stores store mirror) (lifted _)
      intro _
      apply Exec.alike_keeps (Stores store mirror) (asked issuer)
      intro served
      apply Exec.alike_keeps (Stores store mirror) (lifted _)
      intro claims
      apply Exec.alike_keeps (Stores store mirror)
      · exact Exec.alike_checked (Stores store mirror) _ _ rfl
      · intro _
        exact Exec.alike_pure (Stores store mirror) claims
    · intro claims
      apply Exec.alike_keeps (Stores store mirror)
      · exact Exec.alike_checked (Stores store mirror) _ _ rfl
      · intro _
        exact Exec.alike_pure (Stores store mirror) claims
  intro claims
  apply Exec.alike_keeps (Stores store mirror) (lifted _)
  intro webId
  apply Exec.alike_keeps (Stores store mirror) (lifted _)
  intro _
  exact Exec.alike_pure (Stores store mirror) _

theorem acceptReply_silenced (reply : MarkReply) : acceptReply config reply.silenced = acceptReply config reply := by
  cases reply <;> rfl

theorem replayStep_alike (req : AuthRequest) (build : other.build = env.build) (crates : other.crates = env.crates)
    (replies : ∀ jti ttl,
      (other.replay.mark jti ttl mirror).1.silenced = (env.replay.mark jti ttl store).1.silenced) :
    Exec.Alike (Stores store mirror) (fun _ _ _ => True) (replayStep env config req)
      (replayStep other config req) := by
  intro left right related
  refine ⟨?_,fun _ _ => trivial⟩
  unfold replayStep
  cases req.dpop with
  | none => rfl
  | some proof =>
    dsimp only
    rw [checkReplay_run,checkReplay_run,build,crates,related.1,related.2]
    cases proofJti env.crates proof with
    | none => rfl
    | some jti =>
      cases config.replayTtl env.build with
      | none => rfl
      | some ttl =>
        change acceptReply config _ = acceptReply config _
        rw [← acceptReply_silenced config (env.replay.mark jti ttl store).1,← replies,acceptReply_silenced]

theorem checkBidirectional_alike (substitute : Option WebIdResolver) (webId issuer : String)
    (resolvers : substitute.isSome = config.webidResolver.isSome)
    (profiles : config.bidirectionalMode = .strict → ∀ own, config.webidResolver = some own →
      ∀ given, substitute = some given → profileLists (given webId) issuer = profileLists (own webId) issuer) :
    Exec.Alike (fun (_ : World S) (_ : World T) => True) (fun _ _ _ => True)
      (checkBidirectional config webId issuer)
      (checkBidirectional {config with webidResolver := substitute} webId issuer) := by
  intro left right _
  refine ⟨?_,fun _ _ => trivial⟩
  unfold checkBidirectional
  dsimp only
  by_cases off : config.bidirectionalMode = .off
  · rw [if_pos off,if_pos off]
    rfl
  rw [if_neg off,if_neg off]
  cases own : config.webidResolver with
  | none =>
    rw [own] at resolvers
    cases substitute with
    | none => rfl
    | some given => cases resolvers
  | some resolver =>
    rw [own] at resolvers
    cases substitute with
    | none => cases resolvers
    | some given =>
      change (ensure (profileLists (resolver webId) issuer ∨ config.bidirectionalMode ≠ .strict)
        bidirectionalRejection).mapError Stop.rejected =
          (ensure (profileLists (given webId) issuer ∨ config.bidirectionalMode ≠ .strict)
            bidirectionalRejection).mapError Stop.rejected
      by_cases strict : config.bidirectionalMode = .strict
      · rw [profiles strict resolver own given rfl]
      · unfold ensure
        rw [if_pos (Or.inr strict),if_pos (Or.inr strict)]

theorem conclude_alike (req : AuthRequest) (authenticated : Authenticated) (substitute : Option WebIdResolver)
    (build : other.build = env.build) (crates : other.crates = env.crates)
    (replies : ∀ jti ttl,
      (other.replay.mark jti ttl mirror).1.silenced = (env.replay.mark jti ttl store).1.silenced)
    (resolvers : substitute.isSome = config.webidResolver.isSome)
    (profiles : config.bidirectionalMode = .strict → ∀ own, config.webidResolver = some own →
      ∀ given, substitute = some given →
        profileLists (given authenticated.webId) authenticated.issuer =
          profileLists (own authenticated.webId) authenticated.issuer) :
    Exec.Alike (Stores store mirror) (fun _ _ _ => True) (conclude env config req authenticated)
      (conclude other {config with webidResolver := substitute} req authenticated) := by
  unfold conclude
  apply Exec.alike_bind (Stores store mirror) (fun _ _ _ => True) _ _ _ _ _
    (replayStep_alike env other config store mirror req build crates replies)
  intro _
  apply Exec.alike_bind (fun _ _ => True) (fun _ _ _ => True) _ _ _ _ _
    (checkBidirectional_alike config substitute _ _ resolvers profiles)
  intro _
  exact Exec.alike_pure (fun _ _ => True) authenticated.credentials

end runs

/-- What the client sees does not depend on what the seams keep to themselves, and only the failure of the
store is answered with 503. -/
theorem verify_indistinct {S T : Type} (env : Env S) (other : Env T) (config rival : VerifierConfig)
    (req : AuthRequest) (store : S) (mirror : T)
    (same : Indistinct env other config rival req store mirror) :
    (verify env config req ⟨store,[]⟩).1 = (verify other rival req ⟨mirror,[]⟩).1 ∧
      ∀ error, (verify env config req ⟨store,[]⟩).1 = .error (.rejected error) →
        wwwAuthenticate config error = wwwAuthenticate rival error ∧
        (StoreUnavailable env config store (verify env config req ⟨store,[]⟩).2.calls → error.kind.status = 503) ∧
        (¬StoreUnavailable env config store (verify env config req ⟨store,[]⟩).2.calls →
          error.kind.status = 401) := by
  constructor
  · have configured := same.configured
    have resolvers := same.resolvers
    have profiles := same.profiles
    generalize rival.webidResolver = substitute at configured resolvers profiles
    subst configured
    unfold verify
    rw [same.crates]
    cases presented : parseAuthorization env.crates req.authorization with
    | none => rfl
    | some parsed =>
      have alike := authenticate_alike env other config store mirror req parsed same.build same.crates same.tokenClock
        same.proofClock same.keys ⟨store,[]⟩ ⟨mirror,[]⟩ ⟨rfl,rfl⟩
      change ((authenticate env config req parsed >>= conclude env config req) ⟨store,[]⟩).1 =
        ((authenticate other config req parsed >>=
          conclude other {config with webidResolver := substitute} req) ⟨mirror,[]⟩).1
      generalize outcome : authenticate env config req parsed ⟨store,[]⟩ = result at alike
      generalize rivalOutcome : authenticate other config req parsed ⟨mirror,[]⟩ = rivalResult at alike
      obtain ⟨answer,middle⟩ := result
      obtain ⟨rivalAnswer,station⟩ := rivalResult
      obtain ⟨equal,stores⟩ := alike
      change answer = rivalAnswer at equal
      subst equal
      cases answer with
      | error stop =>
        rw [Exec.bind_of_error _ _ _ _ _ outcome,Exec.bind_of_error _ _ _ _ _ rivalOutcome]
      | ok authenticated =>
        rw [Exec.bind_of_ok _ _ _ _ _ outcome,Exec.bind_of_ok _ _ _ _ _ rivalOutcome]
        obtain ⟨passed,_⟩ := authenticate_passed env config req parsed presented _ middle authenticated outcome
        have issuer : authenticated.issuer = authenticated.claimedIssuer := by
          have claims := (checkAccessClaims_ok env config _ _ ()).mp passed.token.claims
          unfold Authenticated.issuer
          rw [claims.issuer]
          rfl
        have claimed : ClaimedIssuer env.crates req authenticated.issuer := by
          obtain ⟨peeked,payload,named⟩ := passed.allowed.claimed
          rw [issuer]
          exact ⟨parsed,peeked,presented,payload,named⟩
        have finished := conclude_alike env other config store mirror req authenticated substitute same.build
          same.crates same.replies resolvers
          (fun strict own ownGiven given substituted =>
            profiles strict own given ownGiven substituted authenticated.webId authenticated.issuer claimed)
        exact (finished middle station (stores authenticated rfl)).1
  · intro error failed
    have ordinary := verify_status env config req store error failed
    have status := status_of_ordinary error
    refine ⟨?_,?_,?_⟩
    · rw [same.configured]
      rfl
    · intro unavailable
      exact status.2 (fun fine => ordinary.mp fine unavailable)
    · intro available
      exact status.1 (ordinary.mpr available)

def quietEnv : Env (List String) where
  __ := sampleEnv
  keysFor issuer := if issuer = "https://idp.example" then .ok [sampleIssuerJwk] else .error "connect 10.0.0.7:443"

def guardedConfig : VerifierConfig where
  __ := sampleConfig
  bidirectionalMode := .strict
  webidResolver := some (fun _ => .error "timeout")

def rivalConfig : VerifierConfig where
  __ := guardedConfig
  webidResolver := some (fun _ => .ok ⟨∅⟩)

theorem indistinct_sample : Indistinct sampleEnv quietEnv guardedConfig rivalConfig sampleRequest [] [] where
  build := rfl
  crates := rfl
  tokenClock := rfl
  proofClock := rfl
  keys issuer := by
    change Except.toOption (if issuer = "https://idp.example" then .ok [sampleIssuerJwk] else .error _) =
      Except.toOption (if issuer = "https://idp.example" then .ok [sampleIssuerJwk] else .error _)
    split
    · rfl
    · rfl
  replies _ _ := rfl
  configured := rfl
  resolvers := rfl
  profiles := by
    intro _ resolver substitute own given webId issuer _
    cases own
    cases given
    simp [profileLists]

theorem verify_indistinct_sample : (verify sampleEnv guardedConfig sampleRequest ⟨[],[]⟩).1 =
    (verify quietEnv rivalConfig sampleRequest ⟨[],[]⟩).1 :=
  (verify_indistinct sampleEnv quietEnv guardedConfig rivalConfig sampleRequest [] [] indistinct_sample).1

end SolidOidcVerifier
