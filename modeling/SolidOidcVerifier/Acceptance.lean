import SolidOidcVerifier.Possession

/-! The rule that an authenticated request meets, from its Authorization header to the WebID
profile. -/
namespace SolidOidcVerifier
open Foundation

variable {S : Type}

def schemeName (dpopScheme : Bool) : String := if dpopScheme then "dpop" else "bearer"

/-- The Authorization header is a scheme, in any ASCII case, and a non-empty token. -/
def Presents (authorization : Option String) (dpopScheme : Bool) (token : String) : Prop :=
  ∃ header scheme rest, authorization = some header ∧ Text.trim header.toList = scheme ++ ' ' :: rest ∧
    ' ' ∉ scheme ∧ scheme.map Char.toLower = (schemeName dpopScheme).toList ∧
    token.toList = Text.trim rest ∧ token ≠ ""

theorem schemeName_plain (dpopScheme : Bool) :
    ∀ d ∈ (schemeName dpopScheme).toList, d.toNat < 128 ∧ d ≠ 'k' := by
  cases dpopScheme with
  | true =>
    have letters : (schemeName true).toList = ['d','p','o','p'] := by decide
    rw [letters]
    simp
  | false =>
    have letters : (schemeName false).toList = ['b','e','a','r','e','r'] := by decide
    rw [letters]
    simp

theorem parseAuthorization_some (crates : Crates) (authorization : Option String) (dpopScheme : Bool)
    (token : String) :
    parseAuthorization crates authorization = some ⟨schemeName dpopScheme,token⟩ ↔
      Presents authorization dpopScheme token := by
  unfold parseAuthorization Presents
  simp only [Option.bind_eq_bind,Option.bind_eq_some_iff,Prod.exists,Text.splitOnce_some]
  constructor
  · intro run
    obtain ⟨header,given,scheme,rest,⟨whole,spaceless⟩,kept⟩ := run
    split at kept
    · cases kept
    · rename_i filled
      simp only [Option.some.injEq,Parsed.mk.injEq] at kept
      obtain ⟨named,text⟩ := kept
      have lower : Text.toLowercase crates.finalSigma scheme = (schemeName dpopScheme).toList := by
        rw [← named,String.toList_ofList]
      refine ⟨header,scheme,rest,given,whole,spaceless,?_,?_,?_⟩
      · exact (Text.toLowercase_plain _ _ _ (schemeName_plain dpopScheme)).mp lower
      · rw [← text,String.toList_ofList]
      · intro empty
        rw [empty] at text
        apply filled
        have chars := congrArg String.toList text
        rw [String.toList_ofList] at chars
        exact chars
  · intro presents
    obtain ⟨header,scheme,rest,given,whole,spaceless,named,text,filled⟩ := presents
    refine ⟨header,given,scheme,rest,⟨whole,spaceless⟩,?_⟩
    have nonempty : Text.trim rest ≠ [] := by
      rw [← text]
      intro empty
      exact filled (String.toList_inj.mp empty)
    rw [if_neg nonempty,(Text.toLowercase_plain _ _ _ (schemeName_plain dpopScheme)).mpr named,← text]
    simp only [String.ofList_toList]

/-- The header presents one token, under one scheme. -/
theorem Presents.unique (crates : Crates) {authorization : Option String} {dpopScheme otherScheme : Bool}
    {token other : String} (presents : Presents authorization dpopScheme token)
    (again : Presents authorization otherScheme other) : dpopScheme = otherScheme ∧ token = other := by
  have parsed := (parseAuthorization_some crates authorization dpopScheme token).mpr presents
  rw [(parseAuthorization_some crates authorization otherScheme other).mpr again,Option.some.injEq,
    Parsed.mk.injEq] at parsed
  obtain ⟨scheme,same⟩ := parsed
  have apart : ∀ left right, schemeName left = schemeName right → left = right := by decide
  exact ⟨(apart otherScheme dpopScheme scheme).symm,same.symm⟩

/-- The claims of the unverified payload that route the request. -/
def RoutesTo (crates : Crates) (config : VerifierConfig) (token issuer : String) : Prop :=
  ∃ peeked, peekClaims crates token = some peeked ∧ peeked.str "iss" = some issuer ∧ issuer ≠ "" ∧
    issuer ∈ config.trustedIssuers

theorem peekIssuer_ok (crates : Crates) (token issuer : String) :
    peekIssuer crates token = .ok issuer ↔ ∃ peeked, peekClaims crates token = some peeked ∧
      peeked.str "iss" = some issuer ∧ issuer ≠ "" := by
  unfold peekIssuer
  simp only [Except.bind_ok,Except.orError_ok]
  apply exists_congr
  intro peeked
  apply and_congr_right
  intro _
  cases peeked.str "iss" with
  | none => simp
  | some text =>
    by_cases empty : text = ""
    · simp [empty]
    · simp only [ne_eq,empty,not_false_eq_true,if_true,Except.ok.injEq,Option.some.injEq]
      constructor
      · intro same
        exact ⟨same,same ▸ empty⟩
      · intro same
        exact same.1

def PeeksCertificate (crates : Crates) (token : String) : Prop :=
  ∃ peeked thumbprint, peekClaims crates token = some peeked ∧
    extractCnfX5tS256 peeked = some (.thumbprint thumbprint)

theorem tokenIsCertBound_iff (crates : Crates) (token : String) :
    tokenIsCertBound crates token = true ↔ PeeksCertificate crates token := by
  unfold tokenIsCertBound PeeksCertificate
  cases peekClaims crates token with
  | none => simp
  | some peeked =>
    cases found : extractCnfX5tS256 peeked with
    | none => simp [found]
    | some x5t => cases x5t <;> simp [found,X5tS256.wellFormed]

theorem schemeGate_ok (crates : Crates) (config : VerifierConfig) (parsed : Parsed) (value : Unit) :
    schemeGate crates config parsed = .ok value ↔ ∃ dpopScheme, parsed.scheme = schemeName dpopScheme ∧
      (dpopScheme = false → config.requireDpop → PeeksCertificate crates parsed.token) := by
  unfold schemeGate
  rw [← tokenIsCertBound_iff]
  constructor
  · intro gate
    split at gate
    · rename_i bearer
      have rule := (Except.ensure_ok _ _ _).mp gate
      exact ⟨false,bearer,fun _ => by simpa using rule⟩
    · split at gate
      · rename_i dpop
        exact ⟨true,dpop,by simp⟩
      · cases gate
  · intro rule
    obtain ⟨dpopScheme,named,bound⟩ := rule
    cases dpopScheme with
    | true =>
      rw [named]
      rfl
    | false =>
      have bearer : schemeName false = "bearer" := rfl
      rw [named,if_pos bearer,Except.ensure_ok]
      intro unbound
      exact unbound.2 (bound rfl unbound.1)

def WebIdUrl (url : UrlCrate) (webId : String) : Prop :=
  ∃ parsed, url.parse webId = some parsed ∧ url.scheme parsed = "https" ∧ url.username parsed = "" ∧
    url.password parsed = none

theorem extractWebid_ok (url : UrlCrate) (config : VerifierConfig) (claims : Claims) (webId : String) :
    extractWebid url config claims = .ok webId ↔
      claims.str config.webidClaim = some webId ∧ webId ≠ "" ∧ WebIdUrl url webId := by
  unfold extractWebid validateWebidClaim WebIdUrl
  simp only [Except.bind_ok,Except.orError_ok,Except.ensure_ok,exists_const,presentStr_some]
  constructor
  · intro run
    obtain ⟨raw,⟨claimed,filled⟩,_,parsed,read,https,⟨plain,bare⟩,same⟩ := run
    cases Except.ok.inj same
    exact ⟨claimed,filled,parsed,read,https,plain,bare⟩
  · intro rule
    obtain ⟨claimed,filled,parsed,read,https,plain,bare⟩ := rule
    exact ⟨webId,⟨claimed,filled⟩,filled,parsed,read,https,⟨plain,bare⟩,rfl⟩

def AcceptedParty (config : VerifierConfig) (claims : Claims) : Prop :=
  config.authorizedParties = [] ∨
    ∃ party ∈ config.authorizedParties, (claims.str "azp").or (claims.str "client_id") = some party

theorem checkAuthorizedParty_ok (config : VerifierConfig) (claims : Claims) (value : Unit) :
    checkAuthorizedParty config claims = .ok value ↔ AcceptedParty config claims := by
  unfold checkAuthorizedParty AcceptedParty
  by_cases anyone : config.authorizedParties = []
  · simp [anyone]
  · rw [if_neg anyone]
    cases (claims.str "azp").or (claims.str "client_id") with
    | none => simp [anyone]
    | some party => simp [anyone,Except.ensure_ok,and_comm]

/-- What the checks (2) to (6) establish. -/
structure Authentic (env : Env S) (config : VerifierConfig) (req : AuthRequest) (dpopScheme : Bool)
    (token issuer : String) (claims : Claims) (webId : String) : Prop where
  gate : dpopScheme = false → config.requireDpop → PeeksCertificate env.crates token
  routed : RoutesTo env.crates config token issuer
  access : ValidAccessToken env config token issuer claims
  possession : Possession env.build env.crates config (nowSecs env.proofClock) req token dpopScheme claims
  webId : claims.str config.webidClaim = some webId ∧ webId ≠ "" ∧ WebIdUrl env.crates.url webId
  party : AcceptedParty config claims

theorem validateToken_run (env : Env S) (law : PayloadLaw env.crates) (config : VerifierConfig)
    (req : AuthRequest) (parsed : Parsed) (issuer : String) (dpopScheme : Bool) (world after : World S)
    (claims : Claims) :
    validateToken env config req parsed issuer dpopScheme world = (.ok claims,after) ↔
      ValidAccessToken env config parsed.token issuer claims ∧
        Possession env.build env.crates config (nowSecs env.proofClock) req parsed.token dpopScheme claims ∧
        after = {world with calls := world.calls ++ [.keysFor issuer]} := by
  unfold validateToken
  simp only [Exec.bind_ok,validateAccessToken_ok env law,Exec.checked_ok,
    checkPossession_ok env.build env.crates law,Exec.pure_run]
  constructor
  · intro run
    obtain ⟨found,middle,⟨access,called⟩,_,last,⟨possession,kept⟩,done⟩ := run
    subst called kept
    cases done
    exact ⟨access,possession,rfl⟩
  · intro rule
    obtain ⟨access,possession,called⟩ := rule
    exact ⟨claims,after,⟨access,called⟩,(),after,⟨possession,rfl⟩,rfl⟩

theorem authenticate_ok (env : Env S) (law : PayloadLaw env.crates) (config : VerifierConfig)
    (req : AuthRequest) (parsed : Parsed) (world after : World S) (authenticated : Authenticated) :
    authenticate env config req parsed world = (.ok authenticated,after) ↔
      (∃ dpopScheme, parsed.scheme = schemeName dpopScheme ∧
        Authentic env config req dpopScheme parsed.token authenticated.claimedIssuer authenticated.claims
          authenticated.webId) ∧
        after = {world with calls := world.calls ++ [.keysFor authenticated.claimedIssuer]} := by
  unfold authenticate
  simp only [Exec.bind_ok,Exec.lift_ok,validateToken_run env law,Exec.pure_run,peekIssuer_ok,
    Except.ensure_ok,extractWebid_ok,checkAuthorizedParty_ok,schemeGate_ok]
  constructor
  · intro run
    obtain ⟨_,first,⟨⟨dpopScheme,named,gate⟩,same⟩,issuer,second,⟨⟨peeked,payload,iss,filled⟩,again⟩,_,third,
      ⟨trusted,unchanged⟩,claims,fourth,⟨access,possession,called⟩,webId,fifth,⟨identity,kept⟩,_,last,
      ⟨party,left⟩,done⟩ := run
    subst same again unchanged called kept left
    cases done
    have scheme : (parsed.scheme == "dpop") = dpopScheme := by
      rw [named]
      cases dpopScheme <;> rfl
    rw [scheme] at possession
    exact ⟨⟨dpopScheme,named,gate,⟨peeked,payload,iss,filled,trusted⟩,access,possession,identity,party⟩,rfl⟩
  · intro rule
    obtain ⟨⟨dpopScheme,named,authentic⟩,called⟩ := rule
    obtain ⟨peeked,payload,iss,filled,trusted⟩ := authentic.routed
    have scheme : (parsed.scheme == "dpop") = dpopScheme := by
      rw [named]
      cases dpopScheme <;> rfl
    rw [scheme]
    exact ⟨(),world,⟨⟨dpopScheme,named,authentic.gate⟩,rfl⟩,authenticated.claimedIssuer,world,
      ⟨⟨peeked,payload,iss,filled⟩,rfl⟩,(),world,⟨trusted,rfl⟩,authenticated.claims,after,
      ⟨authentic.access,authentic.possession,called⟩,authenticated.webId,after,⟨authentic.webId,rfl⟩,(),after,
      ⟨authentic.party,rfl⟩,rfl⟩

def Admits (config : VerifierConfig) (reply : MarkReply) : Prop :=
  reply = .new ∨ (config.replayFailClosed = false ∧ ∃ text, reply = .backendError text)

theorem acceptReply_ok (config : VerifierConfig) (reply : MarkReply) (value : Unit) :
    acceptReply config reply = .ok value ↔ Admits config reply := by
  unfold acceptReply Admits
  cases reply with
  | backendError text => cases config.replayFailClosed <;> simp
  | _ => simp

theorem mark_ok (env : Env S) (jti : String) (ttl : Nat) (world after : World S) (reply : MarkReply) :
    mark env jti ttl world = (.ok reply,after) ↔ reply = (env.replay.mark jti ttl world.store).1 ∧
      after = ⟨(env.replay.mark jti ttl world.store).2,world.calls ++ [.mark jti ttl]⟩ := by
  unfold mark
  simp only [Prod.mk.injEq,Except.ok.injEq]
  exact and_congr eq_comm eq_comm

def Unreplayed (env : Env S) (config : VerifierConfig) (req : AuthRequest) (store : S) : Prop :=
  ∀ proof, req.dpop = some proof → ∃ jti ttl, proofJti env.crates proof = some jti ∧
    config.replayTtl env.build = some ttl ∧ Admits config (env.replay.mark jti ttl store).1

theorem checkReplay_ok (env : Env S) (config : VerifierConfig) (proof : String) (world after : World S)
    (value : Unit) :
    checkReplay env config proof world = (.ok value,after) ↔ ∃ jti ttl,
      proofJti env.crates proof = some jti ∧ config.replayTtl env.build = some ttl ∧
        Admits config (env.replay.mark jti ttl world.store).1 ∧
        after = ⟨(env.replay.mark jti ttl world.store).2,world.calls ++ [.mark jti ttl]⟩ := by
  unfold checkReplay
  simp only [Exec.bind_ok,Exec.lift_ok,Exec.checked_ok,Except.orError_ok,mark_ok,acceptReply_ok]
  constructor
  · intro run
    obtain ⟨jti,first,⟨carried,same⟩,ttl,second,⟨read,again⟩,reply,third,⟨answer,marked⟩,admitted,last⟩ := run
    subst same again answer
    exact ⟨jti,ttl,carried,read,admitted,last.trans marked⟩
  · intro rule
    obtain ⟨jti,ttl,carried,read,admitted,last⟩ := rule
    exact ⟨jti,world,⟨carried,rfl⟩,ttl,world,⟨read,rfl⟩,_,after,⟨rfl,last⟩,admitted,rfl⟩

theorem replayStep_ok (env : Env S) (config : VerifierConfig) (req : AuthRequest) (world : World S) :
    (∃ value after, replayStep env config req world = (.ok value,after)) ↔
      Unreplayed env config req world.store := by
  unfold replayStep Unreplayed
  cases req.dpop with
  | none => simp [Exec.pure_run]
  | some proof =>
    simp only [checkReplay_ok]
    constructor
    · intro run
      obtain ⟨_,_,jti,ttl,carried,read,admitted,_⟩ := run
      intro other same
      cases same
      exact ⟨jti,ttl,carried,read,admitted⟩
    · intro rule
      obtain ⟨jti,ttl,carried,read,admitted⟩ := rule proof rfl
      exact ⟨(),_,jti,ttl,carried,read,admitted,rfl⟩

/-- Strict mode wants a resolver whose profile of the WebID lists the issuer. -/
def ProfileConfirms (config : VerifierConfig) (webId issuer : String) : Prop :=
  config.bidirectionalMode = .strict → ∃ resolver profile, config.webidResolver = some resolver ∧
    resolver webId = .ok profile ∧ issuer ∈ profile.issuers

theorem profileLists_iff (profile : Except String WebIdProfile) (issuer : String) :
    profileLists profile issuer = true ↔ ∃ found, profile = .ok found ∧ issuer ∈ found.issuers := by
  cases profile <;> simp [profileLists]

theorem checkBidirectional_ok (config : VerifierConfig) (webId issuer : String) (world : World S) :
    (∃ value after, checkBidirectional config webId issuer world = (.ok value,after)) ↔
      ProfileConfirms config webId issuer := by
  unfold checkBidirectional ProfileConfirms
  by_cases off : config.bidirectionalMode = .off
  · simp [off,Exec.pure_run]
  · rw [if_neg off]
    cases config.webidResolver with
    | none => simp [Exec.lift_ok,Except.ensure_ok]
    | some resolver =>
      simp only [Exec.bind_ok,Exec.lift_ok,Except.ensure_ok,profileLists_iff]
      constructor
      · intro run
        obtain ⟨_,_,profile,middle,resolved,listed,_⟩ := run
        intro strict
        cases resolved
        rcases listed with ⟨found,answer,member⟩ | other
        · exact ⟨resolver,found,rfl,answer,member⟩
        · exact absurd strict other
      · intro rule
        refine ⟨(),_,resolver webId,_,rfl,?_,rfl⟩
        by_cases strict : config.bidirectionalMode = .strict
        · obtain ⟨other,found,same,answer,member⟩ := rule strict
          cases same
          exact Or.inl ⟨found,answer,member⟩
        · exact Or.inr strict

/-- The rule for an authenticated request. -/
structure Accepts (env : Env S) (config : VerifierConfig) (req : AuthRequest) (store : S) (dpopScheme : Bool)
    (token issuer : String) (claims : Claims) (webId : String) : Prop where
  presented : Presents req.authorization dpopScheme token
  authentic : Authentic env config req dpopScheme token issuer claims webId
  unreplayed : Unreplayed env config req store
  confirmed : ProfileConfirms config webId issuer

theorem Authentic.issuer (env : Env S) (config : VerifierConfig) (req : AuthRequest) (dpopScheme : Bool)
    (token issuer : String) (claims : Claims) (webId : String)
    (authentic : Authentic env config req dpopScheme token issuer claims webId) :
    (Authenticated.mk claims issuer webId).issuer = issuer := by
  unfold Authenticated.issuer
  rw [authentic.access.2.issuer]
  rfl

theorem verify_run (env : Env S) (config : VerifierConfig) (req : AuthRequest) (parsed : Parsed)
    (world : World S) (token : VerifiedToken)
    (presented : parseAuthorization env.crates req.authorization = some parsed) :
    (verify env config req world).1 = .ok token ↔ ∃ authenticated middle marked,
      authenticate env config req parsed world = (.ok authenticated,middle) ∧
      replayStep env config req middle = (.ok (),marked) ∧
      (∃ value after, checkBidirectional config authenticated.webId authenticated.issuer marked =
        (.ok value,after)) ∧ token = authenticated.credentials := by
  have outcome : (verify env config req world).1 = .ok token ↔
      ∃ after, verify env config req world = (.ok token,after) := by
    constructor
    · intro ok
      exact ⟨(verify env config req world).2,by rw [← ok]⟩
    · intro run
      obtain ⟨after,same⟩ := run
      rw [same]
  rw [outcome]
  unfold verify
  rw [presented]
  simp only [Exec.bind_ok,Exec.pure_run,Prod.mk.injEq,Except.ok.injEq]
  constructor
  · intro run
    obtain ⟨after,authenticated,middle,checked,_,marked,unreplayed,value,last,confirmed,same,_⟩ := run
    exact ⟨authenticated,middle,marked,checked,unreplayed,⟨value,last,confirmed⟩,same.symm⟩
  · intro run
    obtain ⟨authenticated,middle,marked,checked,unreplayed,⟨value,last,confirmed⟩,same⟩ := run
    exact ⟨last,authenticated,middle,checked,(),marked,unreplayed,value,last,confirmed,same.symm,rfl⟩

theorem accepts_of_verify (env : Env S) (law : PayloadLaw env.crates) (config : VerifierConfig)
    (req : AuthRequest) (world : World S) (token : VerifiedToken) (webId : String)
    (ok : (verify env config req world).1 = .ok token) (named : token.webId = some webId) :
    ∃ dpopScheme token issuer claims,
      Accepts env config req world.store dpopScheme token issuer claims webId := by
  cases presented : parseAuthorization env.crates req.authorization with
  | none =>
    unfold verify at ok
    rw [presented] at ok
    cases ok
    cases named
  | some parsed =>
    obtain ⟨authenticated,middle,marked,checked,unreplayed,confirmed,same⟩ :=
      (verify_run env config req parsed world token presented).mp ok
    obtain ⟨⟨dpopScheme,scheme,authentic⟩,called⟩ :=
      (authenticate_ok env law config req parsed world middle authenticated).mp checked
    have fresh := (replayStep_ok env config req middle).mp ⟨(),marked,unreplayed⟩
    have profile := (checkBidirectional_ok config _ _ marked).mp confirmed
    have issuer : authenticated.issuer = authenticated.claimedIssuer := authentic.issuer
    rw [same] at named
    cases named
    rw [issuer] at profile
    rw [called] at fresh
    have whole : parsed = ⟨schemeName dpopScheme,parsed.token⟩ := by rw [← scheme]
    rw [whole] at presented
    exact ⟨dpopScheme,parsed.token,authenticated.claimedIssuer,authenticated.claims,
      (parseAuthorization_some env.crates _ dpopScheme _).mp presented,authentic,fresh,profile⟩

/-- The rule holds of the signed claims of the token that the request presents. -/
theorem accepts_of_presented (env : Env S) (law : PayloadLaw env.crates) (config : VerifierConfig)
    (req : AuthRequest) (world : World S) (accepted : VerifiedToken) (webId : String) (dpopScheme : Bool)
    (token issuer : String) (claims : Claims) (ok : (verify env config req world).1 = .ok accepted)
    (authenticated : accepted.webId = some webId) (presents : Presents req.authorization dpopScheme token)
    (signed : ValidAccessToken env config token issuer claims) :
    ∃ routed, Accepts env config req world.store dpopScheme token routed claims webId := by
  obtain ⟨otherScheme,other,routed,otherClaims,accepts⟩ :=
    accepts_of_verify env law config req world accepted webId ok authenticated
  obtain ⟨rfl,rfl⟩ := presents.unique env.crates accepts.presented
  obtain rfl := signed.unique law accepts.authentic.access
  exact ⟨routed,accepts⟩

theorem verify_of_accepts (env : Env S) (law : PayloadLaw env.crates) (config : VerifierConfig)
    (req : AuthRequest) (world : World S) (dpopScheme : Bool) (token issuer : String) (claims : Claims)
    (webId : String) (accepts : Accepts env config req world.store dpopScheme token issuer claims webId) :
    (verify env config req world).1 = .ok (Authenticated.mk claims issuer webId).credentials := by
  have presented := (parseAuthorization_some env.crates _ dpopScheme token).mpr accepts.presented
  have checked := (authenticate_ok env law config req ⟨schemeName dpopScheme,token⟩ world _
    ⟨claims,issuer,webId⟩).mpr ⟨⟨dpopScheme,rfl,accepts.authentic⟩,rfl⟩
  obtain ⟨_,marked,unreplayed⟩ := (replayStep_ok env config req
    {world with calls := world.calls ++ [.keysFor issuer]}).mpr accepts.unreplayed
  have confirmed := (checkBidirectional_ok config webId issuer marked).mpr accepts.confirmed
  rw [← accepts.authentic.issuer] at confirmed
  exact (verify_run env config req _ world _ presented).mpr
    ⟨_,_,marked,checked,unreplayed,confirmed,rfl⟩

/-- Verification authenticates a request as `webId` exactly where the request meets the rule. -/
theorem verify_authenticates (env : Env S) (law : PayloadLaw env.crates) (config : VerifierConfig)
    (req : AuthRequest) (world : World S) (webId : String) :
    (∃ token, (verify env config req world).1 = .ok token ∧ token.webId = some webId) ↔
      ∃ dpopScheme token issuer claims,
        Accepts env config req world.store dpopScheme token issuer claims webId := by
  apply Iff.intro
  · intro accepted
    obtain ⟨token,ok,named⟩ := accepted
    exact accepts_of_verify env law config req world token webId ok named
  · intro rule
    obtain ⟨dpopScheme,token,issuer,claims,accepts⟩ := rule
    exact ⟨_,verify_of_accepts env law config req world dpopScheme token issuer claims webId accepts,rfl⟩

theorem sampleToken_visible (header payload : String) (signature : List UInt8) :
    ∀ c ∈ (sampleToken header payload signature).toList, Text.isWhitespace c = false := by
  have visible := Base64Url.mem_encode (fun c => Text.isWhitespace c = false) (by decide)
  unfold sampleToken encodedJws
  rw [String.toList_ofList]
  intro c member
  simp only [List.mem_append,List.mem_cons] at member
  rcases member with inside | rfl | inside | rfl | inside
  · exact visible _ c inside
  · rfl
  · exact visible _ c inside
  · rfl
  · exact visible _ c inside

theorem presents_plain (dpopScheme : Bool) (opening token : String) (scheme : List Char)
    (spelled : opening.toList = scheme ++ [' ']) (named : scheme.map Char.toLower = (schemeName dpopScheme).toList)
    (plain : ∀ c ∈ scheme, Text.isWhitespace c = false) (nonblank : scheme ≠ [])
    (visible : ∀ c ∈ token.toList, Text.isWhitespace c = false) (filled : token ≠ "") :
    Presents (some (opening ++ token)) dpopScheme token := by
  have nonempty : token.toList ≠ [] := by
    intro empty
    exact filled (String.toList_inj.mp empty)
  have header : (opening ++ token).toList = scheme ++ ' ' :: token.toList := by
    rw [String.toList_append,spelled,List.append_assoc]
    rfl
  have trimmed : Text.trim token.toList = token.toList :=
    Text.trim_eq_self _ (fun c member => visible c (List.mem_of_mem_head? member))
      (fun c member => visible c (List.mem_of_mem_getLast? member))
  refine ⟨_,scheme,token.toList,rfl,?_,?_,named,trimmed.symm,filled⟩
  · rw [header]
    apply Text.trim_eq_self
    · intro c member
      rw [List.head?_append_of_ne_nil _ nonblank] at member
      exact plain c (List.mem_of_mem_head? member)
    · intro c member
      rw [List.getLast?_append_of_ne_nil _ (List.cons_ne_nil _ _),List.getLast?_cons_of_ne_nil nonempty] at member
      exact visible c (List.mem_of_mem_getLast? member)
  · intro member
    have blank := plain ' ' member
    cases blank

theorem boundToken_ne_empty : boundToken ≠ "" := by
  intro empty
  have whole := boundToken_compact.whole
  rw [empty] at whole
  simp at whole

theorem sampleRequest_presents : Presents sampleRequest.authorization true boundToken :=
  presents_plain true "DPoP " boundToken ['D','P','o','P'] (by decide) (by decide +kernel) (by simp [Text.isWhitespace]) (by simp)
    (sampleToken_visible _ _ _) boundToken_ne_empty

theorem sampleRequest_authentic :
    Authentic sampleEnv sampleConfig sampleRequest true boundToken "https://idp.example" boundClaims
      "https://alice.example/card#me" := by
  have payload : peekClaims sampleCrates boundToken = some boundClaims :=
    sampleToken_claims accessHeader boundPayload _ _ _ (List.mem_of_getElem? (i := 0) rfl)
      (List.mem_of_getElem? (i := 2) rfl) (List.cons_ne_nil _ _)
  have valid := sampleProof_valid sampleConfig sampleRequest proofPayload [("htm",.string "GET")] _ rfl
    (Or.inr ⟨_,rfl⟩) (List.mem_of_getElem? (i := 5) rfl) (List.cons_ne_nil _ _)
    (List.mem_of_getElem? (i := 3) rfl) rfl (by decide)
  have possession : Possession sampleEnv.build sampleEnv.crates sampleConfig (nowSecs sampleEnv.proofClock)
      sampleRequest boundToken true boundClaims := by
    refine ⟨by decide,?_,?_⟩
    · intro _
      exact ⟨sampleThumbprint,sampleProof,_,_,_,rfl,rfl,valid⟩
    · intro thumbprint bound
      cases bound
  exact ⟨by simp,⟨boundClaims,payload,rfl,by decide,by decide⟩,boundToken_valid,possession,
    ⟨rfl,by decide,_,rfl,rfl,rfl,rfl⟩,Or.inl rfl⟩

theorem sampleProof_jti : proofJti sampleCrates sampleProof = some "p1" := by
  have payload : peekClaims sampleCrates sampleProof = some (sampleProofClaims [("htm",.string "GET")]) :=
    sampleToken_claims proofHeader proofPayload _ _ _ (List.mem_of_getElem? (i := 1) rfl)
      (List.mem_of_getElem? (i := 5) rfl) (List.cons_ne_nil _ _)
  unfold proofJti
  rw [payload,Option.bind_some]
  exact (presentStr_some _ _ _).mpr ⟨rfl,by decide⟩

theorem sampleRequest_accepts :
    Accepts sampleEnv sampleConfig sampleRequest [] true boundToken "https://idp.example" boundClaims
      "https://alice.example/card#me" := by
  refine ⟨sampleRequest_presents,sampleRequest_authentic,?_,?_⟩
  · intro proof presented
    have same : sampleProof = proof := Option.some.inj presented
    rw [← same]
    exact ⟨"p1",611,sampleProof_jti,by decide,Or.inl rfl⟩
  · intro strict
    cases strict

theorem sampleRequest_verified : (verify sampleEnv sampleConfig sampleRequest ⟨[],[]⟩).1 =
    .ok (Authenticated.mk boundClaims "https://idp.example" "https://alice.example/card#me").credentials :=
  verify_of_accepts sampleEnv sampleCrates_payload sampleConfig sampleRequest ⟨[],[]⟩ _ _ _ _ _
    sampleRequest_accepts

theorem verify_authenticates_sample :
    ∃ token, (verify sampleEnv sampleConfig sampleRequest ⟨[],[]⟩).1 = .ok token ∧
      token.webId = some "https://alice.example/card#me" :=
  (verify_authenticates sampleEnv sampleCrates_payload sampleConfig sampleRequest ⟨[],[]⟩ _).mpr
    ⟨true,boundToken,"https://idp.example",boundClaims,sampleRequest_accepts⟩

end SolidOidcVerifier
