import SolidOidcVerifier.ReplayRetention
import SolidOidcVerifier.ServerSafety

/-! A call of the server whose steps no other call interrupts does what `verify` does over `keys_for` of the
provider. -/
namespace SolidOidcVerifier
open Foundation

theorem mapError_of_toOption {ε η α : Type} (left right : Except ε α) (error : η)
    (same : left.toOption = right.toOption) : left.mapError (fun _ => error) = right.mapError (fun _ => error) := by
  cases left with
  | error text =>
    cases right with
    | error other => rfl
    | ok value => cases same
  | ok value =>
    cases right with
    | error other => cases same
    | ok other =>
      cases same
      rfl

namespace Server

variable {N T : Type} [Field T] [LinearOrder T] [FloorRing T]

section asks

variable (server : Server T) (attempt other : Attempt) (now : T) (world : World (InMemoryReplayStore T))
  (request : other.req = attempt.req) (profile : other.resolver = attempt.resolver)
  (clock : other.tokenClock = attempt.tokenClock)
  (answers : ∀ issuer, server.asksFor attempt.req = some issuer →
    (other.keysFor issuer).toOption = (attempt.keysFor issuer).toOption)

include request profile clock answers

/-- The checks ask for keys at most once, and then for those of the issuer of the token. The text of a failure
they do not read. -/
theorem authenticate_asks (parsed : Parsed)
    (presented : parseAuthorization server.deployment.crates attempt.req.authorization = some parsed) :
    authenticate (server.deployment.env other now) (server.deployment.settings other) other.req parsed world =
      authenticate (server.deployment.env attempt now) (server.deployment.settings attempt) attempt.req parsed world := by
  obtain ⟨req,served,resolver,tokenClock⟩ := attempt
  obtain ⟨otherReq,otherServed,otherResolver,otherClock⟩ := other
  dsimp only at request profile clock answers presented
  subst request profile clock
  unfold authenticate
  apply Exec.lift_bind_congr
  intro gateway gate
  apply Exec.lift_bind_congr
  intro issuer named
  apply Exec.lift_bind_congr
  intro trust trusted
  have trusted := (Except.ensure_ok _ _ _).mp trusted
  apply Exec.bind_congr
  apply Exec.bind_congr
  unfold validateAccessToken
  apply Exec.lift_bind_congr
  intro header peeked
  apply Exec.lift_bind_congr
  intro known policy
  apply Exec.lift_bind_congr
  intro built verifiable
  have asks := server.asksFor_some otherReq parsed issuer header presented gate named trusted peeked
    ((Except.ensure_ok _ _ _).mp policy) ((Except.ensure_ok _ _ _).mp verifiable)
  have same := answers issuer asks
  apply Exec.bind_congr
  unfold keysFor
  change ((otherServed issuer).mapError _,_) = ((_ : Except String (List Jwk)).mapError _,_)
  rw [mapError_of_toOption _ _ _ same]
  rfl

theorem verify_asks :
    verify (server.deployment.env other now) (server.deployment.settings other) other.req world =
      verify (server.deployment.env attempt now) (server.deployment.settings attempt) attempt.req world := by
  have same := server.authenticate_asks attempt other now world request profile clock answers
  obtain ⟨req,served,resolver,tokenClock⟩ := attempt
  obtain ⟨otherReq,otherServed,otherResolver,otherClock⟩ := other
  dsimp only at request profile clock answers same
  subst request profile clock
  have outer : parseAuthorization (server.deployment.env ⟨otherReq,otherServed,otherResolver,otherClock⟩ now).crates
      otherReq.authorization = parseAuthorization server.deployment.crates otherReq.authorization := rfl
  have inner : parseAuthorization (server.deployment.env ⟨otherReq,served,otherResolver,otherClock⟩ now).crates
      otherReq.authorization = parseAuthorization server.deployment.crates otherReq.authorization := rfl
  unfold verify
  rw [outer,inner]
  cases presented : parseAuthorization server.deployment.crates otherReq.authorization with
  | none => rfl
  | some parsed => exact Exec.bind_congr _ _ _ world (same parsed presented)

end asks

section alone

variable (server : Server T) (state : ServerState T) (call : Nat) (req : AuthRequest) (network : Network N)
  (world : NetWorld N) (reading : T)

/-- The steps of a call up to its keys, with the time that passes meanwhile. -/
def lookupEvents : List (ServerEvent N T) :=
  [.arrive call req,.fetch call network world,.tick reading,.store call]

/-- `keys_for` of the provider, looked up now and stored later. -/
def keysForNow (issuer : String) : Except (Stop String) (List Jwk) × JwksCache T × NetWorld N :=
  server.provider.keysFor network state.jwks.now
    (max state.jwks.now (max state.verifier.now reading+server.deployment.offset)) issuer state.jwks.cache world

variable (unarrived : state.arrived call = none)

include unarrived

theorem lookupEvents_arrived :
    (History.run server.step (lookupEvents call req network world reading) state).arrived call =
      some ⟨req,state.verifier.now⟩ := by
  have arrived : (server.step (N := N) (.arrive call req) state).arrived call = some ⟨req,state.verifier.now⟩ := by
    simp only [step,arrivals,unarrived,Function.update_self]
  exact History.run_stays server.step (fun after => after.arrived call = some ⟨req,state.verifier.now⟩)
    (fun event after => server.step_arrived event after call _) [.fetch call network world,.tick reading,.store call]
    _ arrived

variable (idle : state.jwks.stage call = none)

include idle

theorem lookupEvents_asked (issuer : String) (asks : server.asksFor req = some issuer) :
    let ready := History.run server.step (lookupEvents call req network world reading) state
    ready.jwks.cache = (server.keysForNow state network world reading issuer).2.1 ∧
      server.keysOf ready call req = some (keysAnswer (server.keysForNow state network world reading issuer).1) := by
  intro ready
  have jwks : ready.jwks = History.run server.provider.step [.lookup call issuer,.fetch call network world,
      .tick (max state.verifier.now reading+server.deployment.offset),.store call] state.jwks := by
    have first : (server.step (N := N) (.arrive call req) state).jwks =
        server.provider.step (N := N) (.lookup call issuer) state.jwks := by
      simp only [step,jwksSteps,unarrived,asks,Option.map_some,Option.toList,History.run]
    simp only [History.run]
    rw [← first]
    rfl
  obtain ⟨cache,returned⟩ := server.provider.uninterrupted network world state.jwks call issuer
    (max state.verifier.now reading+server.deployment.offset) idle
  rw [← jwks] at cache returned
  exact ⟨cache,(keysOf_asked server ready call req issuer _ asks).mpr ⟨issuer,_,returned,rfl⟩⟩

theorem lookupEvents_unasked (unasked : server.asksFor req = none) :
    let ready := History.run server.step (lookupEvents call req network world reading) state
    ready.jwks.cache = state.jwks.cache ∧ server.keysOf ready call req = some (.error "") := by
  intro ready
  have first : (server.step (N := N) (.arrive call req) state).jwks = state.jwks := by
    simp only [step,jwksSteps,unarrived,unasked,Option.map_none,Option.toList,History.run]
  have jwks : ready.jwks = History.run server.provider.step [.fetch call network world,
      .tick (max state.verifier.now reading+server.deployment.offset),.store call] state.jwks := by
    simp only [History.run]
    rw [← first]
    rfl
  refine ⟨?_,?_⟩
  · rw [jwks]
    simp only [History.run,NetworkJwksProvider.step,idle]
  · unfold keysOf
    rw [unasked]

end alone

/-- The later steps of a call that has its keys are those of the verifier. -/
theorem checks_verifier (server : Server T) (ready : ServerState T) (call : Nat) (arrival : Arrival T)
    (keys : Except String (List Jwk)) (clock : T) (resolver : WebIdResolver)
    (arrived : ready.arrived call = some arrival) (keyed : server.keysOf ready call arrival.req = some keys)
    (after : arrival.since ≤ clock) (before : clock ≤ ready.verifier.now) :
    (History.run server.step [.check (N := N) call clock resolver,.mark call,.finish call] ready).verifier =
      server.deployment.run [.check call ⟨arrival.req,fun _ => keys,resolver,some ⌊clock⌋₊⟩,.mark call,.finish call]
        ready.verifier := by
  have attempted := (attemptOf_some server ready call clock resolver _).mpr
    ⟨arrival,keys,arrived,keyed,⟨after,before⟩,rfl⟩
  have first : (server.step (N := N) (.check call clock resolver) ready).verifier =
      server.deployment.step (.check call ⟨arrival.req,fun _ => keys,resolver,some ⌊clock⌋₊⟩) ready.verifier := by
    simp only [step,verifierSteps,attempted,Option.map_some,Option.toList,History.run]
  simp only [Deployment.run]
  rw [← first]
  rfl

def checkEvents (call : Nat) (resolver : WebIdResolver) (clock : T) : List (ServerEvent N T) :=
  [.check call clock resolver,.mark call,.finish call]

/-- The attempt of a request whose call reads the clock at `clock`. -/
def attemptAt (req : AuthRequest) (keysFor : String → Except String (List Jwk)) (resolver : WebIdResolver) (clock : T) :
    Attempt := ⟨req,keysFor,resolver,some ⌊clock⌋₊⟩

/-- A call alone on the server goes through the checks with the keys that `keys_for` gives its issuer. -/
theorem alone_run (server : Server T) (network : Network N) (world : NetWorld N) (state : ServerState T)
    (call : Nat) (req : AuthRequest) (resolver : WebIdResolver) (reading clock : T)
    (unarrived : state.arrived call = none) (idle : state.jwks.stage call = none) (after : state.verifier.now ≤ clock)
    (before : clock ≤ max state.verifier.now reading) :
    let served issuer := server.keysForNow state network world reading issuer
    let last := History.run server.step (lookupEvents call req network world reading ++ checkEvents call resolver clock) state
    last.jwks.cache = ((server.asksFor req).map fun issuer => (served issuer).2.1).getD state.jwks.cache ∧
    ∃ keys, (∀ issuer, server.asksFor req = some issuer → keys = keysAnswer (served issuer).1) ∧
      last.verifier = server.deployment.run
        [.tick reading,.check call (attemptAt req (fun _ => keys) resolver clock),.mark call,.finish call] state.verifier := by
  intro served last
  let ready := History.run server.step (lookupEvents call req network world reading) state
  have whole : last = History.run server.step (checkEvents call resolver clock) ready :=
    History.run_append server.step _ _ state
  have arrived := server.lookupEvents_arrived state call req network world reading unarrived
  rw [whole]
  cases asks : server.asksFor req with
  | none =>
    obtain ⟨cache,keyed⟩ := server.lookupEvents_unasked state call req network world reading unarrived idle asks
    refine ⟨cache,_,?_,server.checks_verifier ready call _ _ clock resolver arrived keyed after before⟩
    intro issuer same
    cases same
  | some issuer =>
    obtain ⟨cache,keyed⟩ := server.lookupEvents_asked state call req network world reading unarrived idle issuer asks
    refine ⟨cache,_,?_,server.checks_verifier ready call _ _ clock resolver arrived keyed after before⟩
    intro other same
    cases same
    rfl

/-- A call alone on the server answers as `verify` does, leaves the replay store and the calls as `verify`
leaves them, and the cache as `keys_for` leaves it. -/
theorem call_alone_verifies (server : Server T) (network : Network N) (world : NetWorld N) (state : ServerState T)
    (call : Nat) (req : AuthRequest) (resolver : WebIdResolver) (reading clock : T)
    (unarrived : state.arrived call = none) (idle : state.jwks.stage call = none)
    (begins : state.verifier.stage call = none) (after : state.verifier.now ≤ clock)
    (before : clock ≤ max state.verifier.now reading) :
    let served issuer := server.keysForNow state network world reading issuer
    let attempt := attemptAt req (fun issuer => keysAnswer (served issuer).1) resolver clock
    let outcome := verify (server.deployment.env attempt (max state.verifier.now reading))
      (server.deployment.settings attempt) req state.verifier.world
    let last := History.run server.step (lookupEvents call req network world reading ++ checkEvents call resolver clock) state
    last.verifier.world = outcome.2 ∧
    (∀ token, (outcome.1 = .ok token ∧ token.webId ≠ none) ↔ ∃ passed,
      last.verifier.stage call = some (.accepted passed) ∧ token = passed.authenticated.credentials) ∧
    last.jwks.cache = ((server.asksFor req).map fun issuer => (served issuer).2.1).getD state.jwks.cache := by
  intro served attempt outcome last
  obtain ⟨cache,keys,answers,verifier⟩ :=
    server.alone_run network world state call req resolver reading clock unarrived idle after before
  obtain ⟨left,decides⟩ := server.deployment.uninterrupted call (attemptAt req (fun _ => keys) resolver clock)
    (server.deployment.step (.tick reading) state.verifier) begins
  have same := server.verify_asks attempt (attemptAt req (fun _ => keys) resolver clock)
    (max state.verifier.now reading) state.verifier.world rfl rfl rfl fun issuer asks => congrArg _ (answers issuer asks)
  rw [Deployment.run] at verifier
  rw [← verifier] at left decides
  have answer := congrArg Prod.fst same
  refine ⟨left.trans (congrArg Prod.snd same),?_,cache⟩
  intro token
  rw [← decides token]
  exact and_congr_left (fun _ => Eq.congr_left answer.symm)

end Server

def plainHeader : String := "\x7b\"alg\":\"EdDSA\",\"typ\":\"at+jwt\"\x7d"

def plainPayload : String :=
  "\x7b\"iss\":\"https://idp.example/\",\"sub\":\"alice\",\"jti\":\"t1\",\"client_id\":\"app\",\"aud\":\"https://rs.example\",\"webid\":\"https://alice.example/card\",\"iat\":1700000000,\"nbf\":1700000000,\"exp\":1700000600\x7d"

theorem plain_issued : 1700000000 < 2^64 := by omega

theorem plain_expires : 1700000600 < 2^64 := by omega

def plainClaims : Claims :=
  [("iss",.string sampleIssuer),("sub",.string "alice"),("jti",.string "t1"),("client_id",.string "app"),
    ("aud",.string "https://rs.example"),("webid",.string "https://alice.example/card"),
    ("iat",.number (.posInt 1700000000 plain_issued)),("nbf",.number (.posInt 1700000000 plain_issued)),
    ("exp",.number (.posInt 1700000600 plain_expires))]

def plainDocument (bytes : List UInt8) : Option Json :=
  if bytes = Text.asBytes plainHeader then some (.object [("alg",.string "EdDSA"),("typ",.string "at+jwt")])
  else if bytes = Text.asBytes plainPayload then some (.object plainClaims)
  else rotatedDocument bytes

def plainToken : String := sampleToken plainHeader plainPayload [1]

def plainParser : Crates := {sampleIdpCrates with fromSlice := plainDocument}

def plainDecode (token key : String) (alg : Algorithm) : Except String Claims :=
  if alg = .edDsa ∧ token = plainToken ∧ key = "AA" then orError (peekClaims plainParser token) "InvalidToken"
  else .error "InvalidSignature"

def plainCrates : Crates where
  __ := plainParser
  jsonwebtoken := {
    DecodingKey := String
    fromEcComponents _ _ := .error "InvalidEcdsaKey"
    fromRsaComponents _ _ := .error "InvalidRsaKey"
    fromEdComponents x := .ok x
    decode := plainDecode }

theorem plainCrates_payload : PayloadLaw plainCrates := by
  intro token key alg claims decoded
  have decoded : plainDecode token key alg = .ok claims := decoded
  unfold plainDecode at decoded
  split at decoded
  · exact (Except.orError_ok _ _ _).mp decoded
  · cases decoded

theorem plainCrates_fromSlice (bytes : List UInt8) : plainCrates.fromSlice bytes = plainDocument bytes := rfl

theorem plainCrates_decode (token key : String) (alg : Algorithm) :
    plainCrates.jsonwebtoken.decode token key alg = plainDecode token key alg := rfl

theorem plainCrates_builds (jwk : Jwk) (key : String) :
    BuildsKey plainCrates jwk key ↔ jwk.kty = "OKP" ∧ jwk.x = some key := by
  constructor
  · intro built
    rcases built with ⟨_,_,_,_,_,built⟩ | ⟨_,_,_,_,_,built⟩ | ⟨okp,x,given,built⟩
    · cases built
    · cases built
    · cases built
      exact ⟨okp,given⟩
  · intro own
    exact Or.inr (Or.inr ⟨own.1,key,own.2,rfl⟩)

theorem plainToken_compact : CompactJws plainToken (Base64Url.encode (Text.asBytes plainHeader))
    (Base64Url.encode (Text.asBytes plainPayload)) (Base64Url.encode [1]) := by
  apply encodedJws_compact
  · intro empty
    exact absurd (asBytes_injective plainHeader "" empty) (by decide +kernel)
  · intro empty
    exact absurd (asBytes_injective plainPayload "" empty) (by decide +kernel)
  · exact List.cons_ne_nil _ _

theorem plainToken_claims : peekClaims plainCrates plainToken = some plainClaims := by
  apply (peekClaims_some _ _ _).mpr
  refine ⟨_,_,_,Text.asBytes plainPayload,plainToken_compact,Base64Url.decode_encode _,?_⟩
  have other : Text.asBytes plainPayload ≠ Text.asBytes plainHeader := by
    intro same
    exact absurd (asBytes_injective _ _ same) (by decide +kernel)
  rw [plainCrates_fromSlice,plainDocument,if_neg other,if_pos rfl]

theorem plainToken_header : peekHeader plainCrates plainToken = .ok ⟨"EdDSA",some "at+jwt",none⟩ := by
  have read : plainCrates.fromSlice (Text.asBytes plainHeader) =
      some (.object [("alg",.string "EdDSA"),("typ",.string "at+jwt")]) := by
    rw [plainCrates_fromSlice,plainDocument,if_pos rfl]
  unfold peekHeader
  rw [(splitCompact_ok _ _ _ _).mpr plainToken_compact]
  simp only [Except.bind_ok,Except.orError_ok]
  exact ⟨_,rfl,Text.asBytes plainHeader,Base64Url.decode_encode _,_,read,"EdDSA",rfl,none,rfl,rfl⟩

theorem plainToken_verified : VerifiedJws ⟨false,false⟩ plainCrates plainToken [sampleIdpKey] "at+jwt" plainClaims := by
  have isPublic : PublicKey sampleIdpKey := by
    unfold PublicKey
    decide
  have built : BuildsKey plainCrates sampleIdpKey "AA" := (plainCrates_builds _ _).mpr ⟨rfl,rfl⟩
  have decoded : plainCrates.jsonwebtoken.decode plainToken "AA" .edDsa = .ok plainClaims := by
    rw [plainCrates_decode,plainDecode,if_pos ⟨rfl,rfl,rfl⟩]
    exact (Except.orError_ok _ _ _).mpr plainToken_claims
  exact ⟨_,plainToken_header,by decide,by decide,by decide,sampleIdpKey,List.mem_singleton_self _,isPublic,
    .jsonwebtoken .edDsa "AA" rfl built decoded⟩

def plainConfig : VerifierConfig := {VerifierConfig.new [sampleIssuer] "https://rs.example" with requireDpop := false}

def plainRequest : AuthRequest := ⟨some ("Bearer " ++ plainToken),none,"GET","https://rs.example/r",none⟩

def sampleOpening : ℚ := 1700000010

def sampleReading : ℚ := 1700000011

def plainAttempt (served : String → Except String (List Jwk)) (reading : ℚ) : Attempt :=
  Server.attemptAt plainRequest served (fun _ => .error "unreachable") reading

/-- The clock of the token lies between its `iat` and its `exp`. -/
theorem plainAttempt_clock (served : String → Except String (List Jwk)) (reading : ℚ) (issued : 1700000000 ≤ reading)
    (unexpired : reading < 1700000600) :
    1700000000 ≤ nowSecs (plainAttempt served reading).tokenClock ∧
      nowSecs (plainAttempt served reading).tokenClock < 1700000600 := by
  have positive : 0 ≤ reading := le_trans (by norm_num) issued
  have least : 1700000000 ≤ ⌊reading⌋ := Int.le_floor.mpr (by exact_mod_cast issued)
  have most : ⌊reading⌋ < 1700000600 := Int.floor_lt.mpr (by exact_mod_cast unexpired)
  have clock : nowSecs (plainAttempt served reading).tokenClock = ⌊reading⌋ :=
    Deployment.wall_clock reading positive (by omega)
  rw [clock]
  exact ⟨least,most⟩

def sampleServer : Server ℚ where
  deployment := ⟨⟨false,false⟩,plainCrates,plainConfig,InMemoryReplayStore.secondsPlatform,7⟩
  paths := ⟨fun _ => "/",fun _ url => url⟩
  fetcher := .default
  cacheTtl := 60

theorem plainRequest_presents : Presents plainRequest.authorization false plainToken := by
  have visible : ∀ c ∈ plainToken.toList, Text.isWhitespace c = false := sampleToken_visible _ _ _
  have filled : plainToken ≠ "" := by
    intro empty
    have whole := plainToken_compact.whole
    rw [empty] at whole
    simp at whole
  exact presents_plain false "Bearer " plainToken ['B','e','a','r','e','r'] (by decide) (by decide +kernel)
    (by simp [Text.isWhitespace]) (by simp) visible filled

theorem plainRequest_accepts (served : String → Except String (List Jwk)) (reading now : ℚ)
    (store : InMemoryReplayStore ℚ) (issued : 1700000000 ≤ reading) (unexpired : reading < 1700000600)
    (keys : served sampleIssuer = .ok [sampleIdpKey]) :
    Accepts (sampleServer.deployment.env (plainAttempt served reading) now)
      (sampleServer.deployment.settings (plainAttempt served reading)) plainRequest store false plainToken sampleIssuer
      plainClaims "https://alice.example/card" := by
  have access : AccessClaims (sampleServer.deployment.env (plainAttempt served reading) now)
      (sampleServer.deployment.settings (plainAttempt served reading)) sampleIssuer plainClaims := by
    obtain ⟨begun,ahead⟩ := plainAttempt_clock served reading issued unexpired
    have tolerance : MachineInt.wrapI64 5 = 5 := by decide
    have earliest : MachineInt.i64 false (nowSecs (plainAttempt served reading).tokenClock-MachineInt.wrapI64 5) =
        some (nowSecs (plainAttempt served reading).tokenClock-5) := by
      rw [tolerance]
      exact MachineInt.i64_exact _ _ ⟨by omega,by omega⟩
    have latest : MachineInt.i64 false (nowSecs (plainAttempt served reading).tokenClock+MachineInt.wrapI64 5) =
        some (nowSecs (plainAttempt served reading).tokenClock+5) := by
      rw [tolerance]
      exact MachineInt.i64_exact _ _ ⟨by omega,by omega⟩
    have least : MachineInt.i64 false (1700000000-MachineInt.wrapI64 5) = some 1699999995 := by decide
    have early : nowSecs (plainAttempt served reading).tokenClock-5 ≤ 1700000600 := by omega
    have past : (1699999995 : Int) ≤ nowSecs (plainAttempt served reading).tokenClock := by omega
    refine ⟨?_,rfl,Or.inl rfl,1700000600,1700000000,rfl,⟨_,earliest,early⟩,?_,rfl,⟨_,least,past⟩⟩
    · simp [plainClaims,Claims.str,Claims.get,List.lookup,Json.asStr]
    · intro nbf read
      have read : (1700000000 : Int) = nbf := Option.some.inj read
      exact ⟨_,latest,by omega⟩
  refine ⟨plainRequest_presents,⟨?_,?_,⟨⟨_,keys,plainToken_verified⟩,access⟩,⟨?_,?_,?_⟩,?_,Or.inl rfl⟩,?_,?_⟩
  · intro _ required
    cases required
  · exact ⟨plainClaims,plainToken_claims,rfl,by decide,List.mem_singleton_self _⟩
  · decide
  · intro required
    simp [plainClaims,extractCnfJkt,cnfMember,Claims.get,List.lookup,Deployment.settings,sampleServer,plainConfig] at required
  · intro thumbprint bound
    cases bound
  · exact ⟨rfl,by decide,_,rfl,rfl,rfl,rfl⟩
  · intro proof presented
    cases presented
  · intro strict
    cases strict

theorem plainRequest_asks : sampleServer.asksFor plainRequest = some sampleIssuer := by
  apply sampleServer.asksFor_some plainRequest ⟨schemeName false,plainToken⟩ sampleIssuer _
    ((parseAuthorization_some _ _ _ _).mpr plainRequest_presents) _ _ (List.mem_singleton_self _) plainToken_header
    (by decide) (by decide)
  · apply (schemeGate_ok _ _ _ _).mpr
    refine ⟨false,rfl,?_⟩
    intro _ required
    cases required
  · exact (peekIssuer_ok _ _ _).mpr ⟨plainClaims,plainToken_claims,rfl,by decide⟩

theorem sampleServer_served :
    keysAnswer (sampleServer.keysForNow (sampleServer.start 2 sampleOpening) sampleIdpNetwork ⟨(),[]⟩ sampleReading
      sampleIssuer).1 = .ok [sampleIdpKey] := by
  decide +kernel

theorem plainRequest_verified (served : String → Except String (List Jwk)) (reading now : ℚ)
    (world : World (InMemoryReplayStore ℚ)) (issued : 1700000000 ≤ reading) (unexpired : reading < 1700000600)
    (keys : served sampleIssuer = .ok [sampleIdpKey]) :
    ∃ token, (verify (sampleServer.deployment.env (plainAttempt served reading) now)
      (sampleServer.deployment.settings (plainAttempt served reading)) plainRequest world).1 = .ok token ∧
      token.webId ≠ none := by
  have ok := verify_of_accepts _ plainCrates_payload _ plainRequest world _ _ _ _ _
    (plainRequest_accepts served reading now world.store issued unexpired keys)
  exact ⟨_,ok,Option.some_ne_none _⟩

/-- The steps of a call with the plain request, which has its keys at `reading`. -/
def plainEvents (call : Nat) (network : Network Unit) (reading : ℚ) : List (ServerEvent Unit ℚ) :=
  Server.lookupEvents call plainRequest network ⟨(),[]⟩ reading ++
    Server.checkEvents call (fun _ => .error "unreachable") reading

theorem plainEvents_arrived (state : ServerState ℚ) (call : Nat) (network : Network Unit) (reading : ℚ)
    (unarrived : state.arrived call = none) :
    (History.run sampleServer.step (plainEvents call network reading) state).arrived call =
      some ⟨plainRequest,state.verifier.now⟩ := by
  have arrived := sampleServer.lookupEvents_arrived state call plainRequest network ⟨(),[]⟩ reading unarrived
  rw [plainEvents,History.run_append]
  exact History.run_stays sampleServer.step (fun after => after.arrived call = some ⟨plainRequest,state.verifier.now⟩)
    (fun event after => sampleServer.step_arrived event after call _) _ _ arrived

theorem plainEvents_accepted (state : ServerState ℚ) (call : Nat) (network : Network Unit) (reading : ℚ)
    (unarrived : state.arrived call = none) (idle : state.jwks.stage call = none)
    (begins : state.verifier.stage call = none) (after : state.verifier.now ≤ reading)
    (issued : 1700000000 ≤ reading) (unexpired : reading < 1700000600)
    (served : keysAnswer (sampleServer.keysForNow state network ⟨(),[]⟩ reading sampleIssuer).1 = .ok [sampleIdpKey]) :
    ∃ passed, (History.run sampleServer.step (plainEvents call network reading) state).verifier.stage call =
      some (.accepted passed) := by
  obtain ⟨_,keys,answers,verifier⟩ := sampleServer.alone_run network ⟨(),[]⟩ state call plainRequest
    (fun _ => .error "unreachable") reading reading unarrived idle after (le_max_right _ _)
  have known := (answers sampleIssuer plainRequest_asks).trans served
  rw [Deployment.run] at verifier
  obtain ⟨_,decides⟩ := sampleServer.deployment.uninterrupted call (plainAttempt (fun _ => keys) reading)
    (sampleServer.deployment.step (.tick reading) state.verifier) begins
  obtain ⟨token,accepted⟩ := plainRequest_verified (fun _ => keys) reading _ _ issued unexpired known
  obtain ⟨passed,reached,_⟩ := (decides token).mp accepted
  refine ⟨passed,?_⟩
  rw [plainAttempt] at reached
  rw [plainEvents,verifier]
  exact reached

/-- One call, whose keys come a second after it arrived. -/
def sampleServerEvents : List (ServerEvent Unit ℚ) := plainEvents 0 sampleIdpNetwork sampleReading

theorem sampleServer_accepted :
    ∃ passed, (sampleServer.run 2 sampleOpening sampleServerEvents).verifier.stage 0 = some (.accepted passed) := by
  obtain ⟨passed,accepted⟩ := plainEvents_accepted (sampleServer.start 2 sampleOpening) 0 sampleIdpNetwork sampleReading
    rfl rfl rfl (by decide +kernel) (by decide +kernel) (by decide +kernel) sampleServer_served
  rw [Server.run,sampleServerEvents]
  exact ⟨passed,accepted⟩

theorem sampleServer_now : (sampleServer.run 2 sampleOpening sampleServerEvents).verifier.now = sampleReading := by
  obtain ⟨_,_,_,verifier⟩ := sampleServer.alone_run sampleIdpNetwork ⟨(),[]⟩ (sampleServer.start 2 sampleOpening) 0
    plainRequest (fun _ => .error "unreachable") sampleReading sampleReading rfl rfl (by decide +kernel) (le_max_right _ _)
  rw [Server.run,sampleServerEvents,plainEvents]
  rw [verifier]
  simp only [Deployment.run]
  rw [Deployment.step_still _ (.finish 0) _ (by simp),Deployment.step_still _ (.mark 0) _ (by simp),
    Deployment.step_still _ (.check 0 _) _ (by simp)]
  exact max_eq_right (by decide +kernel)

theorem call_alone_verifies_sample :
    ∃ passed, (sampleServer.run 2 sampleOpening sampleServerEvents).verifier.stage 0 = some (.accepted passed) ∧
      passed.authenticated.credentials.webId ≠ none := by
  obtain ⟨_,decides,_⟩ := sampleServer.call_alone_verifies sampleIdpNetwork ⟨(),[]⟩ (sampleServer.start 2 sampleOpening) 0
    plainRequest (fun _ => .error "unreachable") sampleReading sampleReading rfl rfl rfl (by decide +kernel)
    (le_max_right _ _)
  obtain ⟨token,accepted⟩ := plainRequest_verified (fun issuer => keysAnswer (sampleServer.keysForNow
    (sampleServer.start 2 sampleOpening) sampleIdpNetwork ⟨(),[]⟩ sampleReading issuer).1) sampleReading _ _ (by decide +kernel) (by decide +kernel) sampleServer_served
  rw [plainAttempt] at accepted
  obtain ⟨passed,reached,same⟩ := (decides token).mp accepted
  rw [Server.run,sampleServerEvents,plainEvents]
  refine ⟨passed,reached,?_⟩
  rw [← same]
  exact accepted.2

end SolidOidcVerifier
