import SolidOidcVerifier.ServerRefinement
import SolidOidcVerifier.SingleUse
import SolidOidcVerifier.TimeWindows

/-! What an accepted call of the server rests on, in whatever order concurrent calls take their steps; and
what calls can make the provider of keys do, accepted or not. -/
namespace SolidOidcVerifier
open Foundation

/-- The window that the machine arithmetic leaves, however it wraps. -/
theorem Temporal.window {build : Build} {config : VerifierConfig} {now : Int} {claims : Claims} {exp iat : Int}
    (temporal : Temporal build config now claims exp iat) (epoch : 0 ≤ now) (fits : now < 2^63)
    (tolerance : config.clockToleranceSecs.toNat < 2^63) :
    now ≤ exp+config.clockToleranceSecs.toNat ∧ iat ≤ now+config.clockToleranceSecs.toNat ∧
      ∀ nbf, claims.i64 "nbf" = some nbf → nbf ≤ now+config.clockToleranceSecs.toNat := by
  have exact : MachineInt.wrapI64 config.clockToleranceSecs.toNat = config.clockToleranceSecs.toNat :=
    MachineInt.wrapI64_exact _ ⟨by omega,by omega⟩
  refine ⟨?_,?_,?_⟩
  · obtain ⟨earliest,subtracted,unexpired⟩ := temporal.unexpired
    rw [exact,MachineInt.i64_exact _ _ ⟨by omega,by omega⟩] at subtracted
    cases subtracted
    omega
  · obtain ⟨least,subtracted,past⟩ := temporal.past
    have range := claims.i64_range "iat" iat temporal.issued
    rw [exact] at subtracted
    unfold MachineInt.InI64 at range
    obtain ⟨_,same⟩ | ⟨outside,_,wrapped⟩ := i64_cases _ _ least subtracted
    · omega
    · unfold MachineInt.InI64 at outside
      unfold MachineInt.wrapI64 at wrapped
      omega
  · intro nbf present
    obtain ⟨latest,added,begun⟩ := temporal.begun nbf present
    exact begun.trans (latest_le _ now latest _ ⟨by omega,fits⟩ added)

namespace Deployment

theorem after_accepted {ε α : Type} (result : Except ε α) (next : α → Stage) (passed : Passed)
    (later : ∀ value, next value ≠ .accepted passed) : Stage.after result next ≠ .accepted passed := by
  cases result with
  | ok value => exact later value
  | error error =>
    intro same
    cases same

variable {T : Type} [Field T] [LinearOrder T] [FloorRing T]

/-- A call is accepted by its own last step only, which asks the profile. -/
theorem step_accepted (deployment : Deployment T) (event : Event T) (system : System T) (call : Nat) (passed : Passed)
    (now : (deployment.step event system).stage call = some (.accepted passed)) :
    system.stage call = some (.accepted passed) ∨
      ProfileConfirms (deployment.settings passed.attempt) passed.authenticated.webId passed.authenticated.issuer := by
  have others : ∀ world other stage, (system.advance world other stage).stage call = some (.accepted passed) →
      stage ≠ .accepted passed → system.stage call = some (.accepted passed) := by
    intro world other stage reached differs
    by_cases same : call = other
    · rw [same,System.advance_stage] at reached
      exact absurd (Option.some.inj reached) differs
    · rwa [System.advance_other system world other call stage same] at reached
  cases event with
  | tick reading => exact Or.inl now
  | check other attempt =>
    cases was : system.stage other with
    | some stage =>
      simp only [step,was] at now
      exact Or.inl now
    | none =>
      rw [check_begun deployment other attempt system was] at now
      left
      unfold check at now
      cases presented : parseAuthorization deployment.crates attempt.req.authorization with
      | none =>
        rw [presented] at now
        exact others _ other _ now (by simp)
      | some parsed =>
        rw [presented] at now
        exact others _ other _ now (after_accepted _ _ passed (by simp))
  | mark other =>
    cases was : system.stage other with
    | none =>
      simp only [step,was] at now
      exact Or.inl now
    | some stage =>
      cases stage with
      | checked held =>
        rw [mark_begun deployment other held system was] at now
        exact Or.inl (others _ other _ now (after_accepted _ _ passed (by simp)))
      | _ =>
        simp only [step,was] at now
        exact Or.inl now
  | finish other =>
    cases was : system.stage other with
    | none =>
      simp only [step,was] at now
      exact Or.inl now
    | some stage =>
      cases stage with
      | marked held =>
        rw [finish_begun deployment other held system was] at now
        generalize ran : checkBidirectional (deployment.settings held.attempt) held.authenticated.webId
          held.authenticated.issuer system.world = outcome
        obtain ⟨result,world⟩ := outcome
        rw [finish_run deployment other held system result world ran] at now
        cases result with
        | error stop => exact Or.inl (others _ other _ now (by intro same; cases same))
        | ok value =>
          by_cases same : call = other
          · rw [same,System.advance_stage] at now
            cases now
            exact Or.inr ((checkBidirectional_ok _ _ _ system.world).mp ⟨value,world,ran⟩)
          · rw [System.advance_other system world other call _ same] at now
            exact Or.inl now
      | _ =>
        simp only [step,was] at now
        exact Or.inl now

theorem run_confirmed (deployment : Deployment T) (start : System T) (idle : ∀ call, start.stage call = none)
    (events : List (Event T)) (call : Nat) (passed : Passed)
    (accepted : (History.run deployment.step events start).stage call = some (.accepted passed)) :
    ProfileConfirms (deployment.settings passed.attempt) passed.authenticated.webId passed.authenticated.issuer := by
  let confirmed (system : System T) : Prop := ∀ call passed, system.stage call = some (.accepted passed) →
    ProfileConfirms (deployment.settings passed.attempt) passed.authenticated.webId passed.authenticated.issuer
  have kept : confirmed (History.run deployment.step events start) := by
    apply History.run_stays deployment.step confirmed
    · intro event system before call passed now
      obtain was | confirms := deployment.step_accepted event system call passed now
      · exact before call passed was
      · exact confirms
    · intro call passed was
      rw [idle call] at was
      cases was
  exact kept call passed accepted

end Deployment

namespace Server

variable {N T : Type} [Field T] [LinearOrder T] [FloorRing T]

/-- What an accepted call rests on. It arrived as `arrival`, its own lookup returned `keys` for the trusted
issuer that the token names, and it passed its checks with these keys at `instant`. That the `jti` of its
proof was new is no part of it. -/
structure Authenticates (server : Server T) (start : T) (asked : List (JwksEvent N T)) (state : ServerState T)
    (call : Nat) (passed : Passed) (arrival : Arrival T) (keys : List Jwk) (reading instant : T)
    (dpopScheme : Bool) : Prop where
  arrived : state.arrived call = some arrival
  attempt : passed.attempt = ⟨arrival.req,fun _ => .ok keys,passed.attempt.resolver,some ⌊reading⌋₊⟩
  times : arrival.since ≤ reading ∧ reading ≤ instant ∧ instant ≤ state.verifier.now
  presented : Presents arrival.req.authorization dpopScheme passed.parsed.token
  authentic : Authentic (server.deployment.env passed.attempt instant) (server.deployment.settings passed.attempt)
    arrival.req dpopScheme passed.parsed.token passed.authenticated.claimedIssuer passed.authenticated.claims
    passed.authenticated.webId
  signed : VerifiedJws server.deployment.build server.deployment.crates passed.parsed.token keys "at+jwt"
    passed.authenticated.claims
  trusted : passed.authenticated.claimedIssuer ∈ server.deployment.config.trustedIssuers
  recent : server.Recent start arrival.since call passed.authenticated.claimedIssuer keys asked
  discovered : ∃ (network : Network N) (world : NetWorld N),
    (server.provider.fetchKeys network passed.authenticated.claimedIssuer world).1 = .ok keys ∧
      Discovered server.provider network world passed.authenticated.claimedIssuer keys
  confirmed : ProfileConfirms (server.deployment.settings passed.attempt) passed.authenticated.webId
    passed.authenticated.claimedIssuer

theorem keysAnswer_ok (result : Except (Stop String) (List Jwk)) (keys : List Jwk) :
    keysAnswer result = .ok keys ↔ result = .ok keys := by
  unfold keysAnswer
  split <;> simp_all

omit [FloorRing T] in
theorem recent_discovered (server : Server T) (start since : T) (call : Nat) (issuer : String) (keys : List Jwk)
    (asked : List (JwksEvent N T)) (recent : server.Recent start since call issuer keys asked) :
    ∃ (network : Network N) (world : NetWorld N), (server.provider.fetchKeys network issuer world).1 = .ok keys ∧
      Discovered server.provider network world issuer keys := by
  obtain fetched | ⟨instant,⟨earlier,_,_,_,storer,_,_,fetched⟩,_⟩ := recent
  · exact server.provider.fetchedBy_discovered _ call issuer keys asked fetched
  · exact server.provider.fetchedBy_discovered _ storer issuer keys earlier fetched

/-- The keys of a call that passed its checks are those that its own lookup returned for its issuer. -/
theorem admitted_returned (server : Server T) (law : PayloadLaw server.deployment.crates) (start : T)
    (asked : List (JwksEvent N T)) (state : ServerState T) (joined : server.Joined start asked state) (call : Nat)
    (passed : Passed) (arrival : Arrival T) (answer : Except String (List Jwk)) (reading instant : T)
    (admitted : server.Admitted state call passed arrival answer reading instant) :
    ∃ keys, answer = .ok keys ∧
      state.jwks.stage call = some (.returned passed.authenticated.claimedIssuer (.ok keys)) := by
  have asks := server.examined_asks law instant passed admitted.examined
  obtain ⟨_,world,after,checked⟩ := admitted.examined
  obtain ⟨⟨_,_,authentic⟩,_⟩ := (authenticate_ok _ law _ _ _ _ _ _).mp checked
  obtain ⟨⟨keys,served,_⟩,_⟩ := authentic.access
  have attempt := admitted.attempt
  have req : passed.attempt.req = arrival.req := by rw [attempt]
  have keysFor : passed.attempt.keysFor = fun _ => answer := by rw [attempt]
  have served : passed.attempt.keysFor passed.authenticated.claimedIssuer = .ok keys := served
  rw [req] at asks
  rw [keysFor] at served
  have served : answer = .ok keys := served
  obtain ⟨issuer,result,returned,same⟩ :=
    (keysOf_asked server state call arrival.req _ answer asks).mp admitted.keyed
  rw [served] at same
  obtain ⟨other,arrived,asked⟩ := joined.asks call _ returned
  rw [admitted.arrived] at arrived
  cases arrived
  rw [asks] at asked
  cases asked
  rw [(keysAnswer_ok result keys).mp same] at returned
  exact ⟨keys,served,returned⟩

variable [IsStrictOrderedRing T]

omit [IsStrictOrderedRing T] in
theorem joined_authenticates (server : Server T) (law : PayloadLaw server.deployment.crates) (start : T)
    (asked : List (JwksEvent N T)) (state : ServerState T) (joined : server.Joined start asked state) (call : Nat)
    (passed : Passed) (accepted : state.verifier.stage call = some (.accepted passed))
    (confirmed : ProfileConfirms (server.deployment.settings passed.attempt) passed.authenticated.webId
      passed.authenticated.issuer) :
    ∃ arrival keys reading instant dpopScheme,
      server.Authenticates start asked state call passed arrival keys reading instant dpopScheme := by
  obtain ⟨arrival,answer,reading,instant,admitted⟩ := joined.passed call passed (by rw [accepted]; rfl)
  obtain ⟨keys,rfl,returned⟩ :=
    server.admitted_returned law start asked state joined call passed arrival answer reading instant admitted
  have attempt := admitted.attempt
  have req : passed.attempt.req = arrival.req := by rw [attempt]
  have keysFor : passed.attempt.keysFor = fun _ => .ok keys := by rw [attempt]
  obtain ⟨presented,world,after,checked⟩ := admitted.examined
  obtain ⟨⟨dpopScheme,named,authentic⟩,_⟩ := (authenticate_ok _ law _ _ _ _ _ _).mp checked
  have whole : passed.parsed = ⟨schemeName dpopScheme,passed.parsed.token⟩ := by rw [← named]
  rw [whole,req] at presented
  obtain ⟨⟨found,served,signed⟩,_⟩ := authentic.access
  have served : passed.attempt.keysFor passed.authenticated.claimedIssuer = .ok found := served
  rw [keysFor] at served
  cases served
  have issuer : passed.authenticated.issuer = passed.authenticated.claimedIssuer := authentic.issuer
  obtain ⟨_,_,_,_,trusted⟩ := authentic.routed
  have recent := joined.recent call _ keys arrival returned admitted.arrived
  rw [issuer] at confirmed
  rw [req] at authentic
  exact ⟨arrival,keys,reading,instant,dpopScheme,admitted.arrived,attempt,⟨admitted.after,admitted.order,admitted.before⟩,
    (parseAuthorization_some _ _ _ _).mp presented,authentic,signed,trusted,recent,
    server.recent_discovered start arrival.since call _ keys asked recent,confirmed⟩

omit [IsStrictOrderedRing T] in
theorem accepted_confirmed (server : Server T) (maxEntries : Nat) (start : T) (events : List (ServerEvent N T))
    (call : Nat) (passed : Passed)
    (accepted : (server.run maxEntries start events).verifier.stage call = some (.accepted passed)) :
    ProfileConfirms (server.deployment.settings passed.attempt) passed.authenticated.webId
      passed.authenticated.issuer := by
  rw [run_verifier] at accepted
  exact server.deployment.run_confirmed _ (fun _ => rfl) _ call passed accepted

/-- In every run, whatever the order of the steps, an accepted call presented a token signed under the keys
that discovery gave for its trusted issuer. -/
theorem authenticates (server : Server T) (law : PayloadLaw server.deployment.crates) (maxEntries : Nat) (start : T)
    (events : List (ServerEvent N T)) (call : Nat) (passed : Passed)
    (accepted : (server.run maxEntries start events).verifier.stage call = some (.accepted passed)) :
    ∃ arrival keys reading instant dpopScheme, server.Authenticates start (server.jwksEvents maxEntries start events)
      (server.run maxEntries start events) call passed arrival keys reading instant dpopScheme := by
  have joined := server.run_joined maxEntries start events
  have confirmed := server.accepted_confirmed maxEntries start events call passed accepted
  exact server.joined_authenticates law start _ _ joined call passed accepted confirmed

/-- No run accepts a token that had expired, up to the tolerance, when its call arrived, or one that is not
yet valid by its `iat`, or by an `nbf` that reads as an i64. Other values of `nbf` are not checked. -/
theorem accepts_unexpired (server : Server T) (law : PayloadLaw server.deployment.crates) (maxEntries : Nat) (start : T)
    (events : List (ServerEvent N T)) (call : Nat) (passed : Passed) (epoch : 0 ≤ start)
    (fits : ⌊(server.run maxEntries start events).verifier.now⌋ < 2^63)
    (tolerance : server.deployment.config.clockToleranceSecs.toNat < 2^63)
    (accepted : (server.run maxEntries start events).verifier.stage call = some (.accepted passed)) :
    let tol := server.deployment.config.clockToleranceSecs.toNat
    let now := ⌊(server.run maxEntries start events).verifier.now⌋
    let claims := passed.authenticated.claims
    ∃ arrival exp iat, (server.run maxEntries start events).arrived call = some arrival ∧
      claims.i64 "exp" = some exp ∧ claims.i64 "iat" = some iat ∧ ⌊arrival.since⌋ ≤ exp+tol ∧ iat ≤ now+tol ∧
      ∀ nbf, claims.i64 "nbf" = some nbf → nbf ≤ now+tol := by
  intro tol now claims
  have joined := server.run_joined maxEntries start events
  have confirmed := server.accepted_confirmed maxEntries start events call passed accepted
  obtain ⟨arrival,keys,reading,instant,dpopScheme,rests⟩ :=
    server.joined_authenticates law start _ _ joined call passed accepted confirmed
  obtain ⟨_,_,_,_,exp,iat,temporal⟩ := rests.authentic.access
  obtain ⟨after,order,before⟩ := rests.times
  obtain ⟨started,_⟩ := joined.since call arrival rests.arrived
  have read : ⌊reading⌋ ≤ now := Int.floor_le_floor (order.trans before)
  have arrived : ⌊arrival.since⌋ ≤ ⌊reading⌋ := Int.floor_le_floor after
  have positive : 0 ≤ reading := epoch.trans (started.trans after)
  have clock : nowSecs (server.deployment.env passed.attempt instant).tokenClock = ⌊reading⌋ := by
    change nowSecs passed.attempt.tokenClock = _
    rw [rests.attempt]
    exact Deployment.wall_clock reading positive (lt_of_le_of_lt read fits)
  rw [clock] at temporal
  obtain ⟨unexpired,issued,begun⟩ :=
    temporal.window (Int.floor_nonneg.mpr positive) (lt_of_le_of_lt read fits) tolerance
  refine ⟨arrival,exp,iat,rests.arrived,temporal.expiry,temporal.issued,arrived.trans unexpired,?_,?_⟩
  · exact issued.trans (add_le_add read (le_refl _))
  · intro nbf present
    exact (begun nbf present).trans (add_le_add read (le_refl _))

omit [IsStrictOrderedRing T] [FloorRing T] [LinearOrder T] [Field T] in
theorem asksFor_trusted (server : Server T) (req : AuthRequest) (issuer : String)
    (asks : server.asksFor req = some issuer) : issuer ∈ server.deployment.config.trustedIssuers := by
  unfold asksFor at asks
  simp only [Option.bind_eq_bind,Option.bind_eq_some_iff] at asks
  obtain ⟨_,_,_,_,named,_,_,trusted,_,_,_,_,_,_,same⟩ := asks
  cases same
  by_contra other
  simp [ensure,other,Except.toOption] at trusted

theorem stage_trusted (server : Server T) (maxEntries : Nat) (start : T) (events : List (ServerEvent N T)) (call : Nat)
    (stage : JwksStage) (was : (server.run maxEntries start events).jwks.stage call = some stage) :
    stage.issuer ∈ server.deployment.config.trustedIssuers := by
  obtain ⟨arrival,_,asks⟩ := (server.run_joined maxEntries start events).asks call stage was
  exact server.asksFor_trusted arrival.req stage.issuer asks

theorem fetched_trusted (server : Server T) (maxEntries : Nat) (start : T) (events : List (ServerEvent N T)) (call : Nat)
    (issuer : String) (keys : List Jwk) (fetched : server.provider.FetchedBy (start+server.deployment.offset) call
      issuer keys (server.jwksEvents maxEntries start events)) : issuer ∈ server.deployment.config.trustedIssuers := by
  have reached := server.provider.fetchedBy_stage _ issuer call keys _ fetched
  rw [← run_jwks] at reached
  obtain was | ⟨was,_⟩ := reached
  · exact server.stage_trusted maxEntries start events call _ was
  · exact server.stage_trusted maxEntries start events call _ was

/-- In every run, whatever requests arrive, keys are fetched and held for trusted issuers only: one entry for an
issuer at most, of at most 64 public keys. -/
theorem holds_trusted (server : Server T) (maxEntries : Nat) (start : T) (events : List (ServerEvent N T)) :
    let state := server.run maxEntries start events
    let trusted := server.deployment.config.trustedIssuers
    (∀ call stage, state.jwks.stage call = some stage → stage.issuer ∈ trusted) ∧
    (∀ issuer entry, state.jwks.cache.entries.lookup issuer = some entry → issuer ∈ trusted ∧
      1 ≤ entry.keys.length ∧ entry.keys.length ≤ maxKeys ∧
      (∀ key ∈ entry.keys, key.isSymmetric = false ∧ key.hasPrivateMaterial = false)) ∧
    ExpiryMap.size state.jwks.cache.entries ≤ trusted.dedup.length := by
  intro state trusted
  have held : ∀ issuer entry, state.jwks.cache.entries.lookup issuer = some entry → issuer ∈ trusted ∧
      1 ≤ entry.keys.length ∧ entry.keys.length ≤ maxKeys ∧
      (∀ key ∈ entry.keys, key.isSymmetric = false ∧ key.hasPrivateMaterial = false) := by
    intro issuer entry found
    obtain ⟨_,earlier,_,later,whole,storer,rfl,_,fetched⟩ :=
      (server.run_sourced maxEntries start events).entries issuer entry found
    obtain ⟨_,_,_,_,_,_,_,_,_,_,_,keys⟩ := server.provider.fetchedBy_discovered _ storer issuer _ earlier fetched
    have asked := Happened.append _ earlier (.store storer :: later) fetched
    rw [← whole] at asked
    exact ⟨server.fetched_trusted maxEntries start events storer issuer entry.keys asked,keys.filled,keys.few,keys.isPublic⟩
  refine ⟨server.stage_trusted maxEntries start events,held,ExpiryMap.size_le_of_allowed _ _ ?_⟩
  intro issuer entry found
  exact (held issuer entry found).1

end Server

theorem authenticates_sample :
    ∃ passed arrival keys reading instant dpopScheme, sampleServer.Authenticates sampleOpening
      (sampleServer.jwksEvents 2 sampleOpening sampleServerEvents) (sampleServer.run 2 sampleOpening sampleServerEvents) 0
      passed arrival keys reading instant dpopScheme := by
  obtain ⟨passed,accepted⟩ := sampleServer_accepted
  exact ⟨passed,sampleServer.authenticates plainCrates_payload 2 sampleOpening sampleServerEvents 0 passed accepted⟩

theorem sampleServer_arrived :
    (sampleServer.run 2 sampleOpening sampleServerEvents).arrived 0 = some ⟨plainRequest,sampleOpening⟩ := by
  rw [Server.run,sampleServerEvents]
  exact plainEvents_arrived (sampleServer.start 2 sampleOpening) 0 sampleIdpNetwork sampleReading rfl

theorem sampleServer_claims (passed : Passed)
    (accepted : (sampleServer.run 2 sampleOpening sampleServerEvents).verifier.stage 0 = some (.accepted passed)) :
    passed.authenticated.claims = plainClaims := by
  have joined := sampleServer.run_joined 2 sampleOpening sampleServerEvents
  have confirmed := sampleServer.accepted_confirmed 2 sampleOpening sampleServerEvents 0 passed accepted
  obtain ⟨arrival,keys,_,_,_,rests⟩ :=
    sampleServer.joined_authenticates plainCrates_payload _ _ _ joined 0 passed accepted confirmed
  have arrived := rests.arrived
  rw [sampleServer_arrived] at arrived
  cases arrived
  obtain ⟨_,same⟩ := rests.presented.unique plainCrates plainRequest_presents
  have payload := rests.signed.payload sampleServer.deployment.build plainCrates plainCrates_payload
  rw [same,plainToken_claims] at payload
  exact (Option.some.inj payload).symm

/-- Of a token with all three instants. -/
theorem accepts_unexpired_sample :
    ∃ passed : Passed, ∃ arrival : Arrival ℚ, ∃ exp iat,
      (sampleServer.run 2 sampleOpening sampleServerEvents).arrived 0 = some arrival ∧
      passed.authenticated.claims.i64 "exp" = some exp ∧ passed.authenticated.claims.i64 "iat" = some iat ∧
      ⌊arrival.since⌋ ≤ exp+5 ∧ iat ≤ ⌊sampleReading⌋+5 ∧ passed.authenticated.claims.i64 "nbf" = some 1700000000 ∧
      1700000000 ≤ ⌊sampleReading⌋+5 := by
  obtain ⟨passed,accepted⟩ := sampleServer_accepted
  have clock : ⌊(sampleServer.run 2 sampleOpening sampleServerEvents).verifier.now⌋ < 2^63 := by
    rw [sampleServer_now]
    decide +kernel
  have nbf : passed.authenticated.claims.i64 "nbf" = some 1700000000 := by
    rw [sampleServer_claims passed accepted]
    rfl
  obtain ⟨arrival,exp,iat,arrived,expiry,issued,unexpired,past,begun⟩ := sampleServer.accepts_unexpired
    plainCrates_payload 2 sampleOpening sampleServerEvents 0 passed (by decide +kernel) clock (by decide) accepted
  rw [sampleServer_now] at past begun
  exact ⟨passed,arrival,exp,iat,arrived,expiry,issued,unexpired,past,nbf,begun _ nbf⟩

theorem holds_trusted_sample :
    ExpiryMap.size (sampleServer.run 2 sampleOpening sampleServerEvents).jwks.cache.entries ≤ 1 := by
  obtain ⟨_,_,bounded⟩ := sampleServer.holds_trusted 2 sampleOpening sampleServerEvents
  exact bounded

end SolidOidcVerifier
