import SolidOidcVerifier.KeyFreshness
import SolidOidcVerifier.ServerAcceptance

/-! When a key that its issuer has withdrawn stops to authenticate calls of the server. -/
namespace SolidOidcVerifier
open Foundation

/-- Records of one key: the same record, or records that give one verifying key whatever else they carry. -/
def SameKey (crates : Crates) (left right : Jwk) : Prop :=
  left = right ∨ (∃ key, BuildsKey crates left key ∧ BuildsKey crates right key) ∨
    ∃ key, BuildsP521Key crates left key ∧ BuildsP521Key crates right key

namespace Server

variable {N T : Type} [Field T] [LinearOrder T] [IsStrictOrderedRing T] [FloorRing T]

/-- A call that asks for the keys of an issuer looks them up as it arrives. -/
def LooksUp (server : Server T) (start : T) (asked : List (JwksEvent N T)) (state : ServerState T) : Prop :=
  ∀ call arrival issuer, state.arrived call = some arrival → server.asksFor arrival.req = some issuer →
    server.provider.LookedUpAt (start+server.deployment.offset) call issuer (arrival.since+server.deployment.offset) asked

omit [IsStrictOrderedRing T] in
theorem step_looksUp (server : Server T) (start : T) (asked : List (JwksEvent N T)) (event : ServerEvent N T)
    (state : ServerState T) (joined : server.Joined start asked state) (before : server.LooksUp start asked state)
    (reached : state.jwks = server.provider.run asked (start+server.deployment.offset)) :
    server.LooksUp start (asked ++ server.jwksSteps event state) (server.step event state) := by
  intro call arrival issuer arrived asks
  have kept : state.arrived call = some arrival → server.provider.LookedUpAt (start+server.deployment.offset) call issuer
      (arrival.since+server.deployment.offset) (asked ++ server.jwksSteps event state) := by
    intro was
    exact Happened.append _ _ _ (before call arrival issuer was asks)
  have moved := server.step_moves event state
  generalize server.step event state = after at moved arrived
  generalize server.jwksSteps event state = did at moved kept ⊢
  cases moved with
  | settled other req idle unasked =>
    by_cases same : call = other
    · change Function.update state.arrived other _ call = some arrival at arrived
      rw [same,Function.update_self] at arrived
      cases arrived
      rw [asks] at unasked
      cases unasked
    · change Function.update state.arrived other _ call = some arrival at arrived
      rw [Function.update_of_ne same] at arrived
      exact kept arrived
  | asked other req sought idle seeks =>
    by_cases same : call = other
    · change Function.update state.arrived other _ call = some arrival at arrived
      rw [same,Function.update_self] at arrived
      cases arrived
      rw [seeks] at asks
      cases asks
      have fresh : state.jwks.stage call = none := by
        cases was : state.jwks.stage call with
        | none => rfl
        | some stage =>
          obtain ⟨earlier,had,_⟩ := joined.asks call stage was
          rw [same,idle] at had
          cases had
      rw [reached] at fresh
      have clock := joined.clock
      rw [reached] at clock
      rw [← same]
      exact Happened.last _ asked (.lookup call issuer) ⟨rfl,fresh,clock⟩
    · change Function.update state.arrived other _ call = some arrival at arrived
      rw [Function.update_of_ne same] at arrived
      exact kept arrived
  | _ => exact kept arrived

theorem run_looksUp (server : Server T) (maxEntries : Nat) (start : T) (events : List (ServerEvent N T)) :
    server.LooksUp start (server.jwksEvents maxEntries start events) (server.run maxEntries start events) := by
  apply History.run_keeps server.step (server.start maxEntries start)
    (fun events state => server.LooksUp start (server.jwksEvents maxEntries start events) state)
  · intro call arrival issuer arrived
    cases arrived
  · intro events event before
    have projected : server.jwksEvents maxEntries start (events ++ [event]) =
        server.jwksEvents maxEntries start events ++ server.jwksSteps event (server.run maxEntries start events) :=
      History.projection_last _ _ _ _ _
    rw [projected]
    exact server.step_looksUp start _ event _ (server.run_joined maxEntries start events) before
      (server.run_jwks maxEntries start events)

/-- A call that arrives one time to live, and the delay of a store, after its issuer withdrew a key verifies with
keys that do not have it, in whatever record, whatever other calls fetched or stored meanwhile. It is accepted by
one of these keys. -/
theorem withdrawn_key_rejected (server : Server T) (law : PayloadLaw server.deployment.crates) (maxEntries : Nat)
    (start : T) (events : List (ServerEvent N T)) (key : Jwk) (moment delay : T) (call : Nat) (passed : Passed)
    (arrival : Arrival T) (nonnegative : 0 ≤ delay+server.cacheTtl)
    (withdrawn : server.provider.WithdrawnFrom (start+server.deployment.offset) passed.authenticated.claimedIssuer
      (SameKey server.deployment.crates key) (moment+server.deployment.offset) (server.jwksEvents maxEntries start events))
    (prompt : server.provider.StoresWithin (start+server.deployment.offset) passed.authenticated.claimedIssuer delay
      (server.jwksEvents maxEntries start events))
    (accepted : (server.run maxEntries start events).verifier.stage call = some (.accepted passed))
    (arrived : (server.run maxEntries start events).arrived call = some arrival)
    (late : moment+(delay+server.cacheTtl) ≤ arrival.since) :
    ∃ keys header, (server.run maxEntries start events).jwks.stage call =
        some (.returned passed.authenticated.claimedIssuer (.ok keys)) ∧
      passed.attempt.keysFor passed.authenticated.claimedIssuer = .ok keys ∧
      (∀ other ∈ keys, ¬SameKey server.deployment.crates key other) ∧
      peekHeader server.deployment.crates passed.parsed.token = .ok header ∧
      ∃ verifying ∈ keys, PublicKey verifying ∧ KeyVerifies server.deployment.build server.deployment.crates
        passed.parsed.token header.alg verifying passed.authenticated.claims := by
  have joined := server.run_joined maxEntries start events
  obtain ⟨found,answer,reading,instant,admitted⟩ := joined.passed call passed (by rw [accepted]; rfl)
  have same := admitted.arrived.symm.trans arrived
  cases same
  obtain ⟨keys,rfl,returned⟩ := server.admitted_returned law start _ _ joined call passed arrival answer reading instant admitted
  have asks := server.examined_asks law instant passed admitted.examined
  have attempt := admitted.attempt
  have req : passed.attempt.req = arrival.req := by rw [attempt]
  have keysFor : passed.attempt.keysFor passed.authenticated.claimedIssuer = .ok keys := by rw [attempt]
  rw [req] at asks
  have lookup := server.run_looksUp maxEntries start events call arrival _ arrived asks
  obtain ⟨_,_,_,checked⟩ := admitted.examined
  obtain ⟨⟨_,_,authentic⟩,_⟩ := (authenticate_ok _ law _ _ _ _ _ _).mp checked
  obtain ⟨⟨served,answered,header,peeked,_,_,_,jwk,member,isPublic,verifies⟩,_⟩ := authentic.access
  have answered : passed.attempt.keysFor passed.authenticated.claimedIssuer = .ok served := answered
  cases keysFor.symm.trans answered
  refine ⟨keys,header,returned,keysFor,?_,peeked,jwk,member,isPublic,verifies⟩
  rw [run_jwks] at returned
  have expired : moment+server.deployment.offset+(delay+server.provider.cacheTtl) ≤
      arrival.since+server.deployment.offset := by
    have ttl : server.provider.cacheTtl = server.cacheTtl := rfl
    rw [ttl]
    linarith
  exact server.provider.withdrawn_keys_expire _ _ _ _ _ delay nonnegative withdrawn prompt call keys _ lookup returned
    expired

omit [IsStrictOrderedRing T] in
theorem lookupEvents_jwks (server : Server T) (state : ServerState T) (call : Nat) (req : AuthRequest)
    (network : Network N) (world : NetWorld N) (reading : T) (issuer : String) (unarrived : state.arrived call = none)
    (asks : server.asksFor req = some issuer) :
    History.projection server.step server.jwksSteps (lookupEvents call req network world reading) state =
      [.lookup call issuer,.fetch call network world,.tick (max state.verifier.now reading+server.deployment.offset),
        .store call] := by
  simp only [lookupEvents,History.projection,jwksSteps,unarrived,asks,Option.map_some,Option.toList_some,
    List.cons_append,List.nil_append]
  rfl

omit [IsStrictOrderedRing T] in
theorem step_tick (server : Server T) (state : ServerState T) (reading : T) :
    server.step (N := N) (.tick reading) state = ⟨{state.verifier with now := max state.verifier.now reading},
      server.provider.step (N := N) (.tick (max state.verifier.now reading+server.deployment.offset)) state.jwks,
      state.arrived⟩ := rfl

omit [IsStrictOrderedRing T] in
/-- The lookup of a call leaves the others and the replay store alone. -/
theorem lookupEvents_other (server : Server T) (state : ServerState T) (call other : Nat) (req : AuthRequest)
    (network : Network N) (world : NetWorld N) (reading : T) (differs : other ≠ call) :
    let ready := History.run server.step (lookupEvents call req network world reading) state
    ready.arrived other = state.arrived other ∧
      ready.verifier = {state.verifier with now := max state.verifier.now reading} := by
  intro ready
  refine ⟨?_,rfl⟩
  change arrivals (N := N) (.arrive call req) state other = _
  cases was : state.arrived call with
  | none => simp only [arrivals,was,Function.update_of_ne differs]
  | some arrival => simp only [arrivals,was]

end Server

theorem plainEvents_jwks (state : ServerState ℚ) (call : Nat) (network : Network Unit) (reading : ℚ)
    (unarrived : state.arrived call = none) :
    History.projection sampleServer.step sampleServer.jwksSteps (plainEvents call network reading) state =
      [.lookup call sampleIssuer,.fetch call network ⟨(),[]⟩,
        .tick (max state.verifier.now reading+sampleServer.deployment.offset),.store call] := by
  rw [plainEvents,History.projection_append,
    sampleServer.lookupEvents_jwks state call plainRequest network _ reading _ unarrived plainRequest_asks]
  rfl

theorem sampleServer_asked :
    ∃ reading, sampleServer.jwksEvents 2 sampleOpening sampleServerEvents =
      [.lookup 0 sampleIssuer,.fetch 0 sampleIdpNetwork ⟨(),[]⟩,.tick reading,.store 0] :=
  ⟨_,plainEvents_jwks (sampleServer.start 2 sampleOpening) 0 sampleIdpNetwork sampleReading rfl⟩

theorem sampleServer_keys :
    (sampleServer.provider.fetchKeys sampleIdpNetwork sampleIssuer ⟨(),[]⟩).1 = .ok [sampleIdpKey] := by
  decide +kernel

theorem sampleServer_rotated :
    (sampleServer.provider.fetchKeys rotatedNetwork sampleIssuer ⟨(),[]⟩).1 = .ok [rotatedKey] := by
  decide +kernel

def sampleLater : ℚ := 1700000100

/-- A call gets the key that its issuer serves. -/
def rotatingEvents : List (ServerEvent Unit ℚ) :=
  Server.lookupEvents 0 plainRequest rotatedNetwork ⟨(),[]⟩ sampleReading ++ [.tick sampleLater]

/-- The issuer has another key when a second call arrives. -/
def rotatedEvents : List (ServerEvent Unit ℚ) :=
  rotatingEvents ++ plainEvents 1 sampleIdpNetwork (sampleLater+1)

def rotatingAsked : List (JwksEvent Unit ℚ) :=
  [.lookup 0 sampleIssuer,.fetch 0 rotatedNetwork ⟨(),[]⟩,.tick 1700000018,.store 0]

def rotatedAsked : List (JwksEvent Unit ℚ) :=
  [.lookup 1 sampleIssuer,.fetch 1 sampleIdpNetwork ⟨(),[]⟩,.tick 1700000108,.store 1]

theorem rotatingEvents_jwks :
    sampleServer.jwksEvents 2 sampleOpening rotatingEvents = rotatingAsked ++ [.tick 1700000107] := by
  have first : max sampleOpening sampleReading+sampleServer.deployment.offset = 1700000018 := by decide +kernel
  have second : max (max sampleOpening sampleReading) sampleLater+sampleServer.deployment.offset = 1700000107 := by
    decide +kernel
  have asked := sampleServer.lookupEvents_jwks (sampleServer.start 2 sampleOpening) 0 plainRequest rotatedNetwork
    ⟨(),[]⟩ sampleReading sampleIssuer rfl plainRequest_asks
  rw [rotatingAsked,← first,← second,Server.jwksEvents,rotatingEvents,History.projection_append,asked]
  rfl

theorem rotatingEvents_idle :
    (sampleServer.run 2 sampleOpening rotatingEvents).arrived 1 = none ∧
      (sampleServer.run 2 sampleOpening rotatingEvents).verifier.stage 1 = none ∧
      (sampleServer.run 2 sampleOpening rotatingEvents).verifier.now = sampleLater := by
  obtain ⟨arrived,verifier⟩ := sampleServer.lookupEvents_other (sampleServer.start 2 sampleOpening) 0 1 plainRequest
    rotatedNetwork ⟨(),[]⟩ sampleReading (by decide)
  have last := History.run_last sampleServer.step (Server.lookupEvents 0 plainRequest rotatedNetwork ⟨(),[]⟩ sampleReading)
    (.tick sampleLater) (sampleServer.start 2 sampleOpening)
  have latest : max (max sampleOpening sampleReading) sampleLater = sampleLater := by decide +kernel
  rw [Server.run,rotatingEvents,last,sampleServer.step_tick,verifier]
  exact ⟨arrived,rfl,latest⟩

theorem rotatedEvents_jwks :
    sampleServer.jwksEvents 2 sampleOpening rotatedEvents = rotatingAsked ++ [.tick 1700000107] ++ rotatedAsked := by
  have last : max sampleLater (sampleLater+1)+sampleServer.deployment.offset = 1700000108 := by decide +kernel
  obtain ⟨unarrived,_,now⟩ := rotatingEvents_idle
  have asked := plainEvents_jwks _ 1 sampleIdpNetwork (sampleLater+1) unarrived
  rw [now,last] at asked
  rw [← rotatingEvents_jwks,rotatedAsked,← asked]
  exact History.projection_append _ _ rotatingEvents _ _

theorem rotatedEvents_prompt : sampleServer.provider.StoresWithin (sampleOpening+sampleServer.deployment.offset)
    sampleIssuer 1 (rotatingAsked ++ [.tick 1700000107] ++ rotatedAsked) := by
  have first : sampleServer.provider.StoresWithin (sampleOpening+sampleServer.deployment.offset) sampleIssuer 1
      rotatingAsked := by
    apply NetworkJwksProvider.storesWithin_span
    decide +kernel
  have idle := first.unstored [.tick 1700000107] (by simp)
  apply idle.append rotatedAsked
  · exact sampleServer.provider.uninterrupted_settled _ 0 sampleIssuer rotatedNetwork ⟨(),[]⟩ 1700000018 [.tick 1700000107]
      (by simp)
  · decide +kernel

theorem rotatedKey_gone : ¬SameKey plainCrates rotatedKey sampleIdpKey := by
  intro same
  rcases same with same | ⟨key,old,new⟩ | ⟨key,_⟩
  · exact absurd same (by decide)
  · obtain ⟨_,given⟩ := (plainCrates_builds _ key).mp old
    obtain ⟨_,other⟩ := (plainCrates_builds _ key).mp new
    have parted : some "AQ" = some "AA" := given.trans other.symm
    exact absurd parted (by decide)
  · exact key.elim

theorem rotatedEvents_withdrawn : sampleServer.provider.WithdrawnFrom (sampleOpening+sampleServer.deployment.offset)
    sampleIssuer (SameKey plainCrates rotatedKey) (1700000012+sampleServer.deployment.offset)
    (rotatingAsked ++ [.tick 1700000107] ++ rotatedAsked) := by
  intro call keys instant fetched late
  rw [List.append_assoc] at fetched
  obtain ⟨before,event,later,same,_,_,_,_,_,rfl⟩ | ⟨mid,event,rest,split,network,world,rfl,_,received,_⟩ :=
    Happened.split _ rotatingAsked _ fetched
  · have ended := sampleServer.provider.run_later (sampleOpening+sampleServer.deployment.offset) before (event :: later)
    rw [← same] at ended
    have passed : (sampleServer.provider.run rotatingAsked (sampleOpening+sampleServer.deployment.offset)).now <
        1700000012+sampleServer.deployment.offset := by decide +kernel
    exact absurd (late.trans ended) (not_le_of_gt passed)
  · have member : JwksEvent.fetch call network world ∈ [.tick 1700000107] ++ rotatedAsked := by
      rw [split]
      simp
    obtain ⟨_,rfl,rfl⟩ : call = 1 ∧ network = sampleIdpNetwork ∧ world = ⟨(),[]⟩ := by
      simpa [rotatedAsked] using member
    rw [sampleServer_keys] at received
    cases received
    intro key member
    rw [List.mem_singleton.mp member]
    exact rotatedKey_gone

theorem rotatedEvents_run : sampleServer.run 2 sampleOpening rotatedEvents =
    History.run sampleServer.step (plainEvents 1 sampleIdpNetwork (sampleLater+1))
      (sampleServer.run 2 sampleOpening rotatingEvents) :=
  History.run_append sampleServer.step rotatingEvents _ _

theorem rotatedEvents_arrived :
    (sampleServer.run 2 sampleOpening rotatedEvents).arrived 1 = some ⟨plainRequest,sampleLater⟩ := by
  obtain ⟨unarrived,_,now⟩ := rotatingEvents_idle
  have arrived := plainEvents_arrived _ 1 sampleIdpNetwork (sampleLater+1) unarrived
  rw [now] at arrived
  rw [rotatedEvents_run]
  exact arrived

theorem rotatedEvents_accepted :
    ∃ passed, (sampleServer.run 2 sampleOpening rotatedEvents).verifier.stage 1 = some (.accepted passed) := by
  obtain ⟨unarrived,begins,now⟩ := rotatingEvents_idle
  have jwks := sampleServer.run_jwks 2 sampleOpening rotatingEvents
  rw [rotatingEvents_jwks] at jwks
  have idle : (sampleServer.run 2 sampleOpening rotatingEvents).jwks.stage 1 = none := by
    rw [jwks]
    exact Option.isNone_iff_eq_none.mp (by decide +kernel)
  have served : keysAnswer (sampleServer.keysForNow (sampleServer.run 2 sampleOpening rotatingEvents) sampleIdpNetwork
      ⟨(),[]⟩ (sampleLater+1) sampleIssuer).1 = .ok [sampleIdpKey] := by
    rw [Server.keysForNow,now,jwks]
    decide +kernel
  have after : sampleLater ≤ sampleLater+1 := by decide +kernel
  obtain ⟨passed,accepted⟩ := plainEvents_accepted _ 1 sampleIdpNetwork (sampleLater+1) unarrived idle begins
    (now.le.trans after) (by decide +kernel) (by decide +kernel) served
  rw [rotatedEvents_run]
  exact ⟨passed,accepted⟩

/-- The first call was served the withdrawn key; the second, which arrives late enough, is accepted by another. -/
theorem withdrawn_key_rejected_sample :
    sampleServer.provider.FetchedAt (sampleOpening+sampleServer.deployment.offset) 0 sampleIssuer [rotatedKey]
        (sampleOpening+sampleServer.deployment.offset) (sampleServer.jwksEvents 2 sampleOpening rotatedEvents) ∧
      BuildsKey plainCrates rotatedKey "AQ" ∧
      ∃ passed keys, (sampleServer.run 2 sampleOpening rotatedEvents).verifier.stage 1 = some (.accepted passed) ∧
        passed.attempt.keysFor passed.authenticated.claimedIssuer = .ok keys ∧
        (∀ other ∈ keys, ¬SameKey plainCrates rotatedKey other) ∧ ∃ header : Header, ∃ verifying ∈ keys,
          PublicKey verifying ∧ KeyVerifies sampleServer.deployment.build plainCrates passed.parsed.token header.alg
            verifying passed.authenticated.claims := by
  obtain ⟨passed,accepted⟩ := rotatedEvents_accepted
  have joined := sampleServer.run_joined 2 sampleOpening rotatedEvents
  obtain ⟨arrival,_,_,instant,admitted⟩ := joined.passed 1 passed (by rw [accepted]; rfl)
  have same := admitted.arrived
  rw [rotatedEvents_arrived] at same
  cases same
  have asks := sampleServer.examined_asks plainCrates_payload instant passed admitted.examined
  rw [admitted.attempt,plainRequest_asks] at asks
  have issuer : sampleIssuer = passed.authenticated.claimedIssuer := Option.some.inj asks
  have withdrawn := rotatedEvents_withdrawn
  have prompt := rotatedEvents_prompt
  rw [issuer,← rotatedEvents_jwks] at withdrawn prompt
  obtain ⟨keys,header,_,keysFor,gone,_,verifying,member,isPublic,verifies⟩ := sampleServer.withdrawn_key_rejected
    plainCrates_payload 2 sampleOpening rotatedEvents rotatedKey 1700000012 1 1 passed _ (by decide +kernel) withdrawn
    prompt accepted rotatedEvents_arrived (by decide +kernel)
  refine ⟨?_,(plainCrates_builds _ _).mpr ⟨rfl,rfl⟩,passed,keys,accepted,keysFor,gone,header,verifying,member,isPublic,verifies⟩
  rw [rotatedEvents_jwks]
  exact ⟨[.lookup 0 sampleIssuer],.fetch 0 rotatedNetwork ⟨(),[]⟩,_,rfl,rotatedNetwork,⟨(),[]⟩,rfl,rfl,
    sampleServer_rotated,rfl⟩

end SolidOidcVerifier
