import SolidOidcVerifier.FetchSafety
import SolidOidcVerifier.ServerAcceptance

/-! Which connections the keys of an issuer cost. The network is asked at the well-known address of a trusted
issuer, and then, if the document found there names this issuer, at the address that the document gives. -/
namespace SolidOidcVerifier
open Foundation

variable {N T : Type}

/-- The hops of one fetch that begins in this state of the network. -/
structure FetchHops (network : Network N) (url : UrlCrate) (config : SafeFetchConfig) (address : String)
    (world : NetWorld N) (logs : List HopLog) : Prop where
  calls : (get network url config address "application/json" world).2.calls = world.calls ++ logs.flatMap HopLog.calls
  few : logs.length ≤ config.maxRedirects+1
  safe : ∀ log ∈ logs, log.Safe url config

namespace NetworkJwksProvider

/-- What a fetch of keys may ask the network for, and in which order. -/
inductive Traffic (provider : NetworkJwksProvider T) (network : Network N) (issuer : String) (world : NetWorld N) :
    List HopLog → Prop
  | unnamed (unjoined : joinWellKnown provider.crates.url provider.paths issuer = none) :
    Traffic provider network issuer world []
  | discovery (address logs) (joined : joinWellKnown provider.crates.url provider.paths issuer = some address)
    (hops : FetchHops network provider.crates.url provider.fetcher address world logs) :
    Traffic provider network issuer world logs
  | keys (address disc jwksUri logs further)
    (joined : joinWellKnown provider.crates.url provider.paths issuer = some address)
    (hops : FetchHops network provider.crates.url provider.fetcher address world logs)
    (found : (get network provider.crates.url provider.fetcher address "application/json" world).1 = .ok disc)
    (described : DescribesIssuer provider.crates disc.body issuer jwksUri)
    (next : FetchHops network provider.crates.url provider.fetcher jwksUri
      (get network provider.crates.url provider.fetcher address "application/json" world).2 further) :
    Traffic provider network issuer world (logs ++ further)

theorem get_hops (network : Network N) (url : UrlCrate) (config : SafeFetchConfig) (address : String)
    (world : NetWorld N) : ∃ logs, FetchHops network url config address world logs := by
  obtain ⟨logs,calls,few,safe,_⟩ := hops_run network url config "application/json" (config.maxRedirects+1) address world
    _ _ rfl
  exact ⟨logs,calls,few,safe⟩

/-- Reading the keys of a response asks the network for nothing. -/
theorem fetch_then_parse (provider : NetworkJwksProvider T) (network : Network N) (context address : String)
    (world : NetWorld N) :
    ((provider.fetch network context address >>= fun jwks => Exec.lift (parseJwks provider.crates jwks.body)) world).2 =
      (get network provider.crates.url provider.fetcher address "application/json" world).2 := by
  cases fetched : (provider.fetch network context address world).1 with
  | error stop =>
    rw [Exec.bind_of_error (provider.fetch network context address) _ world _ stop (Prod.ext fetched rfl)]
    rfl
  | ok jwks =>
    rw [Exec.bind_of_ok (provider.fetch network context address) _ world _ jwks (Prod.ext fetched rfl)]
    rfl

theorem fetchKeys_traffic (provider : NetworkJwksProvider T) (network : Network N) (issuer : String)
    (world : NetWorld N) : ∃ logs, (provider.fetchKeys network issuer world).2.calls =
      world.calls ++ logs.flatMap HopLog.calls ∧ provider.Traffic network issuer world logs := by
  unfold fetchKeys
  cases joined : joinWellKnown provider.crates.url provider.paths issuer with
  | none =>
    rw [Exec.bind_of_error (Exec.lift (orError none _)) _ world world _ rfl]
    exact ⟨[],(List.append_nil _).symm,.unnamed joined⟩
  | some address =>
    obtain ⟨logs,hops⟩ := get_hops network provider.crates.url provider.fetcher address world
    have asked : provider.Traffic network issuer world logs := .discovery address logs joined hops
    rw [Exec.bind_of_ok (Exec.lift (orError (some address) _)) _ world world address rfl]
    cases fetched : (provider.fetch network "OIDC discovery failed: " address world).1 with
    | error stop =>
      rw [Exec.bind_of_error (provider.fetch network _ address) _ world _ stop (Prod.ext fetched rfl)]
      exact ⟨logs,hops.calls,asked⟩
    | ok disc =>
      rw [Exec.bind_of_ok (provider.fetch network _ address) _ world _ disc (Prod.ext fetched rfl)]
      have found := (Exec.mapReject_ok _ _ _ _).mp fetched
      cases described : discoveredUri provider.crates issuer disc.body with
      | error text =>
        rw [Exec.bind_of_error (Exec.lift (.error text)) _ _ _ (.rejected text) rfl]
        exact ⟨logs,hops.calls,asked⟩
      | ok jwksUri =>
        rw [Exec.bind_of_ok (Exec.lift (.ok jwksUri)) _ _ _ jwksUri rfl,fetch_then_parse]
        obtain ⟨further,next⟩ := get_hops network provider.crates.url provider.fetcher jwksUri
          (provider.fetch network "OIDC discovery failed: " address world).2
        refine ⟨logs ++ further,?_,
          .keys address disc jwksUri logs further joined hops found (discoveredUri_ok _ _ _ _ described) next⟩
        rw [next.calls,List.flatMap_append,← List.append_assoc,← hops.calls]
        rfl

theorem Traffic.confined (provider : NetworkJwksProvider T) (network : Network N) (issuer : String) (world : NetWorld N)
    (logs : List HopLog) (traffic : provider.Traffic network issuer world logs) :
    logs.length ≤ 2*(provider.fetcher.maxRedirects+1) ∧ ∀ log ∈ logs, log.Safe provider.crates.url provider.fetcher := by
  cases traffic with
  | unnamed unjoined => exact ⟨Nat.zero_le _,by simp⟩
  | discovery address logs joined hops =>
    refine ⟨?_,hops.safe⟩
    have few := hops.few
    omega
  | keys address disc jwksUri logs further joined hops found described next =>
    refine ⟨?_,?_⟩
    · have first := hops.few
      have second := next.few
      rw [List.length_append]
      omega
    · intro log member
      rcases List.mem_append.mp member with inside | inside
      · exact hops.safe log inside
      · exact next.safe log inside

end NetworkJwksProvider

namespace Server

variable [Field T] [LinearOrder T] [FloorRing T] [IsStrictOrderedRing T]

/-- In every run of the server, whatever requests arrive, a fetch is for a trusted issuer, and every connection that
it opens is a pinned one of at most two chains of hops: from the well-known address of the issuer, and from the
address that a document naming the issuer gave. -/
theorem traffic_confined (server : Server T) (maxEntries : Nat) (start : T) (events : List (ServerEvent N T)) (call : Nat)
    (issuer : String) (was : (server.run maxEntries start events).jwks.stage call = some (.fetching issuer))
    (network : Network N) (world : NetWorld N) :
    let reached := (server.run maxEntries start (events ++ [.fetch call network world])).jwks.stage call
    reached = some (NetworkJwksProvider.fetchStage issuer (server.provider.fetchKeys network issuer world).1) ∧
    issuer ∈ server.deployment.config.trustedIssuers ∧
    ∃ logs : List HopLog, (server.provider.fetchKeys network issuer world).2.calls =
        world.calls ++ logs.flatMap HopLog.calls ∧
      server.provider.Traffic network issuer world logs ∧ logs.length ≤ 2*(server.fetcher.maxRedirects+1) ∧
      ∀ log ∈ logs, log.Safe server.deployment.crates.url server.fetcher := by
  intro reached
  refine ⟨?_,server.stage_trusted maxEntries start events call _ was,?_⟩
  · have moved : reached = (server.provider.step (.fetch call network world)
        (server.run maxEntries start events).jwks).stage call := by
      unfold reached run
      rw [History.run_last]
      rfl
    rw [moved]
    simp only [NetworkJwksProvider.step,was]
    exact JwksSystem.advance_stage _ _ _
  · obtain ⟨logs,calls,traffic⟩ := server.provider.fetchKeys_traffic network issuer world
    obtain ⟨few,safe⟩ := traffic.confined server.provider network issuer world logs
    exact ⟨logs,calls,traffic,few,safe⟩

end Server

theorem first_lookup [LinearOrder T] [Sub T] [Zero T] (provider : NetworkJwksProvider T) (call : Nat) (issuer : String)
    (start : T) : (provider.run (N := N) [.lookup call issuer] start).stage call = some (.fetching issuer) := by
  simp [NetworkJwksProvider.run,History.run,JwksSystem.new,NetworkJwksProvider.step,JwksCache.lookup,
    NetworkJwksProvider.lookupStage,JwksSystem.advance]

theorem sampleServer_fetching :
    (sampleServer.run (N := Unit) 2 sampleOpening [.arrive 0 plainRequest]).jwks.stage 0 = some (.fetching sampleIssuer) := by
  have asked : sampleServer.jwksEvents (N := Unit) 2 sampleOpening [.arrive 0 plainRequest] = [.lookup 0 sampleIssuer] := by
    rw [Server.jwksEvents]
    simp only [History.projection,Server.jwksSteps,Server.start,plainRequest_asks,Option.map_some,Option.toList_some,
      List.append_nil]
  rw [Server.run_jwks,asked]
  exact first_lookup _ 0 sampleIssuer _

theorem traffic_confined_sample :
    ∃ logs : List HopLog, (sampleServer.provider.fetchKeys sampleIdpNetwork sampleIssuer ⟨(),[]⟩).2.calls =
      logs.flatMap HopLog.calls ∧ logs.length ≤ 12 := by
  obtain ⟨_,_,logs,calls,_,few,_⟩ := sampleServer.traffic_confined 2 sampleOpening [.arrive 0 plainRequest] 0 sampleIssuer
    sampleServer_fetching sampleIdpNetwork ⟨(),[]⟩
  exact ⟨logs,calls,few⟩

end SolidOidcVerifier
