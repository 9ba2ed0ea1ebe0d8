import SolidOidcVerifier.CacheEffect
import SolidOidcVerifier.ReplayAdmission

/-! Where the issuers keep to their keys, the server with its network, its cache and its concurrent fetches decides
like a verifier that holds the keys. Only the answers recorded with a call differ. -/
namespace SolidOidcVerifier
open Foundation

def Attempt.provision (attempt : Attempt) (held : StaticJwksProvider) : Attempt :=
  {attempt with keysFor := held.keysFor}

def Passed.provision (passed : Passed) (held : StaticJwksProvider) : Passed :=
  {passed with attempt := passed.attempt.provision held}

def Stage.provision (held : StaticJwksProvider) : Stage → Stage
  | .checked passed => .checked (passed.provision held)
  | .marked passed => .marked (passed.provision held)
  | .accepted passed => .accepted (passed.provision held)
  | .ended => .ended

def System.provision {T : Type} (system : System T) (held : StaticJwksProvider) : System T :=
  {system with stage := fun call => (system.stage call).map (Stage.provision held)}

def Event.provision {T : Type} (held : StaticJwksProvider) : Event T → Event T
  | .check call attempt => .check call (attempt.provision held)
  | .tick reading => .tick reading
  | .mark call => .mark call
  | .finish call => .finish call

theorem Stage.provision_after {ε α : Type} (held : StaticJwksProvider) (result : Except ε α) (next : α → Stage) :
    Stage.provision held (.after result next) = .after result fun value => (next value).provision held := by
  cases result with
  | ok value => rfl
  | error error => rfl

theorem System.provision_advance {T : Type} (held : StaticJwksProvider) (system : System T)
    (world : World (InMemoryReplayStore T)) (call : Nat) (stage : Stage) :
    (system.advance world call stage).provision held = (system.provision held).advance world call (stage.provision held) := by
  have stages : ∀ other, ((system.advance world call stage).stage other).map (Stage.provision held) =
      ((system.provision held).advance world call (stage.provision held)).stage other := by
    intro other
    by_cases same : other = call
    · rw [same,System.advance_stage,System.advance_stage]
      rfl
    · rw [System.advance_other _ _ _ _ _ same,System.advance_other _ _ _ _ _ same]
      rfl
  exact congrArg (fun reached => {system with world := world,stage := reached}) (funext stages)

namespace Deployment

variable {T : Type} [Field T] [LinearOrder T] [FloorRing T]

/-- The checks of the attempt come out the same on the keys that are held. -/
def Provided (deployment : Deployment T) (held : StaticJwksProvider) (attempt : Attempt) (system : System T) : Prop :=
  ∀ parsed, parseAuthorization deployment.crates attempt.req.authorization = some parsed →
    authenticate (deployment.env (attempt.provision held) system.now) (deployment.settings (attempt.provision held))
        attempt.req parsed system.world =
      authenticate (deployment.env attempt system.now) (deployment.settings attempt) attempt.req parsed system.world

theorem check_provision (deployment : Deployment T) (held : StaticJwksProvider) (call : Nat) (attempt : Attempt)
    (system : System T) (provided : deployment.Provided held attempt system) :
    deployment.check call (attempt.provision held) (system.provision held) =
      (deployment.check call attempt system).provision held := by
  cases presented : parseAuthorization deployment.crates attempt.req.authorization with
  | none =>
    have again : parseAuthorization deployment.crates (attempt.provision held).req.authorization = none := presented
    simp only [check,presented,again]
    exact (System.provision_advance held system _ call .ended).symm
  | some parsed =>
    have same := provided parsed presented
    generalize ran : authenticate (deployment.env attempt system.now) (deployment.settings attempt) attempt.req parsed
      system.world = outcome at same
    obtain ⟨result,world⟩ := outcome
    rw [check_run deployment call attempt parsed system result world presented ran,System.provision_advance,
      Stage.provision_after]
    exact check_run deployment call (attempt.provision held) parsed (system.provision held) result world presented same

theorem mark_provision (deployment : Deployment T) (held : StaticJwksProvider) (call : Nat) (passed : Passed)
    (system : System T) :
    deployment.mark call (passed.provision held) (system.provision held) =
      (deployment.mark call passed system).provision held := by
  generalize ran : replayStep (deployment.env passed.attempt system.now) (deployment.settings passed.attempt)
    passed.attempt.req system.world = outcome
  obtain ⟨result,world⟩ := outcome
  rw [mark_run deployment call passed system result world ran,System.provision_advance,Stage.provision_after]
  exact mark_run deployment call (passed.provision held) (system.provision held) result world ran

omit [Field T] [LinearOrder T] [FloorRing T] in
theorem finish_provision (deployment : Deployment T) (held : StaticJwksProvider) (call : Nat) (passed : Passed)
    (system : System T) :
    deployment.finish call (passed.provision held) (system.provision held) =
      (deployment.finish call passed system).provision held := by
  generalize ran : checkBidirectional (deployment.settings passed.attempt) passed.authenticated.webId
    passed.authenticated.issuer system.world = outcome
  obtain ⟨result,world⟩ := outcome
  rw [finish_run deployment call passed system result world ran,System.provision_advance,Stage.provision_after]
  exact finish_run deployment call (passed.provision held) (system.provision held) result world ran

/-- One step of the verifier that holds the keys. -/
theorem step_provision (deployment : Deployment T) (held : StaticJwksProvider) (event : Event T) (system : System T)
    (provided : ∀ call attempt, event = .check call attempt → deployment.Provided held attempt system) :
    deployment.step (event.provision held) (system.provision held) = (deployment.step event system).provision held := by
  cases event with
  | tick reading => rfl
  | check call attempt =>
    have stage : (system.provision held).stage call = (system.stage call).map (Stage.provision held) := rfl
    cases was : system.stage call with
    | some reached => simp only [step,Event.provision,stage,was,Option.map_some]
    | none =>
      simp only [step,Event.provision,stage,was,Option.map_none]
      exact deployment.check_provision held call attempt system (provided call attempt rfl)
  | mark call =>
    have stage : (system.provision held).stage call = (system.stage call).map (Stage.provision held) := rfl
    cases was : system.stage call with
    | none => simp only [step,Event.provision,stage,was,Option.map_none]
    | some reached =>
      cases reached with
      | checked passed =>
        simp only [step,Event.provision,stage,was,Option.map_some,Stage.provision]
        exact deployment.mark_provision held call passed system
      | _ => simp only [step,Event.provision,stage,was,Option.map_some,Stage.provision]
  | finish call =>
    have stage : (system.provision held).stage call = (system.stage call).map (Stage.provision held) := rfl
    cases was : system.stage call with
    | none => simp only [step,Event.provision,stage,was,Option.map_none]
    | some reached =>
      cases reached with
      | marked passed =>
        simp only [step,Event.provision,stage,was,Option.map_some,Stage.provision]
        exact deployment.finish_provision held call passed system
      | _ => simp only [step,Event.provision,stage,was,Option.map_some,Stage.provision]

end Deployment

namespace Server

variable {N T : Type} [Field T] [LinearOrder T] [FloorRing T]

theorem steps_provision (server : Server T) (held : StaticJwksProvider) (event : ServerEvent N T) (state : ServerState T)
    (provided : ∀ call reading resolver attempt, event = .check call reading resolver →
      server.attemptOf state call reading resolver = some attempt →
        server.deployment.Provided held attempt state.verifier) :
    History.run server.deployment.step ((server.verifierSteps event state).map (Event.provision held))
        (state.verifier.provision held) =
      (History.run server.deployment.step (server.verifierSteps event state) state.verifier).provision held := by
  have one : ∀ own : Event T, (∀ call attempt, own = .check call attempt →
      server.deployment.Provided held attempt state.verifier) →
        History.run server.deployment.step ([own].map (Event.provision held)) (state.verifier.provision held) =
          (History.run server.deployment.step [own] state.verifier).provision held := by
    intro own fine
    exact server.deployment.step_provision held own state.verifier fine
  cases event with
  | tick reading => exact one (.tick reading) (by simp)
  | arrive call req => rfl
  | fetch call network world => rfl
  | store call => rfl
  | mark call => exact one (.mark call) (by simp)
  | finish call => exact one (.finish call) (by simp)
  | check call reading resolver =>
    cases attempted : server.attemptOf state call reading resolver with
    | none =>
      simp only [verifierSteps,attempted,Option.map_none,Option.toList]
      rfl
    | some attempt =>
      simp only [verifierSteps,attempted,Option.map_some,Option.toList]
      apply one
      intro other own same
      cases same
      exact provided call reading resolver attempt rfl attempted

theorem jwksEvents_calm (server : Server T) (maxEntries : Nat) (start : T) (events : List (ServerEvent N T)) :
    .poison ∉ server.jwksEvents maxEntries start events := by
  induction events using List.reverseRecOn with
  | nil => exact List.not_mem_nil
  | append_singleton events event ih =>
    unfold jwksEvents at ih ⊢
    rw [History.projection_last,List.mem_append]
    rintro (earlier | now)
    · exact ih earlier
    · have moved := server.step_moves event (History.run server.step events (server.start maxEntries start))
      generalize server.jwksSteps event _ = did at moved now
      generalize server.step event _ = after at moved
      cases moved <;> simp at now

variable [IsStrictOrderedRing T]

theorem attempt_provided (server : Server T) (held : StaticJwksProvider) (maxEntries : Nat) (start : T)
    (events : List (ServerEvent N T)) (settled : server.provider.Settled held (start+server.deployment.offset)
      (server.jwksEvents maxEntries start events)) (call : Nat) (reading : T) (resolver : WebIdResolver) (attempt : Attempt)
    (attempted : server.attemptOf (server.run maxEntries start events) call reading resolver = some attempt) :
    server.deployment.Provided held attempt (server.run maxEntries start events).verifier := by
  obtain ⟨arrival,keys,arrived,keyed,_,rfl⟩ := (server.attemptOf_some _ call reading resolver attempt).mp attempted
  have faithful := server.provider.run_faithful held _ _ settled (server.jwksEvents_calm maxEntries start events)
  rw [← run_jwks] at faithful
  intro parsed presented
  generalize (server.run maxEntries start events).verifier = system
  apply server.authenticate_asks ⟨arrival.req,fun _ => keys,resolver,some ⌊reading⌋₊⟩
    (Attempt.provision ⟨arrival.req,fun _ => keys,resolver,some ⌊reading⌋₊⟩ held) system.now system.world rfl rfl rfl _
    parsed presented
  intro issuer asks
  obtain ⟨other,result,returned,answer⟩ := (server.keysOf_asked _ call arrival.req issuer keys asks).mp keyed
  obtain ⟨again,had,sought⟩ := (server.run_joined maxEntries start events).asks call _ returned
  rw [arrived] at had
  cases had
  rw [asks] at sought
  have same : issuer = other := Option.some.inj sought
  have kept : result.toOption = (held.keysFor other).toOption := faithful.calls call _ returned
  change (held.keysFor issuer).toOption = keys.toOption
  rw [same,← kept,← answer]
  rcases result with (text | _) | keys
  · rfl
  · rfl
  · rfl

/-- Where every fetch answers as the keys held say, a run of the server is a run of the verifier that holds them,
with the same store, the same clock and the same stage of every call. -/
theorem like_provisioned (server : Server T) (held : StaticJwksProvider) (maxEntries : Nat) (start : T)
    (events : List (ServerEvent N T)) : server.provider.Settled held (start+server.deployment.offset)
      (server.jwksEvents maxEntries start events) →
    (server.run maxEntries start events).verifier.provision held =
      server.deployment.run ((server.verifierEvents maxEntries start events).map (Event.provision held))
        (.fresh maxEntries start) := by
  induction events using List.reverseRecOn with
  | nil => intro _; rfl
  | append_singleton events event ih =>
    intro settled
    have asked : server.jwksEvents maxEntries start (events ++ [event]) = server.jwksEvents maxEntries start events ++
        server.jwksSteps event (server.run maxEntries start events) := History.projection_last _ _ _ _ _
    have took : server.verifierEvents maxEntries start (events ++ [event]) = server.verifierEvents maxEntries start events ++
        server.verifierSteps event (server.run maxEntries start events) := History.projection_last _ _ _ _ _
    rw [asked] at settled
    have earlier := settled.earlier server.provider held _ _ _
    have reached : (server.run maxEntries start (events ++ [event])).verifier = History.run server.deployment.step
        (server.verifierSteps event (server.run maxEntries start events)) (server.run maxEntries start events).verifier := by
      unfold run
      rw [History.run_last]
      rfl
    have before := ih earlier
    rw [← Deployment.run_history] at before ⊢
    rw [took,List.map_append,History.run_append,← before,reached]
    refine (server.steps_provision held event _ ?_).symm
    intro call reading resolver attempt _ attempted
    exact server.attempt_provided held maxEntries start events earlier call reading resolver attempt attempted

end Server

def sampleHeld : StaticJwksProvider := StaticJwksProvider.new.withIssuer sampleIssuer [sampleIdpKey]

theorem sampleServer_settled : sampleServer.provider.Settled sampleHeld (sampleOpening+sampleServer.deployment.offset)
    (sampleServer.jwksEvents 2 sampleOpening sampleServerEvents) := by
  obtain ⟨reading,asked⟩ := sampleServer_asked
  rw [asked]
  intro before call network world issuer after split was
  obtain ⟨_,_,first,event,rest,rfl,rfl,_⟩ := sampleServer.provider.run_sent _ before call issuer was
  have fetched : JwksEvent.fetch call network world ∈
      [.lookup 0 sampleIssuer,.fetch 0 sampleIdpNetwork ⟨(),[]⟩,.tick reading,.store 0] := by
    rw [split]
    simp
  have looked : JwksEvent.lookup call issuer ∈
      [.lookup 0 sampleIssuer,.fetch 0 sampleIdpNetwork ⟨(),[]⟩,.tick reading,.store 0] := by
    rw [split]
    simp
  simp at fetched looked
  rw [looked.2,fetched.2.1,fetched.2.2,sampleServer_keys,sampleHeld,StaticJwksProvider.keysFor_withIssuer,if_pos rfl]
  rfl

/-- The verifier that holds the key accepts the call that the server accepts. -/
theorem like_provisioned_sample :
    ∃ passed, (sampleServer.deployment.run ((sampleServer.verifierEvents 2 sampleOpening sampleServerEvents).map
      (Event.provision sampleHeld)) (.fresh 2 sampleOpening)).stage 0 = some (.accepted passed) := by
  obtain ⟨passed,accepted⟩ := sampleServer_accepted
  have same := sampleServer.like_provisioned sampleHeld 2 sampleOpening sampleServerEvents sampleServer_settled
  refine ⟨passed.provision sampleHeld,?_⟩
  rw [← same]
  have stage : ∀ system : System ℚ, (system.provision sampleHeld).stage 0 =
      (system.stage 0).map (Stage.provision sampleHeld) := fun _ => rfl
  rw [stage,accepted]
  rfl

end SolidOidcVerifier
