import SolidOidcVerifier.Acceptance
import SolidOidcVerifier.KeyWithdrawal
import SolidOidcVerifier.Server

/-! What holds in every run of the server: the keys that a call goes on with are those of its own trusted
issuer, as fetched for it, and the call passed its checks at an instant after its arrival. -/
namespace SolidOidcVerifier
open Foundation

def Stage.passed : Stage → Option Passed
  | .checked passed => some passed
  | .marked passed => some passed
  | .accepted passed => some passed
  | .ended => none

namespace Deployment

variable {T : Type}

theorem advance_passed (system : System T) (world : World (InMemoryReplayStore T)) (call other : Nat) (stage : Stage)
    (passed : Passed) (now : ((system.advance world call stage).stage other).bind Stage.passed = some passed) :
    (other = call ∧ stage.passed = some passed) ∨ (system.stage other).bind Stage.passed = some passed := by
  by_cases same : other = call
  · rw [same,System.advance_stage] at now
    exact Or.inl ⟨same,now⟩
  · rw [System.advance_other system world call other stage same] at now
    exact Or.inr now

theorem after_passed {ε α : Type} (result : Except ε α) (next : α → Stage) (passed : Passed)
    (now : (Stage.after result next).passed = some passed) : ∃ value, result = .ok value ∧ (next value).passed = some passed := by
  cases result with
  | ok value => exact ⟨value,rfl,now⟩
  | error error => cases now

variable [Field T] [LinearOrder T] [FloorRing T]

/-- The request passed the checks (2) to (6) at the instant. -/
def Examined (deployment : Deployment T) (instant : T) (passed : Passed) : Prop :=
  parseAuthorization deployment.crates passed.attempt.req.authorization = some passed.parsed ∧
    ∃ world after, authenticate (deployment.env passed.attempt instant) (deployment.settings passed.attempt)
      passed.attempt.req passed.parsed world = (.ok passed.authenticated,after)

/-- A call comes to pass the checks by its own check only. -/
theorem step_passed (deployment : Deployment T) (event : Event T) (system : System T) (call : Nat) (passed : Passed)
    (now : ((deployment.step event system).stage call).bind Stage.passed = some passed) :
    (system.stage call).bind Stage.passed = some passed ∨
      (event = .check call passed.attempt ∧ deployment.Examined system.now passed) := by
  cases event with
  | tick reading => exact Or.inl now
  | check other attempt =>
    cases was : system.stage other with
    | some stage =>
      simp only [step,was] at now
      exact Or.inl now
    | none =>
      rw [check_begun deployment other attempt system was] at now
      cases presented : parseAuthorization deployment.crates attempt.req.authorization with
      | none =>
        simp only [check,presented] at now
        obtain ⟨_,impossible⟩ | before := advance_passed _ _ _ _ _ _ now
        · cases impossible
        · exact Or.inl before
      | some parsed =>
        generalize ran : authenticate (deployment.env attempt system.now) (deployment.settings attempt)
          attempt.req parsed system.world = outcome
        obtain ⟨result,world⟩ := outcome
        rw [check_run deployment other attempt parsed system result world presented ran] at now
        obtain ⟨rfl,own⟩ | before := advance_passed _ _ _ _ _ _ now
        · obtain ⟨authenticated,rfl,same⟩ := after_passed _ _ _ own
          cases same
          exact Or.inr ⟨rfl,presented,_,_,ran⟩
        · exact Or.inl before
  | mark other =>
    cases was : system.stage other with
    | none =>
      simp only [step,was] at now
      exact Or.inl now
    | some stage =>
      cases stage with
      | checked held =>
        rw [mark_begun deployment other held system was] at now
        obtain ⟨rfl,own⟩ | before := advance_passed _ _ _ _ _ _ now
        · obtain ⟨_,_,same⟩ := after_passed _ _ _ own
          rw [was]
          exact Or.inl same
        · exact Or.inl before
      | _ =>
        simp only [step,was] at now
        exact Or.inl now
  | finish other =>
    cases was : system.stage other with
    | none =>
      simp only [step,was] at now
      exact Or.inl now
    | some stage =>
      cases stage with
      | marked held =>
        rw [finish_begun deployment other held system was] at now
        obtain ⟨rfl,own⟩ | before := advance_passed _ _ _ _ _ _ now
        · obtain ⟨_,_,same⟩ := after_passed _ _ _ own
          rw [was]
          exact Or.inl same
        · exact Or.inl before
      | _ =>
        simp only [step,was] at now
        exact Or.inl now

theorem step_still (deployment : Deployment T) (event : Event T) (system : System T)
    (untimed : ∀ reading, event ≠ .tick reading) : (deployment.step event system).now = system.now := by
  cases event with
  | tick reading => exact absurd rfl (untimed reading)
  | check call attempt =>
    cases was : system.stage call with
    | some stage => simp only [step,was]
    | none =>
      rw [check_begun deployment call attempt system was]
      unfold check
      cases parseAuthorization deployment.crates attempt.req.authorization <;> rfl
  | mark call =>
    cases was : system.stage call with
    | none => simp only [step,was]
    | some stage =>
      simp only [step,was]
      cases stage <;> rfl
  | finish call =>
    cases was : system.stage call with
    | none => simp only [step,was]
    | some stage =>
      simp only [step,was]
      cases stage <;> rfl

theorem run_history (deployment : Deployment T) (events : List (Event T)) :
    ∀ system, History.run deployment.step events system = deployment.run events system := by
  induction events with
  | nil => intro system; rfl
  | cons event rest ih => intro system; exact ih (deployment.step event system)

end Deployment

namespace NetworkJwksProvider

variable {N T : Type} [LinearOrder T] [Sub T] [Zero T]

/-- A call keeps the issuer it looked up. -/
theorem step_issuer (provider : NetworkJwksProvider T) (event : JwksEvent N T) (system : JwksSystem T) (call : Nat)
    (stage : JwksStage) (now : (provider.step event system).stage call = some stage) :
    (∃ before, system.stage call = some before ∧ before.issuer = stage.issuer) ∨
      (event = .lookup call stage.issuer ∧ system.stage call = none) := by
  have moved := step_moves provider event system
  generalize provider.step event system = next at now moved
  cases moved with
  | none => exact Or.inl ⟨stage,now,rfl⟩
  | ticked reading => exact Or.inl ⟨stage,now,rfl⟩
  | poisoned => exact Or.inl ⟨stage,now,rfl⟩
  | refused other issuer begins locked =>
    obtain ⟨rfl,rfl⟩ | before := system.advance_reached other call _ stage now
    · exact Or.inr ⟨rfl,begins⟩
    · exact Or.inl ⟨stage,before,rfl⟩
  | served other issuer entry begins found fresh =>
    obtain ⟨rfl,rfl⟩ | before := system.advance_reached other call _ stage now
    · exact Or.inr ⟨rfl,begins⟩
    · exact Or.inl ⟨stage,before,rfl⟩
  | missed other issuer begins =>
    obtain ⟨rfl,rfl⟩ | before := system.advance_reached other call _ stage now
    · exact Or.inr ⟨rfl,begins⟩
    · exact Or.inl ⟨stage,before,rfl⟩
  | failed other network world issuer stop was outcome =>
    obtain ⟨rfl,rfl⟩ | before := system.advance_reached other call _ stage now
    · exact Or.inl ⟨_,was,rfl⟩
    · exact Or.inl ⟨stage,before,rfl⟩
  | fetched other network world issuer keys was outcome =>
    obtain ⟨rfl,rfl⟩ | before := system.advance_reached other call _ stage now
    · exact Or.inl ⟨_,was,rfl⟩
    · exact Or.inl ⟨stage,before,rfl⟩
  | stored other issuer keys was =>
    obtain ⟨rfl,rfl⟩ | before := system.advance_reached other call _ stage now
    · exact Or.inl ⟨_,was,rfl⟩
    · exact Or.inl ⟨stage,before,rfl⟩

theorem step_still (provider : NetworkJwksProvider T) (event : JwksEvent N T) (system : JwksSystem T)
    (untimed : ∀ reading, event ≠ .tick reading) : (provider.step event system).now = system.now := by
  have moved := step_moves provider event system
  generalize provider.step event system = next at moved
  cases moved with
  | ticked reading => exact absurd rfl (untimed reading)
  | _ => rfl

theorem lookup_recent (provider : NetworkJwksProvider T) (start : T) (events : List (JwksEvent N T))
    (system : JwksSystem T) (issuer : String) (keys : List Jwk) (sourced : Sourced provider start events system)
    (found : system.cache.lookup provider.cacheTtl system.now issuer = .ok (some keys)) :
    ∃ instant, StoredAt provider start issuer keys instant events ∧ instant ≤ system.now ∧
      system.now-instant < provider.cacheTtl := by
  unfold JwksCache.lookup at found
  by_cases locked : system.cache.poisoned = true
  · rw [if_pos locked] at found
    cases found
  · rw [if_neg locked] at found
    cases held : system.cache.entries.lookup issuer with
    | none => simp [held] at found
    | some entry =>
      rw [held] at found
      obtain ⟨order,stored⟩ := sourced.entries issuer entry held
      by_cases fresh : elapsed entry.fetchedAt system.now < provider.cacheTtl
      · simp only [if_pos fresh,Except.ok.injEq,Option.some.injEq] at found
        rw [elapsed_of_le _ _ order] at fresh
        rw [found] at stored
        exact ⟨entry.fetchedAt,stored,order,fresh⟩
      · simp [if_neg fresh] at found

end NetworkJwksProvider

namespace Server

variable {N T : Type} [Field T] [LinearOrder T] [FloorRing T]

/-- What a step can do, with what it makes the provider of keys do. -/
inductive Moves (server : Server T) (state : ServerState T) :
    ServerEvent N T → List (JwksEvent N T) → ServerState T → Prop where
  | none (event : ServerEvent N T) : Moves server state event [] state
  | ticked (reading : T) : Moves server state (.tick reading)
      [.tick (max state.verifier.now reading+server.deployment.offset)]
      {state with verifier := {state.verifier with now := max state.verifier.now reading},jwks :=
        {state.jwks with now := max state.jwks.now (max state.verifier.now reading+server.deployment.offset)}}
  | settled (call : Nat) (req : AuthRequest) (idle : state.arrived call = Option.none)
      (unasked : server.asksFor req = Option.none) : Moves server state (.arrive call req) []
      {state with arrived := Function.update state.arrived call (some ⟨req,state.verifier.now⟩)}
  | asked (call : Nat) (req : AuthRequest) (issuer : String) (idle : state.arrived call = Option.none)
      (asks : server.asksFor req = some issuer) : Moves server state (.arrive call req) [.lookup call issuer]
      {state with jwks := server.provider.step (N := N) (.lookup call issuer) state.jwks,
                  arrived := Function.update state.arrived call (some ⟨req,state.verifier.now⟩)}
  | fetched (call : Nat) (network : Network N) (world : NetWorld N) :
      Moves server state (.fetch call network world) [.fetch call network world]
      {state with jwks := server.provider.step (.fetch call network world) state.jwks}
  | stored (call : Nat) : Moves server state (.store call) [.store call]
      {state with jwks := server.provider.step (N := N) (.store call) state.jwks}
  | checked (call : Nat) (reading : T) (resolver : WebIdResolver) (arrival : Arrival T)
      (keys : Except String (List Jwk)) (arrived : state.arrived call = some arrival)
      (keyed : server.keysOf state call arrival.req = some keys) (after : arrival.since ≤ reading)
      (before : reading ≤ state.verifier.now) : Moves server state (.check call reading resolver) []
      {state with verifier :=
        server.deployment.step (.check call ⟨arrival.req,fun _ => keys,resolver,some ⌊reading⌋₊⟩) state.verifier}
  | marked (call : Nat) : Moves server state (.mark call) []
      {state with verifier := server.deployment.step (.mark call) state.verifier}
  | finished (call : Nat) : Moves server state (.finish call) []
      {state with verifier := server.deployment.step (.finish call) state.verifier}

theorem attemptOf_some (server : Server T) (state : ServerState T) (call : Nat) (reading : T)
    (resolver : WebIdResolver) (attempt : Attempt) :
    server.attemptOf state call reading resolver = some attempt ↔ ∃ arrival keys, state.arrived call = some arrival ∧
      server.keysOf state call arrival.req = some keys ∧ (arrival.since ≤ reading ∧ reading ≤ state.verifier.now) ∧
      attempt = ⟨arrival.req,fun _ => keys,resolver,some ⌊reading⌋₊⟩ := by
  unfold attemptOf
  simp only [Option.bind_eq_bind,Option.bind_eq_some_iff,Option.ite_none_right_eq_some,Option.some.injEq]
  constructor
  · intro found
    obtain ⟨arrival,arrived,keys,keyed,window,same⟩ := found
    exact ⟨arrival,keys,arrived,keyed,window,same.symm⟩
  · intro found
    obtain ⟨arrival,keys,arrived,keyed,window,same⟩ := found
    exact ⟨arrival,arrived,keys,keyed,window,same.symm⟩

theorem step_moves (server : Server T) (event : ServerEvent N T) (state : ServerState T) :
    Moves server state event (server.jwksSteps event state) (server.step event state) := by
  cases event with
  | tick reading => exact Moves.ticked reading
  | arrive call req =>
    cases idle : state.arrived call with
    | some arrival =>
      simp only [step,verifierSteps,jwksSteps,arrivals,idle,History.run]
      exact Moves.none _
    | none =>
      cases asks : server.asksFor req with
      | none =>
        simp only [step,verifierSteps,jwksSteps,arrivals,idle,asks,History.run,Option.map_none,Option.toList]
        exact Moves.settled call req idle asks
      | some issuer =>
        simp only [step,verifierSteps,jwksSteps,arrivals,idle,asks,History.run,Option.map_some,Option.toList]
        exact Moves.asked call req issuer idle asks
  | fetch call network world => exact Moves.fetched call network world
  | store call => exact Moves.stored call
  | check call reading resolver =>
    cases attempted : server.attemptOf state call reading resolver with
    | none =>
      simp only [step,verifierSteps,jwksSteps,arrivals,attempted,History.run,Option.map_none,Option.toList]
      exact Moves.none _
    | some attempt =>
      simp only [step,verifierSteps,jwksSteps,arrivals,attempted,History.run,Option.map_some,Option.toList]
      obtain ⟨arrival,keys,arrived,keyed,⟨after,before⟩,rfl⟩ :=
        (attemptOf_some server state call reading resolver attempt).mp attempted
      exact Moves.checked call reading resolver arrival keys arrived keyed after before
  | mark call => exact Moves.marked call
  | finish call => exact Moves.finished call

omit [Field T] [LinearOrder T] [FloorRing T] in
theorem keysOf_asked (server : Server T) (state : ServerState T) (call : Nat) (req : AuthRequest) (issuer : String)
    (keys : Except String (List Jwk)) (asks : server.asksFor req = some issuer) :
    server.keysOf state call req = some keys ↔
      ∃ other result, state.jwks.stage call = some (.returned other result) ∧ keysAnswer result = keys := by
  unfold keysOf
  rw [asks]
  cases reached : state.jwks.stage call with
  | none => simp
  | some stage => cases stage <;> simp

theorem step_keysOf (server : Server T) (event : ServerEvent N T) (state : ServerState T) (call : Nat)
    (req : AuthRequest) (keys : Except String (List Jwk)) (keyed : server.keysOf state call req = some keys) :
    server.keysOf (server.step event state) call req = some keys := by
  cases asks : server.asksFor req with
  | none =>
    unfold keysOf at keyed ⊢
    rw [asks] at keyed ⊢
    exact keyed
  | some issuer =>
    obtain ⟨other,result,returned,answer⟩ := (keysOf_asked server state call req issuer keys asks).mp keyed
    apply (keysOf_asked server _ call req issuer keys asks).mpr
    refine ⟨other,result,?_,answer⟩
    exact History.run_stays server.provider.step (fun after => after.stage call = some (.returned other result))
      (fun one after => NetworkJwksProvider.step_returned server.provider one after call other result)
      (server.jwksSteps event state) _ returned

theorem step_arrived (server : Server T) (event : ServerEvent N T) (state : ServerState T) (call : Nat)
    (arrival : Arrival T) (arrived : state.arrived call = some arrival) :
    (server.step event state).arrived call = some arrival := by
  have others : ∀ other later, state.arrived other = none →
      Function.update state.arrived other (some later) call = some arrival := by
    intro other later idle
    rw [Function.update_of_ne]
    · exact arrived
    · intro same
      rw [← same,arrived] at idle
      cases idle
  have moved := server.step_moves event state
  generalize server.step event state = after at moved
  generalize server.jwksSteps event state = did at moved
  cases moved with
  | settled other req idle unasked => exact others other _ idle
  | asked other req issuer idle asks => exact others other _ idle
  | _ => exact arrived

/-- The call, which arrived as `arrival`, read the clock at `reading` and passed its checks at `instant`. -/
structure Admitted (server : Server T) (state : ServerState T) (call : Nat) (passed : Passed) (arrival : Arrival T)
    (keys : Except String (List Jwk)) (reading instant : T) : Prop where
  arrived : state.arrived call = some arrival
  keyed : server.keysOf state call arrival.req = some keys
  attempt : passed.attempt = ⟨arrival.req,fun _ => keys,passed.attempt.resolver,some ⌊reading⌋₊⟩
  after : arrival.since ≤ reading
  order : reading ≤ instant
  before : instant ≤ state.verifier.now
  examined : server.deployment.Examined instant passed

/-- The keys were fetched by the call itself, or stored less than the cache's time to live before its arrival. -/
def Recent (server : Server T) (start since : T) (call : Nat) (issuer : String) (keys : List Jwk)
    (asked : List (JwksEvent N T)) : Prop :=
  server.provider.FetchedBy (start+server.deployment.offset) call issuer keys asked ∨
    ∃ instant, server.provider.StoredAt (start+server.deployment.offset) issuer keys instant asked ∧
      instant ≤ since+server.deployment.offset ∧ since+server.deployment.offset-instant < server.cacheTtl

omit [FloorRing T] in
theorem Recent.append {server : Server T} {start since : T} {call : Nat} {issuer : String} {keys : List Jwk}
    {asked : List (JwksEvent N T)} (recent : server.Recent start since call issuer keys asked)
    (later : List (JwksEvent N T)) : server.Recent start since call issuer keys (asked ++ later) := by
  obtain own | ⟨instant,stored,window⟩ := recent
  · exact Or.inl (Happened.append _ _ _ own)
  · exact Or.inr ⟨instant,Happened.append _ _ _ stored,window⟩

/-- The verifier and the provider of keys keep step: they have one clock, every lookup is that of a call that
arrived and asks for the issuer, and a call passes its checks on the keys that its own lookup returned. -/
structure Joined (server : Server T) (start : T) (asked : List (JwksEvent N T)) (state : ServerState T) : Prop where
  clock : state.jwks.now = state.verifier.now+server.deployment.offset
  started : start ≤ state.verifier.now
  since : ∀ call arrival, state.arrived call = some arrival → start ≤ arrival.since ∧ arrival.since ≤ state.verifier.now
  asks : ∀ call stage, state.jwks.stage call = some stage →
    ∃ arrival, state.arrived call = some arrival ∧ server.asksFor arrival.req = some stage.issuer
  recent : ∀ call issuer keys arrival, state.jwks.stage call = some (.returned issuer (.ok keys)) →
    state.arrived call = some arrival → server.Recent start arrival.since call issuer keys asked
  passed : ∀ call passed, (state.verifier.stage call).bind Stage.passed = some passed →
    ∃ arrival keys reading instant, server.Admitted state call passed arrival keys reading instant

theorem step_later (server : Server T) (event : ServerEvent N T) (state : ServerState T) :
    state.verifier.now ≤ (server.step event state).verifier.now := by
  have moved := server.step_moves event state
  generalize server.step event state = after at moved
  generalize server.jwksSteps event state = did at moved
  cases moved with
  | ticked reading => exact le_max_left _ _
  | checked call reading resolver arrival keys arrived keyed later before =>
    exact le_of_eq (server.deployment.step_still _ _ (fun _ same => by cases same)).symm
  | marked call => exact le_of_eq (server.deployment.step_still _ _ (fun _ same => by cases same)).symm
  | finished call => exact le_of_eq (server.deployment.step_still _ _ (fun _ same => by cases same)).symm
  | _ => exact le_refl _

theorem Admitted.step {server : Server T} {state : ServerState T} {call : Nat} {passed : Passed}
    {arrival : Arrival T} {keys : Except String (List Jwk)} {reading instant : T}
    (admitted : server.Admitted state call passed arrival keys reading instant) (event : ServerEvent N T) :
    server.Admitted (server.step event state) call passed arrival keys reading instant where
  arrived := server.step_arrived event state call arrival admitted.arrived
  keyed := server.step_keysOf event state call arrival.req keys admitted.keyed
  attempt := admitted.attempt
  after := admitted.after
  order := admitted.order
  before := admitted.before.trans (server.step_later event state)
  examined := admitted.examined

/-- A call comes to pass its checks with the keys that it then holds. -/
theorem step_admitted (server : Server T) (event : ServerEvent N T) (state : ServerState T) (call : Nat)
    (passed : Passed) (now : ((server.step event state).verifier.stage call).bind Stage.passed = some passed) :
    (state.verifier.stage call).bind Stage.passed = some passed ∨
      ∃ arrival keys reading instant, server.Admitted state call passed arrival keys reading instant := by
  have moved := server.step_moves event state
  generalize server.step event state = after at moved now
  generalize server.jwksSteps event state = did at moved
  cases moved with
  | checked other reading resolver arrival keys arrived keyed later before =>
    obtain kept | ⟨same,examined⟩ := server.deployment.step_passed _ _ call passed now
    · exact Or.inl kept
    · obtain ⟨rfl,attempt⟩ := Event.check.inj same
      right
      refine ⟨arrival,keys,reading,state.verifier.now,arrived,keyed,?_,later,before,le_refl _,examined⟩
      rw [← attempt]
  | marked other =>
    obtain kept | ⟨same,_⟩ := server.deployment.step_passed _ _ call passed now
    · exact Or.inl kept
    · cases same
  | finished other =>
    obtain kept | ⟨same,_⟩ := server.deployment.step_passed _ _ call passed now
    · exact Or.inl kept
    · cases same
  | _ => exact Or.inl now

theorem step_arrival (server : Server T) (event : ServerEvent N T) (state : ServerState T) (call : Nat)
    (arrival : Arrival T) (now : (server.step event state).arrived call = some arrival) :
    state.arrived call = some arrival ∨ arrival.since = state.verifier.now := by
  have others : ∀ other req, Function.update state.arrived other (some ⟨req,state.verifier.now⟩) call = some arrival →
      state.arrived call = some arrival ∨ arrival.since = state.verifier.now := by
    intro other req updated
    by_cases same : call = other
    · rw [same,Function.update_self] at updated
      cases updated
      exact Or.inr rfl
    · rw [Function.update_of_ne same] at updated
      exact Or.inl updated
  have moved := server.step_moves event state
  generalize server.step event state = after at moved now
  generalize server.jwksSteps event state = did at moved
  cases moved with
  | settled other req idle unasked => exact others other req now
  | asked other req issuer idle asks => exact others other req now
  | _ => exact Or.inl now

/-- A lookup is that of the call that arrives, for the issuer that it asks for. -/
theorem step_asks (server : Server T) (event : ServerEvent N T) (state : ServerState T)
    (before : ∀ call stage, state.jwks.stage call = some stage →
      ∃ arrival, state.arrived call = some arrival ∧ server.asksFor arrival.req = some stage.issuer)
    (call : Nat) (stage : JwksStage) (now : (server.step event state).jwks.stage call = some stage) :
    ∃ arrival, (server.step event state).arrived call = some arrival ∧ server.asksFor arrival.req = some stage.issuer := by
  have kept : ∀ earlier, state.jwks.stage call = some earlier → earlier.issuer = stage.issuer →
      ∃ arrival, (server.step event state).arrived call = some arrival ∧ server.asksFor arrival.req = some stage.issuer := by
    intro earlier was same
    obtain ⟨arrival,arrived,asks⟩ := before call earlier was
    rw [same] at asks
    exact ⟨arrival,server.step_arrived event state call arrival arrived,asks⟩
  have moved := server.step_moves event state
  generalize server.step event state = after at moved now kept ⊢
  generalize server.jwksSteps event state = did at moved
  cases moved with
  | asked other req issuer idle asks =>
    obtain ⟨earlier,was,same⟩ | ⟨same,_⟩ := server.provider.step_issuer _ state.jwks call stage now
    · exact kept earlier was same
    · obtain ⟨rfl,rfl⟩ := JwksEvent.lookup.inj same
      exact ⟨_,Function.update_self _ _ _,asks⟩
  | fetched other network world =>
    obtain ⟨earlier,was,same⟩ | ⟨same,_⟩ := server.provider.step_issuer _ state.jwks call stage now
    · exact kept earlier was same
    · cases same
  | stored other =>
    obtain ⟨earlier,was,same⟩ | ⟨same,_⟩ := server.provider.step_issuer _ state.jwks call stage now
    · exact kept earlier was same
    · cases same
  | _ => exact kept stage now rfl

/-- A call that returns the keys of an entry arrived when it looked the entry up. -/
theorem step_recent (server : Server T) (start : T) (asked : List (JwksEvent N T)) (event : ServerEvent N T)
    (state : ServerState T) (sourced : server.provider.Sourced (start+server.deployment.offset) asked state.jwks)
    (joined : server.Joined start asked state) (call : Nat) (issuer : String) (keys : List Jwk) (arrival : Arrival T)
    (now : (server.step event state).jwks.stage call = some (.returned issuer (.ok keys)))
    (arrived : (server.step event state).arrived call = some arrival) :
    server.Recent start arrival.since call issuer keys (asked ++ server.jwksSteps event state) := by
  have kept : state.jwks.stage call = some (.returned issuer (.ok keys)) →
      server.Recent start arrival.since call issuer keys (asked ++ server.jwksSteps event state) := by
    intro was
    obtain ⟨earlier,before,_⟩ := joined.asks call _ was
    have same := server.step_arrived event state call earlier before
    rw [arrived] at same
    cases same
    exact (joined.recent call issuer keys arrival was before).append _
  have moved := server.step_moves event state
  generalize server.step event state = after at moved now arrived
  generalize server.jwksSteps event state = did at moved kept ⊢
  cases moved with
  | asked other req sought idle asks =>
    obtain was | ⟨same,begins,looked⟩ | ⟨same,_⟩ := server.provider.step_answered _ state.jwks call issuer keys now
    · exact kept was
    · obtain ⟨rfl,rfl⟩ := JwksEvent.lookup.inj same
      obtain ⟨instant,stored,order,fresh⟩ := server.provider.lookup_recent _ asked state.jwks sought keys sourced looked
      change Function.update state.arrived other _ other = some arrival at arrived
      rw [Function.update_self] at arrived
      cases arrived
      rw [joined.clock] at order fresh
      exact Or.inr ⟨instant,Happened.append _ _ _ stored,order,fresh⟩
    · cases same
  | fetched other network world =>
    obtain was | ⟨same,_⟩ | ⟨same,_⟩ := server.provider.step_answered _ state.jwks call issuer keys now
    · exact kept was
    · cases same
    · cases same
  | stored other =>
    obtain was | ⟨same,_⟩ | ⟨same,was⟩ := server.provider.step_answered _ state.jwks call issuer keys now
    · exact kept was
    · cases same
    · have own : server.provider.FetchedBy (start+server.deployment.offset) call issuer keys asked := sourced.calls call _ was
      exact Or.inl (Happened.append _ _ _ own)
  | _ => exact kept now

section clock

variable [IsStrictOrderedRing T]

theorem step_clock (server : Server T) (event : ServerEvent N T) (state : ServerState T)
    (clock : state.jwks.now = state.verifier.now+server.deployment.offset) :
    (server.step event state).jwks.now = (server.step event state).verifier.now+server.deployment.offset := by
  have moved := server.step_moves event state
  generalize server.step event state = after at moved
  generalize server.jwksSteps event state = did at moved
  cases moved with
  | ticked reading =>
    change max state.jwks.now _ = max state.verifier.now reading+server.deployment.offset
    rw [clock]
    exact max_eq_right (by gcongr; exact le_max_left _ _)
  | asked call req issuer idle asks =>
    exact (server.provider.step_still (N := N) _ _ (fun _ same => by cases same)).trans clock
  | fetched call network world => exact (server.provider.step_still _ _ (fun _ same => by cases same)).trans clock
  | stored call => exact (server.provider.step_still (N := N) _ _ (fun _ same => by cases same)).trans clock
  | checked call reading resolver arrival keys arrived keyed later before =>
    exact clock.trans (by rw [server.deployment.step_still _ _ (fun _ same => by cases same)])
  | marked call => exact clock.trans (by rw [server.deployment.step_still _ _ (fun _ same => by cases same)])
  | finished call => exact clock.trans (by rw [server.deployment.step_still _ _ (fun _ same => by cases same)])
  | _ => exact clock

theorem Joined.step {server : Server T} {start : T} {asked : List (JwksEvent N T)} {state : ServerState T}
    (joined : server.Joined start asked state)
    (sourced : server.provider.Sourced (start+server.deployment.offset) asked state.jwks) (event : ServerEvent N T) :
    server.Joined start (asked ++ server.jwksSteps event state) (server.step event state) where
  clock := server.step_clock event state joined.clock
  started := joined.started.trans (server.step_later event state)
  since := by
    intro call arrival arrived
    have later := server.step_later event state
    obtain before | now := server.step_arrival event state call arrival arrived
    · obtain ⟨started,passed⟩ := joined.since call arrival before
      exact ⟨started,passed.trans later⟩
    · rw [now]
      exact ⟨joined.started,later⟩
  asks := server.step_asks event state joined.asks
  recent := server.step_recent start asked event state sourced joined
  passed := by
    intro call passed now
    obtain before | ⟨arrival,keys,reading,instant,admitted⟩ := server.step_admitted event state call passed now
    · obtain ⟨arrival,keys,reading,instant,admitted⟩ := joined.passed call passed before
      exact ⟨arrival,keys,reading,instant,admitted.step event⟩
    · exact ⟨arrival,keys,reading,instant,admitted.step event⟩

omit [IsStrictOrderedRing T] in
theorem run_sourced (server : Server T) (maxEntries : Nat) (start : T) (events : List (ServerEvent N T)) :
    server.provider.Sourced (start+server.deployment.offset) (server.jwksEvents maxEntries start events)
      (server.run maxEntries start events).jwks := by
  rw [run_jwks]
  exact NetworkJwksProvider.run_sourced server.provider _ _

theorem run_joined (server : Server T) (maxEntries : Nat) (start : T) (events : List (ServerEvent N T)) :
    server.Joined start (server.jwksEvents maxEntries start events) (server.run maxEntries start events) := by
  apply History.run_keeps server.step (server.start maxEntries start)
    (fun events state => server.Joined start (server.jwksEvents maxEntries start events) state)
  · refine ⟨rfl,le_refl start,?_,?_,?_,?_⟩
    · intro call arrival arrived
      cases arrived
    · intro call stage was
      cases was
    · intro call issuer keys arrival was
      cases was
    · intro call passed was
      cases was
  · intro events event before
    have projected : server.jwksEvents maxEntries start (events ++ [event]) =
        server.jwksEvents maxEntries start events ++ server.jwksSteps event (server.run maxEntries start events) :=
      History.projection_last _ _ _ _ _
    rw [projected]
    exact Joined.step before (server.run_sourced maxEntries start events) event

end clock

omit [Field T] [LinearOrder T] [FloorRing T] in
theorem asksFor_some (server : Server T) (req : AuthRequest) (parsed : Parsed) (issuer : String) (header : Header)
    (presented : parseAuthorization server.deployment.crates req.authorization = some parsed)
    (gate : schemeGate server.deployment.crates server.deployment.config parsed = .ok ())
    (named : peekIssuer server.deployment.crates parsed.token = .ok issuer)
    (trusted : issuer ∈ server.deployment.config.trustedIssuers)
    (peeked : peekHeader server.deployment.crates parsed.token = .ok header) (policy : algInPolicy header.alg)
    (verifiable : algIsVerifiable server.deployment.build header.alg) : server.asksFor req = some issuer := by
  unfold asksFor
  rw [presented]
  simp [gate,named,peeked,ensure,trusted,policy,verifiable,Except.toOption]

/-- A request that passes the checks asks for the keys of its issuer. -/
theorem examined_asks (server : Server T) (law : PayloadLaw server.deployment.crates) (instant : T) (passed : Passed)
    (examined : server.deployment.Examined instant passed) :
    server.asksFor passed.attempt.req = some passed.authenticated.claimedIssuer := by
  obtain ⟨presented,world,after,checked⟩ := examined
  obtain ⟨⟨dpopScheme,named,authentic⟩,_⟩ := (authenticate_ok _ law _ _ _ _ _ _).mp checked
  obtain ⟨peeked,payload,iss,filled,trusted⟩ := authentic.routed
  obtain ⟨⟨_,_,header,peek,policy,verifiable,_⟩,_⟩ := authentic.access
  apply server.asksFor_some _ passed.parsed _ header presented _ _ trusted peek policy verifiable
  · exact (schemeGate_ok _ _ _ _).mpr ⟨dpopScheme,named,authentic.gate⟩
  · exact (peekIssuer_ok _ _ _).mpr ⟨peeked,payload,iss,filled⟩

end Server

end SolidOidcVerifier
