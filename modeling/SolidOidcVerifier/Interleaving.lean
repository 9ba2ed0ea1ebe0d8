import SolidOidcVerifier.ReplayMarks
import SolidOidcVerifier.ReplayRetention

/-! Concurrent calls of `verify` on one verifier with an in-memory replay store. A call runs its
checks, later marks under the lock of the store and later consults the profile; between these steps
any other call may take its own. -/
namespace SolidOidcVerifier
open Foundation

structure Attempt where
  req : AuthRequest
  keysFor : String → Except String (List Jwk)
  resolver : WebIdResolver
  tokenClock : Option Nat

/-- One verifier. Its monotonic clock is the wall clock moved by a constant `offset`. -/
structure Deployment (T : Type) where
  build : Build
  crates : Crates
  config : VerifierConfig
  platform : Platform T
  offset : T

structure Passed where
  attempt : Attempt
  parsed : Parsed
  authenticated : Authenticated

inductive Stage where
  | checked (passed : Passed)
  | marked (passed : Passed)
  | accepted (passed : Passed)
  | ended

def Stage.after {ε α : Type} (result : Except ε α) (next : α → Stage) : Stage :=
  match result with
  | .ok value => next value
  | .error _ => .ended

/-- `now` is the wall clock; `stage` is empty for a call that has not begun. -/
structure System (T : Type) where
  now : T
  world : World (InMemoryReplayStore T)
  stage : Nat → Option Stage

inductive Event (T : Type) where
  | tick (reading : T)
  | check (call : Nat) (attempt : Attempt)
  | mark (call : Nat)
  | finish (call : Nat)

def System.advance {T : Type} (system : System T) (world : World (InMemoryReplayStore T)) (call : Nat)
    (stage : Stage) : System T :=
  {system with world := world,stage := Function.update system.stage call (some stage)}

/-- The proof of a DPoP header that `validate_token` required. -/
def Passed.Requires (config : VerifierConfig) (passed : Passed) (proof : String) : Prop :=
  passed.attempt.req.dpop = some proof ∧
    mustDpop config (passed.parsed.scheme == "dpop") passed.authenticated.claims = true

theorem System.advance_stage {T : Type} (system : System T) (world : World (InMemoryReplayStore T)) (call : Nat) (stage : Stage) :
    (system.advance world call stage).stage call = some stage := Function.update_self call _ _

theorem System.advance_other {T : Type} (system : System T) (world : World (InMemoryReplayStore T)) (call other : Nat)
    (stage : Stage) (differs : other ≠ call) :
    (system.advance world call stage).stage other = system.stage other :=
  Function.update_of_ne differs _ _

theorem System.advance_advance {T : Type} (system : System T) (first second : World (InMemoryReplayStore T))
    (call : Nat) (stage next : Stage) :
    (system.advance first call stage).advance second call next = system.advance second call next := by
  unfold System.advance
  simp only [Function.update_idem]

namespace Deployment

variable {T : Type} [Field T] [LinearOrder T] [FloorRing T]

def settings (deployment : Deployment T) (attempt : Attempt) : VerifierConfig :=
  {deployment.config with webidResolver := deployment.config.webidResolver.map fun _ => attempt.resolver}

def env (deployment : Deployment T) (attempt : Attempt) (now : T) : Env (InMemoryReplayStore T) where
  build := deployment.build
  crates := deployment.crates
  keysFor := attempt.keysFor
  replay := InMemoryReplayStore.seam deployment.platform (now+deployment.offset)
  tokenClock := attempt.tokenClock
  proofClock := some ⌊now⌋₊

def check (deployment : Deployment T) (call : Nat) (attempt : Attempt) (system : System T) : System T :=
  match parseAuthorization deployment.crates attempt.req.authorization with
  | none => system.advance system.world call .ended
  | some parsed =>
    let (result,world) := authenticate (deployment.env attempt system.now) (deployment.settings attempt)
      attempt.req parsed system.world
    system.advance world call (.after result fun authenticated => .checked ⟨attempt,parsed,authenticated⟩)

def mark (deployment : Deployment T) (call : Nat) (passed : Passed) (system : System T) : System T :=
  let (result,world) := replayStep (deployment.env passed.attempt system.now)
    (deployment.settings passed.attempt) passed.attempt.req system.world
  system.advance world call (.after result fun _ => .marked passed)

def finish (deployment : Deployment T) (call : Nat) (passed : Passed) (system : System T) : System T :=
  let (result,world) := checkBidirectional (deployment.settings passed.attempt) passed.authenticated.webId
    passed.authenticated.issuer system.world
  system.advance world call (.after result fun _ => .accepted passed)

/-- A step that its call cannot take now changes nothing. -/
def step (deployment : Deployment T) (event : Event T) (system : System T) : System T :=
  match event with
  | .tick reading => {system with now := max system.now reading}
  | .check call attempt =>
    match system.stage call with
    | none => deployment.check call attempt system
    | some _ => system
  | .mark call =>
    match system.stage call with
    | some (.checked passed) => deployment.mark call passed system
    | _ => system
  | .finish call =>
    match system.stage call with
    | some (.marked passed) => deployment.finish call passed system
    | _ => system

def run (deployment : Deployment T) : List (Event T) → System T → System T
  | [],system => system
  | event :: rest,system => deployment.run rest (deployment.step event system)

theorem wall_clock (now : T) (epoch : 0 ≤ now) (fits : ⌊now⌋ < 2^63) :
    nowSecs (some ⌊now⌋₊) = ⌊now⌋ := by
  have positive : 0 ≤ ⌊now⌋ := Int.floor_nonneg.mpr epoch
  change MachineInt.wrapI64 (⌊now⌋₊ : Int) = _
  rw [Int.natCast_floor_eq_floor epoch]
  exact MachineInt.wrapI64_exact _ ⟨by omega,fits⟩

theorem check_begun (deployment : Deployment T) (call : Nat) (attempt : Attempt) (system : System T)
    (idle : system.stage call = none) :
    deployment.step (.check call attempt) system = deployment.check call attempt system := by
  simp only [step,idle]

theorem mark_begun (deployment : Deployment T) (call : Nat) (passed : Passed) (system : System T)
    (was : system.stage call = some (.checked passed)) :
    deployment.step (.mark call) system = deployment.mark call passed system := by
  simp only [step,was]

theorem mark_now (deployment : Deployment T) (call : Nat) (passed : Passed) (system : System T) :
    (deployment.mark call passed system).now = system.now := rfl

theorem finish_begun (deployment : Deployment T) (call : Nat) (passed : Passed) (system : System T)
    (was : system.stage call = some (.marked passed)) :
    deployment.step (.finish call) system = deployment.finish call passed system := by
  simp only [step,was]

theorem mark_ended (deployment : Deployment T) (call : Nat) (system : System T)
    (was : system.stage call = some .ended) : deployment.step (.mark call) system = system := by
  simp only [step,was]

theorem finish_ended (deployment : Deployment T) (call : Nat) (system : System T)
    (was : system.stage call = some .ended) : deployment.step (.finish call) system = system := by
  simp only [step,was]

theorem check_run (deployment : Deployment T) (call : Nat) (attempt : Attempt) (parsed : Parsed)
    (system : System T) (result : Except (Stop VerifyError) Authenticated)
    (world : World (InMemoryReplayStore T))
    (presented : parseAuthorization deployment.crates attempt.req.authorization = some parsed)
    (ran : authenticate (deployment.env attempt system.now) (deployment.settings attempt) attempt.req parsed
      system.world = (result,world)) :
    deployment.check call attempt system =
      system.advance world call (.after result fun authenticated => .checked ⟨attempt,parsed,authenticated⟩) := by
  simp only [check,presented,ran]

theorem mark_run (deployment : Deployment T) (call : Nat) (passed : Passed) (system : System T)
    (result : Except (Stop VerifyError) Unit) (world : World (InMemoryReplayStore T))
    (ran : replayStep (deployment.env passed.attempt system.now) (deployment.settings passed.attempt)
      passed.attempt.req system.world = (result,world)) :
    deployment.mark call passed system = system.advance world call (.after result fun _ => .marked passed) := by
  simp only [mark,ran]

omit [Field T] [LinearOrder T] [FloorRing T] in
theorem finish_run (deployment : Deployment T) (call : Nat) (passed : Passed) (system : System T)
    (result : Except (Stop VerifyError) Unit) (world : World (InMemoryReplayStore T))
    (ran : checkBidirectional (deployment.settings passed.attempt) passed.authenticated.webId
      passed.authenticated.issuer system.world = (result,world)) :
    deployment.finish call passed system =
      system.advance world call (.after result fun _ => .accepted passed) := by
  simp only [finish,ran]

omit [Field T] [LinearOrder T] [FloorRing T] in
private theorem unaccepted (system : System T) (world : World (InMemoryReplayStore T)) (call : Nat)
    (result : Except (Stop VerifyError) VerifiedToken)
    (anonymous : ∀ token, result = .ok token → token.webId = none) (token : VerifiedToken) :
    (result = .ok token ∧ token.webId ≠ none) ↔ ∃ passed,
      (system.advance world call .ended).stage call = some (.accepted passed) ∧
        token = passed.authenticated.credentials := by
  rw [System.advance_stage]
  apply Iff.intro
  · intro accepted
    exact absurd (anonymous token accepted.1) accepted.2
  · intro accepted
    obtain ⟨passed,impossible,_⟩ := accepted
    cases impossible

/-- A call whose steps nothing interrupts does what `verify` does. -/
theorem uninterrupted (deployment : Deployment T) (call : Nat) (attempt : Attempt) (system : System T)
    (idle : system.stage call = none) :
    let outcome := verify (deployment.env attempt system.now) (deployment.settings attempt) attempt.req
      system.world
    let after := deployment.run [.check call attempt,.mark call,.finish call] system
    after.world = outcome.2 ∧ ∀ token, (outcome.1 = .ok token ∧ token.webId ≠ none) ↔
      ∃ passed, after.stage call = some (.accepted passed) ∧ token = passed.authenticated.credentials := by
  intro outcome after
  have whole : after = deployment.step (.finish call) (deployment.step (.mark call)
      (deployment.check call attempt system)) := by
    rw [← check_begun deployment call attempt system idle]
    rfl
  cases presented : parseAuthorization deployment.crates attempt.req.authorization with
  | none =>
    have answered : outcome = (.ok VerifiedToken.public,system.world) := by
      simp only [outcome,verify,env,presented]
      rfl
    simp only [check,presented] at whole
    rw [mark_ended _ _ _ (System.advance_stage _ _ _ _),
      finish_ended _ _ _ (System.advance_stage _ _ _ _)] at whole
    rw [whole,answered]
    refine ⟨rfl,unaccepted system _ call _ ?_⟩
    intro token anonymous
    cases anonymous
    rfl
  | some parsed =>
    have sequence : verify (deployment.env attempt system.now) (deployment.settings attempt) attempt.req =
        (do
          let authenticated ← authenticate (deployment.env attempt system.now) (deployment.settings attempt)
            attempt.req parsed
          replayStep (deployment.env attempt system.now) (deployment.settings attempt) attempt.req
          checkBidirectional (deployment.settings attempt) authenticated.webId authenticated.issuer
          return authenticated.credentials) := by
      simp only [verify,env,presented]
    have answered : outcome = _ := congrFun sequence system.world
    generalize checked : authenticate (deployment.env attempt system.now) (deployment.settings attempt)
      attempt.req parsed system.world = first
    obtain ⟨found,middle⟩ := first
    rw [check_run deployment call attempt parsed system found middle presented checked] at whole
    cases found with
    | error stop =>
      rw [Exec.bind_of_error _ _ _ middle stop checked] at answered
      simp only [Stage.after] at whole
      rw [mark_ended _ _ _ (System.advance_stage _ _ _ _),
        finish_ended _ _ _ (System.advance_stage _ _ _ _)] at whole
      rw [whole,answered]
      exact ⟨rfl,unaccepted system _ call _ (fun token impossible => by cases impossible)⟩
    | ok authenticated =>
      rw [Exec.bind_of_ok _ _ _ middle authenticated checked] at answered
      simp only [Stage.after] at whole
      generalize replayed : replayStep (deployment.env attempt system.now) (deployment.settings attempt)
        attempt.req middle = second
      obtain ⟨found,marked⟩ := second
      rw [mark_begun _ _ _ _ (System.advance_stage _ _ _ _),mark_run deployment call _ _ found marked replayed,
        System.advance_advance] at whole
      cases found with
      | error stop =>
        rw [Exec.bind_of_error _ _ middle marked stop replayed] at answered
        simp only [Stage.after] at whole
        rw [finish_ended _ _ _ (System.advance_stage _ _ _ _)] at whole
        rw [whole,answered]
        exact ⟨rfl,unaccepted system _ call _ (fun token impossible => by cases impossible)⟩
      | ok value =>
        rw [Exec.bind_of_ok _ _ middle marked value replayed] at answered
        simp only [Stage.after] at whole
        generalize confirmed : checkBidirectional (deployment.settings attempt) authenticated.webId
          authenticated.issuer marked = third
        obtain ⟨found,last⟩ := third
        rw [finish_begun _ _ _ _ (System.advance_stage _ _ _ _),
          finish_run deployment call _ _ found last confirmed,System.advance_advance] at whole
        cases found with
        | error stop =>
          rw [Exec.bind_of_error _ _ marked last stop confirmed] at answered
          rw [whole,answered]
          exact ⟨rfl,unaccepted system _ call _ (fun token impossible => by cases impossible)⟩
        | ok value =>
          rw [Exec.bind_of_ok _ _ marked last value confirmed] at answered
          rw [whole,answered]
          refine ⟨rfl,?_⟩
          intro token
          rw [System.advance_stage]
          apply Iff.intro
          · intro accepted
            cases accepted.1
            exact ⟨_,rfl,rfl⟩
          · intro accepted
            obtain ⟨passed,same,credentials⟩ := accepted
            cases same
            rw [credentials]
            exact ⟨rfl,Option.some_ne_none _⟩

end Deployment

end SolidOidcVerifier
