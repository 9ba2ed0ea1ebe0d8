import SolidOidcVerifier.Interleaving

/-! A required proof is accepted once, over every interleaving of the calls, as long as no call marks
a proof that has gone stale since its check. -/
namespace SolidOidcVerifier
open Foundation

def ProofReads (crates : Crates) (proof jti : String) (iat : Int) : Prop :=
  ∃ claims, peekClaims crates proof = some claims ∧ presentStr claims "jti" = some jti ∧
    claims.i64 "iat" = some iat

theorem ProofReads.range (crates : Crates) (proof jti : String) (iat : Int)
    (reads : ProofReads crates proof jti iat) : MachineInt.InI64 iat := by
  obtain ⟨claims,_,_,issued⟩ := reads
  exact claims.i64_range "iat" iat issued

theorem ProofReads.jti (crates : Crates) (proof jti : String) (iat : Int)
    (reads : ProofReads crates proof jti iat) : proofJti crates proof = some jti := by
  obtain ⟨claims,payload,carried,_⟩ := reads
  unfold proofJti
  rw [payload]
  exact carried

theorem ProofReads.unique (crates : Crates) (proof jti other : String) (iat issued : Int)
    (first : ProofReads crates proof jti iat) (second : ProofReads crates proof other issued) :
    jti = other ∧ iat = issued := by
  obtain ⟨claims,payload,carried,read⟩ := first
  obtain ⟨others,again,found,reread⟩ := second
  rw [payload] at again
  cases again
  rw [carried] at found
  rw [read] at reread
  exact ⟨Option.some.inj found,Option.some.inj reread⟩

def Stage.used : Stage → Option Passed
  | .marked passed => some passed
  | .accepted passed => some passed
  | _ => none

namespace Deployment

variable {T : Type}

/-- The call is past its mark with this required proof. -/
def Uses (deployment : Deployment T) (system : System T) (call : Nat) (proof : String) : Prop :=
  ∃ passed, (system.stage call).bind Stage.used = some passed ∧ passed.Requires deployment.config proof

def Awaits (deployment : Deployment T) (system : System T) (call : Nat) (proof : String) : Prop :=
  ∃ passed, system.stage call = some (.checked passed) ∧ passed.Requires deployment.config proof

def SingleUse (deployment : Deployment T) (system : System T) : Prop :=
  ∀ proof first second one other, system.stage first = some (.accepted one) →
    system.stage second = some (.accepted other) → one.Requires deployment.config proof →
    other.Requires deployment.config proof → first = second

variable [Field T] [LinearOrder T] [FloorRing T]

/-- A mark with a required proof that another call is past its mark with, that has gone stale since
the check, and whose `jti` has expired. -/
def Overdue (deployment : Deployment T) (event : Event T) (system : System T) : Prop :=
  ∃ call other proof jti iat, event = .mark call ∧ deployment.Awaits system call proof ∧
    ProofReads deployment.crates proof jti iat ∧ deployment.Uses system other proof ∧
    ¬Fresh deployment.build deployment.config ⌊system.now⌋ iat ∧
    ¬ExpiryMap.Live system.world.store.inner.lookup (system.now+deployment.offset) jti

def Prompt (deployment : Deployment T) : List (Event T) → System T → Prop
  | [],_ => True
  | event :: rest,system => ¬deployment.Overdue event system ∧ deployment.Prompt rest (deployment.step event system)

def KeepsLive (now : T) (before after : InMemoryReplayStore T) : Prop :=
  ∀ jti expiry, now < expiry → before.inner.lookup jti = some expiry → after.inner.lookup jti = some expiry

/-- The checks of a call at an instant, as far as they concern a required proof. -/
def Checked (deployment : Deployment T) (now : T) (passed : Passed) : Prop :=
  ∀ proof, passed.Requires deployment.config proof → ∃ jti iat,
    ProofReads deployment.crates proof jti iat ∧ Fresh deployment.build deployment.config ⌊now⌋ iat

def Recorded (deployment : Deployment T) (now : T) (proof : String) (before after : InMemoryReplayStore T) :
    Prop :=
  ∃ jti ttl, proofJti deployment.crates proof = some jti ∧
    deployment.config.replayTtl deployment.build = some ttl ∧
    before.mark deployment.platform jti (ttl : T) (now+deployment.offset) = (.new,after)

inductive Move (deployment : Deployment T) (system : System T) : Event T → System T → Prop
  | stay (event) : Move deployment system event system
  | tick (reading) : Move deployment system (.tick reading) {system with now := max system.now reading}
  | checked (call attempt passed world) (quiet : world.store = system.world.store)
    (valid : deployment.Checked system.now passed) :
    Move deployment system (.check call attempt) (system.advance world call (.checked passed))
  | ended (event call world)
    (keeps : KeepsLive (system.now+deployment.offset) system.world.store world.store) :
    Move deployment system event (system.advance world call .ended)
  | marked (call passed world) (was : system.stage call = some (.checked passed))
    (keeps : KeepsLive (system.now+deployment.offset) system.world.store world.store)
    (recorded : ∀ proof, passed.attempt.req.dpop = some proof →
      deployment.Recorded system.now proof system.world.store world.store) :
    Move deployment system (.mark call) (system.advance world call (.marked passed))
  | accepted (call passed world) (was : system.stage call = some (.marked passed))
    (quiet : world.store = system.world.store) :
    Move deployment system (.finish call) (system.advance world call (.accepted passed))

omit [Field T] [FloorRing T] in
theorem keepsLive_same (now : T) (before after : InMemoryReplayStore T) (same : after = before) :
    KeepsLive now before after := by
  intro jti expiry _ held
  rw [same]
  exact held

theorem replayStep_cases {S : Type} (env : Env S) (config : VerifierConfig) (req : AuthRequest)
    (world after : World S) (result : Except (Stop VerifyError) Unit)
    (ran : replayStep env config req world = (result,after)) :
    (req.dpop = none ∧ after = world) ∨ (∃ stop, result = .error stop ∧ after = world) ∨
      ∃ proof jti ttl, req.dpop = some proof ∧ proofJti env.crates proof = some jti ∧
        config.replayTtl env.build = some ttl ∧
        result = acceptReply config (env.replay.mark jti ttl world.store).1 ∧
        after.store = (env.replay.mark jti ttl world.store).2 := by
  unfold replayStep at ran
  cases given : req.dpop with
  | none =>
    rw [given] at ran
    cases ran
    exact Or.inl ⟨rfl,rfl⟩
  | some proof =>
    right
    rw [given] at ran
    change checkReplay env config proof world = _ at ran
    rw [checkReplay_run] at ran
    cases carried : proofJti env.crates proof with
    | none =>
      rw [carried] at ran
      cases ran
      exact Or.inl ⟨_,rfl,rfl⟩
    | some jti =>
      cases read : config.replayTtl env.build with
      | none =>
        rw [carried,read] at ran
        cases ran
        exact Or.inl ⟨_,rfl,rfl⟩
      | some ttl =>
        rw [carried,read] at ran
        cases ran
        exact Or.inr ⟨proof,jti,ttl,rfl,carried,rfl,rfl,rfl⟩

theorem replayStep_keeps (deployment : Deployment T) (attempt : Attempt) (now : T)
    (world after : World (InMemoryReplayStore T)) (result : Except (Stop VerifyError) Unit)
    (ran : replayStep (deployment.env attempt now) (deployment.settings attempt) attempt.req world =
      (result,after)) : KeepsLive (now+deployment.offset) world.store after.store := by
  obtain ⟨_,same⟩ | ⟨_,_,same⟩ | ⟨_,jti,ttl,_,_,_,_,stored⟩ := replayStep_cases _ _ _ _ _ _ ran
  · exact keepsLive_same _ _ _ (by rw [same])
  · exact keepsLive_same _ _ _ (by rw [same])
  · intro other expiry ahead held
    rw [stored]
    exact InMemoryReplayStore.step_keeps_live deployment.platform
      (.mark jti (ttl : T) (now+deployment.offset)) world.store other expiry ahead held

theorem replayStep_recorded (deployment : Deployment T) (attempt : Attempt) (now : T)
    (world after : World (InMemoryReplayStore T)) (value : Unit)
    (closed : deployment.config.replayFailClosed = true)
    (ran : replayStep (deployment.env attempt now) (deployment.settings attempt) attempt.req world =
      (.ok value,after)) (proof : String) (given : attempt.req.dpop = some proof) :
    deployment.Recorded now proof world.store after.store := by
  obtain ⟨none,_⟩ | ⟨_,impossible,_⟩ | ⟨sent,jti,ttl,presented,carried,read,answered,stored⟩ :=
    replayStep_cases _ _ _ _ _ _ ran
  · rw [given] at none
    cases none
  · cases impossible
  · rw [given] at presented
    cases presented
    refine ⟨jti,ttl,carried,read,?_⟩
    obtain new | ⟨opened,_⟩ := (acceptReply_ok _ _ _).mp answered.symm
    · exact Prod.ext new stored.symm
    · change deployment.config.replayFailClosed = false at opened
      rw [closed] at opened
      cases opened

theorem authenticate_checked (deployment : Deployment T) (law : PayloadLaw deployment.crates)
    (attempt : Attempt) (parsed : Parsed) (authenticated : Authenticated) (now : T)
    (clock : nowSecs (some ⌊now⌋₊) = ⌊now⌋) (world after : World (InMemoryReplayStore T))
    (ran : authenticate (deployment.env attempt now) (deployment.settings attempt) attempt.req parsed world =
      (.ok authenticated,after)) : deployment.Checked now ⟨attempt,parsed,authenticated⟩ := by
  obtain ⟨⟨dpopScheme,scheme,authentic⟩,_⟩ :=
    (authenticate_ok (deployment.env attempt now) law _ _ _ _ _ _).mp ran
  intro proof required
  obtain ⟨given,needed⟩ := required
  have same : (parsed.scheme == "dpop") = dpopScheme := by
    rw [scheme]
    cases dpopScheme <;> rfl
  change mustDpop (deployment.settings attempt) (parsed.scheme == "dpop") authenticated.claims = true at needed
  rw [same] at needed
  obtain ⟨_,sent,claims,_,iat,_,presented,valid⟩ :=
    authentic.possession.dpop ((mustDpop_iff _ _ _ authentic.possession.wellFormed).mp needed)
  rw [given] at presented
  cases presented
  obtain ⟨jti,carried,filled⟩ := valid.jti
  have payload := valid.signed.2.payload _ _ law
  refine ⟨jti,iat,⟨claims,payload,(presentStr_some _ _ _).mpr ⟨carried,filled⟩,valid.issued⟩,?_⟩
  have fresh := valid.fresh
  change Fresh deployment.build (deployment.settings attempt) (nowSecs (some ⌊now⌋₊)) iat at fresh
  rw [clock] at fresh
  exact fresh

theorem step_moves (deployment : Deployment T) (law : PayloadLaw deployment.crates)
    (closed : deployment.config.replayFailClosed = true) (event : Event T) (system : System T)
    (clock : nowSecs (some ⌊system.now⌋₊) = ⌊system.now⌋) :
    Move deployment system event (deployment.step event system) := by
  cases event with
  | tick reading => exact .tick reading
  | check call attempt =>
    cases was : system.stage call with
    | some stage =>
      simp only [step,was]
      exact .stay _
    | none =>
      rw [check_begun deployment call attempt system was]
      cases presented : parseAuthorization deployment.crates attempt.req.authorization with
      | none =>
        simp only [check,presented]
        exact .ended _ call _ (keepsLive_same _ _ _ rfl)
      | some parsed =>
        have quiet := (authenticate_marks_nothing (deployment.env attempt system.now)
          (deployment.settings attempt) attempt.req parsed system.world).1
        generalize ran : authenticate (deployment.env attempt system.now) (deployment.settings attempt)
          attempt.req parsed system.world = outcome at quiet
        obtain ⟨result,world⟩ := outcome
        rw [check_run deployment call attempt parsed system result world presented ran]
        cases result with
        | error stop => exact .ended _ call world (keepsLive_same _ _ _ quiet)
        | ok authenticated =>
          exact .checked call attempt _ world quiet (deployment.authenticate_checked law attempt parsed
            authenticated system.now clock system.world world ran)
  | mark call =>
    cases was : system.stage call with
    | none =>
      simp only [step,was]
      exact .stay _
    | some stage =>
      cases stage with
      | checked passed =>
        rw [mark_begun deployment call passed system was]
        generalize ran : replayStep (deployment.env passed.attempt system.now)
          (deployment.settings passed.attempt) passed.attempt.req system.world = outcome
        obtain ⟨result,world⟩ := outcome
        rw [mark_run deployment call passed system result world ran]
        have keeps := deployment.replayStep_keeps _ _ _ _ _ ran
        cases result with
        | error stop => exact .ended _ call world keeps
        | ok value =>
          exact .marked call passed world was keeps
            (deployment.replayStep_recorded passed.attempt system.now _ _ value closed ran)
      | _ =>
        simp only [step,was]
        exact .stay _
  | finish call =>
    cases was : system.stage call with
    | none =>
      simp only [step,was]
      exact .stay _
    | some stage =>
      cases stage with
      | marked passed =>
        rw [finish_begun deployment call passed system was]
        have quiet := (checkBidirectional_marks_nothing (deployment.settings passed.attempt)
          passed.authenticated.webId passed.authenticated.issuer system.world).1
        generalize ran : checkBidirectional (deployment.settings passed.attempt) passed.authenticated.webId
          passed.authenticated.issuer system.world = outcome at quiet
        obtain ⟨result,world⟩ := outcome
        rw [finish_run deployment call passed system result world ran]
        cases result with
        | error stop => exact .ended _ call world (keepsLive_same _ _ _ quiet)
        | ok value => exact .accepted call passed world was quiet
      | _ =>
        simp only [step,was]
        exact .stay _

/-- What every run up to the instant `last` keeps. The `jti` of a proof that a call is past its mark
with stays live for as long as the proof is fresh. -/
structure Guarded (deployment : Deployment T) (last : T) (system : System T) : Prop where
  epoch : 0 ≤ system.now
  checked : ∀ call proof, deployment.Awaits system call proof → ∃ jti iat earlier,
    ProofReads deployment.crates proof jti iat ∧ 0 ≤ earlier ∧ earlier ≤ system.now ∧
      Fresh deployment.build deployment.config ⌊earlier⌋ iat
  live : ∀ call proof jti iat, deployment.Uses system call proof → ProofReads deployment.crates proof jti iat →
    ∀ t, system.now ≤ t → t ≤ last → Fresh deployment.build deployment.config ⌊t⌋ iat →
      ∃ expiry, system.world.store.inner.lookup jti = some expiry ∧ t+deployment.offset < expiry
  single : ∀ first second proof, deployment.Uses system first proof → deployment.Uses system second proof →
    first = second

omit [Field T] [LinearOrder T] [FloorRing T] in
theorem uses_advance (deployment : Deployment T) (system : System T) (world : World (InMemoryReplayStore T))
    (call other : Nat) (stage : Stage) (proof : String)
    (used : deployment.Uses (system.advance world call stage) other proof) :
    (other = call ∧ ∃ passed, stage.used = some passed ∧ passed.Requires deployment.config proof) ∨
      (other ≠ call ∧ deployment.Uses system other proof) := by
  obtain ⟨passed,was,required⟩ := used
  by_cases same : other = call
  · rw [same,System.advance_stage] at was
    exact Or.inl ⟨same,passed,was,required⟩
  · rw [System.advance_other system world call other stage same] at was
    exact Or.inr ⟨same,passed,was,required⟩

omit [Field T] [LinearOrder T] [FloorRing T] in
theorem awaits_advance (deployment : Deployment T) (system : System T) (world : World (InMemoryReplayStore T))
    (call other : Nat) (stage : Stage) (proof : String)
    (waiting : deployment.Awaits (system.advance world call stage) other proof) :
    (∃ passed, stage = .checked passed ∧ passed.Requires deployment.config proof) ∨
      deployment.Awaits system other proof := by
  obtain ⟨passed,was,required⟩ := waiting
  by_cases same : other = call
  · rw [same,System.advance_stage] at was
    exact Or.inl ⟨passed,Option.some.inj was,required⟩
  · rw [System.advance_other system world call other stage same] at was
    exact Or.inr ⟨passed,was,required⟩

theorem Guarded.frame [IsStrictOrderedRing T] (deployment : Deployment T) (last : T) (system next : System T)
    (guarded : deployment.Guarded last system) (later : system.now ≤ next.now)
    (awaits : ∀ call proof, deployment.Awaits next call proof → deployment.Awaits system call proof ∨
      ∃ jti iat, ProofReads deployment.crates proof jti iat ∧
        Fresh deployment.build deployment.config ⌊next.now⌋ iat)
    (uses : ∀ call proof, deployment.Uses next call proof → deployment.Uses system call proof)
    (keeps : KeepsLive (next.now+deployment.offset) system.world.store next.world.store) :
    deployment.Guarded last next := by
  refine ⟨guarded.epoch.trans later,?_,?_,?_⟩
  · intro call proof waiting
    obtain before | ⟨jti,iat,reads,fresh⟩ := awaits call proof waiting
    · obtain ⟨jti,iat,earlier,reads,start,order,fresh⟩ := guarded.checked call proof before
      exact ⟨jti,iat,earlier,reads,start,order.trans later,fresh⟩
    · exact ⟨jti,iat,next.now,reads,guarded.epoch.trans later,le_refl _,fresh⟩
  · intro call proof jti iat used reads t ahead bound fresh
    obtain ⟨expiry,held,beyond⟩ :=
      guarded.live call proof jti iat (uses call proof used) reads t (later.trans ahead) bound fresh
    refine ⟨expiry,keeps jti expiry ?_ held,beyond⟩
    linarith
  · intro first second proof one other
    exact guarded.single first second proof (uses first proof one) (uses second proof other)

variable [IsStrictOrderedRing T]

theorem recorded_live (deployment : Deployment T) (last now earlier : T) (proof jti : String) (iat : Int)
    (before after : InMemoryReplayStore T) (fits : ⌊last⌋+deployment.config.proofWindow < 2^63)
    (reads : ProofReads deployment.crates proof jti iat) (start : 0 ≤ earlier) (order : earlier ≤ now)
    (checked : Fresh deployment.build deployment.config ⌊earlier⌋ iat)
    (recorded : deployment.Recorded now proof before after) (t : T) (ahead : now ≤ t) (bound : t ≤ last)
    (fresh : Fresh deployment.build deployment.config ⌊t⌋ iat) :
    ∃ expiry, after.inner.lookup jti = some expiry ∧ t+deployment.offset < expiry := by
  obtain ⟨other,ttl,carried,read,new⟩ := recorded
  rw [reads.jti] at carried
  cases carried
  have below : ⌊t⌋ ≤ ⌊last⌋ := Int.floor_le_floor bound
  have first : ⌊earlier⌋ ≤ ⌊t⌋ := Int.floor_le_floor (order.trans ahead)
  have epoch : 0 ≤ ⌊earlier⌋ := Int.floor_nonneg.mpr start
  rw [replayTtl_exact deployment.build deployment.config (by omega)] at read
  cases read
  have positive : (0 : T) < ((2*deployment.config.proofWindow+1 : Nat) : T) := by
    push_cast
    positivity
  have held := InMemoryReplayStore.mark_new_holds deployment.platform jti _ _ before after positive new
  have span := fresh_span deployment.build deployment.config ⌊earlier⌋ ⌊t⌋ iat epoch (by omega) (by omega)
    (by omega) reads.range checked fresh
  exact ⟨_,held.2,InMemoryReplayStore.expiry_past_window deployment.config.proofWindow earlier now t
    deployment.offset span order⟩

omit [FloorRing T] [IsStrictOrderedRing T] in
theorem recorded_dead (deployment : Deployment T) (now : T) (proof jti : String) (iat : Int)
    (before after : InMemoryReplayStore T) (reads : ProofReads deployment.crates proof jti iat)
    (recorded : deployment.Recorded now proof before after) :
    ¬ExpiryMap.Live before.inner.lookup (now+deployment.offset) jti := by
  obtain ⟨other,ttl,carried,_,new⟩ := recorded
  rw [reads.jti] at carried
  cases carried
  have can := InMemoryReplayStore.mark_step deployment.platform jti (ttl : T) (now+deployment.offset) before
  rw [new] at can
  cases can with
  | unstored sound dead spent => exact dead
  | recorded room sound dead ahead made fits => exact dead

theorem Guarded.mark (deployment : Deployment T) (last : T) (system : System T) (call : Nat) (passed : Passed)
    (world : World (InMemoryReplayStore T)) (fits : ⌊last⌋+deployment.config.proofWindow < 2^63)
    (guarded : deployment.Guarded last system) (bound : system.now ≤ last)
    (prompt : ¬deployment.Overdue (.mark call) system) (was : system.stage call = some (.checked passed))
    (keeps : KeepsLive (system.now+deployment.offset) system.world.store world.store)
    (recorded : ∀ proof, passed.attempt.req.dpop = some proof →
      deployment.Recorded system.now proof system.world.store world.store) :
    deployment.Guarded last (system.advance world call (.marked passed)) := by
  -- No other call is past its mark with the proof: its entry would be live.
  have alone : ∀ other proof, passed.Requires deployment.config proof →
      ¬deployment.Uses system other proof := by
    intro other proof required used
    obtain ⟨jti,iat,earlier,reads,_,_,_⟩ := guarded.checked call proof ⟨passed,was,required⟩
    have dead := deployment.recorded_dead system.now proof jti iat _ _ reads (recorded proof required.1)
    apply prompt
    refine ⟨call,other,proof,jti,iat,rfl,⟨passed,was,required⟩,reads,used,?_,dead⟩
    intro fresh
    obtain ⟨expiry,held,ahead⟩ :=
      guarded.live other proof jti iat used reads system.now (le_refl _) bound fresh
    exact dead ⟨expiry,held,ahead⟩
  refine ⟨guarded.epoch,?_,?_,?_⟩
  · intro other proof waiting
    obtain ⟨_,impossible,_⟩ | before := deployment.awaits_advance system world call other _ proof waiting
    · cases impossible
    · exact guarded.checked other proof before
  · intro other proof jti iat used reads t ahead ends fresh
    obtain ⟨_,_,own,required⟩ | ⟨_,before⟩ := deployment.uses_advance system world call other _ proof used
    · cases own
      obtain ⟨again,issued,earlier,read,start,order,checked⟩ :=
        guarded.checked call proof ⟨passed,was,required⟩
      obtain ⟨_,same⟩ := reads.unique _ _ _ _ _ _ read
      rw [← same] at checked
      exact deployment.recorded_live last system.now earlier proof jti iat _ _ fits reads start order checked
        (recorded proof required.1) t ahead ends fresh
    · obtain ⟨expiry,held,beyond⟩ := guarded.live other proof jti iat before reads t ahead ends fresh
      have order : system.now+deployment.offset ≤ t+deployment.offset := by
        change system.now ≤ t at ahead
        linarith
      exact ⟨expiry,keeps jti expiry (lt_of_le_of_lt order beyond) held,beyond⟩
  · intro first second proof one other
    obtain ⟨same,_,own,required⟩ | ⟨_,before⟩ := deployment.uses_advance system world call first _ proof one
    · obtain ⟨again,_⟩ | ⟨_,after⟩ := deployment.uses_advance system world call second _ proof other
      · rw [same,again]
      · cases own
        exact absurd after (alone second proof required)
    · obtain ⟨_,_,own,required⟩ | ⟨_,after⟩ := deployment.uses_advance system world call second _ proof other
      · cases own
        exact absurd before (alone first proof required)
      · exact guarded.single first second proof before after

theorem Guarded.advance (deployment : Deployment T) (last : T) (system : System T) (call : Nat) (stage : Stage)
    (world : World (InMemoryReplayStore T)) (guarded : deployment.Guarded last system)
    (valid : ∀ passed, stage = .checked passed → deployment.Checked system.now passed)
    (owned : ∀ passed, stage.used = some passed → (system.stage call).bind Stage.used = some passed)
    (keeps : KeepsLive (system.now+deployment.offset) system.world.store world.store) :
    deployment.Guarded last (system.advance world call stage) := by
  apply guarded.frame deployment last system (system.advance world call stage) (le_refl _)
  · intro other proof waiting
    obtain ⟨passed,own,required⟩ | before := deployment.awaits_advance system world call other _ proof waiting
    · exact Or.inr (valid passed own proof required)
    · exact Or.inl before
  · intro other proof used
    obtain ⟨same,passed,own,required⟩ | ⟨_,before⟩ :=
      deployment.uses_advance system world call other _ proof used
    · rw [same]
      exact ⟨passed,owned passed own,required⟩
    · exact before
  · exact keeps

theorem Guarded.step (deployment : Deployment T) (last : T) (event : Event T) (system next : System T)
    (fits : ⌊last⌋+deployment.config.proofWindow < 2^63) (guarded : deployment.Guarded last system)
    (bound : system.now ≤ last) (prompt : ¬deployment.Overdue event system)
    (move : deployment.Move system event next) : deployment.Guarded last next := by
  cases move with
  | stay => exact guarded
  | tick reading =>
    exact guarded.frame deployment last system {system with now := max system.now reading} (le_max_left _ _)
      (fun _ _ before => Or.inl before) (fun _ _ before => before) (keepsLive_same _ _ _ rfl)
  | checked call attempt passed world quiet valid =>
    apply guarded.advance deployment last system call _ world _ _ (keepsLive_same _ _ _ quiet)
    · intro other own
      cases own
      exact valid
    · intro other impossible
      cases impossible
  | ended _ call world keeps =>
    apply guarded.advance deployment last system call _ world _ _ keeps
    · intro other impossible
      cases impossible
    · intro other impossible
      cases impossible
  | marked call passed world was keeps recorded =>
    exact guarded.mark deployment last system call passed world fits bound prompt was keeps recorded
  | accepted call passed world was quiet =>
    apply guarded.advance deployment last system call _ world _ _ (keepsLive_same _ _ _ quiet)
    · intro other impossible
      cases impossible
    · intro other own
      rw [was]
      exact own

omit [IsStrictOrderedRing T] in
theorem step_later (deployment : Deployment T) (event : Event T) (system : System T) :
    system.now ≤ (deployment.step event system).now := by
  cases event with
  | tick reading => exact le_max_left _ _
  | check call attempt =>
    cases was : system.stage call with
    | some stage =>
      simp only [Deployment.step,was]
      exact le_refl _
    | none =>
      rw [check_begun deployment call attempt system was]
      unfold check
      split
      · exact le_refl _
      · exact le_refl _
  | mark call =>
    simp only [Deployment.step]
    split
    · exact le_refl _
    · exact le_refl _
  | finish call =>
    simp only [Deployment.step]
    split
    · exact le_refl _
    · exact le_refl _

omit [IsStrictOrderedRing T] in
theorem run_later (deployment : Deployment T) (events : List (Event T)) :
    ∀ system, system.now ≤ (deployment.run events system).now := by
  induction events with
  | nil => intro system; exact le_refl _
  | cons event rest ih =>
    intro system
    exact (deployment.step_later event system).trans (ih (deployment.step event system))

theorem run_guarded (deployment : Deployment T) (law : PayloadLaw deployment.crates)
    (closed : deployment.config.replayFailClosed = true) (last : T)
    (fits : ⌊last⌋+deployment.config.proofWindow < 2^63) (events : List (Event T)) :
    ∀ system, deployment.Guarded last system → deployment.Prompt events system →
      (deployment.run events system).now ≤ last → deployment.Guarded last (deployment.run events system) := by
  induction events with
  | nil =>
    intro system guarded _ _
    exact guarded
  | cons event rest ih =>
    intro system guarded prompt bound
    obtain ⟨now,later⟩ := prompt
    have before : system.now ≤ last := (deployment.run_later (event :: rest) system).trans bound
    have below : ⌊system.now⌋ ≤ ⌊last⌋ := Int.floor_le_floor before
    have clock := wall_clock system.now guarded.epoch (by omega)
    have move := deployment.step_moves law closed event system clock
    exact ih _ (guarded.step deployment last event system _ fits before now move) later bound

omit [IsStrictOrderedRing T] in
theorem guarded_idle (deployment : Deployment T) (last : T) (start : System T)
    (idle : ∀ call, start.stage call = none) (epoch : 0 ≤ start.now) : deployment.Guarded last start := by
  have unused : ∀ call proof, ¬deployment.Uses start call proof := by
    intro call proof used
    obtain ⟨passed,was,_⟩ := used
    rw [idle] at was
    cases was
  refine ⟨epoch,?_,?_,?_⟩
  · intro call proof waiting
    obtain ⟨passed,was,_⟩ := waiting
    rw [idle] at was
    cases was
  · intro call proof jti iat used
    exact absurd used (unused call proof)
  · intro first second proof used
    exact absurd used (unused first proof)

/-- In every interleaving without an overdue mark, a required proof is accepted at most once. -/
theorem single_use_of_prompt (deployment : Deployment T) (law : PayloadLaw deployment.crates)
    (closed : deployment.config.replayFailClosed = true) (start : System T)
    (idle : ∀ call, start.stage call = none) (epoch : 0 ≤ start.now) (events : List (Event T))
    (fits : ⌊(deployment.run events start).now⌋+deployment.config.proofWindow < 2^63)
    (prompt : deployment.Prompt events start) : deployment.SingleUse (deployment.run events start) := by
  have guarded := deployment.run_guarded law closed _ fits events start
    (deployment.guarded_idle _ start idle epoch) prompt (le_refl _)
  intro proof first second one other accepted again required needed
  apply guarded.single first second proof
  · refine ⟨one,?_,required⟩
    rw [accepted]
    rfl
  · refine ⟨other,?_,needed⟩
    rw [again]
    rfl

omit [IsStrictOrderedRing T] in
theorem mark_new (deployment : Deployment T) (system : System T) (call : Nat) (passed : Passed)
    (proof jti : String) (ttl : Nat) (next : InMemoryReplayStore T)
    (was : system.stage call = some (.checked passed)) (given : passed.attempt.req.dpop = some proof)
    (carried : proofJti deployment.crates proof = some jti)
    (read : deployment.config.replayTtl deployment.build = some ttl)
    (new : system.world.store.mark deployment.platform jti (ttl : T) (system.now+deployment.offset) =
      (.new,next)) :
    deployment.step (.mark call) system =
      system.advance ⟨next,system.world.calls ++ [.mark jti ttl]⟩ call (.marked passed) := by
  rw [mark_begun deployment call passed system was]
  apply mark_run deployment call passed system (.ok ())
  unfold replayStep
  rw [given]
  change checkReplay (deployment.env passed.attempt system.now) (deployment.settings passed.attempt) proof
    system.world = _
  have answer : (deployment.env passed.attempt system.now).replay.mark jti ttl system.world.store =
    (.new,next) := new
  refine (checkReplay_ok _ _ _ _ _ ()).mpr ⟨jti,ttl,carried,read,Or.inl (congrArg Prod.fst answer),?_⟩
  exact congrArg (fun marked => World.mk marked (system.world.calls ++ [.mark jti ttl]))
    (congrArg Prod.snd answer).symm

omit [IsStrictOrderedRing T] in
theorem finish_off (deployment : Deployment T) (system : System T) (call : Nat) (passed : Passed)
    (was : system.stage call = some (.marked passed)) (off : deployment.config.bidirectionalMode = .off) :
    deployment.step (.finish call) system = system.advance system.world call (.accepted passed) := by
  rw [finish_begun deployment call passed system was]
  apply finish_run deployment call passed system (.ok ())
  unfold checkBidirectional
  rw [if_pos (show (deployment.settings passed.attempt).bidirectionalMode = .off from off)]
  rfl

/-- A usable store with room lets an overdue mark pass, so that two calls are past their mark with
one required proof. -/
theorem overdue_mark_repeats (deployment : Deployment T) (event : Event T) (system : System T)
    (overdue : deployment.Overdue event system) (sound : system.world.store.poisoned = false)
    (room : ExpiryMap.size system.world.store.inner < system.world.store.cap deployment.platform)
    (width : 2*deployment.config.proofWindow+1 < 2^64)
    (fits : system.now+deployment.offset+((2*deployment.config.proofWindow+1 : Nat) : T) ≤
      deployment.platform.instantMax) :
    ∃ first second proof, first ≠ second ∧ deployment.Uses (deployment.step event system) first proof ∧
      deployment.Uses (deployment.step event system) second proof := by
  obtain ⟨call,other,proof,jti,iat,rfl,⟨passed,was,required⟩,reads,⟨user,used,needed⟩,_,dead⟩ := overdue
  have differs : other ≠ call := by
    intro same
    rw [same,was] at used
    cases used
  have positive : (0 : T) < ((2*deployment.config.proofWindow+1 : Nat) : T) := by
    push_cast
    positivity
  have can := InMemoryReplayStore.mark_step deployment.platform jti
    ((2*deployment.config.proofWindow+1 : Nat) : T) (system.now+deployment.offset) system.world.store
  generalize outcome : system.world.store.mark deployment.platform jti
    ((2*deployment.config.proofWindow+1 : Nat) : T) (system.now+deployment.offset) = result at can
  obtain ⟨reply,next⟩ := result
  have new : reply = .new := by
    cases can with
    | poisoned broken =>
      rw [sound] at broken
      cases broken
    | replay _ live => exact absurd live dead
    | unstored _ _ spent => exact absurd positive spent
    | full _ _ _ gate _ => exact absurd room (Nat.not_lt.mpr gate.2)
    | recorded => rfl
    | overflowed _ _ _ _ _ beyond => exact absurd fits beyond
  rw [new] at outcome
  rw [deployment.mark_new system call passed proof jti _ next was required.1 reads.jti
    (replayTtl_exact deployment.build deployment.config width) outcome]
  refine ⟨call,other,proof,Ne.symm differs,⟨passed,?_,required⟩,⟨user,?_,needed⟩⟩
  · rw [System.advance_stage]
    rfl
  · rw [System.advance_other _ _ _ _ _ differs]
    exact used

end Deployment

theorem Authentic.elsewhere {S R : Type} (env : Env S) (other : Env R) (config : VerifierConfig)
    (req : AuthRequest) (dpopScheme : Bool) (token issuer : String) (claims : Claims) (webId : String)
    (build : other.build = env.build) (crates : other.crates = env.crates)
    (keys : other.keysFor = env.keysFor) (tokenClock : other.tokenClock = env.tokenClock)
    (proofClock : other.proofClock = env.proofClock)
    (authentic : Authentic env config req dpopScheme token issuer claims webId) :
    Authentic other config req dpopScheme token issuer claims webId := by
  obtain ⟨_,_,_,_,_,_⟩ := env
  obtain ⟨_,_,_,_,_,_⟩ := other
  subst build crates keys tokenClock proofClock
  obtain ⟨⟨keys,served,verified⟩,accepted⟩ := authentic.access
  exact ⟨authentic.gate,authentic.routed,⟨⟨keys,served,verified⟩,
    ⟨accepted.required,accepted.issuer,accepted.audience,accepted.temporal⟩⟩,authentic.possession,
    authentic.webId,authentic.party⟩

def sampleAttempt : Attempt := ⟨sampleRequest,sampleEnv.keysFor,fun _ => .error "unreachable",some 1700000010⟩

def samplePassed : Passed :=
  ⟨sampleAttempt,⟨schemeName true,boundToken⟩,
    ⟨boundClaims,"https://idp.example","https://alice.example/card#me"⟩⟩

def sampleDeployment : Deployment ℚ :=
  ⟨⟨false,false⟩,sampleCrates,sampleConfig,InMemoryReplayStore.secondsPlatform,7⟩

def sampleStart : System ℚ := ⟨1700000010,⟨.withClock 2,[]⟩,fun _ => none⟩

theorem sampleDeployment_check (system : System ℚ) (call : Nat) (idle : system.stage call = none)
    (clock : system.now = 1700000010) :
    sampleDeployment.step (.check call sampleAttempt) system = system.advance
      {system.world with calls := system.world.calls ++ [.keysFor "https://idp.example"]} call
      (.checked samplePassed) := by
  have reading : (some ⌊system.now⌋₊ : Option Nat) = some 1700000010 := by
    rw [clock]
    norm_num
  have authentic := sampleRequest_authentic.elsewhere sampleEnv
    (sampleDeployment.env sampleAttempt system.now) sampleConfig sampleRequest true boundToken _ _ _ rfl rfl rfl
    rfl reading
  have presented := (parseAuthorization_some sampleCrates _ true boundToken).mpr sampleRequest_presents
  rw [Deployment.check_begun sampleDeployment call sampleAttempt system idle]
  exact Deployment.check_run sampleDeployment call sampleAttempt _ system (.ok _) _ presented
    ((authenticate_ok (sampleDeployment.env sampleAttempt system.now) sampleCrates_payload sampleConfig
      sampleRequest ⟨schemeName true,boundToken⟩ system.world _ samplePassed.authenticated).mpr
      ⟨⟨true,rfl,authentic⟩,rfl⟩)

def sampleChecked : System ℚ :=
  (sampleStart.advance ⟨.withClock 2,[.keysFor "https://idp.example"]⟩ 0 (.checked samplePassed)).advance
    ⟨.withClock 2,[.keysFor "https://idp.example",.keysFor "https://idp.example"]⟩ 1 (.checked samplePassed)

def sampleMarked : InMemoryReplayStore ℚ :=
  ((InMemoryReplayStore.withClock 2).mark InMemoryReplayStore.secondsPlatform "p1" ((611 : Nat) : ℚ)
    (1700000010+7)).2

def sampleAccepted : System ℚ :=
  (sampleChecked.advance ⟨sampleMarked,sampleChecked.world.calls ++ [.mark "p1" 611]⟩ 0
    (.marked samplePassed)).advance ⟨sampleMarked,sampleChecked.world.calls ++ [.mark "p1" 611]⟩ 0
      (.accepted samplePassed)

theorem sampleChecked_reached :
    sampleDeployment.run [.check 0 sampleAttempt,.check 1 sampleAttempt] sampleStart = sampleChecked := by
  have first := sampleDeployment_check sampleStart 0 rfl rfl
  have second := sampleDeployment_check
    (sampleStart.advance ⟨.withClock 2,[.keysFor "https://idp.example"]⟩ 0 (.checked samplePassed)) 1 rfl rfl
  change sampleDeployment.step (.check 1 sampleAttempt) (sampleDeployment.step (.check 0 sampleAttempt)
    sampleStart) = _
  rw [first]
  exact second

theorem sampleAccepted_reached :
    sampleDeployment.run [.mark 0,.finish 0] sampleChecked = sampleAccepted := by
  have new : (InMemoryReplayStore.withClock 2).mark InMemoryReplayStore.secondsPlatform "p1"
      ((611 : Nat) : ℚ) (1700000010+7) = (.new,sampleMarked) := Prod.ext (by decide +kernel) rfl
  have marked := sampleDeployment.mark_new sampleChecked 0 samplePassed sampleProof "p1" 611 sampleMarked rfl
    rfl sampleProof_jti (by decide) new
  change sampleDeployment.step (.finish 0) (sampleDeployment.step (.mark 0) sampleChecked) = _
  rw [marked]
  exact sampleDeployment.finish_off _ 0 samplePassed (System.advance_stage _ _ _ _) rfl

theorem sampleProof_reads : ProofReads sampleCrates sampleProof "p1" 1700000000 := by
  have payload : peekClaims sampleCrates sampleProof = some (sampleProofClaims [("htm",.string "GET")]) :=
    sampleToken_claims proofHeader proofPayload _ _ _ (List.mem_of_getElem? (i := 1) rfl)
      (List.mem_of_getElem? (i := 5) rfl) (List.cons_ne_nil _ _)
  exact ⟨_,payload,(presentStr_some _ _ _).mpr ⟨rfl,by decide⟩,rfl⟩

theorem sample_mark_prompt (system : System ℚ) (call : Nat) (clock : system.now = 1700000010)
    (was : system.stage call = some (.checked samplePassed)) :
    ¬sampleDeployment.Overdue (.mark call) system := by
  intro overdue
  obtain ⟨other,_,proof,jti,iat,same,⟨passed,stage,given,_⟩,reads,_,stale,_⟩ := overdue
  cases same
  rw [was] at stage
  cases stage
  have own : sampleProof = proof := Option.some.inj given
  rw [← own] at reads
  obtain ⟨_,issued⟩ := reads.unique _ _ _ _ _ _ sampleProof_reads
  apply stale
  rw [issued,clock]
  have reading : ⌊(1700000010 : ℚ)⌋ = 1700000010 := by norm_num
  rw [reading]
  exact sample_fresh

/-- The second of two calls that checked one proof marks it while it is fresh. -/
theorem sampleDeployment_single_use :
    sampleDeployment.SingleUse (sampleDeployment.run [.check 0 sampleAttempt,.check 1 sampleAttempt,.mark 0,
      .finish 0,.mark 1] sampleStart) := by
  have checked := sampleChecked_reached
  have accepted := sampleAccepted_reached
  simp only [Deployment.run] at checked accepted
  have clock : (sampleDeployment.run [.check 0 sampleAttempt,.check 1 sampleAttempt,.mark 0,.finish 0,
      .mark 1] sampleStart).now = 1700000010 := by
    simp only [Deployment.run,checked,accepted]
    rw [Deployment.mark_begun sampleDeployment 1 samplePassed sampleAccepted rfl]
    exact Deployment.mark_now sampleDeployment 1 samplePassed sampleAccepted
  apply sampleDeployment.single_use_of_prompt sampleCrates_payload rfl sampleStart (fun _ => rfl) (by decide +kernel)
  · rw [clock]
    have reading : ⌊(1700000010 : ℚ)⌋ = 1700000010 := by norm_num
    rw [reading]
    decide
  · have quiet : ∀ (event : Event ℚ) (system : System ℚ), (∀ call, event ≠ .mark call) →
        ¬sampleDeployment.Overdue event system := by
      intro event system other overdue
      obtain ⟨call,_,_,_,_,same,_⟩ := overdue
      exact other call same
    simp only [Deployment.Prompt,checked,accepted]
    exact ⟨quiet _ _ (by simp),quiet _ _ (by simp),sample_mark_prompt sampleChecked 0 rfl rfl,
      quiet _ _ (by simp),sample_mark_prompt sampleAccepted 1 rfl rfl,trivial⟩

/-- The second of two calls that checked one proof marks it after its `jti` has expired, and is accepted
like the first. -/
theorem stale_mark_accepts_again :
    let system := sampleDeployment.run [.check 0 sampleAttempt,.check 1 sampleAttempt,.mark 0,.finish 0,
      .tick 1700000621,.mark 1,.finish 1] sampleStart
    sampleDeployment.config.replayFailClosed = true ∧
      ⌊system.now⌋+sampleDeployment.config.proofWindow < 2^63 ∧ ¬sampleDeployment.SingleUse system := by
  intro system
  have checked := sampleChecked_reached
  have accepted := sampleAccepted_reached
  simp only [Deployment.run] at checked accepted
  let late : System ℚ := {sampleAccepted with now := 1700000621}
  have ticked : sampleDeployment.step (.tick 1700000621) sampleAccepted = late := by
    have later : max (1700000010 : ℚ) 1700000621 = 1700000621 := by norm_num
    exact congrArg (fun now => {sampleAccepted with now := now}) later
  have new : sampleMarked.mark InMemoryReplayStore.secondsPlatform "p1" ((611 : Nat) : ℚ)
      (1700000621+7) = (.new,(sampleMarked.mark InMemoryReplayStore.secondsPlatform "p1" ((611 : Nat) : ℚ)
        (1700000621+7)).2) := Prod.ext (by decide +kernel) rfl
  have marked := sampleDeployment.mark_new late 1 samplePassed sampleProof "p1" 611 _ rfl rfl sampleProof_jti
    (by decide) new
  have whole : system = (sampleDeployment.step (.finish 1) (sampleDeployment.step (.mark 1) late)) := by
    simp only [system,Deployment.run,checked,accepted,ticked]
  rw [marked,sampleDeployment.finish_off _ 1 samplePassed (System.advance_stage _ _ _ _) rfl] at whole
  rw [whole]
  refine ⟨rfl,?_,?_⟩
  · change ⌊(1700000621 : ℚ)⌋+sampleDeployment.config.proofWindow < 2^63
    have reading : ⌊(1700000621 : ℚ)⌋ = 1700000621 := by norm_num
    rw [reading]
    decide
  · intro single
    have same := single sampleProof 0 1 samplePassed samplePassed rfl rfl ⟨rfl,by decide⟩ ⟨rfl,by decide⟩
    cases same

end SolidOidcVerifier
