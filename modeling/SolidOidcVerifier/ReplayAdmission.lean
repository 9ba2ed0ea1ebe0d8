import SolidOidcVerifier.ReplayIdeal
import SolidOidcVerifier.ServerSafety
import SolidOidcVerifier.SingleUse

/-! Which calls the replay store lets pass, told from the marks that the calls of a run made. What a mark
meets are the `jti`s that calls marked less than the TTL before, and nothing else of the run. -/
namespace SolidOidcVerifier
open Foundation

/-- The TTL is odd before and after any wrapping, so that every new mark is stored. -/
theorem replayTtl_positive (build : Build) (config : VerifierConfig) (ttl : Nat)
    (read : config.replayTtl build = some ttl) : 0 < ttl := by
  unfold VerifierConfig.replayTtl at read
  obtain ⟨width,_,rest⟩ := Option.bind_eq_some_iff.mp read
  obtain ⟨doubled,twice,margin⟩ := Option.bind_eq_some_iff.mp rest
  have even := MachineInt.u64_mod _ _ _ twice
  have odd := MachineInt.u64_mod _ _ _ margin
  omega

/-- A fresh store, and no call on it yet. -/
def System.fresh {T : Type} (maxEntries : Nat) (now : T) : System T :=
  ⟨now,⟨InMemoryReplayStore.withClock maxEntries,[]⟩,fun _ => none⟩

namespace Deployment

variable {T : Type} [Field T] [LinearOrder T] [FloorRing T]

/-- The event is the mark of a call that passed its checks, with this `jti`. -/
def Tries (deployment : Deployment T) (system : System T) (event : Event T) (call : Nat) (passed : Passed)
    (jti : String) : Prop :=
  event = .mark call ∧ system.stage call = some (.checked passed) ∧ ∃ proof, passed.attempt.req.dpop = some proof ∧
    proofJti deployment.crates proof = some jti

/-- At the instant, the call marked the `jti` of its proof and went on. -/
def MarkedAt (deployment : Deployment T) (start : System T) (call : Nat) (jti : String) (instant : T) :
    List (Event T) → Prop :=
  Happened fun before event => (deployment.run before start).now = instant ∧ ∃ passed,
    deployment.Tries (deployment.run before start) event call passed jti ∧
    (deployment.step event (deployment.run before start)).stage call = some (.marked passed)

/-- The `jti`s that were marked less than the TTL ago. -/
def recentMarks (deployment : Deployment T) (start : System T) (ttl : T) (events : List (Event T)) : Set String :=
  {jti | ∃ call instant, deployment.MarkedAt start call jti instant events ∧
    (deployment.run events start).now < instant+ttl}

/-- What a step does to the store. -/
inductive StoreMove (deployment : Deployment T) (ttl : Nat) (system : System T) (event : Event T) : System T → Prop
  | quiet (next) (same : next.world.store = system.world.store) (later : system.now ≤ next.now)
    (idle : ∀ call passed jti, ¬deployment.Tries system event call passed jti) :
    StoreMove deployment ttl system event next
  | tried (call passed jti world) (tries : deployment.Tries system event call passed jti)
    (stored : world.store = (system.world.store.mark deployment.platform jti (ttl : T)
      (system.now+deployment.offset)).2) :
    StoreMove deployment ttl system event (system.advance world call (.after (acceptReply deployment.config
      (system.world.store.mark deployment.platform jti (ttl : T) (system.now+deployment.offset)).1)
      fun _ => .marked passed))

theorem mark_stores (deployment : Deployment T) (ttl : Nat)
    (read : deployment.config.replayTtl deployment.build = some ttl) (call : Nat) (passed : Passed) (system : System T)
    (was : system.stage call = some (.checked passed)) :
    StoreMove deployment ttl system (.mark call) (deployment.step (.mark call) system) := by
  rw [mark_begun deployment call passed system was]
  have single : ∀ other held jti, deployment.Tries system (.mark call) other held jti → ∃ proof,
      passed.attempt.req.dpop = some proof ∧ proofJti deployment.crates proof = some jti := by
    intro other held jti tries
    obtain ⟨same,stage,proof,given,carried⟩ := tries
    cases same
    rw [was] at stage
    cases stage
    exact ⟨proof,given,carried⟩
  cases given : passed.attempt.req.dpop with
  | none =>
    have ran : replayStep (deployment.env passed.attempt system.now) (deployment.settings passed.attempt)
        passed.attempt.req system.world = (.ok (),system.world) := by
      unfold replayStep
      rw [given]
      rfl
    rw [mark_run deployment call passed system _ _ ran]
    refine .quiet _ rfl (le_refl _) ?_
    intro other held jti tries
    obtain ⟨proof,sent,_⟩ := single other held jti tries
    rw [given] at sent
    cases sent
  | some proof =>
    have ran : replayStep (deployment.env passed.attempt system.now) (deployment.settings passed.attempt)
        passed.attempt.req system.world = checkReplay (deployment.env passed.attempt system.now)
          (deployment.settings passed.attempt) proof system.world := by
      unfold replayStep
      rw [given]
    rw [checkReplay_run] at ran
    have window : (deployment.settings passed.attempt).replayTtl (deployment.env passed.attempt system.now).build =
        some ttl := read
    have same : (deployment.env passed.attempt system.now).crates = deployment.crates := rfl
    rw [window,same] at ran
    cases carried : proofJti deployment.crates proof with
    | none =>
      rw [carried] at ran
      rw [mark_run deployment call passed system _ _ ran]
      refine .quiet _ rfl (le_refl _) ?_
      intro other held jti tries
      obtain ⟨sent,presented,reads⟩ := single other held jti tries
      rw [given] at presented
      cases presented
      rw [carried] at reads
      cases reads
    | some jti =>
      rw [carried] at ran
      rw [mark_run deployment call passed system _ _ ran]
      exact .tried call passed jti _ ⟨rfl,was,proof,given,carried⟩ rfl

theorem step_stores (deployment : Deployment T) (ttl : Nat)
    (read : deployment.config.replayTtl deployment.build = some ttl) (event : Event T) (system : System T) :
    StoreMove deployment ttl system event (deployment.step event system) := by
  cases event with
  | tick reading =>
    refine .quiet _ rfl (le_max_left _ _) ?_
    intro call passed jti tries
    cases tries.1
  | check call attempt =>
    have quiet : (deployment.step (.check call attempt) system).world.store = system.world.store := by
      cases was : system.stage call with
      | some stage => simp only [step,was]
      | none =>
        rw [check_begun deployment call attempt system was]
        unfold check
        cases parseAuthorization deployment.crates attempt.req.authorization with
        | none => rfl
        | some parsed => exact (authenticate_marks_nothing _ _ _ _ _).1
    refine .quiet _ quiet (deployment.step_still _ system (by simp)).ge ?_
    intro other passed jti tries
    cases tries.1
  | mark call =>
    have stays : (∀ passed, system.stage call ≠ some (.checked passed)) → StoreMove deployment ttl system (.mark call) system := by
      intro unchecked
      refine .quiet _ rfl (le_refl _) ?_
      intro other passed jti tries
      obtain ⟨same,stage,_⟩ := tries
      cases same
      exact unchecked passed stage
    cases was : system.stage call with
    | none =>
      simp only [step,was]
      exact stays (by simp [was])
    | some stage =>
      cases stage with
      | checked passed => exact deployment.mark_stores ttl read call passed system was
      | _ =>
        simp only [step,was]
        exact stays (by simp [was])
  | finish call =>
    have quiet : (deployment.step (.finish call) system).world.store = system.world.store := by
      cases was : system.stage call with
      | none => simp only [step,was]
      | some stage =>
        cases stage with
        | marked passed =>
          rw [finish_begun deployment call passed system was]
          exact (checkBidirectional_marks_nothing _ _ _ _).1
        | _ => simp only [step,was]
    refine .quiet _ quiet (deployment.step_still _ system (by simp)).ge ?_
    intro other passed jti tries
    cases tries.1

/-- An ideal store that agrees with the store and remembers exactly the marks of the run. -/
structure Tracks (deployment : Deployment T) (start : System T) (cap : Nat) (ttl : T) (events : List (Event T))
    (system : System T) (ideal : IdealStore T) : Prop where
  agrees : InMemoryReplayStore.Agrees deployment.platform cap (system.now+deployment.offset) system.world.store ideal
  made : ∀ jti expiry, ideal.expiry jti = some expiry → ∃ call instant,
    deployment.MarkedAt start call jti instant events ∧ expiry = instant+deployment.offset+ttl
  kept : ∀ call jti instant, deployment.MarkedAt start call jti instant events → system.now < instant+ttl →
    ideal.expiry jti = some (instant+deployment.offset+ttl)

variable [IsStrictOrderedRing T]

omit [FloorRing T] in
theorem expiry_ahead (now offset instant ttl : T) : now+offset < instant+offset+ttl ↔ now < instant+ttl := by
  rw [add_right_comm instant offset ttl]
  exact add_lt_add_iff_right offset

theorem Tracks.live (deployment : Deployment T) (start : System T) (cap : Nat) (ttl : T) (events : List (Event T))
    (ideal : IdealStore T) (tracks : deployment.Tracks start cap ttl events (deployment.run events start) ideal)
    (jti : String) :
    ExpiryMap.Live ideal.expiry ((deployment.run events start).now+deployment.offset) jti ↔
      jti ∈ deployment.recentMarks start ttl events := by
  constructor
  · intro live
    obtain ⟨expiry,found,ahead⟩ := live
    obtain ⟨call,instant,marked,rfl⟩ := tracks.made jti expiry found
    exact ⟨call,instant,marked,(expiry_ahead _ _ _ _).mp ahead⟩
  · intro recent
    obtain ⟨call,instant,marked,ahead⟩ := recent
    exact ⟨_,tracks.kept call jti instant marked ahead,(expiry_ahead _ _ _ _).mpr ahead⟩

theorem Tracks.count (deployment : Deployment T) (start : System T) (cap : Nat) (ttl : T) (events : List (Event T))
    (ideal : IdealStore T) (tracks : deployment.Tracks start cap ttl events (deployment.run events start) ideal) :
    (ideal.liveKeys ((deployment.run events start).now+deployment.offset)).length =
      (deployment.recentMarks start ttl events).ncard := by
  have members : deployment.recentMarks start ttl events =
      ((ideal.liveKeys ((deployment.run events start).now+deployment.offset)).toFinset : Set String) := by
    ext jti
    rw [List.coe_toFinset,Set.mem_ofPred_eq,IdealStore.mem_liveKeys]
    exact (tracks.live deployment start cap ttl events ideal jti).symm
  have distinct : (ideal.liveKeys ((deployment.run events start).now+deployment.offset)).Nodup :=
    (List.nodup_dedup _).filter _
  rw [members,Set.ncard_coe_finset,List.toFinset_card_of_nodup distinct]

omit [IsStrictOrderedRing T] in
/-- An event that does not mark anew leaves what is remembered as it is. -/
theorem Tracks.unmarked (deployment : Deployment T) (start : System T) (cap : Nat) (ttl : T) (events : List (Event T))
    (event : Event T) (system next : System T) (ideal : IdealStore T)
    (tracks : deployment.Tracks start cap ttl events system ideal)
    (agrees : InMemoryReplayStore.Agrees deployment.platform cap (next.now+deployment.offset) next.world.store ideal)
    (later : system.now ≤ next.now) (same : ∀ call jti instant,
      deployment.MarkedAt start call jti instant (events ++ [event]) → deployment.MarkedAt start call jti instant events) :
    deployment.Tracks start cap ttl (events ++ [event]) next ideal := by
  refine ⟨agrees,?_,?_⟩
  · intro jti expiry found
    obtain ⟨call,instant,marked,ends⟩ := tracks.made jti expiry found
    exact ⟨call,instant,Happened.append _ _ _ marked,ends⟩
  · intro call jti instant marked ahead
    exact tracks.kept call jti instant (same call jti instant marked) (lt_of_le_of_lt later ahead)

omit [IsStrictOrderedRing T] in
theorem markedAt_earlier (deployment : Deployment T) (start : System T) (events : List (Event T)) (event : Event T)
    (unmarked : ∀ call passed jti, deployment.Tries (deployment.run events start) event call passed jti →
      (deployment.step event (deployment.run events start)).stage call ≠ some (.marked passed)) (call : Nat) (jti : String)
    (instant : T) (marked : deployment.MarkedAt start call jti instant (events ++ [event])) :
    deployment.MarkedAt start call jti instant events := by
  rcases (Happened.last_iff _ events event).mp marked with earlier | ⟨_,passed,tries,reached⟩
  · exact earlier
  · exact absurd reached (unmarked call passed jti tries)

omit [IsStrictOrderedRing T] in
theorem Tracks.quiet (deployment : Deployment T) (start : System T) (cap : Nat) (ttl : T) (events : List (Event T))
    (event : Event T) (ideal : IdealStore T)
    (tracks : deployment.Tracks start cap ttl events (deployment.run events start) ideal) (next : System T)
    (same : next.world.store = (deployment.run events start).world.store)
    (ordered : (deployment.run events start).now+deployment.offset ≤ next.now+deployment.offset)
    (later : (deployment.run events start).now ≤ next.now)
    (idle : ∀ call passed jti, ¬deployment.Tries (deployment.run events start) event call passed jti) :
    deployment.Tracks start cap ttl (events ++ [event]) next ideal := by
  have agrees := tracks.agrees.later deployment.platform cap _ ideal _ _ ordered
  rw [← same] at agrees
  apply tracks.unmarked deployment start cap ttl events event _ next ideal agrees later
  apply deployment.markedAt_earlier start events event
  intro call passed jti tries
  exact absurd tries (idle call passed jti)

/-- One mark that the ideal store takes too. -/
theorem Tracks.marked (deployment : Deployment T) (start : System T) (cap : Nat) (ttl : T) (events : List (Event T))
    (event : Event T) (system next : System T) (ideal : IdealStore T) (call : Nat) (jti : String)
    (tracks : deployment.Tracks start cap ttl events system ideal)
    (agrees : InMemoryReplayStore.Agrees deployment.platform cap (next.now+deployment.offset) next.world.store
      ((jti,system.now+deployment.offset+ttl) :: ideal)) (still : next.now = system.now)
    (dead : ¬ExpiryMap.Live ideal.expiry (system.now+deployment.offset) jti)
    (marked : deployment.MarkedAt start call jti system.now (events ++ [event]))
    (only : ∀ other again instant, deployment.MarkedAt start other again instant (events ++ [event]) →
      (again = jti ∧ instant = system.now) ∨ deployment.MarkedAt start other again instant events) :
    deployment.Tracks start cap ttl (events ++ [event]) next ((jti,system.now+deployment.offset+ttl) :: ideal) := by
  refine ⟨agrees,?_,?_⟩
  · intro other expiry found
    rw [IdealStore.expiry_cons] at found
    by_cases same : other = jti
    · rw [if_pos same] at found
      rw [same]
      exact ⟨call,system.now,marked,(Option.some.inj found).symm⟩
    · rw [if_neg same] at found
      obtain ⟨caller,instant,earlier,ends⟩ := tracks.made other expiry found
      exact ⟨caller,instant,Happened.append _ _ _ earlier,ends⟩
  · intro other again instant made ahead
    rw [still] at ahead
    rw [IdealStore.expiry_cons]
    rcases only other again instant made with ⟨rfl,rfl⟩ | earlier
    · rw [if_pos rfl]
    · have held := tracks.kept other again instant earlier ahead
      by_cases same : again = jti
      · rw [same] at held
        exact absurd ⟨_,held,(expiry_ahead _ _ _ _).mpr ahead⟩ dead
      · rw [if_neg same]
        exact held

omit [IsStrictOrderedRing T] [Field T] [LinearOrder T] [FloorRing T] in
theorem Tries.unique (deployment : Deployment T) (system : System T) (event : Event T) (call other : Nat)
    (passed held : Passed) (jti again : String) (tries : deployment.Tries system event call passed jti)
    (second : deployment.Tries system event other held again) : other = call ∧ held = passed ∧ again = jti := by
  obtain ⟨rfl,was,proof,given,carried⟩ := tries
  obtain ⟨same,stage,presented,sent,reads⟩ := second
  cases same
  rw [was] at stage
  cases stage
  rw [given] at sent
  cases sent
  rw [carried] at reads
  exact ⟨rfl,rfl,(Option.some.inj reads).symm⟩

omit [IsStrictOrderedRing T] [Field T] [LinearOrder T] [FloorRing T] in
theorem after_marked (deployment : Deployment T) (closed : deployment.config.replayFailClosed = true) (passed : Passed)
    (reply : MarkReply) :
    Stage.after (acceptReply deployment.config reply) (fun _ => .marked passed) = .marked passed ↔ reply = .new := by
  cases reply with
  | new => simp [acceptReply,Stage.after]
  | replay => simp [acceptReply,Stage.after]
  | backendError text => simp [acceptReply,Stage.after,closed]
  | panicked => simp [acceptReply,Stage.after]

theorem step_tracks (deployment : Deployment T) (closed : deployment.config.replayFailClosed = true) (ttl : Nat)
    (read : deployment.config.replayTtl deployment.build = some ttl) (start : System T) (cap : Nat)
    (events : List (Event T)) (event : Event T) (ideal : IdealStore T)
    (tracks : deployment.Tracks start cap (ttl : T) events (deployment.run events start) ideal)
    (fits : (deployment.run events start).now+deployment.offset+ttl ≤ deployment.platform.instantMax) :
    ∃ next, deployment.Tracks start cap (ttl : T) (events ++ [event])
      (deployment.step event (deployment.run events start)) next := by
  have moved := deployment.step_stores ttl read event (deployment.run events start)
  generalize result : deployment.step event (deployment.run events start) = after at moved
  cases moved with
  | quiet next same later idle =>
    exact ⟨ideal,tracks.quiet deployment start cap _ events event ideal _ same (add_le_add_left later _) later idle⟩
  | tried call passed jti world tries stored =>
    obtain ⟨answer,agrees⟩ := tracks.agrees.mark deployment.platform cap _ ideal jti (ttl : T) _ fun _ => fits
    have reached := congrArg (fun system => system.stage call) result
    simp only [System.advance_stage] at reached
    rw [← stored] at agrees
    have outcome := deployment.after_marked closed passed (ideal.mark cap jti (ttl : T)
      ((deployment.run events start).now+deployment.offset)).1
    rw [← answer] at outcome
    generalize Stage.after (acceptReply deployment.config _) _ = stage at reached outcome ⊢
    have turnedAway : (ideal.mark cap jti (ttl : T) ((deployment.run events start).now+deployment.offset)).2 = ideal →
        (ideal.mark cap jti (ttl : T) ((deployment.run events start).now+deployment.offset)).1 ≠ .new →
        ∃ next, deployment.Tracks start cap (ttl : T) (events ++ [event])
          ((deployment.run events start).advance world call stage) next := by
      intro unchanged refused
      rw [unchanged] at agrees
      refine ⟨ideal,tracks.unmarked deployment start cap _ events event _ _ ideal agrees (le_refl _) ?_⟩
      apply deployment.markedAt_earlier start events event
      intro other held again second marked
      obtain ⟨rfl,rfl,rfl⟩ := tries.unique deployment _ event call other passed held jti again second
      rw [reached] at marked
      exact refused (answer ▸ outcome.mp (Option.some.inj marked))
    have ahead : (0 : T) < ttl := Nat.cast_pos.mpr (replayTtl_positive _ _ _ read)
    by_cases live : ExpiryMap.Live ideal.expiry ((deployment.run events start).now+deployment.offset) jti
    · apply turnedAway
      · simp only [IdealStore.mark,if_pos live]
      · simp only [IdealStore.mark,if_pos live,ne_eq,reduceCtorEq,not_false_eq_true]
    · by_cases crowded : cap ≤ (ideal.liveKeys ((deployment.run events start).now+deployment.offset)).length
      · apply turnedAway
        · simp only [IdealStore.mark,if_neg live,if_pos ahead,if_pos crowded]
        · simp only [IdealStore.mark,if_neg live,if_pos ahead,if_pos crowded,ne_eq,reduceCtorEq,not_false_eq_true]
      · have new : ideal.mark cap jti (ttl : T) ((deployment.run events start).now+deployment.offset) =
            (.new,(jti,(deployment.run events start).now+deployment.offset+ttl) :: ideal) := by
          simp only [IdealStore.mark,if_neg live,if_pos ahead,if_neg crowded]
        rw [new] at answer agrees
        have marked := reached.trans (congrArg some (outcome.mpr answer))
        refine ⟨_,tracks.marked deployment start cap _ events event _ _ ideal call jti agrees rfl live ?_ ?_⟩
        · exact Happened.last _ _ _ ⟨rfl,passed,tries,marked⟩
        · intro other again instant made
          rcases (Happened.last_iff _ events event).mp made with earlier | ⟨now,held,second,_⟩
          · exact Or.inr earlier
          · obtain ⟨_,_,rfl⟩ := tries.unique deployment _ event call other passed held jti again second
            exact Or.inl ⟨rfl,now.symm⟩

theorem run_tracks (deployment : Deployment T) (closed : deployment.config.replayFailClosed = true) (ttl : Nat)
    (read : deployment.config.replayTtl deployment.build = some ttl) (maxEntries : Nat) (now : T)
    (events : List (Event T)) :
    (deployment.run events (.fresh maxEntries now)).now+deployment.offset+ttl ≤ deployment.platform.instantMax →
      ∃ ideal, deployment.Tracks (.fresh maxEntries now) (min maxEntries deployment.platform.usizeMax) (ttl : T) events
        (deployment.run events (.fresh maxEntries now)) ideal := by
  induction events using List.reverseRecOn with
  | nil =>
    intro _
    refine ⟨[],⟨rfl,rfl,Nat.zero_le _,?_⟩,?_,?_⟩
    · intro jti instant _
      constructor
      · intro found
        cases found
      · intro found
        cases found
    · intro jti expiry found
      cases found
    · intro call jti instant marked
      obtain ⟨before,event,after,same,_⟩ := marked
      simp at same
  | append_singleton events event ih =>
    intro fits
    rw [← run_history,History.run_last,run_history] at fits ⊢
    have earlier : (deployment.run events (.fresh maxEntries now)).now+deployment.offset+ttl ≤
        deployment.platform.instantMax := by
      refine le_trans ?_ fits
      exact add_le_add_left (add_le_add_left (deployment.step_later event _) _) _
    obtain ⟨ideal,tracks⟩ := ih earlier
    exact deployment.step_tracks closed ttl read _ _ events event ideal tracks earlier

/-- A call with a proof passes its mark if and only if no call marked the same `jti` less than the TTL before
and fewer than the capacity of the store marked anything then. -/
theorem marked_iff_unused (deployment : Deployment T) (closed : deployment.config.replayFailClosed = true) (ttl : Nat)
    (read : deployment.config.replayTtl deployment.build = some ttl) (maxEntries : Nat) (now : T)
    (events : List (Event T)) (call : Nat) (passed : Passed) (proof jti : String)
    (fits : (deployment.run events (.fresh maxEntries now)).now+deployment.offset+ttl ≤ deployment.platform.instantMax)
    (was : (deployment.run events (.fresh maxEntries now)).stage call = some (.checked passed))
    (given : passed.attempt.req.dpop = some proof) (carried : proofJti deployment.crates proof = some jti) :
    (deployment.run (events ++ [.mark call]) (.fresh maxEntries now)).stage call = some (.marked passed) ↔
      jti ∉ deployment.recentMarks (.fresh maxEntries now) (ttl : T) events ∧
        (deployment.recentMarks (.fresh maxEntries now) (ttl : T) events).ncard <
          min maxEntries deployment.platform.usizeMax := by
  obtain ⟨ideal,tracks⟩ := deployment.run_tracks closed ttl read maxEntries now events fits
  rw [← tracks.live deployment _ _ _ events ideal,← tracks.count deployment _ _ _ events ideal,← run_history,
    History.run_last,run_history]
  generalize System.fresh maxEntries now = start at tracks was fits ⊢
  have tries : deployment.Tries (deployment.run events start) (.mark call) call passed jti :=
    ⟨rfl,was,proof,given,carried⟩
  have moved := deployment.step_stores ttl read (.mark call) (deployment.run events start)
  generalize deployment.step (.mark call) (deployment.run events start) = after at moved
  cases moved with
  | quiet next same later idle => exact absurd tries (idle call passed jti)
  | tried other held again world second stored =>
    obtain ⟨rfl,rfl,rfl⟩ := tries.unique deployment _ _ call other passed held jti again second
    rw [System.advance_stage,Option.some.injEq,deployment.after_marked closed,
      (tracks.agrees.mark deployment.platform _ _ ideal again (ttl : T) _ fun _ => fits).1]
    have ahead : (0 : T) < ttl := Nat.cast_pos.mpr (replayTtl_positive _ _ _ read)
    simp only [IdealStore.mark,if_pos ahead]
    by_cases live : ExpiryMap.Live ideal.expiry ((deployment.run events start).now+deployment.offset) again
    · simp [live]
    · by_cases crowded : min maxEntries deployment.platform.usizeMax ≤
          (ideal.liveKeys ((deployment.run events start).now+deployment.offset)).length
      · simp only [if_neg live,if_pos crowded,reduceCtorEq,false_iff,not_and,Nat.not_lt]
        exact fun _ => crowded
      · simp only [if_neg live,if_neg crowded,true_iff]
        exact ⟨live,Nat.lt_of_not_le crowded⟩

end Deployment

/-- Two calls check one proof before either marks it. -/
def sampleChecks : List (Event ℚ) := [.check 0 sampleAttempt,.check 1 sampleAttempt]

/-- The first of the two passes, so nothing had been marked; the second does not, as the first has marked it. -/
theorem marked_iff_unused_sample :
    "p1" ∉ sampleDeployment.recentMarks (.fresh 2 1700000010) ((611 : Nat) : ℚ) sampleChecks ∧
      "p1" ∈ sampleDeployment.recentMarks (.fresh 2 1700000010) ((611 : Nat) : ℚ) (sampleChecks ++ [.mark 0]) ∧
      (sampleDeployment.run (sampleChecks ++ [.mark 0] ++ [.mark 1]) (.fresh 2 1700000010)).stage 1 ≠
        some (.marked samplePassed) := by
  have reached : sampleDeployment.run sampleChecks (.fresh 2 1700000010) = sampleChecked := sampleChecked_reached
  have new : (InMemoryReplayStore.withClock 2).mark InMemoryReplayStore.secondsPlatform "p1"
      ((611 : Nat) : ℚ) (1700000010+7) = (.new,sampleMarked) := Prod.ext (by decide +kernel) rfl
  have marked := sampleDeployment.mark_new sampleChecked 0 samplePassed sampleProof "p1" 611 sampleMarked rfl
    rfl sampleProof_jti (by decide) new
  have after : sampleDeployment.run (sampleChecks ++ [.mark 0]) (.fresh 2 1700000010) =
      sampleChecked.advance ⟨sampleMarked,sampleChecked.world.calls ++ [.mark "p1" 611]⟩ 0 (.marked samplePassed) := by
    rw [← Deployment.run_history,History.run_last,Deployment.run_history,reached,marked]
  have passes : (sampleDeployment.step (.mark 0) sampleChecked).stage 0 = some (.marked samplePassed) := by
    rw [marked]
    exact System.advance_stage _ _ _ _
  have made : sampleDeployment.MarkedAt (.fresh 2 1700000010) 0 "p1" 1700000010 (sampleChecks ++ [.mark 0]) := by
    apply Happened.last
    rw [reached]
    exact ⟨rfl,samplePassed,⟨rfl,rfl,sampleProof,rfl,sampleProof_jti⟩,passes⟩
  have recent : "p1" ∈ sampleDeployment.recentMarks (.fresh 2 1700000010) ((611 : Nat) : ℚ)
      (sampleChecks ++ [.mark 0]) := by
    refine ⟨0,1700000010,made,?_⟩
    rw [after]
    decide +kernel
  refine ⟨?_,recent,?_⟩
  · have first := sampleDeployment.marked_iff_unused rfl 611 (by decide) 2 1700000010 sampleChecks 0 samplePassed
      sampleProof "p1" (by rw [reached]; decide +kernel) (by rw [reached]; rfl) rfl sampleProof_jti
    refine (first.mp ?_).1
    rw [after]
    exact System.advance_stage _ _ _ _
  · have second := sampleDeployment.marked_iff_unused rfl 611 (by decide) 2 1700000010 (sampleChecks ++ [.mark 0]) 1
      samplePassed sampleProof "p1" (by rw [after]; decide +kernel) (by rw [after]; rfl) rfl sampleProof_jti
    intro passed
    exact (second.mp passed).1 recent

end SolidOidcVerifier
