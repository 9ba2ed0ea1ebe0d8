import SolidOidcVerifier.Freshness
import SolidOidcVerifier.Replay

/-! A recorded `jti` stays live until its instant of expiry, which lies past the last instant at
which its proof is acceptable. -/
namespace SolidOidcVerifier
open Foundation

namespace InMemoryReplayStore

section retention

variable {T : Type} [LinearOrder T] [Add T] [Zero T]

def Holds (jti : String) (expiry : T) (store : InMemoryReplayStore T) : Prop :=
  store.poisoned = false ∧ store.inner.lookup jti = some expiry

theorem mark_new_holds (platform : Platform T) (jti : String) (ttl now : T)
    (before marked : InMemoryReplayStore T) (ahead : 0 < ttl)
    (new : before.mark platform jti ttl now = (.new,marked)) : marked.Holds jti (now+ttl) := by
  have can := mark_step platform jti ttl now before
  rw [new] at can
  cases can with
  | unstored sound dead spent => exact absurd ahead spent
  | recorded room sound dead _ made fits =>
    refine ⟨?_,AList.lookup_insert _⟩
    obtain ⟨_,same⟩ | ⟨_,same,_⟩ := made
    · rw [same]
      exact sound
    · rw [same]
      exact sound

theorem run_holds (platform : Platform T) (jti : String) (expiry : T) (ops : List (Operation T))
    (store : InMemoryReplayStore T) (before : ∀ op ∈ ops, op.now < expiry)
    (representable : ∀ op ∈ ops, op.Representable platform) (held : store.Holds jti expiry) :
    (run platform ops store).2.Holds jti expiry := by
  apply Mealy.run_keeps (step platform) (Holds jti expiry)
    (fun op => op.now < expiry ∧ op.Representable platform)
  · intro op reached allowed holds
    exact ⟨step_keeps_sound platform op reached allowed.2 holds.1,
      step_keeps_live platform op reached jti expiry allowed.1 holds.2⟩
  · intro op member
    exact ⟨before op member,representable op member⟩
  · exact held

end retention

section answers

variable {T : Type} [LinearOrder T]

theorem Holds.contains (jti : String) (expiry now : T) (store : InMemoryReplayStore T)
    (held : store.Holds jti expiry) (ahead : now < expiry) : store.contains jti now = .ok true := by
  have live : ExpiryMap.Live store.inner.lookup now jti := ⟨expiry,held.2,ahead⟩
  unfold InMemoryReplayStore.contains
  rw [held.1]
  simp [live]

variable [Add T] [Zero T]

theorem Holds.replay (platform : Platform T) (jti : String) (expiry ttl now : T)
    (store : InMemoryReplayStore T) (held : store.Holds jti expiry) (ahead : now < expiry) :
    store.mark platform jti ttl now = (.replay,store) := by
  have live : ExpiryMap.Live store.inner.lookup now jti := ⟨expiry,held.2,ahead⟩
  unfold InMemoryReplayStore.mark
  rw [held.1,if_neg (by simp),if_pos live]

end answers

variable {T : Type} [Field T] [LinearOrder T] [IsStrictOrderedRing T] [FloorRing T]

/-- The extra second of the TTL covers the part of the last acceptable second. -/
theorem expiry_past_window (window : Nat) (a m t offset : T) (span : ⌊t⌋-⌊a⌋ ≤ 2*window)
    (later : a ≤ m) : t+offset < m+offset+((2*window+1 : Nat) : T) := by
  have above : t < ⌊t⌋+1 := Int.lt_floor_add_one t
  have below : (⌊a⌋ : T) ≤ a := Int.floor_le a
  have span : (⌊t⌋ : T)-⌊a⌋ ≤ 2*window := by exact_mod_cast span
  push_cast
  linarith

/-- A `jti` that a mark recorded stays recorded at every later instant at which its proof is
acceptable, whatever else happens to the store. -/
theorem retained_while_acceptable (platform : Platform T) (build : Build) (config : VerifierConfig)
    (jti : String) (iat : Int) (ttl : Nat) (a m t offset : T) (before marked : InMemoryReplayStore T)
    (ops : List (Operation T)) (exact : 2*config.proofWindow+1 < 2^64)
    (read : config.replayTtl build = some ttl) (accepted : |⌊a⌋-iat| ≤ config.proofWindow) (later : a ≤ m)
    (new : before.mark platform jti (ttl : T) (m+offset) = (.new,marked))
    (clock : ∀ op ∈ ops, op.now ≤ t+offset) (representable : ∀ op ∈ ops, op.Representable platform)
    (acceptable : |⌊t⌋-iat| ≤ config.proofWindow) :
    (run platform ops marked).2.contains jti (t+offset) = .ok true ∧
      ∀ other, ((run platform ops marked).2.mark platform jti other (t+offset)).1 = .replay := by
  rw [replayTtl_exact build config exact] at read
  cases read
  have first := abs_le.mp accepted
  have last := abs_le.mp acceptable
  have ahead := expiry_past_window config.proofWindow a m t offset (by omega) later
  have positive : (0 : T) < ((2*config.proofWindow+1 : Nat) : T) := by
    push_cast
    positivity
  have recorded := mark_new_holds platform jti _ (m+offset) before marked positive new
  have held := run_holds platform jti _ ops marked
    (fun op member => lt_of_le_of_lt (clock op member) ahead) representable recorded
  refine ⟨held.contains jti _ (t+offset) _ ahead,?_⟩
  intro other
  rw [held.replay platform jti _ other (t+offset) _ ahead]

/-- Seconds on a 64-bit target whose instants hold `i64` seconds and nanoseconds. -/
def secondsPlatform : Platform ℚ := ⟨2^64-1,2^63-1+999999999/10^9⟩

theorem retained_with_traffic :
    let marked := ((withClock 2).mark secondsPlatform "p" ((611 : Nat) : ℚ) (1001+7)).2
    let later := (run secondsPlatform [.mark "q" 5 1009,.contains "p" 1010,.mark "r" 5 1014] marked).2
    later.contains "p" (1305+9/10+7) = .ok true ∧
      ∀ other, (later.mark secondsPlatform "p" other (1305+9/10+7)).1 = .replay :=
  retained_while_acceptable secondsPlatform ⟨false,false⟩
    (VerifierConfig.new ["https://idp.example"] "https://rs.example") "p" 1000 611
    (1000+1/2) 1001 (1305+9/10) 7 (withClock 2) _ [.mark "q" 5 1009,.contains "p" 1010,.mark "r" 5 1014]
    (by decide) (by decide) (by decide +kernel) (by norm_num) (Prod.ext (by decide +kernel) rfl)
    (by decide +kernel) (by decide +kernel) (by decide +kernel)

/-- Marking another `jti` with the longest `Duration` panics, and the poisoned mutex fails the
probe of a recorded one while its proof is still acceptable. -/
theorem another_mark_poisons :
    let config := VerifierConfig.new ["https://idp.example"] "https://rs.example"
    let first := (withClock 100000).mark secondsPlatform "p" ((611 : Nat) : ℚ) 0
    let later := (run secondsPlatform [.mark "q" (2^64-1+999999999/10^9) 1] first.2).2
    config.replayTtl ⟨false,false⟩ = some 611 ∧ |⌊(0 : ℚ)⌋-0| ≤ config.proofWindow ∧ first.1 = .new ∧
      |⌊(1 : ℚ)⌋-0| ≤ config.proofWindow ∧ later.contains "p" 1 = .error poisonedError ∧
      (later.mark secondsPlatform "p" 611 1).1 = .backendError poisonedError := by
  decide +kernel

end InMemoryReplayStore

end SolidOidcVerifier
