import SolidOidcVerifier.ReplayRetention

/-! The clock tolerance in the four places that compute with it: the freshness window, the token's time
claims, the TTL of a replay mark and its instant of expiry. `validate` sets it no bound. -/
namespace SolidOidcVerifier
open Foundation

variable {T : Type} [LinearOrder T] [Add T] [Zero T]

namespace InMemoryReplayStore

theorem mark_answers (platform : Platform T) (jti : String) (ttl now : T) (store : InMemoryReplayStore T)
    (fits : now+ttl ≤ platform.instantMax) : (store.mark platform jti ttl now).1 ≠ .panicked := by
  generalize outcome : store.mark platform jti ttl now = result
  have can := mark_step platform jti ttl now store
  rw [outcome] at can
  obtain ⟨reply,next⟩ := result
  intro panicked
  cases can with
  | overflowed room sound dead ahead made beyond => exact beyond fits
  | _ => cases panicked

end InMemoryReplayStore

variable [NatCast T]

/-- All of the arithmetic is exact at the reading `now` of the monotonic clock. -/
structure ExactTolerance (build : Build) (platform : Platform T) (now : T) (config : VerifierConfig) : Prop where
  width : config.freshnessWidth build = some config.proofWindow
  window : MachineInt.wrapI64 config.proofWindow = config.proofWindow ∧ 0 < MachineInt.wrapI64 config.proofWindow
  tolerance : 0 ≤ MachineInt.wrapI64 config.clockToleranceSecs.toNat
  ttl : config.replayTtl build = some (2*config.proofWindow+1)
  covers : ∀ ttl, config.replayTtl build = some ttl → ∀ iat first last : Int,
    |first-iat| ≤ MachineInt.wrapI64 config.proofWindow → |last-iat| ≤ MachineInt.wrapI64 config.proofWindow →
    last-first < ttl
  expiry : ∀ ttl, config.replayTtl build = some ttl → now+(ttl : T) ≤ platform.instantMax
  marks : ∀ ttl, config.replayTtl build = some ttl → ∀ jti (store : InMemoryReplayStore T), store.poisoned = false →
    (store.mark platform jti (ttl : T) now).1 ≠ .panicked ∧ (store.mark platform jti (ttl : T) now).2.poisoned = false

theorem proofWindow_eq (config : VerifierConfig) : config.proofWindow = 300+config.clockToleranceSecs.toNat := rfl

/-- Of the four overflows that of the doubled window comes first, together with the cast of the window. -/
theorem replayTtl_exact_iff (build : Build) (config : VerifierConfig) :
    config.replayTtl build = some (2*config.proofWindow+1) ↔ config.clockToleranceSecs.toNat ≤ 2^63-301 := by
  have window := proofWindow_eq config
  constructor
  · intro exact
    by_contra wide
    simp only [VerifierConfig.replayTtl,Option.bind_eq_bind,Option.bind_eq_some_iff] at exact
    obtain ⟨width,_,doubled,_,last⟩ := exact
    have below := MachineInt.u64_lt _ _ _ last
    omega
  · intro bounded
    exact replayTtl_exact build config (by omega)

theorem tolerance_exact_iff (build : Build) (platform : Platform T) (now : T) (config : VerifierConfig) :
    ExactTolerance build platform now config ↔ config.clockToleranceSecs.toNat ≤ 2^63-301 ∧
      now+((2*(dpopProofMaxAgeSecs+config.clockToleranceSecs.toNat)+1 : Nat) : T) ≤ platform.instantMax := by
  have window := proofWindow_eq config
  constructor
  · intro exact
    exact ⟨(replayTtl_exact_iff build config).mp exact.ttl,exact.expiry _ exact.ttl⟩
  · intro condition
    obtain ⟨bounded,fits⟩ := condition
    have ttl := (replayTtl_exact_iff build config).mpr bounded
    have cast : MachineInt.wrapI64 config.proofWindow = config.proofWindow :=
      MachineInt.wrapI64_exact _ ⟨by omega,by omega⟩
    have tolerance : MachineInt.wrapI64 config.clockToleranceSecs.toNat = config.clockToleranceSecs.toNat :=
      MachineInt.wrapI64_exact _ ⟨by omega,by omega⟩
    refine ⟨freshnessWidth_exact build config (by omega),⟨cast,by omega⟩,by omega,ttl,?_,?_,?_⟩
    · intro read found iat first last near still
      cases ttl.symm.trans found
      rw [cast] at near still
      have early := abs_le.mp near
      have late := abs_le.mp still
      push_cast
      omega
    · intro read found
      cases ttl.symm.trans found
      exact fits
    · intro read found jti store sound
      cases ttl.symm.trans found
      exact ⟨store.mark_answers platform jti _ now fits,
        InMemoryReplayStore.step_keeps_sound platform (.mark jti _ now) store (fun _ => fits) sound⟩

def tolerantConfig (secs : UInt64) : VerifierConfig :=
  {VerifierConfig.new ["https://idp.example"] "https://rs.example" with clockToleranceSecs := secs}

/-- The largest tolerance wraps in a release build and panics a checked one, and is negative as an `i64`;
one of `2^62` seconds poisons the store at the first mark. -/
theorem tolerance_overflows :
    (tolerantConfig 18446744073709551615).validate = .ok () ∧
    (tolerantConfig 18446744073709551615).freshnessWidth ⟨false,false⟩ = some 299 ∧
    (tolerantConfig 18446744073709551615).freshnessWidth ⟨false,true⟩ = none ∧
    MachineInt.wrapI64 (tolerantConfig 18446744073709551615).clockToleranceSecs.toNat = -1 ∧
    (tolerantConfig 18446744073709551615).replayTtl ⟨false,false⟩ = some 599 ∧
    (tolerantConfig 4611686018427387904).validate = .ok () ∧
    (tolerantConfig 4611686018427387904).replayTtl ⟨false,false⟩ = some (2^63+601) ∧
    ((InMemoryReplayStore.withClock 100000).mark InMemoryReplayStore.secondsPlatform "p" ((2^63+601 : Nat) : ℚ) 0).1 =
      .panicked ∧
    ((InMemoryReplayStore.withClock 100000).mark InMemoryReplayStore.secondsPlatform "p" ((2^63+601 : Nat) : ℚ)
      0).2.poisoned = true := by
  refine ⟨rfl,?_,?_,?_,?_,rfl,?_,?_,?_⟩
  all_goals decide +kernel

end SolidOidcVerifier
