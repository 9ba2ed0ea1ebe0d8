import SolidOidcVerifier.Verifier

/-! The freshness window of a proof's `iat` in whole seconds, and the TTL of its `jti`. -/
namespace SolidOidcVerifier
open Foundation

def VerifierConfig.proofWindow (config : VerifierConfig) : Nat :=
  dpopProofMaxAgeSecs+config.clockToleranceSecs.toNat

theorem freshnessWidth_exact (build : Build) (config : VerifierConfig) (bound : config.proofWindow < 2^64) :
    config.freshnessWidth build = some config.proofWindow :=
  MachineInt.u64_exact build.overflowChecks _ bound

theorem replayTtl_exact (build : Build) (config : VerifierConfig) (bound : 2*config.proofWindow+1 < 2^64) :
    config.replayTtl build = some (2*config.proofWindow+1) := by
  have width := freshnessWidth_exact build config (by omega)
  have doubled := MachineInt.u64_exact build.overflowChecks (2*config.proofWindow) (by omega)
  have margin := MachineInt.u64_exact build.overflowChecks (2*config.proofWindow+1) bound
  simp only [VerifierConfig.replayTtl,width,doubled,margin,Option.bind_eq_bind,Option.bind_some]

def Fresh (build : Build) (config : VerifierConfig) (now iat : Int) : Prop :=
  ∃ width difference distance, config.freshnessWidth build = some width ∧
    MachineInt.i64 build.overflowChecks (now-iat) = some difference ∧
    MachineInt.absI64 build.overflowChecks difference = some distance ∧
    distance ≤ MachineInt.wrapI64 width

theorem checkFreshness_ok (build : Build) (config : VerifierConfig) (now iat : Int) (value : Unit) :
    checkFreshness build config now iat = .ok value ↔ Fresh build config now iat := by
  unfold checkFreshness Fresh
  simp only [Except.bind_ok,Except.orError_ok,arith_ok,rejectUnless_ok,not_lt,gt_iff_lt]
  constructor
  · intro run
    obtain ⟨width,read,difference,subtracted,distance,absolute,near⟩ := run
    exact ⟨width,difference,distance,read,subtracted,absolute,near⟩
  · intro fresh
    obtain ⟨width,difference,distance,read,subtracted,absolute,near⟩ := fresh
    exact ⟨width,read,difference,subtracted,distance,absolute,near⟩

theorem i64_cases (checks : Bool) (x y : Int) (read : MachineInt.i64 checks x = some y) :
    (MachineInt.InI64 x ∧ y = x) ∨ (¬MachineInt.InI64 x ∧ checks = false ∧ y = MachineInt.wrapI64 x) := by
  unfold MachineInt.i64 at read
  by_cases range : MachineInt.InI64 x
  · rw [if_pos range] at read
    exact Or.inl ⟨range,(Option.some.inj read).symm⟩
  · rw [if_neg range] at read
    cases checks with
    | true => cases read
    | false => exact Or.inr ⟨range,rfl,(Option.some.inj read).symm⟩

theorem fresh_exact (build : Build) (config : VerifierConfig) (now iat : Int)
    (width : config.proofWindow < 2^63) (range : -2^63 < now-iat ∧ now-iat < 2^63) :
    Fresh build config now iat ↔ |now-iat| ≤ config.proofWindow := by
  have read := freshnessWidth_exact build config (by omega)
  have inside : MachineInt.InI64 (now-iat) := ⟨by omega,range.2⟩
  have distance : MachineInt.InI64 |now-iat| := by
    unfold MachineInt.InI64
    have positive := abs_nonneg (now-iat)
    have below : |now-iat| < 2^63 := abs_lt.mpr ⟨by omega,range.2⟩
    omega
  have window : MachineInt.wrapI64 config.proofWindow = config.proofWindow :=
    MachineInt.wrapI64_exact _ ⟨by omega,by omega⟩
  unfold Fresh
  rw [read,MachineInt.i64_exact _ _ inside]
  constructor
  · intro fresh
    obtain ⟨_,_,reached,same,subtracted,absolute,near⟩ := fresh
    cases same
    cases subtracted
    rw [MachineInt.absI64,MachineInt.i64_exact _ _ distance] at absolute
    cases absolute
    rwa [window] at near
  · intro near
    refine ⟨_,_,|now-iat|,rfl,rfl,MachineInt.i64_exact _ _ distance,?_⟩
    rwa [window]

/-- Where the clock and the window together fit an `i64`, a proof is fresh within its window; without
overflow checks also at the one second `iat+2^63`, where the absolute value wraps. -/
theorem fresh_cases (build : Build) (config : VerifierConfig) (now iat : Int) (epoch : 0 ≤ now)
    (fits : now+config.proofWindow < 2^63) (range : MachineInt.InI64 iat)
    (fresh : Fresh build config now iat) : |now-iat| ≤ config.proofWindow ∨ now-iat = 2^63 := by
  by_cases inside : now-iat < 2^63
  · have lower : -2^63 < now-iat := by
      unfold MachineInt.InI64 at range
      omega
    exact Or.inl ((fresh_exact build config now iat (by omega) ⟨lower,inside⟩).mp fresh)
  · right
    obtain ⟨reached,difference,distance,same,subtracted,absolute,near⟩ := fresh
    rw [freshnessWidth_exact build config (by omega)] at same
    cases same
    rw [MachineInt.wrapI64_exact _ ⟨by omega,by omega⟩] at near
    have outside : ¬MachineInt.InI64 (now-iat) := by
      unfold MachineInt.InI64
      omega
    obtain ⟨absurdly,_⟩ | ⟨_,_,wrapped⟩ := i64_cases _ _ _ subtracted
    · exact absurd absurdly outside
    unfold MachineInt.InI64 at range
    have shifted : difference = now-iat-2^64 := by
      rw [wrapped]
      unfold MachineInt.wrapI64
      omega
    have negative : |difference| = 2^64-(now-iat) := by
      rw [abs_of_neg (by omega)]
      omega
    unfold MachineInt.absI64 at absolute
    obtain ⟨_,exact⟩ | ⟨beyond,_,_⟩ := i64_cases _ _ _ absolute
    · omega
    · unfold MachineInt.InI64 at beyond
      omega

/-- Two readings at which one proof is fresh are at most two windows apart. -/
theorem fresh_span (build : Build) (config : VerifierConfig) (first second iat : Int)
    (epochFirst : 0 ≤ first) (fitsFirst : first+config.proofWindow < 2^63) (epochSecond : 0 ≤ second)
    (fitsSecond : second+config.proofWindow < 2^63) (range : MachineInt.InI64 iat)
    (freshFirst : Fresh build config first iat) (freshSecond : Fresh build config second iat) :
    second-first ≤ 2*config.proofWindow := by
  obtain nearFirst | farFirst := fresh_cases build config first iat epochFirst fitsFirst range freshFirst
  · have boundFirst := abs_le.mp nearFirst
    obtain nearSecond | farSecond :=
      fresh_cases build config second iat epochSecond fitsSecond range freshSecond
    · have boundSecond := abs_le.mp nearSecond
      omega
    · omega
  · obtain nearSecond | farSecond :=
      fresh_cases build config second iat epochSecond fitsSecond range freshSecond
    · have boundSecond := abs_le.mp nearSecond
      omega
    · omega

end SolidOidcVerifier
