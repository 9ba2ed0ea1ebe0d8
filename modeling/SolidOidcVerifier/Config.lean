import SolidOidcVerifier.Foundation.MachineInt
import SolidOidcVerifier.Webid

/-! Verifier configuration. -/
namespace SolidOidcVerifier
open Foundation

def dpopProofMaxAgeSecs : Nat := 300

def defaultClockToleranceSecs : UInt64 := 5

structure VerifierConfig where
  trustedIssuers : List String
  webidClaim : String
  requireDpop : Bool
  allowMissingAth : Bool
  clockToleranceSecs : UInt64
  audience : String
  authorizedParties : List String
  bidirectionalMode : BidirectionalMode
  webidResolver : Option WebIdResolver
  replayFailClosed : Bool

namespace VerifierConfig

def new (trustedIssuers : List String) (audience : String) : VerifierConfig where
  trustedIssuers := trustedIssuers
  webidClaim := "webid"
  requireDpop := true
  allowMissingAth := false
  clockToleranceSecs := defaultClockToleranceSecs
  audience := audience
  authorizedParties := []
  bidirectionalMode := .off
  webidResolver := none
  replayFailClosed := true

/-- The `u64` sum of the maximal proof age and the tolerance; `none` is an overflow panic. -/
def freshnessWidth (build : Build) (config : VerifierConfig) : Option Nat :=
  MachineInt.u64 build.overflowChecks (dpopProofMaxAgeSecs+config.clockToleranceSecs.toNat)

/-- `replay_ttl` in whole seconds. -/
def replayTtl (build : Build) (config : VerifierConfig) : Option Nat := do
  let width ← config.freshnessWidth build
  let doubled ← MachineInt.u64 build.overflowChecks (2*width)
  MachineInt.u64 build.overflowChecks (doubled+1)

def validate (config : VerifierConfig) : Except String Unit := do
  ensure (config.trustedIssuers ≠ []) "at least one trusted issuer is required"
  ensure (config.audience ≠ "") "an audience (the resource server's identity) is required"
  ensure (¬((config.bidirectionalMode = .strict ∨ config.bidirectionalMode = .warn) ∧
      config.webidResolver.isNone))
    "bidirectional mode strict/warn requires a webid_resolver (use Off to disable the check)"

theorem validate_ok (config : VerifierConfig) :
    config.validate = .ok () ↔ config.trustedIssuers ≠ [] ∧ config.audience ≠ "" ∧
      (config.webidResolver.isNone → config.bidirectionalMode = .off) := by
  simp only [validate,Except.bind_ok,Except.ensure_ok,exists_const]
  cases config.bidirectionalMode <;> simp

end VerifierConfig

end SolidOidcVerifier
