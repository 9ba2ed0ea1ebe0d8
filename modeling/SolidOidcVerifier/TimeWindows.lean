import SolidOidcVerifier.AccessToken
import SolidOidcVerifier.Freshness

/-! The time windows in exact integers: where the machine arithmetic of the checks agrees with them, and
where it overflows or a boundary is on the wrong side. -/
namespace SolidOidcVerifier
open Foundation

theorem checkFreshness_answers (build : Build) (config : VerifierConfig) (now iat : Int)
    (width : config.proofWindow < 2^63) (inside : MachineInt.InI64 (now-iat))
    (distance : MachineInt.InI64 |now-iat|) : checkFreshness build config now iat ≠ .error .panicked := by
  unfold checkFreshness MachineInt.absI64
  rw [freshnessWidth_exact build config (by omega),MachineInt.i64_exact _ _ inside]
  change (arith (MachineInt.i64 build.overflowChecks |now-iat|) >>= fun distance => _) ≠ _
  rw [MachineInt.i64_exact _ _ distance]
  change rejectUnless _ _ ≠ _
  unfold rejectUnless ensure
  split <;> simp

/-- The freshness check computes the mathematical distance, answers, and decides by the distance. -/
structure ExactFreshness (build : Build) (config : VerifierConfig) (now iat : Int) : Prop where
  difference : MachineInt.i64 build.overflowChecks (now-iat) = some (now-iat)
  distance : MachineInt.absI64 build.overflowChecks (now-iat) = some |now-iat|
  answers : checkFreshness build config now iat ≠ .error .panicked
  decision : checkFreshness build config now iat = .ok () ↔ |now-iat| ≤ config.proofWindow

theorem i64_exact_iff (checks : Bool) (x : Int) : MachineInt.i64 checks x = some x ↔ MachineInt.InI64 x := by
  constructor
  · intro exact
    obtain ⟨inside,_⟩ | ⟨_,_,wrapped⟩ := i64_cases checks x x exact
    · exact inside
    · rw [wrapped]
      unfold MachineInt.wrapI64 MachineInt.InI64
      omega
  · exact MachineInt.i64_exact checks x

/-- The check is exact where the age of the `iat` fits an `i64`. -/
theorem freshness_exact_iff (build : Build) (config : VerifierConfig) (claims : Claims) (now iat : Int)
    (epoch : 0 ≤ now) (clock : now < 2^63) (issued : claims.i64 "iat" = some iat)
    (fits : config.proofWindow < 2^63) : ExactFreshness build config now iat ↔ now-iat < 2^63 := by
  have range := claims.i64_range "iat" iat issued
  unfold MachineInt.InI64 at range
  constructor
  · intro exact
    exact ((i64_exact_iff _ _).mp exact.difference).2
  · intro age
    have inside : MachineInt.InI64 (now-iat) := ⟨by omega,age⟩
    have bound : |now-iat| < 2^63 := abs_lt.mpr ⟨by omega,age⟩
    have distance : MachineInt.InI64 |now-iat| := ⟨by have := abs_nonneg (now-iat); omega,bound⟩
    refine ⟨MachineInt.i64_exact _ _ inside,MachineInt.i64_exact _ _ distance,?_,?_⟩
    · exact checkFreshness_answers build config now iat fits inside distance
    · rw [checkFreshness_ok]
      exact fresh_exact build config now iat fits ⟨by omega,age⟩

def farIat : Claims := [("iat",.number (.negInt (1700000000-2^63) (by omega) (by omega)))]

theorem freshness_exact_recent :
    ExactFreshness ⟨false,true⟩ (.new ["https://idp.example"] "https://rs.example") 1700000000 1699999999 :=
  (freshness_exact_iff ⟨false,true⟩ _ [("iat",.number (.posInt 1699999999 (by omega)))] 1700000000 1699999999
    (by omega) (by omega) rfl (by decide)).mpr (by omega)

/-- A proof dated `2^63` seconds back is fresh in a release build and panics a checked one. -/
theorem freshness_overflows :
    farIat.i64 "iat" = some (1700000000-2^63) ∧
      checkFreshness ⟨false,false⟩ (.new ["https://idp.example"] "https://rs.example") 1700000000
        (1700000000-2^63) = .ok () ∧
      ¬|(1700000000-(1700000000-2^63) : Int)| ≤
        (VerifierConfig.new ["https://idp.example"] "https://rs.example").proofWindow ∧
      checkFreshness ⟨false,true⟩ (.new ["https://idp.example"] "https://rs.example") 1700000000
        (1700000000-2^63) = .error .panicked := by
  refine ⟨rfl,?_,by decide,?_⟩
  · decide +kernel
  · decide +kernel

def Number.value : Number → ℚ
  | .posInt n _ => n
  | .negInt n _ _ => n
  | .float value => value

theorem Number.value_of_i64 (number : Number) (n : Int) (read : number.asI64 = some n) : number.value = n := by
  cases number with
  | posInt m bound =>
    simp only [Number.asI64,Option.ite_none_right_eq_some,Option.some.injEq] at read
    rw [← read.2]
    simp [Number.value]
  | negInt m low negative =>
    cases read
    rfl
  | float value => cases read

/-- The `nbf` member, if there is one, is a number that the clock has reached up to the tolerance. -/
def NotBefore (config : VerifierConfig) (now : Int) (claims : Claims) : Prop :=
  ∀ value, claims.get "nbf" = some value → ∃ n : Number, value = .number n ∧
    n.value ≤ now+config.clockToleranceSecs.toNat

theorem latest_le (checks : Bool) (now latest : Int) (tol : UInt64) (clock : MachineInt.InI64 now)
    (read : MachineInt.i64 checks (now+MachineInt.wrapI64 tol.toNat) = some latest) : latest ≤ now+tol.toNat := by
  have small := tol.toNat_lt
  unfold MachineInt.InI64 at clock
  obtain ⟨_,same⟩ | ⟨outside,_,wrapped⟩ := i64_cases checks _ latest read
  · rw [same]
    unfold MachineInt.wrapI64
    omega
  · rw [wrapped]
    unfold MachineInt.InI64 MachineInt.wrapI64 at outside
    unfold MachineInt.wrapI64
    omega

theorem nowSecs_range (clock : Option Nat) : MachineInt.InI64 (nowSecs clock) := by
  unfold nowSecs MachineInt.InI64
  cases clock with
  | none => decide
  | some secs =>
    simp only [MachineInt.wrapI64]
    omega

/-- Of an accepted token, the not-before claim was honoured where it can be read as an `i64`; any other
value is ignored. -/
theorem nbf_honoured_iff (build : Build) (config : VerifierConfig) (clock : Option Nat) (claims : Claims)
    (accepted : checkTemporal build config (nowSecs clock) claims = .ok ()) :
    NotBefore config (nowSecs clock) claims ↔ claims.get "nbf" = none ∨ (∃ nbf, claims.i64 "nbf" = some nbf) ∨
      ∃ n : Number, claims.get "nbf" = some (.number n) ∧ n.asI64 = none ∧
        n.value ≤ nowSecs clock+config.clockToleranceSecs.toNat := by
  obtain ⟨exp,iat,temporal⟩ := (checkTemporal_ok build config _ claims ()).mp accepted
  unfold NotBefore
  constructor
  · intro honoured
    cases present : claims.get "nbf" with
    | none => exact Or.inl rfl
    | some value =>
      obtain ⟨n,same,reached⟩ := honoured value present
      right
      cases read : n.asI64 with
      | none => exact Or.inr ⟨n,by rw [same],read,reached⟩
      | some nbf =>
        left
        refine ⟨nbf,?_⟩
        unfold Claims.i64
        rw [present,same]
        exact read
  · intro readable value present
    obtain absent | ⟨nbf,integer⟩ | ⟨n,number,_,reached⟩ := readable
    · rw [absent] at present
      cases present
    · obtain ⟨latest,read,begun⟩ := temporal.begun nbf integer
      have bound := latest_le _ _ latest _ (nowSecs_range clock) read
      unfold Claims.i64 at integer
      rw [present] at integer
      cases value with
      | number n =>
        refine ⟨n,rfl,?_⟩
        rw [n.value_of_i64 nbf integer]
        have exact : nbf ≤ nowSecs clock+config.clockToleranceSecs.toNat := begun.trans bound
        exact_mod_cast exact
      | _ => cases integer
    · rw [number] at present
      cases present
      exact ⟨n,rfl,reached⟩

section window

variable (build : Build) (config : VerifierConfig) (now : Int) (claims : Claims)

def Begun : Prop := ∀ nbf, claims.i64 "nbf" = some nbf → nbf ≤ now+config.clockToleranceSecs.toNat

/-- The temporal check computes the mathematical values that it gets to, answers, and decides by them;
a token is expired from `exp` on, later by the tolerance. -/
structure ExactWindow (exp iat : Int) : Prop where
  earliest : MachineInt.i64 build.overflowChecks (now-config.clockToleranceSecs.toNat) =
    some (now-config.clockToleranceSecs.toNat)
  latest : MachineInt.i64 build.overflowChecks (now+config.clockToleranceSecs.toNat) =
    some (now+config.clockToleranceSecs.toNat)
  least : now-config.clockToleranceSecs.toNat ≤ exp → Begun config now claims →
    MachineInt.i64 build.overflowChecks (iat-config.clockToleranceSecs.toNat) =
      some (iat-config.clockToleranceSecs.toNat)
  answers : checkTemporal build config now claims ≠ .error .panicked
  decision : checkTemporal build config now claims = .ok () ↔ now < exp+config.clockToleranceSecs.toNat ∧
    Begun config now claims ∧ iat ≤ now+config.clockToleranceSecs.toNat

theorem rejectUnless_answers (condition : Prop) [Decidable condition] (error : VerifyError) :
    rejectUnless condition error ≠ .error .panicked := by
  unfold rejectUnless ensure
  split <;> simp

variable (exp iat : Int) (epoch : 0 ≤ now) (recent : now ≤ 2^40)
  (bounded : config.clockToleranceSecs.toNat ≤ 2^31)

include bounded in
theorem tolerance_exact : MachineInt.wrapI64 config.clockToleranceSecs.toNat = config.clockToleranceSecs.toNat :=
  MachineInt.wrapI64_exact _ ⟨by omega,by omega⟩

include epoch recent bounded

theorem clock_exact : MachineInt.InI64 (now-config.clockToleranceSecs.toNat) ∧
    MachineInt.InI64 (now+config.clockToleranceSecs.toNat) :=
  ⟨⟨by omega,by omega⟩,⟨by omega,by omega⟩⟩

theorem checkTemporal_accepts (expiry : claims.i64 "exp" = some exp) (issued : claims.i64 "iat" = some iat) :
    checkTemporal build config now claims = .ok () ↔ now ≤ exp+config.clockToleranceSecs.toNat ∧
      Begun config now claims ∧ ∃ least, MachineInt.i64 build.overflowChecks
        (iat-config.clockToleranceSecs.toNat) = some least ∧ least ≤ now := by
  obtain ⟨earlier,later⟩ := clock_exact config now epoch recent bounded
  have tolerance := tolerance_exact config bounded
  rw [checkTemporal_ok]
  constructor
  · intro temporal
    obtain ⟨_,_,temporal⟩ := temporal
    have sameExp := temporal.expiry
    have sameIat := temporal.issued
    rw [expiry] at sameExp
    rw [issued] at sameIat
    cases sameExp
    cases sameIat
    obtain ⟨_,subtracted,unexpired⟩ := temporal.unexpired
    rw [tolerance,MachineInt.i64_exact _ _ earlier] at subtracted
    cases subtracted
    refine ⟨by omega,?_,?_⟩
    · intro nbf present
      obtain ⟨_,added,begun⟩ := temporal.begun nbf present
      rw [tolerance,MachineInt.i64_exact _ _ later] at added
      cases added
      exact begun
    · have past := temporal.past
      rwa [tolerance] at past
  · intro rule
    obtain ⟨unexpired,begun,past⟩ := rule
    have early : now-config.clockToleranceSecs.toNat ≤ exp := by omega
    refine ⟨exp,iat,expiry,?_,?_,issued,?_⟩
    · rw [tolerance]
      exact ⟨_,MachineInt.i64_exact _ _ earlier,early⟩
    · intro nbf present
      rw [tolerance]
      exact ⟨_,MachineInt.i64_exact _ _ later,begun nbf present⟩
    · rwa [tolerance]

theorem checkTemporal_answers (expiry : claims.i64 "exp" = some exp) (issued : claims.i64 "iat" = some iat)
    (least : now-config.clockToleranceSecs.toNat ≤ exp → Begun config now claims →
      MachineInt.InI64 (iat-config.clockToleranceSecs.toNat)) :
    checkTemporal build config now claims ≠ .error .panicked := by
  obtain ⟨earlier,later⟩ := clock_exact config now epoch recent bounded
  have tolerance := tolerance_exact config bounded
  unfold checkTemporal
  rw [tolerance]
  intro panicked
  rw [Except.bind_error] at panicked
  obtain expired | ⟨_,unexpired,panicked⟩ := panicked
  · unfold checkExp at expired
    rw [expiry,MachineInt.i64_exact _ _ earlier] at expired
    exact rejectUnless_answers _ _ expired
  rw [Except.bind_error] at panicked
  obtain waiting | ⟨_,begun,future⟩ := panicked
  · unfold checkNbf at waiting
    cases present : claims.i64 "nbf" with
    | none =>
      rw [present] at waiting
      cases waiting
    | some nbf =>
      rw [present,MachineInt.i64_exact _ _ later] at waiting
      exact rejectUnless_answers _ _ waiting
  obtain ⟨_,found,_,subtracted,early⟩ := (checkExp_ok build now _ claims _).mp unexpired
  rw [expiry] at found
  cases found
  rw [MachineInt.i64_exact _ _ earlier] at subtracted
  cases subtracted
  have reached : Begun config now claims := by
    intro nbf present
    obtain ⟨_,added,bound⟩ := (checkNbf_ok build now _ claims _).mp begun nbf present
    rw [MachineInt.i64_exact _ _ later] at added
    cases added
    exact bound
  unfold checkIat at future
  rw [issued] at future
  dsimp only at future
  rw [MachineInt.i64_exact _ _ (least early reached)] at future
  exact rejectUnless_answers _ _ future

/-- The check is exact except on the boundary second of `exp`, which it lets through, and for an `iat` so
far back that the tolerance cannot be subtracted. -/
theorem temporal_exact_iff (expiry : claims.i64 "exp" = some exp) (issued : claims.i64 "iat" = some iat) :
    ExactWindow build config now claims exp iat ↔
      (now ≤ exp+config.clockToleranceSecs.toNat → Begun config now claims →
        -2^63 ≤ iat-config.clockToleranceSecs.toNat ∧
          (now = exp+config.clockToleranceSecs.toNat → now+config.clockToleranceSecs.toNat < iat)) := by
  obtain ⟨earlier,later⟩ := clock_exact config now epoch recent bounded
  have range := claims.i64_range "iat" iat issued
  have accepts := checkTemporal_accepts build config now claims exp iat epoch recent bounded expiry issued
  constructor
  · intro exact unexpired begun
    have subtracted := exact.least (by omega) begun
    have inside := (i64_exact_iff _ _).mp subtracted
    refine ⟨inside.1,?_⟩
    intro boundary
    by_contra past
    have accepted := accepts.mpr ⟨unexpired,begun,_,subtracted,by omega⟩
    have strictly := (exact.decision.mp accepted).1
    omega
  · intro condition
    have least : now-config.clockToleranceSecs.toNat ≤ exp → Begun config now claims →
        MachineInt.InI64 (iat-config.clockToleranceSecs.toNat) := by
      intro unexpired begun
      unfold MachineInt.InI64 at range
      exact ⟨(condition (by omega) begun).1,by omega⟩
    refine ⟨MachineInt.i64_exact _ _ earlier,MachineInt.i64_exact _ _ later,?_,?_,?_⟩
    · intro unexpired begun
      exact MachineInt.i64_exact _ _ (least unexpired begun)
    · exact checkTemporal_answers build config now claims exp iat epoch recent bounded expiry issued least
    · rw [accepts]
      constructor
      · intro accepted
        obtain ⟨unexpired,begun,_,subtracted,past⟩ := accepted
        rw [MachineInt.i64_exact _ _ (least (by omega) begun)] at subtracted
        cases subtracted
        have boundary := (condition unexpired begun).2
        exact ⟨by omega,begun,by omega⟩
      · intro accepted
        obtain ⟨unexpired,begun,past⟩ := accepted
        exact ⟨by omega,begun,_,MachineInt.i64_exact _ _ (least (by omega) begun),by omega⟩

end window

def secondClaims (exp iat : Nat) (small : exp < 2^64 ∧ iat < 2^64) : Claims :=
  [("exp",.number (.posInt exp small.1)),("iat",.number (.posInt iat small.2))]

def defaultConfig : VerifierConfig := .new ["https://idp.example"] "https://rs.example"

theorem temporal_exact_sample :
    ExactWindow ⟨false,true⟩ defaultConfig 1700000004 (secondClaims 1700000000 1699999000 (by omega)) 1700000000
      1699999000 :=
  (temporal_exact_iff ⟨false,true⟩ defaultConfig 1700000004 _ 1700000000 1699999000 (by omega) (by omega)
    (by decide) rfl rfl).mpr (by
      intro _ _
      have tolerance : defaultConfig.clockToleranceSecs.toNat = 5 := rfl
      rw [tolerance]
      omega)

def farClaims : Claims :=
  [("exp",.number (.posInt 1700000000 (by omega))),("iat",.number (.negInt (-2^63) (by omega) (by omega)))]

/-- At the second `exp+tolerance` a token still passes; an `iat` at the low end of `i64` panics a checked
build and is refused as lying in the future by a release build. -/
theorem expiry_boundary_accepted :
    checkTemporal ⟨false,false⟩ defaultConfig 1700000005 (secondClaims 1700000000 1699999000 (by omega)) = .ok () ∧
      ¬(1700000005 : Int) < 1700000000+defaultConfig.clockToleranceSecs.toNat ∧
      checkTemporal ⟨false,true⟩ defaultConfig 1699999999 farClaims = .error .panicked ∧
      checkTemporal ⟨false,false⟩ defaultConfig 1699999999 farClaims =
        .error (.rejected (invalidToken "Access token verification failed: iat in the future.")) := by
  refine ⟨?_,by decide,?_,?_⟩
  · decide +kernel
  · decide +kernel
  · decide +kernel

def fractionalClaims : Claims :=
  [("exp",.number (.posInt 1700000000 (by omega))),("iat",.number (.posInt 1699999000 (by omega))),
    ("nbf",.number (.float (5000000001/2)))]

/-- A fractional `nbf` that lies decades ahead is ignored. -/
theorem fractional_nbf_ignored :
    checkTemporal ⟨false,false⟩ defaultConfig (nowSecs (some 1699999999)) fractionalClaims = .ok () ∧
      ¬NotBefore defaultConfig (nowSecs (some 1699999999)) fractionalClaims := by
  refine ⟨by decide +kernel,?_⟩
  intro honoured
  obtain ⟨n,same,reached⟩ := honoured _ rfl
  cases same
  have tolerance : defaultConfig.clockToleranceSecs.toNat = 5 := rfl
  have clock : nowSecs (some 1699999999) = 1699999999 := by decide
  rw [tolerance,clock] at reached
  norm_num [Number.value] at reached

def begunClaims : Claims :=
  [("exp",.number (.posInt 1700000000 (by omega))),("iat",.number (.posInt 1699999000 (by omega))),
    ("nbf",.number (.posInt 1700000004 (by omega)))]

/-- An `nbf` that lies ahead by the tolerance. -/
theorem nbf_honoured_sample : NotBefore defaultConfig (nowSecs (some 1699999999)) begunClaims :=
  (nbf_honoured_iff ⟨false,false⟩ defaultConfig (some 1699999999) begunClaims (by decide +kernel)).mpr
    (Or.inr (Or.inl ⟨1700000004,rfl⟩))

end SolidOidcVerifier
