import Mathlib

/-! Fixed-width integer arithmetic in the two build profiles: an overflow panics when the checks
are on and wraps otherwise. `none` is the panic. -/
namespace Foundation.MachineInt

def InI64 (x : Int) : Prop := -2^63 ≤ x ∧ x < 2^63

instance (x : Int) : Decidable (InI64 x) := by unfold InI64; infer_instance

/-- Reduction modulo `2^64` into the signed range; on an unsigned value, the cast to `i64`. -/
def wrapI64 (x : Int) : Int := (x+2^63) % 2^64 - 2^63

def i64 (checks : Bool) (x : Int) : Option Int :=
  if InI64 x then some x else if checks then none else some (wrapI64 x)

def u64 (checks : Bool) (x : Nat) : Option Nat :=
  if x < 2^64 then some x else if checks then none else some (x % 2^64)

/-- `i64::abs`. -/
def absI64 (checks : Bool) (x : Int) : Option Int := i64 checks |x|

theorem i64_exact (checks : Bool) (x : Int) (range : InI64 x) : i64 checks x = some x := if_pos range

theorem u64_exact (checks : Bool) (x : Nat) (range : x < 2^64) : u64 checks x = some x := if_pos range

theorem wrapI64_exact (x : Int) (range : InI64 x) : wrapI64 x = x := by
  unfold wrapI64 InI64 at *
  omega

theorem u64_lt (checks : Bool) (x y : Nat) (read : u64 checks x = some y) : y < 2^64 := by
  unfold u64 at read
  split at read
  case isTrue below =>
    cases read
    exact below
  case isFalse =>
    cases checks with
    | true => cases read
    | false =>
      cases read
      exact Nat.mod_lt x (by norm_num)

theorem u64_mod (checks : Bool) (x y : Nat) (read : u64 checks x = some y) : y = x % 2^64 := by
  unfold u64 at read
  split at read
  case isTrue below =>
    cases read
    exact (Nat.mod_eq_of_lt below).symm
  case isFalse =>
    cases checks with
    | true => cases read
    | false => exact (Option.some.inj read).symm

end Foundation.MachineInt
