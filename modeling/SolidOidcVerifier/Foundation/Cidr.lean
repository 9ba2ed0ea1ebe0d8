import Mathlib

/-! Blocks of addresses that share their leading bits. -/
namespace Foundation

structure Cidr (w : Nat) where
  base : BitVec w
  len : Nat
deriving DecidableEq,Repr

namespace Cidr

variable {w : Nat}

/-- The leading bits of the address are those of the base. -/
def Contains (block : Cidr w) (address : BitVec w) : Prop :=
  ∀ i < block.len, address.getMsbD i = block.base.getMsbD i

instance (block : Cidr w) (address : BitVec w) : Decidable (block.Contains address) :=
  inferInstanceAs (Decidable (∀ i < block.len, address.getMsbD i = block.base.getMsbD i))

theorem msb_testBit (address : BitVec w) (i : Nat) (inside : i < w) :
    address.getMsbD i = address.toNat.testBit (w-1-i) := by
  rw [BitVec.getMsbD_eq_getLsbD,decide_eq_true inside,Bool.true_and]
  rfl

theorem contains_iff (block : Cidr w) (address : BitVec w) (short : block.len ≤ w) :
    block.Contains address ↔ address.toNat/2^(w-block.len) = block.base.toNat/2^(w-block.len) := by
  constructor
  · intro shared
    apply Nat.eq_of_testBit_eq
    intro j
    rw [Nat.testBit_div_two_pow,Nat.testBit_div_two_pow]
    by_cases inside : j+(w-block.len) < w
    · have bit := shared (w-1-(j+(w-block.len))) (by omega)
      rw [msb_testBit _ _ (by omega),msb_testBit _ _ (by omega)] at bit
      have place : w-1-(w-1-(j+(w-block.len))) = j+(w-block.len) := by omega
      rw [place] at bit
      exact bit
    · have beyond : 2^w ≤ 2^(j+(w-block.len)) := Nat.pow_le_pow_right (by omega) (by omega)
      rw [Nat.testBit_lt_two_pow (address.isLt.trans_le beyond),
        Nat.testBit_lt_two_pow (block.base.isLt.trans_le beyond)]
  · intro same i leading
    rw [msb_testBit _ _ (by omega),msb_testBit _ _ (by omega)]
    have bit := congrArg (fun n => n.testBit (w-1-i-(w-block.len))) same
    simp only [Nat.testBit_div_two_pow] at bit
    have place : w-1-i-(w-block.len)+(w-block.len) = w-1-i := by omega
    rw [place] at bit
    exact bit

end Cidr

theorem and_high_mask (w low x : Nat) (small : x < 2^w) (fits : low ≤ w) :
    x &&& (2^w-2^low) = x/2^low*2^low := by
  have mask : 2^w-2^low = (2^(w-low)-1)*2^low := by
    rw [Nat.sub_mul,one_mul,← pow_add,Nat.sub_add_cancel fits]
  apply Nat.eq_of_testBit_eq
  intro j
  rw [mask,Nat.testBit_and,← Nat.shiftLeft_eq,← Nat.shiftLeft_eq,Nat.testBit_shiftLeft,Nat.testBit_shiftLeft,
    Nat.testBit_two_pow_sub_one,Nat.testBit_div_two_pow]
  by_cases high : low ≤ j
  · have place : j-low+low = j := by omega
    by_cases inside : j < w
    · have below : j-low < w-low := by omega
      simp [high,below,place]
    · have beyond : 2^w ≤ 2^j := Nat.pow_le_pow_right (by omega) (by omega)
      simp [place,Nat.testBit_lt_two_pow (small.trans_le beyond)]
  · simp [high]

/-- The number that words of sixteen bits write, the highest first. -/
def wordsNumber : List UInt16 → Nat
  | [] => 0
  | word :: rest => word.toNat*2^(16*rest.length)+wordsNumber rest

theorem wordsNumber_lt (words : List UInt16) : wordsNumber words < 2^(16*words.length) := by
  induction words with
  | nil => decide
  | cons word rest ih =>
    have bound := word.toNat_lt
    have room : (word.toNat+1)*2^(16*rest.length) ≤ 2^16*2^(16*rest.length) :=
      Nat.mul_le_mul_right _ bound
    rw [wordsNumber,List.length_cons,Nat.mul_add,Nat.add_comm (16*rest.length),pow_add]
    rw [Nat.add_mul] at room
    omega

theorem wordsNumber_digit (value count : Nat) (word : UInt16) (rest : List UInt16) (behind : rest.length = count)
    (leading : word.toNat = value/2^(16*count) % 2^16) (low : wordsNumber rest = value % 2^(16*count)) :
    wordsNumber (word :: rest) = value % 2^(16*(count+1)) := by
  rw [wordsNumber,behind,leading,low,Nat.mul_add,pow_add,Nat.mul_one,Nat.mod_mul,Nat.add_comm,Nat.mul_comm (2^_)]

theorem foldl_words {w : Nat} (words : List UInt16) (found : Nat) (bits : BitVec w) (count : Nat)
    (fits : 16*(count+words.length) ≤ w) (small : found < 2^(16*count)) (value : bits.toNat = found) :
    (words.foldl (fun (bits : BitVec w) word => (bits <<< 16) ||| word.toBitVec.setWidth w) bits).toNat =
      found*2^(16*words.length)+wordsNumber words := by
  induction words generalizing found bits count with
  | nil => simp [value,wordsNumber]
  | cons word rest ih =>
    rw [List.foldl_cons]
    rw [List.length_cons] at fits
    have wordSmall := word.toNat_lt
    have step : found*2^16+word.toNat < 2^(16*(count+1)) := by
      rw [Nat.mul_add,pow_add]
      omega
    have whole : 2^(16*(count+1)) ≤ 2^w := Nat.pow_le_pow_right (by omega) (by omega)
    have shifted : found <<< 16 % 2^w = found <<< 16 := by
      apply Nat.mod_eq_of_lt
      rw [Nat.shiftLeft_eq]
      exact (Nat.le_add_right _ _).trans_lt (step.trans_le whole)
    have narrow : word.toNat % 2^w = word.toNat := by
      have wide : 2^16 ≤ 2^w := Nat.pow_le_pow_right (by omega) (by omega)
      exact Nat.mod_eq_of_lt (by omega)
    have next : ((bits <<< 16) ||| word.toBitVec.setWidth w).toNat = found*2^16+word.toNat := by
      rw [BitVec.toNat_or,BitVec.toNat_shiftLeft,BitVec.toNat_setWidth,value,UInt16.toNat_toBitVec,shifted,narrow,
        ← Nat.shiftLeft_add_eq_or_of_lt (by omega),Nat.shiftLeft_eq]
    rw [ih _ _ (count+1) (by omega) step next,wordsNumber,List.length_cons,Nat.mul_add,Nat.mul_one,pow_add]
    ring

theorem leading_cons (word other : Nat) (rest tail width low : Nat) (fits : low ≤ width)
    (restSmall : rest < 2^width) (tailSmall : tail < 2^width) :
    (word*2^width+rest)/2^low = (other*2^width+tail)/2^low ↔ word = other ∧ rest/2^low = tail/2^low := by
  have split : 2^width = 2^(width-low)*2^low := by rw [← pow_add,Nat.sub_add_cancel fits]
  have positive : 0 < 2^low := Nat.two_pow_pos low
  have front : ∀ first second : Nat, (first*2^width+second)/2^low = first*2^(width-low)+second/2^low := by
    intro first second
    rw [split,← Nat.mul_assoc,Nat.mul_comm (first*_),Nat.mul_add_div positive]
  rw [front,front]
  have restLow : rest/2^low < 2^(width-low) := by
    rw [Nat.div_lt_iff_lt_mul positive,← split]
    exact restSmall
  have tailLow : tail/2^low < 2^(width-low) := by
    rw [Nat.div_lt_iff_lt_mul positive,← split]
    exact tailSmall
  constructor
  · intro same
    have quotients := congrArg (· / 2^(width-low)) same
    have remainders := congrArg (· % 2^(width-low)) same
    simp only [Nat.mul_comm _ (2^(width-low)),Nat.mul_add_div (Nat.two_pow_pos _),Nat.mul_add_mod,
      Nat.div_eq_of_lt restLow,Nat.div_eq_of_lt tailLow,Nat.mod_eq_of_lt restLow,Nat.mod_eq_of_lt tailLow,
      Nat.add_zero] at quotients remainders
    exact ⟨quotients,remainders⟩
  · intro same
    rw [same.1,same.2]

end Foundation
