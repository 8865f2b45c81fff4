/-
Masks as arithmetic: what `x & (2^n - 1)` and `x & ~(2^n - 1)` are as numbers.
-/
import Mathlib.Data.BitVec
import Mathlib.Tactic.Common

set_option autoImplicit false

namespace Nxvm.Lib.Bits

variable {w : Nat}

/-- Keeping the low `n` bits is the remainder by `2^n`. -/
theorem and_low_toNat (x m : BitVec w) (n : Nat) (hm : m.toNat = 2 ^ n - 1) :
    (x &&& m).toNat = x.toNat % 2 ^ n := by
  rw [BitVec.toNat_and, hm, Nat.and_two_pow_sub_one_eq_mod]

/-- A mask bounds what it keeps. -/
theorem and_toNat_le (x m : BitVec w) : (x &&& m).toNat ≤ m.toNat := by
  rw [BitVec.toNat_and]
  exact Nat.and_le_right

theorem and_toNat_lt (x m : BitVec w) (n : Nat) (h : m.toNat < n) : (x &&& m).toNat < n :=
  Nat.lt_of_le_of_lt (and_toNat_le x m) h

/-- A shift to the right bounds what it keeps. -/
theorem ushiftRight_toNat_lt (x : BitVec w) (k n : Nat) (h : 2 ^ w ≤ n * 2 ^ k) :
    (x >>> k).toNat < n := by
  rw [BitVec.toNat_ushiftRight, Nat.shiftRight_eq_div_pow]
  exact Nat.div_lt_of_lt_mul (Nat.lt_of_lt_of_le x.isLt (by rwa [Nat.mul_comm] at h))

/-- Clearing the low `n` bits is rounding down to a multiple of `2^n`. -/
theorem and_not_low_toNat (x m : BitVec w) (n : Nat) (hm : m.toNat = 2 ^ n - 1) :
    (x &&& ~~~m).toNat = x.toNat / 2 ^ n * 2 ^ n := by
  have hbits : x &&& ~~~m = (x >>> n) <<< n := by
    refine BitVec.eq_of_getLsbD_eq fun i hi => ?_
    have hmi : m.getLsbD i = decide (i < n) := by
      rw [BitVec.getLsbD, hm, Nat.testBit_two_pow_sub_one]
    rw [BitVec.getLsbD_and, BitVec.getLsbD_not, hmi, BitVec.getLsbD_shiftLeft,
      BitVec.getLsbD_ushiftRight]
    by_cases h : i < n
    · simp [h]
    · have he : n + (i - n) = i := by omega
      simp [h, hi, he]
  have hle : x.toNat / 2 ^ n * 2 ^ n ≤ x.toNat := Nat.div_mul_le_self _ _
  rw [hbits, BitVec.toNat_shiftLeft, BitVec.toNat_ushiftRight, Nat.shiftRight_eq_div_pow,
    Nat.shiftLeft_eq, Nat.mod_eq_of_lt (Nat.lt_of_le_of_lt hle x.isLt)]

/-- Bits that are set already. -/
theorem or_eq_of_and_eq {x b : BitVec w} (h : x &&& b = b) : x ||| b = x := by
  conv_lhs => rw [← h]
  refine BitVec.eq_of_getLsbD_eq fun i _ => ?_
  rw [BitVec.getLsbD_or, BitVec.getLsbD_and]
  cases x.getLsbD i <;> simp

/-- Bits that are set anyway. -/
theorem or_eq_of_and_eq_left {b m : BitVec w} (h : b &&& m = b) : b ||| m = m := by
  rw [BitVec.or_comm]
  exact or_eq_of_and_eq (BitVec.and_comm m b ▸ h)

/-- One bit is clear or set. -/
theorem and_two_pow_cases (x : BitVec w) (i : Nat) :
    x &&& BitVec.twoPow w i = 0 ∨ x &&& BitVec.twoPow w i = BitVec.twoPow w i := by
  rw [BitVec.and_twoPow]
  cases x.getLsbD i with
  | false => exact Or.inl rfl
  | true => exact Or.inr rfl

/-- A field of a register replaced: the bits outside the field stay. -/
theorem and_replaced_outside (x y m : BitVec w) (h : y &&& m = 0) :
    (x &&& m ||| y) &&& m = x &&& m := by
  refine BitVec.eq_of_getLsbD_eq fun i _ => ?_
  have hbit := congrArg (fun z => z.getLsbD i) h
  simp only [BitVec.getLsbD_and, BitVec.getLsbD_or] at hbit ⊢
  cases hm : m.getLsbD i <;> simp_all

/-- A field of a register replaced: the bits inside the field are the new ones. -/
theorem and_replaced_inside (x y m : BitVec w) (h : y &&& m = 0) :
    (x &&& m ||| y) &&& ~~~m = y := by
  refine BitVec.eq_of_getLsbD_eq fun i hi => ?_
  have hbit := congrArg (fun z => z.getLsbD i) h
  simp only [BitVec.getLsbD_and, BitVec.getLsbD_or, BitVec.getLsbD_not] at hbit ⊢
  cases hm : m.getLsbD i <;> simp_all

end Nxvm.Lib.Bits
