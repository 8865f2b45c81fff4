/-
The lowest bit of a mask, and the blocks of numbers that differ below it only.

A mask has no bit below its lowest one, so all numbers of a block have the same bits under the
mask, and clearing the mask takes the same from each of them.
-/
import Mathlib.Data.Nat.Find
import Mathlib.Data.BitVec

set_option autoImplicit false

namespace Nxvm.Lib.LowestBit

variable {w : ℕ}

/-- The mask and its complement to zero have the lowest bit in common. -/
def lowest_bit (mask : BitVec w) : BitVec w := mask &&& (~~~mask + 1)

/-- The lowest bit is bit `k`. -/
structure IsLowest (mask : BitVec w) (k : ℕ) : Prop where
  bit : mask.getLsbD k = true
  below : ∀ j < k, mask.getLsbD j = false

theorem IsLowest.lt {mask : BitVec w} {k : ℕ} (h : IsLowest mask k) : k < w := by
  by_contra hge
  have hbit := h.bit
  rw [BitVec.getLsbD_of_ge mask k (by omega)] at hbit
  cases hbit

theorem exists_lowest {mask : BitVec w} (h : mask ≠ 0) : ∃ k, IsLowest mask k := by
  have hsome : ∃ k, mask.getLsbD k = true := by
    by_contra hnone
    push Not at hnone
    apply h
    apply BitVec.eq_of_getLsbD_eq
    intro i hi
    simpa using hnone i
  refine ⟨Nat.find hsome, Nat.find_spec hsome, fun j hj => ?_⟩
  simpa using Nat.find_min hsome hj

theorem IsLowest.eq {mask : BitVec w} {k : ℕ} (h : IsLowest mask k) :
    lowest_bit mask = BitVec.twoPow w k := by
  apply BitVec.eq_of_getLsbD_eq
  intro i hi
  have hneg : ~~~mask + 1 = -mask := (BitVec.neg_eq_not_add mask).symm
  rw [lowest_bit, hneg, BitVec.getLsbD_and, BitVec.getLsbD_neg,
    BitVec.getLsbD_twoPow]
  rcases Nat.lt_trichotomy i k with hlt | heq | hgt
  · rw [h.below i hlt, Bool.false_and, decide_eq_false (Nat.ne_of_gt hlt), Bool.and_false]
  · subst heq
    have hnone : ¬ ∃ j < i, mask.getLsbD j = true := by
      rintro ⟨j, hj, hbit⟩
      rw [h.below j hj] at hbit
      cases hbit
    rw [h.bit, decide_eq_false hnone]
    simp [hi]
  · -- Above the lowest bit the complement has what the mask has not.
    have hsome : ∃ j < i, mask.getLsbD j = true := ⟨k, hgt, h.bit⟩
    rw [decide_eq_true hsome, decide_eq_true hi, decide_eq_false (Nat.ne_of_lt hgt),
      Bool.and_false]
    cases mask.getLsbD i <;> rfl

/-- The bits below bit `k`. -/
theorem getLsbD_below {k : ℕ} (hk : k < w) (i : ℕ) :
    (BitVec.twoPow w k - 1).getLsbD i = decide (i < k) := by
  have hpow : 2 ^ k < 2 ^ w := Nat.pow_lt_pow_right (by decide) hk
  have hone : 1 ≤ 2 ^ k := Nat.one_le_two_pow
  have hnat : (BitVec.twoPow w k - 1).toNat = 2 ^ k - 1 := by
    rw [BitVec.toNat_sub_of_le, BitVec.toNat_twoPow, Nat.mod_eq_of_lt hpow]
    · simp [Nat.mod_eq_of_lt (by omega : 1 < 2 ^ w)]
    · rw [BitVec.le_def, BitVec.toNat_twoPow, Nat.mod_eq_of_lt hpow]
      simp [Nat.mod_eq_of_lt (by omega : 1 < 2 ^ w)]
      exact hone
  rw [← BitVec.testBit_toNat, hnat, Nat.testBit_two_pow_sub_one]

/-- Two numbers have the same bits from bit `k` on where they are in the same block. -/
theorem above_eq_iff {k : ℕ} (hk : k < w) (x y : BitVec w) :
    x &&& ~~~(BitVec.twoPow w k - 1) = y &&& ~~~(BitVec.twoPow w k - 1) ↔
      x.toNat / 2 ^ k = y.toNat / 2 ^ k := by
  constructor
  · intro h
    apply Nat.eq_of_testBit_eq
    intro i
    rw [Nat.testBit_div_two_pow, Nat.testBit_div_two_pow, BitVec.testBit_toNat,
      BitVec.testBit_toNat]
    by_cases hi : i + k < w
    · have hbit := congrArg (fun z : BitVec w => z.getLsbD (i + k)) h
      have hhigh : ¬ i + k < k := by omega
      simpa only [BitVec.getLsbD_and, BitVec.getLsbD_not, getLsbD_below hk, hhigh, hi, decide_true,
        decide_false, Bool.not_false, Bool.and_true] using hbit
    · rw [BitVec.getLsbD_of_ge x _ (by omega), BitVec.getLsbD_of_ge y _ (by omega)]
  · intro h
    apply BitVec.eq_of_getLsbD_eq
    intro i hi
    rw [BitVec.getLsbD_and, BitVec.getLsbD_and, BitVec.getLsbD_not, getLsbD_below hk i]
    by_cases hlow : i < k
    · simp [hlow]
    · have hbit := congrArg (fun n : ℕ => n.testBit (i - k)) h
      simp only [Nat.testBit_div_two_pow, Nat.sub_add_cancel (Nat.le_of_not_lt hlow),
        BitVec.testBit_toNat] at hbit
      rw [hbit]

/-- Under the mask all numbers of a block are the same. -/
theorem IsLowest.masked {mask : BitVec w} {k : ℕ} (h : IsLowest mask k) {x y : BitVec w}
    (hblock : x.toNat / 2 ^ k = y.toNat / 2 ^ k) : x &&& mask = y &&& mask := by
  have habove := (above_eq_iff h.lt x y).mpr hblock
  apply BitVec.eq_of_getLsbD_eq
  intro i hi
  rw [BitVec.getLsbD_and, BitVec.getLsbD_and]
  by_cases hlow : i < k
  · rw [h.below i hlow, Bool.and_false, Bool.and_false]
  · have hbit := congrArg (fun z : BitVec w => z.getLsbD i) habove
    rw [BitVec.getLsbD_and, BitVec.getLsbD_and, BitVec.getLsbD_not, getLsbD_below h.lt i] at hbit
    simp only [hlow, decide_false, Bool.not_false, Bool.and_true, hi, decide_true] at hbit
    rw [hbit]

/-- What the mask covers and what it does not make up the number. -/
theorem toNat_cleared (x mask : BitVec w) :
    (x &&& ~~~mask).toNat + (x &&& mask).toNat = x.toNat := by
  have hapart : (x &&& ~~~mask) &&& (x &&& mask) = 0#w := by
    apply BitVec.eq_of_getLsbD_eq
    intro i hi
    simp only [BitVec.getLsbD_and, BitVec.getLsbD_not, hi, decide_true, Bool.true_and,
      BitVec.getLsbD_zero]
    cases x.getLsbD i <;> cases mask.getLsbD i <;> rfl
  rw [← BitVec.toNat_add_of_and_eq_zero hapart, BitVec.add_eq_or_of_and_eq_zero _ _ hapart]
  congr 1
  apply BitVec.eq_of_getLsbD_eq
  intro i hi
  simp only [BitVec.getLsbD_or, BitVec.getLsbD_and, BitVec.getLsbD_not, hi, decide_true,
    Bool.true_and]
  cases x.getLsbD i <;> cases mask.getLsbD i <;> rfl

end Nxvm.Lib.LowestBit
