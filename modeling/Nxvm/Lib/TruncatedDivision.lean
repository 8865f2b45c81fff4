/-
Division with a quotient truncated toward zero, as a host computes it and as two words record it.

A host division has no value where the divisor is zero, or where the quotient of the least number
by minus one does not fit. What has a value splits the dividend into a multiple of the divisor and
a remainder that is smaller than the divisor and has the sign of the dividend.
-/
import Mathlib.Data.BitVec
import Mathlib.Tactic.Common

set_option autoImplicit false

namespace Nxvm.Lib.TruncatedDivision

/-! ## On the host -/

/-- A division of unsigned host numbers. -/
def host_udiv (a b : ℕ) : Option (ℕ × ℕ) := if b = 0 then none else some (a / b, a % b)

/-- A division of signed 64-bit host numbers. -/
def host_sdiv (a b : ℤ) : Option (ℤ × ℤ) :=
  if b = 0 ∨ a = -2 ^ 63 ∧ b = -1 then none else some (a.tdiv b, a.tmod b)

/-! ## Truncation -/

/-- The remainder is smaller than the divisor, and zero or of the dividend's sign. -/
structure Truncates (dividend divisor quotient remainder : ℤ) : Prop where
  sum : quotient * divisor + remainder = dividend
  small : remainder.natAbs < divisor.natAbs
  sign : remainder = 0 ∨ remainder.sign = dividend.sign

theorem truncates_tdiv (dividend : ℤ) {divisor : ℤ} (h : divisor ≠ 0) :
    Truncates dividend divisor (dividend.tdiv divisor) (dividend.tmod divisor) where
  sum := Int.tdiv_mul_add_tmod dividend divisor
  small := by
    rw [Int.natAbs_tmod]
    exact Nat.mod_lt _ (Int.natAbs_pos.mpr h)
  sign := by
    have hsign := Int.sign_tmod dividend divisor
    by_cases hdvd : divisor ∣ dividend
    · rw [if_pos hdvd] at hsign
      exact .inl (Int.sign_eq_zero_iff_zero.mp hsign)
    · rw [if_neg hdvd] at hsign
      exact .inr hsign

/-- The least number by minus one. -/
theorem tdiv_neg_one (a : ℤ) : a.tdiv (-1) = -a := by
  rw [Int.tdiv_neg, Int.tdiv_one]

/-! ## In words -/

variable {w : ℕ}

/-- A number that fits is what the word says. -/
theorem toInt_ofInt_fits (hw : 0 < w) {n : ℤ} (hle : -2 ^ (w - 1) ≤ n) (hlt : n < 2 ^ (w - 1)) :
    (BitVec.ofInt w n).toInt = n := BitVec.toInt_ofInt_eq_self hw hle hlt

/-- What is smaller than a word fits in one. -/
theorem toInt_ofInt_small (hw : 0 < w) {n : ℤ} {bound : BitVec w}
    (hsmall : n.natAbs < bound.toInt.natAbs) : (BitVec.ofInt w n).toInt = n := by
  have hle := BitVec.le_toInt bound
  have hlt := BitVec.toInt_lt (x := bound)
  apply toInt_ofInt_fits hw
  · omega
  · omega

/-- The halves of two words side by side. -/
theorem setWidth_append (high low : BitVec w) : (high ++ low).setWidth w = low := by
  apply BitVec.eq_of_getLsbD_eq
  intro i hi
  simp [BitVec.getLsbD_append, hi]

theorem extract_append (high low : BitVec w) : (high ++ low).extractLsb' w w = high := by
  apply BitVec.eq_of_getLsbD_eq
  intro i hi
  rw [BitVec.getLsbD_extractLsb', BitVec.getLsbD_append, decide_eq_true hi, Bool.true_and,
    if_neg (by omega), Nat.add_sub_cancel_left]

end Nxvm.Lib.TruncatedDivision
