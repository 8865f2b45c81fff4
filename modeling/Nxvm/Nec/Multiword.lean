/-
Numbers of several words in the arithmetic unit (`_a_add`, `_a_adc`, `_a_sub`, `_a_sbb`,
`_a_cmp`).

The unit finds the carry of ADC and SBB again from operands and result, by comparisons with a
case of its own for an operand of all ones, while the old carry is still in the flags. Here
these comparisons are shown to be the carry, and the overflow flag the signed overflow, at
every width; a chain of the operations then adds and subtracts numbers of any length.
-/
import Nxvm.Nec.Arithmetic
import Nxvm.Lib.Multiword

set_option autoImplicit false

namespace Nxvm.Nec

open Nxvm.Cpu Nxvm.Lib Nxvm.Lib.Multiword

variable {w : ℕ}

/-! ## The two flags -/

/-- The carry flag. -/
def CF (eflags : U32) : Bool := eflags.getLsbD 0

/-- The overflow flag. -/
def OF (eflags : U32) : Bool := eflags.getLsbD 11

@[simp] theorem CF_bit_make_CF (e : U32) (b : Bool) : CF (bit_make e VCPU_EFLAGS_CF b) = b := by
  rw [CF, bit_make_getLsbD]
  rfl

@[simp] theorem OF_bit_make_OF (e : U32) (b : Bool) : OF (bit_make e VCPU_EFLAGS_OF b) = b := by
  rw [OF, bit_make_getLsbD]
  rfl

@[simp] theorem CF_bit_make_OF (e : U32) (b : Bool) : CF (bit_make e VCPU_EFLAGS_OF b) = CF e := by
  rw [CF, bit_make_getLsbD]
  rfl

/-- Sign, zero, parity and auxiliary carry touch neither. -/
theorem made_elsewhere (e : U32) (b : Bool) (flag : U32) (h0 : flag.getLsbD 0 = false)
    (h11 : flag.getLsbD 11 = false) :
    CF (bit_make e flag b) = CF e ∧ OF (bit_make e flag b) = OF e := by
  rw [CF, OF, bit_make_getLsbD, bit_make_getLsbD, h0, h11]
  exact ⟨rfl, rfl⟩

theorem kaf_calc_others (o : Arith w) (e : U32) :
    let e' := kaf_calc_SF o (kaf_calc_ZF o (kaf_calc_AF o (kaf_calc_PF o e)))
    CF e' = CF e ∧ OF e' = OF e := by
  have hpf := made_elsewhere e (fold_parity (o.result.setWidth 8)) VCPU_EFLAGS_PF rfl rfl
  have haf := made_elsewhere (kaf_calc_PF o e) ((o.opr1 ^^^ o.opr2 ^^^ o.result).getLsbD 4)
    VCPU_EFLAGS_AF rfl rfl
  have hzf := made_elsewhere (kaf_calc_AF o (kaf_calc_PF o e)) (o.result == 0)
    VCPU_EFLAGS_ZF rfl rfl
  have hsf := made_elsewhere (kaf_calc_ZF o (kaf_calc_AF o (kaf_calc_PF o e))) o.result.msb
    VCPU_EFLAGS_SF rfl rfl
  exact ⟨hsf.1.trans (hzf.1.trans (haf.1.trans hpf.1)),
    hsf.2.trans (hzf.2.trans (haf.2.trans hpf.2))⟩

/-- The carry is computed first, from the flags as they were. -/
theorem kaf_set_flags_add (o : Arith w) (e : U32) :
    CF (kaf_set_flags o ADD_FLAG e) = CF (kaf_calc_OF o (kaf_calc_CF o e)) ∧
      OF (kaf_set_flags o ADD_FLAG e) = OF (kaf_calc_OF o (kaf_calc_CF o e)) := by
  have hall : kaf_set_flags o ADD_FLAG e =
      kaf_calc_OF o (kaf_calc_SF o (kaf_calc_ZF o (kaf_calc_AF o (kaf_calc_PF o
        (kaf_calc_CF o e))))) := rfl
  obtain ⟨hc, ho⟩ := kaf_calc_others o (kaf_calc_CF o e)
  rw [hall]
  generalize kaf_calc_SF o (kaf_calc_ZF o (kaf_calc_AF o (kaf_calc_PF o (kaf_calc_CF o e)))) = e'
    at hc ho ⊢
  unfold kaf_calc_OF
  cases o.type with
  | logic => exact ⟨hc, ho⟩
  | _ => simp [hc]

theorem carry_of_toNat (hw : 0 < w) (e : U32) : (carry_of w e).toNat = (CF e).toNat := by
  have hone : (1 : BitVec w).toNat = 1 := BitVec.toNat_one hw
  rw [carry_of, carry_set, CF]
  by_cases h : e.getLsbD 0 = true
  · rw [if_pos h, h, hone]
    rfl
  · rw [if_neg h, Bool.eq_false_iff.mpr h]
    rfl

/-! ## Words as numbers -/

/-- Half of the numbers of a word. -/
theorem exists_half (hw : 0 < w) : ∃ H, 2 ^ w = 2 * H ∧ 2 ^ (w - 1) = H := by
  refine ⟨2 ^ (w - 1), ?_, rfl⟩
  rw [← Nat.pow_succ']
  congr 1
  omega

theorem eq_allOnes_iff (y : BitVec w) : (y == BitVec.allOnes w) = decide (y.toNat + 1 = 2 ^ w) := by
  have hpos := Nat.two_pow_pos w
  rw [beq_eq_decide]
  apply decide_eq_decide.mpr
  constructor
  · intro h
    rw [h, BitVec.toNat_allOnes]
    omega
  · intro h
    apply BitVec.eq_of_toNat_eq
    rw [BitVec.toNat_allOnes]
    omega

/-- The comparisons with an operand, and the case of an operand of all ones, are the carry. -/
theorem carry_found (x y z : BitVec w) (c : Bool)
    (hz : z.toNat = (x.toNat + y.toNat + c.toNat) % 2 ^ w) :
    (if c && y == BitVec.allOnes w then true else decide (z < x) || decide (z < y)) =
      decide (2 ^ w ≤ x.toNat + y.toNat + c.toNat) := by
  have hx := x.isLt
  have hy := y.isLt
  have hc : c.toNat ≤ 1 := Bool.toNat_le c
  rw [eq_allOnes_iff, ← Bool.decide_or]
  simp only [BitVec.lt_def]
  by_cases hover : 2 ^ w ≤ x.toNat + y.toNat + c.toNat
  · have hval : z.toNat = x.toNat + y.toNat + c.toNat - 2 ^ w := by
      rw [hz, Nat.mod_eq_sub_mod hover, Nat.mod_eq_of_lt (by omega)]
    rw [decide_eq_true hover]
    by_cases hones : (c && decide (y.toNat + 1 = 2 ^ w)) = true
    · rw [if_pos hones]
    · rw [if_neg hones]
      rw [Bool.and_eq_true, decide_eq_true_iff] at hones
      apply decide_eq_true
      -- without the special case the sum wraps past the first operand
      have hless : y.toNat + c.toNat < 2 ^ w := by
        by_cases hb : c = true
        · have hne : y.toNat + 1 ≠ 2 ^ w := fun h => hones ⟨hb, h⟩
          rw [hb] at hc ⊢
          simp only [Bool.toNat_true]
          omega
        · rw [Bool.eq_false_iff.mpr hb]
          simpa using hy
      left
      omega
  · have hval : z.toNat = x.toNat + y.toNat + c.toNat := by
      rw [hz, Nat.mod_eq_of_lt (by omega)]
    rw [decide_eq_false hover]
    have hones : ¬ (c && decide (y.toNat + 1 = 2 ^ w)) = true := by
      rw [Bool.and_eq_true, decide_eq_true_iff]
      rintro ⟨hb, h⟩
      rw [hb, Bool.toNat_true] at hover
      omega
    rw [if_neg hones]
    apply decide_eq_false
    omega

/-- The sign bits tell a signed overflow. -/
theorem overflow_found (hw : 0 < w) (x y z : BitVec w) (c : Bool)
    (hz : z.toNat = (x.toNat + y.toNat + c.toNat) % 2 ^ w) :
    (x.msb == y.msb && x.msb != z.msb) =
      decide (¬ Fits w (x.toInt + y.toInt + c.toNat)) := by
  obtain ⟨H, hB, hH⟩ := exists_half hw
  have hx := x.isLt
  have hy := y.isLt
  have hc : c.toNat ≤ 1 := Bool.toNat_le c
  have hpow : (2 : ℤ) ^ w = 2 * (H : ℤ) := by exact_mod_cast hB
  have hzlt := z.isLt
  have hfits : ∀ s : ℤ, Fits w s ↔ -(2 * (H : ℤ)) ≤ 2 * s ∧ 2 * s < 2 * (H : ℤ) := by
    intro s
    unfold Fits
    rw [hpow]
  simp only [hfits]
  rw [BitVec.toInt_eq_toNat_cond, BitVec.toInt_eq_toNat_cond, BitVec.msb_eq_decide,
    BitVec.msb_eq_decide, BitVec.msb_eq_decide, hH]
  rw [hB] at hx hy hz hzlt ⊢
  generalize x.toNat = X at *
  generalize y.toNat = Y at *
  generalize z.toNat = Z at *
  generalize c.toNat = C at *
  have hwrap : Z = X + Y + C ∧ X + Y + C < 2 * H ∨ Z + 2 * H = X + Y + C := by
    by_cases h : X + Y + C < 2 * H
    · exact Or.inl ⟨by rw [hz, Nat.mod_eq_of_lt h], h⟩
    · right
      rw [hz, Nat.mod_eq_sub_mod (by omega), Nat.mod_eq_of_lt (by omega)]
      omega
  rw [Bool.eq_iff_iff]
  simp only [Bool.and_eq_true, beq_iff_eq, bne_iff_ne, ne_eq, decide_eq_decide,
    decide_eq_true_eq]
  push_cast
  split_ifs <;> omega

/-! ## One word -/

/-- What `_kac_arith2` leaves of a sum, for a carry flag that is the carry. -/
theorem wordSum_of_flags (hw : 0 < w) {carry overflow : U32 → Bool} {x y z : BitVec w} {c : Bool}
    {e : U32} (hz : z.toNat = (x.toNat + y.toNat + c.toNat) % 2 ^ w)
    (hcarry : carry e = decide (2 ^ w ≤ x.toNat + y.toNat + c.toNat))
    (hoverflow : overflow e = (x.msb == y.msb && x.msb != z.msb)) :
    WordSum carry overflow x y c (z, e) := by
  constructor
  · show z.toNat + 2 ^ w * (carry e).toNat = _
    rw [hcarry, hz]
    by_cases h : 2 ^ w ≤ x.toNat + y.toNat + c.toNat
    · have hx := x.isLt
      have hy := y.isLt
      have hc : c.toNat ≤ 1 := Bool.toNat_le c
      rw [decide_eq_true h, Bool.toNat_true, Nat.mod_eq_sub_mod h, Nat.mod_eq_of_lt (by omega)]
      omega
    · rw [decide_eq_false h, Bool.toNat_false, Nat.mod_eq_of_lt (by omega)]
      omega
  · rw [← overflow_found hw x y z c hz]
    exact hoverflow

/-- ADC adds two words and the carry. -/
theorem a_adc_sum (hw : 0 < w) (x y : BitVec w) (e : U32) :
    WordSum CF OF x y (CF e) (a_adc x y e) := by
  have hz : (x + y + carry_of w e).toNat = (x.toNat + y.toNat + (CF e).toNat) % 2 ^ w := by
    rw [BitVec.toNat_add, BitVec.toNat_add, Nat.mod_add_mod, carry_of_toNat hw]
  obtain ⟨hcf, hof⟩ := kaf_set_flags_add ⟨.adc, x, y, x + y + carry_of w e⟩ e
  apply wordSum_of_flags hw hz
  · rw [hcf, kaf_calc_OF, kaf_calc_CF, CF_bit_make_OF, CF_bit_make_CF, carry_set,
      ← carry_found x y _ (CF e) hz]
    rfl
  · rw [hof, kaf_calc_OF, OF_bit_make_OF]

/-- ADD adds two words. -/
theorem a_add_sum (hw : 0 < w) (x y : BitVec w) (e : U32) :
    WordSum CF OF x y false (a_add x y e) := by
  have hz : (x + y).toNat = (x.toNat + y.toNat + (false).toNat) % 2 ^ w := by
    rw [BitVec.toNat_add, Bool.toNat_false, Nat.add_zero]
  obtain ⟨hcf, hof⟩ := kaf_set_flags_add ⟨.add, x, y, x + y⟩ e
  apply wordSum_of_flags hw hz
  · rw [hcf, kaf_calc_OF, kaf_calc_CF, CF_bit_make_OF, CF_bit_make_CF,
      ← carry_found x y _ false hz, Bool.false_and, if_neg Bool.false_ne_true]
  · rw [hof, kaf_calc_OF, OF_bit_make_OF]

/-- The complement of a word, as a number. -/
theorem not_toNat_add (y : BitVec w) : (~~~y).toNat + y.toNat + 1 = 2 ^ w := by
  have hy := y.isLt
  rw [BitVec.toNat_not]
  omega

/-- A difference and its borrow, as the sum with the complement. -/
theorem difference_toNat (x y : BitVec w) (b : BitVec w) (c : Bool) (hb : b.toNat = c.toNat) :
    (x - (~~~y + b)).toNat = (x.toNat + y.toNat + (!c).toNat) % 2 ^ w := by
  have hnot := not_toNat_add y
  have hc : c.toNat + (!c).toNat = 1 := by
    by_cases h : c = true
    · rw [h]
      rfl
    · rw [Bool.eq_false_iff.mpr h]
      rfl
  rw [BitVec.toNat_sub, BitVec.toNat_add, hb]
  by_cases hwrap : (~~~y).toNat + c.toNat < 2 ^ w
  · rw [Nat.mod_eq_of_lt hwrap]
    congr 1
    omega
  · have hfull : (~~~y).toNat + c.toNat = 2 ^ w := by
      have hle := (~~~y).isLt
      have hle' : c.toNat ≤ 1 := Bool.toNat_le c
      omega
    rw [hfull, Nat.mod_self, Nat.sub_zero]
    have hzero : y.toNat + (!c).toNat = 0 := by omega
    rw [Nat.add_assoc, hzero, Nat.add_zero, Nat.add_mod_left]

/-- The sign bits of a difference are those of the sum with the complement. -/
theorem overflow_complement (hw : 0 < w) (x y z : BitVec w) :
    (x.msb != (~~~y).msb && (~~~y).msb == z.msb) = (x.msb == y.msb && x.msb != z.msb) := by
  rw [BitVec.msb_not, decide_eq_true hw, Bool.true_and]
  cases x.msb <;> cases y.msb <;> cases z.msb <;> rfl

/-- SBB subtracts a word and the borrow: with the complement it adds, and the carry flag is the
carry the other way round. -/
theorem a_sbb_sum (hw : 0 < w) (x y : BitVec w) (e : U32) :
    WordSum (fun e => !CF e) OF x y (!CF e) (a_sbb x (~~~y) e) := by
  have hz := difference_toNat x y (carry_of w e) (CF e) (carry_of_toNat hw e)
  obtain ⟨hcf, hof⟩ := kaf_set_flags_add ⟨.sbb, x, ~~~y, x - (~~~y + carry_of w e)⟩ e
  apply wordSum_of_flags hw hz
  · have hx := x.isLt
    have hnot := not_toNat_add y
    have hy := y.isLt
    rw [hcf, kaf_calc_OF, kaf_calc_CF, CF_bit_make_OF, CF_bit_make_CF, carry_set,
      Bool.not_eq_eq_eq_not, ← decide_not, eq_allOnes_iff, ← CF]
    simp only [BitVec.lt_def, hz]
    by_cases hc : CF e = true
    · rw [hc, Bool.true_and, Bool.not_true, Bool.toNat_false, Nat.add_zero, ← Bool.decide_or]
      apply decide_eq_decide.mpr
      by_cases hover : 2 ^ w ≤ x.toNat + y.toNat
      · rw [Nat.mod_eq_sub_mod hover, Nat.mod_eq_of_lt (by omega)]
        omega
      · rw [Nat.mod_eq_of_lt (by omega)]
        omega
    · rw [Bool.eq_false_iff.mpr hc, Bool.false_and, Bool.or_false, Bool.not_false, Bool.toNat_true]
      apply decide_eq_decide.mpr
      by_cases hover : 2 ^ w ≤ x.toNat + y.toNat + 1
      · rw [Nat.mod_eq_sub_mod hover, Nat.mod_eq_of_lt (by omega)]
        omega
      · rw [Nat.mod_eq_of_lt (by omega)]
        omega
  · rw [hof, kaf_calc_OF, OF_bit_make_OF]
    exact overflow_complement hw x y _

/-- SUB subtracts a word. -/
theorem a_sub_sum (hw : 0 < w) (x y : BitVec w) (e : U32) :
    WordSum (fun e => !CF e) OF x y true (a_sub x (~~~y) e) := by
  have hz : (x - ~~~y).toNat = (x.toNat + y.toNat + (true).toNat) % 2 ^ w := by
    have hzero := difference_toNat x y 0#w false (BitVec.toNat_ofNat ..)
    rwa [BitVec.add_zero] at hzero
  obtain ⟨hcf, hof⟩ := kaf_set_flags_add ⟨.sub, x, ~~~y, x - ~~~y⟩ e
  apply wordSum_of_flags hw hz
  · have hnot := not_toNat_add y
    rw [hcf, kaf_calc_OF, kaf_calc_CF, CF_bit_make_OF, CF_bit_make_CF, Bool.not_eq_eq_eq_not,
      ← decide_not]
    simp only [BitVec.lt_def]
    apply decide_eq_decide.mpr
    rw [Bool.toNat_true]
    omega
  · rw [hof, kaf_calc_OF, OF_bit_make_OF]
    exact overflow_complement hw x y _

/-! ## Comparing

The unit as the handlers see it: the operands of the instruction, the scratch, the flags. -/

/-- The parts of `instruction_state.data` and the flags register that an arithmetic instruction
works on. -/
structure ArithState (w : ℕ) where
  crm : BitVec w
  cr : BitVec w
  scratch : Arith w
  eflags : U32

/-- `_kac_arith2`. -/
def kac_arith2 (s : ArithState w) (type : ArithType) (cdest csrc result : BitVec w) :
    ArithState w :=
  { s with
    scratch := ⟨type, cdest, csrc, result⟩
    eflags := kaf_set_flags ⟨type, cdest, csrc, result⟩ ADD_FLAG s.eflags }

/-- `_a_sub` of the operands. -/
def a_sub_operands (s : ArithState w) : ArithState w :=
  kac_arith2 s .sub s.crm s.cr (s.crm - s.cr)

/-- `_a_cmp` of the operands; the second one is subtracted as a signed number. -/
def a_cmp_operands (s : ArithState w) : ArithState w :=
  kac_arith2 s .cmp s.crm s.cr (BitVec.ofInt w (s.crm.toNat - s.cr.toInt))

/-- Signed or not, the difference is the same word. -/
theorem ofInt_sub_toInt (x y : BitVec w) : BitVec.ofInt w (x.toNat - y.toInt) = x - y := by
  apply BitVec.eq_of_toInt_eq
  rw [BitVec.toInt_ofInt, BitVec.toInt_sub, BitVec.toInt_eq_toNat_bmod x, Int.bmod_sub_bmod]

/-- The scratch keeps the operands, the instruction keeps its own, and the flags are those of
the subtraction. -/
theorem a_cmp_operands_spec (s : ArithState w) :
    (a_cmp_operands s).crm = s.crm ∧ (a_cmp_operands s).cr = s.cr ∧
      (a_cmp_operands s).scratch.opr1 = s.crm ∧ (a_cmp_operands s).scratch.opr2 = s.cr ∧
      (a_cmp_operands s).eflags = (a_sub_operands s).eflags ∧
      (a_sub_operands s).eflags = (a_sub s.crm s.cr s.eflags).2 := by
  refine ⟨rfl, rfl, rfl, rfl, ?_, rfl⟩
  rw [a_cmp_operands, ofInt_sub_toInt]
  rfl

/-! ## Numbers of several words -/

/-- ADD of the lowest words, ADC of the others. -/
def add_words (xs ys : List (BitVec w)) : U32 → List (BitVec w) × U32 :=
  chain_from a_add a_adc (xs.zip ys)

/-- SUB of the lowest words, SBB of the others. -/
def sub_words (xs ys : List (BitVec w)) : U32 → List (BitVec w) × U32 :=
  chain_from a_sub a_sbb (xs.zip ys)

theorem signed_toNat {m : ℕ} (a : BitVec m) : signed m a.toNat = a.toInt := by
  rw [signed, BitVec.ofNat_toNat, BitVec.setWidth_eq]

/-- A signed number of `m` bits that does not fit is an overflow of `m` bits. -/
theorem not_fits_iff {m : ℕ} (hm : 0 < m) (z : ℤ) :
    decide (¬ Fits m z) = (decide (z ≥ 2 ^ (m - 1)) || decide (z < -2 ^ (m - 1))) := by
  obtain ⟨H, hB, hH⟩ := exists_half hm
  have hpow : (2 : ℤ) ^ m = 2 * (H : ℤ) := by exact_mod_cast hB
  have hhalf : (2 : ℤ) ^ (m - 1) = (H : ℤ) := by exact_mod_cast hH
  rw [← Bool.decide_or, hhalf]
  apply decide_eq_decide.mpr
  unfold Fits
  rw [hpow]
  omega

/-- The words of the sum of two numbers, its carry and its signed overflow. -/
theorem add_words_spec {n : ℕ} (hw : 0 < w) (hn : 0 < n) (a b : BitVec (w * n)) (e : U32) :
    let r := add_words (words w n a.toNat) (words w n b.toNat) e
    r.1 = words w n (a + b).toNat ∧ CF r.2 = decide (2 ^ (w * n) ≤ a.toNat + b.toNat) ∧
      OF r.2 = a.saddOverflow b := by
  have h := chain_from_sum hw (a_add_sum hw) (a_adc_sum hw) hn a.toNat b.toNat e
  have ha := a.isLt
  have hb := b.isLt
  refine ⟨?_, ?_, ?_⟩
  · rw [BitVec.toNat_add, words_mod]
    exact h.sum
  · rw [add_words, h.carries, Nat.mod_eq_of_lt ha, Nat.mod_eq_of_lt hb]
    rfl
  · rw [add_words, h.fits hn, signed_toNat, signed_toNat, not_fits_iff (Nat.mul_pos hw hn),
      Bool.toNat_false, Int.ofNat_zero, Int.add_zero]
    rfl

/-- A chain of subtractions is the chain that adds the complement. -/
theorem sub_words_complement {n : ℕ} (a b : BitVec (w * n)) (e : U32) :
    sub_words (words w n a.toNat) (words w n b.toNat) e =
      chain_from (fun x y => a_sub x (~~~y)) (fun x y => a_sbb x (~~~y))
        ((words w n a.toNat).zip (words w n (~~~b).toNat)) e := by
  rw [BitVec.toNat_not, words_complement n b.toNat b.isLt, chain_from_map fun _ => BitVec.not_not]
  rfl

theorem toInt_complement {m : ℕ} (hm : 0 < m) (b : BitVec m) : (~~~b).toInt = -b.toInt - 1 := by
  obtain ⟨H, hB, -⟩ := exists_half hm
  have hnot := not_toNat_add b
  rw [BitVec.toInt_eq_toNat_cond, BitVec.toInt_eq_toNat_cond]
  rw [hB] at hnot ⊢
  push_cast
  split_ifs <;> omega

/-- The words of the difference of two numbers, its borrow and its signed overflow. -/
theorem sub_words_spec {n : ℕ} (hw : 0 < w) (hn : 0 < n) (a b : BitVec (w * n)) (e : U32) :
    let r := sub_words (words w n a.toNat) (words w n b.toNat) e
    r.1 = words w n (a - b).toNat ∧ CF r.2 = decide (a.toNat < b.toNat) ∧
      OF r.2 = a.ssubOverflow b := by
  have h := chain_from_sum hw (a_sub_sum hw) (a_sbb_sum hw) hn a.toNat (~~~b).toNat e
  rw [← sub_words_complement] at h
  have ha := a.isLt
  have hb := b.isLt
  have hnot := not_toNat_add b
  refine ⟨?_, ?_, ?_⟩
  · rw [h.sum, ← words_mod, BitVec.toNat_sub, BitVec.toNat_not, Bool.toNat_true]
    congr 2
    omega
  · have hcarry := h.carries
    rw [Nat.mod_eq_of_lt ha, Nat.mod_eq_of_lt (~~~b).isLt, Bool.not_eq_eq_eq_not, ← decide_not]
      at hcarry
    rw [hcarry]
    apply decide_eq_decide.mpr
    rw [Bool.toNat_true]
    omega
  · rw [h.fits hn, signed_toNat, signed_toNat, toInt_complement (Nat.mul_pos hw hn),
      not_fits_iff (Nat.mul_pos hw hn), Bool.toNat_true]
    have hsame : a.toInt + (-b.toInt - 1) + ((1 : ℕ) : ℤ) = a.toInt - b.toInt := by
      push_cast
      ring
    rw [hsame]
    rfl

/-- For numbers of any number of words of any width: ADD and ADC chained leave the words of the
sum, its carry and its signed overflow, SUB and SBB those of the difference, its borrow and its
signed overflow, and CMP leaves the flags of SUB and the operands as they are. -/
theorem multiword_spec {n : ℕ} (hw : 0 < w) (hn : 0 < n) (a b : BitVec (w * n)) (e : U32) :
    (let r := add_words (words w n a.toNat) (words w n b.toNat) e
     r.1 = words w n (a + b).toNat ∧ CF r.2 = decide (2 ^ (w * n) ≤ a.toNat + b.toNat) ∧
       OF r.2 = a.saddOverflow b) ∧
      (let r := sub_words (words w n a.toNat) (words w n b.toNat) e
       r.1 = words w n (a - b).toNat ∧ CF r.2 = decide (a.toNat < b.toNat) ∧
         OF r.2 = a.ssubOverflow b) ∧
      ∀ s : ArithState w, (a_cmp_operands s).crm = s.crm ∧ (a_cmp_operands s).cr = s.cr ∧
        (a_cmp_operands s).eflags = (a_sub s.crm s.cr s.eflags).2 := by
  refine ⟨add_words_spec hw hn a b e, sub_words_spec hw hn a b e, fun s => ?_⟩
  obtain ⟨hcrm, hcr, -, -, hflags, hsub⟩ := a_cmp_operands_spec s
  exact ⟨hcrm, hcr, hflags.trans hsub⟩

/-- Two words of sixteen bits: `ffff` and all ones in the upper operand take the special case. -/
theorem multiword_spec_dword :
    let r := add_words (words 16 2 0x0001ffff) (words 16 2 0xfffe0001) 0
    r.1 = [0, 0] ∧ CF r.2 = true ∧ OF r.2 = false := by
  have h := (multiword_spec (w := 16) (n := 2) (by decide) (by decide) 0x0001ffff 0xfffe0001 0).1
  refine ⟨h.1.trans (by decide), h.2.1.trans (by decide), h.2.2.trans (by decide)⟩

end Nxvm.Nec
