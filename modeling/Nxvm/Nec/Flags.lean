/-
The flags 8080 emulation leaves: the native ones, mended where the two processors
differ, and put back into the flags register under a mask (the arithmetic forms of
`NEC_EMULATION`).

The x86 auxiliary carry of a subtraction is a borrow and the 8080 one is a carry, so it
is inverted; after `ANA` it is the or of two bits, after `XRA` and `ORA` it is clear.
Every routine here is compared with the operation of the manual it stands for.
-/
import Nxvm.Nec.Arithmetic

set_option autoImplicit false

namespace Nxvm.Nec

open Nxvm.Cpu Nxvm.Lib

/-! ## The routines -/

/-- `_nec_commit_flags`: of the flags register `eflags`, only what `mask` names is
taken over into `before`. -/
def nec_commit_flags (eflags before mask : U32) : U32 :=
  (before &&& ~~~(mask ||| 0x2a)) ||| (eflags &&& mask) ||| 2

/-- The table `arithmetic` of `NEC_EMULATION`, by the operation field. -/
def nec_table (reg : BitVec 3) (accumulator value : U8) (eflags : U32) : U8 × U32 :=
  match reg.toNat with
  | 0 => a_add accumulator value eflags
  | 1 => a_adc accumulator value eflags
  | 2 => a_sub accumulator value eflags
  | 3 => a_sbb accumulator value eflags
  | 4 => a_and accumulator value eflags
  | 5 => a_xor accumulator value eflags
  | 6 => a_or accumulator value eflags
  | _ => a_cmp accumulator value eflags

/-- `NEC_EMULATION_ALU` and `NEC_EMULATION_ALUI`, up to the write of the result. -/
def nec_alu (reg : BitVec 3) (accumulator value : U8) (before : U32) : U8 × U32 :=
  let r := nec_table reg accumulator value before
  let eflags :=
    if reg = 2 ∨ reg = 3 ∨ reg = 7 then r.2 ^^^ VCPU_EFLAGS_AF
    else if reg = 4 then bit_make r.2 VCPU_EFLAGS_AF ((accumulator ||| value) &&& 8 != 0)
    else if reg = 5 ∨ reg = 6 then bit_make r.2 VCPU_EFLAGS_AF false
    else r.2
  (r.1, nec_commit_flags eflags before 0xd5)

/-- `NEC_EMULATION_INR`. -/
def nec_inr (value : U8) (before : U32) : U8 × U32 :=
  let r := a_inc value before
  (r.1, nec_commit_flags r.2 before 0xd4)

/-- `NEC_EMULATION_DCR`. -/
def nec_dcr (value : U8) (before : U32) : U8 × U32 :=
  let r := a_dec value before
  (r.1, nec_commit_flags (r.2 ^^^ VCPU_EFLAGS_AF) before 0xd4)

/-- `NEC_EMULATION_DAD`. -/
def nec_dad (address pair : U16) (before : U32) : U16 × U32 :=
  let r := a_add address pair before
  (r.1, nec_commit_flags r.2 before VCPU_EFLAGS_CF)

/-- `NEC_EMULATION_ROTATE`, by the two bits that choose among the rotations. -/
def nec_rotate (kind : BitVec 2) (accumulator : U8) (before : U32) : U8 × U32 :=
  let r :=
    match kind.toNat with
    | 0 => a_rol accumulator 1 before
    | 1 => a_ror accumulator 1 before
    | 2 => a_rcl accumulator 1 before
    | _ => a_rcr accumulator 1 before
  (r.1, nec_commit_flags r.2 before VCPU_EFLAGS_CF)

/-- `NEC_EMULATION_DAA`. -/
def nec_daa (accumulator : U8) (before : U32) : U8 × U32 :=
  let correction : U8 :=
    (if 9 < accumulator &&& 15 ∨ bit_is_set before VCPU_EFLAGS_AF then 6 else 0) |||
      (if 0x99 < accumulator ∨ bit_is_set before VCPU_EFLAGS_CF then 0x60 else 0)
  let r := a_add accumulator correction before
  (r.1, nec_commit_flags (r.2 ||| (before &&& VCPU_EFLAGS_CF)) before 0xd5)

/-! ## Committing -/

theorem commit_getLsbD (e before mask : U32) (i : ℕ) :
    (nec_commit_flags e before mask).getLsbD i =
      if mask.getLsbD i then e.getLsbD i || (2 : U32).getLsbD i
      else before.getLsbD i && !(0x2a : U32).getLsbD i || (2 : U32).getLsbD i := by
  by_cases hi : i < 32
  · by_cases hm : mask.getLsbD i = true <;>
      simp only [nec_commit_flags, BitVec.getLsbD_or, BitVec.getLsbD_and, BitVec.getLsbD_not, hi,
        hm] <;>
      simp
  · have hz : ∀ x : U32, x.getLsbD i = false := fun x => BitVec.getLsbD_of_ge _ _ (by omega)
    simp only [hz]
    rfl

/-- All flags are taken over. -/
theorem commit_all (e before : U32) : flags_of (nec_commit_flags e before 0xd5) = flags_of e := by
  simp only [flags_of, commit_getLsbD]
  simp

/-- All flags but the carry. -/
theorem commit_but_carry (e before : U32) :
    flags_of (nec_commit_flags e before 0xd4) =
      { flags_of e with cy := (flags_of before).cy } := by
  simp only [flags_of, commit_getLsbD]
  simp

/-- The carry alone. -/
theorem commit_carry (e before : U32) :
    flags_of (nec_commit_flags e before VCPU_EFLAGS_CF) =
      { flags_of before with cy := (flags_of e).cy } := by
  simp only [flags_of, commit_getLsbD]
  simp [VCPU_EFLAGS_CF]

/-- Nothing above the flags changes. -/
theorem commit_high {e before mask : U32} {i : ℕ} (hi : 8 ≤ i) (hm : mask.getLsbD i = false) :
    (nec_commit_flags e before mask).getLsbD i = before.getLsbD i := by
  have h2a : (0x2a : U32).getLsbD i = false := by
    have h := BitVec.getLsbD_setWidth 32 (0x2a : U8) i
    simp only [BitVec.getLsbD_of_ge (0x2a : U8) i hi, Bool.and_false] at h
    exact h
  have h2 : (2 : U32).getLsbD i = false := by
    have h := BitVec.getLsbD_setWidth 32 (2 : U8) i
    simp only [BitVec.getLsbD_of_ge (2 : U8) i hi, Bool.and_false] at h
    exact h
  rw [commit_getLsbD, hm, h2a, h2]
  simp

/-! ## Sums and differences -/

section Bytes

variable (x y : U8) (c : Bool)

theorem sum_eq :
    BitVec.ofNat 8 (x.toNat + y.toNat + c.toNat) = x + y + (BitVec.ofBool c).setWidth 8 := by
  refine BitVec.eq_of_toNat_eq ?_
  cases c <;> simp [BitVec.toNat_add]

/-- The auxiliary carry of a sum is the carry into bit 4. -/
theorem half_carry :
    (x ^^^ y ^^^ (x + y + (BitVec.ofBool c).setWidth 8)).getLsbD 4 =
      decide (16 ≤ x.toNat % 16 + y.toNat % 16 + c.toNat) := by
  rw [BitVec.getLsbD_xor, BitVec.getLsbD_xor, BitVec.getLsbD_add_add_bool (by omega), BitVec.carry]
  cases x.getLsbD 4 <;> cases y.getLsbD 4 <;> simp

theorem difference_eq :
    BitVec.ofNat 8 (x.toNat + (255 - y.toNat) + (!c).toNat) =
      x - (y + (BitVec.ofBool c).setWidth 8) := by
  have hx := x.isLt
  have hy := y.isLt
  refine BitVec.eq_of_toNat_eq ?_
  cases c <;> simp [BitVec.toNat_sub, BitVec.toNat_add] <;> omega

/-- The auxiliary carry of a difference: it is the carry of the sum it undoes, so it is
set exactly when the complement addition has no carry out of the low digit. -/
theorem half_borrow :
    (x ^^^ y ^^^ (x - (y + (BitVec.ofBool c).setWidth 8))).getLsbD 4 =
      !decide (16 ≤ x.toNat % 16 + (15 - y.toNat % 16) + (!c).toNat) := by
  generalize hd : x - (y + (BitVec.ofBool c).setWidth 8) = d
  have hx : x = d + y + (BitVec.ofBool c).setWidth 8 := by
    rw [← hd, BitVec.add_assoc, BitVec.sub_add_cancel]
  have hbits : (x ^^^ y ^^^ d).getLsbD 4 =
      (d ^^^ y ^^^ (d + y + (BitVec.ofBool c).setWidth 8)).getLsbD 4 := by
    rw [← hx]
    simp only [BitVec.getLsbD_xor]
    cases x.getLsbD 4 <;> cases y.getLsbD 4 <;> cases d.getLsbD 4 <;> rfl
  rw [hbits, half_carry]
  have hdn : d.toNat = (x.toNat + (255 - y.toNat) + (!c).toNat) % 256 := by
    rw [← hd, ← difference_eq, BitVec.toNat_ofNat]
  have hxl := x.isLt
  have hyl := y.isLt
  rw [← decide_not]
  congr 1
  rw [hdn]
  cases c <;> simp <;> omega

/-- The carry out of a sum, as the source finds it: the result is less than an operand,
or the operand was all ones and a carry came in. -/
theorem carry_sum :
    (if c && y == BitVec.allOnes 8 then true
      else decide (x + y + (BitVec.ofBool c).setWidth 8 < x) ||
        decide (x + y + (BitVec.ofBool c).setWidth 8 < y)) =
      decide (256 ≤ x.toNat + y.toNat + c.toNat) := by
  have hx := x.isLt
  have hy := y.isLt
  have hones : (y == BitVec.allOnes 8) = decide (y.toNat = 255) := by
    rw [beq_eq_decide]
    exact decide_eq_decide.mpr ⟨fun h => by rw [h]; rfl, fun h => BitVec.eq_of_toNat_eq (by simpa)⟩
  simp only [hones, BitVec.lt_def, ← sum_eq, BitVec.toNat_ofNat]
  cases c with
  | true =>
    by_cases hy255 : y.toNat = 255
    · simp [hy255]
    · simp only [hy255, decide_false, Bool.and_false, ← Bool.decide_or, Bool.toNat_true,
        Bool.false_eq_true, if_false]
      exact decide_eq_decide.mpr (by omega)
  | false =>
    simp only [Bool.false_and, ← Bool.decide_or, Bool.toNat_false, Bool.false_eq_true, if_false]
    exact decide_eq_decide.mpr (by omega)

/-- The borrow of a difference, as the source finds it. -/
theorem borrow_difference :
    (decide (x < x - (y + (BitVec.ofBool c).setWidth 8)) || c && y == BitVec.allOnes 8) =
      decide (x.toNat + (255 - y.toNat) + (!c).toNat < 256) := by
  have hx := x.isLt
  have hy := y.isLt
  have hones : (y == BitVec.allOnes 8) = decide (y.toNat = 255) := by
    rw [beq_eq_decide]
    exact decide_eq_decide.mpr ⟨fun h => by rw [h]; rfl, fun h => BitVec.eq_of_toNat_eq (by simpa)⟩
  simp only [hones, BitVec.lt_def, ← difference_eq, BitVec.toNat_ofNat]
  cases c with
  | true =>
    simp only [Bool.true_and, ← Bool.decide_or, Bool.not_true, Bool.toNat_false]
    exact decide_eq_decide.mpr (by omega)
  | false =>
    simp only [Bool.false_and, Bool.or_false, Bool.not_false, Bool.toNat_true]
    exact decide_eq_decide.mpr (by omega)

end Bytes

/-! ## Each routine is the manual's operation -/

@[simp] theorem flags_of_flip_AF (e : U32) :
    flags_of (e ^^^ VCPU_EFLAGS_AF) = { flags_of e with ac := !(flags_of e).ac } := by
  simp only [flags_of, BitVec.getLsbD_xor]
  simp [VCPU_EFLAGS_AF]

theorem carry_of_eq (e : U32) : carry_of 8 e = (BitVec.ofBool (flags_of e).cy).setWidth 8 := by
  rw [carry_of, carry_set]
  change _ = (BitVec.ofBool (e.getLsbD 0)).setWidth 8
  cases e.getLsbD 0 <;> rfl

/-- Sums: the carry in is what tells `_a_adc` from `_a_add`. -/
theorem add_eq {o : Arith 8} {c : Bool} (e : U32)
    (hr : o.result = o.opr1 + o.opr2 + (BitVec.ofBool c).setWidth 8)
    (hc : carry_out o e = decide (256 ≤ o.opr1.toNat + o.opr2.toNat + c.toNat)) :
    o.result = (Intel8080.add o.opr1 o.opr2 c).1 ∧
      flags_of (kaf_set_flags o ADD_FLAG e) = (Intel8080.add o.opr1 o.opr2 c).2 := by
  have hsum : o.result = (Intel8080.add o.opr1 o.opr2 c).1 := by
    rw [hr, Intel8080.add, sum_eq]
  refine ⟨hsum, ?_⟩
  rw [kaf_set_flags_named add_flag_names, if_pos rfl, if_pos rfl, hc, hr, half_carry]
  simp only [Intel8080.add, sum_eq, BitVec.setWidth_eq]

/-- Differences, with the auxiliary carry of the native unit. -/
theorem sub_eq {o : Arith 8} {c : Bool} (e : U32)
    (hr : o.result = o.opr1 - (o.opr2 + (BitVec.ofBool c).setWidth 8))
    (hc : carry_out o e = decide (o.opr1.toNat + (255 - o.opr2.toNat) + (!c).toNat < 256)) :
    o.result = (Intel8080.sub o.opr1 o.opr2 c).1 ∧
      flags_of (kaf_set_flags o ADD_FLAG e ^^^ VCPU_EFLAGS_AF) =
        (Intel8080.sub o.opr1 o.opr2 c).2 := by
  have hdifference : o.result = (Intel8080.sub o.opr1 o.opr2 c).1 := by
    rw [hr, Intel8080.sub, difference_eq]
  refine ⟨hdifference, ?_⟩
  rw [flags_of_flip_AF, kaf_set_flags_named add_flag_names, if_pos rfl, if_pos rfl, hc, hr,
    half_borrow, Bool.not_not]
  simp only [Intel8080.sub, difference_eq, BitVec.setWidth_eq]

/-! The carry of each operation of the unit. -/

theorem carry_out_add (x y : U8) (e : U32) :
    carry_out ⟨.add, x, y, x + y⟩ e = decide (256 ≤ x.toNat + y.toNat + false.toNat) := by
  rw [← carry_sum, carry_out, kaf_calc_CF, flags_of_make_CF]
  simp

theorem carry_out_adc (x y : U8) (e : U32) :
    carry_out ⟨.adc, x, y, x + y + carry_of 8 e⟩ e =
      decide (256 ≤ x.toNat + y.toNat + (flags_of e).cy.toNat) := by
  rw [← carry_sum, carry_out, kaf_calc_CF, flags_of_make_CF, carry_of_eq, carry_set]
  rfl

theorem carry_out_sub (x y : U8) (e : U32) :
    carry_out ⟨.sub, x, y, x - y⟩ e =
      decide (x.toNat + (255 - y.toNat) + (!false).toNat < 256) := by
  rw [carry_out, kaf_calc_CF, flags_of_make_CF]
  have hx := x.isLt
  have hy := y.isLt
  simp only [BitVec.lt_def, Bool.not_false, Bool.toNat_true]
  exact decide_eq_decide.mpr (by omega)

theorem carry_out_sbb (x y : U8) (e : U32) :
    carry_out ⟨.sbb, x, y, x - (y + carry_of 8 e)⟩ e =
      decide (x.toNat + (255 - y.toNat) + (!(flags_of e).cy).toNat < 256) := by
  rw [← borrow_difference, carry_out, kaf_calc_CF, flags_of_make_CF, carry_of_eq, carry_set]
  rfl

theorem a_add_spec (x y : U8) (e : U32) :
    (a_add x y e).1 = (Intel8080.add x y false).1 ∧
      flags_of (a_add x y e).2 = (Intel8080.add x y false).2 :=
  add_eq (o := ⟨.add, x, y, x + y⟩) e (by simp) (carry_out_add x y e)

theorem a_adc_spec (x y : U8) (e : U32) :
    (a_adc x y e).1 = (Intel8080.add x y (flags_of e).cy).1 ∧
      flags_of (a_adc x y e).2 = (Intel8080.add x y (flags_of e).cy).2 :=
  add_eq (o := ⟨.adc, x, y, x + y + carry_of 8 e⟩) e (by rw [carry_of_eq]) (carry_out_adc x y e)

theorem a_sub_spec (x y : U8) (e : U32) :
    (a_sub x y e).1 = (Intel8080.sub x y false).1 ∧
      flags_of ((a_sub x y e).2 ^^^ VCPU_EFLAGS_AF) = (Intel8080.sub x y false).2 :=
  sub_eq (o := ⟨.sub, x, y, x - y⟩) e (by simp) (carry_out_sub x y e)

theorem a_sbb_spec (x y : U8) (e : U32) :
    (a_sbb x y e).1 = (Intel8080.sub x y (flags_of e).cy).1 ∧
      flags_of ((a_sbb x y e).2 ^^^ VCPU_EFLAGS_AF) = (Intel8080.sub x y (flags_of e).cy).2 :=
  sub_eq (o := ⟨.sbb, x, y, x - (y + carry_of 8 e)⟩) e (by rw [carry_of_eq])
    (carry_out_sbb x y e)

/-- Logical operations, once the auxiliary carry has been put in. -/
theorem a_logic_spec (x y result : U8) (ac : Bool) (e : U32) :
    (a_logic x y result e).1 = (Intel8080.logic result ac).1 ∧
      flags_of (bit_make (a_logic x y result e).2 VCPU_EFLAGS_AF ac) =
        (Intel8080.logic result ac).2 := by
  refine ⟨rfl, ?_⟩
  rw [a_logic, kac_arith, flags_of_make_AF, flags_of_make_CF, flags_of_make_OF,
    kaf_set_flags_named or_flag_names]
  rfl

theorem and_eight (v : U8) : (v &&& 8 != 0) = v.getLsbD 3 := by
  revert v
  decide +kernel

/-- The eight operations, with the flags they leave. -/
theorem nec_alu_spec (op : Intel8080.Alu) (x y : U8) (e : U32) :
    (nec_alu op.code x y e).1 = (op.result x y (flags_of e).cy).1 ∧
      flags_of (nec_alu op.code x y e).2 = (op.result x y (flags_of e).cy).2 := by
  have hcommit : ∀ (r : U8) (f : U32) (s : U8 × Intel8080.Flags), r = s.1 ∧ flags_of f = s.2 →
      r = s.1 ∧ flags_of (nec_commit_flags f e 0xd5) = s.2 := by
    intro r f s h
    rw [commit_all]
    exact h
  cases op with
  | add => exact hcommit _ _ _ (a_add_spec x y e)
  | adc => exact hcommit _ _ _ (a_adc_spec x y e)
  | sub => exact hcommit _ _ _ (a_sub_spec x y e)
  | sbb => exact hcommit _ _ _ (a_sbb_spec x y e)
  | ana =>
    have h := a_logic_spec x y (x &&& y) ((x ||| y).getLsbD 3) e
    rw [← and_eight] at h
    refine hcommit _ _ _ ⟨h.1, h.2.trans ?_⟩
    rw [and_eight]
    rfl
  | xra => exact hcommit _ _ _ (a_logic_spec x y (x ^^^ y) false e)
  | ora => exact hcommit _ _ _ (a_logic_spec x y (x ||| y) false e)
  | cmp => exact hcommit _ _ _ (a_sub_spec x y e)

/-! `INR` and `DCR` keep the carry. -/

theorem nec_inr_spec (v : U8) (e : U32) :
    (nec_inr v e).1 = (Intel8080.add v 1 false).1 ∧
      flags_of (nec_inr v e).2 =
        { (Intel8080.add v 1 false).2 with cy := (flags_of e).cy } := by
  obtain ⟨hr, hf⟩ := a_add_spec v 1 e
  refine ⟨hr, ?_⟩
  rw [nec_inr, commit_but_carry, ← hf]
  simp only [a_inc, a_add, kac_arith, kaf_set_flags_named inc_flag_names,
    kaf_set_flags_named add_flag_names]

theorem nec_dcr_spec (v : U8) (e : U32) :
    (nec_dcr v e).1 = (Intel8080.sub v 1 false).1 ∧
      flags_of (nec_dcr v e).2 =
        { (Intel8080.sub v 1 false).2 with cy := (flags_of e).cy } := by
  obtain ⟨hr, hf⟩ := a_sub_spec v 1 e
  refine ⟨hr, ?_⟩
  rw [nec_dcr, commit_but_carry, ← hf]
  simp only [a_dec, a_sub, kac_arith, flags_of_flip_AF, kaf_set_flags_named inc_flag_names,
    kaf_set_flags_named add_flag_names]

theorem nec_dad_spec (x y : U16) (e : U32) :
    (nec_dad x y e).1 = x + y ∧
      flags_of (nec_dad x y e).2 =
        { flags_of e with cy := decide (65536 ≤ x.toNat + y.toNat) } := by
  refine ⟨rfl, ?_⟩
  have hcarry : carry_out ⟨.add, x, y, x + y⟩ e = decide (65536 ≤ x.toNat + y.toNat) := by
    rw [carry_out, kaf_calc_CF, flags_of_make_CF]
    have hx := x.isLt
    have hy := y.isLt
    simp only [BitVec.lt_def, BitVec.toNat_add, ← Bool.decide_or]
    exact decide_eq_decide.mpr (by omega)
  rw [nec_dad, commit_carry, ← hcarry, a_add, kac_arith, kaf_set_flags_named add_flag_names]
  rfl

/-! The rotations by one, and the bits they move. -/

theorem rotate_left_eq (x : U8) (c : Bool) :
    (x <<< 1) ||| (x >>> 7) = x.extractLsb' 0 7 ++ BitVec.ofBool (x.getLsbD 7) ∧
      (x <<< 1) ||| (BitVec.ofBool c).setWidth 8 = x.extractLsb' 0 7 ++ BitVec.ofBool c := by
  revert x c
  decide +kernel

theorem rotate_right_eq (x : U8) (c : Bool) :
    (x >>> 1) ||| (x <<< 7) = BitVec.ofBool (x.getLsbD 0) ++ x.extractLsb' 1 7 ∧
      (x >>> 1) ||| ((BitVec.ofBool c).setWidth 8 <<< 7) =
        BitVec.ofBool c ++ x.extractLsb' 1 7 := by
  revert x c
  decide +kernel

theorem rotated_bit (x : U8) :
    ((x <<< 1) ||| (x >>> 7)).getLsbD 0 = x.getLsbD 7 ∧
      ((x >>> 1) ||| (x <<< 7)).getLsbD 7 = x.getLsbD 0 := by
  revert x
  decide +kernel

/-- A rotation changes the carry and nothing else of the flags. -/
theorem nec_rotate_spec (kind : Intel8080.Rotate) (x : U8) (e : U32) :
    (nec_rotate (kind.code.setWidth 2) x e).1 = (kind.result x (flags_of e).cy).1 ∧
      flags_of (nec_rotate (kind.code.setWidth 2) x e).2 =
        { flags_of e with cy := (kind.result x (flags_of e).cy).2 } := by
  have hcommit : ∀ (r : U8) (carry overflow : Bool) (s : U8 × Bool), r = s.1 → carry = s.2 →
      r = s.1 ∧
        flags_of (nec_commit_flags
            (bit_make (bit_make e VCPU_EFLAGS_CF carry) VCPU_EFLAGS_OF overflow) e
            VCPU_EFLAGS_CF) =
          { flags_of e with cy := s.2 } := by
    intro r carry overflow s hr hc
    rw [commit_carry, flags_of_make_OF, flags_of_make_CF, hc]
    exact ⟨hr, rfl⟩
  cases kind with
  | rlc => exact hcommit _ _ _ _ (rotate_left_eq x false).1 (rotated_bit x).1
  | rrc => exact hcommit _ _ _ _ (rotate_right_eq x false).1 (rotated_bit x).2
  | ral =>
    have h := (rotate_left_eq x (bit_is_set e VCPU_EFLAGS_CF)).2
    exact hcommit _ _ _ _ (h.trans (by rw [carry_set]; rfl)) rfl
  | rar =>
    have h := (rotate_right_eq x (bit_is_set e VCPU_EFLAGS_CF)).2
    exact hcommit _ _ _ _ (h.trans (by rw [carry_set]; rfl)) rfl

/-- The correction of `DAA`, added at once instead of digit by digit. -/
theorem daa_correction (x : U8) (ac cy : Bool) :
    let correction : U8 :=
      (if 9 < x &&& 15 ∨ ac then 6 else 0) ||| (if 0x99 < x ∨ cy then 0x60 else 0)
    (Intel8080.add x correction false).1 = (Intel8080.daa x ⟨false, false, ac, false, cy⟩).1 ∧
      { (Intel8080.add x correction false).2 with
        cy := (Intel8080.add x correction false).2.cy || cy } =
          (Intel8080.daa x ⟨false, false, ac, false, cy⟩).2 := by
  revert x ac cy
  decide +kernel

theorem half_carry_set (e : U32) : bit_is_set e VCPU_EFLAGS_AF = e.getLsbD 4 :=
  bit_is_set_twoPow e 4

theorem nec_daa_spec (x : U8) (e : U32) :
    (nec_daa x e).1 = (Intel8080.daa x (flags_of e)).1 ∧
      flags_of (nec_daa x e).2 = (Intel8080.daa x (flags_of e)).2 := by
  have hkeep : ∀ f : U32, flags_of (f ||| (e &&& VCPU_EFLAGS_CF)) =
      { flags_of f with cy := (flags_of f).cy || (flags_of e).cy } := by
    intro f
    simp [flags_of, VCPU_EFLAGS_CF]
  have h := daa_correction x (flags_of e).ac (flags_of e).cy
  rw [nec_daa, commit_all, hkeep]
  simp only [carry_set, half_carry_set]
  rw [(a_add_spec x _ e).1, (a_add_spec x _ e).2]
  exact h

end Nxvm.Nec
