/-
Shifts and rotations of the arithmetic unit (`_a_shift_rotate_count`, `_a_rotate`,
`_a_rotate_carry`, `_a_shift`) in native mode, with the counts of every profile.

The unit computes the result of a count at once: a rotation by the remainder of the count, with
the carry in the ring or not, or a shift whose amount is cut at the width. An instruction of
that count is defined as its one-bit form repeated; the two are compared here, result, carry
and, for a count of one, overflow.
-/
import Nxvm.Nec.Multiword
import Nxvm.Lib.Rotation

set_option autoImplicit false

namespace Nxvm.Nec

open Nxvm.Cpu Nxvm.Lib Nxvm.Lib.Rotation

variable {w : ℕ}

/-! ## The unit -/

/-- `x86_core_cpu_profile_has_8086_semantics`. -/
def profile_has_8086_semantics (profile : Profile) : Bool :=
  profile = .p8086 || profile = .p8088

/-- `_a_shift_rotate_count`. -/
def a_shift_rotate_count (profile : Profile) (csrc : U8) : ℕ :=
  if profile_has_8086_semantics profile || profile = .v30 then csrc.toNat
  else (csrc &&& 0x1f).toNat

/-- `x86_cpu_shift_kind`. -/
inductive ShiftKind where
  | left
  | right
  | arithmetic
  deriving DecidableEq, Repr

/-- `_a_shift`, with the count as the profile takes it. -/
def a_shift (cdest : BitVec w) (count : ℕ) (kind : ShiftKind) (eflags : U32) : BitVec w × U32 :=
  if count = 0 then (cdest, eflags)
  else
    let sign := cdest.getLsbD (w - 1)
    let carry :=
      if kind = .left then if count ≤ w then cdest.getLsbD (w - count) else false
      else if count ≤ w then cdest.getLsbD (count - 1) else kind = .arithmetic && sign
    let result :=
      if kind = .left then if count < w then cdest <<< count else 0
      else
        let result := if count < w then cdest >>> count else 0
        if kind = .arithmetic && sign then
          result ||| (if count < w then BitVec.allOnes w ^^^ (BitVec.allOnes w >>> count)
            else BitVec.allOnes w)
        else result
    let eflags := bit_make eflags VCPU_EFLAGS_CF carry
    let overflow :=
      if kind = .left then result.getLsbD (w - 1) ^^ carry else kind = .right && sign
    let eflags := if count = 1 then bit_make eflags VCPU_EFLAGS_OF overflow else eflags
    (result, kaf_set_flags ⟨.logic, cdest, BitVec.ofNat w count, result⟩ OR_FLAG eflags)

/-- The operations that take a count. -/
inductive ShiftOp where
  | rol
  | ror
  | rcl
  | rcr
  | shl
  | shr
  | sar
  deriving DecidableEq, Repr

/-- The effective count of an operation: that of the profile, but for a rotation of 32 bits
through the carry, whose count has five bits everywhere. -/
def shift_count (op : ShiftOp) (profile : Profile) (w : ℕ) (csrc : U8) : ℕ :=
  if (op = .rcl ∨ op = .rcr) ∧ w = 32 then (csrc &&& 0x1f).toNat
  else a_shift_rotate_count profile csrc

/-- `_a_rol` to `_a_sar`. -/
def shift_rotate (op : ShiftOp) (profile : Profile) (cdest : BitVec w) (csrc : U8) :
    U32 → BitVec w × U32 :=
  let count := shift_count op profile w csrc
  match op with
  | .rol => a_rotate cdest count false
  | .ror => a_rotate cdest count true
  | .rcl => a_rotate_carry cdest count false
  | .rcr => a_rotate_carry cdest count true
  | .shl => a_shift cdest count .left
  | .shr => a_shift cdest count .right
  | .sar => a_shift cdest count .arithmetic

/-! ## One bit at a time -/

/-- The one-bit form of an operation, on an operand and the carry: one bit comes in, the bit at
the other end becomes the carry. -/
def one_bit (op : ShiftOp) (s : BitVec w × Bool) : BitVec w × Bool :=
  match op with
  | .rol => (shift_left_in s.1 s.1.msb, s.1.msb)
  | .ror => (shift_right_in (s.1.getLsbD 0) s.1, s.1.getLsbD 0)
  | .rcl => (shift_left_in s.1 s.2, s.1.msb)
  | .rcr => (shift_right_in s.2 s.1, s.1.getLsbD 0)
  | .shl => (shift_left_in s.1 false, s.1.msb)
  | .shr => (shift_right_in false s.1, s.1.getLsbD 0)
  | .sar => (shift_right_in s.1.msb s.1, s.1.getLsbD 0)

/-- The result and the carry are those of `count` one-bit forms; one of them changes the sign
when it sets the overflow flag. -/
def Repeats (op : ShiftOp) (x : BitVec w) (e : U32) (count : ℕ) (r : BitVec w × U32) : Prop :=
  (r.1, CF r.2) = (one_bit op)^[count] (x, CF e) ∧
    (count = 0 → r.1 = x ∧ CF r.2 = CF e) ∧
    (count = 1 → OF r.2 = (r.1.msb != x.msb))

theorem Repeats.of_zero (op : ShiftOp) (x : BitVec w) (e : U32) : Repeats op x e 0 (x, e) :=
  ⟨rfl, fun _ => ⟨rfl, rfl⟩, fun h => absurd h (by decide)⟩

/-- What a count other than zero has to give. -/
theorem Repeats.of_pos {op : ShiftOp} {x : BitVec w} {e : U32} {count : ℕ} {r : BitVec w × U32}
    (hcount : count ≠ 0) (hruns : (r.1, CF r.2) = (one_bit op)^[count] (x, CF e))
    (hone : count = 1 → OF r.2 = (r.1.msb != x.msb)) : Repeats op x e count r :=
  ⟨hruns, fun h => absurd h hcount, hone⟩

/-! ## Rotations -/

/-- The mask of a width that is a power of two is the remainder. -/
theorem and_width (hw : w = 8 ∨ w = 16 ∨ w = 32) (count : ℕ) : count &&& (w - 1) = count % w := by
  rcases hw with rfl | rfl | rfl
  · exact Nat.and_two_pow_sub_one_eq_mod count 3
  · exact Nat.and_two_pow_sub_one_eq_mod count 4
  · exact Nat.and_two_pow_sub_one_eq_mod count 5

theorem rol_iterate (n : ℕ) (s : BitVec w × Bool) :
    ((one_bit .rol)^[n] s).1 = rotate_left_one^[n] s.1 := by
  induction n with
  | zero => rfl
  | succ n ih =>
    rw [Function.iterate_succ_apply', Function.iterate_succ_apply', ← ih]
    rfl

theorem ror_iterate (n : ℕ) (s : BitVec w × Bool) :
    ((one_bit .ror)^[n] s).1 = rotate_right_one^[n] s.1 := by
  induction n with
  | zero => rfl
  | succ n ih =>
    rw [Function.iterate_succ_apply', Function.iterate_succ_apply', ← ih]
    rfl

/-- After a rotation to the left the carry is the lowest bit. -/
theorem rol_run (hw : 0 < w) {count : ℕ} (hcount : count ≠ 0) (x : BitVec w) (c : Bool) :
    (one_bit .rol)^[count] (x, c) = (rotate_left x count, (rotate_left x count).getLsbD 0) := by
  obtain ⟨n, rfl⟩ := Nat.exists_eq_succ_of_ne_zero hcount
  have hfst := rol_iterate (n + 1) (x, c)
  rw [rotate_left_iterate hw] at hfst
  rw [Function.iterate_succ_apply'] at hfst ⊢
  apply Prod.ext hfst
  rw [← hfst]
  show BitVec.msb _ = (shift_left_in _ _).getLsbD 0
  rw [getLsbD_shift_left_in _ _ hw, if_pos rfl]

/-- After a rotation to the right the carry is the highest bit. -/
theorem ror_run (hw : 0 < w) {count : ℕ} (hcount : count ≠ 0) (x : BitVec w) (c : Bool) :
    (one_bit .ror)^[count] (x, c) =
      (rotate_right x count, (rotate_right x count).getLsbD (w - 1)) := by
  obtain ⟨n, rfl⟩ := Nat.exists_eq_succ_of_ne_zero hcount
  have hfst := ror_iterate (n + 1) (x, c)
  rw [rotate_right_iterate hw] at hfst
  rw [Function.iterate_succ_apply'] at hfst ⊢
  apply Prod.ext hfst
  rw [← hfst]
  show BitVec.getLsbD _ 0 = (shift_right_in _ _).getLsbD (w - 1)
  rw [getLsbD_shift_right_in _ _ (by omega), if_pos rfl]

theorem a_rol_repeats (hw : w = 8 ∨ w = 16 ∨ w = 32) (x : BitVec w) (count : ℕ) (e : U32) :
    Repeats .rol x e count (a_rotate x count false e) := by
  have hpos : 0 < w := by omega
  unfold a_rotate
  by_cases hcount : count = 0
  · rw [if_pos hcount, hcount]
    exact Repeats.of_zero .rol x e
  · rw [if_neg hcount, and_width hw]
    have hresult : (if count % w = 0 then x
        else if false = true then (x >>> (count % w)) ||| (x <<< (w - count % w))
        else (x <<< (count % w)) ||| (x >>> (w - count % w))) = rotate_left x count := rfl
    dsimp only
    rw [hresult, if_neg Bool.false_ne_true, if_neg Bool.false_ne_true]
    apply Repeats.of_pos hcount
    · rw [rol_run hpos hcount]
      by_cases hone : count = 1
      · rw [if_pos hone, CF_bit_make_OF, CF_bit_make_CF]
      · rw [if_neg hone, CF_bit_make_CF]
    · intro hone
      have hlow : (rotate_left x count).getLsbD 0 = x.msb := by
        have hrun := congrArg Prod.snd (rol_run hpos hcount x false)
        rw [hone] at hrun ⊢
        exact hrun.symm
      rw [if_pos hone, OF_bit_make_OF, hlow, BitVec.msb_eq_getLsbD_last (rotate_left x count)]

theorem a_ror_repeats (hw : w = 8 ∨ w = 16 ∨ w = 32) (x : BitVec w) (count : ℕ) (e : U32) :
    Repeats .ror x e count (a_rotate x count true e) := by
  have hpos : 0 < w := by omega
  unfold a_rotate
  by_cases hcount : count = 0
  · rw [if_pos hcount, hcount]
    exact Repeats.of_zero .ror x e
  · rw [if_neg hcount, and_width hw]
    have hresult : (if count % w = 0 then x
        else if true = true then (x >>> (count % w)) ||| (x <<< (w - count % w))
        else (x <<< (count % w)) ||| (x >>> (w - count % w))) = rotate_right x count := rfl
    dsimp only
    rw [hresult, if_pos rfl, if_pos rfl]
    apply Repeats.of_pos hcount
    · rw [ror_run hpos hcount]
      by_cases hone : count = 1
      · rw [if_pos hone, CF_bit_make_OF, CF_bit_make_CF]
      · rw [if_neg hone, CF_bit_make_CF]
    · intro hone
      -- the bit below the top is the sign that was
      have hnext : (rotate_right x count).getLsbD (w - 2) = x.msb := by
        rw [getLsbD_rotate_right x count (by omega), hone, BitVec.msb_eq_getLsbD_last,
          Nat.mod_eq_of_lt (show 1 < w by omega), Nat.mod_eq_of_lt (by omega)]
        congr 1
        omega
      rw [if_pos hone, OF_bit_make_OF, hnext, BitVec.msb_eq_getLsbD_last (rotate_right x count)]

/-! ## Rotations through the carry -/

/-- Operand and carry as one ring. -/
def ring_of (s : BitVec w × Bool) : BitVec (1 + w) := BitVec.ofBool s.2 ++ s.1

/-- Operand and carry of a ring. -/
def of_ring (r : BitVec (1 + w)) : BitVec w × Bool := (r.setWidth w, r.getLsbD w)

theorem getLsbD_ring_of (s : BitVec w × Bool) {i : ℕ} (hi : i < 1 + w) :
    (ring_of s).getLsbD i = if i = w then s.2 else s.1.getLsbD i := by
  rw [ring_of, BitVec.getLsbD_append]
  by_cases h : i = w
  · rw [if_pos h, h]
    simp
  · rw [if_neg h]
    simp [show i < w by omega]

theorem of_ring_of (s : BitVec w × Bool) : of_ring (ring_of s) = s := by
  apply Prod.ext
  · apply BitVec.eq_of_getLsbD_eq
    intro i hi
    show ((ring_of s).setWidth w).getLsbD i = _
    rw [BitVec.getLsbD_setWidth, getLsbD_ring_of s (by omega), if_neg (by omega)]
    simp [hi]
  · show (ring_of s).getLsbD w = _
    rw [getLsbD_ring_of s (by omega), if_pos rfl]

/-- RCL by one turns the ring. -/
theorem ring_of_rcl (hw : 0 < w) (s : BitVec w × Bool) :
    ring_of (one_bit .rcl s) = rotate_left_one (ring_of s) := by
  apply BitVec.eq_of_getLsbD_eq
  intro i hi
  have hmsb : (ring_of s).msb = s.2 := by
    rw [BitVec.msb_eq_getLsbD_last, getLsbD_ring_of s (by omega), if_pos (by omega)]
  rw [getLsbD_ring_of _ hi, rotate_left_one, getLsbD_shift_left_in _ _ hi, hmsb]
  by_cases h0 : i = 0
  · rw [if_neg (by omega), if_pos h0]
    show (shift_left_in s.1 s.2).getLsbD i = s.2
    rw [getLsbD_shift_left_in _ _ (by omega), if_pos h0]
  · rw [if_neg h0, getLsbD_ring_of s (by omega), if_neg (show ¬ i - 1 = w by omega)]
    by_cases hlast : i = w
    · rw [if_pos hlast, hlast]
      exact BitVec.msb_eq_getLsbD_last s.1
    · rw [if_neg hlast]
      show (shift_left_in s.1 s.2).getLsbD i = _
      rw [getLsbD_shift_left_in _ _ (by omega), if_neg h0]

/-- RCR by one turns it back. -/
theorem ring_of_rcr (hw : 0 < w) (s : BitVec w × Bool) :
    ring_of (one_bit .rcr s) = rotate_right_one (ring_of s) := by
  apply BitVec.eq_of_getLsbD_eq
  intro i hi
  rw [getLsbD_ring_of _ hi, rotate_right_one, getLsbD_shift_right_in _ _ hi,
    getLsbD_ring_of s (show 0 < 1 + w by omega), if_neg (show ¬ 0 = w by omega)]
  by_cases hlast : i = w
  · rw [if_pos hlast, if_pos (by omega)]
    rfl
  · rw [if_neg hlast, if_neg (by omega), getLsbD_ring_of s (by omega)]
    show (shift_right_in s.2 s.1).getLsbD i = _
    rw [getLsbD_shift_right_in _ _ (by omega)]
    by_cases htop : i = w - 1
    · rw [if_pos htop, if_pos (by omega)]
    · rw [if_neg htop, if_neg (by omega)]

theorem rcl_iterate (hw : 0 < w) (n : ℕ) (s : BitVec w × Bool) :
    (one_bit .rcl)^[n] s = of_ring (rotate_left (ring_of s) n) := by
  have hconj : Function.Semiconj (ring_of (w := w)) (one_bit .rcl) rotate_left_one :=
    fun s => ring_of_rcl hw s
  rw [← rotate_left_iterate (by omega), ← (hconj.iterate_right n) s, of_ring_of]

theorem rcr_iterate (hw : 0 < w) (n : ℕ) (s : BitVec w × Bool) :
    (one_bit .rcr)^[n] s = of_ring (rotate_right (ring_of s) n) := by
  have hconj : Function.Semiconj (ring_of (w := w)) (one_bit .rcr) rotate_right_one :=
    fun s => ring_of_rcr hw s
  rw [← rotate_right_iterate (by omega), ← (hconj.iterate_right n) s, of_ring_of]

/-- The single rotation through the carry is the one-bit form. -/
theorem a_rotate_carry_once_left (hw : 0 < w) (x : BitVec w) (e : U32) :
    Repeats .rcl x e 1 (a_rotate_carry_once x false e) := by
  have hresult : (x <<< 1) ||| (BitVec.ofBool (bit_is_set e VCPU_EFLAGS_CF)).setWidth w =
      shift_left_in x (CF e) := by
    apply BitVec.eq_of_getLsbD_eq
    intro i hi
    rw [getLsbD_shift_left_in _ _ hi, BitVec.getLsbD_or, BitVec.getLsbD_shiftLeft,
      BitVec.getLsbD_setWidth, BitVec.getLsbD_ofBool, carry_set, CF]
    by_cases h : i = 0
    · simp [h, hw]
    · simp [h, hi, show ¬ i < 1 by omega]
  unfold a_rotate_carry_once
  rw [if_neg Bool.false_ne_true]
  apply Repeats.of_pos (by decide)
  · rw [Function.iterate_one, CF_bit_make_OF, CF_bit_make_CF, hresult,
      ← BitVec.msb_eq_getLsbD_last]
    rfl
  · intro _
    rw [OF_bit_make_OF, ← BitVec.msb_eq_getLsbD_last, ← BitVec.msb_eq_getLsbD_last]

theorem a_rotate_carry_once_right (hw : 0 < w) (x : BitVec w) (e : U32) :
    Repeats .rcr x e 1 (a_rotate_carry_once x true e) := by
  unfold a_rotate_carry_once
  rw [if_pos rfl]
  apply Repeats.of_pos (by decide)
  · rw [Function.iterate_one, CF_bit_make_OF, CF_bit_make_CF, carry_set]
    rfl
  · intro _
    have htop : (shift_right_in (CF e) x).msb = CF e := by
      rw [BitVec.msb_eq_getLsbD_last, getLsbD_shift_right_in _ _ (by omega), if_pos rfl]
    rw [OF_bit_make_OF, carry_set, ← BitVec.msb_eq_getLsbD_last]
    show (x.msb != CF e) = ((shift_right_in (CF e) x).msb != x.msb)
    rw [htop]
    exact bne_comm

/-- The ring of the source, for any count. -/
theorem a_rotate_carry_ring_eq (x : BitVec w) (count : ℕ) (right : Bool) (e : U32) :
    let r := a_rotate_carry_ring x count right e
    (r.1, CF r.2) = of_ring
      (if right then rotate_right (ring_of (x, CF e)) count
        else rotate_left (ring_of (x, CF e)) count) := by
  intro r
  have hr : r = a_rotate_carry_ring x count right e := rfl
  have hring : BitVec.ofBool (bit_is_set e VCPU_EFLAGS_CF) ++ x = ring_of (x, CF e) := by
    rw [carry_set]
    rfl
  unfold a_rotate_carry_ring at hr
  rw [hring, Nat.add_comm w 1] at hr
  unfold rotate_right rotate_left
  by_cases hzero : count % (1 + w) = 0
  · rw [if_pos hzero] at hr
    rw [hr, if_pos hzero, if_pos hzero, ite_self]
    exact (of_ring_of (x, CF e)).symm
  · rw [if_neg hzero] at hr
    rw [hr, if_neg hzero, if_neg hzero, CF_bit_make_CF]
    rfl

theorem a_rcl_repeats (hw : 0 < w) (x : BitVec w) (count : ℕ) (e : U32) :
    Repeats .rcl x e count (a_rotate_carry x count false e) := by
  unfold a_rotate_carry
  by_cases hcount : count = 0
  · rw [if_pos hcount, hcount]
    exact Repeats.of_zero .rcl x e
  · rw [if_neg hcount]
    by_cases hone : count = 1
    · rw [if_pos hone, hone]
      exact a_rotate_carry_once_left hw x e
    · rw [if_neg hone]
      apply Repeats.of_pos hcount
      · rw [rcl_iterate hw]
        exact a_rotate_carry_ring_eq x count false e
      · intro h
        exact absurd h hone

theorem a_rcr_repeats (hw : 0 < w) (x : BitVec w) (count : ℕ) (e : U32) :
    Repeats .rcr x e count (a_rotate_carry x count true e) := by
  unfold a_rotate_carry
  by_cases hcount : count = 0
  · rw [if_pos hcount, hcount]
    exact Repeats.of_zero .rcr x e
  · rw [if_neg hcount]
    by_cases hone : count = 1
    · rw [if_pos hone, hone]
      exact a_rotate_carry_once_right hw x e
    · rw [if_neg hone]
      apply Repeats.of_pos hcount
      · rw [rcr_iterate hw]
        exact a_rotate_carry_ring_eq x count true e
      · intro h
        exact absurd h hone

/-! ## Shifts -/

theorem shl_run (hw : 0 < w) (n : ℕ) (x : BitVec w) (c : Bool) :
    (one_bit .shl)^[n + 1] (x, c) =
      (x <<< (n + 1), if n + 1 ≤ w then x.getLsbD (w - (n + 1)) else false) := by
  have hstep : ∀ s : BitVec w × Bool, one_bit .shl s = (s.1 <<< 1, s.1.msb) := by
    intro s
    apply Prod.ext
    · apply BitVec.eq_of_getLsbD_eq
      intro i hi
      show (shift_left_in s.1 false).getLsbD i = _
      rw [getLsbD_shift_left_in _ _ hi, BitVec.getLsbD_shiftLeft]
      by_cases h : i = 0
      · simp [h]
      · simp [h, hi, show ¬ i < 1 by omega]
    · rfl
  have hfst : ∀ k, ((one_bit .shl)^[k] (x, c)).1 = x <<< k := by
    intro k
    induction k with
    | zero => rw [Function.iterate_zero_apply, BitVec.shiftLeft_zero]
    | succ k ih => rw [Function.iterate_succ_apply', hstep, ih, BitVec.shiftLeft_add]
  rw [Function.iterate_succ_apply', hstep, hfst, BitVec.shiftLeft_add]
  refine Prod.ext rfl ?_
  show (x <<< n).msb = _
  rw [BitVec.msb_eq_getLsbD_last, BitVec.getLsbD_shiftLeft]
  by_cases h : n + 1 ≤ w
  · rw [if_pos h]
    have hsub : w - 1 - n = w - (n + 1) := by omega
    simp [show w - 1 < w by omega, show ¬ w - 1 < n by omega, hsub]
  · rw [if_neg h]
    simp [show w - 1 < n by omega]

theorem shr_run (hw : 0 < w) (n : ℕ) (x : BitVec w) (c : Bool) :
    (one_bit .shr)^[n + 1] (x, c) = (x >>> (n + 1), x.getLsbD n) := by
  have hstep : ∀ s : BitVec w × Bool, one_bit .shr s = (s.1 >>> 1, s.1.getLsbD 0) := by
    intro s
    apply Prod.ext
    · apply BitVec.eq_of_getLsbD_eq
      intro i hi
      show (shift_right_in false s.1).getLsbD i = _
      rw [getLsbD_shift_right_in _ _ hi, BitVec.getLsbD_ushiftRight, Nat.add_comm 1 i]
      by_cases h : i = w - 1
      · rw [if_pos h, BitVec.getLsbD_of_ge _ _ (by omega)]
      · rw [if_neg h]
    · rfl
  have hfst : ∀ k, ((one_bit .shr)^[k] (x, c)).1 = x >>> k := by
    intro k
    induction k with
    | zero => rw [Function.iterate_zero_apply, BitVec.ushiftRight_zero]
    | succ k ih => rw [Function.iterate_succ_apply', hstep, ih, BitVec.shiftRight_add]
  rw [Function.iterate_succ_apply', hstep, hfst, BitVec.shiftRight_add]
  refine Prod.ext rfl ?_
  show (x >>> n).getLsbD 0 = _
  rw [BitVec.getLsbD_ushiftRight, Nat.add_zero]

theorem sar_run (hw : 0 < w) (n : ℕ) (x : BitVec w) (c : Bool) :
    (one_bit .sar)^[n + 1] (x, c) =
      (x.sshiftRight (n + 1), if n < w then x.getLsbD n else x.msb) := by
  have hstep : ∀ s : BitVec w × Bool, one_bit .sar s = (s.1.sshiftRight 1, s.1.getLsbD 0) := by
    intro s
    apply Prod.ext
    · apply BitVec.eq_of_getLsbD_eq
      intro i hi
      show (shift_right_in s.1.msb s.1).getLsbD i = _
      rw [getLsbD_shift_right_in _ _ hi, BitVec.getLsbD_sshiftRight, Nat.add_comm 1 i]
      by_cases h : i = w - 1
      · simp [h, show w - 1 + 1 = w by omega, hw]
      · simp [h, hi, show i + 1 < w by omega]
    · rfl
  have hfst : ∀ k, ((one_bit .sar)^[k] (x, c)).1 = x.sshiftRight k := by
    intro k
    induction k with
    | zero => rw [Function.iterate_zero_apply, BitVec.sshiftRight_zero]
    | succ k ih => rw [Function.iterate_succ_apply', hstep, ih, BitVec.sshiftRight_add]
  rw [Function.iterate_succ_apply', hstep, hfst, BitVec.sshiftRight_add]
  refine Prod.ext rfl ?_
  show (x.sshiftRight n).getLsbD 0 = _
  rw [BitVec.getLsbD_sshiftRight, Nat.add_zero]
  simp [show ¬ w ≤ 0 by omega]

/-- Sign, zero and parity leave the carry and the overflow flag. -/
theorem kaf_set_flags_or (o : Arith w) (e : U32) :
    CF (kaf_set_flags o OR_FLAG e) = CF e ∧ OF (kaf_set_flags o OR_FLAG e) = OF e := by
  have hall : kaf_set_flags o OR_FLAG e = kaf_calc_SF o (kaf_calc_ZF o (kaf_calc_PF o e)) := rfl
  have hpf := made_elsewhere e (fold_parity (o.result.setWidth 8)) VCPU_EFLAGS_PF rfl rfl
  have hzf := made_elsewhere (kaf_calc_PF o e) (o.result == 0) VCPU_EFLAGS_ZF rfl rfl
  have hsf := made_elsewhere (kaf_calc_ZF o (kaf_calc_PF o e)) o.result.msb
    VCPU_EFLAGS_SF rfl rfl
  rw [hall]
  exact ⟨hsf.1.trans (hzf.1.trans hpf.1), hsf.2.trans (hzf.2.trans hpf.2)⟩

/-- The sign of the arithmetic shift, filled in by a mask. -/
theorem sign_filled (x : BitVec w) (count : ℕ) :
    (if x.getLsbD (w - 1) then
        (if count < w then x >>> count else 0) |||
          (if count < w then BitVec.allOnes w ^^^ (BitVec.allOnes w >>> count)
            else BitVec.allOnes w)
      else if count < w then x >>> count else 0) = x.sshiftRight count := by
  apply BitVec.eq_of_getLsbD_eq
  intro i hi
  rw [BitVec.getLsbD_sshiftRight, BitVec.msb_eq_getLsbD_last]
  by_cases hlt : count < w
  · simp only [if_pos hlt]
    by_cases hsign : x.getLsbD (w - 1) = true
    · rw [if_pos hsign, hsign, BitVec.getLsbD_or, BitVec.getLsbD_xor, BitVec.getLsbD_ushiftRight,
        BitVec.getLsbD_ushiftRight, BitVec.getLsbD_allOnes, BitVec.getLsbD_allOnes]
      by_cases hin : count + i < w
      · simp [hi, hin]
      · simp [hi, hin]
    · rw [if_neg hsign, Bool.eq_false_iff.mpr hsign, BitVec.getLsbD_ushiftRight]
      by_cases hin : count + i < w
      · simp [hi, hin]
      · rw [BitVec.getLsbD_of_ge x _ (by omega)]
        simp [hin]
  · simp only [if_neg hlt]
    by_cases hsign : x.getLsbD (w - 1) = true
    · rw [if_pos hsign, hsign, BitVec.getLsbD_or, BitVec.getLsbD_allOnes]
      simp [hi, show ¬ count + i < w by omega]
    · rw [if_neg hsign, Bool.eq_false_iff.mpr hsign]
      simp [show ¬ count + i < w by omega]

theorem a_shl_repeats (hw : 0 < w) (x : BitVec w) (count : ℕ) (e : U32) :
    Repeats .shl x e count (a_shift x count .left e) := by
  unfold a_shift
  by_cases hcount : count = 0
  · rw [if_pos hcount, hcount]
    exact Repeats.of_zero .shl x e
  · rw [if_neg hcount]
    dsimp only
    rw [if_pos rfl, if_pos rfl, if_pos rfl]
    have hresult : (if count < w then x <<< count else 0) = x <<< count := by
      by_cases h : count < w
      · rw [if_pos h]
      · rw [if_neg h]
        exact (BitVec.shiftLeft_eq_zero (by omega)).symm
    rw [hresult]
    apply Repeats.of_pos hcount
    · obtain ⟨n, rfl⟩ := Nat.exists_eq_succ_of_ne_zero hcount
      rw [shl_run hw, (kaf_set_flags_or _ _).1]
      by_cases hone : n + 1 = 1
      · rw [if_pos hone, CF_bit_make_OF, CF_bit_make_CF]
      · rw [if_neg hone, CF_bit_make_CF]
    · intro hone
      rw [(kaf_set_flags_or _ _).2, if_pos hone, OF_bit_make_OF, if_pos (by omega),
        ← BitVec.msb_eq_getLsbD_last, hone, ← BitVec.msb_eq_getLsbD_last]

theorem a_shr_repeats (hw : 0 < w) (x : BitVec w) (count : ℕ) (e : U32) :
    Repeats .shr x e count (a_shift x count .right e) := by
  unfold a_shift
  by_cases hcount : count = 0
  · rw [if_pos hcount, hcount]
    exact Repeats.of_zero .shr x e
  · have hkind : ¬ ShiftKind.right = ShiftKind.left := by decide
    have harith : ¬ (decide (ShiftKind.right = ShiftKind.arithmetic) &&
        x.getLsbD (w - 1)) = true := by simp
    rw [if_neg hcount]
    dsimp only
    rw [if_neg hkind, if_neg hkind, if_neg hkind, if_neg harith]
    have hresult : (if count < w then x >>> count else 0) = x >>> count := by
      by_cases h : count < w
      · rw [if_pos h]
      · rw [if_neg h]
        exact (BitVec.ushiftRight_eq_zero (by omega)).symm
    rw [hresult, Bool.eq_false_iff.mpr harith]
    have hcarry : (if count ≤ w then x.getLsbD (count - 1) else false) = x.getLsbD (count - 1) := by
      by_cases h : count ≤ w
      · rw [if_pos h]
      · rw [if_neg h, BitVec.getLsbD_of_ge _ _ (by omega)]
    rw [hcarry]
    apply Repeats.of_pos hcount
    · obtain ⟨n, rfl⟩ := Nat.exists_eq_succ_of_ne_zero hcount
      rw [shr_run hw, (kaf_set_flags_or _ _).1]
      by_cases hone : n + 1 = 1
      · rw [if_pos hone, CF_bit_make_OF, CF_bit_make_CF]
        rfl
      · rw [if_neg hone, CF_bit_make_CF]
        rfl
    · intro hone
      have htop : (x >>> count).msb = false := by
        rw [BitVec.msb_eq_getLsbD_last, BitVec.getLsbD_ushiftRight,
          BitVec.getLsbD_of_ge _ _ (by omega)]
      rw [(kaf_set_flags_or _ _).2, if_pos hone, OF_bit_make_OF, htop, ← BitVec.msb_eq_getLsbD_last]
      simp

theorem a_sar_repeats (hw : 0 < w) (x : BitVec w) (count : ℕ) (e : U32) :
    Repeats .sar x e count (a_shift x count .arithmetic e) := by
  unfold a_shift
  by_cases hcount : count = 0
  · rw [if_pos hcount, hcount]
    exact Repeats.of_zero .sar x e
  · have hkind : ¬ ShiftKind.arithmetic = ShiftKind.left := by decide
    have hsign : (decide (ShiftKind.arithmetic = ShiftKind.arithmetic) && x.getLsbD (w - 1)) =
        x.getLsbD (w - 1) := by simp
    rw [if_neg hcount]
    dsimp only
    rw [if_neg hkind, if_neg hkind, if_neg hkind]
    rw [hsign, sign_filled]
    have hcarry : (if count ≤ w then x.getLsbD (count - 1) else x.getLsbD (w - 1)) =
        if count - 1 < w then x.getLsbD (count - 1) else x.msb := by
      rw [BitVec.msb_eq_getLsbD_last]
      by_cases h : count ≤ w
      · rw [if_pos h, if_pos (by omega)]
      · rw [if_neg h, if_neg (by omega)]
    rw [hcarry]
    apply Repeats.of_pos hcount
    · obtain ⟨n, rfl⟩ := Nat.exists_eq_succ_of_ne_zero hcount
      rw [sar_run hw, (kaf_set_flags_or _ _).1]
      by_cases hone : n + 1 = 1
      · rw [if_pos hone, CF_bit_make_OF, CF_bit_make_CF]
        rfl
      · rw [if_neg hone, CF_bit_make_CF]
        rfl
    · intro hone
      rw [(kaf_set_flags_or _ _).2, if_pos hone, OF_bit_make_OF, BitVec.msb_sshiftRight]
      simp

end Nxvm.Nec
