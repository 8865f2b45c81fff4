/-
Shifting and rotating bit by bit.

A register that is shifted by one takes a bit in at one end and gives one out at the other. A
ring gives back in what comes out. The closed forms of many steps, two shifts joined with `or`
and a count reduced by the size of the ring, are compared here with the steps themselves, one
bit position at a time.
-/
import Mathlib.Data.BitVec
import Mathlib.Data.Nat.ModEq
import Mathlib.Tactic.Ring

set_option autoImplicit false

namespace Nxvm.Lib.Rotation

variable {m : ℕ}

/-! ## One step -/

/-- One bit to the left: `b` comes in at the bottom. -/
def shift_left_in (x : BitVec m) (b : Bool) : BitVec m := x.shiftConcat b

/-- One bit to the right: `b` comes in at the top. -/
def shift_right_in (b : Bool) (x : BitVec m) : BitVec m :=
  (x >>> 1) ||| ((BitVec.ofBool b).setWidth m <<< (m - 1))

theorem getLsbD_shift_left_in (x : BitVec m) (b : Bool) {i : ℕ} (hi : i < m) :
    (shift_left_in x b).getLsbD i = if i = 0 then b else x.getLsbD (i - 1) := by
  rw [shift_left_in, BitVec.getLsbD_shiftConcat, decide_eq_true hi, Bool.true_and]

theorem getLsbD_shift_right_in (b : Bool) (x : BitVec m) {i : ℕ} (hi : i < m) :
    (shift_right_in b x).getLsbD i = if i = m - 1 then b else x.getLsbD (i + 1) := by
  rw [shift_right_in, BitVec.getLsbD_or, BitVec.getLsbD_ushiftRight, BitVec.getLsbD_shiftLeft,
    BitVec.getLsbD_setWidth, BitVec.getLsbD_ofBool, Nat.add_comm 1 i]
  by_cases h : i = m - 1
  · have hge : x.getLsbD (i + 1) = false := BitVec.getLsbD_of_ge _ _ (by omega)
    rw [if_pos h, hge, h]
    simp [show m - 1 < m by omega, show 0 < m by omega]
  · have hlt : i < m - 1 := by omega
    rw [if_neg h]
    simp [hlt]

/-- One step of a ring to the left. -/
def rotate_left_one (x : BitVec m) : BitVec m := shift_left_in x x.msb

/-- One step of a ring to the right. -/
def rotate_right_one (x : BitVec m) : BitVec m := shift_right_in (x.getLsbD 0) x

theorem getLsbD_rotate_left_one (x : BitVec m) {i : ℕ} (hi : i < m) :
    (rotate_left_one x).getLsbD i = x.getLsbD ((i + (m - 1)) % m) := by
  rw [rotate_left_one, getLsbD_shift_left_in x _ hi, BitVec.msb_eq_getLsbD_last]
  by_cases h : i = 0
  · rw [if_pos h, h, Nat.zero_add, Nat.mod_eq_of_lt (by omega)]
  · rw [if_neg h]
    congr 1
    rw [show i + (m - 1) = (i - 1) + m by omega, Nat.add_mod_right, Nat.mod_eq_of_lt (by omega)]

theorem getLsbD_rotate_right_one (x : BitVec m) {i : ℕ} (hi : i < m) :
    (rotate_right_one x).getLsbD i = x.getLsbD ((i + 1) % m) := by
  rw [rotate_right_one, getLsbD_shift_right_in _ x hi]
  by_cases h : i = m - 1
  · rw [if_pos h, show i + 1 = m by omega, Nat.mod_self]
  · rw [if_neg h, Nat.mod_eq_of_lt (by omega)]

/-! ## Many steps -/

/-- A step that moves every bit by the same distance around the ring, taken `n` times. -/
theorem getLsbD_iterate {step : BitVec m → BitVec m} {d : ℕ} (hm : 0 < m)
    (hstep : ∀ x i, i < m → (step x).getLsbD i = x.getLsbD ((i + d) % m)) (x : BitVec m) (n : ℕ) :
    ∀ i, i < m → (step^[n] x).getLsbD i = x.getLsbD ((i + n * d) % m) := by
  induction n with
  | zero =>
    intro i hi
    rw [Function.iterate_zero_apply, Nat.zero_mul, Nat.add_zero, Nat.mod_eq_of_lt hi]
  | succ n ih =>
    intro i hi
    rw [Function.iterate_succ_apply', hstep _ i hi, ih _ (Nat.mod_lt _ hm), Nat.mod_add_mod]
    congr 2
    ring

/-- A ring turned to the left by two shifts. -/
def rotate_left (x : BitVec m) (n : ℕ) : BitVec m :=
  let rotation := n % m
  if rotation = 0 then x else (x <<< rotation) ||| (x >>> (m - rotation))

/-- A ring turned to the right by two shifts. -/
def rotate_right (x : BitVec m) (n : ℕ) : BitVec m :=
  let rotation := n % m
  if rotation = 0 then x else (x >>> rotation) ||| (x <<< (m - rotation))

theorem getLsbD_rotate_left (x : BitVec m) (n : ℕ) {i : ℕ} (hi : i < m) :
    (rotate_left x n).getLsbD i = x.getLsbD ((i + (m - n % m)) % m) := by
  have hlt : n % m < m := Nat.mod_lt n (by omega)
  unfold rotate_left
  generalize n % m = r at hlt ⊢
  by_cases h : r = 0
  · rw [if_pos h, h, Nat.sub_zero, Nat.add_mod_right, Nat.mod_eq_of_lt hi]
  · rw [if_neg h, BitVec.getLsbD_or, BitVec.getLsbD_shiftLeft, BitVec.getLsbD_ushiftRight]
    by_cases hr : i < r
    · rw [Nat.mod_eq_of_lt (by omega)]
      simp [hr, Nat.add_comm]
    · have hge : x.getLsbD (m - r + i) = false := BitVec.getLsbD_of_ge _ _ (by omega)
      rw [hge, show i + (m - r) = (i - r) + m by omega, Nat.add_mod_right,
        Nat.mod_eq_of_lt (by omega)]
      simp [hr, hi]

theorem getLsbD_rotate_right (x : BitVec m) (n : ℕ) {i : ℕ} (hi : i < m) :
    (rotate_right x n).getLsbD i = x.getLsbD ((i + n % m) % m) := by
  have hlt : n % m < m := Nat.mod_lt n (by omega)
  unfold rotate_right
  generalize n % m = r at hlt ⊢
  by_cases h : r = 0
  · rw [if_pos h, h, Nat.add_zero, Nat.mod_eq_of_lt hi]
  · rw [if_neg h, BitVec.getLsbD_or, BitVec.getLsbD_ushiftRight, BitVec.getLsbD_shiftLeft]
    by_cases hr : i < m - r
    · rw [Nat.mod_eq_of_lt (by omega)]
      simp [hr, Nat.add_comm]
    · have hge : x.getLsbD (r + i) = false := BitVec.getLsbD_of_ge _ _ (by omega)
      rw [hge, show i + r = (i - (m - r)) + m by omega, Nat.add_mod_right,
        Nat.mod_eq_of_lt (by omega)]
      simp [hr, hi]

/-- A whole turn less `n` is `n` turns less one. -/
theorem back_mod (i n : ℕ) (hm : 0 < m) : (i + n * (m - 1)) % m = (i + (m - n % m)) % m := by
  have hlt : n % m < m := Nat.mod_lt n hm
  have hsplit := Nat.div_add_mod n m
  obtain ⟨k, rfl⟩ : ∃ k, m = k + 1 := ⟨m - 1, by omega⟩
  apply Nat.ModEq.add_right_cancel' n
  have hleft : i + n * (k + 1 - 1) + n = i + n * (k + 1) := by
    rw [Nat.add_sub_cancel]
    ring
  have hright : i + (k + 1 - n % (k + 1)) + n = i + (n / (k + 1) + 1) * (k + 1) := by
    have hmul : (n / (k + 1) + 1) * (k + 1) = (k + 1) * (n / (k + 1)) + (k + 1) := by ring
    omega
  rw [hleft, hright]
  show (i + n * (k + 1)) % (k + 1) = (i + (n / (k + 1) + 1) * (k + 1)) % (k + 1)
  rw [Nat.add_mul_mod_self_right, Nat.add_mul_mod_self_right]

/-- The two shifts are the steps. -/
theorem rotate_left_iterate (hm : 0 < m) (x : BitVec m) (n : ℕ) :
    rotate_left_one^[n] x = rotate_left x n := by
  apply BitVec.eq_of_getLsbD_eq
  intro i hi
  rw [getLsbD_iterate hm (fun y j hj => getLsbD_rotate_left_one y hj) x n i hi,
    getLsbD_rotate_left x n hi, back_mod i n hm]

theorem rotate_right_iterate (hm : 0 < m) (x : BitVec m) (n : ℕ) :
    rotate_right_one^[n] x = rotate_right x n := by
  apply BitVec.eq_of_getLsbD_eq
  intro i hi
  rw [getLsbD_iterate hm (fun y j hj => getLsbD_rotate_right_one y hj) x n i hi,
    getLsbD_rotate_right x n hi, Nat.mul_one, Nat.add_mod_mod]

end Nxvm.Lib.Rotation
