/-
Registers whose bits are lines: setting, clearing and testing one of them.

A device keeps one bit for each of its lines and works on them with masks. What a
proof wants to know is which lines are in a register, so each mask operation gets
the lemma that says what it does to one line.
-/
import Mathlib.Data.BitVec
import Mathlib.Tactic.Common

set_option autoImplicit false

namespace Nxvm.Lib.Register

variable {w : ℕ}

/-- The bit of line `i`. -/
def line (i : Fin w) : BitVec w := BitVec.twoPow w i.val

/-- Some bit of `flag` is set. -/
def is_set (state flag : BitVec w) : Bool := state &&& flag != 0

@[simp] theorem is_set_zero (flag : BitVec w) : is_set 0 flag = false := by
  simp [is_set]

@[simp] theorem is_set_line (x : BitVec w) (i : Fin w) :
    is_set x (line i) = x.getLsbD i.val := by
  rw [is_set, line, BitVec.and_twoPow]
  cases h : x.getLsbD i.val with
  | false => simp
  | true =>
    have hne : BitVec.twoPow w i.val ≠ 0 := fun h0 => by
      have hbit := congrArg (fun y => y.getLsbD i.val) h0
      simp at hbit
    simpa using hne

@[simp] theorem getLsbD_line (i j : Fin w) :
    (line i).getLsbD j.val = decide (j = i) := by
  rw [line, BitVec.getLsbD_twoPow]
  by_cases h : j = i
  · simp [h]
  · have hv : i.val ≠ j.val := fun hv => h (Fin.ext hv.symm)
    simp [h, hv]

/-- A mask keeps the bits it covers. -/
theorem is_set_masked (x : BitVec w) {flag m : BitVec w} (h : flag &&& m = flag) :
    is_set (x &&& m) flag = is_set x flag := by
  unfold is_set
  rw [BitVec.and_assoc, BitVec.and_comm m, h]

/-- Two registers with the same lines are one. -/
theorem eq_of_lines {x y : BitVec w} (h : ∀ i : Fin w, x.getLsbD i.val = y.getLsbD i.val) :
    x = y :=
  BitVec.eq_of_getLsbD_eq fun i hi => h ⟨i, hi⟩

theorem eq_zero_iff_lines {x : BitVec w} : x = 0 ↔ ∀ i : Fin w, x.getLsbD i.val = false := by
  refine ⟨fun h i => by simp [h], fun h => eq_of_lines fun i => ?_⟩
  simpa using h i

theorem ne_zero_iff_lines {x : BitVec w} : x ≠ 0 ↔ ∃ i : Fin w, x.getLsbD i.val = true := by
  rw [ne_eq, eq_zero_iff_lines]
  simp

/-- Setting a line. -/
theorem getLsbD_set (x : BitVec w) (i j : Fin w) :
    (x ||| line i).getLsbD j.val = (x.getLsbD j.val || decide (j = i)) := by
  rw [BitVec.getLsbD_or, getLsbD_line]

/-- Clearing a line. -/
theorem getLsbD_clear (x : BitVec w) (i j : Fin w) :
    (x &&& ~~~line i).getLsbD j.val = (x.getLsbD j.val && !decide (j = i)) := by
  rw [BitVec.getLsbD_and, BitVec.getLsbD_not, getLsbD_line]
  simp

/-- The register that holds exactly the lines of `p`. -/
def of_lines (p : Fin w → Bool) : BitVec w :=
  (List.finRange w).foldl (fun x i => if p i then x ||| line i else x) 0

/-- Gathering the lines of a list. -/
theorem getLsbD_foldl_lines (p : Fin w → Bool) (l : List (Fin w)) (x : BitVec w) (j : Fin w) :
    (l.foldl (fun x i => if p i then x ||| line i else x) x).getLsbD j.val =
      (x.getLsbD j.val || (decide (j ∈ l) && p j)) := by
  induction l generalizing x with
  | nil => simp
  | cons i l ih =>
    rw [List.foldl_cons, ih]
    by_cases hji : j = i
    · subst hji
      cases hp : p j with
      | false => simp
      | true => rw [if_pos rfl, getLsbD_set]; simp
    · have hstep : (if p i then x ||| line i else x).getLsbD j.val = x.getLsbD j.val := by
        split_ifs with hp
        · rw [getLsbD_set, decide_eq_false hji, Bool.or_false]
        · rfl
      rw [hstep]
      simp [hji]

@[simp] theorem getLsbD_of_lines (p : Fin w → Bool) (j : Fin w) :
    (of_lines p).getLsbD j.val = p j := by
  rw [of_lines, getLsbD_foldl_lines]
  simp

end Nxvm.Lib.Register
