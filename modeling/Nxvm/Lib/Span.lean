/-
Arrays without an end, and the runs of cells in them.

An array answers a value for every index, so a run of cells is never outside; whoever has a
bound checks it before. `slice` reads a run and `overwrite` replaces one. What is written in
two adjoining parts is written as a whole, and a part of what is written is a part of what
can be read.
-/
import Mathlib.Data.List.GetD
import Mathlib.Order.Nat
import Mathlib.Tactic.Common

set_option autoImplicit false

namespace Nxvm.Lib.Span

variable {α : Type}

/-- The `n` values from `i` on. -/
def slice (f : ℕ → α) (i n : ℕ) : List α := (List.range n).map fun j => f (i + j)

/-- `f` with the values `xs` from `i` on. -/
def overwrite (f : ℕ → α) (i : ℕ) (xs : List α) : ℕ → α :=
  fun j => if i ≤ j then xs.getD (j - i) (f j) else f j

/-! ## Reading -/

@[simp] theorem slice_length (f : ℕ → α) (i n : ℕ) : (slice f i n).length = n := by
  simp [slice]

@[simp] theorem slice_getElem (f : ℕ → α) (i n j : ℕ) (h : j < (slice f i n).length) :
    (slice f i n)[j] = f (i + j) := by
  simp [slice]

theorem slice_append (f : ℕ → α) (i m n : ℕ) :
    slice f i m ++ slice f (i + m) n = slice f i (m + n) := by
  simp only [slice, List.range_add, List.map_append, List.map_map]
  congr 1
  refine List.map_congr_left fun k _ => ?_
  simp only [Function.comp_apply, Nat.add_assoc]

theorem slice_congr {f g : ℕ → α} {i i' n : ℕ} (h : ∀ j < n, f (i + j) = g (i' + j)) :
    slice f i n = slice g i' n :=
  List.map_congr_left fun j hj => h j (List.mem_range.mp hj)

theorem slice_const (a : α) (i n : ℕ) : slice (fun _ => a) i n = List.replicate n a := by
  simp [slice, List.map_const']

/-! ## Writing -/

@[simp] theorem overwrite_nil (f : ℕ → α) (i : ℕ) : overwrite f i [] = f := by
  funext j
  simp [overwrite]

theorem overwrite_inside {f : ℕ → α} {i j : ℕ} {xs : List α} (hi : i ≤ j)
    (hj : j - i < xs.length) : overwrite f i xs j = xs[j - i] := by
  rw [overwrite, if_pos hi, List.getD_eq_getElem _ _ hj]

theorem overwrite_outside {f : ℕ → α} {i j : ℕ} {xs : List α} (h : j < i ∨ i + xs.length ≤ j) :
    overwrite f i xs j = f j := by
  unfold overwrite
  split_ifs with hi
  · exact List.getD_eq_default _ _ (by omega)
  · rfl

/-- Writing one run and then the run that follows it. -/
theorem overwrite_append (f : ℕ → α) (i : ℕ) (xs ys : List α) :
    overwrite (overwrite f i xs) (i + xs.length) ys = overwrite f i (xs ++ ys) := by
  funext j
  by_cases hleft : j < i + xs.length
  · rw [overwrite_outside (Or.inl hleft)]
    by_cases hi : i ≤ j
    · rw [overwrite_inside hi (by omega),
        overwrite_inside hi (by rw [List.length_append]; omega),
        List.getElem_append_left (by omega)]
    · rw [overwrite_outside (Or.inl (by omega)), overwrite_outside (Or.inl (by omega))]
  · by_cases hright : j < i + xs.length + ys.length
    · rw [overwrite_inside (by omega) (by omega),
        overwrite_inside (by omega) (by rw [List.length_append]; omega),
        List.getElem_append_right (by omega)]
      congr 1
      omega
    · rw [overwrite_outside (Or.inr (by omega)), overwrite_outside (Or.inr (by omega)),
        overwrite_outside (Or.inr (by rw [List.length_append]; omega))]

/-- Two parts of a list, written one after the other. -/
theorem overwrite_take_drop (f : ℕ → α) (i : ℕ) (xs : List α) (n k : ℕ) (hn : n ≤ xs.length) :
    overwrite (overwrite f i (xs.take n)) (i + n) ((xs.drop n).take k) =
      overwrite f i (xs.take (n + k)) := by
  have hlength : (xs.take n).length = n := by
    rw [List.length_take]
    omega
  have happend := overwrite_append f i (xs.take n) ((xs.drop n).take k)
  rw [hlength] at happend
  rw [happend, ← List.take_add]

end Nxvm.Lib.Span
