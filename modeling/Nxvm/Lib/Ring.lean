/-
Rings: a queue in the slots of an array that is used round and round.

The queue is the `count` slots from `head` on, modulo the capacity. A reader copies a prefix
of it and moves `head` on; a writer fills the slots behind it. `window` is the queue as a
list, so that reading is `take`, moving on is `drop` and filling is `++`.
-/
import Mathlib.Data.List.Range
import Mathlib.Data.Nat.ModEq
import Mathlib.Logic.Function.Basic
import Mathlib.Tactic.Common

set_option autoImplicit false

namespace Nxvm.Lib.Ring

variable {α : Type} (capacity : ℕ)

/-- The `n` values from the slot `head` on. -/
def window (slots : ℕ → α) (head n : ℕ) : List α :=
  (List.range n).map fun i => slots ((head + i) % capacity)

/-- The slots with the values `xs` from the slot `start` on. -/
def fill (slots : ℕ → α) (start : ℕ) : List α → ℕ → α
  | [] => slots
  | x :: xs => fill (Function.update slots (start % capacity) x) (start + 1) xs

variable {capacity}

/-! ## Reading -/

@[simp] theorem window_length (slots : ℕ → α) (head n : ℕ) :
    (window capacity slots head n).length = n := by
  simp [window]

/-- Only the remainder of `head` counts. -/
theorem window_mod (slots : ℕ → α) (head n : ℕ) :
    window capacity slots (head % capacity) n = window capacity slots head n := by
  simp only [window, Nat.mod_add_mod]

/-- Only the slots of the array are read. -/
theorem window_congr {slots other : ℕ → α} (hpos : 0 < capacity)
    (h : ∀ i < capacity, slots i = other i) (head n : ℕ) :
    window capacity slots head n = window capacity other head n :=
  List.map_congr_left fun _ _ => h _ (Nat.mod_lt _ hpos)

theorem window_append (slots : ℕ → α) (head m n : ℕ) :
    window capacity slots head m ++ window capacity slots (head + m) n =
      window capacity slots head (m + n) := by
  simp only [window, List.range_add, List.map_append, List.map_map]
  congr 1
  refine List.map_congr_left fun i _ => ?_
  simp only [Function.comp_apply, Nat.add_assoc]

theorem window_take (slots : ℕ → α) (head : ℕ) {k n : ℕ} (h : k ≤ n) :
    (window capacity slots head n).take k = window capacity slots head k := by
  obtain ⟨m, rfl⟩ := Nat.exists_eq_add_of_le h
  rw [← window_append, List.take_left' (window_length slots head k)]

theorem window_drop (slots : ℕ → α) (head : ℕ) {k n : ℕ} (h : k ≤ n) :
    (window capacity slots head n).drop k = window capacity slots (head + k) (n - k) := by
  obtain ⟨m, rfl⟩ := Nat.exists_eq_add_of_le h
  rw [← window_append, List.drop_left' (window_length slots head k), Nat.add_sub_cancel_left]

/-! ## Filling -/

/-- Slots that are less than a round behind `start` keep their values. -/
theorem fill_outside {xs : List α} {slots : ℕ → α} {start i : ℕ}
    (h : ∀ k < xs.length, i % capacity ≠ (start + k) % capacity) :
    fill capacity slots start xs (i % capacity) = slots (i % capacity) := by
  induction xs generalizing slots start with
  | nil => rfl
  | cons x xs ih =>
    have hfirst : i % capacity ≠ start % capacity := h 0 (Nat.zero_lt_succ _)
    rw [fill, ih fun k hk => ?_, Function.update_of_ne hfirst]
    rw [Nat.add_assoc, Nat.add_comm 1 k]
    exact h (k + 1) (Nat.succ_lt_succ hk)

/-- Two places less than a round apart are different slots. -/
theorem slot_ne {i j : ℕ} (hlt : i < j) (hround : j < i + capacity) :
    i % capacity ≠ j % capacity := by
  intro heq
  have hdvd : capacity ∣ j - i := (Nat.modEq_iff_dvd' hlt.le).mp heq
  exact absurd (Nat.le_of_dvd (Nat.sub_pos_of_lt hlt) hdvd) (by omega)

/-- What was behind the filled slots is still read. -/
theorem window_fill_before {xs : List α} {slots : ℕ → α} {head n : ℕ}
    (h : n + xs.length ≤ capacity) :
    window capacity (fill capacity slots (head + n) xs) head n =
      window capacity slots head n := by
  refine List.map_congr_left fun i hi => fill_outside fun k hk => ?_
  have hi : i < n := List.mem_range.mp hi
  exact slot_ne (by omega) (by omega)

/-- What was filled in is read. -/
theorem window_fill {xs : List α} {slots : ℕ → α} {start : ℕ} (h : xs.length ≤ capacity) :
    window capacity (fill capacity slots start xs) start xs.length = xs := by
  induction xs generalizing slots start with
  | nil => rfl
  | cons x xs ih =>
    have hlen : xs.length + 1 ≤ capacity := h
    rw [List.length_cons, Nat.add_comm, ← window_append, fill, ih (by omega)]
    have hfirst : fill capacity (Function.update slots (start % capacity) x) (start + 1) xs
        (start % capacity) = x := by
      rw [fill_outside fun k hk => slot_ne (by omega) (by omega), Function.update_self]
    simp [window, hfirst]

/-- Filling the slots behind the queue appends to it. -/
theorem window_push {xs : List α} {slots : ℕ → α} {head n : ℕ}
    (h : n + xs.length ≤ capacity) :
    window capacity (fill capacity slots (head + n) xs) head (n + xs.length) =
      window capacity slots head n ++ xs := by
  rw [← window_append, window_fill_before h, window_fill (by omega)]

end Nxvm.Lib.Ring
