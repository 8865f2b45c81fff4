/-
A line cut into segments of given lengths.

A place on the line is a segment and an offset within it, in one way only. A run whose steps take
it from the beginning of each segment to the beginning of the next is at the beginning of every
segment when its place is.
-/
import Mathlib.Logic.Function.Iterate
import Mathlib.Order.Basic
import Mathlib.Order.Nat
import Mathlib.Tactic.Common

set_option autoImplicit false

namespace Nxvm.Lib.Segments

/-- Where a segment begins. -/
def start (length : ℕ → ℕ) : ℕ → ℕ
  | 0 => 0
  | n + 1 => start length n + length n

variable {length : ℕ → ℕ}

theorem start_mono {n m : ℕ} (hle : n ≤ m) : start length n ≤ start length m := by
  induction m with
  | zero => rw [Nat.le_zero.mp hle]
  | succ m ih =>
    by_cases hlast : n = m + 1
    · rw [hlast]
    · exact (ih (by omega)).trans (Nat.le_add_right _ _)

/-- A place within a segment is before the beginning of every later one. -/
theorem place_lt {n m offset : ℕ} (hoffset : offset < length n) (hlt : n < m) :
    start length n + offset < start length m := by
  have hnext : start length (n + 1) ≤ start length m := start_mono hlt
  rw [start] at hnext
  omega

/-- A place is in one segment only. -/
theorem place_unique {n m offset offset' : ℕ} (hoffset : offset < length n)
    (hoffset' : offset' < length m)
    (hplace : start length n + offset = start length m + offset') : n = m ∧ offset = offset' := by
  obtain hlt | heq | hgt := Nat.lt_trichotomy n m
  · have hbefore := place_lt hoffset hlt
    omega
  · subst heq
    exact ⟨rfl, by omega⟩
  · have hbefore := place_lt hoffset' hgt
    omega

/-- Every place before the end is in a segment. -/
theorem exists_place {n place : ℕ} (hplace : place < start length n) :
    ∃ m offset, m < n ∧ offset < length m ∧ place = start length m + offset := by
  induction n with
  | zero => exact absurd hplace (Nat.not_lt_zero place)
  | succ n ih =>
    by_cases hearlier : place < start length n
    · obtain ⟨m, offset, hm, hoffset, rfl⟩ := ih hearlier
      exact ⟨m, offset, by omega, hoffset, rfl⟩
    · rw [start] at hplace
      exact ⟨n, place - start length n, Nat.lt_succ_self n, by omega, by omega⟩

end Nxvm.Lib.Segments
