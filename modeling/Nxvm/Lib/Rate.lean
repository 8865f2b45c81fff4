/-
Rates: ticks of one clock converted into ticks of another one.

A rate of `num` to `den` delivers the whole part of its exact count and carries the rest, its
phase, into the next conversion. How the ticks are split up does not matter then (`delivered`
and `carried` of a sum, of a list), and the least number of source ticks that deliver so many
is a rounding up (`delivered` and `needed` are a Galois connection).
-/
import Mathlib.Algebra.BigOperators.Group.List.Basic
import Mathlib.Data.Nat.ModEq
import Mathlib.Tactic.Common
import Mathlib.Tactic.Ring

set_option autoImplicit false

namespace Nxvm.Lib.Rate

variable (num den : ℕ)

/-- The ticks that `ticks` source ticks deliver from a phase. -/
def delivered (phase ticks : ℕ) : ℕ := (ticks * num + phase) / den

/-- The phase they leave. -/
def carried (phase ticks : ℕ) : ℕ := (ticks * num + phase) % den

/-- The source ticks that deliver `ticks` from a phase. -/
def needed (phase ticks : ℕ) : ℕ := (ticks * den - phase + (num - 1)) / num

/-- What each of the conversions of a list delivers. -/
def deliveries : ℕ → List ℕ → List ℕ
  | _, [] => []
  | phase, ticks :: rest =>
    delivered num den phase ticks :: deliveries (carried num den phase ticks) rest

variable {num den}

theorem carried_lt (hden : 0 < den) (phase ticks : ℕ) : carried num den phase ticks < den :=
  Nat.mod_lt _ hden

@[simp] theorem delivered_zero {phase : ℕ} (h : phase < den) : delivered num den phase 0 = 0 := by
  rw [delivered, Nat.zero_mul, Nat.zero_add, Nat.div_eq_of_lt h]

@[simp] theorem carried_zero {phase : ℕ} (h : phase < den) : carried num den phase 0 = phase := by
  rw [carried, Nat.zero_mul, Nat.zero_add, Nat.mod_eq_of_lt h]

/-- The exact count of a sum is that of its first part and of the rest from the phase left. -/
theorem exact_add (phase a b : ℕ) :
    (a + b) * num + phase = b * num + carried num den phase a + den * delivered num den phase a := by
  have hsplit : carried num den phase a + den * delivered num den phase a = a * num + phase :=
    Nat.mod_add_div _ _
  rw [Nat.add_assoc, hsplit]
  ring

theorem delivered_add (hden : 0 < den) (phase a b : ℕ) :
    delivered num den phase (a + b) =
      delivered num den phase a + delivered num den (carried num den phase a) b := by
  rw [delivered, exact_add, Nat.add_mul_div_left _ _ hden, Nat.add_comm]
  rfl

theorem carried_add (phase a b : ℕ) :
    carried num den phase (a + b) = carried num den (carried num den phase a) b := by
  rw [carried, exact_add, Nat.add_mul_mod_self_left]
  rfl

/-- Whole rounds of the denominator apart, the rest is converted with the phase. -/
theorem exact_split (phase ticks : ℕ) :
    ticks * num + phase = ticks % den * num + phase + den * (ticks / den * num) := by
  have hsplit : ticks % den + den * (ticks / den) = ticks := Nat.mod_add_div _ _
  calc ticks * num + phase = (ticks % den + den * (ticks / den)) * num + phase := by rw [hsplit]
    _ = ticks % den * num + phase + den * (ticks / den * num) := by ring

theorem delivered_split (hden : 0 < den) (phase ticks : ℕ) :
    delivered num den phase ticks = ticks / den * num + (ticks % den * num + phase) / den := by
  rw [delivered, @exact_split num den, Nat.add_mul_div_left _ _ hden, Nat.add_comm]

theorem carried_split (phase ticks : ℕ) :
    carried num den phase ticks = (ticks % den * num + phase) % den := by
  rw [carried, @exact_split num den, Nat.add_mul_mod_self_left]

/-- A tick more delivers no more than the numerator. -/
theorem delivered_succ_le (hden : 0 < den) (phase ticks : ℕ) :
    delivered num den phase (ticks + 1) ≤ delivered num den phase ticks + num := by
  refine Nat.le_of_lt_succ ((Nat.div_lt_iff_lt_mul hden).mpr ?_)
  have hlt : ticks * num + phase < (delivered num den phase ticks + 1) * den := by
    rw [Nat.mul_comm (delivered num den phase ticks + 1)]
    exact Nat.lt_mul_div_succ _ hden
  have hle : num ≤ num * den := Nat.le_mul_of_pos_right _ hden
  calc (ticks + 1) * num + phase = ticks * num + phase + num := by ring
    _ < (delivered num den phase ticks + 1) * den + num * den := by omega
    _ = (delivered num den phase ticks + num + 1) * den := by ring

/-- A number of ticks delivers less than `bound` if its product with the numerator is less. -/
theorem delivered_lt {phase ticks bound : ℕ} (hphase : phase < den)
    (h : ticks * num < bound) : delivered num den phase ticks < bound := by
  refine (Nat.div_lt_iff_lt_mul (Nat.zero_lt_of_lt hphase)).mpr ?_
  obtain ⟨rest, rfl⟩ : ∃ rest, den = rest + 1 := ⟨den - 1, by omega⟩
  have hle : rest ≤ bound * rest := Nat.le_mul_of_pos_left _ (Nat.zero_lt_of_lt h)
  rw [Nat.mul_add, Nat.mul_one]
  omega

/-- However the ticks are split, the same is delivered. -/
theorem deliveries_sum (hden : 0 < den) (phase : ℕ) (h : phase < den) (list : List ℕ) :
    (deliveries num den phase list).sum = delivered num den phase list.sum := by
  induction list generalizing phase with
  | nil => exact (delivered_zero h).symm
  | cons ticks rest ih =>
    rw [deliveries, List.sum_cons, List.sum_cons, ih _ (carried_lt hden _ _), delivered_add hden]

/-- What is said of all deliveries is said of each tick count from the phase it meets. -/
theorem forall_deliveries {p : ℕ → Prop} (phase : ℕ) (h : phase < den) (list : List ℕ) :
    (∀ x ∈ deliveries num den phase list, p x) ↔ ∀ before ticks after,
      list = before ++ ticks :: after →
        p (delivered num den (carried num den phase before.sum) ticks) := by
  induction list generalizing phase with
  | nil =>
    constructor
    · intro _ before ticks after hsplit
      have hafter := (List.nil_eq_append_iff.mp hsplit).2
      exact absurd hafter (List.cons_ne_nil ticks after)
    · intro _ x hx
      exact absurd hx List.not_mem_nil
  | cons first rest ih =>
    have hden : 0 < den := Nat.zero_lt_of_lt h
    rw [deliveries, List.forall_mem_cons, ih _ (carried_lt hden _ _)]
    constructor
    · rintro ⟨hfirst, hrest⟩ before ticks after hsplit
      cases before with
      | nil =>
        obtain ⟨hhead, -⟩ := List.cons.inj hsplit
        rwa [List.sum_nil, carried_zero h, ← hhead]
      | cons x before =>
        obtain ⟨hhead, htail⟩ := List.cons.inj hsplit
        rw [List.sum_cons, carried_add, ← hhead]
        exact hrest before ticks after htail
    · intro hall
      refine ⟨?_, fun before ticks after hsplit => ?_⟩
      · have hfirst := hall [] first rest rfl
        rwa [List.sum_nil, carried_zero h] at hfirst
      · have hlater := hall (first :: before) ticks after (by rw [hsplit]; rfl)
        rwa [List.sum_cons, carried_add] at hlater

/-- So many are delivered exactly from the ticks needed on. -/
theorem le_delivered_iff (hnum : 0 < num) (hden : 0 < den) (phase ticks n : ℕ) :
    ticks ≤ delivered num den phase n ↔ needed num den phase ticks ≤ n := by
  have hneeded : needed num den phase ticks ≤ n ↔ ticks * den - phase ≤ n * num := by
    rw [needed, Nat.div_le_iff_le_mul_add_pred hnum, Nat.mul_comm num n]
    omega
  rw [delivered, Nat.le_div_iff_mul_le hden, hneeded, Nat.sub_le_iff_le_add]

/-- A rounding up adds the predecessor of the divisor. -/
theorem add_pred_div (hnum : 0 < num) (ticks : ℕ) :
    (ticks + (num - 1)) / num = ticks / num + (if ticks % num ≠ 0 then 1 else 0) := by
  have hsplit := Nat.mod_add_div ticks num
  have hlt := Nat.mod_lt ticks hnum
  have hsum : ticks + (num - 1) = ticks % num + (num - 1) + num * (ticks / num) := by omega
  rw [hsum, Nat.add_mul_div_left _ _ hnum, Nat.add_comm]
  congr 1
  split
  · exact Nat.div_eq_of_lt_le (by omega) (by omega)
  · exact Nat.div_eq_of_lt (by omega)

/-- A sum of remainders is the sum of what they remain from only where nothing is cut off. -/
theorem sum_map_mod_eq_iff (m : ℕ) (list : List ℕ) (hm : 0 < m) :
    (list.map (· % m)).sum = list.sum ↔ ∀ x ∈ list, x < m := by
  have hle (list : List ℕ) : (list.map (· % m)).sum ≤ list.sum := by
    induction list with
    | nil => exact le_rfl
    | cons x rest ih => exact Nat.add_le_add (Nat.mod_le _ _) ih
  induction list with
  | nil => simp
  | cons x rest ih =>
    have hx := Nat.mod_le x m
    have hrest := hle rest
    rw [List.map_cons, List.sum_cons, List.sum_cons, List.forall_mem_cons]
    constructor
    · intro h
      have hcut : x % m = x := by omega
      rw [← hcut]
      exact ⟨Nat.mod_lt _ hm, ih.mp (by omega)⟩
    · rintro ⟨hlt, h⟩
      rw [Nat.mod_eq_of_lt hlt, ih.mpr h]

end Nxvm.Lib.Rate
