/-
Reaching an end step by step.

A step that makes a measure smaller as long as the end is not reached reaches it
within as many steps as the measure says. Where only some steps make it smaller and
none larger, it is enough that such steps come again and again.
-/
import Mathlib.Logic.Function.Iterate
import Mathlib.Order.Nat
import Mathlib.Tactic.Common

set_option autoImplicit false

namespace Nxvm.Lib

variable {α : Type} {step : α → α} (measure : α → ℕ) {Keeps Done : α → Prop}

/-- From where `Keeps` holds, `Done` is reached within `measure` steps. -/
theorem reaches_within (hkeep : ∀ a, Keeps a → Keeps (step a))
    (hless : ∀ a, Keeps a → ¬ Done a → measure (step a) < measure a) :
    ∀ a, Keeps a → ∃ n ≤ measure a, Keeps (step^[n] a) ∧ Done (step^[n] a) := by
  intro a
  induction hm : measure a using Nat.strongRecOn generalizing a with
  | ind m ih =>
    intro ha
    by_cases hdone : Done a
    · exact ⟨0, Nat.zero_le _, ha, hdone⟩
    · have hlt := hless a ha hdone
      obtain ⟨n, hn, hkeeps, hend⟩ := ih (measure (step a)) (by omega) (step a) rfl (hkeep a ha)
      exact ⟨n + 1, by omega, hkeeps, hend⟩

/-- A measure that never grows and again and again becomes smaller, if it can, is zero from
some time on. -/
theorem eventually_zero {μ : ℕ → ℕ} {N : ℕ} (hle : ∀ n ≥ N, μ (n + 1) ≤ μ n)
    (hoften : ∀ n ≥ N, ∃ m ≥ n, μ m ≠ 0 → μ (m + 1) < μ m) : ∃ M ≥ N, ∀ n ≥ M, μ n = 0 := by
  have hanti (n : ℕ) (hn : N ≤ n) (m : ℕ) (hm : n ≤ m) : μ m ≤ μ n := by
    induction hm with
    | refl => exact le_rfl
    | @step m hm ih => exact (hle m (hn.trans hm)).trans ih
  induction hμ : μ N using Nat.strongRecOn generalizing N with
  | ind v ih =>
    obtain ⟨m, hm, hless⟩ := hoften N (Nat.le_refl N)
    by_cases hzero : μ m = 0
    · exact ⟨m, hm, fun n hn => Nat.le_zero.mp ((hanti m hm n hn).trans hzero.le)⟩
    · have hv : μ (m + 1) < v := (hless hzero).trans_le ((hanti N le_rfl m hm).trans hμ.le)
      obtain ⟨M, hM, hend⟩ := ih (μ (m + 1)) hv (N := m + 1)
        (fun n hn => hle n (by omega)) (fun n hn => hoften n (by omega))
        (fun n hn => hanti n (by omega)) rfl
      exact ⟨M, by omega, hend⟩

end Nxvm.Lib
