/-
Loops that look for something to do and do it, round after round.

A round is chosen from the state alone, so two runs that both come to rest come to rest in the
same state. A loop that is given a measure's worth of rounds comes to rest where every round
makes the measure smaller. Where a loop finds only some of what another finds, running it first
makes no difference.
-/
import Mathlib.Tactic.Common

set_option autoImplicit false

namespace Nxvm.Lib.Rounds

variable {σ ι : Type}

/-- At most so many rounds. -/
def loop (next : σ → Option ι) (run : σ → ι → σ) : ℕ → σ → σ
  | 0, s => s
  | n + 1, s =>
    match next s with
    | none => s
    | some i => loop next run n (run s i)

/-- What is reached by rounds. -/
inductive Reaches (next : σ → Option ι) (run : σ → ι → σ) : σ → σ → Prop where
  | refl (s : σ) : Reaches next run s s
  | round {s s' : σ} {i : ι} (found : next s = some i) (rest : Reaches next run (run s i) s') :
      Reaches next run s s'

variable {next next' : σ → Option ι} {run : σ → ι → σ}

theorem loop_reaches (n : ℕ) (s : σ) : Reaches next run s (loop next run n s) := by
  induction n generalizing s with
  | zero => exact .refl s
  | succ n ih =>
    rw [loop]
    cases hnext : next s with
    | none => exact .refl s
    | some i => exact .round hnext (ih (run s i))

namespace Reaches

theorem trans {a b c : σ} (h : Reaches next run a b) (h' : Reaches next run b c) :
    Reaches next run a c := by
  induction h with
  | refl s => exact h'
  | round found rest ih => exact .round found (ih h')

/-- Rounds of a loop that finds less are rounds of one that finds more. -/
theorem mono (hless : ∀ s i, next s = some i → next' s = some i) {a b : σ}
    (h : Reaches next run a b) : Reaches next' run a b := by
  induction h with
  | refl s => exact .refl s
  | round found rest ih => exact .round (hless _ _ found) ih

/-- The state at rest is one. -/
theorem unique {s a b : σ} (ha : Reaches next run s a) (hrest : next a = none)
    (hb : Reaches next run s b) (hrest' : next b = none) : a = b := by
  induction ha with
  | refl s =>
    cases hb with
    | refl => rfl
    | round found rest =>
      rw [hrest] at found
      cases found
  | round found rest ih =>
    cases hb with
    | refl =>
      rw [hrest'] at found
      cases found
    | round found' rest' =>
      rw [found] at found'
      cases found'
      exact ih hrest rest'

/-- What every round keeps, all of them keep. -/
theorem keeps {Keeps : σ → Prop} (hkeep : ∀ s i, Keeps s → next s = some i → Keeps (run s i))
    {a b : σ} (h : Reaches next run a b) (ha : Keeps a) : Keeps b := by
  induction h with
  | refl s => exact ha
  | round found rest ih => exact ih (hkeep _ _ ha found)

end Reaches

/-- Given as many rounds as the measure, the loop comes to rest. -/
theorem loop_rests {Keeps : σ → Prop} (measure : σ → ℕ)
    (hkeep : ∀ s i, Keeps s → next s = some i → Keeps (run s i))
    (hless : ∀ s i, Keeps s → next s = some i → measure (run s i) < measure s) (n : ℕ) :
    ∀ s, Keeps s → measure s ≤ n → next (loop next run n s) = none := by
  induction n with
  | zero =>
    intro s hs hle
    rw [loop]
    cases hnext : next s with
    | none => rfl
    | some i =>
      have hlt := hless s i hs hnext
      omega
  | succ n ih =>
    intro s hs hle
    rw [loop]
    cases hnext : next s with
    | none => exact hnext
    | some i =>
      have hlt := hless s i hs hnext
      exact ih (run s i) (hkeep s i hs hnext) (by omega)

end Nxvm.Lib.Rounds
