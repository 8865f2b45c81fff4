/-
Two computations run side by side.

A model and its specification may have states, answers and faults of different types.
`Alike` says that two runs end the same way, both normally or both with a fault, and
relates what they end with. The rules follow the structure of the computations, so a
proof goes through two programs of the same shape in one pass.
-/
import Nxvm.Lib.Exec

set_option autoImplicit false

namespace Nxvm.Lib.Lockstep

open Nxvm.Lib.Exec

variable {ε ε' σ τ α α' β β' : Type}

/-- Both runs ended normally, in `Q`, or both with a fault, in `E`. -/
def Alike (Q : α → σ → β → τ → Prop) (E : ε → σ → ε' → τ → Prop) :
    EStateM.Result ε σ α → EStateM.Result ε' τ β → Prop
  | .ok a s, .ok b t => Q a s b t
  | .error e s, .error e' t => E e s e' t
  | .ok _ _, .error _ _ => False
  | .error _ _, .ok _ _ => False

namespace Alike

variable {Q : α → σ → β → τ → Prop} {Q' : α' → σ → β' → τ → Prop} {E : ε → σ → ε' → τ → Prop}

/-- One computation after another, on both sides. -/
theorem bind {x : EStateM ε σ α} {y : EStateM ε' τ β} {f : α → EStateM ε σ α'}
    {g : β → EStateM ε' τ β'} {s : σ} {t : τ} (h : Alike Q E (x s) (y t))
    (hk : ∀ a s' b t', Q a s' b t' → Alike Q' E (f a s') (g b t')) :
    Alike Q' E ((x >>= f) s) ((y >>= g) t) := by
  rw [bind_run, bind_run]
  cases hx : x s with
  | ok a s' =>
    cases hy : y t with
    | ok b t' =>
      rw [hx, hy] at h
      exact hk a s' b t' h
    | error e' t' =>
      rw [hx, hy] at h
      exact h.elim
  | error e s' =>
    cases hy : y t with
    | ok b t' =>
      rw [hx, hy] at h
      exact h.elim
    | error e' t' =>
      rw [hx, hy] at h
      exact h

/-- A weaker ending. -/
theorem mono {P : α → σ → β → τ → Prop} {r : EStateM.Result ε σ α} {r' : EStateM.Result ε' τ β}
    (h : Alike P E r r') (hPQ : ∀ a s b t, P a s b t → Q a s b t) : Alike Q E r r' := by
  cases r with
  | ok a s =>
    cases r' with
    | ok b t => exact hPQ a s b t h
    | error e t => exact h
  | error e s =>
    cases r' with
    | ok b t => exact h
    | error e' t => exact h

end Alike

end Nxvm.Lib.Lockstep
