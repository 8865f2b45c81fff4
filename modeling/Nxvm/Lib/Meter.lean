/-
Counting what a computation uses.

A meter says when `n` of something happened between two states, and its counts add
up. `Spends` bounds what a computation uses by a relation between its answer and its
count, because a computation may use more on one path than on another and tell its
caller so only through the answer. Nothing is said of a computation that stops with
a fault but which faults those are.
-/
import Mathlib.Tactic.Common
import Nxvm.Lib.Exec

set_option autoImplicit false

namespace Nxvm.Lib.Exec

variable {ε σ α β : Type}

/-- `after n s s'` is that `n` happened between `s` and `s'`. -/
structure Meter (σ : Type) where
  after : ℕ → σ → σ → Prop
  refl : ∀ s, after 0 s s
  trans : ∀ {i j a b c}, after i a b → after j b c → after (i + j) a c

/-- `x` answers `a` after a count `n` with `R a n`, or stops with a fault in `E`. -/
structure Spends (M : Meter σ) (R : α → ℕ → Prop) (E : ε → Prop) (x : EStateM ε σ α) :
    Prop where
  ok : ∀ {s a s'}, x s = .ok a s' → ∃ n, R a n ∧ M.after n s s'
  error : ∀ {s e s'}, x s = .error e s' → E e

/-- `x` takes `n` whatever it answers. -/
abbrev Takes (M : Meter σ) (n : ℕ) (E : ε → Prop) (x : EStateM ε σ α) : Prop :=
  Spends M (fun _ k => k = n) E x

namespace Spends

variable {M : Meter σ} {E : ε → Prop} {R : α → ℕ → Prop} {S : α → β → ℕ → Prop}
  {T : β → ℕ → Prop} {x : EStateM ε σ α} {f : α → EStateM ε σ β}

theorem bind (hx : Spends M R E x) (hf : ∀ a, Spends M (S a) E (f a))
    (h : ∀ a b i j, R a i → S a b j → T b (i + j)) : Spends M T E (x >>= f) := by
  refine ⟨fun hok => ?_, fun herr => ?_⟩
  · obtain ⟨a, s₁, h₁, h₂⟩ := bind_eq_ok.mp hok
    obtain ⟨i, hi, hm⟩ := hx.ok h₁
    obtain ⟨j, hj, hm'⟩ := (hf a).ok h₂
    exact ⟨i + j, h _ _ _ _ hi hj, M.trans hm hm'⟩
  · rcases bind_eq_error.mp herr with h₁ | ⟨a, s₁, _, h₂⟩
    · exact hx.error h₁
    · exact (hf a).error h₂

theorem of_pure {a : α} (h : R a 0) : Spends M R E (pure a : EStateM ε σ α) := by
  refine ⟨fun hok => ?_, fun herr => by simp at herr⟩
  obtain ⟨rfl, rfl⟩ := pure_eq_ok.mp hok
  exact ⟨0, h, M.refl _⟩

theorem weaken {R' : α → ℕ → Prop} (hx : Spends M R E x) (h : ∀ a n, R a n → R' a n) :
    Spends M R' E x := by
  refine ⟨fun hok => ?_, hx.error⟩
  obtain ⟨n, hn, hm⟩ := hx.ok hok
  exact ⟨n, h _ _ hn, hm⟩

theorem ite {c : Prop} [Decidable c] {y : EStateM ε σ α} (hx : c → Spends M R E x)
    (hy : ¬ c → Spends M R E y) : Spends M R E (if c then x else y) := by
  by_cases hc : c
  · rw [if_pos hc]; exact hx hc
  · rw [if_neg hc]; exact hy hc

end Spends

namespace Takes

variable {M : Meter σ} {E : ε → Prop} {x : EStateM ε σ α} {f : α → EStateM ε σ β} {i j n : ℕ}

/-- One after the other. -/
theorem bind (hx : Takes M i E x) (hf : ∀ a, Takes M j E (f a)) (h : i + j = n) :
    Takes M n E (x >>= f) :=
  Spends.bind hx hf fun _ _ _ _ hi hj => by rw [hi, hj, h]

theorem of_pure (a : α) : Takes M 0 E (pure a : EStateM ε σ α) := Spends.of_pure rfl

theorem of_get : Takes M 0 E (get : EStateM ε σ σ) := by
  refine ⟨fun {s a s'} hok => ?_, fun {s e s'} herr => ?_⟩
  · have h : (EStateM.Result.ok s s : EStateM.Result ε σ σ) = .ok a s' := hok
    cases h
    exact ⟨0, rfl, M.refl s⟩
  · have h : (EStateM.Result.ok s s : EStateM.Result ε σ σ) = .error e s' := herr
    cases h

theorem of_update {g : σ → σ} (h : ∀ s, M.after n s (g s)) :
    Takes M n E (update g : EStateM ε σ Unit) := by
  refine ⟨fun hok => ?_, fun herr => by simp at herr⟩
  simp only [update_run, EStateM.Result.ok.injEq] at hok
  obtain ⟨-, rfl⟩ := hok
  exact ⟨n, rfl, h _⟩

theorem of_perform_if {c : Prop} [Decidable c] {x : EStateM ε σ Unit}
    (hx : Takes M n E x) : Takes M (if c then n else 0) E (perform_if c x) := by
  unfold perform_if
  by_cases hc : c
  · rw [if_pos hc, if_pos hc]; exact hx
  · rw [if_neg hc, if_neg hc]; exact of_pure ()

theorem after (hx : Takes M n E x) {s s' : σ} {a : α} (h : x s = .ok a s') :
    M.after n s s' := by
  obtain ⟨k, rfl, hk⟩ := hx.ok h
  exact hk

end Takes

end Nxvm.Lib.Exec
