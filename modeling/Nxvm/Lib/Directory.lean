/-
Set-associative directories.

A directory has an entry for every set and way. An entry is found by its set and
a key, and only if it is valid. Two invariants make a directory usable as a copy
of something else: no set holds two valid entries with one key (`Unique`), and
every valid entry says something true (`AllValid`). This file has the two
invariants and what keeps them: putting an entry where its key was found or was
absent, and dropping entries.
-/
import Mathlib.Logic.Basic
import Mathlib.Tactic.Common

set_option autoImplicit false

namespace Nxvm.Lib.Directory

/-- How an entry is recognised: whether it counts at all, and under which key. -/
structure Scheme (E K : Type) where
  valid : E → Bool
  key : E → K

/-- An entry for every set and way. -/
abbrev Dir (S W E : Type) := S → W → E

variable {S W E K : Type} [DecidableEq K] (t : Scheme E K)

/-- The first of the ways whose entry is valid and has the key. -/
def find (ways : List W) (d : Dir S W E) (s : S) (k : K) : Option W :=
  ways.find? fun w => t.valid (d s w) && t.key (d s w) == k

/-- No set holds two valid entries with one key. -/
def Unique (d : Dir S W E) : Prop :=
  ∀ s w w', t.valid (d s w) = true → t.valid (d s w') = true →
    t.key (d s w) = t.key (d s w') → w = w'

/-- Every valid entry satisfies `P`. -/
def AllValid (P : S → E → Prop) (d : Dir S W E) : Prop :=
  ∀ s w, t.valid (d s w) = true → P s (d s w)

/-- `d'` is `d` with some entries made invalid and nothing else changed. -/
def Drops (d d' : Dir S W E) : Prop :=
  ∀ s w, d' s w = d s w ∨ t.valid (d' s w) = false

variable {t}

theorem find_some {ways : List W} {d : Dir S W E} {s : S} {k : K} {w : W}
    (h : find t ways d s k = some w) : t.valid (d s w) = true ∧ t.key (d s w) = k := by
  have hp := List.find?_some h
  simpa using hp

theorem find_none {ways : List W} {d : Dir S W E} {s : S} {k : K}
    (hall : ∀ w, w ∈ ways) (h : find t ways d s k = none) (w : W)
    (hv : t.valid (d s w) = true) : t.key (d s w) ≠ k := by
  have hp := List.find?_eq_none.mp h w (hall w)
  simpa [hv] using hp

/-! ## Putting an entry -/

section Put

variable [DecidableEq S] [DecidableEq W]

/-- `d` with `e` at set `s`, way `w`. -/
def put (d : Dir S W E) (s : S) (w : W) (e : E) : Dir S W E :=
  fun s' w' => if s' = s ∧ w' = w then e else d s' w'

@[simp] theorem put_same (d : Dir S W E) (s : S) (w : W) (e : E) : put d s w e s w = e := by
  simp [put]

theorem put_other {d : Dir S W E} {s s' : S} {w w' : W} {e : E}
    (h : ¬ (s' = s ∧ w' = w)) : put d s w e s' w' = d s' w' := by
  rw [put, if_neg h]

omit [DecidableEq K] in
/-- An entry may be put anywhere no other way of its set has its key. -/
theorem Unique.put {d : Dir S W E} (hu : Unique t d) {s : S} {w : W} {e : E}
    (h : ∀ w', w' ≠ w → t.valid (d s w') = true → t.valid e = true →
      t.key (d s w') ≠ t.key e) : Unique t (put d s w e) := by
  intro s' w₁ w₂ hv₁ hv₂ hk
  by_cases h₁ : s' = s ∧ w₁ = w
  · by_cases h₂ : s' = s ∧ w₂ = w
    · exact h₁.2.trans h₂.2.symm
    · rw [put_other h₂] at hv₂ hk
      obtain ⟨rfl, rfl⟩ := h₁
      rw [put_same] at hv₁ hk
      exact absurd hk.symm (h w₂ (fun hw => h₂ ⟨rfl, hw⟩) hv₂ hv₁)
  · by_cases h₂ : s' = s ∧ w₂ = w
    · rw [put_other h₁] at hv₁ hk
      obtain ⟨rfl, rfl⟩ := h₂
      rw [put_same] at hv₂ hk
      exact absurd hk (h w₁ (fun hw => h₁ ⟨rfl, hw⟩) hv₁ hv₂)
    · rw [put_other h₁] at hv₁ hk
      rw [put_other h₂] at hv₂ hk
      exact hu s' w₁ w₂ hv₁ hv₂ hk

/-- Where the key was found, an entry with that key may replace the old one. -/
theorem Unique.put_found {ways : List W} {d : Dir S W E} (hu : Unique t d) {s : S} {w : W}
    {e : E} {k : K} (hf : find t ways d s k = some w) (hk : t.key e = k) :
    Unique t (Directory.put d s w e) := by
  obtain ⟨hv, hkw⟩ := find_some hf
  refine hu.put fun w' hne hv' _ hk' => hne ?_
  exact hu s w' w hv' hv (hk'.trans (hk.trans hkw.symm))

/-- Where the key was absent, an entry with that key may go into any way. -/
theorem Unique.put_absent {ways : List W} {d : Dir S W E} (hu : Unique t d) {s : S} {w : W}
    {e : E} {k : K} (hall : ∀ w, w ∈ ways) (hf : find t ways d s k = none) (hk : t.key e = k) :
    Unique t (Directory.put d s w e) :=
  hu.put fun w' _ hv' _ hk' => find_none hall hf w' hv' (hk'.trans hk)

omit [DecidableEq K] in
theorem AllValid.put {P : S → E → Prop} {d : Dir S W E} (hd : AllValid t P d) {s : S} {w : W}
    {e : E} (h : t.valid e = true → P s e) : AllValid t P (put d s w e) := by
  intro s' w' hv
  by_cases h' : s' = s ∧ w' = w
  · obtain ⟨rfl, rfl⟩ := h'
    rw [put_same] at hv ⊢
    exact h hv
  · rw [put_other h'] at hv ⊢
    exact hd s' w' hv

end Put

/-! ## Dropping entries -/

omit [DecidableEq K] in
theorem Drops.trans {d₁ d₂ d₃ : Dir S W E} (h₁ : Drops t d₁ d₂) (h₂ : Drops t d₂ d₃) :
    Drops t d₁ d₃ := by
  intro s w
  rcases h₂ s w with h | h
  · rcases h₁ s w with h' | h'
    · exact Or.inl (h.trans h')
    · rw [h]
      exact Or.inr h'
  · exact Or.inr h

omit [DecidableEq K] in
theorem Unique.drops {d d' : Dir S W E} (hu : Unique t d) (h : Drops t d d') :
    Unique t d' := by
  intro s w w' hv hv' hk
  rcases h s w with h₁ | h₁
  · rcases h s w' with h₂ | h₂
    · rw [h₁] at hv hk
      rw [h₂] at hv' hk
      exact hu s w w' hv hv' hk
    · rw [h₂] at hv'
      exact absurd hv' (by simp)
  · rw [h₁] at hv
    exact absurd hv (by simp)

omit [DecidableEq K] in
theorem AllValid.drops {P : S → E → Prop} {d d' : Dir S W E} (hd : AllValid t P d)
    (h : Drops t d d') : AllValid t P d' := by
  intro s w hv
  rcases h s w with h₁ | h₁
  · rw [h₁] at hv ⊢
    exact hd s w hv
  · rw [h₁] at hv
    exact absurd hv (by simp)

end Nxvm.Lib.Directory
