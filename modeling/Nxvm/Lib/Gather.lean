/-
Answers gathered from several parties.

Each party is called in turn, may change the state the others see, and may fail; the
first failure ends the round, and the answers are joined. Where no party disturbs the
others, the joined answer does not depend on the order of the calls.
-/
import Mathlib.Data.List.Perm.Basic
import Mathlib.Logic.OpClass

set_option autoImplicit false

namespace Nxvm.Lib

variable {ι σ ε β : Type}

/-- The calls of a list in turn, with their answers joined to `b`. -/
def gather (call : ι → σ → Except ε β × σ) (join : β → β → β) :
    List ι → β → σ → Except ε β × σ
  | [], b, s => (.ok b, s)
  | i :: l, b, s =>
    match call i s with
    | (.error e, s') => (.error e, s')
    | (.ok x, s') => gather call join l (join b x) s'

namespace Gather

variable (call : ι → σ → Except ε β × σ)

/-- The state after the calls of a list. -/
def visited (l : List ι) (s : σ) : σ := l.foldl (fun s i => (call i s).2) s

/-- From `s` on, every call of the list answers the same whichever of the others were made
before it. -/
def Undisturbed (l : List ι) (s : σ) : Prop :=
  ∀ i ∈ l, ∀ before : List ι, (∀ j ∈ before, j ∈ l) →
    (call i (visited call before s)).1 = (call i s).1

variable {call} {join : β → β → β}

/-- A round that failed failed with one of its calls. -/
theorem gather_error {P : ε → Prop}
    (hcall : ∀ (i : ι) (s : σ) (e : ε) (s' : σ), call i s = (.error e, s') → P e) {l : List ι}
    {b : β} {s s' : σ} {e : ε} (h : gather call join l b s = (.error e, s')) : P e := by
  induction l generalizing b s with
  | nil => cases h
  | cons i l ih =>
    rw [gather] at h
    cases hi : call i s with
    | mk answer s1 =>
      rw [hi] at h
      cases answer with
      | error e1 =>
        cases h
        exact hcall i s e s' hi
      | ok x => exact ih h

/-- Undisturbed calls answer what they would answer at the start. -/
theorem gather_undisturbed (join : β → β → β) {l : List ι} {s : σ} (h : Undisturbed call l s) :
    ∀ (rest before : List ι) (b : β), (∀ i ∈ rest, i ∈ l) → (∀ j ∈ before, j ∈ l) →
      (gather call join rest b (visited call before s)).1 =
        rest.foldlM (fun b i => (call i s).1.map (join b)) b := by
  intro rest
  induction rest with
  | nil => intro before b _ _; rfl
  | cons i rest ih =>
    intro before b hrest hbefore
    have hanswer := h i (hrest i List.mem_cons_self) before hbefore
    have hnext : (call i (visited call before s)).2 = visited call (before ++ [i]) s := by
      rw [visited, visited, List.foldl_append]
      rfl
    have hcall : call i (visited call before s) =
        ((call i s).1, visited call (before ++ [i]) s) := by
      rw [← hanswer, ← hnext]
    rw [gather, hcall, List.foldlM_cons]
    cases hx : (call i s).1 with
    | error e => rfl
    | ok x =>
      refine ih (before ++ [i]) (join b x) (fun j hj => hrest j (List.mem_cons_of_mem _ hj)) ?_
      intro j hj
      rcases List.mem_append.mp hj with hj | hj
      · exact hbefore j hj
      · rw [List.mem_singleton.mp hj]
        exact hrest i List.mem_cons_self

/-- Answers that were gathered are gathered in every order. -/
theorem foldlM_perm [RightCommutative join] (answer : ι → Except ε β) {l l' : List ι}
    (hperm : l.Perm l') {b v : β}
    (h : l.foldlM (fun b i => (answer i).map (join b)) b = .ok v) :
    l'.foldlM (fun b i => (answer i).map (join b)) b = .ok v := by
  induction hperm generalizing b with
  | nil => exact h
  | cons i _ ih =>
    rw [List.foldlM_cons] at h ⊢
    cases hx : answer i with
    | error e =>
      rw [hx] at h
      cases h
    | ok x =>
      rw [hx] at h
      exact ih h
  | swap i j l =>
    simp only [List.foldlM_cons] at h ⊢
    cases hi : answer i <;> cases hj : answer j <;> rw [hi, hj] at h <;> try cases h
    rename_i x y
    have hjoin : join (join b x) y = join (join b y) x := RightCommutative.right_comm b x y
    change List.foldlM _ (join (join b x) y) l = _
    rw [hjoin]
    exact h
  | trans _ _ ih ih' => exact ih' (ih h)

theorem Undisturbed.perm {l l' : List ι} {s : σ} (h : Undisturbed call l s)
    (hperm : l.Perm l') : Undisturbed call l' s :=
  fun i hi before hbefore =>
    h i (hperm.mem_iff.mpr hi) before fun j hj => hperm.mem_iff.mpr (hbefore j hj)

/-- What undisturbed parties answer together does not depend on their order. -/
theorem gather_perm [RightCommutative join] {l l' : List ι} {s : σ}
    (h : Undisturbed call l s) (hperm : l.Perm l') {b v : β}
    (hok : (gather call join l b s).1 = .ok v) : (gather call join l' b s).1 = .ok v := by
  have hl := gather_undisturbed join h l [] b (fun _ hi => hi) (by simp)
  have hl' := gather_undisturbed join (h.perm hperm) l' [] b (fun _ hi => hi) (by simp)
  change (gather call join l b s).1 = _ at hl
  change (gather call join l' b s).1 = _ at hl'
  rw [hl']
  exact foldlM_perm _ hperm (hl.symm.trans hok)

end Gather

end Nxvm.Lib
