/-
State-passing computations that may fail and that keep what they did.

The programs this library is for change a machine state step by step and may
stop in the middle with a fault. What was changed before the fault stays
changed: whoever handles it sees the state as it was left. That is core Lean's
`EStateM`, whose failing result carries a state too. This file adds the three
ways of reasoning the developments above need and nothing else:

  * *inversion*: from one successful (or failing) run, the runs of its parts;
  * *frames*: a reflexive and transitive relation between the state before and
    the state after, however the computation ends;
  * *triples*: a precondition, and one postcondition for either ending.
-/
import Mathlib.Logic.Basic
import Mathlib.Tactic.Common

set_option autoImplicit false

namespace Nxvm.Lib.Exec

variable {ε σ α β γ : Type}

/-! ## The primitive computations -/

/-- Stop with `e` when `c` holds, and go on with the state untouched otherwise. -/
def raise_if (c : Bool) (e : ε) : EStateM ε σ Unit :=
  if c then throw e else pure ()

/-- Run `x` and hand its fault over as a value: the caller decides what happens
next. The state is the one `x` left. -/
def attempt (x : EStateM ε σ α) : EStateM ε σ (Except ε α) := fun s =>
  match x s with
  | .ok a s' => .ok (.ok a) s'
  | .error e s' => .ok (.error e) s'

/-- A pure check that may fail, run without touching the state. -/
def of_except (r : Except ε α) : EStateM ε σ α :=
  match r with
  | .ok a => pure a
  | .error e => throw e

/-- Run `x` from its own copy of the state and keep only what it answers. -/
def query (f : σ → α) : EStateM ε σ α := fun s => .ok (f s) s

/-- Replace the state by its image under `f`. -/
def update (f : σ → σ) : EStateM ε σ Unit := fun s => .ok () (f s)

/-- Do `x` when `c` holds, and nothing otherwise. -/
def perform_if (c : Prop) [Decidable c] (x : EStateM ε σ Unit) : EStateM ε σ Unit :=
  if c then x else pure ()

/-- The state a computation leaves behind, whichever way it ends. -/
def final (x : EStateM ε σ α) (s : σ) : σ :=
  match x s with
  | .ok _ s' => s'
  | .error _ s' => s'

/-- The fault a computation ends with, if it does. -/
def fault_of (x : EStateM ε σ α) (s : σ) : Option ε :=
  match x s with
  | .ok _ _ => none
  | .error e _ => some e

/-- The answer of a computation, if it ends normally. -/
def answer_of (x : EStateM ε σ α) (s : σ) : Option α :=
  match x s with
  | .ok a _ => some a
  | .error _ _ => none

theorem final_of_ok {x : EStateM ε σ α} {s s' : σ} {a : α} (h : x s = .ok a s') :
    final x s = s' := by
  rw [final, h]

theorem final_of_error {x : EStateM ε σ α} {s s' : σ} {e : ε} (h : x s = .error e s') :
    final x s = s' := by
  rw [final, h]

@[simp] theorem pure_run (a : α) (s : σ) : (pure a : EStateM ε σ α) s = .ok a s := rfl

@[simp] theorem throw_run (e : ε) (s : σ) : (throw e : EStateM ε σ α) s = .error e s := rfl

@[simp] theorem query_run (f : σ → α) (s : σ) :
    (query f : EStateM ε σ α) s = .ok (f s) s := rfl

@[simp] theorem update_run (f : σ → σ) (s : σ) :
    (update f : EStateM ε σ Unit) s = .ok () (f s) := rfl

@[simp] theorem raise_if_true (e : ε) : (raise_if true e : EStateM ε σ Unit) = throw e := rfl

@[simp] theorem raise_if_false (e : ε) : (raise_if false e : EStateM ε σ Unit) = pure () := rfl

theorem bind_run (x : EStateM ε σ α) (f : α → EStateM ε σ β) (s : σ) :
    (x >>= f) s = match x s with
      | .ok a s' => f a s'
      | .error e s' => .error e s' := rfl

theorem get_bind_run (f : σ → EStateM ε σ α) (s : σ) :
    ((get : EStateM ε σ σ) >>= f) s = f s s := rfl

theorem update_bind_run (f : σ → σ) (k : Unit → EStateM ε σ α) (s : σ) :
    (update f >>= k) s = k () (f s) := rfl

theorem bind_run_ok {x : EStateM ε σ α} {f : α → EStateM ε σ β} {s s' : σ} {a : α}
    (h : x s = .ok a s') : (x >>= f) s = f a s' := by
  rw [bind_run, h]

theorem bind_run_error {x : EStateM ε σ α} {f : α → EStateM ε σ β} {s s' : σ} {e : ε}
    (h : x s = .error e s') : (x >>= f) s = .error e s' := by
  rw [bind_run, h]

@[simp] theorem final_update_bind (f : σ → σ) (k : Unit → EStateM ε σ α) (s : σ) :
    final (update f >>= k) s = final (k ()) (f s) := rfl

theorem final_bind_ok {x : EStateM ε σ α} {f : α → EStateM ε σ β} {s s' : σ} {a : α}
    (h : x s = .ok a s') : final (x >>= f) s = final (f a) s' := by
  rw [final, bind_run_ok h, final]

/-- An answer made up at the end changes no state. -/
theorem final_bind_pure (x : EStateM ε σ α) (f : α → β) (s : σ) :
    final (x >>= fun a => pure (f a)) s = final x s := by
  unfold final
  rw [bind_run]
  cases x s with
  | ok a s' => rfl
  | error e s' => rfl

/-! ## Inversion -/

/-- A sequence that succeeded is two successful runs. -/
theorem bind_eq_ok {x : EStateM ε σ α} {f : α → EStateM ε σ β} {s s' : σ} {b : β} :
    (x >>= f) s = .ok b s' ↔ ∃ a s₁, x s = .ok a s₁ ∧ f a s₁ = .ok b s' := by
  rw [bind_run]
  cases x s with
  | ok a s₁ => simp
  | error e s₁ => simp

/-- A sequence that failed stopped in its first part or in its second. -/
theorem bind_eq_error {x : EStateM ε σ α} {f : α → EStateM ε σ β} {s s' : σ} {e : ε} :
    (x >>= f) s = .error e s' ↔
      x s = .error e s' ∨ ∃ a s₁, x s = .ok a s₁ ∧ f a s₁ = .error e s' := by
  rw [bind_run]
  cases x s with
  | ok a s₁ => simp
  | error e' s₁ => simp

@[simp] theorem pure_eq_ok {a b : α} {s s' : σ} :
    (pure a : EStateM ε σ α) s = .ok b s' ↔ a = b ∧ s = s' := by
  simp

theorem raise_if_eq_ok {c : Bool} {e : ε} {s s' : σ} {u : Unit} :
    (raise_if c e : EStateM ε σ Unit) s = .ok u s' ↔ c = false ∧ s' = s := by
  cases c with
  | true => simp
  | false => simp [eq_comm]

/-! ## Frames -/

/-- A relation between the state before and the state after that holds of doing
nothing and of doing one thing after another. -/
structure Frame (σ : Type) where
  rel : σ → σ → Prop
  refl : ∀ s, rel s s
  trans : ∀ {a b c}, rel a b → rel b c → rel a c

namespace Frame

/-- The frame "this part of the state is unchanged". -/
def same (f : σ → γ) : Frame σ :=
  ⟨fun a b => f b = f a, fun _ => rfl, fun h₁ h₂ => h₂.trans h₁⟩

end Frame

/-- `x` stays inside the frame on every run. -/
structure Respects (F : Frame σ) (x : EStateM ε σ α) : Prop where
  run : ∀ s, F.rel s (final x s)

namespace Respects

variable {F G : Frame σ}

theorem of_pure (a : α) : Respects F (pure a : EStateM ε σ α) := ⟨fun s => F.refl s⟩

theorem of_throw (e : ε) : Respects F (throw e : EStateM ε σ α) := ⟨fun s => F.refl s⟩

theorem of_query (f : σ → α) : Respects F (query f : EStateM ε σ α) := ⟨fun s => F.refl s⟩

theorem of_get : Respects F (get : EStateM ε σ σ) := ⟨fun s => F.refl s⟩

theorem of_update {f : σ → σ} (h : ∀ s, F.rel s (f s)) :
    Respects F (update f : EStateM ε σ Unit) := ⟨h⟩

theorem of_raise_if (c : Bool) (e : ε) : Respects F (raise_if c e : EStateM ε σ Unit) := by
  cases c with
  | true => exact of_throw e
  | false => exact of_pure ()

theorem of_of_except (r : Except ε α) : Respects F (of_except r : EStateM ε σ α) := by
  cases r with
  | ok a => exact of_pure a
  | error e => exact of_throw e

theorem ok {x : EStateM ε σ α} (hx : Respects F x) {s s' : σ} {a : α}
    (h : x s = .ok a s') : F.rel s s' := by
  have hs := hx.run s
  rwa [final_of_ok h] at hs

theorem error {x : EStateM ε σ α} (hx : Respects F x) {s s' : σ} {e : ε}
    (h : x s = .error e s') : F.rel s s' := by
  have hs := hx.run s
  rwa [final_of_error h] at hs

theorem bind {x : EStateM ε σ α} {f : α → EStateM ε σ β}
    (hx : Respects F x) (hf : ∀ a, Respects F (f a)) : Respects F (x >>= f) := by
  refine ⟨fun s => ?_⟩
  cases hxs : x s with
  | ok a s₁ =>
    rw [final_bind_ok hxs]
    exact F.trans (hx.ok hxs) ((hf a).run s₁)
  | error e s₁ =>
    rw [final_of_error (bind_run_error hxs)]
    exact hx.error hxs

theorem attempt {x : EStateM ε σ α} (hx : Respects F x) :
    Respects F (Exec.attempt x) := by
  refine ⟨fun s => ?_⟩
  have hs := hx.run s
  unfold Exec.attempt final at *
  cases hxs : x s with
  | ok a s₁ => simpa [hxs] using hs
  | error e s₁ => simpa [hxs] using hs

theorem ite {c : Prop} [Decidable c] {x y : EStateM ε σ α}
    (hx : Respects F x) (hy : Respects F y) : Respects F (if c then x else y) := by
  by_cases hc : c
  · rw [if_pos hc]; exact hx
  · rw [if_neg hc]; exact hy

theorem mono {x : EStateM ε σ α} (hx : Respects F x)
    (h : ∀ s s', F.rel s s' → G.rel s s') : Respects G x := ⟨fun s => h _ _ (hx.run s)⟩

end Respects

/-! ## Triples -/

/-- From a state with `P`, `x` ends normally in `Q` or with a fault in `E`. -/
def Triple (P : σ → Prop) (x : EStateM ε σ α) (Q : α → σ → Prop) (E : ε → σ → Prop) : Prop :=
  ∀ s, P s → match x s with
    | .ok a s' => Q a s'
    | .error e s' => E e s'

/-- The two endings of a computation whose fault has been handed over as a value. -/
def Ended (Q : α → σ → Prop) (E : ε → σ → Prop) : Except ε α → σ → Prop
  | .ok a => Q a
  | .error e => E e

namespace Triple

variable {P P' : σ → Prop} {Q Q' : α → σ → Prop} {E E' : ε → σ → Prop}

theorem of_ok {x : EStateM ε σ α} (hx : Triple P x Q E) {s s' : σ} {a : α}
    (hP : P s) (h : x s = .ok a s') : Q a s' := by
  have hs := hx s hP
  rwa [h] at hs

theorem of_error {x : EStateM ε σ α} (hx : Triple P x Q E) {s s' : σ} {e : ε}
    (hP : P s) (h : x s = .error e s') : E e s' := by
  have hs := hx s hP
  rwa [h] at hs

/-- A triple, told by its two endings. -/
theorem intro {x : EStateM ε σ α}
    (hok : ∀ s a s', P s → x s = .ok a s' → Q a s')
    (herr : ∀ s e s', P s → x s = .error e s' → E e s') : Triple P x Q E := by
  intro s hP
  cases hx : x s with
  | ok a s' => exact hok s a s' hP hx
  | error e s' => exact herr s e s' hP hx

/-- What holds at both endings holds of the state left behind. -/
theorem final {x : EStateM ε σ α} {I : σ → Prop} (hx : Triple P x (fun _ => I) (fun _ => I))
    {s : σ} (hP : P s) : I (Exec.final x s) := by
  cases h : x s with
  | ok a s' =>
    rw [final_of_ok h]
    exact hx.of_ok hP h
  | error e s' =>
    rw [final_of_error h]
    exact hx.of_error hP h

theorem of_pure {a : α} (h : ∀ s, P s → Q a s) :
    Triple P (pure a : EStateM ε σ α) Q E := h

theorem of_throw {e : ε} (h : ∀ s, P s → E e s) :
    Triple P (throw e : EStateM ε σ α) Q E := h

theorem of_query {f : σ → α} (h : ∀ s, P s → Q (f s) s) :
    Triple P (query f : EStateM ε σ α) Q E := h

theorem of_get {Q : σ → σ → Prop} (h : ∀ s, P s → Q s s) :
    Triple P (get : EStateM ε σ σ) Q E := h

theorem of_update {f : σ → σ} {Q : Unit → σ → Prop} (h : ∀ s, P s → Q () (f s)) :
    Triple P (update f : EStateM ε σ Unit) Q E := h

theorem of_raise_if {c : Bool} {e : ε} {Q : Unit → σ → Prop}
    (htrue : c = true → ∀ s, P s → E e s) (hfalse : c = false → ∀ s, P s → Q () s) :
    Triple P (raise_if c e : EStateM ε σ Unit) Q E := by
  cases c with
  | true => exact of_throw (htrue rfl)
  | false => exact of_pure (hfalse rfl)

/-- Sequencing: what the first part ends in is what the second starts from. -/
theorem bind {x : EStateM ε σ α} {f : α → EStateM ε σ β} {M : α → σ → Prop}
    {R : β → σ → Prop} (hx : Triple P x M E) (hf : ∀ a, Triple (M a) (f a) R E) :
    Triple P (x >>= f) R E := by
  intro s hP
  cases hxs : x s with
  | ok a s₁ =>
    rw [bind_run_ok hxs]
    exact hf a s₁ (hx.of_ok hP hxs)
  | error e s₁ =>
    rw [bind_run_error hxs]
    exact hx.of_error hP hxs

theorem attempt {x : EStateM ε σ α} (hx : Triple P x Q E') :
    Triple P (Exec.attempt x) (Ended Q E') E := by
  intro s hP
  have hs := hx s hP
  unfold Exec.attempt
  cases hxs : x s with
  | ok a s₁ => simpa [hxs, Ended] using hs
  | error e s₁ => simpa [hxs, Ended] using hs

theorem ite {c : Prop} [Decidable c] {x y : EStateM ε σ α}
    (hx : c → Triple P x Q E) (hy : ¬ c → Triple P y Q E) :
    Triple P (if c then x else y) Q E := by
  by_cases hc : c
  · rw [if_pos hc]; exact hx hc
  · rw [if_neg hc]; exact hy hc

theorem of_perform_if {c : Prop} [Decidable c] {x : EStateM ε σ Unit} {Q : Unit → σ → Prop}
    (hx : c → Triple P x Q E) (hskip : ¬ c → ∀ s, P s → Q () s) :
    Triple P (perform_if c x) Q E := ite hx fun hc => of_pure (hskip hc)

/-- Strengthen the start, weaken the endings. -/
theorem conseq {x : EStateM ε σ α} (hx : Triple P x Q E) (hP : ∀ s, P' s → P s)
    (hQ : ∀ a s, Q a s → Q' a s) (hE : ∀ e s, E e s → E' e s) : Triple P' x Q' E' :=
  intro (fun _ _ _ hp h => hQ _ _ (hx.of_ok (hP _ hp) h))
    (fun _ _ _ hp h => hE _ _ (hx.of_error (hP _ hp) h))

/-- What is known of an untouched part of the state stays known. -/
theorem keep {x : EStateM ε σ α} {f : σ → γ} (hx : Triple P x Q E)
    (hf : Respects (Frame.same f) x) (K : γ → Prop) :
    Triple (fun s => P s ∧ K (f s)) x (fun a s => Q a s ∧ K (f s)) (fun e s => E e s ∧ K (f s)) :=
  intro
    (fun s a s' hP h => ⟨hx.of_ok hP.1 h, by rw [show f s' = f s from hf.ok h]; exact hP.2⟩)
    (fun s e s' hP h => ⟨hx.of_error hP.1 h, by rw [show f s' = f s from hf.error h]; exact hP.2⟩)

/-- The state that was read is the state the rest starts from. -/
theorem bind_get {f : σ → EStateM ε σ α} (hf : ∀ s, P s → Triple (fun s' => s' = s) (f s) Q E) :
    Triple P (get >>= f) Q E := fun s hs => hf s hs s rfl

/-- A fact that does not speak of the state is as good as a hypothesis. -/
theorem assume {φ : Prop} {x : EStateM ε σ α} (h : φ → Triple P x Q E) :
    Triple (fun s => P s ∧ φ) x Q E :=
  fun s hs => h hs.2 s hs.1

/-- What holds for every witness of the start holds from the existence of one. -/
theorem of_exists {ι : Type} {P : ι → σ → Prop} {x : EStateM ε σ α}
    (h : ∀ i, Triple (P i) x Q E) : Triple (fun s => ∃ i, P i s) x Q E := by
  rintro s ⟨i, hi⟩
  exact h i s hi

/-- Weaken the endings only. -/
theorem weaken {x : EStateM ε σ α} (hx : Triple P x Q E) (hQ : ∀ a s, Q a s → Q' a s)
    (hE : ∀ e s, E e s → E' e s) : Triple P x Q' E' :=
  hx.conseq (fun _ h => h) hQ hE

end Triple

/-! ## Answers -/

/-- Whatever `x` answers is in `Q`. -/
def Returns (Q : α → Prop) (x : EStateM ε σ α) : Prop := ∀ s a s', x s = .ok a s' → Q a

namespace Returns

variable {P Q : α → Prop} {R : β → Prop}

theorem of_pure {a : α} (h : Q a) : Returns Q (pure a : EStateM ε σ α) := by
  intro s b s' hb
  cases hb
  exact h

theorem of_throw (e : ε) : Returns Q (throw e : EStateM ε σ α) := nofun

/-- What the rest answers does not depend on what is known of the first answer. -/
theorem bind {x : EStateM ε σ α} {f : α → EStateM ε σ β} (hf : ∀ a, Returns R (f a)) :
    Returns R (x >>= f) := by
  intro s b s' h
  obtain ⟨a, s₁, -, hb⟩ := bind_eq_ok.mp h
  exact hf a s₁ b s' hb

/-- The rest may use what is known of the first answer. -/
theorem bind_of {x : EStateM ε σ α} {f : α → EStateM ε σ β} (hx : Returns P x)
    (hf : ∀ a, P a → Returns R (f a)) : Returns R (x >>= f) := by
  intro s b s' h
  obtain ⟨a, s₁, ha, hb⟩ := bind_eq_ok.mp h
  exact hf a (hx s a s₁ ha) s₁ b s' hb

theorem ite {c : Prop} [Decidable c] {x y : EStateM ε σ α} (hx : c → Returns Q x)
    (hy : ¬ c → Returns Q y) : Returns Q (if c then x else y) := by
  by_cases h : c
  · rw [if_pos h]
    exact hx h
  · rw [if_neg h]
    exact hy h

end Returns

end Nxvm.Lib.Exec
