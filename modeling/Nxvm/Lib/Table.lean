/-
Arrays whose accesses are checked.

A `Table` is an array of a size known beforehand, as a function on its indices. A
program computes an index as a number, and the number may lie outside: `read` and
`write` answer nothing then, and `of_option` turns that answer into the fault of
a computation. What a verification shows is that the fault never happens; it
cannot be shown by leaving the check out.
-/
import Mathlib.Data.Fintype.Basic
import Mathlib.Logic.Function.Basic
import Nxvm.Lib.Exec

set_option autoImplicit false

namespace Nxvm.Lib

/-! ## Indices

A literal of an index type is the same term wherever it is written. -/

instance index_two : @NeZero ℕ (@Zero.ofOfNat0 ℕ (instOfNatNat 0)) 2 := ⟨by decide⟩

instance index_four : @NeZero ℕ (@Zero.ofOfNat0 ℕ (instOfNatNat 0)) 4 := ⟨by decide⟩

instance index_eight : @NeZero ℕ (@Zero.ofOfNat0 ℕ (instOfNatNat 0)) 8 := ⟨by decide⟩

instance index_sixteen : @NeZero ℕ (@Zero.ofOfNat0 ℕ (instOfNatNat 0)) 16 := ⟨by decide⟩

/-! ## Tables -/

/-- `n` cells. -/
abbrev Table (n : ℕ) (α : Type) := Fin n → α

namespace Table

variable {n : ℕ} {α β : Type}

/-- Every cell holds `a`. -/
def fill (a : α) : Table n α := fun _ => a

/-- The cell at `i`, when there is one. -/
def read (t : Table n α) (i : ℕ) : Option α :=
  if h : i < n then some (t ⟨i, h⟩) else none

/-- `t` with `a` in the cell at `i`, when there is one. -/
def write (t : Table n α) (i : ℕ) (a : α) : Option (Table n α) :=
  if i < n then some fun j => if j.val = i then a else t j else none

/-- `t` with `k` cells of `u` from `j` on copied to `i` on, when both runs are inside. -/
def copy {m : ℕ} (t : Table n α) (i : ℕ) (u : Table m α) (j k : ℕ) : Option (Table n α) :=
  if h : i + k ≤ n ∧ j + k ≤ m then
    some fun x => if hx : i ≤ x.val ∧ x.val < i + k then u ⟨j + (x.val - i), by omega⟩ else t x
  else none

/-- The table of the answers of `f`, when it answers for every cell. -/
def build (f : Fin n → Option α) : Option (Table n α) :=
  if h : ∀ i, (f i).isSome then some fun i => (f i).get (h i) else none

@[simp] theorem fill_apply (a : α) (i : Fin n) : (fill a : Table n α) i = a := rfl

theorem read_of_lt (t : Table n α) {i : ℕ} (h : i < n) : t.read i = some (t ⟨i, h⟩) := by
  rw [read, dif_pos h]

theorem write_of_lt (t : Table n α) {i : ℕ} (a : α) (h : i < n) :
    t.write i a = some fun j => if j.val = i then a else t j := by
  rw [write, if_pos h]

theorem copy_of_le {m : ℕ} (t : Table n α) {i : ℕ} (u : Table m α) {j k : ℕ}
    (hi : i + k ≤ n) (hj : j + k ≤ m) : ∃ t', t.copy i u j k = some t' := by
  rw [copy, dif_pos ⟨hi, hj⟩]
  exact ⟨_, rfl⟩

theorem isSome_read (t : Table n α) {i : ℕ} : (t.read i).isSome ↔ i < n := by
  by_cases h : i < n
  · simp [read_of_lt t h, h]
  · simp [read, h]

theorem isSome_write (t : Table n α) {i : ℕ} (a : α) : (t.write i a).isSome ↔ i < n := by
  by_cases h : i < n
  · simp [write_of_lt t a h, h]
  · simp [write, h]

theorem exists_of_length {l : List α} (h : l.length = n) :
    ∃ t : Table n α, l = List.ofFn t ∧ ∀ i : Fin n, l[i.val]? = some (t i) := by
  subst h
  exact ⟨fun i => l[i], List.ofFn_getElem.symm, fun i => List.getElem?_eq_getElem i.isLt⟩

theorem build_of_forall {f : Fin n → Option α} {t : Table n α} (h : ∀ i, f i = some (t i)) :
    build f = some t := by
  have hall : ∀ i, (f i).isSome := fun i => by rw [h i]; rfl
  rw [build, dif_pos hall]
  congr 1
  funext i
  simp [h i]

end Table

/-! ## Buffers

A block of memory whose size is found out when it is allocated. -/

namespace Buffer

variable {α : Type}

/-- `b` with `a` at `i`, when the block is that long. -/
def write (b : List α) (i : ℕ) (a : α) : Option (List α) :=
  if i < b.length then some (b.set i a) else none

theorem write_of_lt (b : List α) {i : ℕ} (a : α) (h : i < b.length) :
    write b i a = some (b.set i a) := by
  rw [write, if_pos h]

end Buffer

/-! ## Accesses in a computation -/

namespace Exec

variable {ε σ α : Type}

/-- An access that may have no answer, run without touching the state. -/
def of_option (e : ε) (o : Option α) : EStateM ε σ α :=
  match o with
  | some a => pure a
  | none => throw e

@[simp] theorem of_option_some (e : ε) (a : α) :
    (of_option e (some a) : EStateM ε σ α) = pure a := rfl

@[simp] theorem of_option_none (e : ε) :
    (of_option e none : EStateM ε σ α) = throw e := rfl

theorem of_option_eq_ok {e : ε} {o : Option α} {a : α} {s s' : σ} :
    (of_option e o : EStateM ε σ α) s = .ok a s' ↔ o = some a ∧ s' = s := by
  cases o with
  | none => simp
  | some b => simp [eq_comm]

theorem Triple.of_of_option {P : σ → Prop} {Q : α → σ → Prop} {E : ε → σ → Prop} {e : ε}
    {o : Option α} (hsome : ∀ a, o = some a → ∀ s, P s → Q a s)
    (hnone : o = none → ∀ s, P s → E e s) :
    Triple P (of_option e o : EStateM ε σ α) Q E := by
  cases o with
  | none => exact Triple.of_throw (hnone rfl)
  | some a => exact Triple.of_pure (hsome a rfl)

theorem Respects.of_of_option {F : Frame σ} (e : ε) (o : Option α) :
    Respects F (of_option e o : EStateM ε σ α) := by
  cases o with
  | none => exact Respects.of_throw e
  | some a => exact Respects.of_pure a

end Exec

end Nxvm.Lib
