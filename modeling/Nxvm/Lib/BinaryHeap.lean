/-
Binary heaps that are mended by exchanging neighbours.

A heap is the keys at the positions `0 … n - 1`, the parent of position `i` being
`(i - 1) / 2`. It is `Ordered` when no key is below its parent's. An edit at one
position leaves an order that is broken there only, upwards (`Rising`) or
downwards (`Sinking`); exchanging the position with its parent, or with its least
child, moves the break by one level. This file has the two broken orders, what
one exchange makes of them, and what is left when nothing has to be exchanged.
-/
import Mathlib.Logic.Equiv.Basic
import Mathlib.Order.Lattice
import Mathlib.Tactic.Common

set_option autoImplicit false

namespace Nxvm.Lib.BinaryHeap

variable {K : Type} [LinearOrder K]

/-- The position above `i`. Position 0 has none, and answers itself. -/
def parent (i : ℕ) : ℕ := (i - 1) / 2

theorem parent_lt {i : ℕ} (h : 0 < i) : parent i < i := by
  unfold parent; omega

/-- The two positions below `i`. -/
theorem parent_eq_iff {i k : ℕ} (h : 0 < i) :
    parent i = k ↔ i = 2 * k + 1 ∨ i = 2 * k + 2 := by
  unfold parent; omega

/-- No key of the heap is below its parent's. -/
def Ordered (key : ℕ → K) (n : ℕ) : Prop :=
  ∀ i, 0 < i → i < n → key (parent i) ≤ key i

/-- The order holds everywhere except that the key at `k` may be below its parent's. -/
structure Rising (key : ℕ → K) (n k : ℕ) : Prop where
  except : ∀ i, 0 < i → i < n → i ≠ k → key (parent i) ≤ key i
  grand : ∀ i, 0 < i → i < n → parent i = k → 0 < k → key (parent k) ≤ key i

/-- The order holds everywhere except that the key at `k` may be above its children's. -/
structure Sinking (key : ℕ → K) (n k : ℕ) : Prop where
  except : ∀ i, 0 < i → i < n → parent i ≠ k → key (parent i) ≤ key i
  grand : ∀ i, 0 < i → i < n → parent i = k → 0 < k → key (parent k) ≤ key i

/-- `key` with the keys of two positions exchanged. -/
def exchange (key : ℕ → K) (a b : ℕ) : ℕ → K := fun i => key (Equiv.swap a b i)

omit [LinearOrder K] in
@[simp] theorem exchange_left (key : ℕ → K) (a b : ℕ) : exchange key a b a = key b := by
  simp [exchange]

omit [LinearOrder K] in
@[simp] theorem exchange_right (key : ℕ → K) (a b : ℕ) : exchange key a b b = key a := by
  simp [exchange]

omit [LinearOrder K] in
theorem exchange_other (key : ℕ → K) {a b i : ℕ} (ha : i ≠ a) (hb : i ≠ b) :
    exchange key a b i = key i := by
  rw [exchange, Equiv.swap_apply_of_ne_of_ne ha hb]

/-- The root of an ordered heap is its least key. -/
theorem Ordered.root_le {key : ℕ → K} {n : ℕ} (h : Ordered key n) (i : ℕ) (hi : i < n) :
    key 0 ≤ key i := by
  induction i using Nat.strongRecOn with
  | ind i ih =>
    rcases i.eq_zero_or_pos with rfl | h0
    · exact le_rfl
    · have hp := parent_lt h0
      calc key 0 ≤ key (parent i) := ih (parent i) hp (by omega)
        _ ≤ key i := h i h0 hi

theorem Ordered.congr {key key' : ℕ → K} {n : ℕ} (h : Ordered key n)
    (he : ∀ i, i < n → key' i = key i) : Ordered key' n := by
  intro i h0 hi
  have hp := parent_lt h0
  rw [he i hi, he (parent i) (by omega)]
  exact h i h0 hi

theorem Rising.congr {key key' : ℕ → K} {n k : ℕ} (h : Rising key n k) (hk : k < n)
    (he : ∀ i, i < n → key' i = key i) : Rising key' n k := by
  constructor
  · intro i h0 hi hne
    have hp := parent_lt h0
    rw [he i hi, he (parent i) (by omega)]
    exact h.except i h0 hi hne
  · intro i h0 hi hpk hk0
    have hp := parent_lt hk0
    rw [he i hi, he (parent k) (by omega)]
    exact h.grand i h0 hi hpk hk0

theorem Sinking.congr {key key' : ℕ → K} {n k : ℕ} (h : Sinking key n k) (hk : k < n)
    (he : ∀ i, i < n → key' i = key i) : Sinking key' n k := by
  constructor
  · intro i h0 hi hne
    have hp := parent_lt h0
    rw [he i hi, he (parent i) (by omega)]
    exact h.except i h0 hi hne
  · intro i h0 hi hpk hk0
    have hp := parent_lt hk0
    rw [he i hi, he (parent k) (by omega)]
    exact h.grand i h0 hi hpk hk0

/-! ## Growing and editing -/

/-- A key put behind the last position can only be below its parent's. -/
theorem Ordered.append {key key' : ℕ → K} {n : ℕ} (h : Ordered key n)
    (he : ∀ i, i < n → key' i = key i) : Rising key' (n + 1) n := by
  constructor
  · intro i h0 hi hne
    have hp := parent_lt h0
    rw [he i (by omega), he (parent i) (by omega)]
    exact h i h0 (by omega)
  · intro i h0 hi hpk hk0
    have hp := parent_lt h0
    omega

/-- A heap with the key at `k` replaced by one below its parent's. -/
theorem Ordered.replace_rising {key key' : ℕ → K} {n k : ℕ} (h : Ordered key n) (hk : k < n)
    (h0k : 0 < k) (he : ∀ i, i < n → i ≠ k → key' i = key i)
    (hlt : key' k < key' (parent k)) : Rising key' n k := by
  have hpk := parent_lt h0k
  constructor
  · intro i h0 hi hne
    have hp := parent_lt h0
    rw [he i hi hne]
    by_cases hpi : parent i = k
    · -- the parent's key fell below what it was
      have hk' : key (parent k) ≤ key k := h k h0k hk
      have hi' : key k ≤ key i := hpi ▸ h i h0 hi
      rw [hpi]
      rw [he (parent k) (by omega) (by omega)] at hlt
      exact hlt.le.trans (hk'.trans hi')
    · rw [he (parent i) (by omega) hpi]
      exact h i h0 hi
  · intro i h0 hi hpi _
    have hp := parent_lt h0
    rw [he i hi (by omega), he (parent k) (by omega) (by omega)]
    exact (h k h0k hk).trans (hpi ▸ h i h0 hi)

/-- A heap with the key at `k` replaced by one not below its parent's. -/
theorem Ordered.replace_sinking {key key' : ℕ → K} {n k : ℕ} (h : Ordered key n) (hk : k < n)
    (he : ∀ i, i < n → i ≠ k → key' i = key i)
    (hle : 0 < k → key' (parent k) ≤ key' k) : Sinking key' n k := by
  constructor
  · intro i h0 hi hpi
    have hp := parent_lt h0
    by_cases hik : i = k
    · rw [hik]
      exact hle (hik ▸ h0)
    · rw [he i hi hik, he (parent i) (by omega) hpi]
      exact h i h0 hi
  · intro i h0 hi hpi h0k
    have hp := parent_lt h0
    have hpk := parent_lt h0k
    rw [he i hi (by omega), he (parent k) (by omega) (by omega)]
    exact (h k h0k hk).trans (hpi ▸ h i h0 hi)

/-! ## One exchange upwards -/

theorem Rising.step {key : ℕ → K} {n k : ℕ} (h : Rising key n k) (h0 : 0 < k) (hk : k < n)
    (hlt : key k < key (parent k)) : Rising (exchange key k (parent k)) n (parent k) := by
  have hp := parent_lt h0
  constructor
  · intro i hi0 hi hne
    have hpi := parent_lt hi0
    by_cases hik : i = k
    · rw [hik, exchange_left, exchange_right]
      exact hlt.le
    · rw [exchange_other key hik hne]
      by_cases hpk : parent i = k
      · rw [hpk, exchange_left]
        exact h.grand i hi0 hi hpk h0
      · by_cases hpp : parent i = parent k
        · rw [hpp, exchange_right]
          exact hlt.le.trans (hpp ▸ h.except i hi0 hi hik)
        · rw [exchange_other key hpk hpp]
          exact h.except i hi0 hi hik
  · intro i hi0 hi hpi hp0
    have hpp := parent_lt hp0
    have hgrand : key (parent (parent k)) ≤ key (parent k) :=
      h.except (parent k) hp0 (by omega) (by omega)
    rw [exchange_other key (by omega : parent (parent k) ≠ k) (by omega)]
    by_cases hik : i = k
    · rw [hik, exchange_left]
      exact hgrand
    · have hpi' := parent_lt hi0
      rw [exchange_other key hik (by omega)]
      exact hgrand.trans (hpi ▸ h.except i hi0 hi hik)

/-- Nothing is broken upwards once the key is at the root or not below its parent's. -/
theorem Rising.done {key : ℕ → K} {n k : ℕ} (h : Rising key n k)
    (hle : 0 < k → key (parent k) ≤ key k) : Ordered key n := by
  intro i hi0 hi
  by_cases hik : i = k
  · rw [hik]
    exact hle (hik ▸ hi0)
  · exact h.except i hi0 hi hik

/-! ## One exchange downwards -/

theorem Sinking.step {key : ℕ → K} {n k c : ℕ} (h : Sinking key n k) (hc0 : 0 < c) (hc : c < n)
    (hpc : parent c = k) (hlt : key c < key k)
    (hmin : ∀ i, 0 < i → i < n → parent i = k → key c ≤ key i) :
    Sinking (exchange key k c) n c := by
  have hkc : k < c := hpc ▸ parent_lt hc0
  constructor
  · intro i hi0 hi hpi
    have hpl := parent_lt hi0
    by_cases hik : i = k
    · rw [hik, exchange_left]
      have h0k : 0 < k := hik ▸ hi0
      have hpk := parent_lt h0k
      rw [exchange_other key (by omega) (by omega)]
      exact h.grand c hc0 hc hpc h0k
    · by_cases hpk : parent i = k
      · rw [hpk, exchange_left]
        by_cases hic : i = c
        · rw [hic, exchange_right]
          exact hlt.le
        · rw [exchange_other key hik hic]
          exact hmin i hi0 hi hpk
      · have hic : i ≠ c := fun he => hpk (he ▸ hpc)
        rw [exchange_other key hik hic, exchange_other key hpk hpi]
        exact h.except i hi0 hi hpk
  · intro i hi0 hi hpi _
    have hpl := parent_lt hi0
    rw [hpc, exchange_left, exchange_other key (by omega) (by omega)]
    exact hpi ▸ h.except i hi0 hi (by omega)

/-- Nothing is broken downwards once the key is not above its children's. -/
theorem Sinking.done {key : ℕ → K} {n k : ℕ} (h : Sinking key n k)
    (hle : ∀ i, 0 < i → i < n → parent i = k → key k ≤ key i) : Ordered key n := by
  intro i hi0 hi
  by_cases hpi : parent i = k
  · rw [hpi]
    exact hle i hi0 hi hpi
  · exact h.except i hi0 hi hpi

end Nxvm.Lib.BinaryHeap
