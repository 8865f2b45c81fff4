/-
Byte-addressed memory as a function, and little-endian words in it.

A memory of width `w` answers a byte for every `w`-bit address, so addresses wrap
and there is no failing case: failures belong to whoever carries a transfer out.
`load` and `store` move lists of bytes, `word_of` and `bytes_of` convert between
a list of bytes and the number it spells. Everything is stated for any width, so
the same lemmas serve a whole address space and the few bytes of a buffer.
-/
import Mathlib.Data.BitVec
import Mathlib.Data.List.GetD
import Mathlib.Tactic.Common

set_option autoImplicit false

namespace Nxvm.Lib.Memory

abbrev Byte := BitVec 8

/-- A byte for every address. -/
abbrev Mem (w : Nat) := BitVec w → Byte

variable {w : Nat}

/-! ## Runs of bytes -/

/-- The `n` bytes from address `a` on. -/
def load (m : Mem w) (a : BitVec w) (n : Nat) : List Byte :=
  (List.range n).map fun i => m (a + BitVec.ofNat w i)

/-- `m` with the bytes `bs` written from address `a` on. -/
def store (m : Mem w) (a : BitVec w) (bs : List Byte) : Mem w :=
  fun x => bs.getD (x - a).toNat (m x)

/-- `x` is one of the `n` addresses from `a` on. -/
def InRun (a : BitVec w) (n : Nat) (x : BitVec w) : Prop := (x - a).toNat < n

instance (a : BitVec w) (n : Nat) (x : BitVec w) : Decidable (InRun a n x) :=
  inferInstanceAs (Decidable (_ < _))

@[simp] theorem load_length (m : Mem w) (a : BitVec w) (n : Nat) : (load m a n).length = n := by
  simp [load]

@[simp] theorem load_getElem (m : Mem w) (a : BitVec w) (n i : Nat)
    (h : i < (load m a n).length) : (load m a n)[i] = m (a + BitVec.ofNat w i) := by
  simp [load]

theorem load_append (m : Mem w) (a : BitVec w) (i j : Nat) :
    load m a i ++ load m (a + BitVec.ofNat w i) j = load m a (i + j) := by
  simp only [load, List.range_add, List.map_append, List.map_map]
  congr 1
  refine List.map_congr_left fun k _ => ?_
  simp only [Function.comp_apply, BitVec.ofNat_add, BitVec.add_assoc]

theorem store_inside {m : Mem w} {a x : BitVec w} {bs : List Byte}
    (h : (x - a).toNat < bs.length) : store m a bs x = bs[(x - a).toNat] := by
  rw [store, List.getD_eq_getElem _ _ h]

theorem store_outside {m : Mem w} {a x : BitVec w} {bs : List Byte}
    (h : ¬ InRun a bs.length x) : store m a bs x = m x := by
  rw [store, List.getD_eq_default _ _ (Nat.le_of_not_lt h)]

@[simp] theorem store_nil (m : Mem w) (a : BitVec w) : store m a [] = m := by
  funext x
  simp [store]

theorem add_ofNat_sub_toNat (a : BitVec w) {i : Nat} (h : i < 2 ^ w) :
    (a + BitVec.ofNat w i - a).toNat = i := by
  have he : a + BitVec.ofNat w i - a = BitVec.ofNat w i := by
    rw [BitVec.add_comm, BitVec.add_sub_cancel]
  rw [he, BitVec.toNat_ofNat, Nat.mod_eq_of_lt h]

theorem add_sub_cancel_ofNat (a x : BitVec w) : a + BitVec.ofNat w (x - a).toNat = x := by
  rw [BitVec.ofNat_toNat, BitVec.setWidth_eq, BitVec.add_comm, BitVec.sub_add_cancel]

theorem in_run_iff {a x : BitVec w} {n : Nat} (hn : n ≤ 2 ^ w) :
    InRun a n x ↔ ∃ i < n, x = a + BitVec.ofNat w i := by
  constructor
  · intro h
    exact ⟨(x - a).toNat, h, (add_sub_cancel_ofNat a x).symm⟩
  · rintro ⟨i, hi, rfl⟩
    rw [InRun, add_ofNat_sub_toNat a (by omega)]
    exact hi

theorem store_at {m : Mem w} {a : BitVec w} (bs : List Byte) {i : Nat} (h : i < bs.length)
    (hw : i < 2 ^ w) : store m a bs (a + BitVec.ofNat w i) = bs[i] := by
  have hi : (a + BitVec.ofNat w i - a).toNat = i := add_ofNat_sub_toNat a hw
  rw [store_inside (by omega)]
  simp only [hi]

/-- Writing one run and then the run that follows it. -/
theorem store_append (m : Mem w) (a : BitVec w) (xs ys : List Byte)
    (hw : xs.length + ys.length ≤ 2 ^ w) :
    store (store m a xs) (a + BitVec.ofNat w xs.length) ys = store m a (xs ++ ys) := by
  funext x
  have hx := add_sub_cancel_ofNat a x
  have hxlt := (x - a).isLt
  by_cases h₁ : (x - a).toNat < xs.length
  · -- in the first run: the second starts after it and ends before it comes round
    have hout : ¬ InRun (a + BitVec.ofNat w xs.length) ys.length x := by
      rw [in_run_iff (by omega)]
      rintro ⟨i, hi, he⟩
      have hsum : x = a + BitVec.ofNat w (xs.length + i) := by
        rw [he, BitVec.ofNat_add, BitVec.add_assoc]
      have hn : (x - a).toNat = xs.length + i := by
        rw [hsum, add_ofNat_sub_toNat a (by omega)]
      omega
    rw [store_outside hout, store_inside h₁, store_inside (by rw [List.length_append]; omega),
      List.getElem_append_left h₁]
  · by_cases h₂ : (x - a).toNat < xs.length + ys.length
    · obtain ⟨i, hi⟩ : ∃ i, (x - a).toNat = xs.length + i := ⟨(x - a).toNat - xs.length, by omega⟩
      have hsum : x = a + BitVec.ofNat w xs.length + BitVec.ofNat w i := by
        rw [BitVec.add_assoc, ← BitVec.ofNat_add, ← hi]
        exact hx.symm
      rw [store_inside (m := m) (by rw [List.length_append]; exact h₂)]
      simp only [hi]
      rw [List.getElem_append_right (by omega)]
      conv_lhs => rw [hsum]
      rw [store_at _ (by omega) (by omega)]
      simp
    · have hout₁ : ¬ InRun a xs.length x := by simpa [InRun] using h₁
      have hout : ¬ InRun (a + BitVec.ofNat w xs.length) ys.length x := by
        rw [in_run_iff (by omega)]
        rintro ⟨i, hi, he⟩
        have hsum : x = a + BitVec.ofNat w (xs.length + i) := by
          rw [he, BitVec.ofNat_add, BitVec.add_assoc]
        have hn : (x - a).toNat = xs.length + i := by
          rw [hsum, add_ofNat_sub_toNat a (by omega)]
        omega
      have hout₂ : ¬ InRun a (xs ++ ys).length x := by
        simp only [InRun, List.length_append]
        omega
      rw [store_outside hout, store_outside hout₁, store_outside hout₂]

/-! ## Little-endian words -/

/-- The number a list of bytes spells, least significant byte first. -/
def word_of (w : Nat) (bs : List Byte) : BitVec w :=
  bs.foldr (fun b acc => (acc <<< 8) ||| b.setWidth w) 0

/-- The first `n` bytes of a number, least significant first. -/
def bytes_of (n : Nat) (v : BitVec w) : List Byte :=
  (List.range n).map fun i => v.extractLsb' (8 * i) 8

@[simp] theorem bytes_of_length (n : Nat) (v : BitVec w) : (bytes_of n v).length = n := by
  simp [bytes_of]

@[simp] theorem bytes_of_getElem (n : Nat) (v : BitVec w) (i : Nat)
    (h : i < (bytes_of n v).length) : (bytes_of n v)[i] = v.extractLsb' (8 * i) 8 := by
  simp [bytes_of]

theorem word_of_cons (b : Byte) (bs : List Byte) :
    word_of w (b :: bs) = (word_of w bs <<< 8) ||| b.setWidth w := rfl

/-- Bit `i` of a word is bit `i % 8` of byte `i / 8`. -/
theorem word_of_getLsbD (bs : List Byte) (i : Nat) :
    (word_of w bs).getLsbD i = (decide (i < w) && (bs.getD (i / 8) 0).getLsbD (i % 8)) := by
  induction bs generalizing i with
  | nil => simp [word_of]
  | cons b bs ih =>
    rw [word_of_cons]
    by_cases h8 : i < 8
    · have hd : i / 8 = 0 := by omega
      have hm : i % 8 = i := by omega
      simp [hd, hm, h8]
    · have hd : i / 8 = (i - 8) / 8 + 1 := by omega
      have hm : i % 8 = (i - 8) % 8 := by omega
      have hb : b.getLsbD i = false := BitVec.getLsbD_of_ge b i (by omega)
      simp only [BitVec.getLsbD_or, BitVec.getLsbD_shiftLeft, BitVec.getLsbD_setWidth, hb, ih, hd,
        hm, List.getD_cons_succ, h8, decide_false, Bool.not_false, Bool.and_true, Bool.and_false,
        Bool.or_false]
      by_cases hw : i < w
      · have hw' : i - 8 < w := by omega
        simp [hw, hw']
      · simp [hw]

theorem word_of_bytes_of {n : Nat} (v : BitVec w) (h : w ≤ 8 * n) :
    word_of w (bytes_of n v) = v := by
  apply BitVec.eq_of_getLsbD_eq
  intro i hi
  have hbyte : i / 8 < (bytes_of n v).length := by
    rw [bytes_of_length]
    omega
  rw [word_of_getLsbD, List.getD_eq_getElem _ _ hbyte, bytes_of_getElem,
    BitVec.getLsbD_extractLsb', Nat.div_add_mod]
  simp [hi, Nat.mod_lt]

theorem bytes_of_word_of (w : Nat) (bs : List Byte) (h : 8 * bs.length ≤ w) :
    bytes_of bs.length (word_of w bs) = bs := by
  refine List.ext_getElem (by simp) fun i h₁ h₂ => ?_
  rw [bytes_of_getElem]
  refine BitVec.eq_of_getLsbD_eq fun j hj => ?_
  have hd : (8 * i + j) / 8 = i := by omega
  have hm : (8 * i + j) % 8 = j := by omega
  have hlt : 8 * i + j < w := by omega
  have hbit := word_of_getLsbD (w := w) bs (8 * i + j)
  rw [hd, hm, List.getD_eq_getElem _ _ h₂] at hbit
  rw [BitVec.getLsbD_extractLsb', hbit]
  simp [hj, hlt]

end Nxvm.Lib.Memory
