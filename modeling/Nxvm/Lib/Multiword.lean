/-
Sums of numbers of several words, made one word at a time.

A word operation takes two words and a state that holds a carry, and leaves the low word of
their sum, the carry out of it, and whether the signed sum fits. Chained from the lowest words
up, it leaves the same of the whole numbers. A difference is a sum with the complement, its
carry the other way round, so the one rule serves both.
-/
import Mathlib.Data.BitVec
import Mathlib.Tactic.Ring
import Mathlib.Tactic.Linarith

set_option autoImplicit false

namespace Nxvm.Lib.Multiword

variable {w : ℕ} {σ : Type}

/-! ## Words of a number -/

/-- The lowest `n` words of a number, lowest first. -/
def words (w : ℕ) : ℕ → ℕ → List (BitVec w)
  | 0, _ => []
  | n + 1, a => BitVec.ofNat w a :: words w n (a / 2 ^ w)

theorem pow_words (n : ℕ) : 2 ^ (w * (n + 1)) = 2 ^ w * 2 ^ (w * n) := by
  rw [Nat.mul_succ, Nat.pow_add, Nat.mul_comm]

/-- What lies above the words does not matter. -/
theorem words_mod (n : ℕ) : ∀ a, words w n (a % 2 ^ (w * n)) = words w n a := by
  induction n with
  | zero =>
    intro a
    rfl
  | succ n ih =>
    intro a
    have hlow : a % 2 ^ (w * (n + 1)) % 2 ^ w = a % 2 ^ w := by
      rw [pow_words, Nat.mod_mul_right_mod]
    have hhigh : a % 2 ^ (w * (n + 1)) / 2 ^ w = a / 2 ^ w % 2 ^ (w * n) := by
      rw [pow_words, Nat.mod_mul_right_div_self]
    rw [words, words, hhigh, ih]
    congr 1
    apply BitVec.eq_of_toNat_eq
    rw [BitVec.toNat_ofNat, BitVec.toNat_ofNat, hlow]

/-- The words of the complement are the complements of the words. -/
theorem words_complement (n : ℕ) : ∀ a, a < 2 ^ (w * n) →
    words w n (2 ^ (w * n) - 1 - a) = (words w n a).map fun x => ~~~x := by
  induction n with
  | zero =>
    intro a _
    rfl
  | succ n ih =>
    intro a ha
    have hB : 0 < 2 ^ w := Nat.two_pow_pos w
    rw [pow_words] at ha ⊢
    have hq : a / 2 ^ w < 2 ^ (w * n) := Nat.div_lt_of_lt_mul ha
    have hr := Nat.mod_lt a hB
    have hsplit := Nat.div_add_mod a (2 ^ w)
    -- the complement of `B q + r` is `B (M - 1 - q) + (B - 1 - r)`
    have hcomplement : 2 ^ w * 2 ^ (w * n) - 1 - a =
        2 ^ w * (2 ^ (w * n) - 1 - a / 2 ^ w) + (2 ^ w - 1 - a % 2 ^ w) := by
      obtain ⟨d, hd⟩ : ∃ d, 2 ^ (w * n) = a / 2 ^ w + 1 + d :=
        ⟨2 ^ (w * n) - 1 - a / 2 ^ w, by omega⟩
      have hprod : 2 ^ w * 2 ^ (w * n) = 2 ^ w * (a / 2 ^ w) + 2 ^ w + 2 ^ w * d := by
        rw [hd]
        ring
      have hdd : 2 ^ (w * n) - 1 - a / 2 ^ w = d := by omega
      rw [hdd]
      omega
    have hlow : 2 ^ w - 1 - a % 2 ^ w < 2 ^ w := by omega
    rw [words, words, List.map_cons, hcomplement, Nat.mul_add_div hB, Nat.div_eq_of_lt hlow,
      Nat.add_zero, ih _ hq]
    congr 1
    apply BitVec.eq_of_toNat_eq
    rw [BitVec.toNat_ofNat, Nat.mul_add_mod, Nat.mod_eq_of_lt hlow, BitVec.toNat_not,
      BitVec.toNat_ofNat]

/-! ## Signed numbers -/

/-- The low `m` bits of a number, read as a signed one. -/
def signed (m v : ℕ) : ℤ := (BitVec.ofNat m v).toInt

/-- A number of `m` bits, signed. -/
def Fits (m : ℕ) (z : ℤ) : Prop := -2 ^ m ≤ 2 * z ∧ 2 * z < 2 ^ m

instance (m : ℕ) (z : ℤ) : Decidable (Fits m z) := inferInstanceAs (Decidable (_ ∧ _))

theorem signed_eq (m v : ℕ) :
    signed m v = ((v % 2 ^ m : ℕ) : ℤ) -
      if 2 * (v % 2 ^ m) < 2 ^ m then 0 else ((2 ^ m : ℕ) : ℤ) := by
  rw [signed, BitVec.toInt_eq_toNat_cond, BitVec.toNat_ofNat]
  by_cases h : 2 * (v % 2 ^ m) < 2 ^ m
  · rw [if_pos h, if_pos h, Int.sub_zero]
  · rw [if_neg h, if_neg h]

theorem even_pow {n : ℕ} (hw : 0 < w) (hn : 0 < n) : ∃ H, 2 ^ (w * n) = 2 * H := by
  have hpos := Nat.mul_pos hw hn
  refine ⟨2 ^ (w * n - 1), ?_⟩
  rw [← Nat.pow_succ']
  congr 1
  omega

/-- The word above decides the sign: the lowest word is unsigned. -/
theorem signed_succ {n : ℕ} (hw : 0 < w) (hn : 0 < n) (v : ℕ) :
    signed (w * (n + 1)) v =
      ((2 ^ w : ℕ) : ℤ) * signed (w * n) (v / 2 ^ w) + ((v % 2 ^ w : ℕ) : ℤ) := by
  have hB : 0 < 2 ^ w := Nat.two_pow_pos w
  have hr := Nat.mod_lt v hB
  obtain ⟨H, hH⟩ := even_pow hw hn
  rw [signed_eq, signed_eq, pow_words, Nat.mod_mul, hH]
  generalize v / 2 ^ w % (2 * H) = q
  generalize v % 2 ^ w = r at hr ⊢
  generalize 2 ^ w = B at hr hB ⊢
  have hhalf : 2 * (r + B * q) < B * (2 * H) ↔ 2 * q < 2 * H := by
    constructor
    · intro h
      by_contra hle
      have hmul : B * H ≤ B * q := Nat.mul_le_mul_left B (by omega)
      have htwo : B * (2 * H) = 2 * (B * H) := by ring
      omega
    · intro h
      have hmul : B * (q + 1) ≤ B * H := Nat.mul_le_mul_left B (by omega)
      have hsucc : B * (q + 1) = B * q + B := by ring
      have htwo : B * (2 * H) = 2 * (B * H) := by ring
      omega
  by_cases h : 2 * q < 2 * H
  · rw [if_pos h, if_pos (hhalf.mpr h)]
    push_cast
    ring
  · rw [if_neg h, if_neg (fun hlt => h (hhalf.mp hlt))]
    push_cast
    ring

/-- A number fits when what is above its lowest word does. -/
theorem fits_succ {n : ℕ} (hw : 0 < w) (hn : 0 < n) (z : ℤ) {r : ℤ} (hr0 : 0 ≤ r)
    (hr : r < 2 ^ w) : Fits (w * (n + 1)) (2 ^ w * z + r) ↔ Fits (w * n) z := by
  obtain ⟨H, hH⟩ : ∃ H : ℤ, (2 : ℤ) ^ (w * n) = 2 * H := by
    obtain ⟨H, hH⟩ := even_pow hw hn
    exact ⟨H, by exact_mod_cast hH⟩
  have hB : (0 : ℤ) < 2 ^ w := by positivity
  have hpow : (2 : ℤ) ^ (w * (n + 1)) = 2 ^ w * 2 ^ (w * n) := by
    rw [Nat.mul_succ, pow_add, mul_comm]
  rw [Fits, Fits, hpow, hH]
  generalize (2 : ℤ) ^ w = B at hr hB ⊢
  constructor
  · rintro ⟨hlow, hhigh⟩
    constructor
    · by_contra hlt
      have hmul : B * (z + 1) ≤ B * -H := mul_le_mul_of_nonneg_left (by omega) hB.le
      linarith [hmul, mul_neg B H, mul_add B z 1]
    · by_contra hle
      have hmul : B * H ≤ B * z := mul_le_mul_of_nonneg_left (by omega) hB.le
      linarith
  · rintro ⟨hlow, hhigh⟩
    have hmul : B * -H ≤ B * z := mul_le_mul_of_nonneg_left (by omega) hB.le
    have hmul' : B * (z + 1) ≤ B * H := mul_le_mul_of_nonneg_left (by omega) hB.le
    constructor
    · linarith [mul_neg B H]
    · linarith [mul_add B z 1]

/-! ## Chains -/

/-- An operation on every pair of words, lowest first. -/
def chain (op : BitVec w → BitVec w → σ → BitVec w × σ) :
    List (BitVec w × BitVec w) → σ → List (BitVec w) × σ
  | [], s => ([], s)
  | (x, y) :: rest, s =>
    let r := op x y s
    let t := chain op rest r.2
    (r.1 :: t.1, t.2)

/-- A chain whose lowest words get an operation of their own. -/
def chain_from (first op : BitVec w → BitVec w → σ → BitVec w × σ) :
    List (BitVec w × BitVec w) → σ → List (BitVec w) × σ
  | [], s => ([], s)
  | (x, y) :: rest, s =>
    let r := first x y s
    let t := chain op rest r.2
    (r.1 :: t.1, t.2)

section Sum

variable (carry overflow : σ → Bool)

/-- `r` is the sum of two words and a carry. -/
structure WordSum (x y : BitVec w) (c : Bool) (r : BitVec w × σ) : Prop where
  sum : r.1.toNat + 2 ^ w * (carry r.2).toNat = x.toNat + y.toNat + c.toNat
  fits : overflow r.2 = decide (¬ Fits w (x.toInt + y.toInt + c.toNat))

/-- `r` is the sum of two numbers of `n` words and a carry. -/
structure NumberSum (n a b : ℕ) (c : Bool) (r : List (BitVec w) × σ) : Prop where
  sum : r.1 = words w n (a + b + c.toNat)
  carries : carry r.2 =
    decide (2 ^ (w * n) ≤ a % 2 ^ (w * n) + b % 2 ^ (w * n) + c.toNat)
  fits : 0 < n →
    overflow r.2 = decide (¬ Fits (w * n) (signed (w * n) a + signed (w * n) b + c.toNat))

variable {carry overflow}

/-- The lowest words and the words above them make the sum of the whole. -/
theorem NumberSum.cons {n a b : ℕ} {c : Bool} {r : BitVec w × σ} {t : List (BitVec w) × σ}
    (hw : 0 < w)
    (hlow : WordSum carry overflow (BitVec.ofNat w a) (BitVec.ofNat w b) c r)
    (hhigh : NumberSum carry overflow n (a / 2 ^ w) (b / 2 ^ w) (carry r.2) t)
    (hlast : n = 0 → t.2 = r.2) :
    NumberSum carry overflow (n + 1) a b c (r.1 :: t.1, t.2) := by
  have hB : 0 < 2 ^ w := Nat.two_pow_pos w
  have hsum := hlow.sum
  rw [BitVec.toNat_ofNat, BitVec.toNat_ofNat] at hsum
  have hword := r.1.isLt
  have ha := Nat.div_add_mod a (2 ^ w)
  have hb := Nat.div_add_mod b (2 ^ w)
  -- the whole sum, split at the lowest word
  have hsplit : a + b + c.toNat =
      2 ^ w * (a / 2 ^ w + b / 2 ^ w + (carry r.2).toNat) + r.1.toNat := by
    rw [Nat.mul_add, Nat.mul_add]
    omega
  constructor
  · rw [words, hhigh.sum, hsplit, Nat.mul_add_div hB, Nat.div_eq_of_lt hword, Nat.add_zero]
    have hfirst : r.1 = BitVec.ofNat w
        (2 ^ w * (a / 2 ^ w + b / 2 ^ w + (carry r.2).toNat) + r.1.toNat) := by
      apply BitVec.eq_of_toNat_eq
      rw [BitVec.toNat_ofNat, Nat.mul_add_mod, Nat.mod_eq_of_lt hword]
    rw [← hfirst]
  · rw [hhigh.carries, pow_words, Nat.mod_mul, Nat.mod_mul]
    apply decide_eq_decide.mpr
    generalize a / 2 ^ w % 2 ^ (w * n) = qa
    generalize b / 2 ^ w % 2 ^ (w * n) = qb
    generalize 2 ^ (w * n) = M
    generalize a % 2 ^ w = ra at hsum ⊢
    generalize b % 2 ^ w = rb at hsum ⊢
    generalize (carry r.2).toNat = c' at hsum ⊢
    generalize 2 ^ w = B at hsum hword hB ⊢
    have htotal : ra + B * qa + (rb + B * qb) + c.toNat = B * (qa + qb + c') + r.1.toNat := by
      rw [Nat.mul_add, Nat.mul_add]
      omega
    rw [htotal]
    constructor
    · intro h
      exact Nat.le_trans (Nat.mul_le_mul_left B h) (Nat.le_add_right _ _)
    · intro h
      by_contra hlt
      have hmul : B * (qa + qb + c' + 1) ≤ B * M := Nat.mul_le_mul_left B (by omega)
      have hsucc : B * (qa + qb + c' + 1) = B * (qa + qb + c') + B := by ring
      omega
  · intro _
    by_cases hn : n = 0
    · subst hn
      have hlast := hlast rfl
      show overflow t.2 = _
      rw [hlast, hlow.fits, Nat.zero_add, Nat.mul_one]
      rfl
    · have hn : 0 < n := Nat.pos_of_ne_zero hn
      show overflow t.2 = _
      rw [hhigh.fits hn, signed_succ hw hn a, signed_succ hw hn b]
      apply decide_eq_decide.mpr
      apply not_congr
      have hr0 : (0 : ℤ) ≤ (r.1.toNat : ℤ) := Int.natCast_nonneg _
      have hr : (r.1.toNat : ℤ) < 2 ^ w := by exact_mod_cast hword
      rw [← fits_succ hw hn _ hr0 hr]
      have hsumz : (r.1.toNat : ℤ) + ((2 ^ w : ℕ) : ℤ) * ((carry r.2).toNat : ℤ) =
          ((a % 2 ^ w : ℕ) : ℤ) + ((b % 2 ^ w : ℕ) : ℤ) + (c.toNat : ℤ) := by
        exact_mod_cast hsum
      have hpow : ((2 ^ w : ℕ) : ℤ) = 2 ^ w := by push_cast; rfl
      rw [hpow] at hsumz ⊢
      have hwhole : (2 : ℤ) ^ w * (signed (w * n) (a / 2 ^ w) + signed (w * n) (b / 2 ^ w) +
            ((carry r.2).toNat : ℤ)) + (r.1.toNat : ℤ) =
          2 ^ w * signed (w * n) (a / 2 ^ w) + ((a % 2 ^ w : ℕ) : ℤ) +
            (2 ^ w * signed (w * n) (b / 2 ^ w) + ((b % 2 ^ w : ℕ) : ℤ)) + (c.toNat : ℤ) := by
        rw [mul_add, mul_add]
        linarith
      rw [hwhole]

/-- Chained word sums make the sum of the numbers. -/
theorem chain_sum {op : BitVec w → BitVec w → σ → BitVec w × σ} (hw : 0 < w)
    (hop : ∀ x y s, WordSum carry overflow x y (carry s) (op x y s)) (n : ℕ) :
    ∀ a b s, NumberSum carry overflow n a b (carry s)
      (chain op ((words w n a).zip (words w n b)) s) := by
  induction n with
  | zero =>
    intro a b s
    refine ⟨rfl, ?_, fun h => absurd h (Nat.lt_irrefl 0)⟩
    rw [Nat.mul_zero, Nat.pow_zero, Nat.mod_one, Nat.mod_one]
    show carry s = _
    by_cases h : carry s = true
    · simp [h]
    · simp [h]
  | succ n ih =>
    intro a b s
    apply NumberSum.cons hw (hop _ _ s) (ih _ _ _)
    intro hn
    subst hn
    rfl

/-- The same where the lowest words are added by an operation of their own, with the carry `c`. -/
theorem chain_from_sum {first op : BitVec w → BitVec w → σ → BitVec w × σ} {c : Bool}
    (hw : 0 < w) (hfirst : ∀ x y s, WordSum carry overflow x y c (first x y s))
    (hop : ∀ x y s, WordSum carry overflow x y (carry s) (op x y s)) {n : ℕ} (hn : 0 < n)
    (a b : ℕ) (s : σ) :
    NumberSum carry overflow n a b c (chain_from first op ((words w n a).zip (words w n b)) s) := by
  obtain ⟨m, rfl⟩ : ∃ m, n = m + 1 := ⟨n - 1, by omega⟩
  apply NumberSum.cons hw (hfirst _ _ s) (chain_sum hw hop m _ _ _)
  intro hm
  subst hm
  rfl

end Sum

/-- Words that are changed before they come to the operation. -/
theorem chain_map {op : BitVec w → BitVec w → σ → BitVec w × σ} {f g : BitVec w → BitVec w}
    (hfg : ∀ y, f (g y) = y) (xs : List (BitVec w)) :
    ∀ ys s, chain (fun x y => op x (f y)) (xs.zip (ys.map g)) s = chain op (xs.zip ys) s := by
  induction xs with
  | nil =>
    intro ys s
    rfl
  | cons x xs ih =>
    intro ys s
    cases ys with
    | nil => rfl
    | cons y ys =>
      rw [List.map_cons, List.zip_cons_cons, List.zip_cons_cons, chain, chain]
      rw [hfg, ih]

theorem chain_from_map {first op : BitVec w → BitVec w → σ → BitVec w × σ}
    {f g : BitVec w → BitVec w} (hfg : ∀ y, f (g y) = y) (xs ys : List (BitVec w)) (s : σ) :
    chain_from (fun x y => first x (f y)) (fun x y => op x (f y)) (xs.zip (ys.map g)) s =
      chain_from first op (xs.zip ys) s := by
  cases xs with
  | nil => rfl
  | cons x xs =>
    cases ys with
    | nil => rfl
    | cons y ys =>
      rw [List.map_cons, List.zip_cons_cons, List.zip_cons_cons, chain_from, chain_from]
      rw [hfg, chain_map hfg]

end Nxvm.Lib.Multiword
