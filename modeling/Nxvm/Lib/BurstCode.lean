/-
Remainders modulo a polynomial of bits, and bursts.

A register of `w` bits holds a polynomial of bits modulo `x^w + poly`. Multiplying by `x` shifts
it to the left and takes the polynomial off what is shifted out. A message's remainder is the sum
of the powers of `x` at its set bits, so what an error adds to the remainder depends on the error
alone; and as the step can be undone, a burst of errors is found again by stepping back, so long
as no two bursts within the message add the same.
-/
import Mathlib.Data.BitVec
import Mathlib.Dynamics.PeriodicPts.Defs
import Nxvm.Lib.Rotation

set_option autoImplicit false

namespace Nxvm.Lib.BurstCode

variable {w : ℕ} (poly : BitVec w)

/-! ## The step -/

/-- Times `x`. -/
def up (r : BitVec w) : BitVec w := r <<< 1 ^^^ (if r.msb then poly else 0#w)

/-- Divided by `x`. -/
def down (r : BitVec w) : BitVec w :=
  r >>> 1 ^^^ (if r.getLsbD 0 then BitVec.twoPow w (w - 1) ||| poly >>> 1 else 0#w)

theorem getLsbD_ite_zero (c : Bool) (x : BitVec w) (i : ℕ) :
    (if c then x else 0#w).getLsbD i = (c && x.getLsbD i) := by
  cases c
  · exact BitVec.getLsbD_zero
  · rfl

theorem getLsbD_up (r : BitVec w) {i : ℕ} (hi : i < w) :
    (up poly r).getLsbD i =
      ((decide (0 < i) && r.getLsbD (i - 1)) ^^ (r.msb && poly.getLsbD i)) := by
  have hzero : (!decide (i < 1)) = decide (0 < i) := by
    rw [← decide_not]
    exact decide_eq_decide.mpr (by omega)
  rw [up, BitVec.getLsbD_xor, getLsbD_ite_zero, BitVec.getLsbD_shiftLeft, decide_eq_true hi,
    Bool.true_and, hzero]

theorem getLsbD_down (r : BitVec w) {i : ℕ} (hi : i < w) :
    (down poly r).getLsbD i =
      (r.getLsbD (i + 1) ^^ (r.getLsbD 0 && (decide (i = w - 1) || poly.getLsbD (i + 1)))) := by
  have htop : decide (w - 1 = i) = decide (i = w - 1) := decide_eq_decide.mpr eq_comm
  rw [down, BitVec.getLsbD_xor, getLsbD_ite_zero, BitVec.getLsbD_or, BitVec.getLsbD_twoPow,
    BitVec.getLsbD_ushiftRight, BitVec.getLsbD_ushiftRight, Nat.add_comm 1 i, decide_eq_true
    (show w - 1 < w by omega), Bool.true_and, htop]

theorem up_xor (a b : BitVec w) : up poly (a ^^^ b) = up poly a ^^^ up poly b := by
  refine BitVec.eq_of_getLsbD_eq fun i hi => ?_
  have hbits : ∀ p x y m n q : Bool, ((p && (x ^^ y)) ^^ ((m ^^ n) && q)) =
      (((p && x) ^^ (m && q)) ^^ ((p && y) ^^ (n && q))) := by decide
  rw [BitVec.getLsbD_xor, getLsbD_up poly _ hi, getLsbD_up poly _ hi, getLsbD_up poly _ hi,
    BitVec.getLsbD_xor, BitVec.msb_xor]
  exact hbits _ _ _ _ _ _

theorem up_zero : up poly 0#w = 0#w := by
  have hself := up_xor poly 0#w 0#w
  rwa [BitVec.xor_self, BitVec.xor_self] at hself

theorem down_zero : down poly 0#w = 0#w := by
  rw [down, BitVec.getLsbD_zero, if_neg Bool.false_ne_true, BitVec.xor_zero,
    BitVec.zero_ushiftRight]

section Odd

variable {poly} (hodd : poly.getLsbD 0 = true)
include hodd

theorem width_pos : 0 < w := by
  by_contra h
  rw [BitVec.getLsbD_of_ge poly 0 (by omega)] at hodd
  cases hodd

/-- Stepping back undoes the step. -/
theorem down_up (r : BitVec w) : down poly (up poly r) = r := by
  have hw := width_pos hodd
  have hlow : (up poly r).getLsbD 0 = r.msb := by
    rw [getLsbD_up poly r hw, hodd, Bool.and_true]
    exact Bool.false_xor _
  refine BitVec.eq_of_getLsbD_eq fun i hi => ?_
  rw [getLsbD_down poly _ hi, hlow]
  by_cases htop : i = w - 1
  · have hmsb : r.msb = r.getLsbD i := by rw [BitVec.msb_eq_getLsbD_last, htop]
    rw [BitVec.getLsbD_of_ge (up poly r) (i + 1) (by omega), decide_eq_true htop, Bool.true_or,
      Bool.and_true, Bool.false_xor, hmsb]
  · have hcancel : ∀ x y : Bool, (((true && x) ^^ y) ^^ y) = x := by decide
    rw [getLsbD_up poly r (show i + 1 < w by omega), decide_eq_false htop, Bool.false_or,
      decide_eq_true (Nat.succ_pos i), Nat.add_sub_cancel]
    exact hcancel _ _

theorem up_down (r : BitVec w) : up poly (down poly r) = r := by
  have hw := width_pos hodd
  have hmsb : (down poly r).msb = r.getLsbD 0 := by
    rw [BitVec.msb_eq_getLsbD_last, getLsbD_down poly r (by omega), decide_eq_true rfl,
      BitVec.getLsbD_of_ge r (w - 1 + 1) (by omega), Bool.true_or, Bool.and_true, Bool.false_xor]
  refine BitVec.eq_of_getLsbD_eq fun i hi => ?_
  rw [getLsbD_up poly _ hi, hmsb]
  by_cases hlow : i = 0
  · rw [hlow, hodd, Bool.and_true]
    exact Bool.false_xor _
  · have hcancel : ∀ x y z : Bool, ((true && (x ^^ (y && (false || z)))) ^^ (y && z)) = x := by
      decide
    rw [getLsbD_down poly r (show i - 1 < w by omega),
      decide_eq_false (show i - 1 ≠ w - 1 by omega),
      decide_eq_true (Nat.pos_of_ne_zero hlow), show i - 1 + 1 = i by omega]
    exact hcancel _ _ _

/-- So many steps back undo as many steps, or the last of them. -/
theorem down_up_iterate (r : BitVec w) {p q : ℕ} (hle : q ≤ p) :
    (down poly)^[q] ((up poly)^[p] r) = (up poly)^[p - q] r := by
  obtain ⟨d, rfl⟩ := Nat.exists_eq_add_of_le hle
  rw [Function.iterate_add_apply, Nat.add_sub_cancel_left]
  exact Function.LeftInverse.iterate (down_up hodd) q _

theorem up_down_iterate (r : BitVec w) (n : ℕ) : (up poly)^[n] ((down poly)^[n] r) = r :=
  Function.LeftInverse.iterate (up_down hodd) n r

end Odd

/-! ## Multipliers -/

/-- An operation that multiplies by some polynomial. -/
structure Multiplier (f : BitVec w → BitVec w) : Prop where
  xor : ∀ a b, f (a ^^^ b) = f a ^^^ f b
  up : ∀ r, f (up poly r) = up poly (f r)

namespace Multiplier

variable {poly} {f g : BitVec w → BitVec w}

theorem zero (hf : Multiplier poly f) : f 0#w = 0#w := by
  have hself := hf.xor 0#w 0#w
  rwa [BitVec.xor_self, BitVec.xor_self] at hself

protected theorem id : Multiplier poly id := ⟨fun _ _ => rfl, fun _ => rfl⟩

theorem comp (hf : Multiplier poly f) (hg : Multiplier poly g) : Multiplier poly (f ∘ g) := by
  constructor
  · intro a b
    rw [Function.comp_apply, hg.xor, hf.xor]
    rfl
  · intro r
    rw [Function.comp_apply, hg.up, hf.up]
    rfl

theorem add (hf : Multiplier poly f) (hg : Multiplier poly g) :
    Multiplier poly (fun r => f r ^^^ g r) := by
  constructor
  · intro a b
    rw [hf.xor, hg.xor]
    ac_rfl
  · intro r
    rw [hf.up, hg.up, up_xor]

theorem power (n : ℕ) : Multiplier poly ((BurstCode.up poly)^[n]) := by
  induction n with
  | zero => exact .id
  | succ n ih =>
    rw [Function.iterate_succ]
    exact ih.comp ⟨up_xor _, fun _ => rfl⟩

end Multiplier

/-! ## Sums of powers -/

/-- The sum of the powers of `x` below `n` that a pattern has, times `r`. -/
def combine (e : ℕ → Bool) : ℕ → BitVec w → BitVec w
  | 0, _ => 0#w
  | n + 1, r => combine e n r ^^^ (if e n then (up poly)^[n] r else 0#w)

/-- What errors at the positions of a pattern add to the remainder. -/
def syndrome (e : ℕ → Bool) (n : ℕ) : BitVec w := combine poly e n 1#w

theorem combine_multiplier (e : ℕ → Bool) (n : ℕ) : Multiplier poly (combine poly e n) := by
  induction n with
  | zero => exact ⟨fun _ _ => (BitVec.xor_self).symm, fun _ => (up_zero poly).symm⟩
  | succ n ih =>
    cases hbit : e n
    · have hzero : combine poly e (n + 1) = combine poly e n := by
        funext r
        rw [combine, hbit]
        exact BitVec.xor_zero
      rw [hzero]
      exact ih
    · have hadd : combine poly e (n + 1) = fun r => combine poly e n r ^^^ (up poly)^[n] r := by
        funext r
        rw [combine, hbit, if_pos rfl]
      rw [hadd]
      exact ih.add (.power n)

theorem combine_congr {e e' : ℕ → Bool} {n : ℕ} (h : ∀ i < n, e i = e' i) (r : BitVec w) :
    combine poly e n r = combine poly e' n r := by
  induction n with
  | zero => rfl
  | succ n ih =>
    rw [combine, combine, h n (Nat.lt_succ_self n), ih fun i hi => h i (Nat.lt_succ_of_lt hi)]

theorem combine_zero (n : ℕ) (r : BitVec w) : combine poly (fun _ => false) n r = 0#w := by
  induction n with
  | zero => rfl
  | succ n ih => rw [combine, ih, if_neg Bool.false_ne_true, BitVec.xor_zero]

/-- Patterns add bit by bit. -/
theorem combine_xor (e e' : ℕ → Bool) (n : ℕ) (r : BitVec w) :
    combine poly (fun i => e i ^^ e' i) n r = combine poly e n r ^^^ combine poly e' n r := by
  have hite (c c' : Bool) (x : BitVec w) : (if (c ^^ c') = true then x else 0#w) =
      (if c then x else 0#w) ^^^ (if c' then x else 0#w) := by
    cases c
    · rw [Bool.false_xor, if_neg Bool.false_ne_true, BitVec.zero_xor]
    · cases c'
      · rw [Bool.xor_false, if_neg Bool.false_ne_true, BitVec.xor_zero]
      · rw [Bool.xor_self, if_neg Bool.false_ne_true, if_pos rfl, BitVec.xor_self]
  induction n with
  | zero => exact (BitVec.xor_self).symm
  | succ n ih =>
    rw [combine, combine, combine, ih, hite]
    ac_rfl

/-- Positions below which a pattern is clear come out as so many steps. -/
theorem combine_shift {e : ℕ → Bool} {p : ℕ} (h : ∀ i < p, e i = false) (n : ℕ) (r : BitVec w) :
    combine poly e (p + n) r = (up poly)^[p] (combine poly (fun i => e (p + i)) n r) := by
  have hpower := @Multiplier.power w poly p
  induction n with
  | zero =>
    rw [Nat.add_zero, combine_congr poly h, combine_zero]
    exact hpower.zero.symm
  | succ n ih =>
    rw [← Nat.add_assoc, combine, combine, ih, hpower.xor, Function.iterate_add_apply]
    cases e (p + n)
    · rw [if_neg Bool.false_ne_true, if_neg Bool.false_ne_true, hpower.zero]
    · rw [if_pos rfl, if_pos rfl]

/-- Positions from which on a pattern is clear do not count. -/
theorem combine_extend {e : ℕ → Bool} {n : ℕ} (h : ∀ i, n ≤ i → e i = false) (k : ℕ)
    (r : BitVec w) : combine poly e (n + k) r = combine poly e n r := by
  induction k with
  | zero => rfl
  | succ k ih =>
    rw [← Nat.add_assoc, combine, ih, h _ (Nat.le_add_right n k), if_neg Bool.false_ne_true,
      BitVec.xor_zero]

/-! ## Powers below the width -/

/-- As many powers of `x` as the register is wide are its single bits. -/
theorem up_iterate_one {i : ℕ} (hi : i < w) : (up poly)^[i] 1#w = BitVec.twoPow w i := by
  induction i with
  | zero => exact (BitVec.twoPow_zero).symm
  | succ i ih =>
    have hmsb : (BitVec.twoPow w i).msb = false := by
      rw [BitVec.msb_eq_getLsbD_last, BitVec.getLsbD_twoPow,
        decide_eq_false (show i ≠ w - 1 by omega),
        Bool.and_false]
    rw [Function.iterate_succ_apply', ih (by omega), up, hmsb, if_neg Bool.false_ne_true,
      BitVec.xor_zero]
    rw [BitVec.twoPow_eq, BitVec.twoPow_eq, BitVec.shiftLeft_add]

theorem getLsbD_syndrome (e : ℕ → Bool) {n : ℕ} (hn : n ≤ w) (i : ℕ) :
    (syndrome poly e n).getLsbD i = (decide (i < n) && e i) := by
  induction n with
  | zero => exact BitVec.getLsbD_zero
  | succ n ih =>
    have hlast : decide (n < w) = true := decide_eq_true hn
    have hstep : syndrome poly e (n + 1) =
        syndrome poly e n ^^^ (if e n then BitVec.twoPow w n else 0#w) := by
      rw [← up_iterate_one poly hn]
      rfl
    rw [hstep, BitVec.getLsbD_xor, ih (by omega), getLsbD_ite_zero, BitVec.getLsbD_twoPow, hlast,
      Bool.true_and]
    by_cases hin : n = i
    · rw [hin, decide_eq_false (Nat.lt_irrefl i), decide_eq_true rfl,
        decide_eq_true (Nat.lt_succ_self i), Bool.false_and, Bool.false_xor, Bool.and_true,
        Bool.true_and]
    · have hbound : decide (i < n + 1) = decide (i < n) := decide_eq_decide.mpr (by omega)
      rw [decide_eq_false hin, hbound, Bool.and_false, Bool.xor_false]

/-- The register is the sum of the powers that it has. -/
theorem syndrome_getLsbD (r : BitVec w) : syndrome poly r.getLsbD w = r := by
  refine BitVec.eq_of_getLsbD_eq fun i hi => ?_
  rw [getLsbD_syndrome poly _ le_rfl, decide_eq_true hi, Bool.true_and]

namespace Multiplier

variable {poly} {f g : BitVec w → BitVec w}

theorem iterate (hf : Multiplier poly f) (n : ℕ) (r : BitVec w) :
    f ((BurstCode.up poly)^[n] r) = (BurstCode.up poly)^[n] (f r) := by
  induction n with
  | zero => rfl
  | succ n ih => rw [Function.iterate_succ_apply', Function.iterate_succ_apply', hf.up, ih]

theorem combine (hf : Multiplier poly f) (e : ℕ → Bool) (n : ℕ) (r : BitVec w) :
    f (combine poly e n r) = combine poly e n (f r) := by
  induction n with
  | zero => exact hf.zero
  | succ n ih =>
    rw [BurstCode.combine, BurstCode.combine, hf.xor, ih]
    cases e n
    · rw [if_neg Bool.false_ne_true, if_neg Bool.false_ne_true, hf.zero]
    · rw [if_pos rfl, if_pos rfl, hf.iterate]

/-- What such an operation does to one says what it does to everything. -/
theorem ext (hf : Multiplier poly f) (hg : Multiplier poly g) (h : f 1#w = g 1#w)
    (r : BitVec w) : f r = g r := by
  have hr := syndrome_getLsbD poly r
  unfold syndrome at hr
  rw [← hr, hf.combine, hg.combine, h]

end Multiplier

/-- Where the step to a power, less one, has an inverse, nothing but zero comes back after as
many steps. -/
theorem eq_zero_of_fixed {inverse : ℕ → Bool} {k d : ℕ}
    (hinverse : combine poly inverse k ((up poly)^[d] 1#w ^^^ 1#w) = 1#w) {r : BitVec w}
    (hfixed : (up poly)^[d] r = r) : r = 0#w := by
  have hless : Multiplier poly fun r => (up poly)^[d] r ^^^ id r :=
    (Multiplier.power d).add .id
  have hone := ((combine_multiplier poly inverse k).comp hless).ext .id hinverse r
  rw [Function.comp_apply, hfixed, id_eq, BitVec.xor_self] at hone
  rw [← id_eq (a := r), ← hone]
  exact (combine_multiplier poly inverse k).zero

/-! ## Messages -/

/-- A bit of a message taken in. -/
def feed (r : BitVec w) (b : Bool) : BitVec w := up poly r ^^^ (if b then 1#w else 0#w)

theorem foldl_feed (bits : List Bool) (r : BitVec w) :
    bits.foldl (feed poly) r =
      (up poly)^[bits.length] r ^^^ bits.foldl (feed poly) 0#w := by
  induction bits generalizing r with
  | nil => exact (BitVec.xor_zero).symm
  | cons b bits ih =>
    have hpower := @Multiplier.power w poly bits.length
    rw [List.foldl_cons, List.foldl_cons, ih, ih (feed poly 0#w b), List.length_cons,
      Function.iterate_succ_apply, feed, feed, up_zero, BitVec.zero_xor, hpower.xor]
    ac_rfl

/-- The remainder of a message, the bit at the highest position first. -/
theorem foldl_feed_positions (e : ℕ → Bool) (n : ℕ) :
    ((List.range n).reverse.map e).foldl (feed poly) 0#w = syndrome poly e n := by
  induction n with
  | zero => rfl
  | succ n ih =>
    have hlength : ((List.range n).reverse.map e).length = n := by
      rw [List.length_map, List.length_reverse, List.length_range]
    have hfirst : (up poly)^[n] (feed poly 0#w (e n)) =
        if e n then (up poly)^[n] 1#w else 0#w := by
      rw [feed, up_zero, BitVec.zero_xor]
      cases e n
      · rw [if_neg Bool.false_ne_true, if_neg Bool.false_ne_true]
        exact (Multiplier.power n).zero
      · rw [if_pos rfl, if_pos rfl]
    rw [List.range_succ, List.reverse_append, List.reverse_singleton, List.singleton_append,
      List.map_cons, List.foldl_cons, foldl_feed, hlength, ih, hfirst, BitVec.xor_comm]
    rfl

/-! ## Bursts -/

/-- The errors lie at `span` positions from `p` on, and reach both ends. -/
structure IsBurst (e : ℕ → Bool) (p span : ℕ) : Prop where
  first : e p = true
  last : e (p + span - 1) = true
  within : ∀ i, e i = true → p ≤ i ∧ i < p + span

/-- The bits of a burst that starts at the lowest position and has at most `limit` of them. -/
def Short (limit : ℕ) (b : BitVec w) : Prop := b.getLsbD 0 = true ∧ b.toNat < 2 ^ limit

/-- Within `n` positions no two short bursts at different places have one syndrome. -/
def Resolves (limit n : ℕ) : Prop :=
  ∀ b c : BitVec w, Short limit b → Short limit c → ∀ d, 0 < d → d < n → (up poly)^[d] c ≠ b

variable {poly}

/-- A burst adds its bits, moved to its place. -/
theorem IsBurst.syndrome_eq {e : ℕ → Bool} {p span n : ℕ} (h : IsBurst e p span)
    (hn : p + span ≤ n) :
    syndrome poly e n = (up poly)^[p] (syndrome poly (fun i => e (p + i)) span) := by
  obtain ⟨k, rfl⟩ := Nat.exists_eq_add_of_le hn
  have hclear (i : ℕ) (hi : ¬ (p ≤ i ∧ i < p + span)) : e i = false :=
    Bool.eq_false_iff.mpr (mt (h.within i) hi)
  unfold syndrome
  rw [combine_extend poly (fun i hi => hclear i (by omega)),
    combine_shift poly (fun i hi => hclear i (by omega))]

theorem IsBurst.span_pos {e : ℕ → Bool} {p span : ℕ} (h : IsBurst e p span) : 0 < span := by
  have hfirst := (h.within p h.first).2
  omega

/-- The bits of a burst are short, and as long as the burst. -/
theorem IsBurst.bits {e : ℕ → Bool} {p span limit : ℕ} (h : IsBurst e p span) (hspan : span ≤ w)
    (hlimit : span ≤ limit) :
    Short limit (syndrome poly (fun i => e (p + i)) span) ∧
      (syndrome poly (fun i => e (p + i)) span).toNat.log2 + 1 = span := by
  have hpos := h.span_pos
  have hlt : (syndrome poly (fun i => e (p + i)) span).toNat < 2 ^ span := by
    apply Nat.lt_pow_two_of_testBit
    intro i hi
    show (syndrome poly (fun i => e (p + i)) span).getLsbD i = false
    rw [getLsbD_syndrome poly _ hspan, decide_eq_false (by omega), Bool.false_and]
  have hbit (i : ℕ) (hi : i < span) :
      (syndrome poly (fun i => e (p + i)) span).getLsbD i = e (p + i) := by
    rw [getLsbD_syndrome poly _ hspan, decide_eq_true hi, Bool.true_and]
  refine ⟨⟨?_, hlt.trans_le (Nat.pow_le_pow_right Nat.two_pos hlimit)⟩, ?_⟩
  · rw [hbit 0 hpos]
    exact h.first
  · have hlast : (syndrome poly (fun i => e (p + i)) span).toNat.testBit (span - 1) = true := by
      have hset := hbit (span - 1) (by omega)
      rw [show p + (span - 1) = p + span - 1 by omega, h.last] at hset
      exact hset
    have hge := Nat.ge_two_pow_of_testBit hlast
    have hne : (syndrome poly (fun i => e (p + i)) span).toNat ≠ 0 := by
      have hpow := Nat.two_pow_pos (span - 1)
      omega
    have hlog : (syndrome poly (fun i => e (p + i)) span).toNat.log2 = span - 1 := by
      rw [Nat.log2_eq_iff hne, Nat.sub_add_cancel hpos]
      exact ⟨hge, hlt⟩
    omega

/-- Stepping back from a syndrome, a short burst is met at one place at most. -/
theorem Resolves.unique {limit n : ℕ} (h : Resolves poly limit n)
    (hodd : poly.getLsbD 0 = true) {s : BitVec w} {p q : ℕ} (hp : p < n) (hq : q < n)
    (hshort : Short limit ((down poly)^[p] s)) (hshort' : Short limit ((down poly)^[q] s)) :
    p = q := by
  -- the burst met later, stepped up again, would be the earlier one
  have hordered (p q : ℕ) (hlt : p < q) (hq : q < n) (hshort : Short limit ((down poly)^[p] s))
      (hshort' : Short limit ((down poly)^[q] s)) : False := by
    obtain ⟨d, rfl⟩ := Nat.exists_eq_add_of_lt hlt
    apply h _ _ hshort hshort' (d + 1) (Nat.succ_pos d) (by omega)
    rw [show p + d + 1 = (d + 1) + p by omega, Function.iterate_add_apply (down poly)]
    exact up_down_iterate hodd _ _
  by_contra hne
  rcases Nat.lt_or_gt_of_ne hne with hlt | hlt
  · exact hordered p q hlt hq hshort hshort'
  · exact hordered q p hlt hp hshort' hshort

/-! ## Searching for bursts -/

/-- The step on numbers, which computes faster. -/
def up_number (top poly r : ℕ) : ℕ :=
  bif Nat.blt r top then 2 * r else Nat.xor (2 * r - 2 * top) poly

/-- None of the next steps shows a short burst. -/
def misses (top poly bound : ℕ) : ℕ → ℕ → Bool
  | 0, _ => true
  | n + 1, r =>
    let next := up_number top poly r
    bif Nat.blt next bound && Nat.beq (next % 2) 1 then false else misses top poly bound n next

theorem up_toNat (hw : 0 < w) (r : BitVec w) :
    (up poly r).toNat = up_number (2 ^ (w - 1)) poly.toNat r.toNat := by
  have hr := r.isLt
  have hdouble : 2 ^ w = 2 * 2 ^ (w - 1) := by
    rw [← Nat.pow_succ', Nat.succ_eq_add_one, Nat.sub_add_cancel hw]
  unfold up up_number
  rw [BitVec.toNat_xor, BitVec.toNat_shiftLeft, Nat.shiftLeft_eq, Nat.pow_one, Nat.mul_comm]
  by_cases hlt : r.toNat < 2 ^ (w - 1)
  · have hmsb : r.msb = false := by
      rw [BitVec.msb_eq_decide, decide_eq_false (Nat.not_le.mpr hlt)]
    rw [hmsb, if_neg Bool.false_ne_true, BitVec.toNat_zero, Nat.xor_zero,
      Nat.mod_eq_of_lt (by omega), Nat.blt_eq.mpr hlt]
    rfl
  · have hmsb : r.msb = true := by
      rw [BitVec.msb_eq_decide, decide_eq_true (Nat.le_of_not_lt hlt)]
    have hblt : Nat.blt r.toNat (2 ^ (w - 1)) = false :=
      Bool.eq_false_iff.mpr (mt Nat.blt_eq.mp hlt)
    rw [hmsb, if_pos rfl, hblt, hdouble, Nat.mod_eq_sub_mod (by omega), Nat.mod_eq_of_lt (by omega)]
    rfl

theorem misses_sound (hw : 0 < w) {limit : ℕ} (n : ℕ) :
    ∀ r : BitVec w, misses (2 ^ (w - 1)) poly.toNat (2 ^ limit) n r.toNat = true →
      ∀ d, 0 < d → d ≤ n → ¬ Short limit ((up poly)^[d] r) := by
  induction n with
  | zero =>
    intro r _ d hpos hle
    omega
  | succ n ih =>
    intro r hmisses d hpos hle hshort
    obtain ⟨d, rfl⟩ := Nat.exists_eq_succ_of_ne_zero (Nat.ne_of_gt hpos)
    rw [misses, ← up_toNat hw] at hmisses
    cases hfound : Nat.blt (up poly r).toNat (2 ^ limit) && Nat.beq ((up poly r).toNat % 2) 1
    · rw [hfound, cond_false] at hmisses
      rw [Function.iterate_succ_apply] at hshort
      by_cases hzero : d = 0
      · -- the burst that the step itself would have found
        rw [hzero, Function.iterate_zero_apply] at hshort
        have hodd : (up poly r).toNat % 2 = 1 := by
          have hbit := hshort.1
          rw [BitVec.getLsbD, Nat.testBit_zero, decide_eq_true_iff] at hbit
          exact hbit
        rw [Nat.blt_eq.mpr hshort.2, hodd] at hfound
        cases hfound
      · exact ih _ hmisses d (Nat.pos_of_ne_zero hzero) (by omega) hshort
    · rw [hfound, cond_true] at hmisses
      cases hmisses

/-- Bursts are resolved where none of them, stepped on, shows another. -/
theorem resolves_of_misses (hw : 0 < w) {limit n : ℕ}
    (h : ∀ c < 2 ^ limit, c % 2 = 1 → misses (2 ^ (w - 1)) poly.toNat (2 ^ limit) n c = true) :
    Resolves poly limit (n + 1) := by
  intro b c hb hc d hpos hd hequal
  have hodd : c.toNat % 2 = 1 := by
    have hbit := hc.1
    rw [BitVec.getLsbD, Nat.testBit_zero, decide_eq_true_iff] at hbit
    exact hbit
  apply misses_sound hw n c (h _ hc.2 hodd) d hpos (by omega)
  rw [hequal]
  exact hb

theorem Resolves.mono {limit limit' n : ℕ} (h : Resolves poly limit n) (hle : limit' ≤ limit) :
    Resolves poly limit' n := by
  have hweaken (b : BitVec w) (hb : Short limit' b) : Short limit b :=
    ⟨hb.1, hb.2.trans_le (Nat.pow_le_pow_right Nat.two_pos hle)⟩
  exact fun b c hb hc => h b c (hweaken b hb) (hweaken c hc)

/-! ## Factors -/

section Factor

variable {m : ℕ} (factor : BitVec m)

/-- The remainder modulo another polynomial. -/
def reduce (r : BitVec w) : BitVec m := syndrome factor r.getLsbD w

theorem reduce_xor (a b : BitVec w) :
    reduce factor (a ^^^ b) = reduce factor a ^^^ reduce factor b := by
  unfold reduce syndrome
  rw [← combine_xor]
  exact combine_congr factor (fun i _ => BitVec.getLsbD_xor) 1#m

/-- Where `x^w` and the polynomial are the same modulo the factor, so are the steps. -/
theorem reduce_up (h : reduce factor poly = (up factor)^[w] 1#m) (r : BitVec w) :
    reduce factor (up poly r) = up factor (reduce factor r) := by
  obtain rfl | ⟨k, rfl⟩ : w = 0 ∨ ∃ k, w = k + 1 := by
    cases w with
    | zero => exact Or.inl rfl
    | succ k => exact Or.inr ⟨k, rfl⟩
  · exact (up_zero factor).symm
  · -- shifted, the powers below the highest are a step further
    have hshift : reduce factor (r <<< 1) = up factor (combine factor r.getLsbD k 1#m) := by
      have hclear : ∀ i < 1, (r <<< 1).getLsbD i = false := by
        intro i hi
        rw [BitVec.getLsbD_shiftLeft, decide_eq_true hi, Bool.not_true, Bool.and_false,
          Bool.false_and]
      have hbits : ∀ i < k, (r <<< 1).getLsbD (1 + i) = r.getLsbD i := by
        intro i hi
        rw [BitVec.getLsbD_shiftLeft, decide_eq_true (show 1 + i < k + 1 by omega),
          decide_eq_false (show ¬ 1 + i < 1 by omega), Nat.add_sub_cancel_left]
        rfl
      have hcount : reduce factor (r <<< 1) = combine factor (r <<< 1).getLsbD (1 + k) 1#m :=
        congrArg (fun n => combine factor (r <<< 1).getLsbD n 1#m) (Nat.add_comm k 1)
      rw [hcount, combine_shift factor hclear, combine_congr factor hbits]
      rfl
    have htop : reduce factor (if r.msb then poly else 0#(k + 1)) =
        up factor (if r.getLsbD k then (up factor)^[k] 1#m else 0#m) := by
      have hmsb : r.msb = r.getLsbD k := BitVec.msb_eq_getLsbD_last r
      rw [hmsb]
      cases r.getLsbD k
      · rw [if_neg Bool.false_ne_true, if_neg Bool.false_ne_true, up_zero]
        exact (combine_congr factor (fun i _ => BitVec.getLsbD_zero) 1#m).trans
          (combine_zero factor (k + 1) 1#m)
      · rw [if_pos rfl, if_pos rfl, h, Function.iterate_succ_apply']
    rw [up, reduce_xor, hshift, htop, ← up_xor]
    rfl

theorem reduce_up_iterate (h : reduce factor poly = (up factor)^[w] 1#m) (r : BitVec w) (d : ℕ) :
    reduce factor ((up poly)^[d] r) = (up factor)^[d] (reduce factor r) := by
  induction d with
  | zero => rfl
  | succ d ih =>
    rw [Function.iterate_succ_apply', Function.iterate_succ_apply', reduce_up factor h, ih]

/-- A burst that is shorter than the factor is its own remainder. -/
theorem getLsbD_reduce {limit : ℕ} {b : BitVec w} (hb : b.toNat < 2 ^ limit) (hm : limit ≤ m)
    (hw : limit ≤ w) (i : ℕ) : (reduce factor b).getLsbD i = b.getLsbD i := by
  obtain ⟨k, rfl⟩ := Nat.exists_eq_add_of_le hw
  have hclear (i : ℕ) (hi : limit ≤ i) : b.getLsbD i = false :=
    Nat.testBit_lt_two_pow (hb.trans_le (Nat.pow_le_pow_right Nat.two_pos hi))
  have hreduce : reduce factor b = syndrome factor b.getLsbD limit :=
    combine_extend factor hclear k 1#m
  rw [hreduce, getLsbD_syndrome factor _ hm]
  by_cases hi : i < limit
  · rw [decide_eq_true hi, Bool.true_and]
  · rw [decide_eq_false hi, hclear i (by omega), Bool.false_and]

end Factor

/-- Modulo `x^m + 1` the step turns the register. -/
theorem up_one_eq_rotate {m : ℕ} (r : BitVec m) : up 1#m r = Rotation.rotate_left_one r := by
  refine BitVec.eq_of_getLsbD_eq fun i hi => ?_
  rw [getLsbD_up _ r hi, Rotation.rotate_left_one, Rotation.getLsbD_shift_left_in r _ hi,
    BitVec.getLsbD_one]
  by_cases hzero : i = 0
  · rw [if_pos hzero, hzero, decide_eq_true (show 0 < m by omega)]
    cases r.msb <;> rfl
  · rw [if_neg hzero, decide_eq_true (Nat.pos_of_ne_zero hzero), decide_eq_false hzero]
    simp

/-- Two bursts that together fit into the ring are turned into each other by whole turns
only. -/
theorem short_of_rotate {m limit d : ℕ} (hm : 2 * limit ≤ m + 1) {b c : ℕ → Bool}
    (hb : b 0 = true) (hc : c 0 = true) (hb' : ∀ i, b i = true → i < limit)
    (hc' : ∀ i, c i = true → i < limit)
    (hturn : ∀ i < m, b i = c ((i + (m - d % m)) % m)) : m ∣ d := by
  have hlimit := hb' 0 hb
  by_contra hdvd
  have hlt : d % m < m := Nat.mod_lt d (by omega)
  have hpos : 0 < d % m := Nat.pos_of_ne_zero (mt Nat.dvd_of_mod_eq_zero hdvd)
  -- the lowest bit of the one is moved into the other, and the other's back into the one
  have hmoved := hturn (d % m) hlt
  rw [Nat.add_sub_cancel' (Nat.le_of_lt hlt), Nat.mod_self, hc] at hmoved
  have hback := hturn 0 (by omega)
  rw [Nat.zero_add, Nat.mod_eq_of_lt (show m - d % m < m by omega), hb] at hback
  have hleft := hb' _ hmoved
  have hright := hc' _ hback.symm
  omega

/-- The product of `x^m + 1` and a factor resolves bursts that fit twice into the ring and once
into the factor, up to the first common period of the two. -/
theorem resolves_of_factors {m k limit n : ℕ} (factor : BitVec k) (hm : 2 * limit ≤ m + 1)
    (hw : limit ≤ w) (hk : limit ≤ k) (hring : reduce 1#m poly = (up 1#m)^[w] 1#m)
    (hfactor : reduce factor poly = (up factor)^[w] 1#k)
    (hperiod : ∀ d, 0 < d → d < n → m ∣ d → ∀ r : BitVec k, (up factor)^[d] r = r → r = 0#k) :
    Resolves poly limit n := by
  intro b c hb hc d hpos hd hequal
  have hpositive : 0 < limit := by
    by_contra hzero
    have hlt := hb.2
    have hset := hb.1
    rw [show limit = 0 by omega, Nat.pow_zero, Nat.lt_one_iff] at hlt
    rw [BitVec.getLsbD, hlt, Nat.zero_testBit] at hset
    cases hset
  have hbound (b : BitVec w) (hb : b.toNat < 2 ^ limit) (i : ℕ) (hi : b.getLsbD i = true) :
      i < limit := by
    by_contra hle
    have hclear : b.getLsbD i = false :=
      Nat.testBit_lt_two_pow (hb.trans_le (Nat.pow_le_pow_right Nat.two_pos (by omega)))
    rw [hclear] at hi
    cases hi
  -- in the ring the distance is a number of whole turns
  have hturned : Rotation.rotate_left (reduce 1#m c) d = reduce 1#m b := by
    rw [← Rotation.rotate_left_iterate (by omega), ← hequal, reduce_up_iterate 1#m hring]
    have hstep : (up 1#m) = Rotation.rotate_left_one := funext up_one_eq_rotate
    rw [hstep]
  have hturn : ∀ i < m, b.getLsbD i = c.getLsbD ((i + (m - d % m)) % m) := by
    intro i hi
    rw [← getLsbD_reduce 1#m hb.2 (by omega) hw, ← hturned, Rotation.getLsbD_rotate_left _ _ hi,
      getLsbD_reduce 1#m hc.2 (by omega) hw]
  have hdvd := short_of_rotate hm hb.1 hc.1 (hbound b hb.2) (hbound c hc.2) hturn
  have hsame : b = c := by
    refine BitVec.eq_of_getLsbD_eq fun i hi => ?_
    by_cases him : i < m
    · rw [hturn i him, Nat.mod_eq_zero_of_dvd hdvd, Nat.sub_zero, Nat.add_mod_right,
        Nat.mod_eq_of_lt him]
    · have hclear (x : BitVec w) (hx : x.toNat < 2 ^ limit) : x.getLsbD i = false :=
        Bool.eq_false_iff.mpr fun hset => by
          have hlt := hbound x hx i hset
          omega
      rw [hclear b hb.2, hclear c hc.2]
  -- modulo the factor the burst would then have that period
  have hfixed : (up factor)^[d] (reduce factor c) = reduce factor c := by
    rw [← reduce_up_iterate factor hfactor, hequal, hsame]
  have hzero := hperiod d hpos hd hdvd _ hfixed
  have hset := getLsbD_reduce factor hc.2 hk hw 0
  rw [hzero, hc.1] at hset
  cases BitVec.getLsbD_zero.symm.trans hset

end Nxvm.Lib.BurstCode
