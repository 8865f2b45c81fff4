/-
The error correction of the hard disk controller (`x86_hdc_ecc_encode`, `x86_hdc_ecc_check`).

A record is 4128 bits, its data and its ECC, counted from the end of the ECC. Encoded it has no
remainder, and errors leave theirs. The check steps that remainder back through the record and
takes off the burst it meets. Both polynomials resolve the bursts that they are used for: the one
by a search through all of them, the other because it is the product of `x^21 + 1` and a
polynomial of degree 11 whose powers have the period 2047.
-/
import Mathlib.Tactic.NormNum.Prime
import Nxvm.Chips.Xebec
import Nxvm.Lib.BurstCode

set_option autoImplicit false

namespace Nxvm.Chips

open Nxvm.Lib Nxvm.Lib.BurstCode Nxvm.Lib.Register

/-! ## The bits of a record -/

/-- A byte of the data and the ECC behind them. -/
def hdc_record_byte (record : HdcRecord) (byte : ℕ) : U8 :=
  if byte < hdc_sector_bytes then record.data.getD byte 0
  else record.ecc.getD (byte - hdc_sector_bytes) 0

/-- A bit of them, counted from the end of the ECC. -/
def hdc_record_bit (record : HdcRecord) (position : ℕ) : Bool :=
  (hdc_record_byte record (hdc_ecc_bits / 8 - 1 - position / 8)).getLsbD (position % 8)

theorem vector_getD {α : Type} {n : ℕ} (xs : Vector α n) (i : ℕ) (d : α) :
    xs.getD i d = xs[i]?.getD d := by
  rw [← Vector.getElem?_toArray]
  exact Array.getD_eq_getD_getElem?

theorem hdc_ecc_shift_eq (polynomial : U32) : hdc_ecc_shift polynomial = feed polynomial := by
  funext remainder bit
  have hlow : (remainder <<< 1).getLsbD 0 = false := by
    rw [BitVec.getLsbD_shiftLeft, decide_eq_true Nat.one_pos, Bool.not_true, Bool.and_false,
      Bool.false_and]
  have hor : remainder <<< 1 ||| (if bit then (1 : U32) else 0) =
      remainder <<< 1 ^^^ (if bit then 1#32 else 0#32) := by
    refine BitVec.eq_of_getLsbD_eq fun i hi => ?_
    cases bit
    · rw [if_neg Bool.false_ne_true, if_neg Bool.false_ne_true, BitVec.xor_zero]
      exact congrArg (BitVec.getLsbD · i) BitVec.or_zero
    · rw [if_pos rfl, if_pos rfl, BitVec.getLsbD_or, BitVec.getLsbD_xor]
      by_cases hzero : i = 0
      · rw [hzero, hlow]
        rfl
      · have hbit : (1#32).getLsbD i = false := by
          rw [BitVec.getLsbD_one, decide_eq_false hzero, Bool.and_false]
        rw [hbit, Bool.xor_false]
        exact (congrArg _ hbit).trans (Bool.or_false _)
  unfold hdc_ecc_shift feed up
  dsimp only
  rw [hor]
  cases remainder.msb
  · rw [if_neg Bool.false_ne_true, if_neg Bool.false_ne_true, BitVec.xor_zero]
  · rw [if_pos rfl, if_pos rfl]
    ac_rfl

/-- The bits of a row of bytes, the first byte's highest first, by their position from the
end. -/
theorem flatMap_byte_bits (bytes : List U8) :
    bytes.flatMap byte_bits = (List.range (bytes.length * 8)).reverse.map fun position =>
      (bytes.getD (bytes.length - 1 - position / 8) 0).getLsbD (position % 8) := by
  induction bytes with
  | nil => rfl
  | cons byte bytes ih =>
    have hrange : List.range ((byte :: bytes).length * 8) =
        List.range (bytes.length * 8) ++ (List.range 8).map (bytes.length * 8 + ·) := by
      rw [List.length_cons, Nat.succ_mul, List.range_add]
    have hfirst : ((List.range 8).map (bytes.length * 8 + ·)).reverse.map (fun position =>
        ((byte :: bytes).getD ((byte :: bytes).length - 1 - position / 8) 0).getLsbD
          (position % 8)) = byte_bits byte := by
      have hbits (bit : ℕ) (hbit : bit ∈ List.range 8) :
          ((byte :: bytes).getD ((byte :: bytes).length - 1 - (bytes.length * 8 + bit) / 8)
            0).getLsbD ((bytes.length * 8 + bit) % 8) = byte.getLsbD bit := by
        rw [List.mem_range] at hbit
        rw [List.length_cons, show bytes.length + 1 - 1 - (bytes.length * 8 + bit) / 8 = 0 by omega,
          show (bytes.length * 8 + bit) % 8 = bit by omega]
        rfl
      rw [← List.map_reverse, List.map_map, List.map_congr_left (g := byte.getLsbD)]
      · rfl
      · intro bit hbit
        exact hbits bit (List.mem_reverse.mp hbit)
    have hrest : (List.range (bytes.length * 8)).reverse.map (fun position =>
        ((byte :: bytes).getD ((byte :: bytes).length - 1 - position / 8) 0).getLsbD
          (position % 8)) = bytes.flatMap byte_bits := by
      rw [ih]
      apply List.map_congr_left
      intro position hposition
      rw [List.mem_reverse, List.mem_range] at hposition
      rw [List.length_cons, show bytes.length + 1 - 1 - position / 8 =
        (bytes.length - 1 - position / 8) + 1 by omega, List.getD_cons_succ]
    rw [hrange, List.reverse_append, List.map_append, hfirst, hrest, List.flatMap_cons]

/-- The remainder of a record is what its bits add. -/
theorem hdc_ecc_remainder_eq (record : HdcRecord) (polynomial : U32) :
    hdc_ecc_remainder record polynomial true =
      syndrome polynomial (hdc_record_bit record) hdc_ecc_bits := by
  have hlength : (record.data.toList ++ record.ecc.toList).length = 516 := by
    rw [List.length_append, Vector.length_toList, Vector.length_toList]
  have hbyte (byte : ℕ) : (record.data.toList ++ record.ecc.toList).getD byte 0 =
      hdc_record_byte record byte := by
    have hdata : record.data.toList.length = 512 := Vector.length_toList
    unfold hdc_record_byte hdc_sector_bytes
    rw [vector_getD, vector_getD, ← Vector.getElem?_toList, ← Vector.getElem?_toList,
      List.getD_eq_getElem?_getD]
    by_cases hbyte : byte < 512
    · rw [if_pos hbyte, List.getElem?_append_left (by omega)]
    · rw [if_neg hbyte, List.getElem?_append_right (by omega), hdata]
  unfold hdc_ecc_remainder
  dsimp only
  rw [if_pos rfl, flatMap_byte_bits, hlength, hdc_ecc_shift_eq]
  have hmap : (List.range (516 * 8)).reverse.map (fun position =>
      ((record.data.toList ++ record.ecc.toList).getD (516 - 1 - position / 8) 0).getLsbD
        (position % 8)) = (List.range hdc_ecc_bits).reverse.map (hdc_record_bit record) := by
    apply List.map_congr_left
    intro position _
    rw [hbyte]
    rfl
  rw [hmap]
  exact foldl_feed_positions polynomial _ _

/-- Records are the same that have the same bits. -/
theorem hdc_record_ext {record record' : HdcRecord}
    (hbits : ∀ position < hdc_ecc_bits,
      hdc_record_bit record position = hdc_record_bit record' position)
    (hpresent : record.ecc_present = record'.ecc_present) : record = record' := by
  have hbyte (byte : ℕ) (hlt : byte < 516) :
      hdc_record_byte record byte = hdc_record_byte record' byte := by
    refine BitVec.eq_of_getLsbD_eq fun bit hbit => ?_
    have hposition := hbits ((515 - byte) * 8 + bit) (by
      unfold hdc_ecc_bits hdc_sector_bytes hdc_ecc_bytes
      omega)
    unfold hdc_record_bit hdc_ecc_bits hdc_sector_bytes hdc_ecc_bytes at hposition
    rw [show (512 + 4) * 8 / 8 - 1 - ((515 - byte) * 8 + bit) / 8 = byte by omega,
      show ((515 - byte) * 8 + bit) % 8 = bit by omega] at hposition
    exact hposition
  have hget {n : ℕ} (xs : Vector U8 n) (i : ℕ) (hi : i < n) : xs.getD i 0 = xs[i] := by
    rw [vector_getD, Vector.getElem?_eq_getElem hi, Option.getD_some]
  obtain ⟨data, ecc, present⟩ := record
  obtain ⟨data', ecc', present'⟩ := record'
  have hdata : data = data' := by
    refine Vector.ext fun i hi => ?_
    have hsame := hbyte i (by omega)
    unfold hdc_record_byte hdc_sector_bytes at hsame
    rw [if_pos hi, if_pos hi, hget _ _ hi, hget _ _ hi] at hsame
    exact hsame
  have hecc : ecc = ecc' := by
    refine Vector.ext fun i hi => ?_
    have hsame := hbyte (512 + i) (by omega)
    unfold hdc_record_byte hdc_sector_bytes at hsame
    rw [if_neg (by omega), if_neg (by omega), Nat.add_sub_cancel_left, hget _ _ hi,
      hget _ _ hi] at hsame
    exact hsame
  have hflag : present = present' := hpresent
  rw [hdata, hecc, hflag]

/-! ## Errors -/

theorem hdc_record_byte_flip (record : HdcRecord) {position byte : ℕ}
    (hposition : position < hdc_ecc_bits) (hbyte : byte < 516) :
    hdc_record_byte (hdc_record_flip record position) byte =
      if byte = 515 - position / 8 then hdc_record_byte record byte ^^^ 1 <<< (position % 8)
      else hdc_record_byte record byte := by
  have hset {n : ℕ} (xs : Vector U8 n) (i j : ℕ) (x : U8) (hi : i < n) :
      (xs.setIfInBounds i x).getD j 0 = if j = i then x else xs.getD j 0 := by
    rw [vector_getD, vector_getD, Vector.getElem?_setIfInBounds]
    by_cases hij : i = j
    · rw [if_pos hij, if_pos hi, if_pos hij.symm, Option.getD_some]
    · rw [if_neg hij, if_neg (Ne.symm hij)]
  unfold hdc_ecc_bits hdc_sector_bytes hdc_ecc_bytes at hposition
  unfold hdc_record_flip hdc_record_byte hdc_ecc_bits hdc_sector_bytes hdc_ecc_bytes
  dsimp only
  rw [show (512 + 4) * 8 / 8 - 1 - position / 8 = 515 - position / 8 by omega]
  by_cases hdata : 515 - position / 8 < 512
  · rw [if_pos hdata]
    dsimp only
    rw [hset _ _ _ _ hdata]
    by_cases hsame : byte = 515 - position / 8
    · rw [hsame, if_pos hdata, if_pos rfl, if_pos hdata, if_pos rfl]
    · rw [if_neg hsame, if_neg hsame]
  · rw [if_neg hdata]
    dsimp only
    rw [hset _ _ _ _ (by omega)]
    by_cases hsame : byte = 515 - position / 8
    · rw [hsame, if_neg hdata, if_pos rfl, if_neg hdata, if_pos rfl]
    · rw [if_neg hsame]
      by_cases hlow : byte < 512
      · rw [if_pos hlow, if_pos hlow]
      · rw [if_neg hlow, if_neg (by omega), if_neg hlow]

/-- A flip flips its bit and no other. -/
theorem hdc_record_bit_flip (record : HdcRecord) {position i : ℕ}
    (hposition : position < hdc_ecc_bits) (hi : i < hdc_ecc_bits) :
    hdc_record_bit (hdc_record_flip record position) i =
      (hdc_record_bit record i ^^ decide (i = position)) := by
  have hbits : hdc_ecc_bits = 4128 := rfl
  have hone : (1 <<< (position % 8) : U8).getLsbD (i % 8) = decide (i % 8 = position % 8) := by
    have hpower : (1 <<< (position % 8) : U8) = BitVec.twoPow 8 (position % 8) :=
      (BitVec.twoPow_eq 8 (position % 8)).symm
    rw [hpower, BitVec.getLsbD_twoPow, decide_eq_true (show position % 8 < 8 by omega),
      Bool.true_and]
    exact decide_eq_decide.mpr eq_comm
  unfold hdc_record_bit
  rw [hdc_record_byte_flip record hposition (by omega), hbits]
  by_cases hbyte : 4128 / 8 - 1 - i / 8 = 515 - position / 8
  · rw [if_pos hbyte, BitVec.getLsbD_xor, hone]
    congr 1
    exact decide_eq_decide.mpr (by omega)
  · rw [if_neg hbyte, decide_eq_false (by
      intro hequal
      rw [hequal] at hbyte
      exact hbyte (by omega)), Bool.xor_false]

/-- The errors of a pattern, from a position on. -/
def hdc_record_flips (record : HdcRecord) (e : ℕ → Bool) (position n : ℕ) : HdcRecord :=
  (List.range n).foldl (fun record bit =>
    if e bit then hdc_record_flip record (position + bit) else record) record

theorem hdc_record_bit_flips (record : HdcRecord) (e : ℕ → Bool) {position n : ℕ}
    (hn : position + n ≤ hdc_ecc_bits) {i : ℕ} (hi : i < hdc_ecc_bits) :
    hdc_record_bit (hdc_record_flips record e position n) i =
      (hdc_record_bit record i ^^
        (decide (position ≤ i ∧ i < position + n) && e (i - position))) := by
  induction n with
  | zero =>
    rw [decide_eq_false (by omega), Bool.false_and, Bool.xor_false]
    rfl
  | succ n ih =>
    have hstep : hdc_record_flips record e position (n + 1) =
        if e n then hdc_record_flip (hdc_record_flips record e position n) (position + n)
        else hdc_record_flips record e position n := by
      unfold hdc_record_flips
      rw [List.range_succ, List.foldl_append]
      rfl
    have hbefore := ih (by omega)
    by_cases hlast : i = position + n
    · rw [decide_eq_false (by omega), Bool.false_and, Bool.xor_false] at hbefore
      rw [hstep, decide_eq_true (by omega), Bool.true_and, show i - position = n by omega]
      cases hbit : e n
      · rw [if_neg Bool.false_ne_true, hbefore, Bool.xor_false]
      · rw [if_pos rfl, hdc_record_bit_flip _ (by omega) hi, hbefore, decide_eq_true hlast]
    · have hbound : decide (position ≤ i ∧ i < position + (n + 1)) =
          decide (position ≤ i ∧ i < position + n) := decide_eq_decide.mpr (by omega)
      rw [hstep, hbound, ← hbefore]
      cases e n
      · rw [if_neg Bool.false_ne_true]
      · rw [if_pos rfl, hdc_record_bit_flip _ (by omega) hi, decide_eq_false hlast, Bool.xor_false]

theorem hdc_record_flips_present (record : HdcRecord) (e : ℕ → Bool) (position n : ℕ) :
    (hdc_record_flips record e position n).ecc_present = record.ecc_present := by
  have hflip (record : HdcRecord) (position : ℕ) :
      (hdc_record_flip record position).ecc_present = record.ecc_present := by
    unfold hdc_record_flip
    dsimp only
    split_ifs <;> rfl
  induction n with
  | zero => rfl
  | succ n ih =>
    unfold hdc_record_flips at ih ⊢
    rw [List.range_succ, List.foldl_append, List.foldl_cons, List.foldl_nil]
    cases e n
    · exact ih
    · exact (hflip _ _).trans ih

/-- A record with the errors of a pattern. -/
def hdc_record_errors (record : HdcRecord) (e : ℕ → Bool) : HdcRecord :=
  hdc_record_flips record e 0 hdc_ecc_bits

theorem hdc_record_bit_errors (record : HdcRecord) (e : ℕ → Bool) {i : ℕ} (hi : i < hdc_ecc_bits) :
    hdc_record_bit (hdc_record_errors record e) i = (hdc_record_bit record i ^^ e i) := by
  rw [hdc_record_errors, hdc_record_bit_flips record e (by omega) hi, decide_eq_true (by omega),
    Bool.true_and, Nat.sub_zero]

/-- What errors leave as remainder depends on them alone. -/
theorem hdc_ecc_remainder_errors (record : HdcRecord) (e : ℕ → Bool) (polynomial : U32) :
    hdc_ecc_remainder (hdc_record_errors record e) polynomial true =
      hdc_ecc_remainder record polynomial true ^^^ syndrome polynomial e hdc_ecc_bits := by
  rw [hdc_ecc_remainder_eq, hdc_ecc_remainder_eq]
  exact (combine_congr polynomial (fun i hi => hdc_record_bit_errors record e hi) 1#32).trans
    (combine_xor polynomial _ _ _ _)

/-! ## Encoding -/

/-- The ECC of an encoded record is the remainder, bit for bit. -/
theorem hdc_record_bit_encode (record : HdcRecord) (polynomial : U32) {i : ℕ}
    (hi : i < hdc_ecc_bits) :
    hdc_record_bit (hdc_ecc_encode record polynomial) i =
      if i < 32 then (hdc_ecc_remainder record polynomial false).getLsbD i
      else hdc_record_bit record i := by
  unfold hdc_ecc_bits hdc_sector_bytes hdc_ecc_bytes at hi
  unfold hdc_record_bit hdc_record_byte hdc_ecc_bits hdc_sector_bytes hdc_ecc_bytes hdc_ecc_encode
  dsimp only
  generalize hdc_ecc_remainder record polynomial false = remainder
  by_cases hecc : i < 32
  · rw [if_pos hecc, if_neg (by omega), vector_getD, Vector.getElem?_eq_getElem (by omega),
      Vector.getElem_ofFn, Option.getD_some, BitVec.getLsbD_setWidth, BitVec.getLsbD_ushiftRight,
      decide_eq_true (show i % 8 < 8 by omega), Bool.true_and]
    congr 1
    dsimp only
    omega
  · rw [if_neg hecc, if_pos (by omega), if_pos (by omega)]

/-- An encoded record has no remainder. -/
theorem hdc_ecc_remainder_encode (record : HdcRecord) (polynomial : U32) :
    hdc_ecc_remainder (hdc_ecc_encode record polynomial) polynomial true = 0 := by
  have hremainder : hdc_ecc_remainder record polynomial false = syndrome polynomial
      (hdc_record_bit { record with ecc := Vector.replicate 4 0 }) hdc_ecc_bits :=
    hdc_ecc_remainder_eq { record with ecc := Vector.replicate 4 0 } polynomial
  have hbits : ∀ i < hdc_ecc_bits, hdc_record_bit (hdc_ecc_encode record polynomial) i =
      (hdc_record_bit { record with ecc := Vector.replicate 4 0 } i ^^
        (hdc_ecc_remainder record polynomial false).getLsbD i) := by
    intro i hi
    rw [hdc_record_bit_encode record polynomial hi]
    unfold hdc_ecc_bits hdc_sector_bytes hdc_ecc_bytes at hi
    unfold hdc_record_bit hdc_record_byte hdc_ecc_bits hdc_sector_bytes hdc_ecc_bytes
    dsimp only
    by_cases hecc : i < 32
    · have hzero : ((0 : U8).getLsbD (i % 8)) = false := BitVec.getLsbD_zero
      rw [if_pos hecc, if_neg (by omega), vector_getD, Vector.getElem?_eq_getElem (by omega),
        Vector.getElem_replicate, Option.getD_some, hzero, Bool.false_xor]
    · have hclear := BitVec.getLsbD_of_ge (hdc_ecc_remainder record polynomial false) i (by omega)
      rw [if_neg hecc, if_pos (by omega), hclear, Bool.xor_false, if_pos (by omega)]
  have hself : syndrome polynomial (hdc_ecc_remainder record polynomial false).getLsbD
      hdc_ecc_bits = hdc_ecc_remainder record polynomial false := by
    have hwide : hdc_ecc_bits = 32 + 4096 := rfl
    rw [hwide, syndrome, combine_extend polynomial (fun i hi => BitVec.getLsbD_of_ge _ _ hi)]
    exact syndrome_getLsbD polynomial _
  rw [hdc_ecc_remainder_eq, syndrome, combine_congr polynomial hbits, combine_xor]
  show syndrome polynomial _ hdc_ecc_bits ^^^ syndrome polynomial _ hdc_ecc_bits = 0
  rw [hself, ← hremainder, BitVec.xor_self]
  rfl

/-! ## The check -/

/-- `x86_hdc_ecc_check` with what it returns, the record it leaves and the length of the burst
it reports. -/
def hdc_ecc_check_in_place (record : HdcRecord) (polynomial : U32) (limit : ℕ) :
    Bool × HdcRecord × U8 :=
  if !record.ecc_present then (true, hdc_ecc_encode record polynomial, 0)
  else
    let syndrome := hdc_ecc_remainder record polynomial true
    if syndrome = 0 then (true, record, 0)
    else if limit = 0 then (false, record, 0)
    else
      match hdc_ecc_search polynomial limit hdc_ecc_bits syndrome none with
      | some (some candidate) =>
        let corrected := hdc_ecc_correct record candidate
        if hdc_ecc_remainder corrected polynomial true ≠ 0 then (false, record, 0)
        else (true, corrected, BitVec.ofNat 8 candidate.span)
      | _ => (false, record, 0)

/-! ## The search -/

section Search

variable {polynomial : U32} {limit : ℕ} (syndrome : U32)

/-- The candidate of a position. -/
def ecc_candidate_at (polynomial syndrome : U32) (position : ℕ) : EccCandidate :=
  let mask := (down polynomial)^[position] syndrome
  ⟨mask, position, mask.toNat.log2 + 1⟩

/-- A short burst at a position, which ends within the record. -/
def EccMatch (polynomial : U32) (limit : ℕ) (syndrome : U32) (position : ℕ) : Prop :=
  Short limit ((down polynomial)^[position] syndrome) ∧
    position + (((down polynomial)^[position] syndrome).toNat.log2 + 1) ≤ hdc_ecc_bits

theorem down_iterate_succ (position : ℕ) :
    (down polynomial)^[position + 1] syndrome =
      ((down polynomial)^[position] syndrome) >>> 1 ^^^
        (if ((down polynomial)^[position] syndrome).getLsbD 0 then 0x80000000 ||| polynomial >>> 1
        else 0) := by
  rw [Function.iterate_succ_apply']
  rfl

variable {syndrome}

theorem hdc_ecc_search_miss {left position : ℕ} (hleft : position + (left + 1) = hdc_ecc_bits)
    (candidate : Option EccCandidate) (h : ¬ EccMatch polynomial limit syndrome position) :
    hdc_ecc_search polynomial limit (left + 1) ((down polynomial)^[position] syndrome) candidate =
      hdc_ecc_search polynomial limit left ((down polynomial)^[position + 1] syndrome)
        candidate := by
  have hnot : ¬ (((down polynomial)^[position] syndrome).getLsbD 0 = true ∧
      ((down polynomial)^[position] syndrome).toNat < 2 ^ limit ∧ hdc_ecc_bits - (left + 1) +
        (((down polynomial)^[position] syndrome).toNat.log2 + 1) ≤ hdc_ecc_bits) := by
    rintro ⟨hodd, hlt, hfits⟩
    rw [show hdc_ecc_bits - (left + 1) = position by omega] at hfits
    exact h ⟨⟨hodd, hlt⟩, hfits⟩
  rw [down_iterate_succ, hdc_ecc_search.eq_def]
  dsimp only
  rw [if_neg hnot]

theorem hdc_ecc_search_hit {left position : ℕ} (hleft : position + (left + 1) = hdc_ecc_bits)
    (candidate : Option EccCandidate) (h : EccMatch polynomial limit syndrome position) :
    hdc_ecc_search polynomial limit (left + 1) ((down polynomial)^[position] syndrome) candidate =
      match candidate with
      | some _ => none
      | none => hdc_ecc_search polynomial limit left ((down polynomial)^[position + 1] syndrome)
          (some (ecc_candidate_at polynomial syndrome position)) := by
  have hposition : hdc_ecc_bits - (left + 1) = position := by omega
  have hyes : ((down polynomial)^[position] syndrome).getLsbD 0 = true ∧
      ((down polynomial)^[position] syndrome).toNat < 2 ^ limit ∧ hdc_ecc_bits - (left + 1) +
        (((down polynomial)^[position] syndrome).toNat.log2 + 1) ≤ hdc_ecc_bits := by
    obtain ⟨⟨hodd, hlt⟩, hfits⟩ := h
    rw [hposition]
    exact ⟨hodd, hlt, hfits⟩
  rw [down_iterate_succ, hdc_ecc_search.eq_def]
  dsimp only
  rw [if_pos hyes, hposition]
  rfl

/-- What the search finds is a burst of the syndrome. -/
theorem hdc_ecc_search_sound {found : EccCandidate} (left : ℕ) :
    ∀ position candidate, position + left = hdc_ecc_bits →
      (∀ earlier, candidate = some earlier → ∃ p, EccMatch polynomial limit syndrome p ∧
        earlier = ecc_candidate_at polynomial syndrome p) →
      hdc_ecc_search polynomial limit left ((down polynomial)^[position] syndrome) candidate =
        some (some found) →
      ∃ p, EccMatch polynomial limit syndrome p ∧
        found = ecc_candidate_at polynomial syndrome p := by
  induction left with
  | zero =>
    intro position candidate _ hearlier hfound
    exact hearlier found (Option.some.inj hfound)
  | succ left ih =>
    intro position candidate hleft hearlier hfound
    by_cases hmatch : EccMatch polynomial limit syndrome position
    · rw [hdc_ecc_search_hit hleft candidate hmatch] at hfound
      cases candidate with
      | some earlier => cases hfound
      | none =>
        refine ih (position + 1) _ (by omega) ?_ hfound
        intro earlier hequal
        exact ⟨position, hmatch, (Option.some.inj hequal).symm⟩
    · rw [hdc_ecc_search_miss hleft candidate hmatch] at hfound
      exact ih (position + 1) candidate (by omega) hearlier hfound

/-- Where no position is left that matches, the search keeps what it has. -/
theorem hdc_ecc_search_none (left : ℕ) :
    ∀ position candidate, position + left = hdc_ecc_bits →
      (∀ p, position ≤ p → p < hdc_ecc_bits → ¬ EccMatch polynomial limit syndrome p) →
      hdc_ecc_search polynomial limit left ((down polynomial)^[position] syndrome) candidate =
        some candidate := by
  induction left with
  | zero =>
    intro position candidate _ _
    rfl
  | succ left ih =>
    intro position candidate hleft hnone
    rw [hdc_ecc_search_miss hleft candidate (hnone position le_rfl (by omega))]
    exact ih (position + 1) candidate (by omega) fun p hle => hnone p (by omega)

/-- The only position that matches is found. -/
theorem hdc_ecc_search_only {only : ℕ} (honly : only < hdc_ecc_bits)
    (hmatch : EccMatch polynomial limit syndrome only)
    (hunique : ∀ p < hdc_ecc_bits, EccMatch polynomial limit syndrome p → p = only) (left : ℕ) :
    ∀ position, position + left = hdc_ecc_bits → position ≤ only →
      hdc_ecc_search polynomial limit left ((down polynomial)^[position] syndrome) none =
        some (some (ecc_candidate_at polynomial syndrome only)) := by
  induction left with
  | zero =>
    intro position hleft hle
    omega
  | succ left ih =>
    intro position hleft hle
    by_cases hhere : position = only
    · rw [hhere] at hleft ⊢
      rw [hdc_ecc_search_hit hleft none hmatch]
      refine hdc_ecc_search_none left (only + 1) _ (by omega) fun p hbehind hlt hmatch' => ?_
      have hsame := hunique p hlt hmatch'
      omega
    · have hmiss : ¬ EccMatch polynomial limit syndrome position :=
        mt (hunique position (by omega)) hhere
      rw [hdc_ecc_search_miss hleft none hmiss]
      exact ih (position + 1) (by omega) (by omega)

end Search

/-! ## The polynomials -/

/-- The longest burst that is corrected. -/
def hdc_ecc_longest (config : HdcConfig) : ℕ := if hdc_is_ibm_wd1003 config then 5 else 11

theorem resolves_ibm : Resolves (0x140a0445 : U32) 5 4128 :=
  resolves_of_misses (by decide) (by decide +kernel)

/-- The factor of degree 11. -/
def ecc_factor : BitVec 11 := 0x005

/-- Its powers have the period 2047, a product of two primes, and no shorter one. -/
theorem ecc_factor_period {d : ℕ} {r : BitVec 11} (hd : ¬ 2047 ∣ d)
    (hfixed : (up ecc_factor)^[d] r = r) : r = 0#11 := by
  have hone : (up ecc_factor)^[2047] 1#11 = 1#11 := by decide +kernel
  have horder : (up ecc_factor)^[2047] r = r := (Multiplier.power 2047).ext .id hone r
  have hgcd : (up ecc_factor)^[Nat.gcd d 2047] r = r :=
    Function.IsPeriodicPt.gcd hfixed horder
  have hdivides : Nat.gcd d 2047 ∣ 2047 := Nat.gcd_dvd_right d 2047
  have hne : Nat.gcd d 2047 ≠ 2047 := by
    intro hequal
    apply hd
    rw [← hequal]
    exact Nat.gcd_dvd_left d 2047
  have hproper : Nat.gcd d 2047 ∣ 23 ∨ Nat.gcd d 2047 ∣ 89 := by
    obtain ⟨y, z, hy, hz, hproduct⟩ := (Nat.dvd_mul (m := 23) (n := 89)).mp hdivides
    rw [← hproduct] at hne ⊢
    rcases (Nat.dvd_prime (by norm_num)).mp hy with rfl | rfl
    · rw [Nat.one_mul]
      exact Or.inr hz
    · rcases (Nat.dvd_prime (by norm_num)).mp hz with rfl | rfl
      · rw [Nat.mul_one]
        exact Or.inl dvd_rfl
      · exact absurd rfl hne
  rcases hproper with h | h
  · have hinverse : combine ecc_factor (Nat.testBit 0x195) 11
        ((up ecc_factor)^[23] 1#11 ^^^ 1#11) = 1#11 := by decide +kernel
    exact eq_zero_of_fixed ecc_factor hinverse (Function.IsPeriodicPt.trans_dvd hgcd h)
  · have hinverse : combine ecc_factor (Nat.testBit 0x20c) 11
        ((up ecc_factor)^[89] 1#11 ^^^ 1#11) = 1#11 := by decide +kernel
    exact eq_zero_of_fixed ecc_factor hinverse (Function.IsPeriodicPt.trans_dvd hgcd h)

theorem resolves_xebec : Resolves (0x00a00805 : U32) 11 4128 := by
  refine @resolves_of_factors 32 0x00a00805 21 11 11 4128 ecc_factor (by decide) (by decide)
    (by decide) (by decide +kernel) (by decide +kernel) ?_
  intro d hpos hd hring r hfixed
  -- a common period is a multiple of 21 * 2047
  refine ecc_factor_period (fun hdvd => ?_) hfixed
  have hboth : 21 * 2047 ∣ d := Nat.Coprime.mul_dvd_of_dvd_of_dvd (by decide) hring hdvd
  have hle := Nat.le_of_dvd hpos hboth
  omega

theorem hdc_ecc_resolves (config : HdcConfig) :
    Resolves (hdc_ecc_polynomial config) (hdc_ecc_longest config) hdc_ecc_bits := by
  unfold hdc_ecc_polynomial hdc_ecc_longest hdc_is_ibm_wd1003
  by_cases hibm : config.protocol = .ibm_wd1003_st506
  · rw [if_pos hibm, if_pos (decide_eq_true hibm)]
    exact resolves_ibm
  · rw [if_neg hibm, if_neg (by rw [decide_eq_false hibm]; exact Bool.false_ne_true)]
    exact resolves_xebec

theorem hdc_ecc_polynomial_odd (config : HdcConfig) :
    (hdc_ecc_polynomial config).getLsbD 0 = true := by
  unfold hdc_ecc_polynomial
  split_ifs <;> rfl

/-! ## Correction -/

/-- The bits of a candidate, where they stand in the record. -/
def ecc_candidate_errors (candidate : EccCandidate) (i : ℕ) : Bool :=
  decide (candidate.position ≤ i ∧ i < candidate.position + candidate.span) &&
    candidate.mask.getLsbD (i - candidate.position)

theorem hdc_ecc_correct_eq (record : HdcRecord) {candidate : EccCandidate}
    (hfits : candidate.position + candidate.span ≤ hdc_ecc_bits) :
    hdc_ecc_correct record candidate =
      hdc_record_errors record (ecc_candidate_errors candidate) := by
  have hflips : hdc_ecc_correct record candidate = hdc_record_flips record
      candidate.mask.getLsbD candidate.position candidate.span := rfl
  rw [hflips]
  refine hdc_record_ext (fun i hi => ?_) ?_
  · rw [hdc_record_bit_flips record _ hfits hi, hdc_record_bit_errors record _ hi]
    rfl
  · rw [hdc_record_flips_present, hdc_record_errors, hdc_record_flips_present]

/-- What matches is a burst within the limit. -/
theorem EccMatch.burst {polynomial syndrome : U32} {limit position : ℕ}
    (h : EccMatch polynomial limit syndrome position) :
    let candidate := ecc_candidate_at polynomial syndrome position
    IsBurst (ecc_candidate_errors candidate) candidate.position candidate.span ∧
      candidate.span ≤ limit ∧ candidate.position + candidate.span ≤ hdc_ecc_bits := by
  obtain ⟨⟨hodd, hlt⟩, hfits⟩ := h
  unfold ecc_candidate_at ecc_candidate_errors
  dsimp only
  generalize (down polynomial)^[position] syndrome = mask at hodd hlt hfits
  have hne : mask.toNat ≠ 0 := by
    intro hzero
    rw [BitVec.getLsbD, hzero, Nat.zero_testBit] at hodd
    cases hodd
  refine ⟨⟨?_, ?_, ?_⟩, (Nat.log2_lt hne).mpr hlt, hfits⟩
  · rw [decide_eq_true (by omega), Bool.true_and, Nat.sub_self]
    exact hodd
  · rw [decide_eq_true (by omega), Bool.true_and,
      show position + (mask.toNat.log2 + 1) - 1 - position = mask.toNat.log2 by omega]
    exact Nat.testBit_log2 hne
  · intro i hi
    rw [Bool.and_eq_true, decide_eq_true_eq] at hi
    exact hi.1

section Check

variable {config : HdcConfig} {limit : ℕ} (hlimit : limit ≤ hdc_ecc_longest config)
include hlimit

theorem hdc_ecc_longest_le : limit ≤ 11 := by
  refine hlimit.trans ?_
  unfold hdc_ecc_longest
  split_ifs <;> decide

/-- A burst in an encoded record is taken off. -/
theorem hdc_ecc_check_burst {coded : HdcRecord} (hpresent : coded.ecc_present = true)
    (hcoded : hdc_ecc_remainder coded (hdc_ecc_polynomial config) true = 0) {e : ℕ → Bool}
    {p span : ℕ} (hburst : IsBurst e p span) (hspan : span ≤ limit)
    (hfits : p + span ≤ hdc_ecc_bits) :
    hdc_ecc_check_in_place (hdc_record_errors coded e) (hdc_ecc_polynomial config) limit =
      (true, coded, BitVec.ofNat 8 span) := by
  have hodd := hdc_ecc_polynomial_odd config
  have hresolves := (hdc_ecc_resolves config).mono hlimit
  have hlongest := hdc_ecc_longest_le hlimit
  generalize hdc_ecc_polynomial config = polynomial at hcoded hodd hresolves ⊢
  have hpos := hburst.span_pos
  obtain ⟨hshort, hlog⟩ := hburst.bits (show span ≤ 32 by omega) hspan
  -- the remainder is the burst, stepped up to its place
  have hremainder : hdc_ecc_remainder (hdc_record_errors coded e) polynomial true =
      (up polynomial)^[p] (syndrome polynomial (fun i => e (p + i)) span) := by
    rw [hdc_ecc_remainder_errors, hcoded, hburst.syndrome_eq hfits]
    exact BitVec.zero_xor
  have hback : (down polynomial)^[p] (hdc_ecc_remainder (hdc_record_errors coded e) polynomial
      true) = syndrome polynomial (fun i => e (p + i)) span := by
    rw [hremainder, down_up_iterate hodd _ le_rfl, Nat.sub_self]
    rfl
  have hbits (i : ℕ) : (syndrome polynomial (fun i => e (p + i)) span).getLsbD i =
      (decide (i < span) && e (p + i)) := getLsbD_syndrome polynomial _ (by omega) i
  have hrestored : hdc_ecc_correct (hdc_record_errors coded e)
      ⟨syndrome polynomial (fun i => e (p + i)) span, p, span⟩ = coded := by
    rw [hdc_ecc_correct_eq _ hfits]
    refine hdc_record_ext (fun i hi => ?_) ?_
    · have hsame : ecc_candidate_errors
          ⟨syndrome polynomial (fun i => e (p + i)) span, p, span⟩ i = e i := by
        unfold ecc_candidate_errors
        dsimp only
        rw [hbits]
        by_cases hin : p ≤ i ∧ i < p + span
        · rw [decide_eq_true hin, decide_eq_true (by omega), Bool.true_and, Bool.true_and,
            Nat.add_sub_cancel' hin.1]
        · have hclear : e i = false := Bool.eq_false_iff.mpr (mt (hburst.within i) hin)
          rw [decide_eq_false hin, Bool.false_and, hclear]
      rw [hdc_record_bit_errors _ _ hi, hdc_record_bit_errors _ _ hi, hsame, Bool.xor_assoc,
        Bool.xor_self, Bool.xor_false]
    · unfold hdc_record_errors
      rw [hdc_record_flips_present, hdc_record_flips_present]
  generalize syndrome polynomial (fun i => e (p + i)) span = mask at hshort hlog hback hrestored
  generalize hs : hdc_ecc_remainder (hdc_record_errors coded e) polynomial true = remainder at hback
  have hmatch : EccMatch polynomial limit remainder p := by
    unfold EccMatch
    rw [hback, hlog]
    exact ⟨hshort, hfits⟩
  have hunique (q : ℕ) (hq : q < hdc_ecc_bits) (hmatch' : EccMatch polynomial limit remainder q) :
      q = p :=
    hresolves.unique hodd hq (by omega) hmatch'.1 hmatch.1
  have hfound := hdc_ecc_search_only (by omega) hmatch hunique hdc_ecc_bits 0
    (Nat.zero_add _) (Nat.zero_le p)
  have hcandidate : ecc_candidate_at polynomial remainder p = ⟨mask, p, span⟩ := by
    unfold ecc_candidate_at
    dsimp only
    rw [hback, hlog]
  have hnonzero : remainder ≠ 0 := by
    intro hzero
    have hclear : (down polynomial)^[p] 0#32 = 0#32 :=
      Function.iterate_fixed (down_zero polynomial) p
    have hset := hshort.1
    rw [← hback, hzero] at hset
    rw [show (0 : U32) = 0#32 from rfl, hclear, BitVec.getLsbD_zero] at hset
    cases hset
  have hraw : ¬ (!(hdc_record_errors coded e).ecc_present) = true := by
    unfold hdc_record_errors
    rw [hdc_record_flips_present, hpresent]
    exact Bool.false_ne_true
  rw [hcandidate, Function.iterate_zero_apply] at hfound
  unfold hdc_ecc_check_in_place
  dsimp only
  rw [if_neg hraw, hs, if_neg hnonzero, if_neg (by omega), hfound]
  dsimp only
  rw [hrestored, hcoded, if_neg (by simp)]

omit hlimit in
/-- What the check takes off any record is one burst, and nothing is left. -/
theorem hdc_ecc_check_sound {record : HdcRecord} {polynomial : U32}
    (hpresent : record.ecc_present = true)
    (hok : (hdc_ecc_check_in_place record polynomial limit).1 = true) :
    let out := (hdc_ecc_check_in_place record polynomial limit).2
    hdc_ecc_remainder out.1 polynomial true = 0 ∧
      (out = (record, 0) ∨ ∃ e p span, IsBurst e p span ∧ span ≤ limit ∧
        p + span ≤ hdc_ecc_bits ∧ out = (hdc_record_errors record e, BitVec.ofNat 8 span)) := by
  unfold hdc_ecc_check_in_place at hok ⊢
  dsimp only at hok ⊢
  rw [if_neg (by rw [hpresent]; exact Bool.false_ne_true)] at hok ⊢
  by_cases hzero : hdc_ecc_remainder record polynomial true = 0
  · rw [if_pos hzero]
    exact ⟨hzero, Or.inl rfl⟩
  · rw [if_neg hzero] at hok ⊢
    by_cases hoff : limit = 0
    · rw [if_pos hoff] at hok
      cases hok
    · rw [if_neg hoff] at hok ⊢
      cases hsearch : hdc_ecc_search polynomial limit hdc_ecc_bits
        (hdc_ecc_remainder record polynomial true) none with
      | none =>
        rw [hsearch] at hok
        cases hok
      | some found =>
        cases found with
        | none =>
          rw [hsearch] at hok
          cases hok
        | some candidate =>
          rw [hsearch] at hok
          dsimp only at hok ⊢
          by_cases hleft : hdc_ecc_remainder (hdc_ecc_correct record candidate) polynomial true ≠ 0
          · rw [if_pos hleft] at hok
            cases hok
          · rw [if_neg hleft]
            obtain ⟨p, hmatch, rfl⟩ := hdc_ecc_search_sound hdc_ecc_bits 0 none (Nat.zero_add _)
              (fun earlier hequal => by cases hequal) hsearch
            obtain ⟨hburst, hspan, hfits⟩ := hmatch.burst
            refine ⟨not_not.mp hleft, Or.inr ⟨_, _, _, hburst, hspan, hfits, ?_⟩⟩
            rw [hdc_ecc_correct_eq record hfits]

omit hlimit in
/-- Where it returns false the record stays. -/
theorem hdc_ecc_check_false {record : HdcRecord} {polynomial : U32}
    (hfails : (hdc_ecc_check_in_place record polynomial limit).1 = false) :
    (hdc_ecc_check_in_place record polynomial limit).2.1 = record := by
  unfold hdc_ecc_check_in_place at hfails ⊢
  dsimp only at hfails ⊢
  by_cases hraw : (!record.ecc_present) = true
  · rw [if_pos hraw] at hfails
    cases hfails
  · rw [if_neg hraw] at hfails ⊢
    by_cases hzero : hdc_ecc_remainder record polynomial true = 0
    · rw [if_pos hzero]
    · rw [if_neg hzero] at hfails ⊢
      by_cases hoff : limit = 0
      · rw [if_pos hoff]
      · rw [if_neg hoff] at hfails ⊢
        generalize hdc_ecc_search polynomial limit hdc_ecc_bits
          (hdc_ecc_remainder record polynomial true) none = found at hfails ⊢
        rcases found with _ | _ | candidate
        · rfl
        · rfl
        · dsimp only at hfails ⊢
          by_cases hleft : hdc_ecc_remainder (hdc_ecc_correct record candidate) polynomial true ≠ 0
          · rw [if_pos hleft]
          · rw [if_neg hleft] at hfails
            cases hfails

omit hlimit in
theorem hdc_ecc_check_coded {coded : HdcRecord} {polynomial : U32}
    (hpresent : coded.ecc_present = true)
    (hcoded : hdc_ecc_remainder coded polynomial true = 0) :
    hdc_ecc_check_in_place coded polynomial limit = (true, coded, 0) := by
  unfold hdc_ecc_check_in_place
  dsimp only
  rw [if_neg (by rw [hpresent]; exact Bool.false_ne_true), if_pos hcoded]

end Check

/-- The check, at the limits that the controller has: a burst in an encoded record is found and
taken off, a record without errors is left as it is, and whatever record with an ECC is returned
has no remainder and differs by one burst within the limit. A record without ECC is encoded. -/
theorem hdc_ecc_check_corrects (config : HdcConfig) {limit : ℕ}
    (hlimit : limit ≤ hdc_ecc_longest config) :
    let polynomial := hdc_ecc_polynomial config
    let check := fun record => hdc_ecc_check_in_place record polynomial limit
    (∀ record e p span, IsBurst e p span → span ≤ limit → p + span ≤ hdc_ecc_bits →
        check (hdc_record_errors (hdc_ecc_encode record polynomial) e) =
          (true, hdc_ecc_encode record polynomial, BitVec.ofNat 8 span)) ∧
      (∀ record, check (hdc_ecc_encode record polynomial) =
        (true, hdc_ecc_encode record polynomial, 0)) ∧
      (∀ record, record.ecc_present = true → (check record).1 = true →
        hdc_ecc_remainder (check record).2.1 polynomial true = 0 ∧
          ((check record).2 = (record, 0) ∨ ∃ e p span, IsBurst e p span ∧ span ≤ limit ∧
            p + span ≤ hdc_ecc_bits ∧
              (check record).2 = (hdc_record_errors record e, BitVec.ofNat 8 span))) ∧
      (∀ record, record.ecc_present = false →
        check record = (true, hdc_ecc_encode record polynomial, 0) ∧
          (check record).2.1.data = record.data) ∧
      ∀ record, (check record).1 = false → (check record).2.1 = record := by
  refine ⟨?_, ?_, ?_, ?_, ?_⟩
  · intro record e p span hburst hspan hfits
    exact hdc_ecc_check_burst hlimit rfl (hdc_ecc_remainder_encode record _) hburst hspan hfits
  · intro record
    exact hdc_ecc_check_coded rfl (hdc_ecc_remainder_encode record _)
  · intro record hpresent hok
    exact hdc_ecc_check_sound hpresent hok
  · intro record hraw
    have hencoded : hdc_ecc_check_in_place record (hdc_ecc_polynomial config) limit =
        (true, hdc_ecc_encode record (hdc_ecc_polynomial config), 0) :=
      if_pos (by rw [hraw]; rfl)
    dsimp only
    rw [hencoded]
    exact ⟨rfl, rfl⟩
  · intro record hfails
    exact hdc_ecc_check_false hfails

/-- The IBM controller. -/
def hdc_ibm_config : HdcConfig :=
  { protocol := .ibm_wd1003_st506, lba28_supported := false, command_ticks := 1
    next_sector_ticks := 1, step_ticks := Vector.replicate 16 1
    xebec_geometry :=
      { logical_sector_count := 0, bytes_per_sector := 0, cylinders := 0, heads := 0
        sectors_per_track := 0 } }

/-- A burst of four bits across the border of data and ECC. -/
theorem hdc_ecc_check_corrects_border :
    let polynomial := hdc_ecc_polynomial hdc_ibm_config
    hdc_ecc_check_in_place (hdc_record_errors (hdc_ecc_encode hdc_record_zero polynomial)
        fun i => decide (30 ≤ i ∧ i < 34)) polynomial 5 =
      (true, hdc_ecc_encode hdc_record_zero polynomial, 4) :=
  (hdc_ecc_check_corrects hdc_ibm_config (show 5 ≤ 5 from le_rfl)).1 hdc_record_zero
    (fun i => decide (30 ≤ i ∧ i < 34)) 30 4 ⟨rfl, rfl, fun _ => of_decide_eq_true⟩ (by decide)
    (by decide)

/-- A record without ECC whose last bit of data is set. -/
def hdc_record_raw : HdcRecord := hdc_record_flip hdc_record_zero 32

theorem hdc_record_bit_raw {i : ℕ} (hi : i < hdc_ecc_bits) :
    hdc_record_bit hdc_record_raw i = decide (i = 32) := by
  have hzero : hdc_record_byte hdc_record_zero (hdc_ecc_bits / 8 - 1 - i / 8) = 0 := by
    unfold hdc_record_byte hdc_record_zero hdc_ecc_bits hdc_sector_bytes hdc_ecc_bytes
    dsimp only
    rw [vector_getD, vector_getD]
    split_ifs with hdata
    · rw [Vector.getElem?_eq_getElem hdata, Vector.getElem_replicate, Option.getD_some]
    · rw [Vector.getElem?_eq_getElem (by omega), Vector.getElem_replicate, Option.getD_some]
  have hclear : hdc_record_bit hdc_record_zero i = false := by
    unfold hdc_record_bit
    rw [hzero]
    exact BitVec.getLsbD_zero
  rw [hdc_record_raw, hdc_record_bit_flip _ (by decide) hi, hclear, Bool.false_xor]

/-- Its ECC is the polynomial. -/
theorem hdc_ecc_remainder_raw (polynomial : U32) :
    hdc_ecc_remainder hdc_record_raw polynomial false = (up polynomial)^[32] 1#32 := by
  have hecc : hdc_ecc_remainder hdc_record_raw polynomial false =
      hdc_ecc_remainder hdc_record_raw polynomial true := rfl
  have hburst : IsBurst (fun i => decide (i = 32)) 32 1 :=
    ⟨rfl, rfl, fun i hi => by
      have hequal := of_decide_eq_true hi
      omega⟩
  rw [hecc, hdc_ecc_remainder_eq]
  have hone : syndrome polynomial (fun i => decide (32 + i = 32)) 1 = 1#32 := BitVec.zero_xor
  have hplace := @IsBurst.syndrome_eq 32 polynomial _ 32 1 hdc_ecc_bits hburst (by decide)
  rw [hone] at hplace
  exact (combine_congr polynomial (fun i hi => hdc_record_bit_raw hi) 1#32).trans hplace

/-- Encoded, that record differs from what it was in more than one short burst. -/
theorem hdc_ecc_check_raw_record :
    ¬ ∀ (config : HdcConfig) (record : HdcRecord),
      let limit := hdc_ecc_longest config
      let answer := hdc_ecc_check_in_place record (hdc_ecc_polynomial config) limit
      answer.1 = true → answer.2.1 = record ∨ ∃ e p span, IsBurst e p span ∧ span ≤ limit ∧
        answer.2.1 = hdc_record_errors record e := by
  intro h
  have hraw : hdc_ecc_check_in_place hdc_record_raw (hdc_ecc_polynomial hdc_ibm_config) 5 =
      (true, hdc_ecc_encode hdc_record_raw 0x140a0445, 0) := if_pos rfl
  have hfirst : hdc_record_bit (hdc_ecc_encode hdc_record_raw 0x140a0445) 0 = true := by
    rw [hdc_record_bit_encode _ _ (by decide), if_pos (by decide), hdc_ecc_remainder_raw]
    decide +kernel
  have hlast : hdc_record_bit (hdc_ecc_encode hdc_record_raw 0x140a0445) 28 = true := by
    rw [hdc_record_bit_encode _ _ (by decide), if_pos (by decide), hdc_ecc_remainder_raw]
    decide +kernel
  have hclear : hdc_record_bit hdc_record_raw 0 = false ∧
      hdc_record_bit hdc_record_raw 28 = false :=
    ⟨hdc_record_bit_raw (by decide), hdc_record_bit_raw (by decide)⟩
  have hclaim := h hdc_ibm_config hdc_record_raw
  have hlimit : hdc_ecc_longest hdc_ibm_config = 5 := rfl
  dsimp only at hclaim
  rw [hlimit, hraw] at hclaim
  rcases hclaim rfl with hsame | ⟨e, p, span, hburst, hspan, herrors⟩
  · dsimp only at hsame
    rw [hsame, hclear.1] at hfirst
    cases hfirst
  · dsimp only at herrors
    rw [herrors, hdc_record_bit_errors _ _ (by decide), hclear.1, Bool.false_xor] at hfirst
    rw [herrors, hdc_record_bit_errors _ _ (by decide), hclear.2, Bool.false_xor] at hlast
    have hlow := hburst.within 0 hfirst
    have hhigh := hburst.within 28 hlast
    omega

end Nxvm.Chips
