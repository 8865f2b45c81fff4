/-
Text in UTF-8 (`lib/base/text.c`).

The check reads a lead byte, the continuation bytes that it asks for, and then looks at the scalar
that they spell. What it accepts is what Lean's own encoding of characters writes.
-/
import Mathlib.Data.List.Basic
import Mathlib.Tactic.Common

set_option autoImplicit false

namespace Nxvm.Base

/-! ## The check -/

/-- The bits of a lead byte, how many bytes follow it, and the least scalar that needs so many. -/
def utf8_lead (value : ℕ) : Option (ℕ × ℕ × ℕ) :=
  if 0xc2 ≤ value ∧ value ≤ 0xdf then some (value &&& 0x1f, 1, 0x80)
  else if 0xe0 ≤ value ∧ value ≤ 0xef then some (value &&& 0x0f, 2, 0x800)
  else if 0xf0 ≤ value ∧ value ≤ 0xf4 then some (value &&& 0x07, 3, 0x10000)
  else none

/-- The inner loop: the bits of the bytes that follow, behind those of the lead byte. -/
def utf8_continued (value : ℕ) : List UInt8 → Option ℕ
  | [] => some value
  | next :: rest =>
    if next.toNat &&& 0xc0 ≠ 0x80 then none
    else utf8_continued (value <<< 6 ||| next.toNat &&& 0x3f) rest

/-- The outer loop, over the bytes that are left. -/
def utf8_valid : List UInt8 → Bool
  | [] => true
  | first :: rest =>
    if first.toNat < 0x80 then utf8_valid rest
    else
      match utf8_lead first.toNat with
      | none => false
      | some (lead, count, minimum) =>
        if count > rest.length then false
        else
          match utf8_continued lead (rest.take count) with
          | none => false
          | some value =>
            if value < minimum ∨ value > 0x10ffff ∨ (0xd800 ≤ value ∧ value ≤ 0xdfff) then false
            else utf8_valid (rest.drop count)
termination_by bytes => bytes.length
decreasing_by
  · exact Nat.lt_succ_self _
  · rw [List.length_drop, List.length_cons]
    omega

/-- `base_text_utf8_valid_bytes`: `text` is null, or the bytes from there on. -/
def base_text_utf8_valid_bytes (text : Option (List UInt8)) (length : ℕ) : Bool :=
  match text with
  | none => length = 0
  | some bytes => utf8_valid (bytes.take length)

/-- `base_text_utf8_valid`: the text ends before its first zero. -/
def base_text_utf8_valid (text : Option (List UInt8)) : Bool :=
  match text with
  | none => false
  | some bytes =>
    base_text_utf8_valid_bytes text (bytes.takeWhile fun byte => byte ≠ 0).length

/-! ## Bits as digits -/

/-- A continuation byte. -/
theorem continuation_iff (byte : UInt8) :
    byte.toNat &&& 0xc0 = 0x80 ↔ 128 ≤ byte.toNat ∧ byte.toNat < 192 := by
  have hall : ∀ n < 256, n &&& 0xc0 = 0x80 ↔ 128 ≤ n ∧ n < 192 := by decide +kernel
  exact hall _ byte.toNat_lt

theorem continued_digit (value n : ℕ) : value <<< 6 ||| n &&& 0x3f = value * 64 + n % 64 := by
  have hlow : n &&& 0x3f = n % 64 := Nat.and_two_pow_sub_one_eq_mod n 6
  have hlt : n % 64 < 2 ^ 6 := Nat.mod_lt _ (by decide)
  rw [hlow, ← Nat.shiftLeft_add_eq_or_of_lt hlt, Nat.shiftLeft_eq]

theorem utf8_continued_nil (value : ℕ) : utf8_continued value [] = some value := rfl

theorem utf8_continued_cons (value : ℕ) (next : UInt8) (rest : List UInt8) :
    utf8_continued value (next :: rest) =
      if 128 ≤ next.toNat ∧ next.toNat < 192 then
        utf8_continued (value * 64 + next.toNat % 64) rest
      else none := by
  simp only [utf8_continued, continued_digit, ne_eq, continuation_iff, ite_not]

theorem utf8_lead_eq (value : ℕ) :
    utf8_lead value =
      if 0xc2 ≤ value ∧ value ≤ 0xdf then some (value % 32, 1, 0x80)
      else if 0xe0 ≤ value ∧ value ≤ 0xef then some (value % 16, 2, 0x800)
      else if 0xf0 ≤ value ∧ value ≤ 0xf4 then some (value % 8, 3, 0x10000)
      else none := by
  have h5 : value &&& 0x1f = value % 32 := Nat.and_two_pow_sub_one_eq_mod value 5
  have h4 : value &&& 0x0f = value % 16 := Nat.and_two_pow_sub_one_eq_mod value 4
  have h3 : value &&& 0x07 = value % 8 := Nat.and_two_pow_sub_one_eq_mod value 3
  rw [utf8_lead, h5, h4, h3]

/-! ## One character -/

theorem scalar_char {v : ℕ} (h : v < 0xd800 ∨ (0xdfff < v ∧ v < 0x110000)) :
    ∃ c : Char, c.val.toNat = v :=
  ⟨Char.ofNatAux v h, rfl⟩

theorem ofNat_eq_iff (n : ℕ) (byte : UInt8) : UInt8.ofNat n = byte ↔ n % 256 = byte.toNat := by
  rw [← UInt8.toNat_inj, UInt8.toNat_ofNat']

/-- A lead byte and the bytes behind it spell the scalar `v`. -/
structure Spells (first : UInt8) (following : List UInt8) (lead minimum v : ℕ) : Prop where
  high : 0x80 ≤ first.toNat
  begun : utf8_lead first.toNat = some (lead, following.length, minimum)
  continued : utf8_continued lead following = some v
  least : minimum ≤ v
  scalar : v < 0xd800 ∨ (0xdfff < v ∧ v < 0x110000)

section Spells

variable {first : UInt8} {following : List UInt8} {lead minimum v : ℕ}

theorem Spells.utf8_valid (h : Spells first following lead minimum v) (rest : List UInt8) :
    utf8_valid (first :: (following ++ rest)) = utf8_valid rest := by
  have hlow := h.high
  have hleast := h.least
  have hscalar := h.scalar
  rw [Base.utf8_valid, if_neg (by omega), h.begun]
  dsimp only
  rw [if_neg (by rw [List.length_append]; omega), List.take_left, h.continued]
  dsimp only
  rw [if_neg (by omega), List.drop_left]

/-- Such a sequence is the encoding of its character. -/
theorem Spells.encoded (h : Spells first following lead minimum v) {c : Char}
    (hc : c.val.toNat = v) : String.utf8EncodeChar c = first :: following := by
  obtain ⟨hhigh, hbegun, hcontinued, hleast, hscalar⟩ := h
  have hfirst := first.toNat_lt
  unfold String.utf8EncodeChar
  rw [hc]
  rw [utf8_lead_eq] at hbegun
  split_ifs at hbegun with h2 h3 h4 <;>
    obtain ⟨rfl, hlength, rfl⟩ : _ = lead ∧ _ = following.length ∧ _ = minimum := by
      simpa using hbegun
  · obtain ⟨b, rfl⟩ := List.length_eq_one_iff.mp hlength.symm
    simp only [utf8_continued_cons, utf8_continued_nil] at hcontinued
    split_ifs at hcontinued with hb
    cases hcontinued
    rw [if_neg (by omega), if_pos (by omega)]
    simp only [List.cons.injEq, ofNat_eq_iff, and_true]
    omega
  · obtain ⟨b, d, rfl⟩ := List.length_eq_two.mp hlength.symm
    simp only [utf8_continued_cons, utf8_continued_nil] at hcontinued
    split_ifs at hcontinued with hb hd
    cases hcontinued
    rw [if_neg (by omega), if_neg (by omega), if_pos (by omega)]
    simp only [List.cons.injEq, ofNat_eq_iff, and_true]
    omega
  · obtain ⟨b, d, e, rfl⟩ := List.length_eq_three.mp hlength.symm
    simp only [utf8_continued_cons, utf8_continued_nil] at hcontinued
    split_ifs at hcontinued with hb hd he
    cases hcontinued
    rw [if_neg (by omega), if_neg (by omega), if_neg (by omega)]
    simp only [List.cons.injEq, ofNat_eq_iff, and_true]
    omega

end Spells

theorem spells_encoded {c : Char} (hc : 0x80 ≤ c.val.toNat) :
    ∃ first following lead minimum, String.utf8EncodeChar c = first :: following ∧
      Spells first following lead minimum c.val.toNat := by
  have hscalar : c.val.toNat < 0xd800 ∨ (0xdfff < c.val.toNat ∧ c.val.toNat < 0x110000) := c.valid
  have hbyte {n : ℕ} (h : n < 256) : (UInt8.ofNat n).toNat = n := by
    rw [UInt8.toNat_ofNat', Nat.mod_eq_of_lt h]
  unfold String.utf8EncodeChar
  generalize c.val.toNat = v at hc hscalar
  dsimp only
  rw [if_neg (by omega)]
  split_ifs with h2 h3
  · refine ⟨_, _, v / 64, 0x80, rfl, ⟨?_, ?_, ?_, by omega, hscalar⟩⟩
    · rw [hbyte (by omega)]
      omega
    · rw [hbyte (by omega), utf8_lead_eq, if_pos (by omega)]
      simp only [List.length_singleton, Option.some.injEq, Prod.mk.injEq, and_true]
      omega
    · simp only [utf8_continued_cons, utf8_continued_nil]
      rw [hbyte (by omega), if_pos (by omega), Option.some_inj]
      omega
  · refine ⟨_, _, v / 4096, 0x800, rfl, ⟨?_, ?_, ?_, by omega, hscalar⟩⟩
    · rw [hbyte (by omega)]
      omega
    · rw [hbyte (by omega), utf8_lead_eq, if_neg (by omega), if_pos (by omega)]
      simp only [List.length_cons, List.length_nil, Option.some.injEq, Prod.mk.injEq, and_true]
      omega
    · simp only [utf8_continued_cons, utf8_continued_nil]
      rw [hbyte (by omega), hbyte (by omega), if_pos (by omega), if_pos (by omega),
        Option.some_inj]
      omega
  · refine ⟨_, _, v / 262144, 0x10000, rfl, ⟨?_, ?_, ?_, by omega, hscalar⟩⟩
    · rw [hbyte (by omega)]
      omega
    · rw [hbyte (by omega), utf8_lead_eq, if_neg (by omega), if_neg (by omega), if_pos (by omega)]
      simp only [List.length_cons, List.length_nil, Option.some.injEq, Prod.mk.injEq, and_true]
      omega
    · simp only [utf8_continued_cons, utf8_continued_nil]
      rw [hbyte (by omega), hbyte (by omega), hbyte (by omega), if_pos (by omega),
        if_pos (by omega), if_pos (by omega), Option.some_inj]
      omega

theorem encoded_low {c : Char} (h : c.val.toNat < 0x80) :
    String.utf8EncodeChar c = [UInt8.ofNat c.val.toNat] := by
  unfold String.utf8EncodeChar
  exact if_pos (by omega)

/-- The bytes of a character are read as that character. -/
theorem utf8_valid_char (c : Char) (rest : List UInt8) :
    utf8_valid (String.utf8EncodeChar c ++ rest) = utf8_valid rest := by
  by_cases hlow : c.val.toNat < 0x80
  · rw [encoded_low hlow, List.singleton_append, utf8_valid, UInt8.toNat_ofNat',
      if_pos (by omega)]
  · obtain ⟨first, following, lead, minimum, hencoded, hspells⟩ :=
      spells_encoded (Nat.le_of_not_lt hlow)
    rw [hencoded, List.cons_append]
    exact hspells.utf8_valid rest

/-! ## Whole texts -/

theorem utf8_valid_encoded (text : List Char) :
    utf8_valid (text.flatMap String.utf8EncodeChar) = true := by
  induction text with
  | nil => rw [List.flatMap_nil, utf8_valid]
  | cons c text ih => rw [List.flatMap_cons, utf8_valid_char, ih]

/-- What is accepted is read back character by character. -/
theorem utf8_valid_decodes (bytes : List UInt8) (h : utf8_valid bytes = true) :
    ∃ text : List Char, bytes = text.flatMap String.utf8EncodeChar := by
  fun_induction utf8_valid bytes with
  | case1 => exact ⟨[], rfl⟩
  | case2 first rest hlow ih =>
    obtain ⟨text, rfl⟩ := ih h
    obtain ⟨c, hc⟩ := @scalar_char first.toNat (by omega)
    refine ⟨c :: text, ?_⟩
    rw [List.flatMap_cons, encoded_low (by omega), hc, UInt8.ofNat_toNat, List.singleton_append]
  | case7 first rest hlow lead count minimum hbegun hshort v hcontinued hbad ih =>
    have hlength : (rest.take count).length = count := by
      rw [List.length_take]
      omega
    have hspells : Spells first (rest.take count) lead minimum v :=
      ⟨by omega, by rw [hbegun, hlength], hcontinued, by omega, by omega⟩
    obtain ⟨text, htext⟩ := ih h
    obtain ⟨c, hc⟩ := scalar_char hspells.scalar
    refine ⟨c :: text, ?_⟩
    rw [List.flatMap_cons, hspells.encoded hc, ← htext, List.cons_append,
      List.take_append_drop]
  | _ => cases h

/-- No two texts have the same bytes. -/
theorem encoded_injective {text other : List Char}
    (h : text.flatMap String.utf8EncodeChar = other.flatMap String.utf8EncodeChar) :
    text = other := by
  have hbytes : text.utf8Encode = other.utf8Encode := congrArg List.toByteArray h
  have hstring : String.ofList text = String.ofList other := by
    rw [← String.toByteArray_inj]
    exact hbytes
  rw [← String.toList_ofList (l := text), hstring, String.toList_ofList]

/-- What is accepted are the encodings of the texts: all of them, and each of one text. What
stands behind the length, or behind the first zero, makes no difference. -/
theorem base_text_utf8_valid_iff (bytes : List UInt8) (length : ℕ) :
    (base_text_utf8_valid_bytes (some bytes) length = true ↔
        ∃! text : List Char, bytes.take length = text.flatMap String.utf8EncodeChar) ∧
      (base_text_utf8_valid (some bytes) = true ↔
        ∃! text : List Char,
          (bytes.takeWhile fun byte => byte ≠ 0) = text.flatMap String.utf8EncodeChar) := by
  have hbytes (length : ℕ) : base_text_utf8_valid_bytes (some bytes) length = true ↔
      ∃! text : List Char, bytes.take length = text.flatMap String.utf8EncodeChar := by
    constructor
    · intro h
      obtain ⟨text, htext⟩ := utf8_valid_decodes _ h
      exact ⟨text, htext, fun other hother => encoded_injective (hother.symm.trans htext)⟩
    · rintro ⟨text, htext, -⟩
      rw [base_text_utf8_valid_bytes, htext]
      exact utf8_valid_encoded text
  refine ⟨hbytes length, ?_⟩
  rw [base_text_utf8_valid, hbytes, ← List.prefix_iff_eq_take.mp (List.takeWhile_prefix _)]

end Nxvm.Base
