/-
Page tables as they lie in memory, and the two-level walk as a function of them.

The walk of the processor sets Accessed and Dirty bits as it goes. `MarkedOn` is the
relation between the memory before and after: nothing but such bits has been set.
What the walk answers does not depend on them, so it may be computed from the memory
at the start of any run of accesses.
-/
import Nxvm.Cpu.CacheWrite
import Nxvm.Cpu.Paging

set_option autoImplicit false

namespace Nxvm.Cpu

open Nxvm.Lib Nxvm.Lib.Exec Nxvm.Lib.Memory

variable {T : U32 → Prop} {v v' : View}

/-! ## Page entries in memory -/

/-- Page entries lie at multiples of 4. -/
def Aligned (a : U32) : Prop := a.toNat % 4 = 0

theorem Aligned.offset_add {a : U32} (h : Aligned a) {i : Nat} (hi : i < 4) :
    (cache_offset a).toNat + i < 16 := by
  unfold Aligned at h
  rw [cache_offset_toNat]
  omega

theorem Aligned.decode {a : U32} (h : Aligned a) (d : Decoding) : Aligned (d.decode a) := by
  have ho := congrArg BitVec.toNat (d.offset a)
  rw [cache_offset_toNat, cache_offset_toNat] at ho
  unfold Aligned at *
  omega

/-- The bytes of an entry lie together, before decoding and after. -/
theorem Aligned.decode_add {a : U32} (h : Aligned a) (d : Decoding) {i : Nat} (hi : i < 4) :
    d.decode (a + BitVec.ofNat 32 i) = d.decode a + BitVec.ofNat 32 i :=
  d.line a i (h.offset_add hi)

theorem Aligned.not_aligned_add {a : U32} (h : Aligned a) {i : Nat} (h0 : i ≠ 0) (hi : i < 4) :
    ¬ Aligned (a + BitVec.ofNat 32 i) := by
  unfold Aligned at *
  rw [BitVec.toNat_add, BitVec.toNat_ofNat]
  have := a.isLt
  omega

/-- The page entry at `a` as the bus shows it. -/
def View.word (v : View) (a : U32) : U32 :=
  word_of 32 ((List.range 4).map fun i => v.mem (v.decoding.decode (a + BitVec.ofNat 32 i)))

/-- The memory with the given bits of the page entry at `a` set; they lie in its first
byte. -/
def View.marked (v : View) (a bits : U32) : View :=
  v.put (v.decoding.decode a) [v.mem (v.decoding.decode a) ||| bits.setWidth 8]

/-- The addresses of the page entry at `a`. -/
def EntryIn (T : U32 → Prop) (v : View) (a : U32) : Prop :=
  ∀ i < 4, T (v.decoding.decode (a + BitVec.ofNat 32 i))

theorem View.marked_at (v : View) (a bits : U32) :
    (v.marked a bits).mem (v.decoding.decode a) =
      v.mem (v.decoding.decode a) ||| bits.setWidth 8 := by
  unfold View.marked View.put
  have h := store_at (m := v.mem) (a := v.decoding.decode a) (i := 0)
    [v.mem (v.decoding.decode a) ||| bits.setWidth 8] (by simp) (by simp)
  simpa using h

theorem View.marked_other (v : View) (a bits : U32) {x : U32} (hx : x ≠ v.decoding.decode a) :
    (v.marked a bits).mem x = v.mem x := by
  refine store_outside fun hin => hx ?_
  rw [in_run_iff (by simp)] at hin
  obtain ⟨i, hi, rfl⟩ := hin
  obtain rfl : i = 0 := by simpa using hi
  simp

@[simp] theorem View.marked_decoding (v : View) (a bits : U32) :
    (v.marked a bits).decoding = v.decoding := rfl

/-- An entry, by its first byte and the rest. -/
theorem View.word_eq (v : View) (a : U32) :
    v.word a = (word_of 32 ((List.range 3).map fun i =>
      v.mem (v.decoding.decode (a + BitVec.ofNat 32 (i + 1))))) <<< 8 |||
        (v.mem (v.decoding.decode a)).setWidth 32 := by
  have hrange : List.range 4 = 0 :: (List.range 3).map (· + 1) := rfl
  rw [View.word, hrange, List.map_cons, word_of_cons, List.map_map]
  simp [Function.comp_def]

/-! ## Accessed and Dirty bits -/

/-- `bits` are Accessed and Dirty bits only. -/
def Marks (bits : U32) : Prop := bits &&& 0x60 = bits

theorem Marks.required (directory write : Bool) : Marks (required_bits directory write) := by
  cases directory <;> cases write <;> rfl

theorem Marks.accessed : Marks 0x20 := rfl

theorem Marks.or {bits bits' : U32} (h : Marks bits) (h' : Marks bits') :
    Marks (bits ||| bits') := by
  unfold Marks at *
  rw [BitVec.and_comm, BitVec.and_or_distrib_left, BitVec.and_comm _ bits, h,
    BitVec.and_comm _ bits', h']

/-- Bits that are no marks are not changed by setting marks. -/
theorem Marks.and_eq {bits m : U32} (h : Marks bits) (hm : 0x60 &&& m = 0) (x : U32) :
    (x ||| bits) &&& m = x &&& m := by
  rw [BitVec.and_comm, BitVec.and_or_distrib_left, BitVec.and_comm m bits, ← h, BitVec.and_assoc,
    hm]
  simp [BitVec.and_comm]

theorem Marks.bit_is_set {bits flag : U32} (h : Marks bits) (hf : 0x60 &&& flag = 0) (x : U32) :
    bit_is_set (x ||| bits) flag = bit_is_set x flag := by
  rw [Cpu.bit_is_set, h.and_eq hf, Cpu.bit_is_set]

theorem Marks.present {bits : U32} (h : Marks bits) (x : U32) :
    Cpu.bit_is_set (x ||| bits) VCPU_PGENTRY_P = Cpu.bit_is_set x VCPU_PGENTRY_P :=
  h.bit_is_set (by decide) x

theorem Marks.setWidth {bits : U32} (h : Marks bits) : (bits.setWidth 8).setWidth 32 = bits := by
  have hle : bits.toNat ≤ 0x60 := by
    rw [← h, BitVec.toNat_and]
    exact Nat.and_le_right
  refine BitVec.eq_of_toNat_eq ?_
  rw [BitVec.toNat_setWidth, BitVec.toNat_setWidth]
  omega

/-- The bits of a byte that may be marks: none, unless it begins an entry. -/
def mark_mask (x : U32) : U8 := if x.toNat % 4 = 0 then 0x60 else 0

theorem Aligned.mark_mask {x : U32} (h : Aligned x) : mark_mask x = 0x60 := if_pos h

theorem mark_mask_of_not_aligned {x : U32} (h : ¬ Aligned x) : mark_mask x = 0 := if_neg h

/-- On `T`, `v'` is `v` with Accessed and Dirty bits set and nothing else changed. -/
structure MarkedOn (T : U32 → Prop) (v v' : View) : Prop where
  decoding : v'.decoding = v.decoding
  mem : ∀ x, T x → ∃ b : U8, b &&& mark_mask x = b ∧ v'.mem x = v.mem x ||| b

theorem MarkedOn.refl (T : U32 → Prop) (v : View) : MarkedOn T v v :=
  ⟨rfl, fun _ _ => ⟨0, by simp, by simp⟩⟩

theorem MarkedOn.trans {v₁ v₂ v₃ : View} (h₁ : MarkedOn T v₁ v₂) (h₂ : MarkedOn T v₂ v₃) :
    MarkedOn T v₁ v₃ := by
  refine ⟨h₂.decoding.trans h₁.decoding, fun x hx => ?_⟩
  obtain ⟨b₁, hb₁, he₁⟩ := h₁.mem x hx
  obtain ⟨b₂, hb₂, he₂⟩ := h₂.mem x hx
  refine ⟨b₁ ||| b₂, ?_, ?_⟩
  · rw [BitVec.and_comm, BitVec.and_or_distrib_left, BitVec.and_comm _ b₁, BitVec.and_comm _ b₂,
      hb₁, hb₂]
  · rw [he₂, he₁, BitVec.or_assoc]

theorem MarkedOn.mono {T' : U32 → Prop} (h : MarkedOn T v v') (hT : ∀ x, T' x → T x) :
    MarkedOn T' v v' :=
  ⟨h.decoding, fun x hx => h.mem x (hT x hx)⟩

/-- Setting marks in an entry is setting marks. -/
theorem View.marked_on (T : U32 → Prop) (v : View) {a bits : U32} (ha : Aligned a)
    (hb : Marks bits) : MarkedOn T v (v.marked a bits) := by
  refine ⟨rfl, fun x _ => ?_⟩
  by_cases hx : x = v.decoding.decode a
  · subst hx
    refine ⟨bits.setWidth 8, ?_, v.marked_at a bits⟩
    have hset := congrArg (BitVec.setWidth 8) hb
    rw [BitVec.setWidth_and] at hset
    rw [(ha.decode v.decoding).mark_mask]
    exact hset
  · exact ⟨0, by simp, by rw [v.marked_other a bits hx]; simp⟩

/-- An entry whose memory is marked has marks set. -/
theorem MarkedOn.word (h : MarkedOn T v v') {a : U32} (ha : Aligned a) (hT : EntryIn T v a) :
    ∃ bits, Marks bits ∧ v'.word a = v.word a ||| bits := by
  have h0 : T (v.decoding.decode a) := by simpa using hT 0 (by omega)
  obtain ⟨b, hb, he⟩ := h.mem _ h0
  rw [(ha.decode v.decoding).mark_mask] at hb
  refine ⟨b.setWidth 32, ?_, ?_⟩
  · have hset := congrArg (BitVec.setWidth 32) hb
    rw [BitVec.setWidth_and] at hset
    exact hset
  · have hrest : ∀ i ∈ List.range 3, v'.mem (v.decoding.decode (a + BitVec.ofNat 32 (i + 1))) =
        v.mem (v.decoding.decode (a + BitVec.ofNat 32 (i + 1))) := by
      intro i hi
      have hi3 := List.mem_range.mp hi
      obtain ⟨b', hb', he'⟩ := h.mem _ (hT (i + 1) (by omega))
      have hno : ¬ Aligned (v.decoding.decode (a + BitVec.ofNat 32 (i + 1))) := by
        rw [ha.decode_add v.decoding (by omega)]
        exact (ha.decode v.decoding).not_aligned_add (by omega) (by omega)
      rw [mark_mask_of_not_aligned hno] at hb'
      rw [he', ← hb']
      simp
    rw [View.word_eq, View.word_eq, h.decoding, he, List.map_congr_left hrest, BitVec.setWidth_or,
      BitVec.or_assoc]

theorem View.word_marked (v : View) {a bits : U32} (ha : Aligned a) (hb : Marks bits) :
    (v.marked a bits).word a = v.word a ||| bits := by
  have hrest : ∀ i ∈ List.range 3,
      (v.marked a bits).mem (v.decoding.decode (a + BitVec.ofNat 32 (i + 1))) =
        v.mem (v.decoding.decode (a + BitVec.ofNat 32 (i + 1))) := by
    intro i hi
    have hi3 := List.mem_range.mp hi
    refine v.marked_other a bits fun he => ?_
    refine (ha.decode v.decoding).not_aligned_add (i := i + 1) (by omega) (by omega) ?_
    rw [← ha.decode_add v.decoding (by omega), he]
    exact ha.decode v.decoding
  rw [View.word_eq, View.word_eq, View.marked_decoding, v.marked_at, List.map_congr_left hrest,
    BitVec.setWidth_or, hb.setWidth, BitVec.or_assoc]

/-- An entry may be read at its decoded address. -/
theorem View.word_decode (v : View) {a : U32} (ha : Aligned a) :
    v.word (v.decoding.decode a) = v.word a := by
  unfold View.word
  congr 1
  refine List.map_congr_left fun i hi => ?_
  have hi4 := List.mem_range.mp hi
  rw [← ha.decode_add v.decoding hi4, v.decoding.twice]

/-- Another entry, or the same by another address, after one has been marked. -/
theorem View.word_after_mark (v : View) {a a' bits : U32} (ha : Aligned a) (ha' : Aligned a')
    (hb : Marks bits) :
    ∃ b, (b = 0 ∨ b = bits) ∧ (v.marked a bits).word a' = v.word a' ||| b := by
  by_cases hd : v.decoding.decode a' = v.decoding.decode a
  · refine ⟨bits, Or.inr rfl, ?_⟩
    have hsame : ∀ w : View, w.decoding = v.decoding → w.word a' = w.word a := by
      intro w hw
      rw [← w.word_decode ha', hw, hd, ← hw, w.word_decode ha]
    rw [hsame (v.marked a bits) rfl, hsame v rfl, v.word_marked ha hb]
  · refine ⟨0, Or.inl rfl, ?_⟩
    rw [View.word, View.word, show (0 : U32) = 0#32 from rfl, BitVec.or_zero]
    congr 1
    refine List.map_congr_left fun i hi => v.marked_other a bits fun he => ?_
    have hi4 := List.mem_range.mp hi
    rw [View.marked_decoding, ha'.decode_add v.decoding hi4] at he
    by_cases h0 : i = 0
    · subst h0
      exact hd (by simpa using he)
    · refine (ha'.decode v.decoding).not_aligned_add h0 hi4 ?_
      rw [he]
      exact ha.decode v.decoding

/-- The first byte of an entry. -/
theorem View.word_low (v : View) (a : U32) :
    (v.word a).setWidth 8 = v.mem (v.decoding.decode a) := by
  rw [View.word_eq]
  refine BitVec.eq_of_getLsbD_eq fun i hi => ?_
  simp [hi]

/-- Marks that are set already. -/
theorem View.marked_of_set (v : View) {a bits : U32} (h : v.word a &&& bits = bits) :
    v.marked a bits = v := by
  have hbyte : v.mem (v.decoding.decode a) ||| bits.setWidth 8 = v.mem (v.decoding.decode a) := by
    rw [← v.word_low a, ← BitVec.setWidth_or, Bits.or_eq_of_and_eq h]
  have hmem : (v.marked a bits).mem = v.mem := by
    funext x
    by_cases hx : x = v.decoding.decode a
    · rw [hx, v.marked_at, hbyte]
    · exact v.marked_other a bits hx
  rw [View.marked, View.put] at hmem ⊢
  simp only at hmem
  rw [hmem]

/-- Writing an entry back with marks set marks it. A failed write has done so as soon as
it has stored the first byte. -/
theorem View.stored_marked (v : View) {a bits : U32} (ha : Aligned a) (hb : Marks bits) {k : Nat}
    (hk : k ≤ 4) :
    v.stored a ((bytes_of 4 (v.word a ||| bits)).take k) =
      if k = 0 then v else v.marked a bits := by
  have hlen : ((bytes_of 4 (v.word a ||| bits)).take k).length = k := by
    rw [List.length_take, bytes_of_length]
    omega
  by_cases h0 : k = 0
  · subst h0
    rfl
  rw [if_neg h0, v.stored_eq_put_decode (by have := ha.offset_add (i := 3) (by omega); omega)]
  -- the bytes written are those of the entry as marked
  have hbytes : bytes_of 4 (v.word a ||| bits) =
      (List.range 4).map fun i => (v.marked a bits).mem (v.decoding.decode a + BitVec.ofNat 32 i) := by
    rw [← v.word_marked ha hb]
    have hw := bytes_of_word_of 32 ((List.range 4).map fun i =>
      (v.marked a bits).mem (v.decoding.decode (a + BitVec.ofNat 32 i))) (by simp)
    rw [View.word, View.marked_decoding]
    rw [List.length_map, List.length_range] at hw
    rw [hw]
    refine List.map_congr_left fun i hi => ?_
    rw [ha.decode_add v.decoding (List.mem_range.mp hi)]
  simp only [View.put, View.marked, View.mk.injEq, and_true]
  funext x
  by_cases hx : InRun (v.decoding.decode a) k x
  · rw [in_run_iff (by omega)] at hx
    obtain ⟨i, hi, rfl⟩ := hx
    rw [store_at _ (by omega) (by omega), List.getElem_take]
    simp only [hbytes, List.getElem_map, List.getElem_range]
    rfl
  · rw [store_outside (by rw [hlen]; exact hx), store_outside]
    intro hin
    refine hx ?_
    unfold InRun at *
    simp only [List.length_singleton] at hin
    omega

/-! ## The walk -/

/-- The directory entry of a linear address. -/
def pde_address (cr3 linear : U32) : U32 := (cr3 &&& VCPU_PGENTRY_BASE) + linear_dir linear * 4

/-- The table entry of a linear address, from its directory entry. -/
def pte_address (pde linear : U32) : U32 := page_entry_base pde + linear_page linear * 4

def View.pde (v : View) (cr3 linear : U32) : U32 := v.word (pde_address cr3 linear)
def View.pte (v : View) (cr3 linear : U32) : U32 := v.word (pte_address (v.pde cr3 linear) linear)

theorem page_base_toNat (a : U32) : (a &&& VCPU_PGENTRY_BASE).toNat = a.toNat / 4096 * 4096 :=
  Bits.and_not_low_toNat a 0xfff 12 rfl

theorem linear_offset_toNat (linear : U32) : (linear_offset linear).toNat = linear.toNat % 4096 :=
  Bits.and_low_toNat linear 0xfff 12 rfl

/-- An entry of the page at `base` is aligned. -/
theorem aligned_entry (base index : U32) :
    Aligned ((base &&& VCPU_PGENTRY_BASE) + index * 4) := by
  have hb := base.isLt
  unfold Aligned
  rw [BitVec.toNat_add, page_base_toNat, BitVec.toNat_mul, show (4 : U32).toNat = 4 from rfl]
  omega

theorem aligned_pde (cr3 linear : U32) : Aligned (pde_address cr3 linear) :=
  aligned_entry cr3 (linear_dir linear)

theorem aligned_pte (pde linear : U32) : Aligned (pte_address pde linear) :=
  aligned_entry pde (linear_page linear)

theorem Marks.pte_address {bits : U32} (h : Marks bits) (pde linear : U32) :
    pte_address (pde ||| bits) linear = Cpu.pte_address pde linear := by
  rw [Cpu.pte_address, page_entry_base, h.and_eq (by decide), Cpu.pte_address, page_entry_base]

theorem Marks.page_denied {bits : U32} (h : Marks bits) (entry : U32) (write user wp : Bool) :
    page_denied (entry ||| bits) write user wp = Cpu.page_denied entry write user wp := by
  rw [Cpu.page_denied, h.bit_is_set (by decide), h.bit_is_set (by decide), Cpu.page_denied]

/-- The attributes without the Dirty bit. -/
def clean (attributes : U32) : U32 := attributes &&& 0x1e

theorem Marks.page_attributes {bits bits' : U32} (h : Marks bits) (h' : Marks bits')
    (pde pte : U32) : clean (page_attributes (pde ||| bits) (pte ||| bits')) =
      clean (Cpu.page_attributes pde pte) := by
  have hsplit : ∀ x y : U32, clean (Cpu.page_attributes x y) =
      (y &&& 0x18) ||| ((x &&& 0x06) &&& (y &&& 0x06)) := by
    intro x y
    unfold clean Cpu.page_attributes
    refine BitVec.eq_of_getLsbD_eq fun i hi => ?_
    simp only [BitVec.getLsbD_and, BitVec.getLsbD_or]
    have hmask : ∀ j < 32, (0x58 : U32).getLsbD j = ((0x18 : U32).getLsbD j || (j == 6)) ∧
        (0x1e : U32).getLsbD j = ((0x18 : U32).getLsbD j || (0x06 : U32).getLsbD j) ∧
        ((0x18 : U32).getLsbD j && (0x06 : U32).getLsbD j) = false ∧
        ((j == 6) && ((0x18 : U32).getLsbD j || (0x06 : U32).getLsbD j)) = false := by
      decide
    obtain ⟨h1, h2, h3, h4⟩ := hmask i hi
    rw [h1, h2]
    revert h3 h4
    cases x.getLsbD i <;> cases y.getLsbD i <;> cases (0x18 : U32).getLsbD i <;>
      cases (0x06 : U32).getLsbD i <;> cases (i == 6) <;> simp
  rw [hsplit, hsplit, h.and_eq (by decide), h'.and_eq (by decide), h'.and_eq (by decide)]

/-- The two-level walk for an access to `linear`: the page it reaches, or the error code of
the page fault it raises. -/
def View.walk (v : View) (cr3 linear : U32) (write user wp : Bool) : Except U32 Page :=
  let pde := v.pde cr3 linear
  let pte := v.pte cr3 linear
  if bit_is_set pde VCPU_PGENTRY_P = false then
    .error (make_page_fault_error_code false write user)
  else if page_denied pde write user wp = true then
    .error (make_page_fault_error_code true write user)
  else if bit_is_set pte VCPU_PGENTRY_P = false then
    .error (make_page_fault_error_code false write user)
  else if page_denied pte write user wp = true then
    .error (make_page_fault_error_code true write user)
  else .ok ⟨page_entry_base pte + linear_offset linear, clean (page_attributes pde pte)⟩

section Walk

variable {cr3 linear : U32} {write user wp : Bool}

theorem View.walk_absent (hp : bit_is_set (v.pde cr3 linear) VCPU_PGENTRY_P = false) :
    v.walk cr3 linear write user wp = .error (make_page_fault_error_code false write user) := by
  simp [View.walk, hp]

theorem View.walk_denied (hp : bit_is_set (v.pde cr3 linear) VCPU_PGENTRY_P = true)
    (hd : page_denied (v.pde cr3 linear) write user wp = true) :
    v.walk cr3 linear write user wp = .error (make_page_fault_error_code true write user) := by
  simp [View.walk, hp, hd]

theorem View.walk_table_absent (hp : bit_is_set (v.pde cr3 linear) VCPU_PGENTRY_P = true)
    (hd : page_denied (v.pde cr3 linear) write user wp = false)
    (hp' : bit_is_set (v.pte cr3 linear) VCPU_PGENTRY_P = false) :
    v.walk cr3 linear write user wp = .error (make_page_fault_error_code false write user) := by
  simp [View.walk, hp, hd, hp']

theorem View.walk_table_denied (hp : bit_is_set (v.pde cr3 linear) VCPU_PGENTRY_P = true)
    (hd : page_denied (v.pde cr3 linear) write user wp = false)
    (hp' : bit_is_set (v.pte cr3 linear) VCPU_PGENTRY_P = true)
    (hd' : page_denied (v.pte cr3 linear) write user wp = true) :
    v.walk cr3 linear write user wp = .error (make_page_fault_error_code true write user) := by
  simp [View.walk, hp, hd, hp', hd']

theorem View.walk_allowed (hp : bit_is_set (v.pde cr3 linear) VCPU_PGENTRY_P = true)
    (hd : page_denied (v.pde cr3 linear) write user wp = false)
    (hp' : bit_is_set (v.pte cr3 linear) VCPU_PGENTRY_P = true)
    (hd' : page_denied (v.pte cr3 linear) write user wp = false) :
    v.walk cr3 linear write user wp = .ok ⟨page_entry_base (v.pte cr3 linear) +
      linear_offset linear, clean (page_attributes (v.pde cr3 linear) (v.pte cr3 linear))⟩ := by
  simp [View.walk, hp, hd, hp', hd']

/-- A walk that succeeds has found both entries present and allowing the access. -/
theorem View.walk_ok {page : Page} (h : v.walk cr3 linear write user wp = .ok page) :
    bit_is_set (v.pde cr3 linear) VCPU_PGENTRY_P = true ∧
    page_denied (v.pde cr3 linear) write user wp = false ∧
    bit_is_set (v.pte cr3 linear) VCPU_PGENTRY_P = true ∧
    page_denied (v.pte cr3 linear) write user wp = false ∧
    page = ⟨page_entry_base (v.pte cr3 linear) + linear_offset linear,
      clean (page_attributes (v.pde cr3 linear) (v.pte cr3 linear))⟩ := by
  unfold View.walk at h
  simp only at h
  split at h
  · cases h
  split at h
  · cases h
  split at h
  · cases h
  split at h
  · cases h
  rename_i h1 h2 h3 h4
  cases h
  exact ⟨by simpa using h1, by simpa using h2, by simpa using h3, by simpa using h4, rfl⟩

end Walk

/-- `T` has the page directory at `cr3` and every table it points to. -/
structure TablesIn (T : U32 → Prop) (v : View) (cr3 : U32) : Prop where
  directory : ∀ linear, EntryIn T v (pde_address cr3 linear)
  table : ∀ linear, bit_is_set (v.pde cr3 linear) VCPU_PGENTRY_P = true →
    EntryIn T v (pte_address (v.pde cr3 linear) linear)

theorem TablesIn.all (v : View) (cr3 : U32) : TablesIn (fun _ => True) v cr3 :=
  ⟨fun _ _ _ => trivial, fun _ _ _ _ => trivial⟩

section Marked

variable {cr3 : U32}

/-- The directory entries of marked tables. -/
theorem MarkedOn.pde (h : MarkedOn T v v') (ht : TablesIn T v cr3) (linear : U32) :
    ∃ bits, Marks bits ∧ v'.pde cr3 linear = v.pde cr3 linear ||| bits :=
  h.word (aligned_pde cr3 linear) (ht.directory linear)

/-- The table entries of marked tables. -/
theorem MarkedOn.pte (h : MarkedOn T v v') (ht : TablesIn T v cr3) (linear : U32)
    (hp : bit_is_set (v.pde cr3 linear) VCPU_PGENTRY_P = true) :
    ∃ bits, Marks bits ∧ v'.pte cr3 linear = v.pte cr3 linear ||| bits := by
  obtain ⟨bits, hb, he⟩ := h.pde ht linear
  rw [View.pte, he, hb.pte_address]
  exact h.word (aligned_pte _ linear) (ht.table linear hp)

/-- **The walk does not depend on Accessed and Dirty bits.** -/
theorem MarkedOn.walk (h : MarkedOn T v v') (ht : TablesIn T v cr3) (linear : U32)
    (write user wp : Bool) :
    v'.walk cr3 linear write user wp = v.walk cr3 linear write user wp := by
  obtain ⟨b₁, hb₁, hpde⟩ := h.pde ht linear
  unfold View.walk
  simp only [hpde, hb₁.present, hb₁.page_denied]
  cases hp : bit_is_set (v.pde cr3 linear) VCPU_PGENTRY_P with
  | false => simp
  | true =>
    obtain ⟨b₂, hb₂, hpte⟩ := h.pte ht linear hp
    simp only [hpte, hb₂.present, hb₂.page_denied,
      hb₁.page_attributes hb₂, page_entry_base, hb₂.and_eq (m := VCPU_PGENTRY_BASE) (by decide)]

theorem MarkedOn.tables (h : MarkedOn T v v') (ht : TablesIn T v cr3) : TablesIn T v' cr3 := by
  have hin : ∀ a, EntryIn T v a → EntryIn T v' a := by
    intro a ha i hi
    rw [h.decoding]
    exact ha i hi
  refine ⟨fun linear => hin _ (ht.directory linear), fun linear hp => ?_⟩
  obtain ⟨b, hb, hpde⟩ := h.pde ht linear
  rw [hpde, hb.bit_is_set (by decide)] at hp
  rw [hpde, hb.pte_address]
  exact hin _ (ht.table linear hp)

end Marked

end Nxvm.Cpu
