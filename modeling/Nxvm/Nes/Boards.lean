/-
The invariant of a cartridge, and that no access leaves its array.

What the image fixes for good (the board, its sizes, the ROM) is told by comparing
with the cartridge as it was created. What may change is kept in range register by
register; the derived offsets of the MMC3 are always the ones its registers spell.
From these, every index a read or a write computes is inside, and every write
leaves a cartridge with the same properties.
-/
import Mathlib.Data.BitVec
import Mathlib.Tactic.Common
import Nxvm.Lib.Bits
import Nxvm.Nes.Cartridge

set_option autoImplicit false

namespace Nxvm.Nes

open Nxvm.Lib Nxvm.Lib.Bits

/-! ## The admitted boards -/

/-- The sizes `core_cartridge_profile_select` admits for each mapper, as they end up in the
cartridge: pattern memory of a board without pattern ROM is one bank. -/
def AdmittedBoard (mapper : U8) (prg_bytes chr_bytes : ℕ) : Prop :=
  (mapper = 0 ∧ (prg_bytes = 16384 ∨ prg_bytes = 32768) ∧ chr_bytes = 8192) ∨
  (mapper = 1 ∧ prg_bytes = 32768 ∧ chr_bytes = 32768) ∨
  (mapper = 2 ∧ prg_bytes = 131072 ∧ chr_bytes = 8192) ∨
  (mapper = 3 ∧ prg_bytes = 32768 ∧ ∃ n, 1 ≤ n ∧ n ≤ 4 ∧ chr_bytes = n * 8192) ∨
  (mapper = 4 ∧ (∃ n, 2 ≤ n ∧ n ≤ 32 ∧ prg_bytes = n * 16384) ∧
    ∃ n, 1 ≤ n ∧ n ≤ 32 ∧ chr_bytes = n * 8192)

/-- What the readers of a stored cartridge accept of its registers. -/
structure Cartridge.InRange {β : Type} (c : Cartridge β) : Prop where
  mirroring : c.mirroring.toNat ≤ 3
  shift_count : c.mmc1_shift_count.toNat ≤ 4
  shift_data : c.mmc1_shift_data.toNat < 2 ^ c.mmc1_shift_count.toNat
  control : c.mmc1_control.toNat ≤ 31
  chr_bank0 : c.mmc1_chr_bank0.toNat ≤ 31
  chr_bank1 : c.mmc1_chr_bank1.toNat ≤ 31
  prg_bank : c.mmc1_prg_bank.toNat ≤ 31
  cnrom : c.mapper = 3 → c.cnrom_chr_bank.toNat < c.chr_bytes / 8192

/-- `c` is the board `origin` is: what no access changes. -/
structure Cartridge.SameBoard (c origin : Cartridge Bytes) : Prop where
  prg : c.prg = origin.prg
  chr : origin.chr_ram = false → c.chr = origin.chr
  prg_bytes : c.prg_bytes = origin.prg_bytes
  chr_bytes : c.chr_bytes = origin.chr_bytes
  mapper : c.mapper = origin.mapper
  content_identity : c.content_identity = origin.content_identity
  battery_backed : c.battery_backed = origin.battery_backed
  chr_ram : c.chr_ram = origin.chr_ram

/-- The invariant of a cartridge created as `origin`. -/
structure Cartridge.Valid (c origin : Cartridge Bytes) : Prop where
  same : c.SameBoard origin
  board : AdmittedBoard c.mapper c.prg_bytes c.chr_bytes
  prg : c.prg.length = c.prg_bytes
  chr : c.chr.length = c.chr_bytes
  chr_ram : c.chr_ram = true → c.chr_bytes = 8192
  prg_ram : c.mapper = 4 → ∃ prg_ram, c.prg_ram = some prg_ram ∧ prg_ram.length = 8192
  no_prg_ram : c.mapper ≠ 4 → c.prg_ram = none
  battery : c.battery_backed = true → c.mapper = 4
  registers : c.InRange
  mapping : core_cartridge_rebuild_mapping c = some c
  unmapped : c.mapper ≠ 4 →
    c.mmc3_prg_offsets = Table.fill 0 ∧ c.mmc3_chr_offsets = Table.fill 0

namespace AdmittedBoard

variable {mapper : U8} {prg_bytes chr_bytes : ℕ}

theorem chr_pos (h : AdmittedBoard mapper prg_bytes chr_bytes) : 8192 ≤ chr_bytes := by
  unfold AdmittedBoard at h
  omega

theorem prg_pos (h : AdmittedBoard mapper prg_bytes chr_bytes) : 16384 ≤ prg_bytes := by
  unfold AdmittedBoard at h
  omega

theorem prg_le (h : AdmittedBoard mapper prg_bytes chr_bytes) : prg_bytes ≤ 524288 := by
  unfold AdmittedBoard at h
  omega

theorem chr_le (h : AdmittedBoard mapper prg_bytes chr_bytes) : chr_bytes ≤ 262144 := by
  unfold AdmittedBoard at h
  omega

theorem nrom (h : AdmittedBoard mapper prg_bytes chr_bytes) (hm : mapper = 0) :
    prg_bytes = 16384 ∨ prg_bytes = 32768 := by
  subst hm
  simp [AdmittedBoard] at h
  omega

theorem uxrom (h : AdmittedBoard mapper prg_bytes chr_bytes) (hm : mapper = 2) :
    prg_bytes = 131072 := by
  subst hm
  simp [AdmittedBoard] at h
  omega

theorem cnrom (h : AdmittedBoard mapper prg_bytes chr_bytes) (hm : mapper = 3) :
    prg_bytes = 32768 ∧ ∃ n, 1 ≤ n ∧ n ≤ 4 ∧ chr_bytes = n * 8192 := by
  subst hm
  simpa [AdmittedBoard] using h

theorem mmc3 (h : AdmittedBoard mapper prg_bytes chr_bytes) (hm : mapper = 4) :
    (∃ n, 2 ≤ n ∧ n ≤ 32 ∧ prg_bytes = n * 16384) ∧
      ∃ n, 1 ≤ n ∧ n ≤ 32 ∧ chr_bytes = n * 8192 := by
  subst hm
  simpa [AdmittedBoard] using h

/-- What is none of the others is the MMC1. -/
theorem mmc1 (h : AdmittedBoard mapper prg_bytes chr_bytes) (h0 : mapper ≠ 0)
    (h2 : mapper ≠ 2) (h3 : mapper ≠ 3) (h4 : mapper ≠ 4) :
    prg_bytes = 32768 ∧ chr_bytes = 32768 := by
  simp only [AdmittedBoard, h0, h2, h3, h4, false_and, false_or, or_false] at h
  exact h.2

end AdmittedBoard

/-! ## The mapping of the MMC3 -/

section Mapping

variable {β : Type}

/-- The mapping the registers of `c` spell, whatever its sizes. -/
def mapped (c : Cartridge β) : Cartridge β :=
  let banks := BitVec.ofNat 32 (c.prg_bytes / 8192)
  let selected := (c.mmc3_bank_data 6).zeroExtend 32 % banks
  let second := (c.mmc3_bank_data 7).zeroExtend 32 % banks
  let swapped := c.mmc3_bank_select &&& 0x40 ≠ 0
  let pages := BitVec.ofNat 32 (c.chr_bytes / 1024)
  { c with
    mmc3_prg_offsets :=
      ![if swapped then (banks - 2) * 8192 else selected * 8192,
        second * 8192,
        if swapped then selected * 8192 else (banks - 2) * 8192,
        (banks - 1) * 8192]
    mmc3_chr_offsets := fun slot => (mmc3_chr_offset c pages slot).getD 0 }

/-- Which bank register a slot of the pattern space uses. -/
theorem mmc3_index_lt (select : U8) (slot : Fin 8) :
    (if (if select &&& 0x80 ≠ 0 then BitVec.ofNat 8 slot ^^^ 4 else BitVec.ofNat 8 slot) < 4
      then (if select &&& 0x80 ≠ 0 then BitVec.ofNat 8 slot ^^^ 4
        else BitVec.ofNat 8 slot) >>> 1
      else (if select &&& 0x80 ≠ 0 then BitVec.ofNat 8 slot ^^^ 4
        else BitVec.ofNat 8 slot) - 2 : U8).toNat < 8 := by
  by_cases h : select &&& 0x80 ≠ 0
  · simp only [if_pos h]
    revert slot
    decide
  · simp only [if_neg h]
    revert slot
    decide

/-- One slot maps to a whole page inside the pattern memory. -/
theorem mmc3_chr_offset_of_pos (c : Cartridge β) (pages : U32) (slot : Fin 8)
    (hpos : 0 < pages.toNat) (hle : pages.toNat ≤ 256) :
    ∃ offset, mmc3_chr_offset c pages slot = some offset ∧
      offset.toNat + 1024 ≤ pages.toNat * 1024 := by
  have hpages : pages ≠ 0 := by
    rintro rfl
    simp at hpos
  simp only [mmc3_chr_offset]
  rw [Table.read_of_lt _ (mmc3_index_lt c.mmc3_bank_select slot)]
  simp only [Option.bind_eq_bind, Option.bind_some, modulo, if_neg hpages, Option.pure_def]
  refine ⟨_, rfl, ?_⟩
  generalize hx : BitVec.zeroExtend 32 _ = x
  have hlt : x.toNat % pages.toNat < pages.toNat := Nat.mod_lt _ hpos
  rw [BitVec.toNat_mul, BitVec.toNat_umod, Nat.mod_eq_of_lt]
  · show x.toNat % pages.toNat * 1024 + 1024 ≤ _
    omega
  · show x.toNat % pages.toNat * 1024 < 2 ^ 32
    omega

theorem pages_toNat {chr_bytes : ℕ} (h : chr_bytes ≤ 262144) :
    (BitVec.ofNat 32 (chr_bytes / 1024)).toNat = chr_bytes / 1024 := by
  rw [BitVec.toNat_ofNat]
  exact Nat.mod_eq_of_lt (by omega)

theorem banks_toNat {prg_bytes : ℕ} (h : prg_bytes ≤ 524288) :
    (BitVec.ofNat 32 (prg_bytes / 8192)).toNat = prg_bytes / 8192 := by
  rw [BitVec.toNat_ofNat]
  exact Nat.mod_eq_of_lt (by omega)

/-- On an admitted board no division of the mapping is by zero. -/
theorem rebuild_mapping_eq (c : Cartridge β) (hm : c.mapper = 4)
    (hb : AdmittedBoard c.mapper c.prg_bytes c.chr_bytes) :
    core_cartridge_rebuild_mapping c = some (mapped c) := by
  obtain ⟨⟨n, hn2, hn32, hprg⟩, k, hk1, hk32, hchr⟩ := hb.mmc3 hm
  have hbanks : BitVec.ofNat 32 (c.prg_bytes / 8192) ≠ 0 := by
    intro h
    have h0 := congrArg BitVec.toNat h
    rw [banks_toNat (by omega)] at h0
    simp at h0
    omega
  have hpages : (BitVec.ofNat 32 (c.chr_bytes / 1024)).toNat = c.chr_bytes / 1024 :=
    pages_toNat (by omega)
  have hoffsets : ∀ slot, mmc3_chr_offset c (BitVec.ofNat 32 (c.chr_bytes / 1024)) slot =
      some ((mapped c).mmc3_chr_offsets slot) := by
    intro slot
    obtain ⟨offset, ho, -⟩ := mmc3_chr_offset_of_pos c
      (BitVec.ofNat 32 (c.chr_bytes / 1024)) slot (by omega) (by omega)
    simp only [mapped, ho, Option.getD_some]
  have hmapper : ¬ c.mapper ≠ 4 := fun h => h hm
  simp only [core_cartridge_rebuild_mapping, if_neg hmapper, modulo, if_neg hbanks,
    Option.bind_eq_bind, Option.bind_some, Table.build_of_forall hoffsets]
  rfl

theorem rebuild_mapping_other (c : Cartridge β) (hm : c.mapper ≠ 4) :
    core_cartridge_rebuild_mapping c = some c := by
  rw [core_cartridge_rebuild_mapping, if_pos hm]

/-- The mapping only depends on registers it does not change. -/
theorem rebuild_mapping_mapped (c : Cartridge β) (hm : c.mapper = 4)
    (hb : AdmittedBoard c.mapper c.prg_bytes c.chr_bytes) :
    core_cartridge_rebuild_mapping (mapped c) = some (mapped c) :=
  rebuild_mapping_eq (mapped c) hm hb

/-- A cartridge whose mapping is up to date has the mapping its registers spell. -/
theorem mapped_of_mapping {c : Cartridge β} (hm : c.mapper = 4)
    (hb : AdmittedBoard c.mapper c.prg_bytes c.chr_bytes)
    (h : core_cartridge_rebuild_mapping c = some c) : mapped c = c := by
  rw [rebuild_mapping_eq c hm hb] at h
  exact Option.some.inj h

/-- Every program slot maps to a whole bank inside the ROM. -/
theorem mapped_prg_offset_le (c : Cartridge β) (hm : c.mapper = 4)
    (hb : AdmittedBoard c.mapper c.prg_bytes c.chr_bytes) (slot : Fin 4) :
    ((mapped c).mmc3_prg_offsets slot).toNat + 8192 ≤ c.prg_bytes := by
  obtain ⟨⟨n, hn2, hn32, hprg⟩, -⟩ := hb.mmc3 hm
  have hbanks : (BitVec.ofNat 32 (c.prg_bytes / 8192)).toNat = c.prg_bytes / 8192 :=
    banks_toNat (by omega)
  simp only [mapped]
  generalize BitVec.ofNat 32 (c.prg_bytes / 8192) = banks at hbanks
  have hpos : 4 ≤ banks.toNat ∧ banks.toNat ≤ 64 := by omega
  have hmul : ∀ x : U32, x.toNat < banks.toNat → (x * 8192).toNat + 8192 ≤ c.prg_bytes := by
    intro x hx
    rw [BitVec.toNat_mul, Nat.mod_eq_of_lt]
    · show x.toNat * 8192 + 8192 ≤ _
      omega
    · show x.toNat * 8192 < 2 ^ 32
      omega
  have hmod : ∀ x : U32, (x % banks).toNat < banks.toNat := by
    intro x
    rw [BitVec.toNat_umod]
    exact Nat.mod_lt _ (by omega)
  have hsub : ∀ k : U32, 0 < k.toNat → k.toNat ≤ 2 → (banks - k).toNat < banks.toNat := by
    intro k hk hk2
    rw [BitVec.toNat_sub_of_le (by rw [BitVec.le_def]; omega)]
    omega
  have h1 := hsub 1 (by decide) (by decide)
  have h2 := hsub 2 (by decide) (by decide)
  match slot with
  | 0 =>
    show (if _ then _ else _ : U32).toNat + 8192 ≤ _
    split
    · exact hmul _ h2
    · exact hmul _ (hmod _)
  | 1 => exact hmul _ (hmod _)
  | 2 =>
    show (if _ then _ else _ : U32).toNat + 8192 ≤ _
    split
    · exact hmul _ (hmod _)
    · exact hmul _ h2
  | 3 => exact hmul _ h1

/-- Every pattern slot maps to a whole page inside the pattern memory. -/
theorem mapped_chr_offset_le (c : Cartridge β) (hm : c.mapper = 4)
    (hb : AdmittedBoard c.mapper c.prg_bytes c.chr_bytes) (slot : Fin 8) :
    ((mapped c).mmc3_chr_offsets slot).toNat + 1024 ≤ c.chr_bytes := by
  obtain ⟨-, k, hk1, hk32, hchr⟩ := hb.mmc3 hm
  have hpages : (BitVec.ofNat 32 (c.chr_bytes / 1024)).toNat = c.chr_bytes / 1024 :=
    pages_toNat (by omega)
  obtain ⟨offset, ho, hle⟩ := mmc3_chr_offset_of_pos c
    (BitVec.ofNat 32 (c.chr_bytes / 1024)) slot (by omega) (by omega)
  simp only [mapped, ho, Option.getD_some]
  omega

end Mapping

/-! ## Creation -/

theorem Cartridge.SameBoard.refl (c : Cartridge Bytes) : c.SameBoard c :=
  ⟨rfl, fun _ => rfl, rfl, rfl, rfl, rfl, rfl, rfl⟩

/-- The size of the pattern memory in terms of the header's bank count. -/
theorem chr_size_cases (chr_banks : U8) :
    (chr_banks.toNat = 0 ∧ (if chr_banks == 0 then 8192 else chr_banks.toNat * 8192) = 8192) ∨
    (1 ≤ chr_banks.toNat ∧
      (if chr_banks == 0 then 8192 else chr_banks.toNat * 8192) = chr_banks.toNat * 8192) := by
  by_cases h : chr_banks = 0
  · subst h
    exact Or.inl ⟨rfl, rfl⟩
  · right
    rw [if_neg (by simpa using h)]
    exact ⟨by bv_omega, rfl⟩

/-- The header checks let only admitted boards through. -/
theorem profile_admits_board {image : Bytes} {mapper : U8}
    (h : profile_admits image mapper = true) :
    AdmittedBoard mapper ((header image 4).toNat * 16384)
      (if header image 5 == 0 then 8192 else (header image 5).toNat * 8192) := by
  unfold profile_admits at h
  unfold AdmittedBoard
  generalize header image 4 = prg_banks at h ⊢
  generalize header image 5 = chr_banks at h ⊢
  have hsize := chr_size_cases chr_banks
  generalize (if chr_banks == 0 then 8192 else chr_banks.toNat * 8192) = chr_bytes at hsize ⊢
  split at h
  · simp at h
    bv_omega
  split at h
  · simp at h
    bv_omega
  split at h
  · simp at h
    bv_omega
  split at h
  · simp at h
    exact Or.inr (Or.inr (Or.inr (Or.inl ⟨‹_›, by bv_omega, chr_banks.toNat, by bv_omega,
      by bv_omega, by bv_omega⟩)))
  split at h
  · simp at h
    refine Or.inr (Or.inr (Or.inr (Or.inr ⟨‹_›, ⟨prg_banks.toNat, ?_⟩, ?_⟩)))
    · exact ⟨by bv_omega, by bv_omega, rfl⟩
    · rcases hsize with ⟨-, hs⟩ | ⟨h1, hs⟩
      · exact ⟨1, by omega, by omega, by omega⟩
      · exact ⟨chr_banks.toNat, h1, by bv_omega, hs⟩
  · simp at h

/-- What the descriptor says of an image it was made from. -/
structure CartridgeDescriptor.Describes (d : CartridgeDescriptor) (image : Bytes) : Prop where
  board : AdmittedBoard d.mapper d.prg_bytes (if d.chr_ram then 8192 else d.chr_bytes)
  mirroring : d.mirroring.toNat ≤ 3
  battery : d.battery_backed = true → d.mapper = 4
  length : 16 + d.prg_bytes + d.chr_bytes = image.length

theorem descriptor_create_describes {image : Bytes} {d : CartridgeDescriptor}
    (h : core_cartridge_descriptor_create image = some d) : d.Describes image := by
  unfold core_cartridge_descriptor_create at h
  dsimp only at h
  generalize (header image 6 >>> 4 ||| header image 7 &&& 0xf0) = mapper at h
  iterate 5 replace h := (ite_eq_iff.mp h).resolve_left (by simp)|>.2
  cases hs : core_cartridge_profile_select image mapper with
  | none => simp [hs] at h
  | some base =>
    simp only [hs] at h
    by_cases hbat : header image 6 &&& 2 ≠ 0 ∧ (mapper ≠ 4 ∨ header image 8 ≠ 1)
    · rw [if_pos hbat] at h
      simp at h
    rw [if_neg hbat] at h
    replace h := ((ite_eq_iff.mp h).resolve_left (by simp)).2
    by_cases hlen : 16 + base.prg_bytes + base.chr_bytes = image.length
    swap
    · rw [if_neg hlen] at h
      simp at h
    rw [if_pos hlen] at h
    obtain rfl := Option.some.inj h
    unfold core_cartridge_profile_select at hs
    by_cases ha : profile_admits image mapper = true
    swap
    · simp [ha] at hs
    rw [if_neg (by simp [ha])] at hs
    obtain rfl := Option.some.inj hs
    refine ⟨profile_admits_board ha, ?_, ?_, hlen⟩
    · dsimp only
      split <;> decide
    · intro hb
      have hbit : header image 6 &&& 2 ≠ 0 := by simpa using hb
      by_contra hm
      exact hbat ⟨hbit, Or.inl hm⟩

/-- The cartridge filled in from an image it describes can be mapped, and has every
invariant then. -/
theorem rebuild_unmapped_cartridge {image : Bytes} {d : CartridgeDescriptor}
    (h : d.Describes image) :
    ∃ c, core_cartridge_rebuild_mapping (unmapped_cartridge image d) = some c ∧ c.Valid c := by
  have hlen := h.length
  have hboard : AdmittedBoard (unmapped_cartridge image d).mapper
      (unmapped_cartridge image d).prg_bytes (unmapped_cartridge image d).chr_bytes := h.board
  have hprg : (unmapped_cartridge image d).prg.length = d.prg_bytes := by
    simp only [unmapped_cartridge, List.length_take, List.length_drop]
    omega
  have hchr : (unmapped_cartridge image d).chr.length =
      (unmapped_cartridge image d).chr_bytes := by
    simp only [unmapped_cartridge]
    split
    · rw [List.length_replicate]
    · rw [List.length_take, List.length_drop]
      omega
  have hregisters : (unmapped_cartridge image d).InRange := by
    have hzero : (0 : U8).toNat ≤ 31 := by decide
    refine ⟨h.mirroring, (by decide : (0 : U8).toNat ≤ 4), (by decide : (0 : U8).toNat < 2 ^ 0),
      (by decide : (0x0c : U8).toNat ≤ 31), hzero, hzero, hzero, ?_⟩
    intro _
    have hpos := hboard.chr_pos
    show 0 < (unmapped_cartridge image d).chr_bytes / 8192
    omega
  by_cases hm : d.mapper = 4
  · refine ⟨_, rebuild_mapping_eq _ hm hboard, ?_⟩
    refine ⟨.refl _, hboard, hprg, hchr, ?_, ?_, ?_, h.battery, ?_,
      rebuild_mapping_mapped _ hm hboard, fun h4 => absurd hm h4⟩
    · intro hram
      exact if_pos hram
    · intro _
      exact ⟨List.replicate 8192 0, if_pos hm, List.length_replicate⟩
    · intro h4
      exact absurd hm h4
    · exact ⟨hregisters.1, hregisters.2, hregisters.3, hregisters.4, hregisters.5,
        hregisters.6, hregisters.7, hregisters.8⟩
  · refine ⟨_, rebuild_mapping_other _ hm, ?_⟩
    refine ⟨.refl _, hboard, hprg, hchr, ?_, ?_, ?_, h.battery, hregisters,
      rebuild_mapping_other _ hm, fun _ => ⟨rfl, rfl⟩⟩
    · intro hram
      exact if_pos hram
    · intro h4
      exact absurd h4 hm
    · intro _
      exact if_neg hm

/-- **Creation.** An accepted image gives a cartridge with every invariant. -/
theorem cartridge_create_valid {image : Bytes} {c : Cartridge Bytes}
    (h : core_cartridge_create image = .ok c) : c.Valid c := by
  unfold core_cartridge_create at h
  cases hd : core_cartridge_descriptor_create image with
  | none => simp [hd] at h
  | some d =>
    simp only [hd] at h
    have hdesc := descriptor_create_describes hd
    obtain ⟨c', hc'⟩ := rebuild_unmapped_cartridge hdesc
    rw [hc'.1] at h
    injection h with h
    exact h ▸ hc'.2

/-! ## The processor's side -/

section Accesses

variable {origin c : Cartridge Bytes}

theorem Cartridge.Valid.prg_read (h : c.Valid origin) {i : ℕ} (hi : i < c.prg_bytes) :
    (c.prg[i]?).isSome := by
  rw [← h.prg] at hi
  simp [hi]

theorem Cartridge.Valid.chr_read (h : c.Valid origin) {i : ℕ} (hi : i < c.chr_bytes) :
    (c.chr[i]?).isSome := by
  rw [← h.chr] at hi
  simp [hi]

/-- **Every program read is inside its array**, whatever the registers hold. -/
theorem cpu_read_in_bounds (h : c.Valid origin) (address : U16) :
    (core_cartridge_cpu_read c address).isSome := by
  have ha := address.isLt
  have hlow : (address &&& 0x3fff).toNat ≤ 0x3fff := and_toNat_le address 0x3fff
  have hslot : (address &&& 0x1fff).toNat ≤ 0x1fff := and_toNat_le address 0x1fff
  have hbit : ∀ x : U8, (x &&& 1).toNat ≤ 1 := fun x => and_toNat_le x 1
  unfold core_cartridge_cpu_read
  dsimp only
  by_cases hwork : c.mapper = 4 ∧ 0x6000 ≤ address.toNat ∧ address.toNat < 0x8000
  · rw [if_pos hwork]
    obtain ⟨prg_ram, hram, hlen⟩ := h.prg_ram hwork.1
    by_cases hen : c.mmc3_prg_ram_enabled = true
    · have hin : (address &&& 0x1fff).toNat < prg_ram.length := by
        rw [hlen]
        omega
      rw [if_pos hen, hram, Option.bind_some, List.getElem?_eq_getElem hin]
      rfl
    · rw [if_neg hen]
      rfl
  rw [if_neg hwork]
  by_cases hlt : address.toNat < 0x8000
  · rw [if_pos hlt]
    rfl
  rw [if_neg hlt]
  by_cases h0 : c.mapper = 0
  · rw [if_pos h0]
    refine h.prg_read ?_
    rcases h.board.nrom h0 with hp | hp
    · rw [if_pos hp, hp]
      exact Nat.mod_lt _ (by decide)
    · rw [if_neg (by omega), hp]
      omega
  rw [if_neg h0]
  by_cases h2 : c.mapper = 2
  · rw [if_pos h2]
    refine h.prg_read ?_
    have hbank : (c.uxrom_prg_bank &&& 7).toNat ≤ 7 := and_toNat_le c.uxrom_prg_bank 7
    rw [h.board.uxrom h2]
    split <;> omega
  rw [if_neg h2]
  by_cases h3 : c.mapper = 3
  · rw [if_pos h3]
    refine h.prg_read ?_
    rw [(h.board.cnrom h3).1]
    omega
  rw [if_neg h3]
  by_cases h4 : c.mapper = 4
  · rw [if_pos h4]
    have hsel : ((address >>> 13) &&& 3).toNat < 4 := and_toNat_lt _ _ _ (by decide)
    have hoff := mapped_prg_offset_le c h4 h.board ⟨_, hsel⟩
    rw [mapped_of_mapping h4 h.board h.mapping] at hoff
    rw [Table.read_of_lt _ hsel, Option.bind_some]
    exact h.prg_read (by omega)
  rw [if_neg h4]
  have hsize := (h.board.mmc1 h0 h2 h3 h4).1
  have hb := hbit c.mmc1_prg_bank
  split
  · refine h.prg_read ?_
    omega
  split
  · refine h.prg_read ?_
    split <;> omega
  · refine h.prg_read ?_
    split <;> omega

/-- Two cartridges that differ in nothing the memory or the mapping depends on. -/
structure Cartridge.SameStore (c' c : Cartridge Bytes) : Prop where
  prg : c'.prg = c.prg
  chr : c'.chr = c.chr
  prg_ram : c'.prg_ram = c.prg_ram
  prg_bytes : c'.prg_bytes = c.prg_bytes
  chr_bytes : c'.chr_bytes = c.chr_bytes
  mapper : c'.mapper = c.mapper
  content_identity : c'.content_identity = c.content_identity
  battery_backed : c'.battery_backed = c.battery_backed
  chr_ram : c'.chr_ram = c.chr_ram
  bank_select : c'.mmc3_bank_select = c.mmc3_bank_select
  bank_data : c'.mmc3_bank_data = c.mmc3_bank_data
  prg_offsets : c'.mmc3_prg_offsets = c.mmc3_prg_offsets
  chr_offsets : c'.mmc3_chr_offsets = c.mmc3_chr_offsets

theorem mmc3_chr_offset_congr {β : Type} {c c' : Cartridge β} (pages : U32) (slot : Fin 8)
    (hs : c'.mmc3_bank_select = c.mmc3_bank_select)
    (hd : c'.mmc3_bank_data = c.mmc3_bank_data) :
    mmc3_chr_offset c' pages slot = mmc3_chr_offset c pages slot := by
  simp only [mmc3_chr_offset, hs, hd]

/-- An up to date mapping stays up to date when nothing it depends on changes. -/
theorem rebuild_mapping_congr {c' : Cartridge Bytes}
    (hb : AdmittedBoard c.mapper c.prg_bytes c.chr_bytes)
    (hmap : core_cartridge_rebuild_mapping c = some c) (hm : c'.mapper = c.mapper)
    (hp : c'.prg_bytes = c.prg_bytes) (hr : c'.chr_bytes = c.chr_bytes)
    (hs : c'.mmc3_bank_select = c.mmc3_bank_select)
    (hd : c'.mmc3_bank_data = c.mmc3_bank_data)
    (hpo : c'.mmc3_prg_offsets = c.mmc3_prg_offsets)
    (hco : c'.mmc3_chr_offsets = c.mmc3_chr_offsets) :
    core_cartridge_rebuild_mapping c' = some c' := by
  by_cases h4 : c.mapper = 4
  swap
  · exact rebuild_mapping_other c' (by rw [hm]; exact h4)
  have hc := mapped_of_mapping h4 hb hmap
  rw [rebuild_mapping_eq c' (by rw [hm]; exact h4) (by rw [hm, hp, hr]; exact hb)]
  have hprg : (mapped c').mmc3_prg_offsets = c'.mmc3_prg_offsets := by
    rw [hpo, ← congrArg Cartridge.mmc3_prg_offsets hc]
    simp only [mapped, hp, hs, hd]
  have hchr : (mapped c').mmc3_chr_offsets = c'.mmc3_chr_offsets := by
    rw [hco, ← congrArg Cartridge.mmc3_chr_offsets hc]
    simp only [mapped, hr, mmc3_chr_offset_congr _ _ hs hd]
  have heq : mapped c' = { c' with
      mmc3_prg_offsets := (mapped c').mmc3_prg_offsets
      mmc3_chr_offsets := (mapped c').mmc3_chr_offsets } := rfl
  rw [heq, hprg, hchr]

/-- A change of registers keeps the invariant when it keeps the registers in range. -/
theorem Cartridge.Valid.registers_changed {c' : Cartridge Bytes} (h : c.Valid origin)
    (hs : c'.SameStore c) (hr : c'.InRange) : c'.Valid origin where
  same :=
    { prg := hs.prg.trans h.same.prg
      chr := fun hrom => hs.chr.trans (h.same.chr hrom)
      prg_bytes := hs.prg_bytes.trans h.same.prg_bytes
      chr_bytes := hs.chr_bytes.trans h.same.chr_bytes
      mapper := hs.mapper.trans h.same.mapper
      content_identity := hs.content_identity.trans h.same.content_identity
      battery_backed := hs.battery_backed.trans h.same.battery_backed
      chr_ram := hs.chr_ram.trans h.same.chr_ram }
  board := by rw [hs.mapper, hs.prg_bytes, hs.chr_bytes]; exact h.board
  prg := by rw [hs.prg, hs.prg_bytes]; exact h.prg
  chr := by rw [hs.chr, hs.chr_bytes]; exact h.chr
  chr_ram := by rw [hs.chr_ram, hs.chr_bytes]; exact h.chr_ram
  prg_ram := by rw [hs.mapper, hs.prg_ram]; exact h.prg_ram
  no_prg_ram := by rw [hs.mapper, hs.prg_ram]; exact h.no_prg_ram
  battery := by rw [hs.battery_backed, hs.mapper]; exact h.battery
  registers := hr
  mapping := rebuild_mapping_congr h.board h.mapping hs.mapper hs.prg_bytes hs.chr_bytes
    hs.bank_select hs.bank_data hs.prg_offsets hs.chr_offsets
  unmapped := by rw [hs.mapper, hs.prg_offsets, hs.chr_offsets]; exact h.unmapped

/-- A change of the bank registers keeps the invariant once the mapping is rebuilt. -/
theorem Cartridge.Valid.banks_changed (h : c.Valid origin) (hm : c.mapper = 4)
    (select : U8) (data : Table 8 U8) :
    ∃ c', core_cartridge_rebuild_mapping
        { c with mmc3_bank_select := select, mmc3_bank_data := data } = some c' ∧
      c'.Valid origin := by
  refine ⟨_, rebuild_mapping_eq _ hm h.board, ?_⟩
  exact
    { same := ⟨h.same.1, h.same.2, h.same.3, h.same.4, h.same.5, h.same.6, h.same.7, h.same.8⟩
      board := h.board
      prg := h.prg
      chr := h.chr
      chr_ram := h.chr_ram
      prg_ram := h.prg_ram
      no_prg_ram := h.no_prg_ram
      battery := h.battery
      registers := ⟨h.registers.1, h.registers.2, h.registers.3, h.registers.4,
        h.registers.5, h.registers.6, h.registers.7, h.registers.8⟩
      mapping := rebuild_mapping_mapped _ hm h.board
      unmapped := fun h4 => absurd hm h4 }

theorem mmc3_write_valid (h : c.Valid origin) (hm : c.mapper = 4) (address : U16) (value : U8) :
    ∃ c', mmc3_write c address value = some c' ∧ c'.Valid origin := by
  have hr := h.registers
  unfold mmc3_write
  dsimp only
  split
  · split
    · exact h.banks_changed hm value c.mmc3_bank_data
    · rw [Table.write_of_lt _ _ (and_toNat_lt _ _ _ (by decide)), Option.bind_some]
      exact h.banks_changed hm c.mmc3_bank_select _
  split
  · split
    · refine ⟨_, rfl, h.registers_changed (by constructor <;> rfl) ?_⟩
      refine ⟨?_, hr.2, hr.3, hr.4, hr.5, hr.6, hr.7, hr.8⟩
      dsimp only
      split <;> decide
    · exact ⟨_, rfl, h.registers_changed (by constructor <;> rfl)
        ⟨hr.1, hr.2, hr.3, hr.4, hr.5, hr.6, hr.7, hr.8⟩⟩
  split
  · split
    · exact ⟨_, rfl, h.registers_changed (by constructor <;> rfl)
        ⟨hr.1, hr.2, hr.3, hr.4, hr.5, hr.6, hr.7, hr.8⟩⟩
    · exact ⟨_, rfl, h.registers_changed (by constructor <;> rfl)
        ⟨hr.1, hr.2, hr.3, hr.4, hr.5, hr.6, hr.7, hr.8⟩⟩
  split
  · exact ⟨_, rfl, h.registers_changed (by constructor <;> rfl)
      ⟨hr.1, hr.2, hr.3, hr.4, hr.5, hr.6, hr.7, hr.8⟩⟩
  · exact ⟨_, rfl, h.registers_changed (by constructor <;> rfl)
      ⟨hr.1, hr.2, hr.3, hr.4, hr.5, hr.6, hr.7, hr.8⟩⟩

/-- Shifting one more bit in keeps the data below the next power of two. -/
theorem shift_data_lt (data count value : U8)
    (hd : data.toNat < 2 ^ count.toNat) :
    (data ||| ((value &&& 1) <<< count.toNat)).toNat < 2 ^ (count.toNat + 1) := by
  have hbit : (value &&& 1).toNat ≤ 1 := and_toNat_le value 1
  rw [BitVec.toNat_or]
  refine Nat.or_lt_two_pow ?_ ?_
  · exact lt_trans hd (Nat.pow_lt_pow_right (by decide) (by omega))
  · rw [BitVec.toNat_shiftLeft, Nat.shiftLeft_eq]
    refine lt_of_le_of_lt (Nat.mod_le _ _) ?_
    rw [Nat.pow_succ]
    have hpos : 0 < 2 ^ count.toNat := Nat.pow_pos (by decide)
    calc (value &&& 1).toNat * 2 ^ count.toNat ≤ 1 * 2 ^ count.toNat :=
          Nat.mul_le_mul_right _ hbit
      _ < 2 ^ count.toNat * 2 := by omega

theorem mmc1_write_valid (h : c.Valid origin) (address : U16) (value : U8) :
    (mmc1_write c address value).Valid origin := by
  have hr := h.registers
  have hdata := shift_data_lt c.mmc1_shift_data c.mmc1_shift_count value hr.shift_data
  have hzero : (0 : U8).toNat < 2 ^ 0 := by decide
  unfold mmc1_write
  dsimp only
  split
  · refine h.registers_changed (by constructor <;> rfl) ?_
    refine ⟨hr.1, Nat.zero_le _, hzero, ?_, hr.5, hr.6, hr.7, hr.8⟩
    have hor : (c.mmc1_control ||| 0x0c).toNat < 2 ^ 5 := by
      rw [BitVec.toNat_or]
      have h4 := hr.4
      exact Nat.or_lt_two_pow (by omega) (by decide)
    exact Nat.le_of_lt_succ hor
  have hcount : (c.mmc1_shift_count + 1).toNat = c.mmc1_shift_count.toNat + 1 := by
    have h2 := hr.2
    bv_omega
  split
  · rename_i hne
    have hlt : (c.mmc1_shift_count + 1).toNat ≤ 4 := by
      have h2 := hr.2
      by_contra hc
      exact hne (by bv_omega)
    refine h.registers_changed (by constructor <;> rfl) ?_
    refine ⟨hr.1, hlt, ?_, hr.4, hr.5, hr.6, hr.7, hr.8⟩
    dsimp only
    rw [hcount]
    exact hdata
  rename_i h5
  have hle : (c.mmc1_shift_data ||| ((value &&& 1) <<< c.mmc1_shift_count.toNat)).toNat ≤
      31 := by
    have h4 : c.mmc1_shift_count.toNat + 1 = 5 := by
      have h5' : c.mmc1_shift_count + 1 = 5 := by simpa using h5
      rw [← hcount, h5']
      rfl
    rw [h4] at hdata
    exact Nat.le_of_lt_succ hdata
  have hlow : ∀ x : U8, (x &&& 3).toNat ≤ 3 := fun x => and_toNat_le x 3
  split
  · exact h.registers_changed (by constructor <;> rfl)
      ⟨hlow _, Nat.zero_le _, hzero, hle, hr.5, hr.6, hr.7, hr.8⟩
  split
  · exact h.registers_changed (by constructor <;> rfl)
      ⟨hr.1, Nat.zero_le _, hzero, hr.4, hle, hr.6, hr.7, hr.8⟩
  split
  · exact h.registers_changed (by constructor <;> rfl)
      ⟨hr.1, Nat.zero_le _, hzero, hr.4, hr.5, hle, hr.7, hr.8⟩
  · exact h.registers_changed (by constructor <;> rfl)
      ⟨hr.1, Nat.zero_le _, hzero, hr.4, hr.5, hr.6, hle, hr.8⟩

theorem bank_of_pos (value : U8) {banks : ℕ} (hpos : 0 < banks) :
    ∃ bank, bank_of value banks = some bank ∧ bank.toNat < banks := by
  refine ⟨_, if_neg (by omega), ?_⟩
  rw [BitVec.toNat_ofNat]
  exact lt_of_le_of_lt (Nat.mod_le _ _) (Nat.mod_lt _ hpos)

/-- The work memory of a board that has one may hold any bytes. -/
theorem Cartridge.Valid.work_ram_changed (h : c.Valid origin) (hm : c.mapper = 4)
    {prg_ram : Bytes} (hlen : prg_ram.length = 8192) (dirty : Bool) :
    Cartridge.Valid { c with prg_ram := some prg_ram, prg_ram_dirty := dirty } origin := by
  have hr := h.registers
  refine ⟨?_, h.board, h.prg, h.chr, h.chr_ram, ?_, ?_, h.battery, ?_, ?_, h.unmapped⟩
  · exact ⟨h.same.1, h.same.2, h.same.3, h.same.4, h.same.5, h.same.6, h.same.7, h.same.8⟩
  · intro _
    exact ⟨prg_ram, rfl, hlen⟩
  · intro h4
    exact absurd hm h4
  · exact ⟨hr.1, hr.2, hr.3, hr.4, hr.5, hr.6, hr.7, hr.8⟩
  · exact rebuild_mapping_congr h.board h.mapping rfl rfl rfl rfl rfl rfl rfl

/-- **Every program write is inside its array, divides by no zero and keeps the invariant**;
from `0x8000` up the cartridge takes it. -/
theorem cpu_write_valid (h : c.Valid origin) (address : U16) (value : U8) :
    ∃ taken c', core_cartridge_cpu_write c address value = some (taken, c') ∧
      c'.Valid origin ∧ (0x8000 ≤ address.toNat → taken = true) := by
  have hr := h.registers
  unfold core_cartridge_cpu_write
  dsimp only
  by_cases hwork : c.mapper = 4 ∧ 0x6000 ≤ address.toNat ∧ address.toNat < 0x8000
  · rw [if_pos hwork]
    obtain ⟨prg_ram, hram, hlen⟩ := h.prg_ram hwork.1
    have hin : (address &&& 0x1fff).toNat < prg_ram.length := by
      rw [hlen]
      exact and_toNat_lt _ _ _ (by decide)
    split
    · rw [hram]
      simp only [Option.bind_eq_bind, Option.bind_some, Buffer.write_of_lt _ _ hin]
      have hlen' : (prg_ram.set (address &&& 0x1fff).toNat value).length = 8192 := by
        rw [List.length_set, hlen]
      exact ⟨_, _, rfl, h.work_ram_changed hwork.1 hlen' _, fun hge => absurd hge (by omega)⟩
    · exact ⟨_, _, rfl, h, fun hge => absurd hge (by omega)⟩
  rw [if_neg hwork]
  by_cases hlt : address.toNat < 0x8000
  · rw [if_pos hlt]
    exact ⟨_, _, rfl, h, fun hge => absurd hge (by omega)⟩
  rw [if_neg hlt]
  obtain ⟨rom_value, hrom⟩ := Option.isSome_iff_exists.mp (cpu_read_in_bounds h address)
  by_cases h0 : c.mapper = 0
  · rw [if_pos h0]
    exact ⟨_, _, rfl, h, fun _ => rfl⟩
  rw [if_neg h0]
  by_cases h2 : c.mapper = 2
  · rw [if_pos h2, hrom]
    have hbanks : 0 < c.prg_bytes / 16384 := by
      have hp := h.board.uxrom h2
      omega
    obtain ⟨bank, hbank, -⟩ := bank_of_pos (value &&& rom_value) hbanks
    simp only [Option.bind_eq_bind, Option.bind_some, hbank]
    exact ⟨_, _, rfl, h.registers_changed (by constructor <;> rfl)
      ⟨hr.1, hr.2, hr.3, hr.4, hr.5, hr.6, hr.7, hr.8⟩, fun _ => rfl⟩
  rw [if_neg h2]
  by_cases h3 : c.mapper = 3
  · rw [if_pos h3, hrom]
    have hbanks : 0 < c.chr_bytes / 8192 := by
      have hp := h.board.chr_pos
      omega
    obtain ⟨bank, hbank, hin⟩ := bank_of_pos (value &&& rom_value) hbanks
    simp only [Option.bind_eq_bind, Option.bind_some, hbank]
    exact ⟨_, _, rfl, h.registers_changed (by constructor <;> rfl)
      ⟨hr.1, hr.2, hr.3, hr.4, hr.5, hr.6, hr.7, fun _ => hin⟩, fun _ => rfl⟩
  rw [if_neg h3]
  by_cases h4 : c.mapper = 4
  · rw [if_pos h4]
    obtain ⟨c', hc', hv⟩ := mmc3_write_valid h h4 address value
    rw [hc']
    exact ⟨_, _, rfl, hv, fun _ => rfl⟩
  rw [if_neg h4]
  exact ⟨_, _, rfl, mmc1_write_valid h address value, fun _ => rfl⟩

/-! ## The picture unit's side -/

theorem mmc3_chr_offset_in_bounds (h : c.Valid origin) (hm : c.mapper = 4) {address : U16}
    (ha : address.toNat < 0x2000) :
    ∃ offset, core_cartridge_mmc3_chr_offset c address = some offset ∧
      offset < c.chr_bytes := by
  have hslot : (address >>> 10).toNat < 8 := by
    rw [BitVec.toNat_ushiftRight, Nat.shiftRight_eq_div_pow]
    omega
  have hoff := mapped_chr_offset_le c hm h.board ⟨_, hslot⟩
  rw [mapped_of_mapping hm h.board h.mapping] at hoff
  have hlow : (address &&& 0x03ff).toNat ≤ 0x03ff := and_toNat_le address 0x03ff
  unfold core_cartridge_mmc3_chr_offset
  rw [Table.read_of_lt _ hslot, Option.map_some]
  exact ⟨_, rfl, by omega⟩

/-- **Every pattern read is inside its array.** -/
theorem ppu_read_in_bounds (h : c.Valid origin) (address : U16) :
    (core_cartridge_ppu_read c address).isSome := by
  have hpos := h.board.chr_pos
  have hr := h.registers
  unfold core_cartridge_ppu_read
  dsimp only
  by_cases hge : 0x2000 ≤ address.toNat
  · rw [if_pos hge]
    rfl
  rw [if_neg hge]
  by_cases h02 : c.mapper = 0 ∨ c.mapper = 2
  · rw [if_pos h02]
    exact h.chr_read (by omega)
  rw [if_neg h02]
  by_cases h3 : c.mapper = 3
  · rw [if_pos h3]
    have hbank := hr.cnrom h3
    obtain ⟨-, n, -, -, hn⟩ := h.board.cnrom h3
    exact h.chr_read (by omega)
  rw [if_neg h3]
  by_cases h4 : c.mapper = 4
  · rw [if_pos h4]
    obtain ⟨offset, ho, hin⟩ := mmc3_chr_offset_in_bounds h h4 (not_le.mp hge)
    rw [ho, Option.bind_some]
    exact h.chr_read hin
  rw [if_neg h4]
  have hsize := (h.board.mmc1 (fun h0 => h02 (Or.inl h0)) (fun h2 => h02 (Or.inr h2)) h3 h4).2
  have hlow : (address &&& 0x0fff).toNat ≤ 0x0fff := and_toNat_le address 0x0fff
  have h6 : (c.mmc1_chr_bank0 &&& 6).toNat ≤ 6 := and_toNat_le c.mmc1_chr_bank0 6
  have h7 : ∀ x : U8, (x &&& 7).toNat ≤ 7 := fun x => and_toNat_le x 7
  refine h.chr_read ?_
  split
  · split <;> omega
  · have h7' := h7 (if address.toNat < 0x1000 then c.mmc1_chr_bank0 else c.mmc1_chr_bank1)
    omega

/-- **Every pattern write is inside its array** and keeps the invariant. -/
theorem ppu_write_valid (h : c.Valid origin) (address : U16) (value : U8) :
    ∃ c', core_cartridge_ppu_write c address value = some c' ∧ c'.Valid origin := by
  unfold core_cartridge_ppu_write
  by_cases hro : 0x2000 ≤ address.toNat ∨ ¬ c.chr_ram
  · rw [if_pos hro]
    exact ⟨c, rfl, h⟩
  rw [if_neg hro]
  obtain ⟨hlt, hram⟩ : address.toNat < 0x2000 ∧ c.chr_ram = true := by
    constructor
    · exact not_le.mp fun hge => hro (Or.inl hge)
    · by_contra hn
      exact hro (Or.inr hn)
  have hoffset : ∃ offset, ppu_write_offset c address = some offset ∧
      offset < c.chr.length := by
    rw [h.chr, ppu_write_offset]
    by_cases h4 : c.mapper = 4
    · rw [if_pos h4]
      exact mmc3_chr_offset_in_bounds h h4 hlt
    · rw [if_neg h4]
      have hpos := h.board.chr_pos
      exact ⟨_, rfl, by omega⟩
  obtain ⟨offset, ho, hin⟩ := hoffset
  simp only [ho, Option.bind_eq_bind, Option.bind_some, Buffer.write_of_lt _ _ hin]
  refine ⟨_, rfl, ?_⟩
  have hr := h.registers
  refine ⟨?_, h.board, h.prg, ?_, h.chr_ram, h.prg_ram, h.no_prg_ram, h.battery, ?_, ?_,
    h.unmapped⟩
  · refine ⟨h.same.1, ?_, h.same.3, h.same.4, h.same.5, h.same.6, h.same.7, h.same.8⟩
    intro hrom
    rw [← h.same.chr_ram, hram] at hrom
    exact absurd hrom (by decide)
  · rw [List.length_set]
    exact h.chr
  · exact ⟨hr.1, hr.2, hr.3, hr.4, hr.5, hr.6, hr.7, hr.8⟩
  · exact rebuild_mapping_congr h.board h.mapping rfl rfl rfl rfl rfl rfl rfl

theorem ppu_a12_tick_valid (h : c.Valid origin) (high : Bool) :
    (core_cartridge_ppu_a12_tick c high).Valid origin := by
  have hr := h.registers
  have hstore : (core_cartridge_ppu_a12_tick c high).SameStore c := by
    unfold core_cartridge_ppu_a12_tick
    dsimp only
    split_ifs <;> constructor <;> rfl
  refine h.registers_changed hstore ?_
  unfold core_cartridge_ppu_a12_tick
  dsimp only
  split_ifs <;> exact ⟨hr.1, hr.2, hr.3, hr.4, hr.5, hr.6, hr.7, hr.8⟩

/-- **The nametable address is inside the nametable memory** for every address of the
nametable space. -/
theorem ciram_address_lt (c : Cartridge Bytes) {address : U16} (hlo : 0x2000 ≤ address.toNat)
    (hhi : address.toNat < 0x3000) : (core_cartridge_ciram_address c address).toNat < 2048 := by
  have htable : ((address - 0x2000) >>> 10).toNat ≤ 3 := by
    rw [BitVec.toNat_ushiftRight, Nat.shiftRight_eq_div_pow]
    bv_omega
  have hlow : (address &&& 0x03ff).toNat ≤ 0x03ff := and_toNat_le address 0x03ff
  unfold core_cartridge_ciram_address
  dsimp only
  generalize (address - 0x2000) >>> 10 = table at htable
  generalize address &&& 0x03ff = offset at hlow
  have hand : (table &&& 1).toNat ≤ 1 := and_toNat_le table 1
  have hshift : (table >>> 1).toNat ≤ 1 := by
    rw [BitVec.toNat_ushiftRight, Nat.shiftRight_eq_div_pow]
    omega
  have hle : ∀ t : U16, t.toNat ≤ 1 → (t * 1024 + offset).toNat < 2048 := by
    intro t ht
    bv_omega
  split_ifs
  · exact hle _ (by decide)
  · exact hle _ (by decide)
  · exact hle _ hand
  · exact hle _ hshift

end Accesses

end Nxvm.Nes
