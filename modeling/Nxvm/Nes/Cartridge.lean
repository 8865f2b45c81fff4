/-
The cartridge: the boards it admits and their bank arithmetic (`cartridge.h`,
`cartridge.c`).

The structure is generic in what its three pointers stand for, as the code that
only touches registers never looks through them: over blocks of bytes it is the
cartridge a machine runs with, over addresses it is the structure as it lies in
memory. Every array access and every modulus is checked: `none` is an access
outside its array or a division by zero.
-/
import Mathlib.Algebra.Group.Nat.Defs
import Mathlib.Data.Fin.VecNotation
import Nxvm.Lib.Table
import Nxvm.Machine.Status

set_option autoImplicit false

namespace Nxvm.Nes

open Nxvm.Lib
open Nxvm.Machine (Status)

abbrev U8 := BitVec 8
abbrev U16 := BitVec 16
abbrev U32 := BitVec 32
abbrev U64 := BitVec 64

/-- What an allocated block holds. -/
abbrev Bytes := List U8

/-! ## The structure -/

/-- `core_cartridge`, over the type `β` of what `prg`, `chr` and `prg_ram` point to. -/
structure Cartridge (β : Type) where
  prg : β
  chr : β
  prg_ram : Option β
  prg_bytes : ℕ
  chr_bytes : ℕ
  mapper : U8
  content_identity : U64
  mirroring : U8
  uxrom_prg_bank : U8
  cnrom_chr_bank : U8
  mmc1_control : U8
  mmc1_chr_bank0 : U8
  mmc1_chr_bank1 : U8
  mmc1_prg_bank : U8
  mmc1_shift_data : U8
  mmc1_shift_count : U8
  mmc3_bank_select : U8
  mmc3_bank_data : Table 8 U8
  mmc3_prg_offsets : Table 4 U32
  mmc3_chr_offsets : Table 8 U32
  mmc3_irq_latch : U8
  mmc3_irq_counter : U8
  mmc3_a12_low_ticks : U8
  mmc3_irq_reload : Bool
  mmc3_irq_enabled : Bool
  mmc3_irq_asserted : Bool
  mmc3_a12_high : Bool
  mmc3_prg_ram_enabled : Bool
  mmc3_prg_ram_protected : Bool
  battery_backed : Bool
  prg_ram_dirty : Bool
  chr_ram : Bool

/-- `a % b`, which has no value for `b = 0`. -/
def modulo (a b : U32) : Option U32 := if b = 0 then none else some (a % b)

/-! ## Images

An image is the bytes of the file. The header is read after its length has been
checked, so the bytes asked for are there. -/

/-- `core_cartridge_descriptor`; the profile is the mapper. -/
structure CartridgeDescriptor where
  prg_bytes : ℕ
  chr_bytes : ℕ
  mapper : U8
  mirroring : U8
  chr_ram : Bool
  battery_backed : Bool

/-- The largest value of `lib_size`. -/
def lib_size_max : ℕ := 2 ^ 64 - 1

/-- A byte of the header. -/
def header (image : Bytes) (i : ℕ) : U8 := image.getD i 0

/-- The five boards `core_cartridge_profile_select` admits. -/
def profile_admits (image : Bytes) (mapper : U8) : Bool :=
  if mapper = 0 then
    !((header image 4 != 1 && header image 4 != 2) || decide (header image 5 > 1))
  else if mapper = 1 then !(header image 4 != 2 || header image 5 != 4)
  else if mapper = 2 then !(header image 4 != 8 || header image 5 != 0)
  else if mapper = 3 then
    !(header image 4 != 2 || header image 5 == 0 || decide (header image 5 > 4))
  else if mapper = 4 then
    !(decide (header image 4 < 2) || decide (header image 4 > 32) ||
      decide (header image 5 > 32))
  else false

/-- `core_cartridge_profile_select`. -/
def core_cartridge_profile_select (image : Bytes) (mapper : U8) : Option CartridgeDescriptor :=
  if !profile_admits image mapper then none
  else some
    { prg_bytes := (header image 4).toNat * 16384
      chr_bytes := (header image 5).toNat * 8192
      mapper := mapper
      mirroring := if header image 6 &&& 1 ≠ 0 then 2 else 3
      chr_ram := header image 5 == 0
      battery_backed := false }

/-- `core_cartridge_descriptor_create`. -/
def core_cartridge_descriptor_create (image : Bytes) : Option CartridgeDescriptor :=
  let mapper := (header image 6 >>> 4) ||| (header image 7 &&& 0xf0)
  if image.length < 16 then none
  else if header image 0 ≠ 0x4e ∨ header image 1 ≠ 0x45 ∨
      header image 2 ≠ 0x53 ∨ header image 3 ≠ 0x1a then none
  else if header image 7 &&& 0x0c = 0x08 ∨ header image 6 &&& 0x0c ≠ 0 ∨
      header image 7 &&& 0x0f ≠ 0 then none
  else if ∃ i : Fin 16, 9 ≤ i.val ∧ header image i ≠ 0 then none
  else if header image 8 ≠ 0 ∧ (mapper ≠ 4 ∨ header image 8 ≠ 1) then none
  else
    match core_cartridge_profile_select image mapper with
    | none => none
    | some descriptor =>
      if header image 6 &&& 2 ≠ 0 ∧ (mapper ≠ 4 ∨ header image 8 ≠ 1) then none
      else
        let descriptor := { descriptor with battery_backed := header image 6 &&& 2 != 0 }
        if descriptor.prg_bytes > lib_size_max - 16 ∨
            descriptor.chr_bytes > lib_size_max - 16 - descriptor.prg_bytes then none
        else if 16 + descriptor.prg_bytes + descriptor.chr_bytes = image.length then
          some descriptor
        else none

/-- `core_cartridge_content_identity`. -/
def core_cartridge_content_identity (image : Bytes) : U64 :=
  image.foldl (fun value byte => (value ^^^ byte.zeroExtend 64) * 1099511628211#64)
    1469598103934665603#64

/-! ## The derived offsets of the MMC3 -/

/-- The offset one slot of the pattern space maps to. -/
def mmc3_chr_offset {β : Type} (c : Cartridge β) (pages : U32) (slot : Fin 8) :
    Option U32 := do
  let slot := BitVec.ofNat 8 slot
  let mapped := if c.mmc3_bank_select &&& 0x80 ≠ 0 then slot ^^^ 4 else slot
  let index := if mapped < 4 then mapped >>> 1 else mapped - 2
  let bank ← c.mmc3_bank_data.read index.toNat
  let bank := if index < 2 then (bank &&& 0xfe) + (slot &&& 1) else bank
  let page ← modulo (bank.zeroExtend 32) pages
  pure (page * 1024)

/-- `core_cartridge_rebuild_mapping`. -/
def core_cartridge_rebuild_mapping {β : Type} (c : Cartridge β) : Option (Cartridge β) :=
  if c.mapper ≠ 4 then some c
  else do
    let banks := BitVec.ofNat 32 (c.prg_bytes / 8192)
    let selected ← modulo ((c.mmc3_bank_data 6).zeroExtend 32) banks
    let second ← modulo ((c.mmc3_bank_data 7).zeroExtend 32) banks
    let swapped := c.mmc3_bank_select &&& 0x40 ≠ 0
    let pages := BitVec.ofNat 32 (c.chr_bytes / 1024)
    let chr_offsets ← Table.build (mmc3_chr_offset c pages)
    some { c with
      mmc3_prg_offsets :=
        ![if swapped then (banks - 2) * 8192 else selected * 8192,
          second * 8192,
          if swapped then selected * 8192 else (banks - 2) * 8192,
          (banks - 1) * 8192]
      mmc3_chr_offsets := chr_offsets }

/-! ## Creation -/

/-- The cartridge as `core_cartridge_create` has filled it in before it builds the mapping. -/
def unmapped_cartridge (image : Bytes) (descriptor : CartridgeDescriptor) : Cartridge Bytes where
  prg := (image.drop 16).take descriptor.prg_bytes
  chr :=
    if descriptor.chr_ram then List.replicate 8192 0
    else (image.drop (16 + descriptor.prg_bytes)).take descriptor.chr_bytes
  prg_ram := if descriptor.mapper = 4 then some (List.replicate 8192 0) else none
  prg_bytes := descriptor.prg_bytes
  chr_bytes := if descriptor.chr_ram then 8192 else descriptor.chr_bytes
  mapper := descriptor.mapper
  content_identity := core_cartridge_content_identity image
  mirroring := descriptor.mirroring
  uxrom_prg_bank := 0
  cnrom_chr_bank := 0
  mmc1_control := 0x0c
  mmc1_chr_bank0 := 0
  mmc1_chr_bank1 := 0
  mmc1_prg_bank := 0
  mmc1_shift_data := 0
  mmc1_shift_count := 0
  mmc3_bank_select := 0
  mmc3_bank_data := Table.fill 0
  mmc3_prg_offsets := Table.fill 0
  mmc3_chr_offsets := Table.fill 0
  mmc3_irq_latch := 0
  mmc3_irq_counter := 0
  mmc3_a12_low_ticks := 0
  mmc3_irq_reload := false
  mmc3_irq_enabled := false
  mmc3_irq_asserted := false
  mmc3_a12_high := false
  mmc3_prg_ram_enabled := false
  mmc3_prg_ram_protected := false
  battery_backed := descriptor.battery_backed
  prg_ram_dirty := false
  chr_ram := descriptor.chr_ram

/-- How a service of the machine stops short. -/
inductive Stop where
  | status (status : Status)
  /-- An access outside its array, or a modulus of zero. -/
  | out_of_bounds
  /-- The passes given to a loop are used up. -/
  | unfinished
  deriving DecidableEq, Repr

/-- `core_cartridge_create`. -/
def core_cartridge_create (image : Bytes) : Except Stop (Cartridge Bytes) :=
  match core_cartridge_descriptor_create image with
  | none => .error (.status .invalid_argument)
  | some descriptor =>
    match core_cartridge_rebuild_mapping (unmapped_cartridge image descriptor) with
    | none => .error .out_of_bounds
    | some c => .ok c

/-! ## The processor's side -/

/-- `core_cartridge_cpu_read`. -/
def core_cartridge_cpu_read (c : Cartridge Bytes) (address : U16) : Option U8 :=
  let a := address.toNat
  let low := (address &&& 0x3fff).toNat
  if c.mapper = 4 ∧ 0x6000 ≤ a ∧ a < 0x8000 then
    if c.mmc3_prg_ram_enabled then
      c.prg_ram.bind fun prg_ram => prg_ram[(address &&& 0x1fff).toNat]?
    else some 0
  else if a < 0x8000 then some 0
  else if c.mapper = 0 then
    let offset := a - 0x8000
    c.prg[if c.prg_bytes = 16384 then offset % 16384 else offset]?
  else if c.mapper = 2 then
    let bank := if a < 0xc000 then (c.uxrom_prg_bank &&& 7).toNat else 7
    c.prg[bank * 16384 + low]?
  else if c.mapper = 3 then c.prg[a - 0x8000]?
  else if c.mapper = 4 then
    (c.mmc3_prg_offsets.read ((address >>> 13) &&& 3).toNat).bind fun offset =>
      c.prg[offset.toNat + (address &&& 0x1fff).toNat]?
  -- The admitted MMC1 board has two PRG banks and eight CHR pages.
  else if c.mmc1_control &&& 0x0c ≤ 4 then c.prg[a - 0x8000]?
  else if c.mmc1_control &&& 0x0c = 8 then
    let bank := if a < 0xc000 then 0 else (c.mmc1_prg_bank &&& 1).toNat
    c.prg[bank * 16384 + low]?
  else
    let bank := if a < 0xc000 then (c.mmc1_prg_bank &&& 1).toNat else 1
    c.prg[bank * 16384 + low]?

/-- `value % banks` for a bank count kept as a `lib_size`. -/
def bank_of (value : U8) (banks : ℕ) : Option U8 :=
  if banks = 0 then none else some (BitVec.ofNat 8 (value.toNat % banks))

/-- A write to one of the registers of the MMC3, from `0x8000` up. -/
def mmc3_write (c : Cartridge Bytes) (address : U16) (value : U8) : Option (Cartridge Bytes) :=
  let a := address.toNat
  let even := address &&& 1 = 0
  if a < 0xa000 then
    if even then core_cartridge_rebuild_mapping { c with mmc3_bank_select := value }
    else
      (c.mmc3_bank_data.write (c.mmc3_bank_select &&& 7).toNat value).bind fun data =>
        core_cartridge_rebuild_mapping { c with mmc3_bank_data := data }
  else if a < 0xc000 then
    if even then some { c with mirroring := if value &&& 1 ≠ 0 then 3 else 2 }
    else some { c with
      mmc3_prg_ram_enabled := value &&& 0x80 != 0
      mmc3_prg_ram_protected := value &&& 0x40 != 0 }
  else if a < 0xe000 then
    if even then some { c with mmc3_irq_latch := value }
    else some { c with mmc3_irq_counter := 0, mmc3_irq_reload := true }
  else if even then some { c with mmc3_irq_enabled := false, mmc3_irq_asserted := false }
  else some { c with mmc3_irq_enabled := true }

/-- A write to the serial register of the MMC1, from `0x8000` up. -/
def mmc1_write (c : Cartridge Bytes) (address : U16) (value : U8) : Cartridge Bytes :=
  let a := address.toNat
  if value &&& 0x80 ≠ 0 then
    { c with
      mmc1_shift_data := 0
      mmc1_shift_count := 0
      mmc1_control := c.mmc1_control ||| 0x0c }
  else
    let data := c.mmc1_shift_data ||| ((value &&& 1) <<< c.mmc1_shift_count.toNat)
    let count := c.mmc1_shift_count + 1
    if count ≠ 5 then { c with mmc1_shift_data := data, mmc1_shift_count := count }
    else
      let c := { c with mmc1_shift_data := 0, mmc1_shift_count := 0 }
      if a < 0xa000 then { c with mmc1_control := data, mirroring := data &&& 3 }
      else if a < 0xc000 then { c with mmc1_chr_bank0 := data }
      else if a < 0xe000 then { c with mmc1_chr_bank1 := data }
      else { c with mmc1_prg_bank := data }

/-- `core_cartridge_cpu_write`: whether the address is the cartridge's, and what the write
leaves. -/
def core_cartridge_cpu_write (c : Cartridge Bytes) (address : U16) (value : U8) :
    Option (Bool × Cartridge Bytes) :=
  let a := address.toNat
  if c.mapper = 4 ∧ 0x6000 ≤ a ∧ a < 0x8000 then
    if c.mmc3_prg_ram_enabled ∧ ¬ c.mmc3_prg_ram_protected then do
      let prg_ram ← c.prg_ram
      let prg_ram ← Buffer.write prg_ram (address &&& 0x1fff).toNat value
      some (true, { c with
        prg_ram := some prg_ram
        prg_ram_dirty := c.battery_backed || c.prg_ram_dirty })
    else some (true, c)
  else if a < 0x8000 then some (false, c)
  else if c.mapper = 0 then some (true, c)
  else if c.mapper = 2 then do
    let rom_value ← core_cartridge_cpu_read c address
    let bank ← bank_of (value &&& rom_value) (c.prg_bytes / 16384)
    some (true, { c with uxrom_prg_bank := bank })
  else if c.mapper = 3 then do
    let rom_value ← core_cartridge_cpu_read c address
    let bank ← bank_of (value &&& rom_value) (c.chr_bytes / 8192)
    some (true, { c with cnrom_chr_bank := bank })
  else if c.mapper = 4 then (mmc3_write c address value).map fun c => (true, c)
  else some (true, mmc1_write c address value)

/-! ## The picture unit's side -/

/-- `core_cartridge_mmc3_chr_offset`. -/
def core_cartridge_mmc3_chr_offset (c : Cartridge Bytes) (address : U16) : Option ℕ :=
  (c.mmc3_chr_offsets.read (address >>> 10).toNat).map fun offset =>
    offset.toNat + (address &&& 0x03ff).toNat

/-- `core_cartridge_ppu_read`. -/
def core_cartridge_ppu_read (c : Cartridge Bytes) (address : U16) : Option U8 :=
  let a := address.toNat
  if 0x2000 ≤ a then some 0
  else if c.mapper = 0 ∨ c.mapper = 2 then c.chr[a]?
  else if c.mapper = 3 then c.chr[c.cnrom_chr_bank.toNat * 8192 + a]?
  else if c.mapper = 4 then
    (core_cartridge_mmc3_chr_offset c address).bind fun offset => c.chr[offset]?
  else
    let page :=
      if c.mmc1_control &&& 0x10 = 0 then
        (c.mmc1_chr_bank0 &&& 6).toNat + if 0x1000 ≤ a then 1 else 0
      else ((if a < 0x1000 then c.mmc1_chr_bank0 else c.mmc1_chr_bank1) &&& 7).toNat
    c.chr[page * 4096 + (address &&& 0x0fff).toNat]?

/-- Where a pattern write goes. -/
def ppu_write_offset (c : Cartridge Bytes) (address : U16) : Option ℕ :=
  if c.mapper = 4 then core_cartridge_mmc3_chr_offset c address else some address.toNat

/-- `core_cartridge_ppu_write`; its answer is not used anywhere. -/
def core_cartridge_ppu_write (c : Cartridge Bytes) (address : U16) (value : U8) :
    Option (Cartridge Bytes) :=
  if 0x2000 ≤ address.toNat ∨ ¬ c.chr_ram then some c
  else do
    let offset ← ppu_write_offset c address
    let chr ← Buffer.write c.chr offset value
    some { c with chr := chr }

/-- `core_cartridge_ciram_address`. -/
def core_cartridge_ciram_address (c : Cartridge Bytes) (address : U16) : U16 :=
  let table := (address - 0x2000) >>> 10
  let offset := address &&& 0x03ff
  let table :=
    if c.mirroring = 0 then 0
    else if c.mirroring = 1 then 1
    else if c.mirroring = 2 then table &&& 1
    else table >>> 1
  table * 1024 + offset

/-- `core_cartridge_ppu_a12_tick`. -/
def core_cartridge_ppu_a12_tick (c : Cartridge Bytes) (high : Bool) : Cartridge Bytes :=
  if c.mapper ≠ 4 then c
  else if !high then
    { c with
      mmc3_a12_low_ticks :=
        if c.mmc3_a12_low_ticks ≠ 255 then c.mmc3_a12_low_ticks + 1 else c.mmc3_a12_low_ticks
      mmc3_a12_high := false }
  else if c.mmc3_a12_high then c
  else if c.mmc3_a12_low_ticks < 8 then
    { c with mmc3_a12_high := true, mmc3_a12_low_ticks := 0 }
  else
    let c := { c with mmc3_a12_high := true, mmc3_a12_low_ticks := 0 }
    let c :=
      if c.mmc3_irq_reload || c.mmc3_irq_counter == 0 then
        { c with mmc3_irq_counter := c.mmc3_irq_latch, mmc3_irq_reload := false }
      else { c with mmc3_irq_counter := c.mmc3_irq_counter - 1 }
    if c.mmc3_irq_counter == 0 && c.mmc3_irq_enabled then
      { c with mmc3_irq_asserted := true }
    else c

/-! ## Battery memory -/

/-- `core_cartridge_battery_ram_byte_count`. -/
def core_cartridge_battery_ram_byte_count {β : Type} (c : Cartridge β) : ℕ :=
  if c.battery_backed then 8192 else 0

/-- `core_cartridge_battery_identity`. -/
def core_cartridge_battery_identity {β : Type} (c : Cartridge β) : U64 :=
  if core_cartridge_battery_ram_byte_count c = 0 then 0 else c.content_identity

end Nxvm.Nes
