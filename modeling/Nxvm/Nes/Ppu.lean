/-
The picture unit (`ppu.h`, `ppu.c`).

It works on its own registers and on the cartridge, whose pattern memory it reads
and whose counter it clocks. A computation of the unit has one way to stop short:
an access outside its array. Conditions the source tests again and again on the
dot and the scanline are tested where the source tests them.
-/
import Nxvm.Nes.Cartridge

set_option autoImplicit false

namespace Nxvm.Nes

open Nxvm.Lib Nxvm.Lib.Exec

/-- `core_reset_kind`. -/
inductive ResetKind where
  | power
  | warm
  deriving DecidableEq, Repr

/-- `core_ppu`. -/
structure Ppu where
  ciram : Table 2048 U8
  palette : Table 32 U8
  control : U8
  mask : U8
  status : U8
  io_latch : U8
  read_buffer : U8
  oam : Table 256 U8
  oam_address : U8
  selected_sprites : Table 8 U8
  selected_sprite_count : U8
  secondary_oam : Table 32 U8
  secondary_oam_count : U8
  sprite_pattern_low : Table 8 U8
  sprite_pattern_high : Table 8 U8
  next_sprites : Table 8 U8
  next_sprite_count : U8
  sprite_evaluation_index : U8
  sprite_evaluation_byte : U8
  next_secondary_oam : Table 32 U8
  next_secondary_oam_count : U8
  address : U16
  temporary_address : U16
  background_tile : U8
  background_attribute : U8
  background_pattern_low : U8
  background_pattern_high : U8
  background_prefetch_pattern_low : Table 2 U8
  background_prefetch_pattern_high : Table 2 U8
  background_prefetch_attribute : Table 2 U8
  background_pattern_shift_low : U16
  background_pattern_shift_high : U16
  background_attribute_shift_low : U16
  background_attribute_shift_high : U16
  address_high : Bool
  fine_x : U8
  dot : U16
  scanline : U16
  odd_frame : Bool
  completed : Table 61440 U16
  pixel_delay : Table 4 U16
  frame_ready : Bool
  frame_revision : U32
  nmi_line : Bool
  suppress_vblank : Bool

/-- The unit with all its storage cleared. -/
def Ppu.zero : Ppu where
  ciram := Table.fill 0
  palette := Table.fill 0
  control := 0
  mask := 0
  status := 0
  io_latch := 0
  read_buffer := 0
  oam := Table.fill 0
  oam_address := 0
  selected_sprites := Table.fill 0
  selected_sprite_count := 0
  secondary_oam := Table.fill 0
  secondary_oam_count := 0
  sprite_pattern_low := Table.fill 0
  sprite_pattern_high := Table.fill 0
  next_sprites := Table.fill 0
  next_sprite_count := 0
  sprite_evaluation_index := 0
  sprite_evaluation_byte := 0
  next_secondary_oam := Table.fill 0
  next_secondary_oam_count := 0
  address := 0
  temporary_address := 0
  background_tile := 0
  background_attribute := 0
  background_pattern_low := 0
  background_pattern_high := 0
  background_prefetch_pattern_low := Table.fill 0
  background_prefetch_pattern_high := Table.fill 0
  background_prefetch_attribute := Table.fill 0
  background_pattern_shift_low := 0
  background_pattern_shift_high := 0
  background_attribute_shift_low := 0
  background_attribute_shift_high := 0
  address_high := false
  fine_x := 0
  dot := 0
  scanline := 0
  odd_frame := false
  completed := Table.fill 0
  pixel_delay := Table.fill 0
  frame_ready := false
  frame_revision := 0
  nmi_line := false
  suppress_vblank := false

/-- The unit and the cartridge on its bus. -/
structure Video where
  ppu : Ppu
  cartridge : Cartridge Bytes

/-- A computation of the unit; its only fault is an access outside an array. -/
abbrev PpuM := EStateM Unit Video

/-- The unit's registers. -/
def get_ppu : PpuM Ppu := query Video.ppu

/-- Change the unit's registers. -/
def set_ppu (f : Ppu → Ppu) : PpuM Unit := update fun v => { v with ppu := f v.ppu }

/-- A checked access. -/
def access {α : Type} (o : Option α) : PpuM α := of_option () o

/-- `core_cartridge_ppu_a12_tick` on the cartridge at hand. -/
def a12_tick (high : Bool) : PpuM Unit :=
  update fun v => { v with cartridge := core_cartridge_ppu_a12_tick v.cartridge high }

/-! ## Memory -/

/-- `core_ppu_palette_address`. -/
def core_ppu_palette_address (address : U16) : U16 :=
  let address := address &&& 0x001f
  if address = 0x10 ∨ address = 0x14 ∨ address = 0x18 ∨ address = 0x1c then address - 0x10
  else address

/-- The nametable mirror above `0x3000`. -/
def nametable_address (address : U16) : U16 :=
  if 0x3000 ≤ address.toNat then address - 0x1000 else address

/-- `core_ppu_memory_read`. -/
def core_ppu_memory_read (address : U16) : PpuM U8 := do
  let address := address &&& 0x3fff
  if address.toNat < 0x2000 then
    a12_tick (address &&& 0x1000 != 0)
    let v ← get
    access (core_cartridge_ppu_read v.cartridge address)
  else if address.toNat < 0x3f00 then
    let v ← get
    access (v.ppu.ciram.read
      (core_cartridge_ciram_address v.cartridge (nametable_address address)).toNat)
  else
    let v ← get
    access (v.ppu.palette.read (core_ppu_palette_address address).toNat)

/-- `core_ppu_memory_write`. -/
def core_ppu_memory_write (address : U16) (value : U8) : PpuM Unit := do
  let address := address &&& 0x3fff
  if address.toNat < 0x2000 then
    a12_tick (address &&& 0x1000 != 0)
    let v ← get
    let cartridge ← access (core_cartridge_ppu_write v.cartridge address value)
    update fun v => { v with cartridge := cartridge }
  else if address.toNat < 0x3f00 then
    let v ← get
    let ciram ← access (v.ppu.ciram.write
      (core_cartridge_ciram_address v.cartridge (nametable_address address)).toNat value)
    set_ppu fun p => { p with ciram := ciram }
  else
    let v ← get
    let palette ← access (v.ppu.palette.write (core_ppu_palette_address address).toNat value)
    set_ppu fun p => { p with palette := palette }

/-! ## Scrolling -/

/-- `core_ppu_sprite_in_range`. -/
def core_ppu_sprite_in_range (scanline : U16) (sprite_y height : U8) : Bool :=
  decide (sprite_y.toNat < scanline.toNat ∧ scanline.toNat ≤ sprite_y.toNat + height.toNat)

/-- `core_ppu_rendering_enabled`. -/
def core_ppu_rendering_enabled (p : Ppu) : Bool := p.mask &&& 0x18 != 0

/-- The height `control` selects for sprites. -/
def sprite_height (p : Ppu) : U8 := if p.control &&& 0x20 ≠ 0 then 16 else 8

/-- `core_ppu_increment_coarse_x`. -/
def core_ppu_increment_coarse_x (p : Ppu) : Ppu :=
  if p.address &&& 0x001f = 31 then
    { p with address := (p.address &&& ~~~0x001f#16) ^^^ 0x0400 }
  else { p with address := p.address + 1 }

/-- `core_ppu_increment_y`. -/
def core_ppu_increment_y (p : Ppu) : Ppu :=
  if p.address &&& 0x7000 ≠ 0x7000 then { p with address := p.address + 0x1000 }
  else
    let address := p.address &&& ~~~0x7000#16
    let coarse_y := (address &&& 0x03e0) >>> 5
    let address := if coarse_y = 29 then address ^^^ 0x0800 else address
    let coarse_y := if coarse_y = 29 then 0 else if coarse_y = 31 then 0 else coarse_y + 1
    { p with address := (address &&& ~~~0x03e0#16) ||| (coarse_y <<< 5) }

/-- `core_ppu_copy_horizontal_scroll`. -/
def core_ppu_copy_horizontal_scroll (p : Ppu) : Ppu :=
  { p with address := (p.address &&& ~~~0x041f#16) ||| (p.temporary_address &&& 0x041f) }

/-- `core_ppu_copy_vertical_scroll`. -/
def core_ppu_copy_vertical_scroll (p : Ppu) : Ppu :=
  { p with address := (p.address &&& 0x041f) ||| (p.temporary_address &&& ~~~0x041f#16) }

/-! ## The background -/

/-- Outside the dots in which the background is fetched. -/
def background_idle (p : Ppu) : Bool :=
  decide (p.dot = 0 ∨ 336 < p.dot.toNat ∨ 256 < p.dot.toNat ∧ p.dot.toNat < 321)

/-- The address of a row of the tile just fetched. -/
def background_pattern_address (p : Ppu) : U16 :=
  (if p.control &&& 0x10 ≠ 0 then 0x1000 else 0) +
    p.background_tile.zeroExtend 16 * 16 + ((p.address >>> 12) &&& 7)

/-- `core_ppu_fetch_background`. -/
def core_ppu_fetch_background : PpuM Unit := do
  let p ← get_ppu
  if background_idle p then pure ()
  else if p.dot &&& 7 = 1 then
    let tile ← core_ppu_memory_read (0x2000 ||| (p.address &&& 0x0fff))
    set_ppu fun p => { p with background_tile := tile }
  else if p.dot &&& 7 = 3 then
    let attribute_address := 0x23c0 ||| (p.address &&& 0x0c00) |||
      ((p.address >>> 4) &&& 0x38) ||| ((p.address >>> 2) &&& 0x07)
    let attribute_shift := ((p.address >>> 4) &&& 4) ||| (p.address &&& 2)
    let attributes ← core_ppu_memory_read attribute_address
    set_ppu fun p =>
      { p with background_attribute := (attributes >>> attribute_shift.toNat) &&& 3 }
  else if p.dot &&& 7 = 5 then
    let pattern ← core_ppu_memory_read (background_pattern_address p)
    set_ppu fun p => { p with background_pattern_low := pattern }
  else if p.dot &&& 7 = 7 then
    let pattern ← core_ppu_memory_read (background_pattern_address p + 8)
    set_ppu fun p => { p with background_pattern_high := pattern }
  else pure ()

/-- `core_ppu_load_background`. -/
def core_ppu_load_background (p : Ppu) : Ppu :=
  if background_idle p ∨ p.dot &&& 7 ≠ 0 then p
  else
    { p with
      background_pattern_shift_low :=
        (p.background_pattern_shift_low &&& 0xff00) ||| p.background_pattern_low.zeroExtend 16
      background_pattern_shift_high :=
        (p.background_pattern_shift_high &&& 0xff00) ||| p.background_pattern_high.zeroExtend 16
      background_attribute_shift_low :=
        (p.background_attribute_shift_low &&& 0xff00) |||
          (if p.background_attribute &&& 1 ≠ 0 then 0x00ff else 0)
      background_attribute_shift_high :=
        (p.background_attribute_shift_high &&& 0xff00) |||
          (if p.background_attribute &&& 2 ≠ 0 then 0x00ff else 0) }

/-- `core_ppu_shift_background`. -/
def core_ppu_shift_background (p : Ppu) : Ppu :=
  if 336 < p.dot.toNat ∨ 256 < p.dot.toNat ∧ p.dot.toNat < 321 then p
  else
    { p with
      background_pattern_shift_low := p.background_pattern_shift_low <<< 1
      background_pattern_shift_high := p.background_pattern_shift_high <<< 1
      background_attribute_shift_low := p.background_attribute_shift_low <<< 1
      background_attribute_shift_high := p.background_attribute_shift_high <<< 1 }

/-- `core_ppu_prime_background`. -/
def core_ppu_prime_background (p : Ppu) : Ppu :=
  let pair (t : Table 2 U8) : U16 := ((t 0).zeroExtend 16 <<< 8) ||| (t 1).zeroExtend 16
  let spread (mask : U8) : U16 :=
    (if p.background_prefetch_attribute 0 &&& mask ≠ 0 then 0xff00 else 0) |||
      (if p.background_prefetch_attribute 1 &&& mask ≠ 0 then 0x00ff else 0)
  { p with
    background_pattern_shift_low := pair p.background_prefetch_pattern_low
    background_pattern_shift_high := pair p.background_prefetch_pattern_high
    background_attribute_shift_low := spread 1
    background_attribute_shift_high := spread 2 }

/-! ## Sprites -/

/-- `core_ppu_begin_sprite_evaluation`. -/
def core_ppu_begin_sprite_evaluation (p : Ppu) : Ppu :=
  { p with
    next_sprite_count := 0
    next_secondary_oam_count := 0
    sprite_evaluation_index := 0
    sprite_evaluation_byte := 0 }

/-- `core_ppu_evaluate_sprite`. -/
def core_ppu_evaluate_sprite (target_scanline : U16) : PpuM Unit := do
  let p ← get_ppu
  let height := sprite_height p
  let index := p.sprite_evaluation_index
  set_ppu fun p => { p with sprite_evaluation_index := index + 1 }
  if 64 ≤ index.toNat then pure ()
  else if p.next_sprite_count = 8 then
    let candidate ← access (p.oam.read (index.toNat * 4 + p.sprite_evaluation_byte.toNat))
    set_ppu fun p =>
      { p with
        status :=
          if core_ppu_sprite_in_range target_scanline candidate height then p.status ||| 0x20
          else p.status
        sprite_evaluation_byte := (p.sprite_evaluation_byte + 1) &&& 3 }
  else
    let sprite_y ← access (p.oam.read (index.toNat * 4))
    if !core_ppu_sprite_in_range target_scanline sprite_y height then pure ()
    else
      let sprites ← access (p.next_sprites.write p.next_sprite_count.toNat index)
      let secondary ← access (p.next_secondary_oam.copy (p.next_secondary_oam_count.toNat * 4)
        p.oam (index.toNat * 4) 4)
      set_ppu fun q =>
        { q with
          next_sprites := sprites
          next_sprite_count := p.next_sprite_count + 1
          next_secondary_oam := secondary
          next_secondary_oam_count := p.next_secondary_oam_count + 1 }

/-- Store a fetched pattern byte of a sprite slot. -/
def store_sprite_pattern (slot : U8) (high : Bool) (value : U8) : PpuM Unit := do
  let p ← get_ppu
  if high then
    let patterns ← access (p.sprite_pattern_high.write slot.toNat value)
    set_ppu fun p => { p with sprite_pattern_high := patterns }
  else
    let patterns ← access (p.sprite_pattern_low.write slot.toNat value)
    set_ppu fun p => { p with sprite_pattern_low := patterns }

/-- `core_ppu_fetch_sprite_pattern`. -/
def core_ppu_fetch_sprite_pattern (slot : U8) (high : Bool) : PpuM Unit := do
  let p ← get_ppu
  let sprite_y ← access (p.secondary_oam.read (slot.toNat * 4))
  let tile ← access (p.secondary_oam.read (slot.toNat * 4 + 1))
  let attributes ← access (p.secondary_oam.read (slot.toNat * 4 + 2))
  let height := sprite_height p
  let target : U16 := if p.scanline = 261 then 0 else p.scanline + 1
  let row : U8 :=
    if sprite_y.toNat < target.toNat then (target - sprite_y.zeroExtend 16 - 1).truncate 8
    else height
  if p.secondary_oam_count.toNat ≤ slot.toNat ∨ height.toNat ≤ row.toNat then
    let _ ← core_ppu_memory_read (0x1fe0 + (if high then 8 else 0))
    store_sprite_pattern slot high 0
  else
    let row := if attributes &&& 0x80 ≠ 0 then height - 1 - row else row
    let pattern : U16 :=
      if height = 16 then
        (if tile &&& 1 ≠ 0 then 0x1000 else 0) + (tile &&& ~~~1#8).zeroExtend 16 * 16 +
          (if 8 ≤ row.toNat then 16 else 0) + (row &&& 7).zeroExtend 16
      else
        (if p.control &&& 0x08 ≠ 0 then 0x1000 else 0) + tile.zeroExtend 16 * 16 +
          row.zeroExtend 16
    let value ← core_ppu_memory_read (if high then pattern + 8 else pattern)
    store_sprite_pattern slot high value

/-- The sprites from the `i`-th selected one on, `n` of them, at one dot. -/
def sprite_sample_from (x y : U16) (background_color : U8) : ℕ → ℕ → PpuM U8
  | 0, _ => pure 0xff
  | n + 1, i => do
    let p ← get_ppu
    let height := sprite_height p
    let index ← access (p.selected_sprites.read i)
    let sprite_y ← access (p.secondary_oam.read (i * 4))
    let attributes ← access (p.secondary_oam.read (i * 4 + 2))
    let sprite_x ← access (p.secondary_oam.read (i * 4 + 3))
    if y.toNat ≤ sprite_y.toNat ∨ sprite_y.toNat + height.toNat < y.toNat then
      sprite_sample_from x y background_color n (i + 1)
    else if x.toNat < sprite_x.toNat ∨ sprite_x.toNat + 8 ≤ x.toNat then
      sprite_sample_from x y background_color n (i + 1)
    else
      let low ← access (p.sprite_pattern_low.read i)
      let high ← access (p.sprite_pattern_high.read i)
      let column := x.truncate 8 - sprite_x
      let column := if attributes &&& 0x40 ≠ 0 then 7 - column else column
      let shift := (7 - column).toNat
      let color := ((low >>> shift) &&& 1) ||| (((high >>> shift) &&& 1) <<< 1)
      if color = 0 then sprite_sample_from x y background_color n (i + 1)
      else
        perform_if (index = 0 ∧ background_color ≠ 0 ∧ x ≠ 255)
          (set_ppu fun p => { p with status := p.status ||| 0x40 })
        if attributes &&& 0x20 ≠ 0 ∧ background_color ≠ 0 then pure 0xff
        else
          let value ← core_ppu_memory_read
            (0x3f10 + (attributes &&& 3).zeroExtend 16 * 4 + color.zeroExtend 16)
          pure (value &&& 0x3f)

/-- `core_ppu_sprite_sample`. -/
def core_ppu_sprite_sample (x y : U16) (background_color : U8) : PpuM U8 := do
  let p ← get_ppu
  sprite_sample_from x y background_color p.selected_sprite_count.toNat 0

/-! ## One dot

`core_ppu_tick`, in the parts its comments and blank lines divide it into. -/

/-- The lines on which the unit fetches. -/
def fetching_line (p : Ppu) : Bool := decide (p.scanline.toNat < 240 ∨ p.scanline = 261)

/-- Scrolling and the background pipeline of the dot. -/
def tick_background (rendering_enabled : Bool) : PpuM Unit := do
  let p ← get_ppu
  perform_if (rendering_enabled && fetching_line p) do
    set_ppu fun p => if p.dot = 257 then core_ppu_copy_horizontal_scroll p else p
    set_ppu fun p =>
      if p.scanline = 261 ∧ 280 ≤ p.dot.toNat ∧ p.dot.toNat ≤ 304 then
        core_ppu_copy_vertical_scroll p
      else p
    core_ppu_fetch_background
    set_ppu core_ppu_load_background
  set_ppu fun p =>
    if rendering_enabled ∧ p.scanline.toNat < 240 ∧ p.dot = 0 then core_ppu_prime_background p
    else p

/-- The delayed pixel reaches the completed frame. -/
def tick_commit : PpuM Unit := do
  let p ← get_ppu
  if p.scanline.toNat < 240 ∧ 4 ≤ p.dot.toNat ∧ p.dot.toNat < 260 then
    let pixel ← access (p.pixel_delay.read (p.dot &&& 3).toNat)
    let completed ← access
      (p.completed.write (p.scanline.toNat * 256 + p.dot.toNat - 4) pixel)
    set_ppu fun p => { p with completed := completed }

/-- One bit of each of two shifters. -/
def shifter_bits (low high : U16) (shift : U8) : U8 :=
  ((low >>> shift.toNat) &&& 1 ||| (((high >>> shift.toNat) &&& 1) <<< 1)).truncate 8

/-- The pixel of the dot is selected. -/
def tick_pixel : PpuM Unit := do
  let p ← get_ppu
  if p.scanline.toNat < 240 ∧ p.dot.toNat < 256 then
    let shift := 15 - p.fine_x
    let background_enabled :=
      p.mask &&& 0x08 != 0 && (decide (8 ≤ p.dot.toNat) || p.mask &&& 0x02 != 0)
    let sprites_enabled :=
      p.mask &&& 0x10 != 0 && (decide (8 ≤ p.dot.toNat) || p.mask &&& 0x04 != 0)
    let color := shifter_bits p.background_pattern_shift_low p.background_pattern_shift_high shift
    let palette :=
      shifter_bits p.background_attribute_shift_low p.background_attribute_shift_high shift
    let palette_address : U16 :=
      if !background_enabled || color == 0 then 0x3f00
      else 0x3f00 + palette.zeroExtend 16 * 4 + color.zeroExtend 16
    let sample ← core_ppu_memory_read palette_address
    let sample := sample &&& 0x3f
    let sprite_sample ←
      (if sprites_enabled then
        core_ppu_sprite_sample p.dot p.scanline (if background_enabled then color else 0)
      else pure 0xff)
    let sample := if sprite_sample = 0xff then sample else sprite_sample
    let sample := if p.mask &&& 0x01 ≠ 0 then sample &&& 0x30 else sample
    let p ← get_ppu
    let delay ← access (p.pixel_delay.write (p.dot &&& 3).toNat
      (sample.zeroExtend 16 ||| ((p.mask &&& 0xe0).zeroExtend 16 <<< 1)))
    set_ppu fun p => { p with pixel_delay := delay }

/-- Clearing the secondary memory takes two dots a byte. -/
def tick_clear : PpuM Unit := do
  let p ← get_ppu
  if 1 ≤ p.dot.toNat ∧ p.dot.toNat ≤ 64 then
    let cleared ← access (p.next_secondary_oam.write ((p.dot.toNat - 1) / 2) 0xff)
    set_ppu fun p => { p with next_secondary_oam := cleared }

/-- The sprites found for the next line take effect. -/
def select_sprites (p : Ppu) : Ppu :=
  { p with
    selected_sprites := p.next_sprites
    selected_sprite_count := p.next_sprite_count
    secondary_oam := p.next_secondary_oam
    secondary_oam_count := p.next_secondary_oam_count }

/-- The two tiles fetched ahead for the next line are kept. -/
def store_prefetch (p : Ppu) : Ppu :=
  let slot : Fin 2 := if p.dot = 327 then 0 else 1
  core_ppu_increment_coarse_x
    { p with
      background_prefetch_pattern_low := fun j =>
        if j = slot then p.background_pattern_low else p.background_prefetch_pattern_low j
      background_prefetch_pattern_high := fun j =>
        if j = slot then p.background_pattern_high else p.background_prefetch_pattern_high j
      background_prefetch_attribute := fun j =>
        if j = slot then p.background_attribute else p.background_prefetch_attribute j }

/-- One slot of the sprite pattern fetches. -/
def tick_sprite_fetch : PpuM Unit := do
  let p ← get_ppu
  if 257 ≤ p.dot.toNat ∧ p.dot.toNat ≤ 320 then
    let slot : U8 := ((p.dot - 257) >>> 3).truncate 8
    let phase : U8 := ((p.dot - 257) &&& 7).truncate 8
    if phase = 5 then core_ppu_fetch_sprite_pattern slot false
    else if phase = 7 then core_ppu_fetch_sprite_pattern slot true

/-- The scroll counters move on, and sprites found are selected. -/
def tick_scroll (p : Ppu) : Ppu :=
  let p := core_ppu_shift_background p
  let p := if p.dot.toNat < 256 ∧ p.dot &&& 7 = 7 then core_ppu_increment_coarse_x p else p
  let p := if p.dot = 255 then core_ppu_increment_y p else p
  if p.dot = 256 then select_sprites p else p

/-- Sprite evaluation, the scroll counters and the sprite fetches of the dot. -/
def tick_sprites (rendering_enabled : Bool) : PpuM Unit := do
  let p ← get_ppu
  if rendering_enabled && fetching_line p then
    tick_clear
    set_ppu fun p => if p.dot = 65 then core_ppu_begin_sprite_evaluation p else p
    perform_if (65 ≤ p.dot.toNat ∧ p.dot.toNat < 256 ∧ (p.dot.toNat - 65) % 3 = 0)
      (core_ppu_evaluate_sprite (if p.scanline = 261 then 0 else p.scanline + 1))
    set_ppu tick_scroll
    tick_sprite_fetch
    set_ppu fun p => if p.dot = 327 ∨ p.dot = 335 then store_prefetch p else p

/-- The start and the end of vertical blanking, on the dot just reached. -/
def tick_vblank (p : Ppu) : Ppu :=
  let p :=
    if p.scanline = 241 ∧ p.dot = 1 then
      { p with
        status := if p.suppress_vblank then p.status else p.status ||| 0x80
        nmi_line := if p.suppress_vblank then p.nmi_line else p.control &&& 0x80 != 0
        suppress_vblank := false }
    else p
  if p.scanline = 261 ∧ p.dot = 1 then
    { p with status := p.status &&& ~~~0xe0#8, nmi_line := false }
  else p

/-- The next dot. On an odd frame, enabled rendering omits the final pre-render dot. -/
def tick_advance (rendering_enabled : Bool) (p : Ppu) : Ppu :=
  let skipped := p.scanline = 261 ∧ p.dot = 339 ∧ p.odd_frame ∧ rendering_enabled
  let p := tick_vblank { p with dot := (if skipped then 340 else p.dot) + 1 }
  if p.dot.toNat < 341 then p
  else
    let p := { p with dot := 0, scanline := p.scanline + 1 }
    if p.scanline.toNat < 262 then p
    else
      { p with
        scanline := 0
        frame_ready := true
        frame_revision := p.frame_revision + 1
        odd_frame := !p.odd_frame }

/-- `core_ppu_tick`. -/
def core_ppu_tick : PpuM Unit := do
  let p ← get_ppu
  let rendering_enabled := core_ppu_rendering_enabled p
  a12_tick false
  tick_background rendering_enabled
  tick_commit
  tick_pixel
  tick_sprites rendering_enabled
  set_ppu (tick_advance rendering_enabled)

/-! ## Registers -/

/-- `core_ppu_reset`. -/
def core_ppu_reset (p : Ppu) (kind : ResetKind) : Ppu :=
  match kind with
  | .power => Ppu.zero
  | .warm =>
    { p with
      status := p.status &&& ~~~0x80#8
      nmi_line := false
      suppress_vblank := false
      address_high := false }

/-- The address after an access through the data register. -/
def next_data_address (p : Ppu) : U16 :=
  (p.address + if p.control &&& 4 ≠ 0 then 32 else 1) &&& 0x3fff

/-- `core_ppu_cpu_read`, without the latch all reads go through. -/
def register_read (register_index : U8) : PpuM U8 := do
  let p ← get_ppu
  if register_index = 2 then
    set_ppu fun p =>
      { p with
        suppress_vblank :=
          if p.scanline = 241 ∧ p.dot = 0 then true else p.suppress_vblank
        status := p.status &&& ~~~0x80#8
        nmi_line := false
        address_high := false }
    pure ((p.status &&& 0xe0) ||| (p.io_latch &&& 0x1f))
  else if register_index = 7 then
    let memory ← core_ppu_memory_read p.address
    let buffered ←
      (if 0x3f00 ≤ p.address.toNat then core_ppu_memory_read (p.address - 0x1000)
      else pure memory)
    set_ppu fun p => { p with read_buffer := buffered, address := next_data_address p }
    pure (if 0x3f00 ≤ p.address.toNat then memory else p.read_buffer)
  else if register_index = 4 then access (p.oam.read p.oam_address.toNat)
  else pure p.io_latch

/-- `core_ppu_cpu_read`. -/
def core_ppu_cpu_read (register_index : U8) : PpuM U8 := do
  let value ← register_read register_index
  set_ppu fun p => { p with io_latch := value }
  pure value

/-- A write to the scroll register. -/
def scroll_write (value : U8) (p : Ppu) : Ppu :=
  if !p.address_high then
    { p with
      temporary_address := (p.temporary_address &&& 0x7fe0) ||| (value >>> 3).zeroExtend 16
      fine_x := value &&& 7
      address_high := true }
  else
    { p with
      temporary_address := (p.temporary_address &&& 0x0c1f) |||
        ((value &&& 7).zeroExtend 16 <<< 12) ||| ((value &&& 0xf8).zeroExtend 16 <<< 2)
      address_high := false }

/-- A write to the control register. -/
def control_write (value : U8) (p : Ppu) : Ppu :=
  { p with
    control := value
    temporary_address :=
      (p.temporary_address &&& 0xf3ff) ||| ((value &&& 3).zeroExtend 16 <<< 10)
    nmi_line := p.status &&& 0x80 != 0 && value &&& 0x80 != 0 }

/-- A write to the address register. The second write drives the address lines. -/
def address_write (value : U8) : PpuM Unit := do
  let p ← get_ppu
  if !p.address_high then
    set_ppu fun p =>
      { p with
        temporary_address :=
          (p.temporary_address &&& 0x00ff) ||| ((value &&& 0x3f).zeroExtend 16 <<< 8)
        address_high := true }
  else
    let address := (p.temporary_address &&& 0x7f00) ||| value.zeroExtend 16
    set_ppu fun p =>
      { p with temporary_address := address, address := address, address_high := false }
    a12_tick (address &&& 0x1000 != 0)

/-- `core_ppu_cpu_write`. -/
def core_ppu_cpu_write (register_index value : U8) : PpuM Unit := do
  set_ppu fun p => { p with io_latch := value }
  if register_index = 0 then set_ppu (control_write value)
  else if register_index = 1 then set_ppu fun p => { p with mask := value }
  else if register_index = 3 then set_ppu fun p => { p with oam_address := value }
  else if register_index = 4 then
    let p ← get_ppu
    let oam ← access (p.oam.write p.oam_address.toNat value)
    set_ppu fun p => { p with oam := oam, oam_address := p.oam_address + 1 }
  else if register_index = 5 then set_ppu (scroll_write value)
  else if register_index = 6 then address_write value
  else if register_index = 7 then
    let p ← get_ppu
    core_ppu_memory_write p.address value
    set_ppu fun p => { p with address := next_data_address p }

end Nxvm.Nes
