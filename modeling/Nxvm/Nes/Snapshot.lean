/-
Taking a console back from a stream of bytes (`snapshot.c`).

The reader is a list of fields, kept here as the source keeps it: one field a line, in
its order. It works on copies of the machine and of its cartridge's structure; blocks of
memory are reached through addresses, which the copies share with the machine that is
running, so the memory is part of what it works on. The writer is not here.
-/
import Nxvm.Lib.Stream
import Nxvm.Nes.Machine

set_option autoImplicit false

namespace Nxvm.Nes

open Nxvm.Lib Nxvm.Lib.Exec Nxvm.Lib.Stream
open Nxvm.Machine (Status)

/-! ## Callbacks -/

/-- `core_snapshot_read_callback`: the status, what the destination holds now, and the context
afterwards. -/
abbrev ReadCallback (σ : Type) := (n : ℕ) → σ → Status × Table n U8 × σ

/-- A computation over the context of a callback, which fails with a status. -/
abbrev StreamM (σ : Type) := EStateM Status σ

section Fields

variable {σ : Type} (read : ReadCallback σ)

/-- Ask for `n` bytes. -/
def read_table (n : ℕ) : StreamM σ (Table n U8) := fun s =>
  if (read n s).1 = .ok then .ok (read n s).2.1 (read n s).2.2
  else .error (read n s).1 (read n s).2.2

def read_u8 : StreamM σ U8 := do
  let bytes ← read_table read 1
  pure (bytes 0)

/-- `snapshot_read_u16`. -/
def snapshot_read_u16 : StreamM σ U16 := do
  let bytes ← read_table read 2
  pure (Memory.word_of 16 (List.ofFn bytes))

/-- `snapshot_read_u32`. -/
def snapshot_read_u32 : StreamM σ U32 := do
  let bytes ← read_table read 4
  pure (Memory.word_of 32 (List.ofFn bytes))

/-- `snapshot_read_u64`. -/
def snapshot_read_u64 : StreamM σ U64 := do
  let bytes ← read_table read 8
  pure (Memory.word_of 64 (List.ofFn bytes))

/-- `snapshot_read_u16s`. -/
def snapshot_read_u16s (n : ℕ) : StreamM σ (Table n U16) := read_each (snapshot_read_u16 read) n

/-- `snapshot_read_bool`. -/
def snapshot_read_bool : StreamM σ Bool := do
  let byte ← read_u8 read
  if 1 < byte.toNat then throw .invalid_argument else pure (byte != 0)

end Fields

/-! ## The cartridge's registers -/

section Cartridge

variable {σ β : Type} (read : ReadCallback σ)

/-- The registers a stored cartridge may not have. -/
def cartridge_refused (c : Cartridge β) : Prop :=
  3 < c.mirroring.toNat ∨ 4 < c.mmc1_shift_count.toNat ∨
    2 ^ c.mmc1_shift_count.toNat ≤ c.mmc1_shift_data.toNat ∨ 31 < c.mmc1_control.toNat ∨
    31 < c.mmc1_chr_bank0.toNat ∨ 31 < c.mmc1_chr_bank1.toNat ∨ 31 < c.mmc1_prg_bank.toNat ∨
    c.mapper = 3 ∧ c.chr_bytes / 8192 ≤ c.cnrom_chr_bank.toNat

instance (c : Cartridge β) : Decidable (cartridge_refused c) := by
  unfold cartridge_refused
  infer_instance

/-- `snapshot_read_cartridge`. -/
def snapshot_read_cartridge (c : Cartridge β) : StreamM σ (Cartridge β) := do
  let mirroring ← read_u8 read
  let uxrom_prg_bank ← read_u8 read
  let cnrom_chr_bank ← read_u8 read
  let mmc1_control ← read_u8 read
  let mmc1_chr_bank0 ← read_u8 read
  let mmc1_chr_bank1 ← read_u8 read
  let mmc1_prg_bank ← read_u8 read
  let mmc1_shift_data ← read_u8 read
  let mmc1_shift_count ← read_u8 read
  let mmc3_bank_select ← read_u8 read
  let mmc3_bank_data ← read_table read 8
  let mmc3_irq_latch ← read_u8 read
  let mmc3_irq_counter ← read_u8 read
  let mmc3_a12_low_ticks ← read_u8 read
  let mmc3_irq_reload ← snapshot_read_bool read
  let mmc3_irq_enabled ← snapshot_read_bool read
  let mmc3_irq_asserted ← snapshot_read_bool read
  let mmc3_a12_high ← snapshot_read_bool read
  let mmc3_prg_ram_enabled ← snapshot_read_bool read
  let mmc3_prg_ram_protected ← snapshot_read_bool read
  let battery_backed ← snapshot_read_bool read
  let prg_ram_dirty ← snapshot_read_bool read
  let chr_ram ← snapshot_read_bool read
  let c := { c with
    mirroring := mirroring
    uxrom_prg_bank := uxrom_prg_bank
    cnrom_chr_bank := cnrom_chr_bank
    mmc1_control := mmc1_control
    mmc1_chr_bank0 := mmc1_chr_bank0
    mmc1_chr_bank1 := mmc1_chr_bank1
    mmc1_prg_bank := mmc1_prg_bank
    mmc1_shift_data := mmc1_shift_data
    mmc1_shift_count := mmc1_shift_count
    mmc3_bank_select := mmc3_bank_select
    mmc3_bank_data := mmc3_bank_data
    mmc3_irq_latch := mmc3_irq_latch
    mmc3_irq_counter := mmc3_irq_counter
    mmc3_a12_low_ticks := mmc3_a12_low_ticks
    mmc3_irq_reload := mmc3_irq_reload
    mmc3_irq_enabled := mmc3_irq_enabled
    mmc3_irq_asserted := mmc3_irq_asserted
    mmc3_a12_high := mmc3_a12_high
    mmc3_prg_ram_enabled := mmc3_prg_ram_enabled
    mmc3_prg_ram_protected := mmc3_prg_ram_protected
    battery_backed := battery_backed
    prg_ram_dirty := prg_ram_dirty
    chr_ram := chr_ram }
  if cartridge_refused c then throw .invalid_argument else pure c

end Cartridge

/-! ## The audio unit -/

section Apu

variable {σ : Type} (read : ReadCallback σ)

/-- The registers a stored audio unit may not have. -/
def apu_refused (apu : Apu) : Prop :=
  7 < (apu.pulse_phase 0).toNat ∨ 7 < (apu.pulse_phase 1).toNat ∨
    31 < apu.triangle_phase.toNat ∨ 127 < apu.triangle_linear.toNat ∨ 8 < apu.dmc_bits.toNat ∨
    127 < apu.dmc_output.toNat ∨ 1 < apu.frame_mode.toNat ∨
    (if apu.frame_mode ≠ 0 then 37281 else 29829) ≤ apu.frame_cycles.toNat ∨
    236250000 ≤ apu.sample_phase.toNat

instance (apu : Apu) : Decidable (apu_refused apu) := by
  unfold apu_refused
  infer_instance

/-- The unit without its samples. -/
def without_samples (apu : Apu) : Apu :=
  { apu with
    samples := Table.fill 0
    sample_read := 0
    sample_write := 0
    sample_count := 0
    dropped_samples := 0 }

/-- `snapshot_read_apu`. -/
def snapshot_read_apu (apu : Apu) : StreamM σ Apu := do
  let registers ← read_table read 24
  let pulse_timer ← snapshot_read_u16s read 2
  let pulse_counter ← snapshot_read_u16s read 2
  let triangle_timer ← snapshot_read_u16 read
  let triangle_counter ← snapshot_read_u16 read
  let noise_counter ← snapshot_read_u16 read
  let noise_shift ← snapshot_read_u16 read
  let dmc_counter ← snapshot_read_u16 read
  let dmc_address ← snapshot_read_u16 read
  let dmc_bytes_remaining ← snapshot_read_u16 read
  let length ← snapshot_read_u16s read 4
  let pulse_phase ← read_table read 2
  let triangle_phase ← read_u8 read
  let envelope_decay ← read_table read 3
  let envelope_divider ← read_table read 3
  let sweep_divider ← read_table read 2
  let triangle_linear ← read_u8 read
  let dmc_shift ← read_u8 read
  let dmc_sample ← read_u8 read
  let dmc_bits ← read_u8 read
  let frame_mode ← read_u8 read
  let enabled ← read_u8 read
  let dmc_output ← read_u8 read
  let frame_cycles ← snapshot_read_u32 read
  let sample_phase ← snapshot_read_u32 read
  let frame_irq ← snapshot_read_bool read
  let dmc_irq ← snapshot_read_bool read
  let dmc_dma_requested ← snapshot_read_bool read
  let envelope_start ← read_each (snapshot_read_bool read) 3
  let sweep_reload ← read_each (snapshot_read_bool read) 2
  let triangle_reload ← snapshot_read_bool read
  let dmc_sample_empty ← snapshot_read_bool read
  let pulse_even_cycle ← snapshot_read_bool read
  let apu := { apu with
    registers := registers
    pulse_timer := pulse_timer
    pulse_counter := pulse_counter
    triangle_timer := triangle_timer
    triangle_counter := triangle_counter
    noise_counter := noise_counter
    noise_shift := noise_shift
    dmc_counter := dmc_counter
    dmc_address := dmc_address
    dmc_bytes_remaining := dmc_bytes_remaining
    length := length
    pulse_phase := pulse_phase
    triangle_phase := triangle_phase
    envelope_decay := envelope_decay
    envelope_divider := envelope_divider
    sweep_divider := sweep_divider
    triangle_linear := triangle_linear
    dmc_shift := dmc_shift
    dmc_sample := dmc_sample
    dmc_bits := dmc_bits
    frame_mode := frame_mode
    enabled := enabled
    dmc_output := dmc_output
    frame_cycles := frame_cycles
    sample_phase := sample_phase
    frame_irq := frame_irq
    dmc_irq := dmc_irq
    dmc_dma_requested := dmc_dma_requested
    envelope_start := envelope_start
    sweep_reload := sweep_reload
    triangle_reload := triangle_reload
    dmc_sample_empty := dmc_sample_empty
    pulse_even_cycle := pulse_even_cycle }
  if apu_refused apu then throw .invalid_argument else pure (without_samples apu)

end Apu

/-! ## The picture unit -/

section Ppu

variable {σ : Type} (read : ReadCallback σ)

/-- The registers a stored picture unit may not have. -/
def ppu_refused (ppu : Ppu) : Prop :=
  340 < ppu.dot.toNat ∨ 261 < ppu.scanline.toNat ∨ 8 < ppu.selected_sprite_count.toNat ∨
    8 < ppu.next_sprite_count.toNat ∨ 8 < ppu.secondary_oam_count.toNat ∨
    8 < ppu.next_secondary_oam_count.toNat ∨
    ppu.selected_sprite_count ≠ ppu.secondary_oam_count ∨
    ppu.next_sprite_count ≠ ppu.next_secondary_oam_count ∨
    3 < ppu.sprite_evaluation_byte.toNat ∨ 7 < ppu.fine_x.toNat

instance (ppu : Ppu) : Decidable (ppu_refused ppu) := by
  unfold ppu_refused
  infer_instance

/-- `snapshot_read_ppu`. -/
def snapshot_read_ppu (ppu : Ppu) : StreamM σ Ppu := do
  let ciram ← read_table read 2048
  let palette ← read_table read 32
  let control ← read_u8 read
  let mask ← read_u8 read
  let status ← read_u8 read
  let io_latch ← read_u8 read
  let read_buffer ← read_u8 read
  let oam ← read_table read 256
  let oam_address ← read_u8 read
  let selected_sprites ← read_table read 8
  let selected_sprite_count ← read_u8 read
  let secondary_oam ← read_table read 32
  let secondary_oam_count ← read_u8 read
  let sprite_pattern_low ← read_table read 8
  let sprite_pattern_high ← read_table read 8
  let next_sprites ← read_table read 8
  let next_sprite_count ← read_u8 read
  let sprite_evaluation_index ← read_u8 read
  let sprite_evaluation_byte ← read_u8 read
  let next_secondary_oam ← read_table read 32
  let next_secondary_oam_count ← read_u8 read
  let address ← snapshot_read_u16 read
  let temporary_address ← snapshot_read_u16 read
  let background_tile ← read_u8 read
  let background_attribute ← read_u8 read
  let background_pattern_low ← read_u8 read
  let background_pattern_high ← read_u8 read
  let background_prefetch_pattern_low ← read_table read 2
  let background_prefetch_pattern_high ← read_table read 2
  let background_prefetch_attribute ← read_table read 2
  let background_pattern_shift_low ← snapshot_read_u16 read
  let background_pattern_shift_high ← snapshot_read_u16 read
  let background_attribute_shift_low ← snapshot_read_u16 read
  let background_attribute_shift_high ← snapshot_read_u16 read
  let address_high ← snapshot_read_bool read
  let fine_x ← read_u8 read
  let dot ← snapshot_read_u16 read
  let scanline ← snapshot_read_u16 read
  let odd_frame ← snapshot_read_bool read
  let completed ← snapshot_read_u16s read 61440
  let pixel_delay ← snapshot_read_u16s read 4
  let frame_ready ← snapshot_read_bool read
  let frame_revision ← snapshot_read_u32 read
  let nmi_line ← snapshot_read_bool read
  let suppress_vblank ← snapshot_read_bool read
  let ppu := { ppu with
    ciram := ciram
    palette := palette
    control := control
    mask := mask
    status := status
    io_latch := io_latch
    read_buffer := read_buffer
    oam := oam
    oam_address := oam_address
    selected_sprites := selected_sprites
    selected_sprite_count := selected_sprite_count
    secondary_oam := secondary_oam
    secondary_oam_count := secondary_oam_count
    sprite_pattern_low := sprite_pattern_low
    sprite_pattern_high := sprite_pattern_high
    next_sprites := next_sprites
    next_sprite_count := next_sprite_count
    sprite_evaluation_index := sprite_evaluation_index
    sprite_evaluation_byte := sprite_evaluation_byte
    next_secondary_oam := next_secondary_oam
    next_secondary_oam_count := next_secondary_oam_count
    address := address
    temporary_address := temporary_address
    background_tile := background_tile
    background_attribute := background_attribute
    background_pattern_low := background_pattern_low
    background_pattern_high := background_pattern_high
    background_prefetch_pattern_low := background_prefetch_pattern_low
    background_prefetch_pattern_high := background_prefetch_pattern_high
    background_prefetch_attribute := background_prefetch_attribute
    background_pattern_shift_low := background_pattern_shift_low
    background_pattern_shift_high := background_pattern_shift_high
    background_attribute_shift_low := background_attribute_shift_low
    background_attribute_shift_high := background_attribute_shift_high
    address_high := address_high
    fine_x := fine_x
    dot := dot
    scanline := scanline
    odd_frame := odd_frame
    completed := completed
    pixel_delay := pixel_delay
    frame_ready := frame_ready
    frame_revision := frame_revision
    nmi_line := nmi_line
    suppress_vblank := suppress_vblank }
  if ppu_refused ppu then throw .invalid_argument else pure ppu

end Ppu

/-! ## The machine -/

/-- The reason a code stands for. -/
def stop_reason_of (code : U32) : Option StopReason :=
  [.budget, .breakpoint, .unsupported_opcode, .unsupported_device, .bus_failure][code.toNat]?

/-- The kind a code stands for. -/
def transfer_kind_of (code : U32) : Option TransferKind := [.read, .write][code.toNat]?

section Machine

variable {σ γ : Type} (read : ReadCallback σ)

def read_controller : StreamM σ Controller := do
  let live ← read_u8 read
  let held ← read_u8 read
  let transient ← read_u8 read
  let captured ← read_u8 read
  let index ← read_u8 read
  let strobe ← snapshot_read_bool read
  pure {
    live := live
    held := held
    transient := transient
    captured := captured
    index := index
    strobe := strobe }

def read_registers (machine : CoreMachine γ) : StreamM σ (CoreMachine γ) := do
  let ram ← read_table read 2048
  let a ← read_u8 read
  let x ← read_u8 read
  let y ← read_u8 read
  let s ← read_u8 read
  let p ← read_u8 read
  let pc ← snapshot_read_u16 read
  let data_latch ← read_u8 read
  let initial_ram_byte ← read_u8 read
  pure { machine with
    ram := ram
    a := a
    x := x
    y := y
    s := s
    p := p
    pc := pc
    data_latch := data_latch
    initial_ram_byte := initial_ram_byte }

def read_lines (machine : CoreMachine γ) : StreamM σ (CoreMachine γ) := do
  let irq_asserted ← snapshot_read_bool read
  let external_irq_asserted ← snapshot_read_bool read
  let cartridge_irq_asserted ← snapshot_read_bool read
  let apu_irq_asserted ← snapshot_read_bool read
  let external_nmi_asserted ← snapshot_read_bool read
  let ppu_nmi_asserted ← snapshot_read_bool read
  let irq_poll_i ← snapshot_read_bool read
  let nmi_asserted ← snapshot_read_bool read
  let nmi_pending ← snapshot_read_bool read
  let nmi_defer_once ← snapshot_read_bool read
  let interrupt_phase ← read_u8 read
  pure { machine with
    irq_asserted := irq_asserted
    external_irq_asserted := external_irq_asserted
    cartridge_irq_asserted := cartridge_irq_asserted
    apu_irq_asserted := apu_irq_asserted
    external_nmi_asserted := external_nmi_asserted
    ppu_nmi_asserted := ppu_nmi_asserted
    irq_poll_i := irq_poll_i
    nmi_asserted := nmi_asserted
    nmi_pending := nmi_pending
    nmi_defer_once := nmi_defer_once
    interrupt_phase := interrupt_phase }

def read_dma (machine : CoreMachine γ) : StreamM σ (CoreMachine γ) := do
  let dma_page ← read_u8 read
  let dma_pending ← snapshot_read_bool read
  let dma_active ← snapshot_read_bool read
  let dma_alignment_pending ← snapshot_read_bool read
  let dma_phase ← read_u8 read
  let dma_index ← snapshot_read_u16 read
  let dma_latch ← read_u8 read
  let dmc_dma_address ← snapshot_read_u16 read
  let dmc_dma_phase ← read_u8 read
  let dmc_dma_latch ← read_u8 read
  let dmc_dma_active ← snapshot_read_bool read
  pure { machine with
    dma_page := dma_page
    dma_pending := dma_pending
    dma_active := dma_active
    dma_alignment_pending := dma_alignment_pending
    dma_phase := dma_phase
    dma_index := dma_index
    dma_latch := dma_latch
    dmc_dma_address := dmc_dma_address
    dmc_dma_phase := dmc_dma_phase
    dmc_dma_latch := dmc_dma_latch
    dmc_dma_active := dmc_dma_active }

def read_counts (machine : CoreMachine γ) : StreamM σ (CoreMachine γ) := do
  let cycles ← snapshot_read_u64 read
  let slots ← snapshot_read_u64 read
  let instructions ← snapshot_read_u64 read
  pure { machine with
    cycles := cycles
    slots := slots
    instructions := instructions }

/-- The reason is looked at once the whole of the trap has been read. -/
def read_trap : StreamM σ Observation := do
  let a ← read_u8 read
  let x ← read_u8 read
  let y ← read_u8 read
  let s ← read_u8 read
  let p ← read_u8 read
  let pc ← snapshot_read_u16 read
  let cycles ← snapshot_read_u64 read
  let instructions ← snapshot_read_u64 read
  let cartridge_present ← snapshot_read_bool read
  let trap_valid ← snapshot_read_bool read
  let reason ← snapshot_read_u32 read
  let trap_pc ← snapshot_read_u16 read
  let trap_address ← snapshot_read_u16 read
  let trap_opcode ← read_u8 read
  let trap_reason ← of_option .invalid_argument (stop_reason_of reason)
  pure {
    a := a
    x := x
    y := y
    s := s
    p := p
    pc := pc
    cycles := cycles
    instructions := instructions
    cartridge_present := cartridge_present
    trap_valid := trap_valid
    trap_reason := trap_reason
    trap_pc := trap_pc
    trap_address := trap_address
    trap_opcode := trap_opcode }

def read_transfer : StreamM σ BusTransfer := do
  let address ← snapshot_read_u16 read
  let value ← read_u8 read
  let code ← snapshot_read_u32 read
  let kind ← of_option .invalid_argument (transfer_kind_of code)
  pure {
    address := address
    value := value
    kind := kind }

def read_breakpoints (machine : CoreMachine γ) : StreamM σ (CoreMachine γ) := do
  let breakpoints ← snapshot_read_u16s read 16
  let breakpoint_count ← snapshot_read_u16 read
  let breakpoint_bypass_pc ← snapshot_read_u16 read
  let breakpoint_bypass_valid ← snapshot_read_bool read
  pure { machine with
    breakpoints := breakpoints
    breakpoint_count := breakpoint_count
    breakpoint_bypass_pc := breakpoint_bypass_pc
    breakpoint_bypass_valid := breakpoint_bypass_valid }

/-- The counters a stored machine may not have. -/
def machine_refused (machine : CoreMachine γ) : Prop :=
  8 < machine.controller.index.toNat ∨ 16 < machine.trace_count.toNat ∨
    16 < machine.breakpoint_count.toNat ∨ 2 < machine.interrupt_phase.toNat ∨
    3 < machine.dma_phase.toNat ∨ 256 < machine.dma_index.toNat ∨
    machine.dma_active ∧ 256 ≤ machine.dma_index.toNat ∨ 4 < machine.dmc_dma_phase.toNat ∨
    machine.dmc_dma_active ∧ 4 ≤ machine.dmc_dma_phase.toNat

instance (machine : CoreMachine γ) : Decidable (machine_refused machine) := by
  unfold machine_refused
  infer_instance

/-- `snapshot_read_machine`. -/
def snapshot_read_machine (machine : CoreMachine γ) : StreamM σ (CoreMachine γ) := do
  let apu ← snapshot_read_apu read machine.apu
  let ppu ← snapshot_read_ppu read machine.ppu
  let controller ← read_controller read
  let machine := { machine with apu := apu, ppu := ppu, controller := controller }
  let machine ← read_registers read machine
  let machine ← read_lines read machine
  let machine ← read_dma read machine
  let machine ← read_counts read machine
  let trap ← read_trap read
  let trace_count ← snapshot_read_u32 read
  let trace ← read_each (read_transfer read) 16
  let machine := { machine with trap := trap, trace_count := trace_count, trace := trace }
  let machine ← read_breakpoints read machine
  if machine_refused machine then throw .invalid_argument else pure machine

end Machine

end Nxvm.Nes
