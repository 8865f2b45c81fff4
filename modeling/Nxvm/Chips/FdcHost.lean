/-
The floppy disk controller as its host sees it: creation and the data register.

The bytes of a command are collected until there are as many as its opcode has, the bytes of a
result are handed out one by one, and a transfer without DMA exchanges its bytes here.
-/
import Nxvm.Chips.FdcExecute

set_option autoImplicit false

namespace Nxvm.Chips

open Nxvm.Lib.Register

section Setup

variable {μ σ : Type} (setup : FdcSetup μ σ)

/-! ## Creation -/

/-- The registers of a chip that was just allocated, with the READY lines of its drives. -/
def FdcData.created (observed_ready : Fin 4 → Bool) : FdcData where
  hut := 0
  hlt := 0
  srt := 0
  flagNDMA := false
  flagINTR := false
  phase := .command
  command_length := 0
  command_index := 0
  result_length := 0
  result_index := 0
  cmd := .replicate 9 0
  ret := .replicate 7 0
  st0 := 0
  st1 := 0
  st2 := 0
  st3 := 0
  pending_st0 := 0
  pending_st1 := 0
  pending_st2 := 0
  transfer_expect_deleted := false
  transfer_write_deleted := false
  scan_mode := .equal
  scan_sector_satisfies := false
  cylinder := 0
  head := 0
  sector := 0
  eot := 0
  byte_offset := 0
  transfer_remaining := 0
  format_headers_remaining := 0
  format_id := .replicate 4 0
  format_id_index := 0
  selected_drive := 0
  reset_sense_mask := fun _ => false
  reset_due_tick := 0
  reset_pending := false
  observed_ready
  ready_sense_mask := fun _ => false
  ready_poll_enabled := false
  head_loaded_mask := fun _ => false
  head_unload_mask := fun _ => false
  head_load_due_tick := 0
  head_unload_due_tick := fun _ => 0
  dma_byte_gate_pending := false
  ndma_byte_gate_pending := false
  service_pending := false
  service_due_tick := 0
  elapsed_ticks := 0
  next_dma_byte_tick := 0
  next_ndma_byte_tick := 0

/-- The heads of a chip that was just allocated. -/
def FdcMotion.created (drives : μ) : FdcMotion μ where
  pcn := fun _ => 0
  seek_target := fun _ => 0
  seek_due_tick := fun _ => 0
  seek_pending_mask := fun _ => false
  seek_recalibrate := fun _ => false
  seek_head := fun _ => 0
  seek_steps := fun _ => 0
  seek_results := []
  drives
  steps := []

/-- `x86_fdc_create`. -/
def fdc_create (drives : μ) (media : σ) : FdcState μ σ where
  core := {
    data := FdcData.created (fdc_drive_status_ready setup drives)
    media
    reset_released := false
    irq := false
    drq := false }
  motion := FdcMotion.created drives

/-! ## The data register -/

/-- `x86_fdc_command_length`. -/
def fdc_command_length (command : U8) : ℕ :=
  let opcode := fdc_command_opcode command
  if opcode = fdc_cmd_specify ∨ opcode = fdc_cmd_seek then 3
  else if opcode = fdc_cmd_sense_drive_status ∨ opcode = fdc_cmd_recalibrate ∨
      opcode = fdc_cmd_read_id then 2
  else if opcode = fdc_cmd_format_track then 6
  else if fdc_loads_heads opcode then 9
  else 1

/-- A cause of an interrupt that a data access leaves: results of seeks or changes of READY. -/
def fdc_other_cause (s : FdcState μ σ) : Bool :=
  !s.motion.seek_results.isEmpty || (fdc_lowest s.core.data.ready_sense_mask).isSome

/-- `x86_fdc_acknowledge_ndma_byte`. -/
def fdc_acknowledge_ndma_byte (s : FdcState μ σ) (fdc : FdcCore σ) : FdcCore σ :=
  fdc_keep_irq fdc (fdc_other_cause s)

/-- The request for the byte after this one. -/
def fdc_next_ndma_byte (fdc : FdcCore σ) : FdcCore σ :=
  fdc_publish_ndma_request setup (fdc_schedule_ndma_byte setup fdc)

/-- The next byte of a command. -/
def fdc_write_command (fdc : FdcCore σ) (byte : U8) : FdcCore σ :=
  let command_length :=
    if fdc.data.command_index = 0 then fdc_command_length byte else fdc.data.command_length
  let fdc := { fdc with data := { fdc.data with command_length } }
  if 9 ≤ fdc.data.command_index then fdc
  else
    let fdc := { fdc with data := { fdc.data with
      cmd := fdc.data.cmd.setIfInBounds fdc.data.command_index byte
      command_index := fdc.data.command_index + 1 } }
    if fdc.data.command_index = fdc.data.command_length then
      { fdc with data := { fdc.data with phase := .pending_command } }
    else fdc

/-- A byte is written, compared or collected without DMA. -/
def fdc_write_ndma_byte (s : FdcState μ σ) (byte : U8) : FdcCore σ :=
  let drives := s.motion.drives
  match s.core.data.phase with
  | .execution_write =>
    fdc_next_ndma_byte setup
      (fdc_transfer_byte setup drives (fdc_acknowledge_ndma_byte s s.core) byte true).2
  | .execution_scan =>
    let prepared :=
      if s.core.data.byte_offset = 0 then fdc_prepare_read_sector setup drives s.core
      else (true, s.core)
    if prepared.1 then
      fdc_next_ndma_byte setup
        (fdc_scan_byte setup drives (fdc_acknowledge_ndma_byte s prepared.2) byte)
    else prepared.2
  | .execution_format =>
    fdc_next_ndma_byte setup
      (fdc_format_byte setup drives (fdc_acknowledge_ndma_byte s s.core) byte)
  | _ => s.core

/-- `x86_fdc_write_data`. -/
def fdc_write_data (s : FdcState μ σ) (byte : U8) : FdcState μ σ :=
  let data := s.core.data
  let core :=
    if data.phase = .command then fdc_write_command s.core byte
    else if data.flagNDMA = true ∧ data.ndma_byte_gate_pending = false then
      fdc_write_ndma_byte setup s byte
    else s.core
  { s with core }

/-- The bytes of a command, one after another. -/
def fdc_write_all (s : FdcState μ σ) (bytes : List U8) : FdcState μ σ :=
  bytes.foldl (fdc_write_data setup) s

/-- The data register moves no head. -/
theorem fdc_write_all_motion (bytes : List U8) :
    ∀ s : FdcState μ σ, (fdc_write_all setup s bytes).motion = s.motion := by
  induction bytes with
  | nil => exact fun s => rfl
  | cons byte bytes ih => exact fun s => (ih (fdc_write_data setup s byte)).trans rfl

end Setup

end Nxvm.Chips
