/-
Commands of the floppy disk controller and the progression of time (`x86_fdc_execute`,
`x86_fdc_advance_at`).

A command executes when time next moves on, or, where the heads have to be loaded first, when they
are. The progression then runs all that is due: the reset's interrupt, the heads that seek, the
next byte of a transfer, and the overrun of one that nobody served.
-/
import Nxvm.Chips.FdcTransfer
import Nxvm.Chips.FdcSeek

set_option autoImplicit false

namespace Nxvm.Chips

open Nxvm.Lib.Register

section Setup

variable {μ σ : Type} (setup : FdcSetup μ σ)

/-! ## Opcodes -/

/-- The bits above the opcode that the command may have. -/
def fdc_command_flags (opcode : U8) : U8 :=
  if opcode = fdc_cmd_read_data ∨ opcode = fdc_cmd_read_deleted_data ∨
      opcode = fdc_cmd_scan_equal ∨ opcode = fdc_cmd_scan_low_or_equal ∨
      opcode = fdc_cmd_scan_high_or_equal then 0xe0
  else if opcode = fdc_cmd_write_data ∨ opcode = fdc_cmd_write_deleted_data then 0xc0
  else if opcode = fdc_cmd_read_track then 0x60
  else if opcode = fdc_cmd_read_id ∨ opcode = fdc_cmd_format_track then 0x40
  else 0

/-- `x86_fdc_command_opcode`. -/
def fdc_command_opcode (command : U8) : U8 :=
  let opcode := command &&& 0x1f
  if command &&& 0xe0 &&& ~~~fdc_command_flags opcode = 0 then opcode else 0xff

/-- The commands that need the heads loaded. -/
def fdc_loads_heads (opcode : U8) : Bool :=
  opcode = fdc_cmd_read_data || opcode = fdc_cmd_write_data ||
    opcode = fdc_cmd_read_deleted_data || opcode = fdc_cmd_write_deleted_data ||
    opcode = fdc_cmd_read_track || opcode = fdc_cmd_read_id || opcode = fdc_cmd_format_track ||
    opcode = fdc_cmd_scan_equal || opcode = fdc_cmd_scan_low_or_equal ||
    opcode = fdc_cmd_scan_high_or_equal

/-- The drive that the second byte of the command names. -/
def FdcData.named_drive (data : FdcData) : Fin 4 :=
  ⟨(data.command_byte 1 &&& 3).toNat % 4, Nat.mod_lt _ (by decide)⟩

/-- The head that the second byte of the command names. -/
def FdcData.named_head (data : FdcData) : ℕ := (data.command_byte 1 >>> 2 &&& 1).toNat

/-- The lowest drive of a mask. -/
def fdc_lowest (mask : Fin 4 → Bool) : Option (Fin 4) := (List.finRange 4).find? mask

/-! ## Heads -/

/-- `x86_fdc_unload_due_heads`. -/
def fdc_unload_due_heads (fdc : FdcCore σ) : FdcCore σ :=
  let due (drive : Fin 4) : Bool :=
    fdc.data.head_unload_mask drive &&
      fdc.data.head_unload_due_tick drive ≤ fdc.data.elapsed_ticks
  { fdc with data := { fdc.data with
    head_unload_mask := fun drive => fdc.data.head_unload_mask drive && !due drive
    head_loaded_mask := fun drive => fdc.data.head_loaded_mask drive && !due drive } }

/-- `x86_fdc_wait_head_load`: whether the command has to wait. -/
def fdc_wait_head_load (drives : μ) (fdc : FdcCore σ) (opcode : U8) : Bool × FdcCore σ :=
  if fdc_loads_heads opcode then
    let drive := fdc.data.named_drive
    let fdc := { fdc with data := { fdc.data with selected_drive := drive } }
    if !fdc_drive_ready setup drives fdc then (false, fdc)
    else
      let fdc := { fdc with data := { fdc.data with
        head_unload_mask := Function.update fdc.data.head_unload_mask drive false } }
      if fdc.data.head_loaded_mask drive then (false, fdc)
      else
        let due := fdc_deadline fdc.data.elapsed_ticks
          (fdc_timer_ticks setup (fdc.data.hlt.toNat * 2))
        let fdc := { fdc with data := { fdc.data with
          head_loaded_mask := Function.update fdc.data.head_loaded_mask drive true
          head_load_due_tick := due } }
        if due = fdc.data.elapsed_ticks then (false, fdc)
        else (true, { fdc with data := { fdc.data with phase := .head_load } })
  else (false, fdc)

/-! ## Commands -/

/-- One byte of result. -/
def fdc_short_result (fdc : FdcCore σ) (value : U8) : FdcCore σ :=
  fdc_result_phase { fdc with data := { fdc.data with ret := fdc.data.ret.set 0 value } } 1

/-- SPECIFY. -/
def fdc_specify (fdc : FdcCore σ) : FdcCore σ :=
  let command := fdc.data.command_byte
  fdc_command_phase { fdc with data := { fdc.data with
    hut := command 1 &&& 0x0f
    srt := command 1 >>> 4
    hlt := command 2 >>> 1
    flagNDMA := is_set (command 2) 1
    ready_poll_enabled := true } }

/-- SENSE DRIVE STATUS. -/
def fdc_sense_drive_status (drives : μ) (fdc : FdcCore σ) : FdcCore σ :=
  let drive := fdc.data.named_drive
  let head := fdc.data.named_head
  let pins := setup.sample drives drive
  let st3 : U8 := BitVec.ofNat 8 drive.val ||| BitVec.ofNat 8 (head * 4) |||
    (if pins.write_protected then 0x40 else 0) ||| (if pins.ready then 0x20 else 0) |||
    (if pins.two_sided then 0x08 else 0) ||| (if pins.track_zero then 0x10 else 0) |||
    (if pins.fault then 0x80 else 0)
  fdc_short_result { fdc with data := { fdc.data with selected_drive := drive, head, st3 } } st3

/-- READ ID. -/
def fdc_read_id (drives : μ) (fdc : FdcCore σ) : FdcCore σ :=
  let fdc := { fdc with data := { fdc.data with selected_drive := fdc.data.named_drive } }
  let media := fdc_track_info setup drives fdc
  let fdc := { fdc with data := { fdc.data with
    cylinder := media.2.cylinder, head := fdc.data.named_head } }
  if !fdc_drive_ready setup drives fdc || !media.1 then fdc_complete_missing_input setup drives fdc
  else if media.2.id_readable = false ∨ media.2.sectors = 0 ∨ media.2.bytes_per_sector ≠ 512 ∨
      media.2.heads ≤ fdc.data.head then
    fdc_complete_transfer setup fdc fdc_st1_no_data
  else
    let fdc := { fdc with data := { fdc.data with sector := 1 } }
    let fdc := fdc_set_result fdc (BitVec.ofNat 8 (fdc.data.head % 2 * 4)) 0 0
    fdc_raise_irq (fdc_result_phase (fdc_end_head_execution setup fdc) 7)

/-- FORMAT TRACK. -/
def fdc_format_track (drives : μ) (fdc : FdcCore σ) : FdcCore σ :=
  let fdc := { fdc with data := { fdc.data with selected_drive := fdc.data.named_drive } }
  let media := fdc_track_info setup drives fdc
  let command := fdc.data.command_byte
  let fdc := { fdc with data := { fdc.data with
    cylinder := media.2.cylinder, head := fdc.data.named_head, sector := 1, eot := (command 3).toNat
    format_headers_remaining := (command 3).toNat, format_id_index := 0 } }
  if !fdc_drive_ready setup drives fdc then fdc_complete_missing_input setup drives fdc
  else if fdc_sector_size (command 2) ≠ 2 ∨ fdc.data.eot = 0 ∨ media.1 = false ∨
      media.2.id_readable = false ∨ media.2.sectors < fdc.data.eot then
    fdc_complete_transfer setup fdc fdc_st1_no_data
  else
    fdc_first_request setup { fdc with data := { fdc.data with phase := .execution_format } }

/-- The commands of `x86_fdc_execute` that transfer data or IDs, and those that are not known. -/
def fdc_execute_media (drives : μ) (fdc : FdcCore σ) (opcode : U8) : FdcCore σ :=
  if opcode = fdc_cmd_read_id then fdc_read_id setup drives fdc
  else if opcode = fdc_cmd_read_data then
    fdc_start_transfer setup drives fdc .execution_read false .equal
  else if opcode = fdc_cmd_read_track then fdc_start_read_track setup drives fdc
  else if opcode = fdc_cmd_write_data then
    fdc_start_transfer setup drives fdc .execution_write false .equal
  else if opcode = fdc_cmd_read_deleted_data then
    fdc_start_transfer setup drives fdc .execution_read true .equal
  else if opcode = fdc_cmd_write_deleted_data then
    fdc_start_transfer setup drives fdc .execution_write true .equal
  else if opcode = fdc_cmd_scan_equal then
    fdc_start_transfer setup drives fdc .execution_scan false .equal
  else if opcode = fdc_cmd_scan_low_or_equal then
    fdc_start_transfer setup drives fdc .execution_scan false .low_or_equal
  else if opcode = fdc_cmd_scan_high_or_equal then
    fdc_start_transfer setup drives fdc .execution_scan false .high_or_equal
  else if opcode = fdc_cmd_format_track then fdc_format_track setup drives fdc
  else fdc_short_result fdc 0x80

/-- The drive and the head of a seek. -/
def fdc_select_seek (fdc : FdcCore σ) (head : ℕ) : FdcCore σ :=
  { fdc with data := { fdc.data with
    selected_drive := fdc.data.named_drive, head, sector := 1 } }

/-- Two bytes of result. -/
def fdc_sense_result (fdc : FdcCore σ) (st0 cylinder : U8) : FdcCore σ :=
  fdc_result_phase
    { fdc with data := { fdc.data with ret := (fdc.data.ret.set 0 st0).set 1 cylinder } } 2

/-- SENSE INTERRUPT STATUS: a reset's report, the first result of a seek, or a change of READY. -/
def fdc_sense_interrupt (s : FdcState μ σ) : FdcState μ σ :=
  let data := s.core.data
  match fdc_lowest data.reset_sense_mask with
  | some drive =>
    let core := fdc_keep_irq { s.core with data := { data with
      reset_sense_mask := Function.update data.reset_sense_mask drive false } } false
    let st0 := fdc_st0_ready_change ||| BitVec.ofNat 8 drive.val
    { s with core := fdc_sense_result core st0 (s.motion.pcn drive) }
  | none =>
    match s.motion.seek_results with
    | result :: rest =>
      let core := fdc_keep_irq s.core
        (!rest.isEmpty || (fdc_lowest data.ready_sense_mask).isSome)
      { core := fdc_sense_result core result.st0 result.cylinder
        motion := { s.motion with seek_results := rest } }
    | [] =>
      match fdc_lowest data.ready_sense_mask with
      | some drive =>
        let ready_sense_mask := Function.update data.ready_sense_mask drive false
        let core := fdc_keep_irq { s.core with data := { data with ready_sense_mask } }
          (fdc_lowest ready_sense_mask).isSome
        let st0 := fdc_st0_ready_change ||| BitVec.ofNat 8 drive.val |||
          if data.observed_ready drive then 0 else fdc_st0_not_ready
        { s with core := fdc_sense_result core st0 (s.motion.pcn drive) }
      | none => { s with core := fdc_short_result s.core 0x80 }

/-- The commands of `x86_fdc_execute`. -/
def fdc_execute_opcode (s : FdcState μ σ) (opcode : U8) : FdcState μ σ :=
  if opcode = fdc_cmd_specify then { s with core := fdc_specify s.core }
  else if opcode = fdc_cmd_sense_drive_status then
    { s with core := fdc_sense_drive_status setup s.motion.drives s.core }
  else if opcode = fdc_cmd_recalibrate then
    fdc_begin_seek setup { s with core := fdc_select_seek s.core 0 } 0
  else if opcode = fdc_cmd_sense_interrupt then fdc_sense_interrupt s
  else if opcode = fdc_cmd_seek then
    fdc_begin_seek setup { s with core := fdc_select_seek s.core s.core.data.named_head }
      ((s.core.data.command_byte 2).zeroExtend 16)
  else { s with core := fdc_execute_media setup s.motion.drives s.core opcode }

/-- A command that must not begin: results are still to be sensed, or its drive seeks. -/
def fdc_command_rejected (s : FdcState μ σ) (opcode : U8) : Bool :=
  opcode ≠ fdc_cmd_sense_interrupt && !s.motion.seek_results.isEmpty ||
    (opcode = fdc_cmd_seek || opcode = fdc_cmd_recalibrate) &&
      s.motion.seek_pending_mask s.core.data.named_drive

/-- Any other command than SENSE INTERRUPT STATUS supersedes the reports of a reset. -/
def fdc_supersede_reset (fdc : FdcCore σ) (opcode : U8) : FdcCore σ :=
  if opcode ≠ fdc_cmd_sense_interrupt ∧ (fdc_lowest fdc.data.reset_sense_mask).isSome = true then
    { fdc with
      irq := false
      data := { fdc.data with reset_sense_mask := fun _ => false, reset_pending := false } }
  else fdc

/-- `x86_fdc_execute`. -/
def fdc_execute (s : FdcState μ σ) : FdcState μ σ :=
  let opcode := fdc_command_opcode (s.core.data.command_byte 0)
  if fdc_command_rejected s opcode then { s with core := fdc_short_result s.core 0x80 }
  else
    let waits := fdc_wait_head_load setup s.motion.drives (fdc_supersede_reset s.core opcode) opcode
    if waits.1 then { s with core := waits.2 }
    else fdc_execute_opcode setup { s with core := waits.2 } opcode

/-! ## Time -/

/-- `x86_fdc_publish_due_reset`. -/
def fdc_publish_due_reset (fdc : FdcCore σ) : FdcCore σ :=
  if !fdc.data.reset_pending || fdc.data.elapsed_ticks < fdc.data.reset_due_tick then fdc
  else
    let fdc := { fdc with data := { fdc.data with reset_pending := false } }
    if (fdc_lowest fdc.data.reset_sense_mask).isSome then fdc_raise_irq fdc else fdc

/-- The tick, the heads that are unloaded by it, and the command whose heads are loaded by it. -/
def fdc_set_elapsed (drives : μ) (fdc : FdcCore σ) (elapsed_ticks : ℕ) : FdcCore σ :=
  let fdc := fdc_unload_due_heads { fdc with data := { fdc.data with elapsed_ticks } }
  if fdc.data.phase = .head_load ∧ (fdc.data.head_load_due_tick ≤ elapsed_ticks ∨
      fdc_drive_ready setup drives fdc = false) then
    { fdc with data := { fdc.data with phase := .pending_command } }
  else fdc

/-- The command that waits, or the result that waits. -/
def fdc_run_command (s : FdcState μ σ) : FdcState μ σ :=
  let data := s.core.data
  match data.phase with
  | .pending_command => fdc_execute setup s
  | .pending_complete =>
    let core := fdc_set_result s.core data.pending_st0 data.pending_st1 data.pending_st2
    { s with core := fdc_raise_irq (fdc_result_phase core 7) }
  | _ => s

/-- An execution whose drive is no longer ready. -/
def fdc_check_input (drives : μ) (fdc : FdcCore σ) : FdcCore σ :=
  if fdc_execution_active fdc.data && !fdc_drive_ready setup drives fdc then
    fdc_complete_missing_input setup drives fdc
  else fdc

/-- A byte that was not served in time. -/
def fdc_check_overrun (fdc : FdcCore σ) : FdcCore σ :=
  if fdc.data.service_pending = true ∧ fdc.data.service_due_tick ≤ fdc.data.elapsed_ticks then
    fdc_complete_transfer setup fdc fdc_st1_overrun
  else fdc

/-- What `x86_fdc_advance_at` does with bytes. -/
def fdc_run_transfer (drives : μ) (fdc : FdcCore σ) : FdcCore σ :=
  let fdc := fdc_publish_due_dma_byte setup drives fdc
  let fdc := fdc_publish_due_ndma_byte setup drives fdc
  fdc_check_overrun setup (fdc_publish_ndma_request setup fdc)

/-- `x86_fdc_advance_at`. -/
def fdc_advance_at (s : FdcState μ σ) (elapsed_ticks : ℕ) : FdcState μ σ :=
  if elapsed_ticks < s.core.data.elapsed_ticks then s
  else
    let s := { s with core := fdc_set_elapsed setup s.motion.drives s.core elapsed_ticks }
    let s := fdc_run_command setup s
    let core := fdc_check_input setup s.motion.drives (fdc_publish_due_reset s.core)
    let s := fdc_advance_seeks setup { s with core }
    { s with core := fdc_run_transfer setup s.motion.drives s.core }

end Setup

end Nxvm.Chips
