/-
The transfers of the floppy disk controller: sectors, bytes, scans, formats and terminal count.

A transfer counts the bytes that remain and the position of the next one. The next sector is
looked at when its first byte is asked for, not when the one before it ends, because terminal
count may come in between.
-/
import Nxvm.Chips.Fdc

set_option autoImplicit false

namespace Nxvm.Chips

open Nxvm.Lib.Register

section Setup

variable {μ σ : Type} (setup : FdcSetup μ σ) (drives : μ)

/-! ## Positions -/

/-- `x86_fdc_advance_position`. -/
def fdc_advance_position (fdc : FdcCore σ) : FdcCore σ :=
  let byte_offset := fdc.data.byte_offset + 1
  if byte_offset < 512 then { fdc with data := { fdc.data with byte_offset } }
  else
    { fdc with data := { fdc.data with
      byte_offset := 0, sector := fdc.data.sector + fdc_sector_step fdc.data } }

/-- `x86_fdc_prepare_next_track`. -/
def fdc_prepare_next_track (fdc : FdcCore σ) : FdcCore σ :=
  if fdc.data.transfer_remaining ≠ 0 ∧ fdc.data.head = 0 ∧
      fdc.data.command_flag fdc_multi_track = true ∧
      fdc.data.sector = fdc.data.eot + fdc_sector_step fdc.data then
    { fdc with data := { fdc.data with head := 1, sector := 1 } }
  else fdc

/-- The ID after the last sector, where `R` has passed `EOT`. -/
def fdc_wrap_id (data : FdcData) : FdcData :=
  if data.sector > data.eot then
    if data.command_flag fdc_multi_track then
      { data with
        sector := 1
        cylinder := if data.head % 2 ≠ 0 then data.cylinder + 1 else data.cylinder
        head := data.head ^^^ 1 }
    else { data with sector := 1, cylinder := data.cylinder + 1 }
  else data

/-- `x86_fdc_complete_dma_data`. -/
def fdc_complete_dma_data (fdc : FdcCore σ) : FdcCore σ :=
  let fdc := fdc_complete_transfer setup fdc 0
  let sector := if fdc.data.byte_offset ≠ 0 then fdc.data.sector + 1 else fdc.data.sector
  { fdc with data := fdc_wrap_id { fdc.data with sector, byte_offset := 0 } }

/-! ## Bytes -/

/-- The error of a write that a medium refuses. -/
def fdc_write_error (result : FdcRecordResult) : U8 :=
  if result = .write_protected then fdc_st1_not_writable else fdc_st1_no_data

/-- A byte has been transferred. -/
def fdc_byte_done (fdc : FdcCore σ) : FdcCore σ :=
  let fdc := { fdc with data := { fdc.data with
    transfer_remaining := fdc.data.transfer_remaining - 1 } }
  let fdc := fdc_advance_position fdc
  if fdc.data.transfer_remaining = 0 then
    if fdc.data.phase = .execution_write_tail then fdc_complete_dma_data setup fdc
    else fdc_complete_transfer setup fdc 0
  else fdc

/-- `x86_fdc_transfer_byte`: the byte and the chip after it. -/
def fdc_transfer_byte (fdc : FdcCore σ) (byte : U8) (write_to_media : Bool) : U8 × FdcCore σ :=
  let fdc := fdc_prepare_next_track fdc
  let record := fdc_record_at fdc.data
  let drive := fdc.data.selected_drive
  if fdc.data.transfer_remaining = 0 then
    (byte, fdc_complete_transfer setup fdc fdc_st1_no_data)
  else if !fdc_drive_ready setup drives fdc then
    (byte, fdc_complete_missing_input setup drives fdc)
  else if fdc.data.eot < fdc.data.sector ∨ fdc_record_valid setup drives fdc record = false then
    (byte, fdc_complete_transfer setup fdc fdc_st1_end_of_cylinder)
  else if write_to_media then
    let marked :=
      if fdc.data.byte_offset = 0 then
        setup.write_mark fdc.media drive record fdc.data.transfer_write_deleted
      else (.ok, fdc.media)
    let fdc := { fdc with media := marked.2 }
    if marked.1 ≠ .ok then (byte, fdc_complete_transfer setup fdc (fdc_write_error marked.1))
    else
      let written := setup.write fdc.media drive record byte
      let fdc := { fdc with media := written.2 }
      if written.1 ≠ .ok then (byte, fdc_complete_transfer setup fdc (fdc_write_error written.1))
      else (byte, fdc_byte_done setup fdc)
  else
    let found := setup.read fdc.media drive record
    if found.1 ≠ .ok then (byte, fdc_complete_transfer setup fdc fdc_st1_no_data)
    else (found.2, fdc_byte_done setup fdc)

/-! ## Sectors -/

/-- No sector is left to read from: the end of `x86_fdc_prepare_read_sector`. -/
def fdc_no_sector_left (fdc : FdcCore σ) : FdcCore σ :=
  if fdc.data.phase ≠ .execution_scan then
    fdc_complete_transfer setup fdc fdc_st1_end_of_cylinder
  else
    let step := fdc_sector_step fdc.data
    let fdc := { fdc with data := { fdc.data with
      pending_st2 := without fdc.data.pending_st2 fdc_st2_scan_match ||| fdc_st2_scan_mismatch } }
    fdc_complete_transfer setup fdc
      (if fdc.data.sector = fdc.data.eot + step then 0 else fdc_st1_end_of_cylinder)

/-- A record of the other kind is met. -/
def fdc_other_mark (fdc : FdcCore σ) : FdcCore σ :=
  if fdc.data.phase = .execution_scan ∨ fdc.data.command_flag fdc_skip = false ∨
      fdc.data.command_code = fdc_cmd_read_track then
    { fdc with data := { fdc.data with
      pending_st2 := fdc.data.pending_st2 ||| fdc_st2_control_mark } }
  else fdc

/-- The loop of `x86_fdc_prepare_read_sector`, over the bytes that remain. -/
def fdc_prepare_sectors : ℕ → FdcCore σ → Bool × FdcCore σ
  | 0, fdc => (false, fdc_no_sector_left setup fdc)
  | left + 1, fdc =>
    if fdc.data.transfer_remaining = 0 then (false, fdc_no_sector_left setup fdc)
    else
      let fdc := fdc_prepare_next_track fdc
      let record := fdc_record_at fdc.data
      if fdc.data.eot < fdc.data.sector ∨ fdc_record_valid setup drives fdc record = false then
        (false, fdc_complete_transfer setup fdc fdc_st1_end_of_cylinder)
      else
        let mark := setup.read_mark fdc.media fdc.data.selected_drive record
        if mark.1 ≠ .ok then (false, fdc_complete_transfer setup fdc fdc_st1_no_data)
        else if mark.2 = fdc.data.transfer_expect_deleted then (true, fdc)
        else
          let fdc := fdc_other_mark fdc
          if fdc.data.command_code = fdc_cmd_read_track then (true, fdc)
          else if fdc.data.command_flag fdc_skip = false then
            (true, { fdc with data := { fdc.data with transfer_remaining := 512 } })
          else
            fdc_prepare_sectors left { fdc with data := { fdc.data with
              transfer_remaining := fdc.data.transfer_remaining - 512
              sector := fdc.data.sector + fdc_sector_step fdc.data
              scan_sector_satisfies := true } }

/-- `x86_fdc_prepare_read_sector`. -/
def fdc_prepare_read_sector (fdc : FdcCore σ) : Bool × FdcCore σ :=
  fdc_prepare_sectors setup drives fdc.data.transfer_remaining fdc

/-! ## Scans and formats -/

/-- The comparison of a scan. -/
def fdc_byte_satisfies (mode : FdcScanMode) (compare_byte media_byte : U8) : Bool :=
  match mode with
  | .equal => compare_byte = media_byte
  | .low_or_equal => media_byte ≤ compare_byte
  | .high_or_equal => media_byte ≥ compare_byte

/-- The end of a sector that is scanned. -/
def fdc_scan_sector_done (fdc : FdcCore σ) : FdcCore σ :=
  if fdc.data.scan_sector_satisfies then fdc_complete_transfer setup fdc 0
  else if fdc.data.transfer_remaining = 0 then
    let st1 :=
      if is_set fdc.data.pending_st2 fdc_st2_control_mark ∧
            fdc.data.command_flag fdc_skip = false ∨
          fdc.data.sector = fdc.data.eot + fdc_sector_step fdc.data then 0
      else fdc_st1_end_of_cylinder
    let fdc := { fdc with data := { fdc.data with
      pending_st2 := fdc.data.pending_st2 ||| fdc_st2_scan_mismatch } }
    fdc_complete_transfer setup fdc st1
  else
    { fdc with data := { fdc.data with
      scan_sector_satisfies := true
      pending_st2 := fdc.data.pending_st2 ||| fdc_st2_scan_match } }

/-- `x86_fdc_scan_byte`. -/
def fdc_scan_byte (fdc : FdcCore σ) (compare_byte : U8) : FdcCore σ :=
  let fdc := fdc_prepare_next_track fdc
  let record := fdc_record_at fdc.data
  if !fdc_drive_ready setup drives fdc then fdc_complete_missing_input setup drives fdc
  else if fdc.data.transfer_remaining = 0 then fdc_complete_transfer setup fdc fdc_st1_no_data
  else if fdc.data.eot < fdc.data.sector ∨ fdc_record_valid setup drives fdc record = false then
    fdc_complete_transfer setup fdc fdc_st1_end_of_cylinder
  else
    let found := setup.read fdc.media fdc.data.selected_drive record
    if found.1 ≠ .ok then fdc_complete_transfer setup fdc fdc_st1_no_data
    else
      let satisfies := fdc_byte_satisfies fdc.data.scan_mode compare_byte found.2
      let fdc := { fdc with data := { fdc.data with
        pending_st2 :=
          if compare_byte ≠ found.2 then without fdc.data.pending_st2 fdc_st2_scan_match
          else fdc.data.pending_st2
        scan_sector_satisfies := fdc.data.scan_sector_satisfies && satisfies
        transfer_remaining := fdc.data.transfer_remaining - 1 } }
      let fdc := fdc_advance_position fdc
      if fdc.data.byte_offset ≠ 0 then fdc else fdc_scan_sector_done setup fdc

/-- The four bytes of an ID are there. -/
def fdc_format_record (fdc : FdcCore σ) : FdcCore σ :=
  let id := fdc.data.format_id
  let record : FdcRecord := ⟨fdc.data.cylinder, fdc.data.head, id[2].toNat, 0⟩
  if id[0].toNat ≠ fdc.data.cylinder ∨ id[1].toNat ≠ fdc.data.head ∨ id[3] ≠ 2 ∨
      fdc_record_valid setup drives fdc record = false then
    fdc_complete_transfer setup fdc fdc_st1_no_data
  else
    let formatted := setup.format fdc.media fdc.data.selected_drive record (fdc.data.command_byte 5)
    let fdc : FdcCore σ := { fdc with media := formatted.2 }
    if formatted.1 ≠ .ok then fdc_complete_transfer setup fdc (fdc_write_error formatted.1)
    else
      let fdc : FdcCore σ := { fdc with data := { fdc.data with
        format_headers_remaining := fdc.data.format_headers_remaining - 1
        sector := id[2].toNat + 1 } }
      if fdc.data.format_headers_remaining = 0 then fdc_complete_transfer setup fdc 0 else fdc

/-- `x86_fdc_format_byte`. -/
def fdc_format_byte (fdc : FdcCore σ) (byte : U8) : FdcCore σ :=
  if fdc.data.format_headers_remaining = 0 then fdc
  else if !fdc_drive_ready setup drives fdc then fdc_complete_missing_input setup drives fdc
  else
    let fdc := { fdc with data := { fdc.data with
      format_id := fdc.data.format_id.setIfInBounds fdc.data.format_id_index byte
      format_id_index := fdc.data.format_id_index + 1 } }
    if fdc.data.format_id_index ≠ 4 then fdc
    else
      fdc_format_record setup drives { fdc with data := { fdc.data with format_id_index := 0 } }

/-! ## DMA -/

/-! ## Gates -/

/-- `x86_fdc_publish_due_dma_byte`. -/
def fdc_publish_due_dma_byte (fdc : FdcCore σ) : FdcCore σ :=
  if !fdc.data.dma_byte_gate_pending || fdc.data.elapsed_ticks < fdc.data.next_dma_byte_tick ||
      !fdc_execution_active fdc.data then fdc
  else
    let fdc := { fdc with data := { fdc.data with dma_byte_gate_pending := false } }
    if fdc.data.phase = .execution_write_tail then
      fdc_schedule_dma_byte setup (fdc_transfer_byte setup drives fdc 0 true).2
    else if fdc.data.byte_offset = 0 ∧
        (fdc.data.phase = .execution_read ∨ fdc.data.phase = .execution_scan) then
      let prepared := fdc_prepare_read_sector setup drives fdc
      if prepared.1 then
        fdc_request_assert setup prepared.2 prepared.2.data.next_dma_byte_tick
      else prepared.2
    else fdc_request_assert setup fdc fdc.data.next_dma_byte_tick

/-- `x86_fdc_publish_due_ndma_byte`. -/
def fdc_publish_due_ndma_byte (fdc : FdcCore σ) : FdcCore σ :=
  if !fdc.data.ndma_byte_gate_pending || fdc.data.elapsed_ticks < fdc.data.next_ndma_byte_tick ||
      !fdc_execution_active fdc.data then fdc
  else
    let fdc := { fdc with data := { fdc.data with ndma_byte_gate_pending := false } }
    let fdc :=
      if fdc.data.byte_offset = 0 ∧
          (fdc.data.phase = .execution_read ∨ fdc.data.phase = .execution_scan) then
        (fdc_prepare_read_sector setup drives fdc).2
      else fdc
    fdc_start_service setup fdc fdc.data.next_ndma_byte_tick

/-! ## The start of a transfer -/

/-- The first request of a transfer that has been started. -/
def fdc_first_request (fdc : FdcCore σ) : FdcCore σ :=
  let fdc := fdc_start_service setup fdc fdc.data.elapsed_ticks
  if !fdc.data.flagNDMA then fdc_request_assert setup fdc fdc.data.elapsed_ticks else fdc

/-- The position in the bytes of a command. -/
def fdc_command_position (fdc : FdcCore σ) : FdcCore σ :=
  let command := fdc.data.command_byte
  { fdc with data := { fdc.data with
    selected_drive := ⟨(command 1 &&& 3).toNat % 4, Nat.mod_lt _ (by decide)⟩
    cylinder := (command 2).toNat, head := (command 3).toNat, sector := (command 4).toNat
    eot := (command 6).toNat
    byte_offset := 0 } }

/-- The bytes of the sectors from the first one on, on this side and on the next. -/
def fdc_transfer_size (data : FdcData) : ℕ :=
  let step := fdc_sector_step data
  ((data.eot - data.sector) / step + 1) * 512 +
    if data.head = 0 ∧ data.command_flag fdc_multi_track = true ∧
        (data.eot - data.sector) % step = 0 then
      ((data.eot - 1) / step + 1) * 512
    else 0

/-- `x86_fdc_start_transfer`. -/
def fdc_start_transfer (fdc : FdcCore σ) (phase : FdcPhase) (deleted_data : Bool)
    (scan_mode : FdcScanMode) : FdcCore σ :=
  let size := fdc_sector_size (fdc.data.command_byte 5)
  let fdc := fdc_command_position fdc
  let fdc := { fdc with data := { fdc.data with
    transfer_expect_deleted := phase = .execution_read && deleted_data
    transfer_write_deleted := phase = .execution_write && deleted_data
    scan_mode, scan_sector_satisfies := true } }
  if !fdc_drive_ready setup drives fdc then fdc_complete_missing_input setup drives fdc
  else
    let info := fdc_track_info setup drives fdc
    if size ≠ 2 ∨ info.1 = false ∨ info.2.id_readable = false ∨
        info.2.heads ≤ fdc.data.head ∨ fdc.data.sector = 0 ∨ fdc.data.eot < fdc.data.sector then
      fdc_complete_transfer setup fdc fdc_st1_no_data
    else if fdc.data.cylinder ≠ info.2.cylinder then
      let bad := if info.2.cylinder = 0xff then fdc_st2_bad_cylinder else 0
      let fdc := { fdc with data := { fdc.data with
        cylinder := info.2.cylinder
        pending_st2 := fdc.data.pending_st2 ||| fdc_st2_wrong_cylinder ||| bad } }
      fdc_complete_transfer setup fdc fdc_st1_no_data
    else
      let fdc := { fdc with data := { fdc.data with phase } }
      let fdc := { fdc with data := { fdc.data with
        transfer_remaining := fdc_transfer_size fdc.data
        pending_st2 :=
          if phase = .execution_scan then fdc.data.pending_st2 ||| fdc_st2_scan_match
          else fdc.data.pending_st2 } }
      if phase = .execution_scan ∨ phase = .execution_read then
        let prepared := fdc_prepare_read_sector setup drives fdc
        if prepared.1 then fdc_first_request setup prepared.2 else prepared.2
      else fdc_first_request setup fdc

/-- `x86_fdc_start_read_track`. -/
def fdc_start_read_track (fdc : FdcCore σ) : FdcCore σ :=
  let size := fdc_sector_size (fdc.data.command_byte 5)
  let fdc := fdc_command_position fdc
  if !fdc_drive_ready setup drives fdc then fdc_complete_missing_input setup drives fdc
  else
    let info := fdc_track_info setup drives fdc
    if size ≠ 2 ∨ info.1 = false ∨ info.2.id_readable = false ∨
        info.2.heads ≤ fdc.data.head ∨ info.2.cylinders ≤ fdc.data.cylinder ∨
        fdc.data.cylinder ≠ info.2.cylinder ∨ fdc.data.sector ≠ 1 ∨ fdc.data.eot = 0 ∨
        info.2.sectors < fdc.data.eot then
      fdc_complete_transfer setup fdc fdc_st1_no_data
    else
      let prepared := fdc_prepare_read_sector setup drives { fdc with data := { fdc.data with
        transfer_remaining := fdc.data.eot * 512
        transfer_expect_deleted := false
        phase := .execution_read } }
      if prepared.1 then fdc_first_request setup prepared.2 else prepared.2

end Setup

end Nxvm.Chips
