/-
The floppy disk controller (`fdc.h`, `fdc.c`): registers, deadlines and the transfer of bytes.

A command is collected, waits for the next progression, and executes: it asks for bytes, one
request at a time, and ends with a result. The mechanics and the media are behind the
connection; the mechanics say what a drive's pins are and where its heads stand, the media what
is recorded. Seeks run beside all that and have their own record. Interrupt and DMA request are
levels, and the copy of each result that goes to observers is left out.
-/
import Nxvm.Chips.Words
import Nxvm.Lib.Register
import Nxvm.Lib.Table

set_option autoImplicit false

namespace Nxvm.Chips

open Nxvm.Lib.Register

/-! ## The chip -/

/-- `LIB_UINT64_MAX`, the last tick. -/
def tick_max : ℕ := 2 ^ 64 - 1

/-- `x86_fdc_phase`. -/
inductive FdcPhase where
  | command
  | pending_command
  | execution_read
  | execution_write
  | execution_write_tail
  | execution_scan
  | execution_format
  | pending_complete
  | result
  | head_load
  deriving DecidableEq, Repr

/-- The three comparisons of a scan. -/
inductive FdcScanMode where
  | equal
  | low_or_equal
  | high_or_equal
  deriving DecidableEq, Repr

/-- `x86_fdc_pins`. -/
structure FdcPins where
  ready : Bool
  track_zero : Bool
  write_protected : Bool
  two_sided : Bool
  fault : Bool
  data_available : Bool

/-- `x86_fdc_track`. -/
structure FdcTrack where
  cylinder : ℕ
  cylinders : ℕ
  heads : ℕ
  sectors : ℕ
  bytes_per_sector : ℕ
  id_readable : Bool

/-- `x86_fdc_record`. -/
structure FdcRecord where
  cylinder : ℕ
  head : ℕ
  sector : ℕ
  offset : ℕ
  deriving DecidableEq

/-- `x86_fdc_record_result`. -/
inductive FdcRecordResult where
  | ok
  | absent
  | write_protected
  | failure
  deriving DecidableEq, Repr

/-- `x86_fdc_timing`. -/
structure FdcTiming where
  reset_ticks : ℕ
  step_numerator : ℕ
  step_denominator : ℕ
  fm_byte_ticks : ℕ
  mfm_byte_ticks : ℕ
  fm_read_service_ticks : ℕ
  mfm_read_service_ticks : ℕ
  fm_write_service_ticks : ℕ
  mfm_write_service_ticks : ℕ

/-- `x86_fdc_connection` on the mechanics `μ` and the media `σ`, with the timing. -/
structure FdcSetup (μ σ : Type) where
  timing : FdcTiming
  sample : μ → Fin 4 → FdcPins
  step : μ → Fin 4 → Bool → μ
  track : μ → σ → Fin 4 → Bool → Bool × FdcTrack
  read : σ → Fin 4 → FdcRecord → FdcRecordResult × U8
  write : σ → Fin 4 → FdcRecord → U8 → FdcRecordResult × σ
  read_mark : σ → Fin 4 → FdcRecord → FdcRecordResult × Bool
  write_mark : σ → Fin 4 → FdcRecord → Bool → FdcRecordResult × σ
  format : σ → Fin 4 → FdcRecord → U8 → FdcRecordResult × σ

/-- `x86_fdc_data`, but for its seeks. A mask of drives is a function. -/
structure FdcData where
  hut : U8
  hlt : U8
  srt : U8
  flagNDMA : Bool
  flagINTR : Bool
  phase : FdcPhase
  command_length : ℕ
  command_index : ℕ
  result_length : ℕ
  result_index : ℕ
  cmd : Vector U8 9
  ret : Vector U8 7
  st0 : U8
  st1 : U8
  st2 : U8
  st3 : U8
  pending_st0 : U8
  pending_st1 : U8
  pending_st2 : U8
  transfer_expect_deleted : Bool
  transfer_write_deleted : Bool
  scan_mode : FdcScanMode
  scan_sector_satisfies : Bool
  cylinder : ℕ
  head : ℕ
  sector : ℕ
  eot : ℕ
  byte_offset : ℕ
  transfer_remaining : ℕ
  format_headers_remaining : ℕ
  format_id : Vector U8 4
  format_id_index : ℕ
  selected_drive : Fin 4
  reset_sense_mask : Fin 4 → Bool
  reset_due_tick : ℕ
  reset_pending : Bool
  observed_ready : Fin 4 → Bool
  ready_sense_mask : Fin 4 → Bool
  ready_poll_enabled : Bool
  head_loaded_mask : Fin 4 → Bool
  head_unload_mask : Fin 4 → Bool
  head_load_due_tick : ℕ
  head_unload_due_tick : Fin 4 → ℕ
  dma_byte_gate_pending : Bool
  ndma_byte_gate_pending : Bool
  service_pending : Bool
  service_due_tick : ℕ
  elapsed_ticks : ℕ
  next_dma_byte_tick : ℕ
  next_ndma_byte_tick : ℕ

/-- `x86_fdc` with its media, but for its seeks. -/
structure FdcCore (σ : Type) where
  data : FdcData
  media : σ
  reset_released : Bool
  irq : Bool
  drq : Bool

/-- A completed seek or recalibrate: `seek_result_st0` and `seek_result_cylinder`. -/
structure FdcSeekResult where
  st0 : U8
  cylinder : U8
  deriving DecidableEq

/-- A step pulse and the tick that it was due at. -/
structure FdcStep where
  unit : Fin 4
  outward : Bool
  due : ℕ
  deriving DecidableEq

/-- The seeks of `x86_fdc_data`, with the mechanics and the step pulses issued so far. The results
are in order. -/
structure FdcMotion (μ : Type) where
  pcn : Fin 4 → U8
  seek_target : Fin 4 → U16
  seek_due_tick : Fin 4 → ℕ
  seek_pending_mask : Fin 4 → Bool
  seek_recalibrate : Fin 4 → Bool
  seek_head : Fin 4 → U8
  seek_steps : Fin 4 → U8
  seek_results : List FdcSeekResult
  drives : μ
  steps : List FdcStep

/-- The chip, with its media and the mechanics. -/
structure FdcState (μ σ : Type) where
  core : FdcCore σ
  motion : FdcMotion μ

def fdc_st1_no_data : U8 := 0x04
def fdc_st1_not_writable : U8 := 0x02
def fdc_st1_overrun : U8 := 0x10
def fdc_st1_end_of_cylinder : U8 := 0x80
def fdc_st2_wrong_cylinder : U8 := 0x10
def fdc_st2_bad_cylinder : U8 := 0x02
def fdc_st2_scan_match : U8 := 0x08
def fdc_st2_scan_mismatch : U8 := 0x04
def fdc_st2_control_mark : U8 := 0x40
def fdc_st0_seek_end : U8 := 0x20
def fdc_st0_equipment_check : U8 := 0x10
def fdc_st0_normal : U8 := 0x00
def fdc_st0_abnormal : U8 := 0x40
def fdc_st0_ready_change : U8 := 0xc0
def fdc_st0_not_ready : U8 := 0x08

/-- The bits that are clear in the mask. -/
def without (value mask : U8) : U8 := value &&& ~~~mask

section Setup

variable {μ σ : Type} (setup : FdcSetup μ σ) (drives : μ)

/-! ## Deadlines -/

/-- `x86_fdc_deadline`. -/
def fdc_deadline (now ticks : ℕ) : ℕ :=
  if ticks > tick_max - now then tick_max else now + ticks

/-- The loop of `x86_fdc_timer_ticks`: the fractions carried over. -/
def fdc_timer_carry (denominator remainder : ℕ) : ℕ → ℕ → ℕ → ℕ
  | 0, fraction, ticks => if fraction ≠ 0 ∧ ticks ≠ tick_max then ticks + 1 else ticks
  | units + 1, fraction, ticks =>
    if fraction ≥ denominator - remainder then
      if ticks = tick_max then ticks
      else fdc_timer_carry denominator remainder units (fraction - (denominator - remainder))
        (ticks + 1)
    else fdc_timer_carry denominator remainder units (fraction + remainder) ticks

/-- `x86_fdc_timer_ticks`. -/
def fdc_timer_ticks (units : ℕ) : ℕ :=
  let denominator := setup.timing.step_denominator
  let quotient := setup.timing.step_numerator / denominator
  let remainder := setup.timing.step_numerator % denominator
  if units = 0 then 0
  else if quotient > tick_max / units then tick_max
  else fdc_timer_carry denominator remainder units 0 (quotient * units)

/-- `x86_fdc_step_ticks`. -/
def fdc_step_ticks (data : FdcData) : ℕ := fdc_timer_ticks setup (16 - data.srt.toNat)

/-! ## Pins and records -/

/-- `x86_fdc_drive_status_ready`. -/
def fdc_drive_status_ready (drive : Fin 4) : Bool := (setup.sample drives drive).ready

/-- `x86_fdc_track_zero`. -/
def fdc_track_zero (unit : Fin 4) : Bool := (setup.sample drives unit).track_zero

/-- `x86_fdc_drive_ready`, of the selected drive. -/
def fdc_drive_ready (fdc : FdcCore σ) : Bool :=
  let pins := setup.sample drives fdc.data.selected_drive
  fdc.reset_released && pins.ready && pins.data_available

instance command_index : @NeZero ℕ (@Zero.ofOfNat0 ℕ (instOfNatNat 0)) 9 := ⟨by decide⟩

/-- A byte of the command. -/
def FdcData.command_byte (data : FdcData) (i : Fin 9) : U8 := data.cmd[i]

/-- A flag of the command byte. -/
def FdcData.command_flag (data : FdcData) (flag : U8) : Bool := is_set (data.command_byte 0) flag

/-- `MT`. -/
def fdc_multi_track : U8 := 0x80

/-- `MFM`. -/
def fdc_mfm : U8 := 0x40

/-- `SK`. -/
def fdc_skip : U8 := 0x20

/-- The low five bits of the command byte. -/
def FdcData.command_code (data : FdcData) : U8 := data.command_byte 0 &&& 0x1f

def fdc_cmd_specify : U8 := 0x03
def fdc_cmd_sense_drive_status : U8 := 0x04
def fdc_cmd_recalibrate : U8 := 0x07
def fdc_cmd_sense_interrupt : U8 := 0x08
def fdc_cmd_seek : U8 := 0x0f
def fdc_cmd_read_id : U8 := 0x0a
def fdc_cmd_write_data : U8 := 0x05
def fdc_cmd_read_data : U8 := 0x06
def fdc_cmd_write_deleted_data : U8 := 0x09
def fdc_cmd_read_deleted_data : U8 := 0x0c
def fdc_cmd_scan_equal : U8 := 0x11
def fdc_cmd_scan_low_or_equal : U8 := 0x19
def fdc_cmd_scan_high_or_equal : U8 := 0x1d
def fdc_cmd_format_track : U8 := 0x0d
def fdc_cmd_read_track : U8 := 0x02

/-- `x86_fdc_track_info`. -/
def fdc_track_info (fdc : FdcCore σ) : Bool × FdcTrack :=
  setup.track drives fdc.media fdc.data.selected_drive (fdc.data.command_flag fdc_mfm)

/-- `x86_fdc_record_at`. -/
def fdc_record_at (data : FdcData) : FdcRecord :=
  ⟨data.cylinder, data.head, data.sector, data.byte_offset⟩

/-- `x86_fdc_record_valid`. -/
def fdc_record_valid (fdc : FdcCore σ) (record : FdcRecord) : Bool :=
  let info := fdc_track_info setup drives fdc
  info.1 && record.head < info.2.heads && record.cylinder < info.2.cylinders &&
    record.sector ≠ 0 && record.sector ≤ info.2.sectors && info.2.bytes_per_sector = 512 &&
    record.offset < 512

/-- `x86_fdc_sector_size`. -/
def fdc_sector_size (code : U8) : U8 := if code = 2 then 0x02 else 0xff

/-- `x86_fdc_sector_step`. -/
def fdc_sector_step (data : FdcData) : ℕ :=
  if data.phase = .execution_scan ∧ data.command_byte 8 = 2 then 2 else 1

/-! ## Interrupts and requests -/

/-- `x86_fdc_raise_irq`. -/
def fdc_raise_irq (fdc : FdcCore σ) : FdcCore σ :=
  { fdc with irq := true, data := { fdc.data with flagINTR := true } }

/-- The interrupt without its cause: cleared where `flagINTR` becomes clear. -/
def fdc_keep_irq (fdc : FdcCore σ) (flagINTR : Bool) : FdcCore σ :=
  { fdc with irq := fdc.irq && flagINTR, data := { fdc.data with flagINTR } }

/-- The ticks within which a byte of the phase is to be served. -/
def fdc_service_ticks (data : FdcData) : ℕ :=
  let mfm := data.command_flag fdc_mfm
  match data.phase with
  | .execution_read | .execution_scan =>
    if mfm then setup.timing.mfm_read_service_ticks else setup.timing.fm_read_service_ticks
  | .execution_write | .execution_format =>
    if mfm then setup.timing.mfm_write_service_ticks else setup.timing.fm_write_service_ticks
  | _ => 0

/-- `x86_fdc_start_service`. -/
def fdc_start_service (fdc : FdcCore σ) (requested_at : ℕ) : FdcCore σ :=
  let ticks := fdc_service_ticks setup fdc.data
  if fdc.data.service_pending || ticks = 0 then fdc
  else
    { fdc with data := { fdc.data with
      next_ndma_byte_tick :=
        if fdc.data.flagNDMA then requested_at else fdc.data.next_ndma_byte_tick
      next_dma_byte_tick :=
        if fdc.data.flagNDMA then fdc.data.next_dma_byte_tick else requested_at
      service_due_tick := fdc_deadline requested_at ticks
      service_pending := true } }

/-- `x86_fdc_request_assert`. -/
def fdc_request_assert (fdc : FdcCore σ) (requested_at : ℕ) : FdcCore σ :=
  { fdc_start_service setup fdc requested_at with drq := true }

/-- `x86_fdc_dma_byte_ticks`. -/
def fdc_dma_byte_ticks (data : FdcData) : ℕ :=
  if data.command_flag fdc_mfm then setup.timing.mfm_byte_ticks else setup.timing.fm_byte_ticks

/-- `x86_fdc_execution_active`. -/
def fdc_execution_active (data : FdcData) : Bool :=
  match data.phase with
  | .execution_read | .execution_write | .execution_write_tail | .execution_scan
  | .execution_format => true
  | _ => false

/-- A phase in which the host exchanges bytes. -/
def fdc_host_phase (phase : FdcPhase) : Bool :=
  match phase with
  | .execution_read | .execution_write | .execution_scan | .execution_format => true
  | _ => false

/-- `x86_fdc_schedule_dma_byte`. -/
def fdc_schedule_dma_byte (fdc : FdcCore σ) : FdcCore σ :=
  let ticks := fdc_dma_byte_ticks setup fdc.data
  let origin :=
    if fdc.data.service_pending then fdc.data.next_dma_byte_tick else fdc.data.elapsed_ticks
  if (fdc.data.flagNDMA && fdc.data.phase ≠ .execution_write_tail) ||
      !fdc_execution_active fdc.data then fdc
  else
    { fdc with
      drq := false
      data := { fdc.data with
        service_pending := false
        next_dma_byte_tick :=
          if ticks = 0 then fdc_deadline fdc.data.elapsed_ticks 1 else fdc_deadline origin ticks
        dma_byte_gate_pending := true } }

/-- `x86_fdc_schedule_ndma_byte`. -/
def fdc_schedule_ndma_byte (fdc : FdcCore σ) : FdcCore σ :=
  let ticks := fdc_dma_byte_ticks setup fdc.data
  let origin :=
    if fdc.data.service_pending then fdc.data.next_ndma_byte_tick else fdc.data.elapsed_ticks
  let fdc := { fdc with data := { fdc.data with service_pending := false } }
  if !fdc.data.flagNDMA || ticks = 0 || !fdc_host_phase fdc.data.phase then fdc
  else
    { fdc with data := { fdc.data with
      next_ndma_byte_tick := fdc_deadline origin ticks
      ndma_byte_gate_pending := true } }

/-- `x86_fdc_publish_ndma_request`. -/
def fdc_publish_ndma_request (fdc : FdcCore σ) : FdcCore σ :=
  if fdc.data.flagNDMA && !fdc.data.ndma_byte_gate_pending && fdc_host_phase fdc.data.phase then
    let fdc := fdc_start_service setup fdc fdc.data.elapsed_ticks
    if !fdc.irq then fdc_raise_irq fdc else fdc
  else fdc

/-! ## Phases -/

/-- `x86_fdc_command_phase`. -/
def fdc_command_phase (fdc : FdcCore σ) : FdcCore σ :=
  { fdc with data := { fdc.data with
    phase := .command, command_length := 0, command_index := 0, result_length := 0
    result_index := 0, pending_st0 := 0, pending_st1 := 0, pending_st2 := 0 } }

/-- `x86_fdc_result_phase`. -/
def fdc_result_phase (fdc : FdcCore σ) (length : ℕ) : FdcCore σ :=
  { fdc with
    drq := false
    data := { fdc.data with phase := .result, result_length := length, result_index := 0 } }

/-- `x86_fdc_set_result`. -/
def fdc_set_result (fdc : FdcCore σ) (st0 st1 st2 : U8) : FdcCore σ :=
  let st0 := st0 ||| BitVec.ofNat 8 fdc.data.selected_drive.val
  { fdc with data := { fdc.data with
    st0, st1, st2
    ret := #v[st0, st1, st2, BitVec.ofNat 8 fdc.data.cylinder, BitVec.ofNat 8 fdc.data.head,
      BitVec.ofNat 8 fdc.data.sector, 0x02] } }

/-- `x86_fdc_end_head_execution`. -/
def fdc_end_head_execution (fdc : FdcCore σ) : FdcCore σ :=
  let drive := fdc.data.selected_drive
  if fdc.data.head_loaded_mask drive = false then fdc
  else
    { fdc with data := { fdc.data with
      head_unload_due_tick := Function.update fdc.data.head_unload_due_tick drive
        (fdc_deadline fdc.data.elapsed_ticks (fdc_timer_ticks setup (fdc.data.hut.toNat * 16)))
      head_unload_mask := Function.update fdc.data.head_unload_mask drive true } }

/-- `x86_fdc_complete_transfer_with_status`. -/
def fdc_complete_transfer_with_status (fdc : FdcCore σ) (st0 st1 : U8) : FdcCore σ :=
  let head : U8 := BitVec.ofNat 8 (fdc.data.head % 2 * 4)
  let fdc :=
    { fdc with
      drq := false
      data := { fdc.data with
        service_pending := false
        pending_st2 :=
          if st1 ≠ 0 ∨ st0 &&& 0xc0 ≠ 0 then without fdc.data.pending_st2 fdc_st2_scan_match
          else fdc.data.pending_st2
        dma_byte_gate_pending := false
        next_dma_byte_tick := 0
        ndma_byte_gate_pending := false
        next_ndma_byte_tick := 0
        pending_st0 :=
          (if st0 ≠ 0 then st0 else if st1 ≠ 0 then fdc_st0_abnormal else fdc_st0_normal) ||| head
        pending_st1 := st1 } }
  let fdc := fdc_end_head_execution setup fdc
  { fdc with data := { fdc.data with phase := .pending_complete } }

/-- `x86_fdc_complete_transfer`. -/
def fdc_complete_transfer (fdc : FdcCore σ) (st1 : U8) : FdcCore σ :=
  fdc_complete_transfer_with_status setup fdc 0 st1

/-- `x86_fdc_complete_missing_input`. -/
def fdc_complete_missing_input (fdc : FdcCore σ) : FdcCore σ :=
  if !fdc_drive_status_ready setup drives fdc.data.selected_drive then
    fdc_complete_transfer_with_status setup fdc (fdc_st0_abnormal ||| fdc_st0_not_ready) 0
  else fdc_complete_transfer setup fdc fdc_st1_no_data

end Setup

end Nxvm.Chips
