/-
The commands of the task file, its ports and the time of the hard disk controller.

A command is taken with its task file, waits for its service tick and is executed then. A
sector passes through the data register word by word, and the next one waits for its own
service tick.
-/
import Nxvm.Chips.Xebec

set_option autoImplicit false

namespace Nxvm.Chips

open Nxvm.Lib.Register Nxvm.Machine

section Setup

variable {σ : Type} (setup : HdcSetup σ)

/-! ## Sectors of a command -/

/-- The sectors a command asks for. -/
def hdc_sectors_asked (data : HdcData) : ℕ :=
  if data.sector_count = 0 then 256 else data.sector_count.toNat

/-- `x86_hdc_complete_data_sector`. -/
def hdc_complete_data_sector (s : HdcState σ) : HdcState σ :=
  if s.data.sectors_remaining = 0 then s
  else
    { s with data := { s.data with
      sectors_remaining := s.data.sectors_remaining - 1
      sector_count := s.data.sector_count - 1 } }

/-- The status of a sector that is there to be read. -/
def hdc_read_status (status : U8) : U8 :=
  status_drdy ||| status_dsc ||| status_drq_request |||
    (status &&& (status_corrected ||| status_err))

/-- `x86_hdc_next_read_sector`. -/
def hdc_next_read_sector (s : HdcState σ) : HdcState σ :=
  if s.data.error = error_uncorrectable then
    let s := hdc_complete setup s false
    { s with data := { s.data with status := s.data.status ||| status_err } }
  else
    let s := hdc_complete_data_sector s
    if s.data.sectors_remaining = 0 then hdc_complete setup s false
    else
      let advanced := hdc_advance_sector setup s
      if !advanced.1 then advanced.2
      else
        let loaded := hdc_load_sector setup advanced.2
        if !loaded.1 then loaded.2
        else
          let s := loaded.2
          hdc_raise_irq setup { s with data := { s.data with
            data_index := 0, phase := .data_read, status := hdc_read_status s.data.status } }

/-- `x86_hdc_next_write_sector`. -/
def hdc_next_write_sector (s : HdcState σ) : HdcState σ :=
  let stored := hdc_store_sector setup s
  if !stored.1 then stored.2
  else
    let s := hdc_complete_data_sector stored.2
    if s.data.sectors_remaining = 0 then hdc_complete setup s true
    else
      let advanced := hdc_advance_sector setup s
      if !advanced.1 then advanced.2
      else
        let s := advanced.2
        hdc_raise_irq setup { s with data := { s.data with
          data_index := 0, record := hdc_record_zero, phase := .data_write
          status := status_drdy ||| status_dsc ||| status_drq_request } }

/-- `x86_hdc_capture_command`. -/
def hdc_capture_command (s : HdcState σ) (command : U8) : HdcState σ :=
  if s.data.reset_asserted || !hdc_task_file_is_writable s.data then s
  else
    let s := hdc_clear_irq setup { s with data := { s.data with
      pending_command := command
      pending_features := s.data.features
      pending_sector_count := s.data.sector_count
      pending_sector_number := s.data.sector_number
      pending_cylinder_low := s.data.cylinder_low
      pending_cylinder_high := s.data.cylinder_high
      pending_drive_head := s.data.drive_head
      error := 0 } }
    hdc_schedule_service { s with data := { s.data with
      phase := .pending_command, status := status_bsy } } setup.config.command_ticks

/-- `x86_hdc_begin_read`. -/
def hdc_begin_read (s : HdcState σ) : HdcState σ :=
  let loaded := hdc_load_sector setup s
  if !loaded.1 then loaded.2
  else
    let s := loaded.2
    hdc_raise_irq setup { s with data := { s.data with
      phase := .data_read
      sectors_remaining := hdc_sectors_asked s.data
      data_index := 0
      status := hdc_read_status s.data.status } }

/-- `x86_hdc_begin_write`. -/
def hdc_begin_write (s : HdcState σ) : HdcState σ :=
  match hdc_resolve_sector setup s true with
  | (none, s) => s
  | (some _, s) =>
    { s with data := { s.data with
      phase := .data_write
      sectors_remaining := hdc_sectors_asked s.data
      data_index := 0
      record := { s.data.record with ecc_present := false }
      status := status_drdy ||| status_dsc ||| status_drq_request } }

/-- The loop of `x86_hdc_verify_sectors`, for the sectors that remain. -/
def hdc_verify_loop : ℕ → HdcState σ → HdcState σ
  | 0, s => hdc_complete setup s true
  | left + 1, s =>
    let loaded := hdc_load_sector setup s
    if !loaded.1 then loaded.2
    else
      let s := hdc_complete_data_sector loaded.2
      if s.data.sectors_remaining = 0 then hdc_verify_loop left s
      else
        let advanced := hdc_advance_sector setup s
        if !advanced.1 then advanced.2 else hdc_verify_loop left advanced.2

/-- `x86_hdc_verify_sectors`. -/
def hdc_verify_sectors (s : HdcState σ) : HdcState σ :=
  let asked := hdc_sectors_asked s.data
  hdc_verify_loop setup asked { s with data := { s.data with sectors_remaining := asked } }

/-! ## Formatting -/

/-- `x86_hdc_begin_format`. -/
def hdc_begin_format (s : HdcState σ) : HdcState σ :=
  match hdc_media_info setup s with
  | none => hdc_fail setup s error_abort
  | some info =>
    if !info.present || info.read_only then hdc_fail setup s error_abort
    else
      { s with data := { s.data with
        phase := .data_write
        sectors_remaining := 0
        data_index := 0
        record := { s.data.record with ecc_present := false }
        status := status_drdy ||| status_dsc ||| status_drq_request } }

/-- The sectors of a track from the buffer, each named once. -/
def hdc_track_ids (record : HdcRecord) (sector_count : ℕ) : Option (List (U8 × Bool)) :=
  (List.range sector_count).foldlM (fun (ids : List (U8 × Bool)) index =>
    let flag := record.data.getD (index * 2) 0
    let id := record.data.getD (index * 2 + 1) 0
    if (flag ≠ 0 ∧ flag ≠ 0x80) ∨ id = 0 ∨ sector_count < id.toNat ∨
        id - 1 ∈ ids.map Prod.fst then none
    else some (ids ++ [(id - 1, decide (flag = 0x80))])) []

/-- `x86_hdc_format_track`. -/
def hdc_format_track (s : HdcState σ) : HdcState σ :=
  let unit : Fin 2 := if is_set s.data.pending_drive_head 0x10 then 1 else 0
  let head := (s.data.pending_drive_head &&&
    (if is_set s.data.device_control device_control_head_select then 0x0f else 0x07)).toNat
  let cylinder := (s.data.pending_cylinder_low.setWidth 16 |||
    s.data.pending_cylinder_high.setWidth 16 <<< 8 : U16).toNat
  let sector_count := s.data.pending_sector_count.toNat
  let answer := setup.query s.context unit
  let info := answer.2
  let geometry := hdc_address_geometry setup.config s.data info unit
  let first_sector := ((cylinder * geometry.heads.toNat + head) *
    geometry.sectors_per_track.toNat) % 2 ^ 64
  let capacity := info.geometry.logical_sector_count.toNat
  if answer.1 ≠ .ok ∨ info.present = false ∨ info.read_only = true then
    hdc_fail setup s error_abort
  else if info.geometry_known = false ∨ info.geometry.bytes_per_sector.toNat ≠ 512 ∨
      sector_count = 0 ∨ sector_count ≠ geometry.sectors_per_track.toNat ∨
      geometry.cylinders.toNat ≤ cylinder ∨ geometry.heads.toNat ≤ head then
    hdc_fail setup s error_id_not_found
  else if capacity ≤ first_sector ∨ capacity - first_sector < sector_count then
    hdc_fail setup s error_id_not_found
  else
    match hdc_track_ids s.data.record sector_count with
    | none => hdc_fail setup s error_abort
    | some ids =>
      let track : HdcTrack :=
        { first_sector, ids := ids.map Prod.fst, bad := ids.map Prod.snd, fill_payload := true }
      let formatted := setup.format_track s.context unit track
      let s := { s with context := formatted.2 }
      if formatted.1 = .ok then hdc_complete setup s true
      else
        hdc_fail setup s (if formatted.1 = .range then error_id_not_found else error_abort)

/-! ## Other commands -/

/-- A little-endian word put into the buffer. -/
def hdc_put_word (data : Vector U8 512) (index : ℕ) (word : U16) : Vector U8 512 :=
  (data.setIfInBounds index (word.setWidth 8)).setIfInBounds (index + 1)
    ((word >>> 8).setWidth 8)

/-- The words of `x86_hdc_identify`. -/
def hdc_identify_words (data : HdcData) (info : HdcMedium) : List (ℕ × ℕ) :=
  let current := hdc_address_geometry setup.config data info (hdc_selected_unit data)
  let capacity := current.cylinders.toNat * current.heads.toNat * current.sectors_per_track.toNat
  [(0, 0x0040), (2, info.geometry.cylinders.toNat), (6, info.geometry.heads.toNat),
    (12, info.geometry.sectors_per_track.toNat),
    (106, if current.sectors_per_track ≠ 0 then 1 else 0), (108, current.cylinders.toNat),
    (110, current.heads.toNat), (112, current.sectors_per_track.toNat), (114, capacity),
    (116, capacity / 2 ^ 16), (98, if setup.config.lba28_supported then 0x0200 else 0),
    (120, hdc_sector_capacity info), (122, hdc_sector_capacity info / 2 ^ 16)]

/-- `x86_hdc_identify`. -/
def hdc_identify (s : HdcState σ) : HdcState σ :=
  match hdc_media_info setup s with
  | none => hdc_fail setup s error_abort
  | some info =>
    if (!hdc_selected_master s.data && !hdc_is_ata_pio setup.config) = true ∨
        info.present = false ∨ info.geometry.bytes_per_sector.toNat ≠ hdc_sector_bytes then
      hdc_fail setup s error_abort
    else
      let words := hdc_identify_words setup s.data info
      let data := words.foldl (fun data word => hdc_put_word data word.1 (BitVec.ofNat 16 word.2))
        hdc_record_zero.data
      hdc_raise_irq setup { s with data := { s.data with
        record := { hdc_record_zero with data }
        phase := .data_read
        sectors_remaining := 0
        data_index := 0
        error := 0
        status := status_drdy ||| status_dsc ||| status_drq_request } }

/-- `x86_hdc_select_wd_step_rate`. -/
def hdc_select_wd_step_rate (s : HdcState σ) (selector : Fin 16) (pulse_limit : ℕ) :
    HdcState σ :=
  if !hdc_is_wd setup.config then s
  else
    { s with data := { s.data with
      step_rate_selector := selector.val
      step_pulse_limit := pulse_limit
      step_rate_ticks := setup.config.step_ticks[selector] } }

/-- The translation `0x91` puts in force. -/
def hdc_initialize_drive_parameters (s : HdcState σ) : HdcState σ :=
  let unit := hdc_selected_unit s.data
  let heads := (s.data.drive_head &&& 0x0f) + 1
  let with_translation (sectors_per_track : U8) : HdcState σ :=
    { s with data := { s.data with
      drive_heads := s.data.drive_heads.setIfInBounds unit heads
      drive_sectors_per_track :=
        s.data.drive_sectors_per_track.setIfInBounds unit sectors_per_track } }
  let fits :=
    match hdc_media_info setup s with
    | none => false
    | some info =>
      info.present && decide (heads.toNat * s.data.sector_count.toNat ≤
        info.geometry.logical_sector_count.toNat)
  if s.data.sector_count = 0 ∨ (hdc_is_ata_pio setup.config = true ∧ fits = false) then
    hdc_fail setup (if hdc_is_ata_pio setup.config then with_translation 0 else s) error_abort
  else hdc_complete setup (with_translation s.data.sector_count) true

/-- Recalibration of an ATA drive. -/
def hdc_recalibrate (s : HdcState σ) : HdcState σ :=
  match hdc_media_info setup s with
  | none => hdc_fail setup s error_abort
  | some info =>
    if !info.present then hdc_fail setup s error_abort
    else
      hdc_complete setup { s with data := { s.data with
        cylinder_low := 0
        cylinder_high := 0
        sector_number := if is_set s.data.drive_head 0x40 then 0 else 1
        drive_head := s.data.drive_head &&& 0xf0 } } true

/-- The step rate a command selects. -/
def hdc_step_selector (command : U8) : Fin 16 := Fin.ofNat 16 (command &&& 0x0f).toNat

/-- The commands of the two WD1003 protocols. -/
def hdc_execute_wd (s : HdcState σ) (command : U8) : HdcState σ :=
  if command = 0x50 then hdc_begin_format setup s
  else if command = 0x90 then
    let s :=
      if hdc_is_ibm_wd1003 setup.config then hdc_select_wd_step_rate setup s 15 1023 else s
    hdc_complete setup { s with data := { s.data with error := error_diagnostic_ok } } true
  else if command &&& 0xf0 = 0x10 then
    let s := hdc_select_wd_step_rate setup s (hdc_step_selector command) 1023
    hdc_complete setup { s with data := { s.data with cylinder_low := 0, cylinder_high := 0 } }
      true
  else if command &&& 0xf0 = 0x70 then
    let s := hdc_select_wd_step_rate setup s (hdc_step_selector command) 0
    if 1023 < (hdc_cylinder s.data).toNat then hdc_fail setup s error_id_not_found
    else hdc_complete setup s true
  else hdc_fail setup s error_abort

/-- `x86_hdc_execute_command`. -/
def hdc_execute_command (s : HdcState σ) (command : U8) : HdcState σ :=
  let config := setup.config
  let s := { s with data := { s.data with
    last_command := command, command_count := s.data.command_count + 1 } }
  if (!hdc_is_ata_pio config && !hdc_is_wd config && !hdc_selected_master s.data) ||
      (!hdc_is_wd config && is_set s.data.drive_head 0x40 && !config.lba28_supported) then
    hdc_fail setup s error_abort
  else if hdc_command_is_read config command then hdc_begin_read setup s
  else if hdc_command_is_write config command then hdc_begin_write setup s
  else if command &&& 0xfe = 0x40 then hdc_verify_sectors setup s
  else if command = 0x91 then hdc_initialize_drive_parameters setup s
  else if hdc_is_ata_pio config && command &&& 0xf0 = 0x10 then hdc_recalibrate setup s
  else if hdc_is_wd config then hdc_execute_wd setup s command
  else if command = 0xec then hdc_identify setup s
  else hdc_fail setup s error_abort

/-! ## Reset -/

/-- `x86_hdc_reset_controller`. -/
def hdc_reset_controller (s : HdcState σ) : HdcState σ :=
  let fixed : U8 := if hdc_is_compaq_wd_40mb setup.config then 4 else 0
  let sectors : U8 := if hdc_is_compaq_wd_40mb setup.config then 17 else 0
  let s := { s with data := { hdc_data_zero with elapsed_ticks := s.data.elapsed_ticks } }
  let s := hdc_clear_irq setup (if hdc_is_xebec_xt setup.config then xebec_reset setup s else s)
  { s with data := { s.data with
    error := error_diagnostic_ok
    sector_count := 1
    sector_number := 1
    status := status_drdy ||| status_dsc
    drive_heads := Vector.replicate 2 fixed
    drive_sectors_per_track := Vector.replicate 2 sectors } }

/-- `x86_hdc_reset`. -/
def hdc_reset (s : HdcState σ) : HdcState σ :=
  hdc_reset_controller setup { s with data := { s.data with elapsed_ticks := 0 } }

/-- `x86_hdc_create`, with media in this context. -/
def hdc_create (context : σ) : HdcState σ :=
  hdc_reset setup
    { data := hdc_data_zero, xebec := xebec_zero, irq := false, drq := false, context
      touched := [], statuses := [] }

/-! ## Ports -/

/-- The device control register written. -/
def hdc_write_control (s : HdcState σ) (value : U8) : HdcState σ :=
  let reset_asserted := is_set value device_control_srst
  let s := hdc_sync_irq setup { s with data := { s.data with device_control := value } }
  if reset_asserted && !s.data.reset_asserted then
    hdc_clear_irq setup { s with data := { s.data with
      reset_asserted := true, phase := .idle, data_index := 0, sectors_remaining := 0
      error := 0, status := status_bsy } }
  else if !reset_asserted && s.data.reset_asserted then
    let s := hdc_reset_controller setup s
    { s with data := { s.data with device_control := value } }
  else s

/-- `x86_hdc_refresh_compaq_selection_status`. -/
def hdc_refresh_compaq_selection_status (s : HdcState σ) : HdcState σ :=
  if !hdc_is_compaq_wd_40mb setup.config || s.data.phase ≠ .idle then s
  else { s with data := { s.data with status := status_drdy ||| status_dsc } }

/-- The word or ECC byte at the data register. -/
def hdc_read_data (s : HdcState σ) : U16 × HdcState σ :=
  let size := hdc_transfer_size setup.config s.data s.xebec
  let index := s.data.data_index
  if s.data.phase ≠ .data_read ∨ size ≤ index then (0, s)
  else
    let record := s.data.record
    let word : U16 :=
      if index < hdc_sector_bytes then
        (record.data.getD index 0).setWidth 16 |||
          (record.data.getD (index + 1) 0).setWidth 16 <<< 8
      else (record.ecc.getD (index - hdc_sector_bytes) 0).setWidth 16
    let index := if index < hdc_sector_bytes then index + 2 else index + 1
    let s := { s with data := { s.data with data_index := index } }
    if index = size then
      (word, hdc_schedule_service { s with data := { s.data with
        phase := .pending_read_sector, status := status_bsy } } setup.config.next_sector_ticks)
    else (word, s)

/-- A word, or an ECC byte, for the data register. -/
def hdc_write_data (s : HdcState σ) (word : U16) : HdcState σ :=
  let size := hdc_transfer_size setup.config s.data s.xebec
  let index := s.data.data_index
  if s.data.phase ≠ .data_write ∨ size ≤ index then s
  else
    let record :=
      if index < hdc_sector_bytes then
        { s.data.record with data := hdc_put_word s.data.record.data index word }
      else
        { s.data.record with ecc :=
          s.data.record.ecc.setIfInBounds (index - hdc_sector_bytes) (word.setWidth 8) }
    let index := if index < hdc_sector_bytes then index + 2 else index + 1
    let s := { s with data := { s.data with record, data_index := index } }
    if index = size then
      hdc_schedule_service { s with data := { s.data with
        record := { s.data.record with
          ecc_present := hdc_command_is_long setup.config s.data.last_command }
        phase := .pending_write_sector, status := status_bsy } } setup.config.next_sector_ticks
    else s

/-- `x86_hdc_read`. -/
def hdc_read (s : HdcState σ) (reg : HdcRegister) : Status × U16 × HdcState σ :=
  if hdc_is_xebec_xt setup.config then
    let read := xebec_port_read setup s reg
    (read.1, read.2.1.setWidth 16, read.2.2)
  else
    match reg with
    | .data =>
      let read := hdc_read_data setup s
      (.ok, read.1, read.2)
    | .error_features => (.ok, s.data.error.setWidth 16, s)
    | .sector_count => (.ok, s.data.sector_count.setWidth 16, s)
    | .sector_number => (.ok, s.data.sector_number.setWidth 16, s)
    | .cylinder_low => (.ok, s.data.cylinder_low.setWidth 16, s)
    | .cylinder_high => (.ok, s.data.cylinder_high.setWidth 16, s)
    | .drive_head => (.ok, s.data.drive_head.setWidth 16, s)
    | .status_command => (.ok, s.data.status.setWidth 16, hdc_clear_irq setup s)
    | .control =>
      if hdc_is_ibm_wd1003 setup.config then (.unsupported, 0, s)
      else (.ok, s.data.status.setWidth 16, s)
    | .drive_address =>
      if hdc_is_compaq_wd_40mb setup.config then
        let head := ~~~hdc_current_head setup.config s.data &&& 0x0f
        let drive : U8 := if hdc_selected_unit s.data = 0 then 0x02 else 0x01
        (.ok, ((0x40 : U8) ||| head <<< 2 ||| drive).setWidth 16, s)
      else (.unsupported, 0, s)
    | _ => (.unsupported, 0, s)

/-- The register of the task file written. -/
def hdc_write_task_file (s : HdcState σ) (reg : HdcRegister) (value : U8) : HdcState σ :=
  if !hdc_task_file_is_writable s.data then s
  else
    match reg with
    | .error_features => { s with data := { s.data with features := value } }
    | .sector_count => { s with data := { s.data with sector_count := value } }
    | .sector_number => { s with data := { s.data with sector_number := value } }
    | .cylinder_low => { s with data := { s.data with cylinder_low := value } }
    | .cylinder_high => { s with data := { s.data with cylinder_high := value } }
    | .drive_head =>
      hdc_refresh_compaq_selection_status setup
        { s with data := { s.data with drive_head := value } }
    | _ => s

/-- `x86_hdc_write`. -/
def hdc_write (s : HdcState σ) (reg : HdcRegister) (value : U16) : Status × HdcState σ :=
  let byte : U8 := value.setWidth 8
  if hdc_is_xebec_xt setup.config then (.ok, xebec_port_write setup s reg byte)
  else
    match reg with
    | .data => (.ok, hdc_write_data setup s value)
    | .status_command => (.ok, hdc_capture_command setup s byte)
    | .control => (.ok, hdc_write_control setup s byte)
    | .drive_address | .xebec_reset | .xebec_select | .xebec_mask => (.unsupported, s)
    | _ => (.ok, hdc_write_task_file setup s reg byte)

/-! ## Time -/

/-- The pending command with the task file it was given. -/
def hdc_execute_pending (s : HdcState σ) : HdcState σ :=
  hdc_execute_command setup { s with data := { s.data with
    features := s.data.pending_features
    sector_count := s.data.pending_sector_count
    sector_number := s.data.pending_sector_number
    cylinder_low := s.data.pending_cylinder_low
    cylinder_high := s.data.pending_cylinder_high
    drive_head := s.data.pending_drive_head } } s.data.pending_command

/-- What is due in `x86_hdc_advance_at`. -/
def hdc_service (s : HdcState σ) : HdcState σ :=
  if hdc_is_xebec_xt setup.config && s.xebec.phase = .pending_command then
    xebec_complete_dcb setup s
  else
    match s.data.phase with
    | .pending_command => hdc_execute_pending setup s
    | .pending_read_sector => hdc_next_read_sector setup s
    | .pending_write_sector =>
      if s.data.last_command = 0x50 then hdc_format_track setup s
      else hdc_next_write_sector setup s
    | _ => s

/-- `x86_hdc_advance_at`. -/
def hdc_advance_at (s : HdcState σ) (now : ℕ) : HdcState σ :=
  if now < s.data.elapsed_ticks then s
  else
    let s := { s with data := { s.data with elapsed_ticks := now } }
    if s.data.next_service_tick ≠ 0 ∧ now < s.data.next_service_tick then s
    else hdc_service setup { s with data := { s.data with next_service_tick := 0 } }

/-! ## Calls -/

/-- A call of the chip: a port access, a DMA byte or its terminal count, time, or a cold
reset. -/
inductive HdcOp where
  | read (reg : HdcRegister)
  | write (reg : HdcRegister) (value : U16)
  | dma_read
  | dma_write (byte : U8)
  | terminal_count
  | advance_at (now : ℕ)
  | reset
  deriving DecidableEq, Repr

/-- The state afterwards. -/
def hdc_apply (s : HdcState σ) : HdcOp → HdcState σ
  | .read reg => (hdc_read setup s reg).2.2
  | .write reg value => (hdc_write setup s reg value).2
  | .dma_read => (hdc_dma_read setup s).2
  | .dma_write byte => hdc_dma_write setup s byte
  | .terminal_count => hdc_terminal_count setup s
  | .advance_at now => hdc_advance_at setup s now
  | .reset => hdc_reset setup s

end Setup

end Nxvm.Chips
