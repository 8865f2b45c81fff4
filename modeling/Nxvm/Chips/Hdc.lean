/-
The hard disk controller (`hdc.h`, `hdc.c`): records, media and sector addresses.

The task file holds the address of one sector at a time, as a cylinder, head and sector or
as a 28-bit block number, and a command of several sectors moves it on. The media are behind
the connection; a callback that is missing does what its caller does without it, so that the
connection here has them all. Interrupt and DMA request are levels.

Two ledgers go with the chip that the source has not: the records it asked its media for,
and the level of the DMA request whenever a status phase begins.
-/
import Nxvm.Chips.Words
import Nxvm.Lib.Register
import Nxvm.Lib.Table
import Nxvm.Machine.Status

set_option autoImplicit false

namespace Nxvm.Chips

open Nxvm.Lib.Register Nxvm.Machine

/-! ## The chip -/

/-- `x86_hdc_protocol`. -/
inductive HdcProtocol where
  | ata_pio
  | compaq_wd_40mb
  | ibm_wd1003_st506
  | xebec_xt
  deriving DecidableEq, Repr

/-- `x86_hdc_phase`. -/
inductive HdcPhase where
  | idle
  | pending_command
  | data_read
  | data_write
  | pending_read_sector
  | pending_write_sector
  deriving DecidableEq, Repr

/-- `x86_xebec_phase`. -/
inductive XebecPhase where
  | idle
  | dcb
  | initialization
  | pending_command
  | response
  | dma_read
  | dma_write
  deriving DecidableEq, Repr

/-- `x86_hdc_register`. -/
inductive HdcRegister where
  | data
  | error_features
  | sector_count
  | sector_number
  | cylinder_low
  | cylinder_high
  | drive_head
  | status_command
  | control
  | drive_address
  | xebec_reset
  | xebec_select
  | xebec_mask
  deriving DecidableEq, Repr

/-- `x86_hdc_geometry`. -/
structure HdcGeometry where
  logical_sector_count : U64
  bytes_per_sector : U32
  cylinders : U32
  heads : U32
  sectors_per_track : U32
  deriving DecidableEq, Repr

/-- `x86_hdc_medium`. -/
structure HdcMedium where
  geometry : HdcGeometry
  present : Bool
  read_only : Bool
  geometry_known : Bool
  deriving DecidableEq, Repr

/-- `x86_hdc_record_result`. -/
inductive HdcRecordResult where
  | ok
  | absent
  | range
  | protected_medium
  | failure
  | bad_track
  deriving DecidableEq, Repr

/-- `x86_hdc_record`. -/
structure HdcRecord where
  data : Vector U8 512
  ecc : Vector U8 4
  ecc_present : Bool

/-- A record of zeros. -/
def hdc_record_zero : HdcRecord :=
  { data := Vector.replicate 512 0, ecc := Vector.replicate 4 0, ecc_present := false }

/-- `x86_hdc_track`, whose arrays are as long as the track. -/
structure HdcTrack where
  first_sector : ℕ
  ids : List U8
  bad : List Bool
  fill_payload : Bool

/-- `x86_hdc_config`. -/
structure HdcConfig where
  protocol : HdcProtocol
  lba28_supported : Bool
  command_ticks : ℕ
  next_sector_ticks : ℕ
  step_ticks : Vector ℕ 16
  xebec_geometry : HdcGeometry

/-- `x86_hdc_connection` on its media, with the configuration. -/
structure HdcSetup (σ : Type) where
  config : HdcConfig
  query : σ → Fin 2 → HdcRecordResult × HdcMedium
  read : σ → Fin 2 → ℕ → HdcRecordResult × HdcRecord × σ
  write : σ → Fin 2 → ℕ → HdcRecord → HdcRecordResult × σ
  format_track : σ → Fin 2 → HdcTrack → HdcRecordResult × σ

/-- `x86_xebec_data`. -/
structure Xebec where
  dcb : Vector U8 6
  dcb_count : ℕ
  initialization : Vector U8 8
  initialization_count : ℕ
  ecc_limit : U8
  corrected_burst : U8
  cylinders : U16
  heads : U8
  response : List U8
  response_index : ℕ
  last_sense : Vector U8 4
  mask_pattern : U8
  byte_index : ℕ
  sectors_remaining : U8
  phase : XebecPhase

/-- The first byte of a request. -/
def Xebec.opcode (xebec : Xebec) : U8 := xebec.dcb[0]

/-- `x86_hdc_data`. -/
structure HdcData where
  features : U8
  error : U8
  sector_count : U8
  sector_number : U8
  cylinder_low : U8
  cylinder_high : U8
  drive_head : U8
  drive_heads : Vector U8 2
  drive_sectors_per_track : Vector U8 2
  step_rate_selector : ℕ
  step_pulse_limit : ℕ
  step_rate_ticks : ℕ
  status : U8
  device_control : U8
  irq_pending : Bool
  reset_asserted : Bool
  last_command : U8
  pending_command : U8
  pending_features : U8
  pending_sector_count : U8
  pending_sector_number : U8
  pending_cylinder_low : U8
  pending_cylinder_high : U8
  pending_drive_head : U8
  sectors_remaining : ℕ
  command_count : U32
  elapsed_ticks : ℕ
  next_service_tick : ℕ
  phase : HdcPhase
  data_index : ℕ
  record : HdcRecord

/-- The chip before its first reset. -/
def hdc_data_zero : HdcData :=
  { features := 0, error := 0, sector_count := 0, sector_number := 0, cylinder_low := 0
    cylinder_high := 0, drive_head := 0, drive_heads := Vector.replicate 2 0
    drive_sectors_per_track := Vector.replicate 2 0, step_rate_selector := 0
    step_pulse_limit := 0, step_rate_ticks := 0, status := 0, device_control := 0
    irq_pending := false, reset_asserted := false, last_command := 0, pending_command := 0
    pending_features := 0, pending_sector_count := 0, pending_sector_number := 0
    pending_cylinder_low := 0, pending_cylinder_high := 0, pending_drive_head := 0
    sectors_remaining := 0, command_count := 0, elapsed_ticks := 0, next_service_tick := 0
    phase := .idle, data_index := 0, record := hdc_record_zero }

def xebec_zero : Xebec :=
  { dcb := Vector.replicate 6 0, dcb_count := 0, initialization := Vector.replicate 8 0
    initialization_count := 0, ecc_limit := 0, corrected_burst := 0, cylinders := 0, heads := 0
    response := [], response_index := 0, last_sense := Vector.replicate 4 0, mask_pattern := 0
    byte_index := 0, sectors_remaining := 0, phase := .idle }

/-- A record asked of a medium, and what the medium answered. -/
structure HdcAccess where
  write : Bool
  unit : Fin 2
  sector : ℕ
  result : HdcRecordResult
  deriving DecidableEq, Repr

/-- The chip, its outputs, the media's context and the ledgers. -/
structure HdcState (σ : Type) where
  data : HdcData
  xebec : Xebec
  irq : Bool
  drq : Bool
  context : σ
  touched : List HdcAccess
  statuses : List Bool

def status_err : U8 := 0x01
def status_corrected : U8 := 0x04
def status_drq_request : U8 := 0x08
def status_dsc : U8 := 0x10
def status_drdy : U8 := 0x40
def status_bsy : U8 := 0x80
def error_abort : U8 := 0x04
def error_id_not_found : U8 := 0x10
def error_diagnostic_ok : U8 := 0x01
def error_uncorrectable : U8 := 0x40
def error_bad_track : U8 := 0x80
def device_control_nien : U8 := 0x02
def device_control_srst : U8 := 0x04
def device_control_head_select : U8 := 0x08
def xebec_mask_dma_enable : U8 := 0x01
def xebec_mask_irq_enable : U8 := 0x02

/-- `sizeof(record.data)`. -/
def hdc_sector_bytes : ℕ := 512

/-- `sizeof(record.ecc)`. -/
def hdc_ecc_bytes : ℕ := 4

/-! ## ECC -/

/-- One step of the division: a bit shifted in, and the polynomial taken off what is shifted
out. -/
def hdc_ecc_shift (polynomial remainder : U32) (bit : Bool) : U32 :=
  let shifted := remainder <<< 1 ||| (if bit then 1 else 0)
  if remainder.msb then shifted ^^^ polynomial else shifted

/-- The bits of a byte, the highest first. -/
def byte_bits (byte : U8) : List Bool := (List.range 8).map fun bit => byte.getMsbD bit

/-- `x86_hdc_ecc_remainder`. -/
def hdc_ecc_remainder (record : HdcRecord) (polynomial : U32) (include_ecc : Bool) : U32 :=
  let ecc := if include_ecc then record.ecc.toList else List.replicate hdc_ecc_bytes 0
  ((record.data.toList ++ ecc).flatMap byte_bits).foldl (hdc_ecc_shift polynomial) 0

/-- `x86_hdc_ecc_encode`. -/
def hdc_ecc_encode (record : HdcRecord) (polynomial : U32) : HdcRecord :=
  let remainder := hdc_ecc_remainder record polynomial false
  { record with
    ecc := Vector.ofFn fun byte : Fin 4 => (remainder >>> (24 - byte.val * 8)).setWidth 8
    ecc_present := true }

/-- A burst of flipped bits that explains the syndrome. -/
structure EccCandidate where
  mask : U32
  position : ℕ
  span : ℕ

/-- The bits of a record and its ECC. -/
def hdc_ecc_bits : ℕ := (hdc_sector_bytes + hdc_ecc_bytes) * 8

/-- The search of `x86_hdc_ecc_check` from a position on. The answer is `none` where there is
a second candidate. -/
def hdc_ecc_search (polynomial : U32) (limit : ℕ) :
    ℕ → U32 → Option EccCandidate → Option (Option EccCandidate)
  | 0, _, candidate => some candidate
  | left + 1, syndrome, candidate =>
    let position := hdc_ecc_bits - (left + 1)
    let span := syndrome.toNat.log2 + 1
    let next := syndrome >>> 1 ^^^
      (if syndrome.getLsbD 0 then 0x80000000 ||| polynomial >>> 1 else 0)
    if syndrome.getLsbD 0 = true ∧ syndrome.toNat < 2 ^ limit ∧
        position + span ≤ hdc_ecc_bits then
      match candidate with
      | some _ => none
      | none => hdc_ecc_search polynomial limit left next (some ⟨syndrome, position, span⟩)
    else hdc_ecc_search polynomial limit left next candidate

/-- One bit of a record flipped, counted from the end of its ECC. -/
def hdc_record_flip (record : HdcRecord) (position : ℕ) : HdcRecord :=
  let byte := hdc_ecc_bits / 8 - 1 - position / 8
  let bit : U8 := 1 <<< (position % 8)
  if byte < hdc_sector_bytes then
    { record with data := record.data.setIfInBounds byte (record.data.getD byte 0 ^^^ bit) }
  else
    let byte := byte - hdc_sector_bytes
    { record with ecc := record.ecc.setIfInBounds byte (record.ecc.getD byte 0 ^^^ bit) }

/-- The burst taken off the record. -/
def hdc_ecc_correct (record : HdcRecord) (candidate : EccCandidate) : HdcRecord :=
  (List.range candidate.span).foldl (fun record bit =>
    if candidate.mask.getLsbD bit then hdc_record_flip record (candidate.position + bit)
    else record) record

/-- `x86_hdc_ecc_check`: the record it leaves and the length of the burst, or nothing where
the record cannot be had. -/
def hdc_ecc_check (record : HdcRecord) (polynomial : U32) (limit : ℕ) :
    Option (HdcRecord × U8) :=
  if !record.ecc_present then some (hdc_ecc_encode record polynomial, 0)
  else
    let syndrome := hdc_ecc_remainder record polynomial true
    if syndrome = 0 then some (record, 0)
    else if limit = 0 then none
    else
      match hdc_ecc_search polynomial limit hdc_ecc_bits syndrome none with
      | some (some candidate) =>
        let corrected := hdc_ecc_correct record candidate
        if hdc_ecc_remainder corrected polynomial true ≠ 0 then none
        else some (corrected, BitVec.ofNat 8 candidate.span)
      | _ => none

/-! ## The task file -/

def hdc_is_compaq_wd_40mb (config : HdcConfig) : Bool := config.protocol = .compaq_wd_40mb
def hdc_is_ibm_wd1003 (config : HdcConfig) : Bool := config.protocol = .ibm_wd1003_st506
def hdc_is_xebec_xt (config : HdcConfig) : Bool := config.protocol = .xebec_xt
def hdc_is_ata_pio (config : HdcConfig) : Bool := config.protocol = .ata_pio

/-- One of the two WD1003 protocols. -/
def hdc_is_wd (config : HdcConfig) : Bool :=
  hdc_is_compaq_wd_40mb config || hdc_is_ibm_wd1003 config

/-- `x86_hdc_ecc_polynomial`. -/
def hdc_ecc_polynomial (config : HdcConfig) : U32 :=
  if config.protocol = .ibm_wd1003_st506 then 0x140a0445 else 0x00a00805

/-- `x86_hdc_task_file_is_writable`. -/
def hdc_task_file_is_writable (data : HdcData) : Bool :=
  data.status &&& (status_bsy ||| status_drq_request) = 0

/-- `x86_hdc_selected_master`. -/
def hdc_selected_master (data : HdcData) : Bool := !is_set data.drive_head 0x10

/-- `x86_hdc_selected_unit`. -/
def hdc_selected_unit (data : HdcData) : Fin 2 := if is_set data.drive_head 0x10 then 1 else 0

/-- `x86_hdc_current_head`. -/
def hdc_current_head (config : HdcConfig) (data : HdcData) : U8 :=
  if hdc_is_wd config then
    data.drive_head &&& (if is_set data.device_control device_control_head_select then 0x0f
      else 0x07)
  else data.drive_head &&& 0x0f

/-- `x86_hdc_set_current_head`. -/
def hdc_set_current_head (data : HdcData) (head : U8) : HdcData :=
  { data with drive_head := data.drive_head &&& 0xf0 ||| head }

/-- `x86_hdc_lba_mode`. -/
def hdc_lba_mode (config : HdcConfig) (data : HdcData) : Bool :=
  !hdc_is_wd config && config.lba28_supported && is_set data.drive_head 0x40

/-- `x86_hdc_command_is_read`. -/
def hdc_command_is_read (config : HdcConfig) (command : U8) : Bool :=
  command &&& (if hdc_is_wd config then 0xfc else 0xfe) = 0x20

/-- `x86_hdc_command_is_write`. -/
def hdc_command_is_write (config : HdcConfig) (command : U8) : Bool :=
  command &&& (if hdc_is_wd config then 0xfc else 0xfe) = 0x30

/-- `x86_hdc_command_is_long`. -/
def hdc_command_is_long (config : HdcConfig) (command : U8) : Bool :=
  hdc_is_wd config && (command &&& 0xfe = 0x22 || command &&& 0xfe = 0x32)

/-- `x86_hdc_lba`. -/
def hdc_lba (data : HdcData) : U32 :=
  data.sector_number.setWidth 32 ||| data.cylinder_low.setWidth 32 <<< 8 |||
    data.cylinder_high.setWidth 32 <<< 16 ||| (data.drive_head &&& 0x0f).setWidth 32 <<< 24

/-- The cylinder in the task file. -/
def hdc_cylinder (data : HdcData) : U16 :=
  data.cylinder_low.setWidth 16 ||| data.cylinder_high.setWidth 16 <<< 8

/-- `x86_hdc_transfer_size`. -/
def hdc_transfer_size (config : HdcConfig) (data : HdcData) (xebec : Xebec) : ℕ :=
  let long_transfer :=
    if hdc_is_xebec_xt config then xebec.opcode = 0xe5 || xebec.opcode = 0xe6
    else hdc_command_is_long config data.last_command
  hdc_sector_bytes + if long_transfer then hdc_ecc_bytes else 0

/-- `x86_hdc_sector_capacity`. -/
def hdc_sector_capacity (info : HdcMedium) : ℕ :=
  if info.geometry.bytes_per_sector = 0 then 0 else info.geometry.logical_sector_count.toNat

/-- `x86_hdc_address_geometry`. -/
def hdc_address_geometry (config : HdcConfig) (data : HdcData) (info : HdcMedium)
    (unit : Fin 2) : HdcGeometry :=
  if data.drive_heads[unit] = 0 then info.geometry
  else
    let heads := data.drive_heads[unit].toNat
    let sectors_per_track := data.drive_sectors_per_track[unit].toNat
    let cylinders := info.geometry.logical_sector_count.toNat / (heads * sectors_per_track)
    { info.geometry with
      heads := BitVec.ofNat 32 heads
      sectors_per_track := BitVec.ofNat 32 sectors_per_track
      cylinders :=
        if config.protocol = .ata_pio ∧ sectors_per_track ≠ 0 then
          BitVec.ofNat 32 (if cylinders > 65535 then 65535 else cylinders)
        else info.geometry.cylinders }

section Setup

variable {σ : Type} (setup : HdcSetup σ)

/-! ## Interrupts and the end of a command -/

/-- `x86_hdc_irq_pending`. -/
def hdc_irq_pending (s : HdcState σ) : Bool :=
  s.data.irq_pending &&
    (!hdc_is_xebec_xt setup.config || is_set s.xebec.mask_pattern xebec_mask_irq_enable) &&
    !is_set s.data.device_control device_control_nien

/-- `x86_hdc_sync_irq`. -/
def hdc_sync_irq (s : HdcState σ) : HdcState σ := { s with irq := hdc_irq_pending setup s }

/-- `x86_hdc_clear_irq`. -/
def hdc_clear_irq (s : HdcState σ) : HdcState σ :=
  hdc_sync_irq setup { s with data := { s.data with irq_pending := false } }

/-- `x86_hdc_raise_irq`. -/
def hdc_raise_irq (s : HdcState σ) : HdcState σ :=
  hdc_sync_irq setup { s with data := { s.data with irq_pending := true } }

/-- `x86_hdc_complete`. -/
def hdc_complete (s : HdcState σ) (interrupt : Bool) : HdcState σ :=
  let s := { s with data := { s.data with
    phase := .idle
    next_service_tick := 0
    data_index := 0
    status := status_drdy ||| status_dsc ||| (s.data.status &&& status_corrected) } }
  if interrupt then hdc_raise_irq setup s else s

/-- `x86_hdc_fail`. -/
def hdc_fail (s : HdcState σ) (error : U8) : HdcState σ :=
  hdc_raise_irq setup { s with data := { s.data with
    error, phase := .idle, next_service_tick := 0, data_index := 0
    status := status_drdy ||| status_err } }

/-- `LIB_UINT64_MAX`. -/
def hdc_tick_max : ℕ := 2 ^ 64 - 1

/-- `x86_hdc_schedule_service`. -/
def hdc_schedule_service (s : HdcState σ) (service_ticks : ℕ) : HdcState σ :=
  { s with data := { s.data with
    next_service_tick :=
      if service_ticks > hdc_tick_max - s.data.elapsed_ticks then hdc_tick_max
      else s.data.elapsed_ticks + service_ticks } }

/-! ## Sectors -/

/-- `x86_hdc_media_info`. -/
def hdc_media_info (s : HdcState σ) : Option HdcMedium :=
  let answer := setup.query s.context (hdc_selected_unit s.data)
  if answer.1 = .ok then some answer.2 else none

/-- `x86_hdc_resolve_sector`. -/
def hdc_resolve_sector (s : HdcState σ) (write_to_media : Bool) : Option ℕ × HdcState σ :=
  let unit := hdc_selected_unit s.data
  let unknown := (none, hdc_fail setup s error_id_not_found)
  match hdc_media_info setup s with
  | none => (none, hdc_fail setup s error_abort)
  | some info =>
    if !info.present || (write_to_media && info.read_only) then
      (none, hdc_fail setup s error_abort)
    else if hdc_lba_mode setup.config s.data then
      let lba := (hdc_lba s.data).toNat
      if s.data.drive_heads[unit] ≠ 0 ∧ s.data.drive_sectors_per_track[unit] = 0 then unknown
      else if (!hdc_selected_master s.data && !hdc_is_ata_pio setup.config) = true ∨
          hdc_sector_capacity info ≤ lba ∨
          info.geometry.bytes_per_sector.toNat ≠ hdc_sector_bytes then unknown
      else (some lba, s)
    else
      let cylinder := (hdc_cylinder s.data).toNat
      let head := (hdc_current_head setup.config s.data).toNat
      let sector := s.data.sector_number.toNat
      let geometry := hdc_address_geometry setup.config s.data info unit
      let address := ((cylinder * geometry.heads.toNat + head) *
        geometry.sectors_per_track.toNat + (sector - 1)) % 2 ^ 64
      if (!hdc_is_ata_pio setup.config && !hdc_is_wd setup.config &&
            !hdc_selected_master s.data) = true ∨
          sector = 0 ∨ geometry.cylinders.toNat ≤ cylinder ∨ geometry.heads.toNat ≤ head ∨
          geometry.sectors_per_track.toNat < sector ∨
          info.geometry.bytes_per_sector.toNat ≠ hdc_sector_bytes then unknown
      else if hdc_sector_capacity info ≤ address then unknown
      else (some address, s)

/-- The error of a record that a medium does not give. -/
def hdc_record_error (result : HdcRecordResult) : U8 :=
  match result with
  | .bad_track => error_bad_track
  | .range => error_id_not_found
  | _ => error_abort

/-- A record asked for is noted. -/
def HdcState.touch (s : HdcState σ) (write : Bool) (unit : Fin 2) (sector : ℕ)
    (result : HdcRecordResult) (context : σ) : HdcState σ :=
  { s with context, touched := s.touched ++ [⟨write, unit, sector, result⟩] }

/-- The limit up to which a read corrects. -/
def hdc_ecc_limit (config : HdcConfig) (data : HdcData) : ℕ :=
  if !is_set data.drive_head 0x80 then 0 else if hdc_is_ibm_wd1003 config then 5 else 11

/-- `x86_hdc_load_sector`, from the record the medium gave. -/
def hdc_load_record (s : HdcState σ) (record : HdcRecord) : Bool × HdcState σ :=
  let polynomial := hdc_ecc_polynomial setup.config
  if setup.config.protocol = .ata_pio then
    (true, { s with data := { s.data with record } })
  else if hdc_command_is_long setup.config s.data.last_command then
    let record := if !record.ecc_present then hdc_ecc_encode record polynomial else record
    (true, { s with data := { s.data with record } })
  else
    match hdc_ecc_check record polynomial (hdc_ecc_limit setup.config s.data) with
    | none =>
      if !hdc_is_compaq_wd_40mb setup.config ||
          (s.data.last_command ≠ 0x20 && s.data.last_command ≠ 0x21) then
        (false, hdc_fail setup s error_uncorrectable)
      else
        (true, { s with data := { s.data with
          error := error_uncorrectable, status := s.data.status ||| status_err, record } })
    | some (record, burst) =>
      let status := if burst ≠ 0 then s.data.status ||| status_corrected else s.data.status
      (true, { s with data := { s.data with record, status } })

/-- `x86_hdc_load_sector`. -/
def hdc_load_sector (s : HdcState σ) : Bool × HdcState σ :=
  match hdc_resolve_sector setup s false with
  | (none, s) => (false, s)
  | (some sector, s) =>
    let unit := hdc_selected_unit s.data
    let answer := setup.read s.context unit sector
    let s := s.touch false unit sector answer.1 answer.2.2
    if answer.1 ≠ .ok then (false, hdc_fail setup s (hdc_record_error answer.1))
    else hdc_load_record setup s answer.2.1

/-- The record as `x86_hdc_store_sector` hands it over. -/
def hdc_stored_record (data : HdcData) : HdcRecord :=
  if hdc_command_is_long setup.config data.last_command then data.record
  else if setup.config.protocol = .ata_pio then { data.record with ecc_present := false }
  else hdc_ecc_encode data.record (hdc_ecc_polynomial setup.config)

/-- `x86_hdc_store_sector`. -/
def hdc_store_sector (s : HdcState σ) : Bool × HdcState σ :=
  match hdc_resolve_sector setup s true with
  | (none, s) => (false, s)
  | (some sector, s) =>
    let unit := hdc_selected_unit s.data
    let answer := setup.write s.context unit sector (hdc_stored_record setup s.data)
    let s := s.touch true unit sector answer.1 answer.2
    if answer.1 ≠ .ok then (false, hdc_fail setup s (hdc_record_error answer.1))
    else (true, s)

/-- `x86_hdc_advance_chs`. -/
def hdc_advance_chs (s : HdcState σ) : Bool × HdcState σ :=
  match hdc_media_info setup s with
  | none => (false, hdc_fail setup s error_abort)
  | some info =>
    if !info.present then (false, hdc_fail setup s error_abort)
    else
      let geometry :=
        hdc_address_geometry setup.config s.data info (hdc_selected_unit s.data)
      let cylinder := hdc_cylinder s.data
      let head := hdc_current_head setup.config s.data
      let sector := s.data.sector_number + 1
      let carry_sector : Bool := sector = 0 || geometry.sectors_per_track.toNat < sector.toNat
      let next_sector := if carry_sector then 1 else sector
      let carry_head : Bool := carry_sector && geometry.heads.toNat ≤ (head + 1).toNat
      let next_head := if carry_head then 0 else if carry_sector then head + 1 else head
      let next_cylinder := if carry_head then cylinder + 1 else cylinder
      if geometry.cylinders.toNat ≤ next_cylinder.toNat then
        (false, hdc_fail setup s error_id_not_found)
      else
        (true, { s with data := hdc_set_current_head { s.data with
          sector_number := next_sector
          cylinder_low := next_cylinder.setWidth 8
          cylinder_high := (next_cylinder >>> 8).setWidth 8 } next_head })

/-- `x86_hdc_advance_lba`. -/
def hdc_advance_lba (s : HdcState σ) : Bool × HdcState σ :=
  match hdc_media_info setup s with
  | none => (false, hdc_fail setup s error_abort)
  | some info =>
    if !info.present then (false, hdc_fail setup s error_abort)
    else
      let lba := hdc_lba s.data + 1
      if hdc_sector_capacity info ≤ lba.toNat then (false, hdc_fail setup s error_id_not_found)
      else
        (true, { s with data := { s.data with
          sector_number := lba.setWidth 8
          cylinder_low := (lba >>> 8).setWidth 8
          cylinder_high := (lba >>> 16).setWidth 8
          drive_head := s.data.drive_head &&& (0xf0 : U8) ||| (lba >>> 24).setWidth 8 } })

/-- `x86_hdc_advance_sector`. -/
def hdc_advance_sector (s : HdcState σ) : Bool × HdcState σ :=
  if hdc_lba_mode setup.config s.data then hdc_advance_lba setup s else hdc_advance_chs setup s

end Setup

end Nxvm.Chips
