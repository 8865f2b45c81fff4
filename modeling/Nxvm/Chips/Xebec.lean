/-
The Xebec XT controller (`x86_xebec_*` of `hdc.c`).

A command comes as a block of six bytes, its data go through DMA or the data port byte by
byte, and the status phase answers it. The DMA request is up in the two data phases while
the mask register enables DMA.
-/
import Nxvm.Chips.Hdc

set_option autoImplicit false

namespace Nxvm.Chips

open Nxvm.Lib.Register Nxvm.Machine

section Setup

variable {σ : Type} (setup : HdcSetup σ)

/-! ## The request line and the status phase -/

/-- `x86_xebec_reset`. -/
def xebec_reset (s : HdcState σ) : HdcState σ :=
  hdc_clear_irq setup { s with drq := false, xebec := { xebec_zero with ecc_limit := 11 } }

/-- The status phase with the bytes it answers. -/
def HdcState.answer (s : HdcState σ) (response : List U8) : HdcState σ :=
  { s with
    xebec := { s.xebec with response, response_index := 0, phase := .response }
    statuses := s.statuses ++ [s.drq] }

/-- `x86_xebec_response`. -/
def xebec_response (s : HdcState σ) (status : U8) (sense : Option (Vector U8 4)) : HdcState σ :=
  let drive := s.xebec.dcb[1] >>> 5 &&& 1
  let last_sense :=
    match sense with
    | some sense => if is_set status 0x02 then sense else s.xebec.last_sense
    | none => s.xebec.last_sense
  hdc_raise_irq setup
    ({ s with xebec := { s.xebec with last_sense } }.answer [drive <<< 5 ||| status])

/-- `x86_xebec_release_dma`. -/
def xebec_release_dma (s : HdcState σ) : HdcState σ := { s with drq := false }

/-- `x86_xebec_sync_dma_request`. -/
def xebec_sync_dma_request (s : HdcState σ) : HdcState σ :=
  { s with
    drq := is_set s.xebec.mask_pattern xebec_mask_dma_enable &&
      (s.xebec.phase = .dma_read || s.xebec.phase = .dma_write) }

/-! ## Sectors -/

/-- `x86_xebec_address_geometry`. -/
def xebec_address_geometry (s : HdcState σ) : HdcGeometry :=
  if s.xebec.cylinders = 0 then setup.config.xebec_geometry
  else
    { setup.config.xebec_geometry with
      cylinders := s.xebec.cylinders.setWidth 32
      heads := s.xebec.heads.setWidth 32 }

/-- The cylinder in the command block. -/
def xebec_cylinder (xebec : Xebec) : U16 :=
  xebec.dcb[3].setWidth 16 ||| (xebec.dcb[2] &&& 0xc0).setWidth 16 <<< 2

/-- The drive in the command block. -/
def xebec_unit (xebec : Xebec) : Fin 2 := if is_set xebec.dcb[1] 0x20 then 1 else 0

/-- `x86_xebec_sector`. -/
def xebec_sector (s : HdcState σ) : Option ℕ :=
  let geometry := xebec_address_geometry setup s
  let recorded := setup.config.xebec_geometry
  let cylinder := (xebec_cylinder s.xebec).toNat
  let head := (s.xebec.dcb[1] &&& 0x1f).toNat
  let sector := (s.xebec.dcb[2] &&& 0x3f).toNat
  if geometry.cylinders.toNat > 1024 ∨ geometry.heads.toNat > 32 ∨
      geometry.sectors_per_track.toNat > 64 ∨ geometry.cylinders.toNat ≤ cylinder ∨
      geometry.heads.toNat ≤ head ∨ geometry.sectors_per_track.toNat ≤ sector ∨
      recorded.cylinders.toNat ≤ cylinder ∨ recorded.heads.toNat ≤ head then none
  else some ((cylinder * recorded.heads.toNat + head) * geometry.sectors_per_track.toNat + sector)

/-- `x86_xebec_prepare_sector`. -/
def xebec_prepare_sector (s : HdcState σ) (write_to_media : Bool) : U8 × ℕ :=
  let answer := setup.query s.context (xebec_unit s.xebec)
  let expected := setup.config.xebec_geometry
  let found := answer.2.geometry
  if answer.1 ≠ .ok ∨ answer.2.present = false then (0x04, 0)
  else if answer.2.geometry_known = false ∨
      found.logical_sector_count ≠ expected.logical_sector_count ∨
      found.bytes_per_sector.toNat ≠ hdc_sector_bytes ∨
      found.cylinders ≠ expected.cylinders ∨ found.heads ≠ expected.heads ∨
      found.sectors_per_track ≠ expected.sectors_per_track then (0x21, 0)
  else
    match xebec_sector setup s with
    | none => (0x21, 0)
    | some sector =>
      if found.logical_sector_count.toNat ≤ sector then (0x21, sector)
      else (if write_to_media && answer.2.read_only then 0x03 else 0, sector)

/-- The error of a record that a medium does not give. -/
def xebec_record_error (result : HdcRecordResult) (write_to_media : Bool) : U8 :=
  match result with
  | .absent => 0x04
  | .range => 0x21
  | .bad_track => 0x19
  | _ => if write_to_media then 0x03 else 0x11

/-- The record a read of `x86_xebec_transfer_sector` got. -/
def xebec_load_record (s : HdcState σ) (record : HdcRecord) : U8 × HdcState σ :=
  let polynomial := hdc_ecc_polynomial setup.config
  if s.xebec.opcode = 0xe5 then
    let record := if !record.ecc_present then hdc_ecc_encode record polynomial else record
    (0, { s with data := { s.data with error := 0, record } })
  else
    match hdc_ecc_check record polynomial s.xebec.ecc_limit.toNat with
    | none => (0x11, { s with data := { s.data with error := 0 } })
    | some (record, burst) =>
      if burst ≠ 0 then
        (0x18, { s with
          data := { s.data with error := 0x18, record }
          xebec := { s.xebec with corrected_burst := burst } })
      else (0, { s with data := { s.data with error := 0, record } })

/-- `x86_xebec_transfer_sector`. -/
def xebec_transfer_sector (s : HdcState σ) (write_to_media : Bool) : U8 × HdcState σ :=
  let unit := xebec_unit s.xebec
  let prepared := xebec_prepare_sector setup s write_to_media
  if prepared.1 ≠ 0 then (prepared.1, s)
  else if write_to_media then
    let record :=
      if s.xebec.opcode ≠ 0xe6 then
        hdc_ecc_encode s.data.record (hdc_ecc_polynomial setup.config)
      else s.data.record
    let answer := setup.write s.context unit prepared.2 record
    let s := s.touch true unit prepared.2 answer.1 answer.2
    (if answer.1 = .ok then 0 else xebec_record_error answer.1 true, s)
  else
    let answer := setup.read s.context unit prepared.2
    let s := s.touch false unit prepared.2 answer.1 answer.2.2
    if answer.1 = .ok then xebec_load_record setup s answer.2.1
    else (xebec_record_error answer.1 false, s)

/-- The command block with another address. -/
def xebec_set_address (s : HdcState σ) (head_byte sector_byte cylinder_byte : U8) : HdcState σ :=
  { s with xebec := { s.xebec with
    dcb := ((s.xebec.dcb.set 1 head_byte).set 2 sector_byte).set 3 cylinder_byte } }

/-- `x86_xebec_next_sector`. -/
def xebec_next_sector (s : HdcState σ) : Bool × HdcState σ :=
  let geometry := xebec_address_geometry setup s
  let cylinder := xebec_cylinder s.xebec
  let head := s.xebec.dcb[1] &&& 0x1f
  let sector := (s.xebec.dcb[2] &&& 0x3f) + 1
  let carry_sector : Bool := sector.toNat = geometry.sectors_per_track.toNat
  let carry_head : Bool := carry_sector && (head + 1).toNat = geometry.heads.toNat
  let next_sector := if carry_sector then 0 else sector
  let next_head := if carry_head then 0 else if carry_sector then head + 1 else head
  let next_cylinder := if carry_head then cylinder + 1 else cylinder
  let s := xebec_set_address s (s.xebec.dcb[1] &&& 0xe0 ||| next_head)
    ((s.xebec.dcb[2] &&& (0x3f : U8) ||| (next_cylinder >>> 2 &&& 0xc0).setWidth 8) &&& 0xc0 |||
      next_sector) (next_cylinder.setWidth 8)
  (decide (next_cylinder.toNat < geometry.cylinders.toNat), s)

/-- `x86_xebec_fail`. -/
def xebec_fail (s : HdcState σ) (error : U8) (addressed : Bool) : HdcState σ :=
  let sense := #v[if addressed then error ||| 0x80 else error, s.xebec.dcb[1] &&& 0x3f,
    s.xebec.dcb[2], s.xebec.dcb[3]]
  xebec_response setup (xebec_release_dma s) 0x02 (some sense)

/-! ## Formatting -/

/-- The first position from here on that no sector has. -/
def xebec_free_position (track : List (Option U8)) : ℕ → ℕ → ℕ
  | 0, position => position
  | fuel + 1, position =>
    if (track[position]?.join).isSome then
      xebec_free_position track fuel ((position + 1) % track.length)
    else position

/-- The sectors of a track by their positions, laid out with the interleave. -/
def xebec_track_ids (sector_count interleave : ℕ) : List (Option U8) :=
  ((List.range sector_count).foldl (fun (placed : List (Option U8) × ℕ) id =>
    let position := xebec_free_position placed.1 sector_count placed.2
    (placed.1.set position (some (BitVec.ofNat 8 id)), (position + interleave) % sector_count))
    (List.replicate sector_count none, 0)).1

/-- `x86_xebec_format_track`. -/
def xebec_format_track (s : HdcState σ) : U8 × HdcState σ :=
  let geometry := xebec_address_geometry setup s
  let interleave := s.xebec.dcb[4].toNat
  let sector_count := geometry.sectors_per_track.toNat
  if interleave = 0 ∨ interleave > 16 ∨
      geometry.cylinders.toNat = 0 ∨ geometry.cylinders.toNat > 1024 ∨
      geometry.heads.toNat = 0 ∨ geometry.heads.toNat > 32 ∨
      sector_count = 0 ∨ sector_count > 64 then (0x20, s)
  else
    let s := { s with xebec :=
      { s.xebec with dcb := s.xebec.dcb.set 2 (s.xebec.dcb[2] &&& 0xc0) } }
    let prepared := xebec_prepare_sector setup s true
    if prepared.1 ≠ 0 then (prepared.1, s)
    else
      let ids := (xebec_track_ids sector_count interleave).map (·.getD 0)
      let bad : Bool := s.xebec.opcode = 0x07
      let track : HdcTrack :=
        { first_sector := prepared.2, ids, bad := ids.map fun _ => bad, fill_payload := !bad }
      let answer := setup.format_track s.context (xebec_unit s.xebec) track
      let s := { s with context := answer.2 }
      (match answer.1 with
        | .ok => 0
        | .absent => 0x04
        | .range => 0x21
        | _ => 0x03, s)

/-- A loop that stops at the first error. -/
def hdc_each {α : Type} (body : HdcState σ → α → U8 × HdcState σ) :
    List α → HdcState σ → U8 × HdcState σ
  | [], s => (0, s)
  | a :: rest, s => if (body s a).1 ≠ 0 then body s a else hdc_each body rest (body s a).2

/-- The tracks that follow one, to the end of the drive. -/
def xebec_tracks_after (geometry : HdcGeometry) (cylinder head : ℕ) : List (ℕ × ℕ) :=
  ((List.range geometry.cylinders.toNat).drop cylinder).flatMap fun c =>
    ((List.range geometry.heads.toNat).drop (if c = cylinder then head + 1 else 0)).map fun h =>
      (c, h)

/-- The command block on a track. -/
def xebec_address_track (s : HdcState σ) (unit_byte : U8) (track : ℕ × ℕ) : HdcState σ :=
  xebec_set_address s (unit_byte ||| BitVec.ofNat 8 track.2)
    (BitVec.ofNat 8 (track.1 / 4) &&& 0xc0) (BitVec.ofNat 8 track.1)

/-- `x86_xebec_format_drive`. -/
def xebec_format_drive (s : HdcState σ) : U8 × HdcState σ :=
  let tracks := xebec_tracks_after (xebec_address_geometry setup s)
    (xebec_cylinder s.xebec).toNat (s.xebec.dcb[1] &&& 0x1f).toNat
  let unit_byte := s.xebec.dcb[1] &&& 0x20
  let first := xebec_format_track setup s
  if first.1 ≠ 0 then first
  else
    hdc_each (fun s track => xebec_format_track setup (xebec_address_track s unit_byte track))
      tracks first.2

/-! ## Commands -/

/-- `x86_xebec_start_transfer`. -/
def xebec_start_transfer (s : HdcState σ) : HdcState σ :=
  let read : Bool := s.xebec.opcode = 0x08 || s.xebec.opcode = 0xe5
  let s := { s with xebec := { s.xebec with byte_index := 0 } }
  if s.xebec.dcb[4] = 0 then xebec_fail setup s 0x20 true
  else
    let begun :=
      if read then xebec_transfer_sector setup s false
      else ((xebec_prepare_sector setup s true).1, s)
    let s := begun.2
    if begun.1 ≠ 0 ∧ begun.1 ≠ 0x18 then xebec_fail setup s begun.1 true
    else
      xebec_sync_dma_request { s with
        data :=
          if read then s.data else { s.data with record := { s.data.record with
            ecc_present := false } }
        xebec := { s.xebec with
          sectors_remaining := s.xebec.dcb[4]
          phase := if read then .dma_read else .dma_write } }

/-- `x86_xebec_command_is_defined`. -/
def xebec_command_is_defined (command : U8) : Bool :=
  let command := command.toNat
  command ≤ 0x01 || (0x03 ≤ command && command ≤ 0x08) || (0x0a ≤ command && command ≤ 0x0f) ||
    command = 0xe0 || (0xe3 ≤ command && command ≤ 0xe6)

/-- The sense bytes of an error at the address in the command block. -/
def xebec_sense_at (xebec : Xebec) (error : U8) : Vector U8 4 :=
  #v[error, xebec.dcb[1] &&& 0x3f, xebec.dcb[2], xebec.dcb[3]]

/-- The characteristics of `0x0c` taken over. -/
def xebec_set_characteristics (s : HdcState σ) : HdcState σ :=
  let bytes := s.xebec.initialization
  let cylinders : U16 := bytes[0].setWidth 16 <<< 8 ||| bytes[1].setWidth 16
  let heads := bytes[2]
  let s := { s with xebec := { s.xebec with dcb := s.xebec.dcb.set 1 0 } }
  if cylinders = 0 ∨ cylinders.toNat > 1024 ∨ heads = 0 ∨ heads.toNat > 32 ∨
      bytes[7].toNat > 11 then
    xebec_response setup s 0x02 (some #v[0x20, 0, 0, 0])
  else
    xebec_response setup
      { s with xebec := { s.xebec with cylinders, heads, ecc_limit := bytes[7] } } 0
      (some #v[0, 0, 0, 0])

/-- The loop of `0x05`. -/
def xebec_verify (s : HdcState σ) : U8 × HdcState σ :=
  let count := s.xebec.dcb[4].toNat
  hdc_each (fun s index =>
    let read := xebec_transfer_sector setup s false
    if read.1 ≠ 0 then read
    else if index + 1 < count then
      let next := xebec_next_sector setup read.2
      (if next.1 then 0 else 0x21, next.2)
    else read) (List.range count) s

/-- The loop of `0xe3`. -/
def xebec_drive_diagnostic (s : HdcState σ) (unit_byte : U8) : U8 × HdcState σ :=
  let geometry := xebec_address_geometry setup s
  let tracks := (List.range geometry.cylinders.toNat).flatMap fun cylinder =>
    (List.range geometry.heads.toNat).map fun head => (cylinder, head)
  hdc_each (fun s track =>
    xebec_transfer_sector setup (xebec_address_track s unit_byte track) false) tracks s

/-- The commands that test the drive: `0x00`, `0x01`, `0x05`, `0x0b` and `0xe3`. -/
def xebec_test_drive (s : HdcState σ) : HdcState σ :=
  let command := s.xebec.opcode
  let unit := xebec_unit s.xebec
  let addressed : Bool := command = 0x0b || command = 0x05 || command = 0xe3
  let unit_byte : U8 := s.xebec.dcb[1] &&& 0x20
  let s := if command = 0xe3 then xebec_set_address s unit_byte 0 0 else s
  let answer := setup.query s.context unit
  let tested : U8 × HdcState σ :=
    if answer.1 ≠ .ok ∨ answer.2.present = false then (0x04, s)
    else if addressed = true ∧ ((command = 0x0b ∧ s.xebec.dcb[2] &&& 0x3f ≠ 0) ∨
        (xebec_sector setup s).all (answer.2.geometry.logical_sector_count.toNat ≤ ·) = true) then
      (0x21, s)
    else if command = 0xe3 then xebec_drive_diagnostic setup s unit_byte
    else if command = 0x05 then
      if s.xebec.dcb[4] = 0 then (0x20, s) else xebec_verify setup s
    else (0, s)
  let s := tested.2
  if tested.1 ≠ 0 then
    xebec_response setup s 0x02 (some (xebec_sense_at s.xebec
      (if addressed then tested.1 ||| 0x80 else tested.1)))
  else xebec_response setup s 0 (some #v[0, 0, 0, 0])

/-- `x86_xebec_complete_dcb`. The buffer test of `0xe0` and `0xe4` leaves its last pattern. -/
def xebec_complete_dcb (s : HdcState σ) : HdcState σ :=
  let s := { s with data := { s.data with error := 0 } }
  let command := s.xebec.opcode
  if command = 0x0d then
    s.answer [s.xebec.corrected_burst, s.xebec.dcb[1] &&& 0x20]
  else if command = 0x03 then
    s.answer (s.xebec.last_sense.toList ++ [s.xebec.dcb[1] &&& 0x20])
  else if !xebec_command_is_defined command then
    xebec_response setup s 0x02 (some #v[0x20, 0, 0, 0])
  else if command = 0x0c then xebec_set_characteristics setup s
  else if command = 0xe0 ∨ command = 0xe4 then
    xebec_response setup { s with data := { s.data with record := { s.data.record with
      data := Vector.replicate 512 0xaa, ecc_present := false } } } 0 (some #v[0, 0, 0, 0])
  else if command = 0x04 ∨ command = 0x06 ∨ command = 0x07 then
    let formatted :=
      if command = 0x04 then xebec_format_drive setup s else xebec_format_track setup s
    if formatted.1 ≠ 0 then xebec_fail setup formatted.2 formatted.1 true
    else xebec_response setup formatted.2 0 (some #v[0, 0, 0, 0])
  else if command = 0x08 ∨ command = 0x0a ∨ command = 0xe5 ∨ command = 0xe6 then
    xebec_start_transfer setup s
  else if command = 0x0e ∨ command = 0x0f then
    xebec_sync_dma_request { s with
      data :=
        if command = 0x0f then { s.data with record := { s.data.record with
          ecc_present := false } } else s.data
      xebec := { s.xebec with
        byte_index := 0
        sectors_remaining := 1
        phase := if command = 0x0e then .dma_read else .dma_write } }
  else if command = 0x00 ∨ command = 0x01 ∨ command = 0x0b ∨ command = 0x05 ∨
      command = 0xe3 then xebec_test_drive setup s
  else
    xebec_response setup s 0x02
      (some #v[0x04, s.xebec.dcb[1] &&& 0x20, s.xebec.dcb[2], s.xebec.dcb[3]])

/-- `x86_xebec_schedule_dcb_completion`. -/
def xebec_schedule_dcb_completion (s : HdcState σ) : HdcState σ :=
  hdc_schedule_service { s with xebec := { s.xebec with phase := .pending_command } }
    setup.config.command_ticks

/-! ## Data -/

/-- The byte of the sector buffer at an index, its ECC behind its data. -/
def HdcRecord.byte (record : HdcRecord) (index : ℕ) : U8 :=
  if index < hdc_sector_bytes then record.data.getD index 0
  else record.ecc.getD (index - hdc_sector_bytes) 0

/-- The sector buffer with another byte. -/
def HdcRecord.set_byte (record : HdcRecord) (index : ℕ) (byte : U8) : HdcRecord :=
  if index < hdc_sector_bytes then { record with data := record.data.setIfInBounds index byte }
  else { record with ecc := record.ecc.setIfInBounds (index - hdc_sector_bytes) byte }

/-- The end of a sector that was read. -/
def xebec_sector_read (s : HdcState σ) : HdcState σ :=
  if s.data.error = 0x18 then xebec_fail setup s 0x18 true
  else
    let s := { s with xebec := { s.xebec with
      sectors_remaining := s.xebec.sectors_remaining - 1 } }
    if s.xebec.sectors_remaining = 0 then xebec_response setup (xebec_release_dma s) 0 none
    else
      let next := xebec_next_sector setup s
      let read := if next.1 then xebec_transfer_sector setup next.2 false else (0x21, next.2)
      let s := read.2
      if read.1 ≠ 0 ∧ read.1 ≠ 0x18 then xebec_fail setup s read.1 true
      else { s with xebec := { s.xebec with byte_index := 0 } }

/-- `x86_hdc_dma_read`: the byte, where one is available. -/
def hdc_dma_read (s : HdcState σ) : Option U8 × HdcState σ :=
  let size := hdc_transfer_size setup.config s.data s.xebec
  if s.xebec.phase ≠ .dma_read ∨ size ≤ s.xebec.byte_index then (none, s)
  else
    let byte := s.data.record.byte s.xebec.byte_index
    let s := { s with xebec := { s.xebec with byte_index := s.xebec.byte_index + 1 } }
    (some byte, if s.xebec.byte_index = size then xebec_sector_read setup s else s)

/-- The end of a sector that was written. -/
def xebec_sector_written (s : HdcState σ) : HdcState σ :=
  let command := s.xebec.opcode
  let s := { s with data := { s.data with record := { s.data.record with
    ecc_present := command = 0xe6 } } }
  let stored := if command = 0x0f then (0, s) else xebec_transfer_sector setup s true
  let s := stored.2
  if stored.1 ≠ 0 ∨ s.xebec.sectors_remaining = 0 then
    xebec_fail setup s (if stored.1 ≠ 0 then stored.1 else 0x20) (decide (command ≠ 0x0f))
  else
    let s := { s with xebec := { s.xebec with
      sectors_remaining := s.xebec.sectors_remaining - 1 } }
    if s.xebec.sectors_remaining = 0 then xebec_response setup (xebec_release_dma s) 0 none
    else
      let next := xebec_next_sector setup s
      let error := if next.1 then (xebec_prepare_sector setup next.2 true).1 else 0x21
      let s := next.2
      if error ≠ 0 then xebec_fail setup s error true
      else { s with xebec := { s.xebec with byte_index := 0 } }

/-- `x86_hdc_dma_write`. -/
def hdc_dma_write (s : HdcState σ) (byte : U8) : HdcState σ :=
  let size := hdc_transfer_size setup.config s.data s.xebec
  if s.xebec.phase ≠ .dma_write ∨ size ≤ s.xebec.byte_index then s
  else
    let s := { s with
      data := { s.data with record := s.data.record.set_byte s.xebec.byte_index byte }
      xebec := { s.xebec with byte_index := s.xebec.byte_index + 1 } }
    if s.xebec.byte_index ≠ size then s else xebec_sector_written setup s

/-- `x86_hdc_terminal_count`. -/
def hdc_terminal_count (s : HdcState σ) : HdcState σ :=
  if s.xebec.phase ≠ .dma_read ∧ s.xebec.phase ≠ .dma_write then s
  else
    xebec_response setup (xebec_release_dma s) 0x02
      (some #v[0x04, s.xebec.dcb[1] &&& 0x20, s.xebec.dcb[2], s.xebec.dcb[3]])

/-! ## Ports -/

/-- A byte of the status phase read. -/
def xebec_read_response (s : HdcState σ) : U8 × HdcState σ :=
  let byte := s.xebec.response.getD s.xebec.response_index 0
  let s := hdc_clear_irq setup
    { s with xebec := { s.xebec with response_index := s.xebec.response_index + 1 } }
  let s :=
    if s.xebec.opcode = 0x03 ∧ s.xebec.response_index = 4 then hdc_raise_irq setup s else s
  if s.xebec.response_index = s.xebec.response.length then
    (byte, { s with xebec := { s.xebec with
      last_sense :=
        if s.xebec.opcode = 0x03 then Vector.replicate 4 0 else s.xebec.last_sense
      phase := .idle
      dcb_count := 0 } })
  else (byte, s)

/-- `x86_xebec_port_read`. -/
def xebec_port_read (s : HdcState σ) (reg : HdcRegister) : Status × U8 × HdcState σ :=
  if reg ≠ .data then (.unsupported, 0, s)
  else if s.xebec.phase = .dma_read then
    let read := hdc_dma_read setup s
    (.ok, read.1.getD 0, read.2)
  else if s.xebec.phase ≠ .response ∨ s.xebec.response.length ≤ s.xebec.response_index then
    (.ok, 0, s)
  else
    let read := xebec_read_response setup s
    (.ok, read.1, read.2)

/-- A byte of the command block, or of the characteristics behind it. -/
def xebec_command_byte (s : HdcState σ) (value : U8) : HdcState σ :=
  match s.xebec.phase with
  | .dcb =>
    let s := { s with xebec := { s.xebec with
      dcb := s.xebec.dcb.setIfInBounds s.xebec.dcb_count value
      dcb_count := s.xebec.dcb_count + 1 } }
    if s.xebec.dcb_count = 6 then
      if s.xebec.opcode = 0x0c then { s with xebec := { s.xebec with phase := .initialization } }
      else xebec_schedule_dcb_completion setup s
    else s
  | .initialization =>
    let s := { s with xebec := { s.xebec with
      initialization := s.xebec.initialization.setIfInBounds s.xebec.initialization_count value
      initialization_count := s.xebec.initialization_count + 1 } }
    if s.xebec.initialization_count = 8 then xebec_schedule_dcb_completion setup s else s
  | _ => s

/-- `x86_xebec_port_write`. -/
def xebec_port_write (s : HdcState σ) (reg : HdcRegister) (value : U8) : HdcState σ :=
  match reg with
  | .xebec_reset => xebec_reset setup s
  | .xebec_mask =>
    xebec_sync_dma_request (hdc_sync_irq setup
      { s with xebec := { s.xebec with mask_pattern := value } })
  | .xebec_select =>
    { s with xebec := { s.xebec with
      dcb_count := 0, initialization_count := 0, phase := .dcb } }
  | .data =>
    if s.xebec.phase = .dma_write then hdc_dma_write setup s value
    else xebec_command_byte setup s value
  | _ => s

end Setup

end Nxvm.Chips
