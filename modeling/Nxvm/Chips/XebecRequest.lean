/-
The DMA request of the Xebec controller follows its phase.

The sector routines leave the line, the phase and the mask alone (`SameRequest`); a status
phase begins with the line down, and what drives the line drives it to where it belongs
(`Owned`). The select register is the exception: it leaves a data phase and does not drive
the line, so that the line stays up in a command phase when it was up before.
-/
import Nxvm.Chips.HdcCommands

set_option autoImplicit false

namespace Nxvm.Chips

open Nxvm.Lib.Register Nxvm.Machine

section Setup

variable {σ : Type} (setup : HdcSetup σ)

/-! ## The line -/

/-- DMA is enabled in a data phase. -/
def xebec_requested (xebec : Xebec) : Bool :=
  is_set xebec.mask_pattern xebec_mask_dma_enable &&
    (xebec.phase = .dma_read || xebec.phase = .dma_write)

/-- No status phase began with the line up, and no task-file command is in progress. -/
structure Ledger (s : HdcState σ) : Prop where
  statuses : ∀ level ∈ s.statuses, level = false
  task : s.data.phase = .idle

/-- The line is up exactly in the data phases that DMA serves. -/
structure Owned (s : HdcState σ) : Prop extends Ledger s where
  request : s.drq = xebec_requested s.xebec

/-- Nothing that drives the line, or that it depends on, is other than before. -/
structure SameRequest (s s' : HdcState σ) : Prop where
  drq : s'.drq = s.drq
  phase : s'.xebec.phase = s.xebec.phase
  mask : s'.xebec.mask_pattern = s.xebec.mask_pattern
  statuses : s'.statuses = s.statuses
  task : s'.data.phase = s.data.phase

theorem SameRequest.refl (s : HdcState σ) : SameRequest s s := ⟨rfl, rfl, rfl, rfl, rfl⟩

theorem SameRequest.trans {a b c : HdcState σ} (h : SameRequest a b) (h' : SameRequest b c) :
    SameRequest a c :=
  ⟨h'.drq.trans h.drq, h'.phase.trans h.phase, h'.mask.trans h.mask,
    h'.statuses.trans h.statuses, h'.task.trans h.task⟩

theorem SameRequest.requested {s s' : HdcState σ} (h : SameRequest s s') :
    xebec_requested s'.xebec = xebec_requested s.xebec := by
  unfold xebec_requested
  rw [h.phase, h.mask]

theorem Ledger.same {s s' : HdcState σ} (h : Ledger s) (same : SameRequest s s') : Ledger s' :=
  ⟨by rw [same.statuses]; exact h.statuses, by rw [same.task]; exact h.task⟩

theorem Owned.same {s s' : HdcState σ} (h : Owned s) (same : SameRequest s s') : Owned s' :=
  ⟨h.toLedger.same same, by rw [same.drq, same.requested]; exact h.request⟩

/-- Outside the data phases the line is down. -/
theorem Owned.down {s : HdcState σ} (h : Owned s) (hread : s.xebec.phase ≠ .dma_read)
    (hwrite : s.xebec.phase ≠ .dma_write) : s.drq = false := by
  rw [h.request, xebec_requested]
  simp [hread, hwrite]

/-- The line stays owned where it is down and a phase begins that has no data. -/
theorem Ledger.owned_of_down {s : HdcState σ} (h : Ledger s) (hdrq : s.drq = false)
    (hread : s.xebec.phase ≠ .dma_read) (hwrite : s.xebec.phase ≠ .dma_write) : Owned s := by
  refine ⟨h, ?_⟩
  rw [hdrq, xebec_requested]
  simp [hread, hwrite]

/-! ## Sectors -/

theorem hdc_sync_irq_same (s : HdcState σ) : SameRequest s (hdc_sync_irq setup s) :=
  ⟨rfl, rfl, rfl, rfl, rfl⟩

theorem hdc_clear_irq_same (s : HdcState σ) : SameRequest s (hdc_clear_irq setup s) :=
  ⟨rfl, rfl, rfl, rfl, rfl⟩

theorem hdc_raise_irq_same (s : HdcState σ) : SameRequest s (hdc_raise_irq setup s) :=
  ⟨rfl, rfl, rfl, rfl, rfl⟩

theorem xebec_load_record_same (s : HdcState σ) (record : HdcRecord) :
    SameRequest s (xebec_load_record setup s record).2 := by
  unfold xebec_load_record
  dsimp only
  by_cases hlong : s.xebec.opcode = 0xe5
  · rw [if_pos hlong]
    exact ⟨rfl, rfl, rfl, rfl, rfl⟩
  · rw [if_neg hlong]
    cases hdc_ecc_check record (hdc_ecc_polynomial setup.config) s.xebec.ecc_limit.toNat with
    | none => exact ⟨rfl, rfl, rfl, rfl, rfl⟩
    | some corrected =>
      dsimp only
      split_ifs
      · exact ⟨rfl, rfl, rfl, rfl, rfl⟩
      · exact ⟨rfl, rfl, rfl, rfl, rfl⟩

theorem xebec_transfer_sector_same (s : HdcState σ) (write_to_media : Bool) :
    SameRequest s (xebec_transfer_sector setup s write_to_media).2 := by
  have htouch (write : Bool) (sector : ℕ) (result : HdcRecordResult) (context : σ) :
      SameRequest s (s.touch write (xebec_unit s.xebec) sector result context) :=
    ⟨rfl, rfl, rfl, rfl, rfl⟩
  unfold xebec_transfer_sector
  dsimp only
  by_cases herror : (xebec_prepare_sector setup s write_to_media).1 ≠ 0
  · rw [if_pos herror]
    exact .refl s
  rw [if_neg herror]
  by_cases hwrite : write_to_media = true
  · rw [if_pos hwrite]
    exact htouch ..
  rw [if_neg hwrite]
  split_ifs
  · exact (htouch ..).trans (xebec_load_record_same setup _ _)
  · exact htouch ..

theorem xebec_set_address_same (s : HdcState σ) (head_byte sector_byte cylinder_byte : U8) :
    SameRequest s (xebec_set_address s head_byte sector_byte cylinder_byte) :=
  ⟨rfl, rfl, rfl, rfl, rfl⟩

theorem xebec_next_sector_same (s : HdcState σ) :
    SameRequest s (xebec_next_sector setup s).2 :=
  ⟨rfl, rfl, rfl, rfl, rfl⟩

theorem xebec_format_track_same (s : HdcState σ) :
    SameRequest s (xebec_format_track setup s).2 := by
  unfold xebec_format_track
  dsimp only
  split_ifs
  · exact .refl s
  · exact ⟨rfl, rfl, rfl, rfl, rfl⟩
  · exact ⟨rfl, rfl, rfl, rfl, rfl⟩

/-- A loop leaves alone what its body leaves alone. -/
theorem hdc_each_same {α : Type} {body : HdcState σ → α → U8 × HdcState σ}
    (hbody : ∀ s a, SameRequest s (body s a).2) (l : List α) (s : HdcState σ) :
    SameRequest s (hdc_each body l s).2 := by
  induction l generalizing s with
  | nil => exact .refl s
  | cons a l ih =>
    unfold hdc_each
    split_ifs
    · exact hbody s a
    · exact (hbody s a).trans (ih _)

theorem xebec_format_drive_same (s : HdcState σ) :
    SameRequest s (xebec_format_drive setup s).2 := by
  have hfirst := xebec_format_track_same setup s
  unfold xebec_format_drive
  dsimp only
  split_ifs
  · exact hfirst
  · refine hfirst.trans (hdc_each_same (fun s track => ?_) _ _)
    exact (xebec_set_address_same ..).trans (xebec_format_track_same setup _)

theorem xebec_verify_same (s : HdcState σ) : SameRequest s (xebec_verify setup s).2 := by
  refine hdc_each_same (fun s index => ?_) _ s
  have hread := xebec_transfer_sector_same setup s false
  dsimp only
  split_ifs
  · exact hread
  · exact hread.trans (xebec_next_sector_same setup _)
  · exact hread.trans (xebec_next_sector_same setup _)
  · exact hread

theorem xebec_drive_diagnostic_same (s : HdcState σ) (unit_byte : U8) :
    SameRequest s (xebec_drive_diagnostic setup s unit_byte).2 :=
  hdc_each_same (fun _ _ =>
    (xebec_set_address_same ..).trans (xebec_transfer_sector_same setup _ false)) _ s

/-! ## Status and data phases -/

variable {setup} {s : HdcState σ}

theorem answer_owned (h : Ledger s) (hdrq : s.drq = false) (response : List U8) :
    Owned (s.answer response) := by
  refine Ledger.owned_of_down ⟨?_, h.task⟩ hdrq nofun nofun
  intro level hlevel
  rcases List.mem_append.mp hlevel with hbefore | hnow
  · exact h.statuses level hbefore
  · rw [List.mem_singleton.mp hnow, hdrq]

theorem xebec_response_owned (h : Ledger s) (hdrq : s.drq = false) (status : U8)
    (sense : Option (Vector U8 4)) : Owned (xebec_response setup s status sense) := by
  unfold xebec_response
  dsimp only
  refine Owned.same ?_ (hdc_raise_irq_same setup _)
  refine answer_owned ?_ ?_ _
  · exact ⟨h.statuses, h.task⟩
  · exact hdrq

/-- A status phase behind the release. -/
theorem xebec_released_owned (h : Ledger s) (status : U8) (sense : Option (Vector U8 4)) :
    Owned (xebec_response setup (xebec_release_dma s) status sense) :=
  xebec_response_owned (s := xebec_release_dma s) ⟨h.statuses, h.task⟩ rfl status sense

theorem xebec_fail_owned (h : Ledger s) (error : U8) (addressed : Bool) :
    Owned (xebec_fail setup s error addressed) := by
  unfold xebec_fail
  exact xebec_released_owned h _ _

theorem xebec_sync_dma_request_owned (h : Ledger s) : Owned (xebec_sync_dma_request s) :=
  ⟨⟨h.statuses, h.task⟩, rfl⟩

theorem xebec_reset_owned (h : Ledger s) : Owned (xebec_reset setup s) :=
  Owned.same (s := { s with drq := false, xebec := { xebec_zero with ecc_limit := 11 } })
    (Ledger.owned_of_down ⟨h.statuses, h.task⟩ rfl nofun nofun) (hdc_clear_irq_same setup _)

theorem xebec_start_transfer_owned (h : Ledger s) : Owned (xebec_start_transfer setup s) := by
  have hzero : Ledger { s with xebec := { s.xebec with byte_index := 0 } } := ⟨h.statuses, h.task⟩
  unfold xebec_start_transfer
  generalize { s with xebec := { s.xebec with byte_index := 0 } } = start at hzero ⊢
  generalize (decide (s.xebec.opcode = 0x08) || decide (s.xebec.opcode = 0xe5)) = read
  dsimp only
  by_cases hcount : start.xebec.dcb[4] = 0
  · rw [if_pos hcount]
    exact xebec_fail_owned hzero _ _
  rw [if_neg hcount]
  have hbegun : Ledger (if read = true then xebec_transfer_sector setup start false
      else ((xebec_prepare_sector setup start true).1, start)).2 := by
    split_ifs
    · exact hzero.same (xebec_transfer_sector_same setup _ _)
    · exact hzero
  generalize (if read = true then xebec_transfer_sector setup start false
      else ((xebec_prepare_sector setup start true).1, start)) = begun at hbegun ⊢
  by_cases herror : begun.1 ≠ 0 ∧ begun.1 ≠ 0x18
  · rw [if_pos herror]
    exact xebec_fail_owned hbegun _ _
  · rw [if_neg herror]
    refine xebec_sync_dma_request_owned ⟨hbegun.statuses, ?_⟩
    cases read with
    | false => exact hbegun.task
    | true => exact hbegun.task

theorem xebec_set_characteristics_owned (h : Ledger s) (hdrq : s.drq = false) :
    Owned (xebec_set_characteristics setup s) := by
  unfold xebec_set_characteristics
  dsimp only
  split_ifs
  · refine xebec_response_owned ?_ ?_ _ _
    · exact ⟨h.statuses, h.task⟩
    · exact hdrq
  · refine xebec_response_owned ?_ ?_ _ _
    · exact ⟨h.statuses, h.task⟩
    · exact hdrq

theorem xebec_test_drive_owned (h : Ledger s) (hdrq : s.drq = false) :
    Owned (xebec_test_drive setup s) := by
  -- what the drive is tested with leaves the line down
  have hanswers (tested : U8 × HdcState σ) (hsame : SameRequest s tested.2) (error : U8) :
      Owned (if tested.1 ≠ 0 then
        xebec_response setup tested.2 0x02 (some (xebec_sense_at tested.2.xebec error))
      else xebec_response setup tested.2 0 (some #v[0, 0, 0, 0])) := by
    split_ifs
    · exact xebec_response_owned (h.same hsame) (hsame.drq.trans hdrq) _ _
    · exact xebec_response_owned (h.same hsame) (hsame.drq.trans hdrq) _ _
  unfold xebec_test_drive
  dsimp only
  refine hanswers _ ?_ _
  have haddress (s : HdcState σ) (unit_byte : U8) :
      SameRequest s (if s.xebec.opcode = 0xe3 then xebec_set_address s unit_byte 0 0 else s) := by
    split_ifs
    · exact xebec_set_address_same ..
    · exact .refl s
  have hstart := haddress s (s.xebec.dcb[1] &&& 0x20)
  generalize (if s.xebec.opcode = 0xe3 then
    xebec_set_address s (s.xebec.dcb[1] &&& 0x20) 0 0 else s) = start at hstart ⊢
  split_ifs
  · exact hstart
  · exact hstart
  · exact hstart.trans (xebec_drive_diagnostic_same setup _ _)
  · exact hstart
  · exact hstart.trans (xebec_verify_same setup _)
  · exact hstart

theorem xebec_complete_dcb_owned (h : Ledger s) (hdrq : s.drq = false) :
    Owned (xebec_complete_dcb setup s) := by
  have hcleared : Ledger { s with data := { s.data with error := 0 } } := ⟨h.statuses, h.task⟩
  unfold xebec_complete_dcb
  dsimp only
  by_cases h0d : s.xebec.opcode = 0x0d
  · rw [if_pos h0d]
    exact answer_owned hcleared hdrq _
  rw [if_neg h0d]
  by_cases h03 : s.xebec.opcode = 0x03
  · rw [if_pos h03]
    exact answer_owned hcleared hdrq _
  rw [if_neg h03]
  split_ifs
  · exact xebec_response_owned hcleared hdrq _ _
  · exact xebec_set_characteristics_owned hcleared hdrq
  · refine xebec_response_owned ?_ ?_ _ _
    · exact ⟨h.statuses, h.task⟩
    · exact hdrq
  · exact xebec_fail_owned (hcleared.same (xebec_format_drive_same setup _)) _ _
  · have hsame := xebec_format_drive_same setup { s with data := { s.data with error := 0 } }
    exact xebec_response_owned (hcleared.same hsame) (hsame.drq.trans hdrq) _ _
  · exact xebec_fail_owned (hcleared.same (xebec_format_track_same setup _)) _ _
  · have hsame := xebec_format_track_same setup { s with data := { s.data with error := 0 } }
    exact xebec_response_owned (hcleared.same hsame) (hsame.drq.trans hdrq) _ _
  · exact xebec_start_transfer_owned hcleared
  all_goals first
    | exact xebec_sync_dma_request_owned ⟨h.statuses, h.task⟩
    | exact xebec_test_drive_owned hcleared hdrq
    | exact xebec_response_owned hcleared hdrq _ _

/-! ## Bytes -/

theorem xebec_sector_read_owned (h : Owned s) : Owned (xebec_sector_read setup s) := by
  unfold xebec_sector_read
  dsimp only
  by_cases hcorrected : s.data.error = 0x18
  · rw [if_pos hcorrected]
    exact xebec_fail_owned h.toLedger _ _
  rw [if_neg hcorrected]
  have hcounted : Owned { s with xebec := { s.xebec with
      sectors_remaining := s.xebec.sectors_remaining - 1 } } := h.same ⟨rfl, rfl, rfl, rfl, rfl⟩
  by_cases hlast : s.xebec.sectors_remaining - 1 = 0
  · rw [if_pos hlast]
    exact xebec_released_owned hcounted.toLedger _ _
  rw [if_neg hlast]
  generalize { s with xebec := { s.xebec with
    sectors_remaining := s.xebec.sectors_remaining - 1 } } = counted at hcounted ⊢
  have hnext := hcounted.same (xebec_next_sector_same setup counted)
  generalize xebec_next_sector setup counted = next at hnext ⊢
  have hread : Owned (if next.1 = true then xebec_transfer_sector setup next.2 false
      else (0x21, next.2)).2 := by
    split_ifs
    · exact hnext.same (xebec_transfer_sector_same setup _ _)
    · exact hnext
  generalize (if next.1 = true then xebec_transfer_sector setup next.2 false
      else (0x21, next.2)) = read at hread ⊢
  by_cases herror : read.1 ≠ 0 ∧ read.1 ≠ 0x18
  · rw [if_pos herror]
    exact xebec_fail_owned hread.toLedger _ _
  · rw [if_neg herror]
    exact hread.same ⟨rfl, rfl, rfl, rfl, rfl⟩

theorem hdc_dma_read_owned (h : Owned s) : Owned (hdc_dma_read setup s).2 := by
  have hread : Owned { s with xebec := { s.xebec with
      byte_index := s.xebec.byte_index + 1 } } := h.same ⟨rfl, rfl, rfl, rfl, rfl⟩
  unfold hdc_dma_read
  dsimp only
  split_ifs
  · exact h
  · exact xebec_sector_read_owned hread
  · exact hread

theorem xebec_sector_written_owned (h : Owned s) : Owned (xebec_sector_written setup s) := by
  unfold xebec_sector_written
  dsimp only
  have hbuffer : Owned { s with data := { s.data with record := { s.data.record with
      ecc_present := decide (s.xebec.opcode = 0xe6) } } } := h.same ⟨rfl, rfl, rfl, rfl, rfl⟩
  generalize { s with data := { s.data with record := { s.data.record with
    ecc_present := decide (s.xebec.opcode = 0xe6) } } } = buffer at hbuffer ⊢
  have hstored : Owned (if s.xebec.opcode = 0x0f then (0, buffer)
      else xebec_transfer_sector setup buffer true).2 := by
    split_ifs
    · exact hbuffer
    · exact hbuffer.same (xebec_transfer_sector_same setup _ _)
  generalize (if s.xebec.opcode = 0x0f then ((0 : U8), buffer)
      else xebec_transfer_sector setup buffer true) = stored at hstored ⊢
  by_cases herror : stored.1 ≠ 0 ∨ stored.2.xebec.sectors_remaining = 0
  · rw [if_pos herror]
    exact xebec_fail_owned hstored.toLedger _ _
  rw [if_neg herror]
  have hcounted : Owned { stored.2 with xebec := { stored.2.xebec with
      sectors_remaining := stored.2.xebec.sectors_remaining - 1 } } :=
    hstored.same ⟨rfl, rfl, rfl, rfl, rfl⟩
  by_cases hlast : stored.2.xebec.sectors_remaining - 1 = 0
  · rw [if_pos hlast]
    exact xebec_released_owned hcounted.toLedger _ _
  rw [if_neg hlast]
  generalize { stored.2 with xebec := { stored.2.xebec with
    sectors_remaining := stored.2.xebec.sectors_remaining - 1 } } = counted at hcounted ⊢
  have hnext := hcounted.same (xebec_next_sector_same setup counted)
  generalize xebec_next_sector setup counted = next at hnext ⊢
  generalize (if next.1 = true then (xebec_prepare_sector setup next.2 true).1 else 0x21) = error
  by_cases hprepared : error ≠ 0
  · rw [if_pos hprepared]
    exact xebec_fail_owned hnext.toLedger _ _
  · rw [if_neg hprepared]
    exact hnext.same ⟨rfl, rfl, rfl, rfl, rfl⟩

theorem hdc_dma_write_owned (h : Owned s) (byte : U8) : Owned (hdc_dma_write setup s byte) := by
  have hwritten : Owned { s with
      data := { s.data with record := s.data.record.set_byte s.xebec.byte_index byte }
      xebec := { s.xebec with byte_index := s.xebec.byte_index + 1 } } :=
    h.same ⟨rfl, rfl, rfl, rfl, rfl⟩
  unfold hdc_dma_write
  dsimp only
  split_ifs
  · exact h
  · exact hwritten
  · exact xebec_sector_written_owned hwritten

theorem hdc_terminal_count_owned (h : Owned s) : Owned (hdc_terminal_count setup s) := by
  unfold hdc_terminal_count
  split_ifs
  · exact h
  · exact xebec_released_owned h.toLedger _ _

/-! ## Calls -/

theorem xebec_read_response_owned (h : Owned s) (hresponse : s.xebec.phase = .response) :
    Owned (xebec_read_response setup s).2 := by
  have hdown : s.drq = false := h.down (by rw [hresponse]; nofun) (by rw [hresponse]; nofun)
  unfold xebec_read_response
  dsimp only
  have hcleared := SameRequest.trans (a := s) (b := { s with xebec := { s.xebec with
    response_index := s.xebec.response_index + 1 } }) ⟨rfl, rfl, rfl, rfl, rfl⟩
    (hdc_clear_irq_same setup _)
  generalize hdc_clear_irq setup { s with xebec := { s.xebec with
    response_index := s.xebec.response_index + 1 } } = cleared at hcleared ⊢
  have hraised : SameRequest s (if cleared.xebec.opcode = 0x03 ∧
      cleared.xebec.response_index = 4 then hdc_raise_irq setup cleared else cleared) := by
    split_ifs
    · exact hcleared.trans (hdc_raise_irq_same setup _)
    · exact hcleared
  generalize (if cleared.xebec.opcode = 0x03 ∧ cleared.xebec.response_index = 4 then
    hdc_raise_irq setup cleared else cleared) = raised at hraised ⊢
  have howned := h.same hraised
  by_cases hlast : raised.xebec.response_index = raised.xebec.response.length
  · rw [if_pos hlast]
    exact Ledger.owned_of_down ⟨howned.statuses, howned.task⟩ (hraised.drq.trans hdown) nofun
      nofun
  · rw [if_neg hlast]
    exact howned

theorem xebec_port_read_owned (h : Owned s) (reg : HdcRegister) :
    Owned (xebec_port_read setup s reg).2.2 := by
  unfold xebec_port_read
  dsimp only
  split_ifs with _ _ hnone
  · exact h
  · exact hdc_dma_read_owned h
  · exact h
  · rw [not_or, not_not] at hnone
    exact xebec_read_response_owned h hnone.1

/-- A command that waits has the line down when it had it down before. -/
theorem xebec_schedule_dcb_completion_owned (h : Ledger s) (hdrq : s.drq = false) :
    Owned (xebec_schedule_dcb_completion setup s) :=
  Ledger.owned_of_down ⟨h.statuses, h.task⟩ hdrq nofun nofun

theorem xebec_command_byte_owned (h : Owned s) (value : U8) :
    Owned (xebec_command_byte setup s value) := by
  cases hphase : s.xebec.phase with
  | dcb =>
    have hdown : s.drq = false := h.down (by rw [hphase]; nofun) (by rw [hphase]; nofun)
    rw [xebec_command_byte, hphase]
    dsimp only
    split_ifs
    · exact Ledger.owned_of_down ⟨h.statuses, h.task⟩ hdown nofun nofun
    · refine xebec_schedule_dcb_completion_owned ?_ ?_
      · exact ⟨h.statuses, h.task⟩
      · exact hdown
    · exact h.same ⟨rfl, rfl, rfl, rfl, rfl⟩
  | initialization =>
    have hdown : s.drq = false := h.down (by rw [hphase]; nofun) (by rw [hphase]; nofun)
    rw [xebec_command_byte, hphase]
    dsimp only
    split_ifs
    · refine xebec_schedule_dcb_completion_owned ?_ ?_
      · exact ⟨h.statuses, h.task⟩
      · exact hdown
    · exact h.same ⟨rfl, rfl, rfl, rfl, rfl⟩
  | _ =>
    rw [xebec_command_byte, hphase]
    exact h

/-- A write of the select register while the line is up. -/
def SelectsAway (s : HdcState σ) : HdcOp → Prop
  | .write .xebec_select _ => xebec_requested s.xebec = true
  | _ => False

theorem xebec_port_write_owned (h : Owned s) (reg : HdcRegister) (value : U8)
    (hreg : reg = .xebec_select → xebec_requested s.xebec = false) :
    Owned (xebec_port_write setup s reg value) := by
  cases reg with
  | xebec_reset => exact xebec_reset_owned h.toLedger
  | xebec_mask =>
    exact xebec_sync_dma_request_owned
      (Ledger.same (s := { s with xebec := { s.xebec with mask_pattern := value } })
        ⟨h.statuses, h.task⟩ (hdc_sync_irq_same setup _))
  | xebec_select =>
    have hdown : s.drq = false := h.request.trans (hreg rfl)
    exact Ledger.owned_of_down ⟨h.statuses, h.task⟩ hdown nofun nofun
  | data =>
    rw [xebec_port_write]
    split_ifs
    · exact hdc_dma_write_owned h value
    · exact xebec_command_byte_owned h value
  | _ => exact h

/-- The select register leaves the line where it was. -/
theorem xebec_select_not_owned (h : Owned s) (hrequested : xebec_requested s.xebec = true)
    (value : U8) : ¬ Owned (xebec_port_write setup s .xebec_select value) := by
  intro howned
  have hdown := howned.down (by rw [xebec_port_write]; nofun) (by rw [xebec_port_write]; nofun)
  have hup : s.drq = true := h.request.trans hrequested
  have hkept : (xebec_port_write setup s .xebec_select value).drq = s.drq := rfl
  rw [hkept, hup] at hdown
  cases hdown

theorem hdc_reset_owned (h : Ledger s) (hxt : hdc_is_xebec_xt setup.config = true) :
    Owned (hdc_reset setup s) := by
  unfold hdc_reset hdc_reset_controller
  dsimp only
  rw [if_pos hxt]
  have hcold : Owned (xebec_reset setup
      { s with data := { hdc_data_zero with elapsed_ticks := 0 } }) :=
    xebec_reset_owned ⟨h.statuses, rfl⟩
  exact (hcold.same (hdc_clear_irq_same setup _)).same ⟨rfl, rfl, rfl, rfl, rfl⟩

theorem hdc_service_owned (h : Owned s) (hxt : hdc_is_xebec_xt setup.config = true) :
    Owned (hdc_service setup s) := by
  unfold hdc_service
  by_cases hpending : s.xebec.phase = .pending_command
  · rw [if_pos (by simp [hxt, hpending])]
    exact xebec_complete_dcb_owned h.toLedger
      (h.down (by rw [hpending]; nofun) (by rw [hpending]; nofun))
  · rw [if_neg (by simp [hpending]), h.task]
    exact h

theorem hdc_advance_at_owned (h : Owned s) (hxt : hdc_is_xebec_xt setup.config = true)
    (now : ℕ) : Owned (hdc_advance_at setup s now) := by
  unfold hdc_advance_at
  dsimp only
  split_ifs
  · exact h
  · exact h.same ⟨rfl, rfl, rfl, rfl, rfl⟩
  · exact hdc_service_owned (h.same ⟨rfl, rfl, rfl, rfl, rfl⟩) hxt

/-- A call keeps the line owned exactly when it does not select away. -/
theorem hdc_apply_owned (h : Owned s) (hxt : hdc_is_xebec_xt setup.config = true) (op : HdcOp) :
    Owned (hdc_apply setup s op) ↔ ¬ SelectsAway s op := by
  have hread (reg : HdcRegister) : Owned (hdc_read setup s reg).2.2 := by
    unfold hdc_read
    rw [if_pos hxt]
    exact xebec_port_read_owned h reg
  have hwrite (reg : HdcRegister) (value : U16) : (hdc_write setup s reg value).2 =
      xebec_port_write setup s reg (value.setWidth 8) := by
    unfold hdc_write
    exact congrArg Prod.snd (if_pos hxt)
  cases op with
  | read reg => exact iff_of_true (hread reg) id
  | write reg value =>
    rw [hdc_apply, hwrite]
    by_cases haway : reg = .xebec_select ∧ xebec_requested s.xebec = true
    · obtain ⟨rfl, hrequested⟩ := haway
      exact iff_of_false (xebec_select_not_owned h hrequested _) (not_not.mpr hrequested)
    · refine iff_of_true (xebec_port_write_owned h reg _ fun hreg => ?_) ?_
      · exact Bool.eq_false_iff.mpr fun hrequested => haway ⟨hreg, hrequested⟩
      · intro hselects
        cases reg with
        | xebec_select => exact haway ⟨rfl, hselects⟩
        | _ => exact hselects
  | dma_read => exact iff_of_true (hdc_dma_read_owned h) id
  | dma_write byte => exact iff_of_true (hdc_dma_write_owned h byte) id
  | terminal_count => exact iff_of_true (hdc_terminal_count_owned h) id
  | advance_at now => exact iff_of_true (hdc_advance_at_owned h hxt now) id
  | reset => exact iff_of_true (hdc_reset_owned h.toLedger hxt) id

/-! ## Runs -/

variable (setup)

/-- No call of the run selects away. -/
def NeverSelectsAway (s : HdcState σ) : List HdcOp → Prop
  | [] => True
  | op :: ops => ¬ SelectsAway s op ∧ NeverSelectsAway (hdc_apply setup s op) ops

variable {setup}

/-- What the line, the phase and the mask are in a state, and what the line was whenever a
status phase began. -/
def RequestFollows (s : HdcState σ) : Prop :=
  s.drq = xebec_requested s.xebec ∧ ∀ level ∈ s.statuses, level = false

theorem run_request_follows (hxt : hdc_is_xebec_xt setup.config = true) (ops : List HdcOp)
    (h : Owned s) :
    (∀ k ≤ ops.length, RequestFollows ((ops.take k).foldl (hdc_apply setup) s)) ↔
      NeverSelectsAway setup s ops := by
  induction ops generalizing s with
  | nil =>
    refine ⟨fun _ => trivial, fun _ k _ => ?_⟩
    rw [List.take_nil]
    exact ⟨h.request, h.statuses⟩
  | cons op ops ih =>
    have hstep := hdc_apply_owned h hxt op
    constructor
    · intro hall
      have hfirst := hall 1 (by simp)
      by_cases haway : SelectsAway s op
      · -- the line is up in a command phase, and that is where it does not belong
        cases op with
        | write reg value =>
          cases reg with
          | xebec_select =>
            have hup : s.drq = true := h.request.trans haway
            have hafter : hdc_apply setup s (.write .xebec_select value) =
                { s with xebec := { s.xebec with
                  dcb_count := 0, initialization_count := 0, phase := .dcb } } := by
              unfold hdc_apply hdc_write
              exact congrArg Prod.snd (if_pos hxt)
            have hline : (hdc_apply setup s (.write .xebec_select value)).drq =
              xebec_requested (hdc_apply setup s (.write .xebec_select value)).xebec := hfirst.1
            rw [hafter] at hline
            simp [xebec_requested, hup] at hline
          | _ => exact absurd haway id
        | _ => exact absurd haway id
      · refine ⟨haway, (ih (hstep.mpr haway)).mp fun k hk => ?_⟩
        exact hall (k + 1) (by simpa using hk)
    · rintro ⟨haway, hrest⟩ k hk
      cases k with
      | zero => exact ⟨h.request, h.statuses⟩
      | succ k => exact (ih (hstep.mpr haway)).mpr hrest k (by simpa using hk)

/-- On a Xebec controller the request follows the phase and the mask after every call, and
every status phase begins with the request withdrawn, exactly when no call selects the
controller out of a data phase that DMA serves. -/
theorem xebec_run_request_follows (hxt : setup.config.protocol = .xebec_xt) (context : σ)
    (ops : List HdcOp) :
    (∀ k ≤ ops.length,
        RequestFollows ((ops.take k).foldl (hdc_apply setup) (hdc_create setup context))) ↔
      NeverSelectsAway setup (hdc_create setup context) ops :=
  have hxebec : hdc_is_xebec_xt setup.config = true := by simp [hdc_is_xebec_xt, hxt]
  run_request_follows hxebec ops (hdc_reset_owned ⟨nofun, rfl⟩ hxebec)

end Setup

/-- A Xebec controller with no drives. -/
def xebec_no_drives : HdcSetup Unit where
  config :=
    { protocol := .xebec_xt, lba28_supported := false, command_ticks := 0, next_sector_ticks := 0
      step_ticks := Vector.replicate 16 0
      xebec_geometry :=
        { logical_sector_count := 20808, bytes_per_sector := 512, cylinders := 306, heads := 4
          sectors_per_track := 17 } }
  query _ _ := (.absent,
    { geometry :=
        { logical_sector_count := 0, bytes_per_sector := 0, cylinders := 0, heads := 0
          sectors_per_track := 0 }
      present := false, read_only := false, geometry_known := false })
  read _ _ _ := (.absent, hdc_record_zero, ())
  write _ _ _ _ := (.absent, ())
  format_track _ _ _ := (.absent, ())

/-- DMA enabled and the sector buffer asked for. -/
def xebec_read_buffer : List HdcOp :=
  [.write .xebec_mask 1, .write .xebec_select 0, .write .data 0x0e, .write .data 0,
    .write .data 0, .write .data 0, .write .data 0, .write .data 0, .advance_at 0]

/-- Two bytes of the buffer, and the terminal count. -/
def xebec_read_two_bytes : List HdcOp :=
  xebec_read_buffer ++ [HdcOp.dma_read, HdcOp.dma_read, HdcOp.terminal_count]

/-- The controller selected in the middle of the buffer. -/
def xebec_select_in_buffer : List HdcOp :=
  xebec_read_buffer ++ [HdcOp.write .xebec_select 0]

theorem xebec_run_request_follows_buffer :
    (∀ k ≤ xebec_read_two_bytes.length, RequestFollows
        ((xebec_read_two_bytes.take k).foldl (hdc_apply xebec_no_drives)
          (hdc_create xebec_no_drives ()))) ↔
      NeverSelectsAway xebec_no_drives (hdc_create xebec_no_drives ()) xebec_read_two_bytes :=
  xebec_run_request_follows rfl () xebec_read_two_bytes

/-- A command phase with the request up. -/
theorem xebec_select_leaves_request :
    let s := xebec_select_in_buffer.foldl (hdc_apply xebec_no_drives)
      (hdc_create xebec_no_drives ())
    s.xebec.phase = .dcb ∧ s.drq = true ∧ ¬ RequestFollows s := by
  intro s
  have hphase : s.xebec.phase = .dcb := rfl
  have hup : s.drq = true := rfl
  refine ⟨hphase, hup, fun hfollows => ?_⟩
  have hdown := hfollows.1
  rw [hup, xebec_requested, hphase] at hdown
  simp at hdown

end Nxvm.Chips
