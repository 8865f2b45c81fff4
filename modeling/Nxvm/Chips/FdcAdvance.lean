/-
The progression of the floppy disk controller, with and without ticks in between.

What advances besides the seeks keeps the command, the step rate and the time, so a call moves the
heads as `x86_fdc_advance_seeks` alone does. The command that waits for a call is executed by the
first one; only where it begins a seek does it matter when that was.
-/
import Nxvm.Chips.FdcExecute
import Nxvm.Chips.FdcSeekRun

set_option autoImplicit false

namespace Nxvm.Chips

open Nxvm.Lib.Register

section Setup

variable {μ σ : Type} (setup : FdcSetup μ σ) (drives : μ)

/-! ## What keeps the command and the time -/

/-- No command waits in this phase, for the next call or for the heads. -/
def FdcSettled (phase : FdcPhase) : Prop := phase ≠ .pending_command ∧ phase ≠ .head_load

/-- The command, the step rate and the time are kept, and no command begins to wait. -/
structure FdcFrame (a b : FdcCore σ) : Prop where
  cmd : b.data.cmd = a.data.cmd
  srt : b.data.srt = a.data.srt
  elapsed : b.data.elapsed_ticks = a.data.elapsed_ticks
  phase : b.data.phase = a.data.phase ∨ FdcSettled b.data.phase

theorem FdcFrame.refl (fdc : FdcCore σ) : FdcFrame fdc fdc := ⟨rfl, rfl, rfl, .inl rfl⟩

theorem FdcFrame.trans {a b c : FdcCore σ} (h : FdcFrame a b) (h' : FdcFrame b c) :
    FdcFrame a c where
  cmd := h'.cmd.trans h.cmd
  srt := h'.srt.trans h.srt
  elapsed := h'.elapsed.trans h.elapsed
  phase := by
    rcases h'.phase with heq | hsettled
    · rw [heq]
      exact h.phase
    · exact .inr hsettled

theorem FdcFrame.settled {a b : FdcCore σ} (h : FdcFrame a b) (ha : FdcSettled a.data.phase) :
    FdcSettled b.data.phase := by
  rcases h.phase with heq | hsettled
  · rw [heq]
    exact ha
  · exact hsettled

/-- Another that differs in nothing of all this. -/
theorem FdcFrame.keep {a b c : FdcCore σ} (h : FdcFrame a b) (hcmd : c.data.cmd = b.data.cmd)
    (hsrt : c.data.srt = b.data.srt) (helapsed : c.data.elapsed_ticks = b.data.elapsed_ticks)
    (hphase : c.data.phase = b.data.phase) : FdcFrame a c :=
  h.trans ⟨hcmd, hsrt, helapsed, .inl hphase⟩

/-- A choice between two that keep them. -/
theorem FdcFrame.ite {p : Prop} [Decidable p] {fdc a b : FdcCore σ} (ha : FdcFrame fdc a)
    (hb : FdcFrame fdc b) : FdcFrame fdc (if p then a else b) := by
  split
  · exact ha
  · exact hb

theorem fdc_settled_complete : FdcSettled .pending_complete := ⟨nofun, nofun⟩

variable {start fdc : FdcCore σ}

theorem fdc_raise_irq_frame (h : FdcFrame start fdc) : FdcFrame start (fdc_raise_irq fdc) :=
  h.keep rfl rfl rfl rfl

theorem fdc_start_service_frame (requested_at : ℕ) (h : FdcFrame start fdc) :
    FdcFrame start (fdc_start_service setup fdc requested_at) := by
  unfold fdc_start_service
  exact .ite h (h.keep rfl rfl rfl rfl)

theorem fdc_request_assert_frame (requested_at : ℕ) (h : FdcFrame start fdc) :
    FdcFrame start (fdc_request_assert setup fdc requested_at) :=
  (fdc_start_service_frame setup requested_at h).keep rfl rfl rfl rfl

theorem fdc_schedule_dma_byte_frame (h : FdcFrame start fdc) :
    FdcFrame start (fdc_schedule_dma_byte setup fdc) := by
  unfold fdc_schedule_dma_byte
  exact .ite h (h.keep rfl rfl rfl rfl)

theorem fdc_publish_ndma_request_frame (h : FdcFrame start fdc) :
    FdcFrame start (fdc_publish_ndma_request setup fdc) := by
  unfold fdc_publish_ndma_request
  have hservice := fdc_start_service_frame setup fdc.data.elapsed_ticks h
  exact .ite (.ite (fdc_raise_irq_frame hservice) hservice) h

theorem fdc_end_head_execution_frame (h : FdcFrame start fdc) :
    FdcFrame start (fdc_end_head_execution setup fdc) := by
  unfold fdc_end_head_execution
  exact .ite h (h.keep rfl rfl rfl rfl)

theorem fdc_complete_transfer_with_status_frame (st0 st1 : U8) (h : FdcFrame start fdc) :
    FdcFrame start (fdc_complete_transfer_with_status setup fdc st0 st1) := by
  unfold fdc_complete_transfer_with_status
  refine .trans (fdc_end_head_execution_frame setup ?_)
    ⟨rfl, rfl, rfl, .inr fdc_settled_complete⟩
  exact h.keep rfl rfl rfl rfl

theorem fdc_complete_transfer_frame (st1 : U8) (h : FdcFrame start fdc) :
    FdcFrame start (fdc_complete_transfer setup fdc st1) :=
  fdc_complete_transfer_with_status_frame setup 0 st1 h

theorem fdc_complete_missing_input_frame (h : FdcFrame start fdc) :
    FdcFrame start (fdc_complete_missing_input setup drives fdc) := by
  unfold fdc_complete_missing_input
  exact .ite (fdc_complete_transfer_with_status_frame setup _ _ h)
    (fdc_complete_transfer_frame setup _ h)

theorem fdc_advance_position_frame (h : FdcFrame start fdc) :
    FdcFrame start (fdc_advance_position fdc) := by
  unfold fdc_advance_position
  exact .ite (h.keep rfl rfl rfl rfl) (h.keep rfl rfl rfl rfl)

theorem fdc_prepare_next_track_frame (h : FdcFrame start fdc) :
    FdcFrame start (fdc_prepare_next_track fdc) := by
  unfold fdc_prepare_next_track
  exact .ite (h.keep rfl rfl rfl rfl) h

theorem fdc_wrap_id_frame (data : FdcData) (h : FdcFrame start { fdc with data }) :
    FdcFrame start { fdc with data := fdc_wrap_id data } := by
  unfold fdc_wrap_id
  split_ifs
  · exact h.keep rfl rfl rfl rfl
  · exact h.keep rfl rfl rfl rfl
  · exact h.keep rfl rfl rfl rfl
  · exact h

theorem fdc_complete_dma_data_frame (h : FdcFrame start fdc) :
    FdcFrame start (fdc_complete_dma_data setup fdc) := by
  unfold fdc_complete_dma_data
  apply fdc_wrap_id_frame
  exact (fdc_complete_transfer_frame setup 0 h).keep rfl rfl rfl rfl

theorem fdc_byte_done_frame (h : FdcFrame start fdc) :
    FdcFrame start (fdc_byte_done setup fdc) := by
  unfold fdc_byte_done
  have hmoved : FdcFrame start (fdc_advance_position { fdc with data := { fdc.data with
      transfer_remaining := fdc.data.transfer_remaining - 1 } }) :=
    fdc_advance_position_frame (h.keep rfl rfl rfl rfl)
  exact .ite (.ite (fdc_complete_dma_data_frame setup hmoved)
    (fdc_complete_transfer_frame setup 0 hmoved)) hmoved

theorem fdc_transfer_byte_frame (byte : U8) (write_to_media : Bool) (h : FdcFrame start fdc) :
    FdcFrame start (fdc_transfer_byte setup drives fdc byte write_to_media).2 := by
  unfold fdc_transfer_byte
  have htrack := fdc_prepare_next_track_frame h
  generalize fdc_prepare_next_track fdc = fdc' at htrack ⊢
  have hmedia (media : σ) : FdcFrame start { fdc' with media } := htrack.keep rfl rfl rfl rfl
  have hends (st1 : U8) := fdc_complete_transfer_frame setup st1 htrack
  dsimp only
  split_ifs
  · exact hends _
  · exact fdc_complete_missing_input_frame setup drives htrack
  · exact hends _
  all_goals first
    | exact hends _
    | exact fdc_complete_transfer_frame setup _ (hmedia _)
    | exact fdc_byte_done_frame setup (hmedia _)

theorem fdc_no_sector_left_frame (h : FdcFrame start fdc) :
    FdcFrame start (fdc_no_sector_left setup fdc) := by
  unfold fdc_no_sector_left
  exact .ite (fdc_complete_transfer_frame setup _ h)
    (fdc_complete_transfer_frame setup _ (h.keep rfl rfl rfl rfl))

theorem fdc_other_mark_frame (h : FdcFrame start fdc) : FdcFrame start (fdc_other_mark fdc) := by
  unfold fdc_other_mark
  exact .ite (h.keep rfl rfl rfl rfl) h

theorem fdc_prepare_sectors_frame (left : ℕ) : ∀ {fdc : FdcCore σ}, FdcFrame start fdc →
    FdcFrame start (fdc_prepare_sectors setup drives left fdc).2 := by
  induction left with
  | zero => exact fun h => fdc_no_sector_left_frame setup h
  | succ left ih =>
    intro fdc h
    rw [fdc_prepare_sectors]
    have htrack := fdc_prepare_next_track_frame h
    generalize fdc_prepare_next_track fdc = fdc' at htrack ⊢
    have hother := fdc_other_mark_frame htrack
    dsimp only
    split_ifs
    · exact fdc_no_sector_left_frame setup h
    · exact fdc_complete_transfer_frame setup _ htrack
    · exact fdc_complete_transfer_frame setup _ htrack
    · exact htrack
    · exact hother
    · exact hother.keep rfl rfl rfl rfl
    · exact ih (hother.keep rfl rfl rfl rfl)

theorem fdc_prepare_read_sector_frame (h : FdcFrame start fdc) :
    FdcFrame start (fdc_prepare_read_sector setup drives fdc).2 :=
  fdc_prepare_sectors_frame setup drives _ h

theorem fdc_publish_due_dma_byte_frame (h : FdcFrame start fdc) :
    FdcFrame start (fdc_publish_due_dma_byte setup drives fdc) := by
  unfold fdc_publish_due_dma_byte
  have hopen : FdcFrame start { fdc with data := { fdc.data with
      dma_byte_gate_pending := false } } := h.keep rfl rfl rfl rfl
  have hprepared := fdc_prepare_read_sector_frame setup drives hopen
  refine .ite h (.ite ?_ (.ite (.ite ?_ hprepared) ?_))
  · exact fdc_schedule_dma_byte_frame setup (fdc_transfer_byte_frame setup drives 0 true hopen)
  · exact fdc_request_assert_frame setup _ hprepared
  · exact fdc_request_assert_frame setup _ hopen

theorem fdc_publish_due_ndma_byte_frame (h : FdcFrame start fdc) :
    FdcFrame start (fdc_publish_due_ndma_byte setup drives fdc) := by
  unfold fdc_publish_due_ndma_byte
  have hopen : FdcFrame start { fdc with data := { fdc.data with
      ndma_byte_gate_pending := false } } := h.keep rfl rfl rfl rfl
  refine .ite h (fdc_start_service_frame setup _ (.ite ?_ hopen))
  exact fdc_prepare_read_sector_frame setup drives hopen

theorem fdc_run_transfer_frame (h : FdcFrame start fdc) :
    FdcFrame start (fdc_run_transfer setup drives fdc) := by
  have hserved := fdc_publish_ndma_request_frame setup
    (fdc_publish_due_ndma_byte_frame setup drives (fdc_publish_due_dma_byte_frame setup drives h))
  rw [fdc_run_transfer, fdc_check_overrun]
  exact .ite (fdc_complete_transfer_frame setup _ hserved) hserved

theorem fdc_check_input_frame (h : FdcFrame start fdc) :
    FdcFrame start (fdc_check_input setup drives fdc) := by
  unfold fdc_check_input
  exact .ite (fdc_complete_missing_input_frame setup drives h) h

theorem fdc_publish_due_reset_frame (h : FdcFrame start fdc) :
    FdcFrame start (fdc_publish_due_reset fdc) := by
  unfold fdc_publish_due_reset
  have hdue : FdcFrame start { fdc with data := { fdc.data with reset_pending := false } } :=
    h.keep rfl rfl rfl rfl
  exact .ite h (.ite (fdc_raise_irq_frame hdue) hdue)

/-! ## What commands keep -/

/-- A command has begun: it waits no longer. -/
structure FdcBegun (a b : FdcCore σ) : Prop where
  frame : FdcFrame a b
  settled : FdcSettled b.data.phase

theorem FdcBegun.ite {p : Prop} [Decidable p] {fdc a b : FdcCore σ} (ha : FdcBegun fdc a)
    (hb : FdcBegun fdc b) : FdcBegun fdc (if p then a else b) := by
  split
  · exact ha
  · exact hb

theorem FdcBegun.keep {a b c : FdcCore σ} (h : FdcBegun a b) (hframe : FdcFrame b c) :
    FdcBegun a c :=
  ⟨h.frame.trans hframe, hframe.settled h.settled⟩

/-- The phase of a command that has begun. -/
theorem FdcFrame.begun {a b c : FdcCore σ} (h : FdcFrame a b) (hcmd : c.data.cmd = b.data.cmd)
    (hsrt : c.data.srt = b.data.srt) (helapsed : c.data.elapsed_ticks = b.data.elapsed_ticks)
    (hphase : FdcSettled c.data.phase) : FdcBegun a c :=
  ⟨h.trans ⟨hcmd, hsrt, helapsed, .inr hphase⟩, hphase⟩

theorem fdc_complete_transfer_begun (st1 : U8) (h : FdcFrame start fdc) :
    FdcBegun start (fdc_complete_transfer setup fdc st1) :=
  ⟨fdc_complete_transfer_frame setup st1 h, fdc_settled_complete⟩

theorem fdc_complete_missing_input_begun (h : FdcFrame start fdc) :
    FdcBegun start (fdc_complete_missing_input setup drives fdc) := by
  refine ⟨fdc_complete_missing_input_frame setup drives h, ?_⟩
  unfold fdc_complete_missing_input
  split
  · exact fdc_settled_complete
  · exact fdc_settled_complete

theorem fdc_first_request_begun (h : FdcBegun start fdc) :
    FdcBegun start (fdc_first_request setup fdc) := by
  have hservice := fdc_start_service_frame setup fdc.data.elapsed_ticks (.refl fdc)
  apply h.keep
  unfold fdc_first_request
  exact .ite (fdc_request_assert_frame setup _ hservice) hservice

theorem fdc_short_result_begun (value : U8) (h : FdcFrame start fdc) :
    FdcBegun start (fdc_short_result fdc value) :=
  h.begun rfl rfl rfl ⟨nofun, nofun⟩

/-- The first sector is found and its first byte asked for, or the command is over. -/
theorem fdc_prepared_begun (h : FdcBegun start fdc) :
    FdcBegun start (if (fdc_prepare_read_sector setup drives fdc).1 then
        fdc_first_request setup (fdc_prepare_read_sector setup drives fdc).2
      else (fdc_prepare_read_sector setup drives fdc).2) :=
  have hprepared := h.keep (fdc_prepare_read_sector_frame setup drives (.refl fdc))
  .ite (fdc_first_request_begun setup hprepared) hprepared

theorem fdc_start_transfer_begun {phase : FdcPhase} (hphase : FdcSettled phase)
    (deleted_data : Bool) (scan_mode : FdcScanMode) (h : FdcFrame start fdc) :
    FdcBegun start (fdc_start_transfer setup drives fdc phase deleted_data scan_mode) := by
  unfold fdc_start_transfer fdc_command_position
  dsimp only
  refine .ite (fdc_complete_missing_input_begun setup drives (h.keep rfl rfl rfl rfl))
    (.ite (fdc_complete_transfer_begun setup _ (h.keep rfl rfl rfl rfl))
    (.ite (fdc_complete_transfer_begun setup _ (h.keep rfl rfl rfl rfl)) (.ite ?_ ?_)))
  · apply fdc_prepared_begun
    exact h.begun rfl rfl rfl hphase
  · apply fdc_first_request_begun
    exact h.begun rfl rfl rfl hphase

theorem fdc_start_read_track_begun (h : FdcFrame start fdc) :
    FdcBegun start (fdc_start_read_track setup drives fdc) := by
  unfold fdc_start_read_track fdc_command_position
  dsimp only
  refine .ite (fdc_complete_missing_input_begun setup drives (h.keep rfl rfl rfl rfl))
    (.ite (fdc_complete_transfer_begun setup _ (h.keep rfl rfl rfl rfl)) ?_)
  apply fdc_prepared_begun
  exact h.begun rfl rfl rfl ⟨nofun, nofun⟩

theorem fdc_read_id_begun (h : FdcFrame start fdc) :
    FdcBegun start (fdc_read_id setup drives fdc) := by
  unfold fdc_read_id
  dsimp only
  refine .ite (fdc_complete_missing_input_begun setup drives (h.keep rfl rfl rfl rfl))
    (.ite (fdc_complete_transfer_begun setup _ (h.keep rfl rfl rfl rfl)) ?_)
  have hended := fdc_end_head_execution_frame setup (h.keep rfl rfl rfl rfl :
    FdcFrame start (fdc_set_result { fdc with data := { fdc.data with
      selected_drive := fdc.data.named_drive
      cylinder := (fdc_track_info setup drives { fdc with data := { fdc.data with
        selected_drive := fdc.data.named_drive } }).2.cylinder
      head := fdc.data.named_head, sector := 1 } }
      (BitVec.ofNat 8 (fdc.data.named_head % 2 * 4)) 0 0))
  exact hended.begun rfl rfl rfl ⟨nofun, nofun⟩

theorem fdc_format_track_begun (h : FdcFrame start fdc) :
    FdcBegun start (fdc_format_track setup drives fdc) := by
  unfold fdc_format_track
  dsimp only
  refine .ite (fdc_complete_missing_input_begun setup drives (h.keep rfl rfl rfl rfl))
    (.ite (fdc_complete_transfer_begun setup _ (h.keep rfl rfl rfl rfl)) ?_)
  apply fdc_first_request_begun
  exact h.begun rfl rfl rfl ⟨nofun, nofun⟩

theorem fdc_execute_media_begun (opcode : U8) (h : FdcFrame start fdc) :
    FdcBegun start (fdc_execute_media setup drives fdc opcode) := by
  have hread : FdcSettled .execution_read := ⟨nofun, nofun⟩
  have hwrite : FdcSettled .execution_write := ⟨nofun, nofun⟩
  have hscan : FdcSettled .execution_scan := ⟨nofun, nofun⟩
  unfold fdc_execute_media
  refine .ite (fdc_read_id_begun setup drives h) (.ite ?_ (.ite ?_ (.ite ?_ (.ite ?_ (.ite ?_
    (.ite ?_ (.ite ?_ (.ite ?_ (.ite (fdc_format_track_begun setup drives h) ?_)))))))))
  · exact fdc_start_transfer_begun setup drives hread _ _ h
  · exact fdc_start_read_track_begun setup drives h
  · exact fdc_start_transfer_begun setup drives hwrite _ _ h
  · exact fdc_start_transfer_begun setup drives hread _ _ h
  · exact fdc_start_transfer_begun setup drives hwrite _ _ h
  · exact fdc_start_transfer_begun setup drives hscan _ _ h
  · exact fdc_start_transfer_begun setup drives hscan _ _ h
  · exact fdc_start_transfer_begun setup drives hscan _ _ h
  · exact fdc_short_result_begun _ h

theorem fdc_supersede_reset_frame (opcode : U8) (h : FdcFrame start fdc) :
    FdcFrame start (fdc_supersede_reset fdc opcode) := by
  unfold fdc_supersede_reset
  exact .ite (h.keep rfl rfl rfl rfl) h

/-- Where the heads need not be waited for, nothing waits for them. -/
theorem fdc_wait_head_load_frame (opcode : U8)
    (hnow : (fdc_wait_head_load setup drives fdc opcode).1 = false) (h : FdcFrame start fdc) :
    FdcFrame start (fdc_wait_head_load setup drives fdc opcode).2 := by
  unfold fdc_wait_head_load at hnow ⊢
  dsimp only at hnow ⊢
  split_ifs at hnow ⊢
  · exact h.keep rfl rfl rfl rfl
  · exact h.keep rfl rfl rfl rfl
  · exact h.keep rfl rfl rfl rfl
  · exact h

/-- Where the heads are waited for, the command loads them. -/
theorem fdc_wait_head_load_waits (opcode : U8)
    (hwaits : (fdc_wait_head_load setup drives fdc opcode).1 = true) :
    fdc_loads_heads opcode = true ∧
      (fdc_wait_head_load setup drives fdc opcode).2.data.phase = .head_load ∧
      (fdc_wait_head_load setup drives fdc opcode).2.data.cmd = fdc.data.cmd ∧
      (fdc_wait_head_load setup drives fdc opcode).2.data.srt = fdc.data.srt ∧
      (fdc_wait_head_load setup drives fdc opcode).2.data.elapsed_ticks =
        fdc.data.elapsed_ticks := by
  unfold fdc_wait_head_load at hwaits ⊢
  dsimp only at hwaits ⊢
  split_ifs at hwaits ⊢ with hloads
  exact ⟨hloads, rfl, rfl, rfl, rfl⟩

/-! ## The command that waits -/

/-- The opcode of the command. -/
def FdcCore.opcode (fdc : FdcCore σ) : U8 := fdc_command_opcode (fdc.data.command_byte 0)

/-- The seeks after the command that waits, where it begins none. -/
def fdc_sensed (s : FdcState μ σ) : FdcMotion μ :=
  if s.core.opcode = fdc_cmd_sense_interrupt ∧ fdc_lowest s.core.data.reset_sense_mask = none then
    { s.motion with seek_results := s.motion.seek_results.tail }
  else s.motion

/-- The step rate after the command that waits. -/
def fdc_specified (s : FdcState μ σ) : U8 :=
  if s.core.opcode = fdc_cmd_specify ∧ s.motion.seek_results = [] then
    s.core.data.command_byte 1 >>> 4
  else s.core.data.srt

/-- No command is left that waits for a call, and what waits for the heads loads them. -/
structure FdcQuiet (fdc : FdcCore σ) : Prop where
  pending : fdc.data.phase ≠ .pending_command
  loads : fdc.data.phase = .head_load → fdc_loads_heads fdc.opcode = true

/-- What the execution of a command does that begins no seek. -/
structure FdcExecuted (s s' : FdcState μ σ) : Prop where
  motion : s'.motion = fdc_sensed s
  srt : s'.core.data.srt = fdc_specified s
  cmd : s'.core.data.cmd = s.core.data.cmd
  elapsed : s'.core.data.elapsed_ticks = s.core.data.elapsed_ticks
  quiet : FdcQuiet s'.core

theorem FdcBegun.quiet {a b : FdcCore σ} (h : FdcBegun a b) : FdcQuiet b :=
  ⟨h.settled.1, fun hload => absurd hload h.settled.2⟩

/-- A command that has begun, and sensed no seek and set no step rate. -/
theorem FdcExecuted.of_begun {s s' : FdcState μ σ} (hmotion : s'.motion = s.motion)
    (hbegun : FdcBegun s.core s'.core) (hsensed : fdc_sensed s = s.motion)
    (hspecified : fdc_specified s = s.core.data.srt) : FdcExecuted s s' where
  motion := hmotion.trans hsensed.symm
  srt := hbegun.frame.srt.trans hspecified.symm
  cmd := hbegun.frame.cmd
  elapsed := hbegun.frame.elapsed
  quiet := hbegun.quiet

theorem fdc_sensed_of_ne {s : FdcState μ σ} (h : s.core.opcode ≠ fdc_cmd_sense_interrupt) :
    fdc_sensed s = s.motion := by
  rw [fdc_sensed, if_neg fun hboth => h hboth.1]

theorem fdc_specified_of_ne {s : FdcState μ σ} (h : s.core.opcode ≠ fdc_cmd_specify) :
    fdc_specified s = s.core.data.srt := by
  rw [fdc_specified, if_neg fun hboth => h hboth.1]

theorem fdc_sense_interrupt_executed {s : FdcState μ σ}
    (hopcode : s.core.opcode = fdc_cmd_sense_interrupt) :
    FdcExecuted s (fdc_sense_interrupt s) := by
  have hspecified : fdc_specified s = s.core.data.srt :=
    fdc_specified_of_ne (by rw [hopcode]; decide)
  have hquiet : ∀ {fdc : FdcCore σ}, fdc.data.phase = .result → FdcQuiet fdc := by
    intro fdc hphase
    exact ⟨by rw [hphase]; nofun, by rw [hphase]; nofun⟩
  have hsensed : fdc_sensed s = if fdc_lowest s.core.data.reset_sense_mask = none then
      { s.motion with seek_results := s.motion.seek_results.tail } else s.motion := by
    simp only [fdc_sensed, hopcode, true_and]
  cases hreset : fdc_lowest s.core.data.reset_sense_mask with
  | some drive =>
    rw [hreset, if_neg (Option.some_ne_none drive)] at hsensed
    rw [fdc_sense_interrupt, hreset]
    exact ⟨hsensed.symm, hspecified.symm, rfl, rfl, hquiet rfl⟩
  | none =>
    rw [hreset, if_pos rfl] at hsensed
    rw [fdc_sense_interrupt, hreset]
    cases hresults : s.motion.seek_results with
    | cons result rest =>
      rw [hresults] at hsensed
      exact ⟨hsensed.symm, hspecified.symm, rfl, rfl, hquiet rfl⟩
    | nil =>
      have hsame : fdc_sensed s = s.motion := by
        rw [hsensed, hresults, List.tail_nil, ← hresults]
      cases fdc_lowest s.core.data.ready_sense_mask with
      | some drive => exact ⟨hsame.symm, hspecified.symm, rfl, rfl, hquiet rfl⟩
      | none => exact ⟨hsame.symm, hspecified.symm, rfl, rfl, hquiet rfl⟩

/-- The command begins no seek. -/
def FdcSeeksNot (opcode : U8) : Prop := opcode ≠ fdc_cmd_seek ∧ opcode ≠ fdc_cmd_recalibrate

theorem fdc_execute_executed {s : FdcState μ σ} (hnot : FdcSeeksNot s.core.opcode) :
    FdcExecuted s (fdc_execute setup s) := by
  have hopcode : fdc_command_opcode (s.core.data.command_byte 0) = s.core.opcode := rfl
  rw [fdc_execute]
  dsimp only
  rw [hopcode]
  by_cases hrejected : fdc_command_rejected s s.core.opcode = true
  · rw [if_pos hrejected]
    -- The results that are to be sensed stay, and SPECIFY sets nothing.
    have hkept : s.core.opcode ≠ fdc_cmd_sense_interrupt ∧ s.motion.seek_results ≠ [] := by
      simpa [fdc_command_rejected, hnot.1, hnot.2] using hrejected
    refine .of_begun rfl (fdc_short_result_begun _ (.refl s.core)) (fdc_sensed_of_ne hkept.1) ?_
    rw [fdc_specified, if_neg fun hboth => hkept.2 hboth.2]
  rw [if_neg hrejected]
  by_cases hsense : s.core.opcode = fdc_cmd_sense_interrupt
  · have hreset : fdc_supersede_reset s.core fdc_cmd_sense_interrupt = s.core := by
      rw [fdc_supersede_reset, if_neg fun hboth => hboth.1 rfl]
    have hload : fdc_wait_head_load setup s.motion.drives s.core fdc_cmd_sense_interrupt =
        (false, s.core) := rfl
    have hrun : fdc_execute_opcode setup s fdc_cmd_sense_interrupt = fdc_sense_interrupt s := rfl
    rw [hsense, hreset, hload, if_neg Bool.false_ne_true]
    exact hrun ▸ fdc_sense_interrupt_executed hsense
  have hsuperseded := fdc_supersede_reset_frame s.core.opcode (.refl s.core)
  have hsensed := fdc_sensed_of_ne hsense
  by_cases hwaits : (fdc_wait_head_load setup s.motion.drives
      (fdc_supersede_reset s.core s.core.opcode) s.core.opcode).1 = true
  · obtain ⟨hloads, hphase, hcmd, hsrt, helapsed⟩ :=
      fdc_wait_head_load_waits setup s.motion.drives s.core.opcode hwaits
    have hspecified : fdc_specified s = s.core.data.srt := by
      apply fdc_specified_of_ne
      intro hspecify
      rw [hspecify] at hloads
      exact absurd hloads (by decide)
    rw [if_pos hwaits]
    refine ⟨hsensed.symm, ?_, hcmd.trans hsuperseded.cmd, helapsed.trans hsuperseded.elapsed,
      ⟨by rw [hphase]; nofun, fun _ => ?_⟩⟩
    · exact hsrt.trans (hsuperseded.srt.trans hspecified.symm)
    · rw [FdcCore.opcode, FdcData.command_byte, hcmd, hsuperseded.cmd]
      exact hloads
  rw [if_neg hwaits]
  have hready := fdc_wait_head_load_frame setup s.motion.drives s.core.opcode
    (Bool.eq_false_iff.mpr hwaits) hsuperseded
  generalize (fdc_wait_head_load setup s.motion.drives
    (fdc_supersede_reset s.core s.core.opcode) s.core.opcode).2 = core at hready ⊢
  rw [fdc_execute_opcode]
  by_cases hspecify : s.core.opcode = fdc_cmd_specify
  · rw [if_pos hspecify]
    have hresults : s.motion.seek_results = [] := by
      have hnone : ¬ (s.core.opcode ≠ fdc_cmd_sense_interrupt ∧ s.motion.seek_results ≠ []) := by
        simpa [fdc_command_rejected, hnot.1, hnot.2] using hrejected
      by_contra hsome
      exact hnone ⟨hsense, hsome⟩
    refine ⟨hsensed.symm, ?_, hready.cmd, hready.elapsed, ⟨nofun, nofun⟩⟩
    rw [fdc_specified, if_pos ⟨hspecify, hresults⟩, FdcData.command_byte, ← hready.cmd]
    rfl
  have hspecified := fdc_specified_of_ne hspecify
  rw [if_neg hspecify]
  by_cases hstatus : s.core.opcode = fdc_cmd_sense_drive_status
  · rw [if_pos hstatus]
    exact .of_begun rfl (fdc_short_result_begun _ (hready.keep rfl rfl rfl rfl)) hsensed hspecified
  rw [if_neg hstatus, if_neg hnot.2, if_neg hsense, if_neg hnot.1]
  exact .of_begun rfl (fdc_execute_media_begun setup s.motion.drives _ hready) hsensed hspecified

/-! ## One call -/

/-- No SEEK or RECALIBRATE waits to be executed, and what waits for the heads loads them. -/
structure FdcNoSeekWaits (fdc : FdcCore σ) : Prop where
  waits : fdc.data.phase = .pending_command → FdcSeeksNot fdc.opcode
  loads : fdc.data.phase = .head_load → fdc_loads_heads fdc.opcode = true

/-- The seeks when the heads are moved by the next call, whenever that is. -/
def fdc_due_motion (s : FdcState μ σ) : FdcMotion μ :=
  if s.core.data.phase = .pending_command then fdc_sensed s else s.motion

/-- The step rate then. -/
def fdc_due_srt (s : FdcState μ σ) : U8 :=
  if s.core.data.phase = .pending_command then fdc_specified s else s.core.data.srt

theorem FdcQuiet.no_seek_waits {fdc : FdcCore σ} (h : FdcQuiet fdc) : FdcNoSeekWaits fdc :=
  ⟨fun hpending => absurd hpending h.pending, h.loads⟩

theorem FdcQuiet.due_motion {s : FdcState μ σ} (h : FdcQuiet s.core) :
    fdc_due_motion s = s.motion := if_neg h.pending

theorem FdcQuiet.due_srt {s : FdcState μ σ} (h : FdcQuiet s.core) :
    fdc_due_srt s = s.core.data.srt := if_neg h.pending

theorem FdcFrame.quiet {a b : FdcCore σ} (h : FdcFrame a b) (ha : FdcQuiet a) : FdcQuiet b := by
  rcases h.phase with heq | hsettled
  · refine ⟨by rw [heq]; exact ha.pending, fun hload => ?_⟩
    rw [FdcCore.opcode, FdcData.command_byte, h.cmd]
    exact ha.loads (heq.symm.trans hload)
  · exact ⟨hsettled.1, fun hload => absurd hload hsettled.2⟩

theorem fdc_seeks_not_of_loads {opcode : U8} (h : fdc_loads_heads opcode = true) :
    FdcSeeksNot opcode ∧ opcode ≠ fdc_cmd_sense_interrupt ∧ opcode ≠ fdc_cmd_specify := by
  refine ⟨⟨?_, ?_⟩, ?_, ?_⟩
  all_goals
    intro heq
    rw [heq] at h
    exact absurd h (by decide)

/-- The tick is set; a command that waited for the heads is next where they are loaded. -/
structure FdcElapsed (elapsed_ticks : ℕ) (a b : FdcCore σ) : Prop where
  cmd : b.data.cmd = a.data.cmd
  srt : b.data.srt = a.data.srt
  reset_sense_mask : b.data.reset_sense_mask = a.data.reset_sense_mask
  elapsed : b.data.elapsed_ticks = elapsed_ticks
  phase : b.data.phase = a.data.phase ∨
    a.data.phase = .head_load ∧ b.data.phase = .pending_command

theorem fdc_set_elapsed_spec (fdc : FdcCore σ) (elapsed_ticks : ℕ) :
    FdcElapsed elapsed_ticks fdc (fdc_set_elapsed setup drives fdc elapsed_ticks) := by
  unfold fdc_set_elapsed fdc_unload_due_heads
  dsimp only
  split
  · rename_i hload
    exact ⟨rfl, rfl, rfl, rfl, .inr ⟨hload.1, rfl⟩⟩
  · exact ⟨rfl, rfl, rfl, rfl, .inl rfl⟩

/-- The command that waits is run, and does to the seeks the same at any tick. -/
theorem fdc_run_command_spec {s : FdcState μ σ} (h : FdcNoSeekWaits s.core) {elapsed_ticks : ℕ}
    {core : FdcCore σ} (hset : FdcElapsed elapsed_ticks s.core core) :
    (fdc_run_command setup { s with core }).motion = fdc_due_motion s ∧
      (fdc_run_command setup { s with core }).core.data.srt = fdc_due_srt s ∧
      (fdc_run_command setup { s with core }).core.data.elapsed_ticks = elapsed_ticks ∧
      FdcQuiet (fdc_run_command setup { s with core }).core := by
  have hopcode : core.opcode = s.core.opcode := by
    simp only [FdcCore.opcode, FdcData.command_byte, hset.cmd]
  have hsensed : fdc_sensed { s with core } = fdc_sensed s := by
    simp only [fdc_sensed, hopcode, hset.reset_sense_mask]
  have hspecified : fdc_specified { s with core } = fdc_specified s := by
    simp only [fdc_specified, FdcData.command_byte, hopcode, hset.cmd, hset.srt]
  have hrun : core.data.phase = .pending_command → FdcSeeksNot s.core.opcode →
      (fdc_run_command setup { s with core }).motion = fdc_sensed s ∧
        (fdc_run_command setup { s with core }).core.data.srt = fdc_specified s ∧
        (fdc_run_command setup { s with core }).core.data.elapsed_ticks = elapsed_ticks ∧
        FdcQuiet (fdc_run_command setup { s with core }).core := by
    intro hpending hnot
    have hexecute : fdc_run_command setup { s with core } = fdc_execute setup { s with core } := by
      simp only [fdc_run_command, hpending]
    have hdone := fdc_execute_executed setup (s := { s with core }) (by rw [hopcode]; exact hnot)
    rw [hexecute]
    exact ⟨hdone.motion.trans hsensed, hdone.srt.trans hspecified,
      hdone.elapsed.trans hset.elapsed, hdone.quiet⟩
  rcases hset.phase with hsame | ⟨hload, hpending⟩
  · by_cases hpending : s.core.data.phase = .pending_command
    · rw [fdc_due_motion, if_pos hpending, fdc_due_srt, if_pos hpending]
      exact hrun (hsame.trans hpending) (h.waits hpending)
    rw [fdc_due_motion, if_neg hpending, fdc_due_srt, if_neg hpending]
    rw [← hsame] at hpending
    by_cases hcomplete : core.data.phase = .pending_complete
    · simp only [fdc_run_command, hcomplete]
      exact ⟨trivial, hset.srt, hset.elapsed, ⟨nofun, nofun⟩⟩
    · have hidle : fdc_run_command setup { s with core } = { s with core } := by
        unfold fdc_run_command
        dsimp only
        split
        · contradiction
        · contradiction
        · rfl
      rw [hidle]
      refine ⟨rfl, hset.srt, hset.elapsed, ⟨hpending, fun hload => ?_⟩⟩
      rw [hopcode]
      exact h.loads (hsame.symm.trans hload)
  · -- The heads are loaded: the command that waited for them touches no seek.
    have hloads := h.loads hload
    obtain ⟨hnot, hsense, hspecify⟩ := fdc_seeks_not_of_loads hloads
    have hwaits : s.core.data.phase ≠ .pending_command := by
      rw [hload]
      nofun
    have hdone := hrun hpending hnot
    rw [fdc_sensed_of_ne hsense, fdc_specified_of_ne hspecify] at hdone
    rw [fdc_due_motion, if_neg hwaits, fdc_due_srt, if_neg hwaits]
    exact hdone

/-- The ticks of a step at a step rate. -/
def fdc_srt_ticks (srt : U8) : ℕ := fdc_timer_ticks setup (16 - srt.toNat)

/-- A call moves the heads, and otherwise keeps what the next one goes by. -/
theorem fdc_advance_at_spec {s : FdcState μ σ} (h : FdcNoSeekWaits s.core) {elapsed_ticks : ℕ}
    (hlater : s.core.data.elapsed_ticks ≤ elapsed_ticks) :
    (fdc_advance_at setup s elapsed_ticks).motion =
        fdc_move_heads setup (fdc_srt_ticks setup (fdc_due_srt s)) elapsed_ticks
          (fdc_due_motion s) ∧
      (fdc_advance_at setup s elapsed_ticks).core.data.srt = fdc_due_srt s ∧
      (fdc_advance_at setup s elapsed_ticks).core.data.elapsed_ticks = elapsed_ticks ∧
      FdcQuiet (fdc_advance_at setup s elapsed_ticks).core := by
  obtain ⟨hmotion, hsrt, helapsed, hquiet⟩ := fdc_run_command_spec setup h
    (fdc_set_elapsed_spec setup s.motion.drives s.core elapsed_ticks)
  rw [fdc_advance_at, if_neg (by omega)]
  dsimp only
  generalize fdc_run_command setup { s with
    core := fdc_set_elapsed setup s.motion.drives s.core elapsed_ticks } = s'
    at hmotion hsrt helapsed hquiet ⊢
  have hchecked := fdc_check_input_frame setup s'.motion.drives
    (fdc_publish_due_reset_frame (.refl s'.core))
  generalize fdc_check_input setup s'.motion.drives (fdc_publish_due_reset s'.core) = core
    at hchecked ⊢
  have hticks : fdc_step_ticks setup core.data = fdc_srt_ticks setup (fdc_due_srt s) := by
    rw [fdc_step_ticks, hchecked.srt, hsrt, fdc_srt_ticks]
  have hseeks : FdcFrame s'.core (fdc_advance_seeks setup { s' with core }).core := by
    rw [fdc_advance_seeks]
    exact .ite (fdc_raise_irq_frame hchecked) hchecked
  have hmoved : (fdc_advance_seeks setup { s' with core }).motion =
      fdc_move_heads setup (fdc_srt_ticks setup (fdc_due_srt s)) elapsed_ticks
        (fdc_due_motion s) := by
    rw [fdc_advance_seeks, ← hmotion, ← hticks, ← helapsed, ← hchecked.elapsed]
  have hserved := fdc_run_transfer_frame setup
    (fdc_advance_seeks setup { s' with core }).motion.drives hseeks
  exact ⟨hmoved, hserved.srt.trans hsrt, hserved.elapsed.trans helapsed, hserved.quiet hquiet⟩

/-! ## The seeks stay valid -/

/-- Taking a result leaves more room. -/
theorem FdcSeeksValid.sensed {motion : FdcMotion μ} (h : FdcSeeksValid motion)
    {seek_results : List FdcSeekResult} (hle : seek_results.length ≤ motion.seek_results.length) :
    FdcSeeksValid { motion with seek_results } where
  seeks := by
    intro drive hdrive
    have hsame : FdcSeekSame motion { motion with seek_results } drive := ⟨rfl, rfl, rfl, rfl⟩
    exact hsame.valid rfl (h.seeks drive hdrive)
  room := (Nat.add_le_add_right hle _).trans h.room

/-- What the next call goes by is what is recorded, but for a result that it takes. -/
theorem fdc_due_motion_eq (s : FdcState μ σ) :
    ∃ seek_results : List FdcSeekResult,
      seek_results.length ≤ s.motion.seek_results.length ∧
      fdc_due_motion s = { s.motion with seek_results } := by
  unfold fdc_due_motion fdc_sensed
  split_ifs
  · exact ⟨_, by simp, rfl⟩
  · exact ⟨_, le_refl _, rfl⟩
  · exact ⟨_, le_refl _, rfl⟩

/-- A seek that is begun is valid where its target is a byte, and has room where no result waits. -/
theorem fdc_begin_seek_valid {s : FdcState μ σ} (h : FdcSeeksValid s.motion) {target : U16}
    (htarget : target.toNat < 256) (hresults : s.motion.seek_results = [])
    (helapsed : s.core.data.elapsed_ticks ≤ tick_max) :
    FdcSeeksValid (fdc_begin_seek setup s target).motion where
  seeks := by
    intro drive hdrive
    by_cases hself : drive = s.core.data.selected_drive
    · subst hself
      refine ⟨fun _ => ?_, fun _ => ?_, ?_⟩
      · simpa [fdc_begin_seek] using htarget
      · simp [fdc_begin_seek]
      · simpa [fdc_begin_seek] using fdc_deadline_le _ _ helapsed
    · have hbefore : s.motion.seek_pending_mask drive = true := by
        simpa [fdc_begin_seek, Function.update_of_ne hself] using hdrive
      have hpcn : (fdc_begin_seek setup s target).motion.pcn drive = s.motion.pcn drive := by
        simp only [fdc_begin_seek]
        split
        · exact Function.update_of_ne hself _ _
        · rfl
      refine FdcSeekSame.valid ⟨hpcn, ?_, ?_, ?_⟩ ?_ (h.seeks drive hbefore)
      all_goals exact Function.update_of_ne hself _ _
  room := by
    have hsame : (fdc_begin_seek setup s target).motion.seek_results = [] := hresults
    rw [hsame, List.length_nil, Nat.zero_add]
    exact (Finset.card_le_univ _).trans (by simp)

theorem fdc_execute_valid {s : FdcState μ σ} (h : FdcSeeksValid s.motion)
    (helapsed : s.core.data.elapsed_ticks ≤ tick_max) :
    FdcSeeksValid (fdc_execute setup s).motion := by
  by_cases hnot : FdcSeeksNot s.core.opcode
  · rw [(fdc_execute_executed setup hnot).motion, fdc_sensed]
    split
    · exact h.sensed (by simp)
    · exact h
  have hopcode : fdc_command_opcode (s.core.data.command_byte 0) = s.core.opcode := rfl
  rw [fdc_execute]
  dsimp only
  rw [hopcode]
  by_cases hrejected : fdc_command_rejected s s.core.opcode = true
  · rw [if_pos hrejected]
    exact h
  rw [if_neg hrejected]
  have hseek : s.core.opcode = fdc_cmd_seek ∨ s.core.opcode = fdc_cmd_recalibrate := by
    unfold FdcSeeksNot at hnot
    by_contra hneither
    push Not at hneither
    exact hnot hneither
  -- Neither waits for the heads, and neither is a SENSE INTERRUPT STATUS.
  have hload : fdc_loads_heads s.core.opcode = false := by
    rcases hseek with heq | heq
    all_goals
      rw [heq]
      decide
  have hsense : s.core.opcode ≠ fdc_cmd_sense_interrupt := by
    rcases hseek with heq | heq
    all_goals
      rw [heq]
      decide
  have hresults : s.motion.seek_results = [] := by
    have hnone := Bool.eq_false_iff.mpr hrejected
    rw [fdc_command_rejected, Bool.or_eq_false_iff] at hnone
    simpa [hsense] using hnone.1
  have hwait : fdc_wait_head_load setup s.motion.drives
      (fdc_supersede_reset s.core s.core.opcode) s.core.opcode =
        (false, fdc_supersede_reset s.core s.core.opcode) := by
    rw [fdc_wait_head_load, hload, if_neg Bool.false_ne_true]
  have hframe := fdc_supersede_reset_frame s.core.opcode (.refl s.core)
  rw [hwait, if_neg Bool.false_ne_true]
  generalize fdc_supersede_reset s.core s.core.opcode = core at hframe ⊢
  rw [← hframe.elapsed] at helapsed
  rcases hseek with heq | heq
  · rw [heq]
    have hrun : fdc_execute_opcode setup { s with core } fdc_cmd_seek =
        fdc_begin_seek setup { s with core := fdc_select_seek core core.data.named_head }
          ((core.data.command_byte 2).zeroExtend 16) := rfl
    rw [hrun]
    refine fdc_begin_seek_valid setup
      (s := { s with core := fdc_select_seek core core.data.named_head }) h ?_ hresults helapsed
    have hlt := (core.data.command_byte 2).isLt
    simp only [BitVec.truncate_eq_setWidth, BitVec.toNat_setWidth]
    omega
  · rw [heq]
    have hrun : fdc_execute_opcode setup { s with core } fdc_cmd_recalibrate =
        fdc_begin_seek setup { s with core := fdc_select_seek core 0 } 0 := rfl
    rw [hrun]
    exact fdc_begin_seek_valid setup (s := { s with core := fdc_select_seek core 0 }) h
      (by decide) hresults helapsed

/-- Every call leaves the seeks valid, whatever waits. -/
theorem fdc_advance_at_valid {s : FdcState μ σ} (h : FdcSeeksValid s.motion) {elapsed_ticks : ℕ}
    (hmax : elapsed_ticks ≤ tick_max) :
    FdcSeeksValid (fdc_advance_at setup s elapsed_ticks).motion := by
  rw [fdc_advance_at]
  split
  · exact h
  have hset := fdc_set_elapsed_spec setup s.motion.drives s.core elapsed_ticks
  dsimp only
  generalize fdc_set_elapsed setup s.motion.drives s.core elapsed_ticks = core at hset ⊢
  have hrun : FdcSeeksValid (fdc_run_command setup { s with core }).motion := by
    unfold fdc_run_command
    dsimp only
    split
    · exact fdc_execute_valid setup h (by rw [hset.elapsed]; exact hmax)
    · exact h
    · exact h
  exact (fdc_move_heads_spec setup _ _ hrun).2.1

end Setup

end Nxvm.Chips
