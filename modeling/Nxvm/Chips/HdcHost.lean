/-
What a host can do while a command of the task file is in progress.

The task file and the command register are not writable then. What is left besides the
control register is to read, to pass words through the data register and to let time go by,
so that a step leaves the command as it is, ends a sector, or brings on what is due
(`HostStep`).
-/
import Nxvm.Chips.HdcAdvance

set_option autoImplicit false

namespace Nxvm.Chips

open Nxvm.Lib Nxvm.Lib.Register Nxvm.Machine

/-! ## What stays -/

/-- The address and what it is an address of. -/
structure SameAddress (data data' : HdcData) : Prop where
  number : data'.sector_number = data.sector_number
  low : data'.cylinder_low = data.cylinder_low
  high : data'.cylinder_high = data.cylinder_high
  head : data'.drive_head = data.drive_head
  heads : data'.drive_heads = data.drive_heads
  sectors : data'.drive_sectors_per_track = data.drive_sectors_per_track
  control : data'.device_control = data.device_control

theorem SameAddress.refl (data : HdcData) : SameAddress data data :=
  ⟨rfl, rfl, rfl, rfl, rfl, rfl, rfl⟩

theorem SameAddress.trans {a b c : HdcData} (h : SameAddress a b) (h' : SameAddress b c) :
    SameAddress a c :=
  ⟨h'.number.trans h.number, h'.low.trans h.low, h'.high.trans h.high, h'.head.trans h.head,
    h'.heads.trans h.heads, h'.sectors.trans h.sectors, h'.control.trans h.control⟩

/-- The task file a pending command was given. -/
def hdc_restored (data : HdcData) : HdcData :=
  { data with
    features := data.pending_features
    sector_count := data.pending_sector_count
    sector_number := data.pending_sector_number
    cylinder_low := data.pending_cylinder_low
    cylinder_high := data.pending_cylinder_high
    drive_head := data.pending_drive_head }

section Setup

variable {σ : Type} {setup : HdcSetup σ}

/-- The command as it was, but for its phase and its status. -/
structure SameTransfer (s s' : HdcState σ) : Prop where
  address : SameAddress s.data s'.data
  restored : SameAddress (hdc_restored s.data) (hdc_restored s'.data)
  error : s'.data.error = s.data.error
  count : s'.data.sector_count = s.data.sector_count
  pending_count : s'.data.pending_sector_count = s.data.pending_sector_count
  remaining : s'.data.sectors_remaining = s.data.sectors_remaining
  last : s'.data.last_command = s.data.last_command
  pending : s'.data.pending_command = s.data.pending_command
  context : s'.context = s.context
  touched : s'.touched = s.touched

/-- The command as it was. -/
structure SameCommand (s s' : HdcState σ) : Prop extends SameTransfer s s' where
  phase : s'.data.phase = s.data.phase
  status : s'.data.status = s.data.status

theorem SameTransfer.of_rfl {s s' : HdcState σ}
    (hdata : ∃ irq_pending elapsed next phase status index record, s'.data = { s.data with
      irq_pending := irq_pending, elapsed_ticks := elapsed, next_service_tick := next
      phase := phase, status := status, data_index := index, record := record })
    (hcontext : s'.context = s.context) (htouched : s'.touched = s.touched) :
    SameTransfer s s' := by
  obtain ⟨irq_pending, elapsed, next, phase, status, index, record, hdata⟩ := hdata
  refine ⟨?_, ?_, ?_, ?_, ?_, ?_, ?_, ?_, hcontext, htouched⟩
  all_goals rw [hdata]
  · exact ⟨rfl, rfl, rfl, rfl, rfl, rfl, rfl⟩
  · exact ⟨rfl, rfl, rfl, rfl, rfl, rfl, rfl⟩

theorem SameCommand.refl (s : HdcState σ) : SameCommand s s :=
  ⟨.of_rfl ⟨_, _, _, _, _, _, _, rfl⟩ rfl rfl, rfl, rfl⟩

/-- The task file is not to be written. -/
def HdcBusy (data : HdcData) : Prop := hdc_task_file_is_writable data = false

theorem busy_of_status {data : HdcData} (h : data.status = status_bsy) : HdcBusy data := by
  unfold HdcBusy hdc_task_file_is_writable
  rw [h]
  rfl

/-! ## Steps -/

/-- What one call of a host makes of a command in progress. -/
inductive HostStep (setup : HdcSetup σ) (s : HdcState σ) : HdcState σ → Prop where
  | quiet {s' : HdcState σ} (same : SameCommand s s') : HostStep setup s s'
  | drained {s' : HdcState σ} (before : s.data.phase = .data_read) (same : SameTransfer s s')
      (after : s'.data.phase = .pending_read_sector) (busy : HdcBusy s'.data) :
      HostStep setup s s'
  | filled {s' : HdcState σ} (before : s.data.phase = .data_write) (same : SameTransfer s s')
      (after : s'.data.phase = .pending_write_sector) (busy : HdcBusy s'.data) :
      HostStep setup s s'
  | due {s' : HdcState σ} (same : SameCommand s s') : HostStep setup s (hdc_service setup s')

/-- The calls of a host that is served: reads, writes but of the control register, time. -/
def HdcOp.Hosts : HdcOp → Prop
  | .read _ => True
  | .write reg _ => reg ≠ .control
  | .advance_at _ => True
  | _ => False

variable {s : HdcState σ}

theorem hdc_read_data_step : HostStep setup s (hdc_read_data setup s).2 := by
  unfold hdc_read_data
  dsimp only
  by_cases hdata : s.data.phase ≠ .data_read ∨
      hdc_transfer_size setup.config s.data s.xebec ≤ s.data.data_index
  · rw [if_pos hdata]
    exact .quiet (.refl s)
  rw [if_neg hdata]
  have hphase : s.data.phase = .data_read := not_not.mp (not_or.mp hdata).1
  generalize (if s.data.data_index < hdc_sector_bytes then s.data.data_index + 2
    else s.data.data_index + 1) = index
  by_cases hlast : index = hdc_transfer_size setup.config s.data s.xebec
  · rw [if_pos hlast]
    refine .drained hphase ?_ rfl (busy_of_status rfl)
    exact .of_rfl ⟨_, _, _, _, _, _, _, rfl⟩ rfl rfl
  · rw [if_neg hlast]
    exact .quiet ⟨.of_rfl ⟨_, _, _, _, _, _, _, rfl⟩ rfl rfl, rfl, rfl⟩

theorem hdc_write_data_step (word : U16) : HostStep setup s (hdc_write_data setup s word) := by
  unfold hdc_write_data
  dsimp only
  by_cases hdata : s.data.phase ≠ .data_write ∨
      hdc_transfer_size setup.config s.data s.xebec ≤ s.data.data_index
  · rw [if_pos hdata]
    exact .quiet (.refl s)
  rw [if_neg hdata]
  have hphase : s.data.phase = .data_write := not_not.mp (not_or.mp hdata).1
  generalize (if s.data.data_index < hdc_sector_bytes then s.data.data_index + 2
    else s.data.data_index + 1) = index
  by_cases hlast : index = hdc_transfer_size setup.config s.data s.xebec
  · rw [if_pos hlast]
    refine .filled hphase ?_ rfl (busy_of_status rfl)
    exact .of_rfl ⟨_, _, _, _, _, _, _, rfl⟩ rfl rfl
  · rw [if_neg hlast]
    exact .quiet ⟨.of_rfl ⟨_, _, _, _, _, _, _, rfl⟩ rfl rfl, rfl, rfl⟩

theorem hdc_clear_irq_command (s : HdcState σ) : SameCommand s (hdc_clear_irq setup s) :=
  ⟨.of_rfl ⟨_, _, _, _, _, _, _, rfl⟩ rfl rfl, rfl, rfl⟩

theorem hdc_read_step (hxt : hdc_is_xebec_xt setup.config = false) (reg : HdcRegister) :
    HostStep setup s (hdc_read setup s reg).2.2 := by
  unfold hdc_read
  rw [if_neg (by rw [hxt]; exact Bool.false_ne_true)]
  cases reg with
  | data => exact hdc_read_data_step
  | status_command => exact .quiet (hdc_clear_irq_command s)
  | control =>
    dsimp only
    split_ifs <;> exact .quiet (.refl s)
  | drive_address =>
    dsimp only
    split_ifs <;> exact .quiet (.refl s)
  | _ => exact .quiet (.refl s)

theorem hdc_write_step (hxt : hdc_is_xebec_xt setup.config = false) (hbusy : HdcBusy s.data)
    {reg : HdcRegister} (hreg : reg ≠ .control) (value : U16) :
    HostStep setup s (hdc_write setup s reg value).2 := by
  have hblocked (byte : U8) : hdc_write_task_file setup s reg byte = s := by
    unfold hdc_write_task_file
    exact if_pos (by rw [show hdc_task_file_is_writable s.data = false from hbusy]; rfl)
  have hcapture (byte : U8) : hdc_capture_command setup s byte = s := by
    unfold hdc_capture_command
    exact if_pos (by rw [show hdc_task_file_is_writable s.data = false from hbusy]; simp)
  unfold hdc_write
  dsimp only
  rw [if_neg (by rw [hxt]; exact Bool.false_ne_true)]
  cases reg with
  | data => exact hdc_write_data_step value
  | status_command =>
    dsimp only
    rw [hcapture]
    exact .quiet (.refl s)
  | control => exact absurd rfl hreg
  | drive_address => exact .quiet (.refl s)
  | xebec_reset => exact .quiet (.refl s)
  | xebec_select => exact .quiet (.refl s)
  | xebec_mask => exact .quiet (.refl s)
  | _ =>
    dsimp only
    rw [hblocked]
    exact .quiet (.refl s)

theorem hdc_advance_at_step (now : ℕ) : HostStep setup s (hdc_advance_at setup s now) := by
  unfold hdc_advance_at
  dsimp only
  split_ifs
  · exact .quiet (.refl s)
  · exact .quiet ⟨.of_rfl ⟨_, _, _, _, _, _, _, rfl⟩ rfl rfl, rfl, rfl⟩
  · exact .due ⟨.of_rfl ⟨_, _, _, _, _, _, _, rfl⟩ rfl rfl, rfl, rfl⟩

/-- A call of a host is one of its steps. -/
theorem hdc_apply_step (hxt : hdc_is_xebec_xt setup.config = false) (hbusy : HdcBusy s.data)
    {op : HdcOp} (hop : op.Hosts) : HostStep setup s (hdc_apply setup s op) := by
  cases op with
  | read reg => exact hdc_read_step hxt reg
  | write reg value => exact hdc_write_step hxt hbusy hop value
  | advance_at now => exact hdc_advance_at_step now
  | dma_read => exact absurd hop id
  | dma_write byte => exact absurd hop id
  | terminal_count => exact absurd hop id
  | reset => exact absurd hop id

end Setup

end Nxvm.Chips
