/-
The machine as its scheduler and its run loop see it (`machine.h`,
`machine_interface.h`, `attachment_interface.h`).

The machine owns the clock, the lifecycle, and what is pending of the current
instruction. Everything behind it (the processor, the coprocessor, the timeline,
the board and its devices, the firmware) is one owner state `σ` and the answers an
`Environment` gives from it. Any call out of the machine may change the owner
state, and through the bounded operations of the machine it may do what an
`Effect` lists.
-/
import Nxvm.Machine.Timeline

set_option autoImplicit false

namespace Nxvm.Machine

/-- `x86_core_machine_lifecycle`. -/
inductive Lifecycle where
  | initialized
  | paused
  | running
  | stopped
  | faulted
  deriving DecidableEq, Repr

/-- `x86_core_machine_transaction_owner`. -/
inductive TransactionOwner where
  | none
  | cpu
  | dma
  | refresh
  deriving DecidableEq, Repr

/-- The bus transaction, as far as holds and grants depend on it. -/
structure Transaction where
  owner : TransactionOwner
  hold_owner : TransactionOwner
  hold_acknowledged : Bool
  deriving DecidableEq, Repr

/-- `x86_core_machine_transaction_contract`, the members the scheduler reads. -/
structure TransactionContract where
  cpu_cycle_bus_ready_gate_enabled : Bool
  cpu_prefetch_reservation_enabled : Bool
  refresh_cycle_source_ticks : ℕ
  deriving DecidableEq, Repr

/-- `x86_core_machine_retirement_time_contract`. -/
inductive RetirementTimeContract where
  | deterministic
  | physical
  deriving DecidableEq, Repr

/-- The machine, over the state `σ` of everything behind it. -/
structure CoreMachine (σ : Type) where
  lifecycle : Lifecycle
  stop_requested : Bool
  fault_detail : ℕ
  elapsed_ticks : ℕ
  transaction : Transaction
  transaction_contract : TransactionContract
  external_cycle_round_ticks : ℕ
  external_cycle_round_overflow : Bool
  cpu_retirement_wait_pending : Bool
  cpu_retirement_wait_ticks : ℕ
  cpu_retirement_completion_ticks : ℕ
  cpu_retirement_source_ticks : ℕ
  cpu_retirement_wait_retires : Bool
  maximum_instruction_ticks : ℕ
  retirement_time_contract : RetirementTimeContract
  time_axis_verified_physical : Bool
  retirement_observation_bound : Bool
  cpu_profile_v30 : Bool
  refresh_cycle_ticks_remaining : ℕ
  cpu_cycle_bus_ready : Bool
  owner : σ

/-- What a call out of the machine may do to it: report a fault, ask for a stop, leave the
bus transaction in another state and drive the ready line. -/
structure Effect where
  report_fault : Option ℕ := none
  request_stop : Bool := false
  transaction : Option Transaction := none
  cpu_bus_ready : Option Bool := none

/-- What a call out of the machine answers and leaves. -/
structure Answer (σ α : Type) where
  value : α
  owner : σ
  effect : Effect := {}

/-- `x86_core_machine_attachment_deadline_observation`. -/
structure BoardDeadline where
  source_ticks : ℕ := 0
  immediate_due : Bool := false
  l1_compatibility : Bool := false
  fast_advance_blocked : Bool := false
  deriving DecidableEq, Repr

/-- `x86_core_cpu_timing_result`, the members the run loop reads. -/
structure Timing where
  ticks : ℕ
  event_ticks : ℕ
  source_timing_unallocated : Bool
  deriving DecidableEq, Repr

/-- `x86_core_cpu_reset_kind`. -/
inductive ResetKind where
  | none
  | hard
  | soft
  deriving DecidableEq, Repr

/-- What `x86_core_cpu_execution_refresh` leaves of one round of execution: the fault it
recorded and the bus time its cycles took. -/
structure Round where
  fault_detail : Option ℕ
  external_cycle_round_ticks : ℕ
  external_cycle_round_overflow : Bool
  deriving DecidableEq, Repr

/-- Everything behind the machine. A callback the board may leave out is an `Option`. -/
structure Environment (σ : Type) where
  /-- `x86_core_machine_timeline_next_due` of the machine's timeline. -/
  timeline_next_due : σ → Option ℕ
  fpu_ticks_until_completion : σ → Option ℕ
  execution_wait_poll_ticks : σ → Option ℕ
  attachment_deadline : Option (σ → ℕ → BoardDeadline)
  attachment_refresh_request : Option (σ → Answer σ Bool)
  attachment_refresh_complete : Option (σ → Answer σ Unit)
  /-- `x86_core_machine_timeline_advance` to a tick, with the callbacks it makes. -/
  timeline_advance : ℕ → σ → Answer σ Unit
  /-- What is left of the bus arbitration after the refresh: DMA and the processor's own
  use of the bus. -/
  arbitrate : ℕ → CoreMachine σ → Answer σ Unit
  attachment_before_internal_advance : Option (ℕ → ℕ → σ → Answer σ Unit)
  /-- The coprocessor and the processor's own wait. -/
  internal_advance : ℕ → CoreMachine σ → Answer σ Unit
  attachment_after_internal_advance : Option (ℕ → ℕ → σ → Answer σ Unit)
  /-- The provider clock and `execution_provider->advance_time`. -/
  provider_advance : ℕ → σ → Answer σ Unit
  cpu_linear_pc : σ → ℕ
  cpu_is_halted : σ → Bool
  cpu_is_shutdown : σ → Bool
  cpu_is_system_waiting : σ → Bool
  cpu_capture_timing : σ → Timing
  execution_refresh : σ → Answer σ Round
  execution_consume_shutdown_request : σ → Answer σ Bool
  execution_consume_debug_pause_request : σ → Answer σ Bool
  execution_consume_stop_request : σ → Answer σ Bool
  execution_consume_reset_request : σ → Answer σ ResetKind
  execution_consume_instruction_fault_delivery : σ → Answer σ Bool
  execution_consume_wait_stall : σ → Answer σ Bool
  execution_reserve_prefetch : σ → Answer σ Unit
  execution_poll_wait : σ → Answer σ Unit
  cpu_state_soft_reset : σ → Answer σ Status
  cpu_state_reset : σ → Answer σ Unit
  attachment_shutdown_reset : Option (σ → Answer σ Bool)
  attachment_cpu_hold_asserted : Option (σ → Answer σ Bool)
  /-- The devices, the clocks and the execution provider put to their reset state. -/
  cold_reset_owners : σ → Answer σ Unit
  firmware_reset : Option (σ → Answer σ Status)
  firmware_after_run : Option (σ → Answer σ Status)
  /-- `x86_core_machine_retirement_qualification_contains`. -/
  retirement_qualification_contains : σ → Bool
  retirement_observation_capture_eligibility_key : σ → Answer σ Unit
  retirement_observation_publish : ℕ → σ → Answer σ Unit

variable {σ : Type}

/-- `x86_core_machine_report_fault`. It is refused in a machine that is faulted already or
was never reset. -/
def report_fault (m : CoreMachine σ) (detail : ℕ) : CoreMachine σ :=
  match m.lifecycle with
  | .stopped | .paused | .running => { m with fault_detail := detail, lifecycle := .faulted }
  | .initialized | .faulted => m

/-- The machine after a call out of it. -/
def CoreMachine.after {α : Type} (m : CoreMachine σ) (a : Answer σ α) : CoreMachine σ :=
  let m := { m with owner := a.owner }
  let m := match a.effect.report_fault with
    | some detail => report_fault m detail
    | none => m
  { m with
    stop_requested := m.stop_requested || a.effect.request_stop
    transaction := a.effect.transaction.getD m.transaction
    cpu_cycle_bus_ready := a.effect.cpu_bus_ready.getD m.cpu_cycle_bus_ready }

/-- A call the board may have left out. -/
def CoreMachine.call {α : Type} (m : CoreMachine σ) (callback : Option (σ → Answer σ α)) (absent : α) :
    α × CoreMachine σ :=
  match callback with
  | some f => ((f m.owner).value, m.after (f m.owner))
  | none => (absent, m)

/-! ## What a call leaves alone -/

/-- What no call out of the machine touches: the clock and what is pending of the current
instruction. The lifecycle it may only fault. -/
structure Undisturbed (m m' : CoreMachine σ) : Prop where
  elapsed_ticks : m'.elapsed_ticks = m.elapsed_ticks
  wait_pending : m'.cpu_retirement_wait_pending = m.cpu_retirement_wait_pending
  wait_ticks : m'.cpu_retirement_wait_ticks = m.cpu_retirement_wait_ticks
  completion_ticks : m'.cpu_retirement_completion_ticks = m.cpu_retirement_completion_ticks
  wait_retires : m'.cpu_retirement_wait_retires = m.cpu_retirement_wait_retires
  maximum_instruction_ticks : m'.maximum_instruction_ticks = m.maximum_instruction_ticks
  retirement_time_contract : m'.retirement_time_contract = m.retirement_time_contract
  lifecycle : m'.lifecycle = m.lifecycle ∨ m'.lifecycle = .faulted

theorem Undisturbed.refl (m : CoreMachine σ) : Undisturbed m m :=
  ⟨rfl, rfl, rfl, rfl, rfl, rfl, rfl, Or.inl rfl⟩

theorem Undisturbed.trans {m m' m'' : CoreMachine σ} (h : Undisturbed m m')
    (h' : Undisturbed m' m'') : Undisturbed m m'' where
  elapsed_ticks := h'.elapsed_ticks.trans h.elapsed_ticks
  wait_pending := h'.wait_pending.trans h.wait_pending
  wait_ticks := h'.wait_ticks.trans h.wait_ticks
  completion_ticks := h'.completion_ticks.trans h.completion_ticks
  wait_retires := h'.wait_retires.trans h.wait_retires
  maximum_instruction_ticks :=
    h'.maximum_instruction_ticks.trans h.maximum_instruction_ticks
  retirement_time_contract := h'.retirement_time_contract.trans h.retirement_time_contract
  lifecycle := by
    rcases h'.lifecycle with he | hf
    · rw [he]
      exact h.lifecycle
    · exact Or.inr hf

theorem report_fault_lifecycle (m : CoreMachine σ) (detail : ℕ) :
    (report_fault m detail).lifecycle = .faulted ∨
      (report_fault m detail).lifecycle = .initialized := by
  unfold report_fault
  cases h : m.lifecycle <;> simp [h]

theorem report_fault_undisturbed (m : CoreMachine σ) (detail : ℕ) :
    Undisturbed m (report_fault m detail) := by
  unfold report_fault
  cases h : m.lifecycle <;> constructor <;> simp [h]

theorem CoreMachine.after_undisturbed {α : Type} (m : CoreMachine σ) (a : Answer σ α) :
    Undisturbed m (m.after a) := by
  unfold CoreMachine.after
  cases a.effect.report_fault with
  | none => exact ⟨rfl, rfl, rfl, rfl, rfl, rfl, rfl, Or.inl rfl⟩
  | some detail =>
    have h := report_fault_undisturbed { m with owner := a.owner } detail
    exact ⟨h.elapsed_ticks, h.wait_pending, h.wait_ticks, h.completion_ticks, h.wait_retires,
      h.maximum_instruction_ticks, h.retirement_time_contract, h.lifecycle⟩

theorem CoreMachine.after_external_cycle_round_ticks {α : Type} (m : CoreMachine σ)
    (a : Answer σ α) :
    (m.after a).external_cycle_round_ticks = m.external_cycle_round_ticks := by
  unfold CoreMachine.after
  cases a.effect.report_fault with
  | none => rfl
  | some detail =>
    dsimp only [report_fault]
    cases m.lifecycle <;> rfl

theorem CoreMachine.call_undisturbed {α : Type} (m : CoreMachine σ)
    (callback : Option (σ → Answer σ α)) (absent : α) :
    Undisturbed m (m.call callback absent).2 := by
  cases callback with
  | none => exact Undisturbed.refl m
  | some f => exact m.after_undisturbed (f m.owner)

/-! ## An empty environment -/

/-- A board without callbacks around a processor that never has anything to say. -/
def idle_environment : Environment Unit where
  timeline_next_due _ := none
  fpu_ticks_until_completion _ := none
  execution_wait_poll_ticks _ := none
  attachment_deadline := none
  attachment_refresh_request := none
  attachment_refresh_complete := none
  timeline_advance _ _ := { value := (), owner := () }
  arbitrate _ _ := { value := (), owner := () }
  attachment_before_internal_advance := none
  internal_advance _ _ := { value := (), owner := () }
  attachment_after_internal_advance := none
  provider_advance _ _ := { value := (), owner := () }
  cpu_linear_pc _ := 0
  cpu_is_halted _ := false
  cpu_is_shutdown _ := false
  cpu_is_system_waiting _ := false
  cpu_capture_timing _ := { ticks := 1, event_ticks := 0, source_timing_unallocated := false }
  execution_refresh _ :=
    { value :=
        { fault_detail := none, external_cycle_round_ticks := 0,
          external_cycle_round_overflow := false }
      owner := () }
  execution_consume_shutdown_request _ := { value := false, owner := () }
  execution_consume_debug_pause_request _ := { value := false, owner := () }
  execution_consume_stop_request _ := { value := false, owner := () }
  execution_consume_reset_request _ := { value := .none, owner := () }
  execution_consume_instruction_fault_delivery _ := { value := false, owner := () }
  execution_consume_wait_stall _ := { value := false, owner := () }
  execution_reserve_prefetch _ := { value := (), owner := () }
  execution_poll_wait _ := { value := (), owner := () }
  cpu_state_soft_reset _ := { value := .ok, owner := () }
  cpu_state_reset _ := { value := (), owner := () }
  attachment_shutdown_reset := none
  attachment_cpu_hold_asserted := none
  cold_reset_owners _ := { value := (), owner := () }
  firmware_reset := none
  firmware_after_run := none
  retirement_qualification_contains _ := true
  retirement_observation_capture_eligibility_key _ := { value := (), owner := () }
  retirement_observation_publish _ _ := { value := (), owner := () }

/-- A stopped machine after a reset, with every instruction taking one tick. -/
def idle_machine : CoreMachine Unit where
  lifecycle := .stopped
  stop_requested := false
  fault_detail := 0
  elapsed_ticks := 0
  transaction := { owner := .none, hold_owner := .none, hold_acknowledged := false }
  transaction_contract :=
    { cpu_cycle_bus_ready_gate_enabled := false, cpu_prefetch_reservation_enabled := false,
      refresh_cycle_source_ticks := 0 }
  external_cycle_round_ticks := 0
  external_cycle_round_overflow := false
  cpu_retirement_wait_pending := false
  cpu_retirement_wait_ticks := 0
  cpu_retirement_completion_ticks := 0
  cpu_retirement_source_ticks := 0
  cpu_retirement_wait_retires := false
  maximum_instruction_ticks := 1
  retirement_time_contract := .deterministic
  time_axis_verified_physical := false
  retirement_observation_bound := false
  cpu_profile_v30 := false
  refresh_cycle_ticks_remaining := 0
  cpu_cycle_bus_ready := true
  owner := ()

end Nxvm.Machine
