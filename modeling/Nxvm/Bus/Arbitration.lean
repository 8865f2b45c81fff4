/-
The arbitration of the bus between refresh, DMA and the processor
(`machine_scheduler.c`, `machine.c`).

Refresh comes first: it holds the bus for a whole cycle, and DMA is granted only where no
refresh occupied the round. What the scheduler calls of the attachment, the timeline and the
processor is the machine's `Attachment`.
-/
import Nxvm.Bus.Cycles

set_option autoImplicit false

namespace Nxvm.Bus

open Nxvm.Machine (Status TransactionOwner TimeObservation BoardDeadline)
open Nxvm.Cpu (Profile cpu_profile_has_protected_architecture)

/-- What the scheduler calls. An operation that is not bound asks for nothing and does
nothing. -/
structure Attachment (σ : Type) where
  refresh_request : σ → Option ℕ × σ
  refresh_complete : Callback σ
  dma_ticks : ℕ → σ → ℕ × σ
  dma_request : σ → Bool × σ
  dma_advance : ℕ → Callback σ
  before_internal_advance : ℕ → ℕ → Callback σ
  after_internal_advance : ℕ → ℕ → Callback σ
  reset_devices : Callback σ
  reset_clocks : Callback σ
  firmware_reset : Callback σ
  /-- The deadlines at a tick, with what is left of a refresh cycle. -/
  capture_time_with_board : ℕ → ℕ → σ → TimeObservation × BoardDeadline
  timeline_advance : ℕ → Callback σ
  cpu_state_reset : σ → CpuProgram σ
  cpu_execution_advance_bus : ℕ → Bool → σ → CpuProgram σ
  cpu_execution_advance_prefetch_reservation : σ → CpuProgram σ
  internal_advance : ℕ → σ → CpuProgram σ
  provider_advance : ℕ → Callback σ

section Arbitration

variable {σ : Type} (a : Attachment σ)

/-! ## Refresh -/

/-- The end of a refresh cycle. -/
def refresh_finish (m : BusMachine σ) : BusMachine σ :=
  let m := m.with_transaction (mark_refresh_complete (transaction_commit m.transaction))
  let m := (a.refresh_complete.call m).2
  m.with_transaction (transaction_hold_release m.transaction .refresh)

/-- The refresh cycle is on the bus. Without a length it is over at once. -/
def refresh_occupy (begun : TransactionState) (m : BusMachine σ) : BusMachine σ :=
  let m :=
    { m with
      transaction := begun
      refresh_cycle_ticks_remaining := m.transaction_contract.refresh_cycle_source_ticks }
  if m.refresh_cycle_ticks_remaining ≠ 0 then m else refresh_finish a m

/-- A refresh cycle is asked for. -/
def refresh_start (address : ℕ) (m : BusMachine σ) : BusMachine σ :=
  let held := transaction_hold_request m.transaction .refresh address
  if held.1 ≠ .ok then m
  else
    let acknowledged := transaction_hold_acknowledge held.2 .refresh
    if acknowledged.1 ≠ .ok then
      m.with_transaction (transaction_hold_release acknowledged.2 .refresh)
    else
      let begun :=
        transaction_begin acknowledged.2 .refresh .refresh_memory_cycle address 0 0
      if begun.1 ≠ .ok then m.with_transaction (transaction_hold_release begun.2 .refresh)
      else refresh_occupy a begun.2 m

def refresh_hold_advance (source_ticks : ℕ) (m : BusMachine σ) : BusMachine σ :=
  if m.refresh_cycle_ticks_remaining ≠ 0 then
    if source_ticks < m.refresh_cycle_ticks_remaining then
      { m with
        refresh_cycle_ticks_remaining := m.refresh_cycle_ticks_remaining - source_ticks }
    else refresh_finish a { m with refresh_cycle_ticks_remaining := 0 }
  else
    let asked := a.refresh_request m.context
    let m := m.with_context asked.2
    match asked.1 with
    | none => m
    | some address => refresh_start a address m

/-! ## DMA -/

/-- Whether the board asks for a refresh cycle. -/
def refresh_requested (m : BusMachine σ) : Bool × BusMachine σ :=
  let asked := a.refresh_request m.context
  (asked.1.isSome, m.with_context asked.2)

def dma_requested (m : BusMachine σ) : Bool × BusMachine σ :=
  let asked := a.dma_request m.context
  (asked.1, m.with_context asked.2)

/-- DMA has asked for the bus: it is acknowledged, serves and releases it. -/
def dma_held_advance (dma_ticks : ℕ) (m : BusMachine σ) : BusMachine σ :=
  let acknowledged := transaction_hold_acknowledge m.transaction .dma
  let m := m.with_transaction acknowledged.2
  let m := if acknowledged.1 = .ok then ((a.dma_advance dma_ticks).call m).2 else m
  m.with_transaction (transaction_hold_release m.transaction .dma)

/-- DMA asks the processors that answer it to hold; the others it goes past. The answer says
whether it used the bus. -/
def dma_hold_advance (dma_ticks : ℕ) (bus_used : Bool) (m : BusMachine σ) :
    Bool × BusMachine σ :=
  let asked := if cpu_profile_has_protected_architecture m.cpu_profile ∧ dma_ticks ≠ 0 then
      dma_requested a m else (false, m)
  let m := asked.2
  let held := transaction_hold_request m.transaction .dma 0
  if asked.1 ∧ held.1 = .ok then
    (true, dma_held_advance a dma_ticks (m.with_transaction held.2))
  else (bus_used, ((a.dma_advance dma_ticks).call m).2)

def dma_grant_advance (m : BusMachine σ) : BusMachine σ := (dma_hold_advance a 1 false m).2

/-- One tick of DMA under a contract that makes it wait. -/
def dma_quantum (bus_used : Bool) (m : BusMachine σ) : Bool × BusMachine σ :=
  let asked := dma_requested a m
  let m := asked.2
  if asked.1 then
    if m.transaction_contract.dma_cycle_bus_ready_gate_enabled ∧ !m.dma_cycle_bus_ready then
      (true, m)
    else if m.dma_cycle_wait_remaining < m.transaction_contract.dma_cycle_wait_quanta then
      (true, { m with dma_cycle_wait_remaining := m.dma_cycle_wait_remaining + 1 })
    else (true, { dma_grant_advance a m with dma_cycle_wait_remaining := 0 })
  else (bus_used, m)

def dma_quanta : ℕ → Bool → BusMachine σ → Bool × BusMachine σ
  | 0, bus_used, m => (bus_used, m)
  | dma_ticks + 1, bus_used, m =>
    let ticked := dma_quantum a bus_used m
    dma_quanta dma_ticks ticked.1 ticked.2

/-- What DMA makes of a round. An occupied round cannot become a grant. -/
def dma_arbitrate (dma_ticks : ℕ) (refresh_occupied bus_used : Bool) (m : BusMachine σ) :
    Bool × BusMachine σ :=
  if refresh_occupied then (bus_used, m)
  else if m.transaction_contract.dma_cycle_wait_quanta ≠ 0 ∧ dma_ticks ≠ 0 then
    dma_quanta a dma_ticks bus_used m
  else dma_hold_advance a dma_ticks bus_used m

/-! ## A round -/

/-- Nobody has the bus. -/
def bus_idle (m : BusMachine σ) : Bool :=
  decide (m.transaction.owner = .none) && decide (m.transaction.hold_owner = .none)

/-- The processor's own use of the bus. -/
def cpu_advance_bus (source_ticks : ℕ) (bus_used : Bool) (m : BusMachine σ) : BusMachine σ :=
  let bus_ready := !bus_used &&
    (!m.transaction_contract.cpu_cycle_bus_ready_gate_enabled || m.cpu_cycle_bus_ready) &&
    bus_idle m
  (a.cpu_execution_advance_bus source_ticks bus_ready m.context).run m

/-- The reservation is made on an idle bus nobody asks for. -/
def cpu_advance_prefetch_reservation (refresh_pending : Bool) (m : BusMachine σ) :
    BusMachine σ :=
  if !m.transaction_contract.cpu_prefetch_reservation_enabled || refresh_pending then m
  else
    let refresh := refresh_requested a m
    if refresh.1 then refresh.2
    else
      let dma := dma_requested a refresh.2
      let m := dma.2
      if dma.1 || !bus_idle m then m
      else (a.cpu_execution_advance_prefetch_reservation m.context).run m

def arbitration_advance (source_ticks : ℕ) (m : BusMachine σ) : BusMachine σ :=
  if source_ticks = 0 then m
  else
    let dma := a.dma_ticks source_ticks m.context
    let pending := refresh_requested a (m.with_context dma.2)
    let occupied := decide (pending.2.refresh_cycle_ticks_remaining ≠ 0)
    let m := refresh_hold_advance a source_ticks pending.2
    let occupied := occupied || decide (m.refresh_cycle_ticks_remaining ≠ 0)
    let served := dma_arbitrate a dma.1 occupied (pending.1 || occupied) m
    cpu_advance_prefetch_reservation a pending.1 (cpu_advance_bus a source_ticks served.1 served.2)

/-- How far a round goes. -/
def due_tick (observed : TimeObservation × BoardDeadline) (elapsed_ticks target_tick : ℕ) : ℕ :=
  if observed.2.l1_compatibility then elapsed_ticks + 1
  else if observed.1.next_deadline_valid ∧ observed.1.next_deadline_tick > elapsed_ticks ∧
      observed.1.next_deadline_tick < target_tick then observed.1.next_deadline_tick
  else if observed.2.fast_advance_blocked then elapsed_ticks + 1
  else target_tick

theorem due_tick_bounds (observed : TimeObservation × BoardDeadline)
    {elapsed_ticks target_tick : ℕ} (h : elapsed_ticks < target_tick) :
    elapsed_ticks < due_tick observed elapsed_ticks target_tick ∧
      due_tick observed elapsed_ticks target_tick ≤ target_tick := by
  unfold due_tick
  split_ifs <;> omega

/-- The machine whose deadlines a round observes. -/
def scheduler_observed (m : BusMachine σ) : BusMachine σ :=
  if m.transaction_contract.refresh_cycle_source_ticks ≠ 0 then refresh_hold_advance a 0 m else m

/-- The owners work up to the due tick. -/
def scheduler_advance_to (due_tick : ℕ) (m : BusMachine σ) : BusMachine σ :=
  let source_ticks := due_tick - m.elapsed_ticks
  let m := ((a.timeline_advance due_tick).call { m with elapsed_ticks := due_tick }).2
  let m := arbitration_advance a source_ticks m
  let m := ((a.before_internal_advance source_ticks due_tick).call m).2
  let m := if source_ticks = 0 then m else (a.internal_advance source_ticks m.context).run m
  ((a.after_internal_advance source_ticks due_tick).call m).2

def scheduler_round (target_tick : ℕ) (m : BusMachine σ) : BusMachine σ :=
  let m := scheduler_observed a m
  scheduler_advance_to a (due_tick
    (a.capture_time_with_board m.elapsed_ticks m.refresh_cycle_ticks_remaining m.context)
    m.elapsed_ticks target_tick) m

/-- At most `rounds` rounds up to the target. -/
def scheduler_rounds (target_tick : ℕ) : ℕ → BusMachine σ → BusMachine σ
  | 0, m => m
  | rounds + 1, m =>
    if m.elapsed_ticks < target_tick then
      scheduler_rounds target_tick rounds (scheduler_round a target_tick m)
    else m

/-- Every round takes a tick at least, so there are no more rounds than ticks. -/
def advance_scheduler (elapsed_ticks : ℕ) (m : BusMachine σ) : BusMachine σ :=
  if elapsed_ticks = 0 ∨ Machine.uint64_max - m.elapsed_ticks < elapsed_ticks then m
  else
    let m := scheduler_rounds a (m.elapsed_ticks + elapsed_ticks) elapsed_ticks m
    ((a.provider_advance elapsed_ticks).call m).2

/-! ## The machine -/

/-- What the cold reset writes itself. -/
def reset_fields (m : BusMachine σ) : BusMachine σ :=
  { m with
    elapsed_ticks := 0
    dma_cycle_wait_remaining := 0
    refresh_cycle_ticks_remaining := 0
    dma_cycle_bus_ready := true
    cpu_cycle_bus_ready := true
    transaction := transaction_reset m.transaction }

def cold_reset (m : BusMachine σ) : BusMachine σ :=
  let m := (a.cpu_state_reset m.context).run m
  let m := reset_fields (a.reset_devices.call m).2
  let m := (a.reset_clocks.call m).2
  (a.firmware_reset.call m).2

/-- A created machine. -/
def neutral_create (contract : BusContract) (profile : Profile) (context : σ) :
    BusMachine σ where
  transaction := transaction_initialize
  transaction_contract := contract
  cpu_profile := profile
  elapsed_ticks := 0
  dma_cycle_wait_remaining := 0
  refresh_cycle_ticks_remaining := 0
  dma_cycle_bus_ready := true
  cpu_cycle_bus_ready := true
  context := context

/-- What can happen to the bus. The parts of the scheduler are operations of their own, so
that the machine is seen between them. -/
inductive Operation (σ : Type) : Type where
  | cpu (program : σ → CpuProgram σ)
  | board (program : Callback σ)
  | dma_hold_request
  | dma_hold_acknowledge
  | dma_hold_release
  | refresh_hold_advance (source_ticks : ℕ)
  | arbitration_advance (source_ticks : ℕ)
  | advance_scheduler (elapsed_ticks : ℕ)
  | cold_reset

def Operation.run : Operation σ → BusMachine σ → BusMachine σ
  | .cpu program, m => (program m.context).run m
  | .board program, m => (program.call m).2
  | .dma_hold_request, m =>
    m.with_transaction (transaction_hold_request m.transaction .dma 0).2
  | .dma_hold_acknowledge, m =>
    m.with_transaction (transaction_hold_acknowledge m.transaction .dma).2
  | .dma_hold_release, m => m.with_transaction (transaction_hold_release m.transaction .dma)
  | .refresh_hold_advance source_ticks, m => Bus.refresh_hold_advance a source_ticks m
  | .arbitration_advance source_ticks, m => Bus.arbitration_advance a source_ticks m
  | .advance_scheduler elapsed_ticks, m => Bus.advance_scheduler a elapsed_ticks m
  | .cold_reset, m => Bus.cold_reset a m

def Operation.resets : Operation σ → Bool
  | .cold_reset => true
  | _ => false

/-- Operations one after the other. -/
def run (operations : List (Operation σ)) (m : BusMachine σ) : BusMachine σ :=
  operations.foldl (fun m operation => operation.run a m) m

end Arbitration

end Nxvm.Bus
