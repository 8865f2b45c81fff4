/-
Runs: the two transfers that hold the processor, and the loop that serves them,
interrupts and instructions within a budget of cycles (`machine.c`).

A transfer that is cut by the budget resumes in the next run. The passes of the
loop are bounded by a number given beforehand; that a run which cannot overflow its
cycle count ends within its budget of passes is a theorem of its own.
-/
import Nxvm.Nes.Cpu

set_option autoImplicit false

namespace Nxvm.Nes

open Nxvm.Lib Nxvm.Lib.Exec
open Nxvm.Machine (Status)

/-! ## Transfers that hold the processor -/

/-- The loop of a transfer: a cycle at a time, while it is active and the budget lasts. -/
def transfer_loop (active : Console → Bool) (cycle : NesM Unit) : ℕ → NesM Unit
  | 0 => pure ()
  | budget + 1 => do
    let m ← get
    if active m then
      cycle
      transfer_loop active cycle budget
    else pure ()

/-- The cycles of a service, as its caller is told them. -/
def service_cycles (start_slots : U64) (m : Console) : U32 :=
  (m.slots - start_slots).truncate 32

/-- The end of a service: the cycles it took are added up. -/
def service_done (start_slots : U64) : NesM (Option U32) := do
  let m ← get
  let cycles := service_cycles start_slots m
  update fun m => { m with cycles := m.cycles + cycles.zeroExtend 64 }
  pure (some cycles)

/-! ## The sprite memory transfer -/

/-- A read into the transfer's latch; the phase moves on whether it was answered or not. -/
def dma_read (address : U16) (phase : U8) : NesM Unit := do
  let r ← status_of (core_bus_read address)
  update fun m =>
    { m with
      dma_latch := match r with
        | .ok value => value
        | .error _ => m.dma_latch
      dma_phase := phase }
  let _ ← rethrow r
  pure ()

/-- The write of one byte; the index moves on whether it was taken or not. -/
def dma_write : NesM Unit := do
  let m ← get
  let r ← status_of (core_bus_write 0x2004 m.dma_latch)
  update fun m => { m with dma_index := m.dma_index + 1 }
  update fun m =>
    if m.dma_index = 256 then { m with dma_active := false } else { m with dma_phase := 2 }
  rethrow r

/-- One cycle of the transfer. -/
def dma_cycle : NesM Unit := do
  let m ← get
  if m.dma_phase = 0 then dma_read m.pc (if m.dma_alignment_pending then 1 else 2)
  else if m.dma_phase = 1 then dma_read m.pc 2
  else if m.dma_phase = 2 then
    dma_read ((m.dma_page.zeroExtend 16 <<< 8) ||| m.dma_index) 3
  else dma_write

/-- The loop of the transfer. -/
def dma_loop : ℕ → NesM Unit := transfer_loop (·.dma_active) dma_cycle

/-- A transfer that was asked for starts. -/
def dma_start (m : Console) : Console :=
  if m.dma_active then m
  else
    { m with
      dma_active := true
      dma_pending := false
      dma_alignment_pending := m.slots &&& 1 != 0
      dma_phase := 0
      dma_index := 0 }

/-- `core_machine_service_dma_budget`: the cycles, if there was a transfer to serve. -/
def core_machine_service_dma_budget (budget : U32) : NesM (Option U32) := do
  let m ← get
  if !m.dma_pending ∧ !m.dma_active then pure none
  else
    update dma_start
    dma_loop budget.toNat
    service_done m.slots

/-! ## The sample transfer -/

/-- The end of a cycle of the transfer; the fourth one delivers the byte. -/
def dmc_advance (m : Console) : Console :=
  let m := { m with dmc_dma_phase := m.dmc_dma_phase + 1 }
  if m.dmc_dma_phase = 4 then
    core_machine_refresh_apu_irq
      { m with
        apu := core_apu_complete_dmc_read m.apu m.dmc_dma_latch
        dmc_dma_active := false }
  else m

/-- One cycle of the transfer. -/
def dmc_cycle : NesM Unit := do
  let m ← get
  let value ← core_bus_read (if m.dmc_dma_phase.toNat < 3 then m.pc else m.dmc_dma_address)
  update fun m => { m with dmc_dma_latch := value }
  update dmc_advance

/-- The loop of the transfer. -/
def dmc_loop : ℕ → NesM Unit := transfer_loop (·.dmc_dma_active) dmc_cycle

/-- The machine with a transfer to serve: the one in flight, or the one asked for. -/
def dmc_start (m : Console) : Option Console :=
  if m.dmc_dma_active then some m
  else
    (core_apu_take_dmc_request m.apu).map fun r =>
      { m with
        apu := r.2
        dmc_dma_address := r.1
        dmc_dma_active := true
        dmc_dma_phase := 0 }

/-- `core_machine_service_dmc_budget`: the cycles, if there was a transfer to serve. -/
def core_machine_service_dmc_budget (budget : U32) : NesM (Option U32) := do
  let m ← get
  match dmc_start m with
  | none => pure none
  | some started => do
    update fun _ => started
    dmc_loop budget.toNat
    service_done m.slots

/-! ## The loop -/

/-- `core_run_result`. -/
structure RunResult where
  instructions : U32
  cycles : U32
  reason : StopReason
  trap_valid : Bool
  deriving DecidableEq

/-- The result a run starts from. -/
def RunResult.zero : RunResult where
  instructions := 0
  cycles := 0
  reason := .budget
  trap_valid := false

/-- A breakpoint is set where the program is. -/
def breakpoint_hit (m : Console) : Bool :=
  (List.finRange 16).any fun i =>
    decide (i.val < m.breakpoint_count.toNat) && m.breakpoints i == m.pc

/-- The breakpoint at the program counter was left already. -/
def breakpoint_bypassed (m : Console) : Bool :=
  m.breakpoint_bypass_valid && m.breakpoint_bypass_pc == m.pc

/-- What one pass of the loop adds to the result: the first thing there is to serve, in the
order sample transfer, sprite memory transfer, interrupt, instruction. -/
def serve (budget : U32) (result : RunResult) : NesM RunResult := do
  let dmc ← core_machine_service_dmc_budget budget
  match dmc with
  | some cycles => pure { result with cycles := result.cycles + cycles }
  | none => do
    let dma ← core_machine_service_dma_budget budget
    match dma with
    | some cycles => pure { result with cycles := result.cycles + cycles }
    | none => do
      let serviced ← core_machine_service_interrupt
      if serviced then pure { result with cycles := result.cycles + 7 }
      else
        let cycles ← core_machine_step
        let m ← get
        pure { result with
          cycles := result.cycles + cycles
          instructions :=
            if m.trap.trap_valid then result.instructions else result.instructions + 1 }

/-- The limits are not reached and nothing has trapped. -/
def may_continue (instruction_limit cycle_limit : U32) (result : RunResult) (m : Console) :
    Bool :=
  decide (result.instructions < instruction_limit) && decide (result.cycles < cycle_limit) &&
    !m.trap.trap_valid

/-- The result of a run whose loop is over. -/
def run_done (result : RunResult) : NesM RunResult := do
  let m ← get
  pure { result with
    reason := if m.trap.trap_valid then m.trap.trap_reason else .budget
    trap_valid := m.trap.trap_valid }

/-- The loop of `core_machine_execute`, for so many passes at most. -/
def execute_loop (instruction_limit cycle_limit : U32) (honor_breakpoints : Bool) :
    ℕ → RunResult → NesM RunResult
  | 0, _ => throw .unfinished
  | passes + 1, result => do
    let m ← get
    if !may_continue instruction_limit cycle_limit result m then run_done result
    else if honor_breakpoints ∧ breakpoint_hit m ∧ ¬ breakpoint_bypassed m then
      update fun m =>
        { m with breakpoint_bypass_pc := m.pc, breakpoint_bypass_valid := true }
      pure { result with reason := .breakpoint }
    else
      perform_if (honor_breakpoints ∧ breakpoint_bypassed m)
        (update fun m => { m with breakpoint_bypass_valid := false })
      let result ← serve (cycle_limit - result.cycles) result
      execute_loop instruction_limit cycle_limit honor_breakpoints passes result

/-- `core_machine_execute`. -/
def core_machine_execute (passes : ℕ) (instruction_limit cycle_limit : U32)
    (honor_breakpoints : Bool) : NesM RunResult :=
  if instruction_limit = 0 ∨ cycle_limit = 0 then fail .invalid_argument
  else execute_loop instruction_limit cycle_limit honor_breakpoints passes RunResult.zero

/-- `core_machine_run`. -/
def core_machine_run (passes : ℕ) (instruction_limit cycle_limit : U32) : NesM RunResult :=
  core_machine_execute passes instruction_limit cycle_limit true

/-- `core_machine_debug_step`. -/
def core_machine_debug_step (passes : ℕ) (instruction_limit cycle_limit : U32) :
    NesM RunResult :=
  core_machine_execute passes instruction_limit cycle_limit false

end Nxvm.Nes
