/-
The cycles of the bus (`cpu_bus.c`, `memory_interface.c`): what the attachment does of DMA and
what the processor does of memory, ports and special cycles.

Code of the attachment runs inside the cycles and between them. It is given here as a tree of
the calls it makes back into the machine: `Program`. The processor's code is a tree of the
calls of the bus provider: `CpuProgram`. `σ` is the state of everything but the bus: the
devices, the memory and the processor.
-/
import Nxvm.Bus.Ledger
import Nxvm.Cpu.Types

set_option autoImplicit false

namespace Nxvm.Bus

open Nxvm.Machine (Status TransactionOwner)
open Nxvm.Cpu (Profile cpu_profile_has_protected_architecture)

/-! ## The machine, as the bus sees it -/

/-- `x86_core_machine_transaction_contract`, the members the arbitration reads. -/
structure BusContract where
  dma_cycle_wait_quanta : ℕ
  dma_cycle_bus_ready_gate_enabled : Bool
  cpu_cycle_bus_ready_gate_enabled : Bool
  cpu_prefetch_reservation_enabled : Bool
  refresh_cycle_source_ticks : ℕ
  deriving DecidableEq, Repr

/-- `x86_core_machine`: the bus and its scheduling. -/
structure BusMachine (σ : Type) where
  transaction : TransactionState
  transaction_contract : BusContract
  cpu_profile : Profile
  elapsed_ticks : ℕ
  dma_cycle_wait_remaining : ℕ
  refresh_cycle_ticks_remaining : ℕ
  dma_cycle_bus_ready : Bool
  cpu_cycle_bus_ready : Bool
  context : σ

/-- A call: it answers a status and leaves the machine. -/
abbrev Action (σ : Type) := BusMachine σ → Status × BusMachine σ

section Cycles

variable {σ : Type}

def BusMachine.with_transaction (m : BusMachine σ) (state : TransactionState) :
    BusMachine σ := { m with transaction := state }

@[simp] theorem BusMachine.with_transaction_transaction (m : BusMachine σ)
    (state : TransactionState) : (m.with_transaction state).transaction = state := rfl

@[simp] theorem BusMachine.with_transaction_remaining (m : BusMachine σ)
    (state : TransactionState) :
    (m.with_transaction state).refresh_cycle_ticks_remaining =
      m.refresh_cycle_ticks_remaining := rfl

def BusMachine.with_context (m : BusMachine σ) (context : σ) : BusMachine σ :=
  { m with context := context }

/-! ## The attachment -/

/-- The arguments of a DMA memory cycle, and what the query of its route answers. -/
structure DmaCycle where
  physical : ℕ
  bytes : ℕ
  channel : ℕ
  write : Bool
  routed : Status

def DmaCycle.kind (cycle : DmaCycle) : TransactionKind :=
  if cycle.write then .dma_memory_write else .dma_memory_read

/-- The cycle is on the bus: the access succeeds or the cycle is taken back, and around the
access the device has its say. -/
def dma_memory_access (before_memory memory after_memory : Action σ) : Action σ := fun m =>
  let accessed := memory (before_memory m).2
  let m := accessed.2
  if accessed.1 ≠ .ok then
    (accessed.1, m.with_transaction (transaction_cancel m.transaction))
  else
    let m := (after_memory m).2
    (.ok, m.with_transaction (transaction_commit m.transaction))

def dma_memory_cycle (cycle : DmaCycle) (before_memory memory after_memory : Action σ) :
    Action σ := fun m =>
  if cycle.bytes ≠ 1 ∧ cycle.bytes ≠ 2 then (.invalid_argument, m)
  else if cycle.routed ≠ .ok then (cycle.routed, m)
  else
    let begun := transaction_begin m.transaction .dma cycle.kind cycle.physical cycle.bytes
      cycle.channel
    if begun.1 ≠ .ok then (begun.1, m)
    else dma_memory_access before_memory memory after_memory (m.with_transaction begun.2)

/-- `x86_core_machine_set_dma_bus_ready`. -/
def set_dma_bus_ready (ready : Bool) : Action σ := fun m =>
  if !m.transaction_contract.dma_cycle_bus_ready_gate_enabled then (.invalid_argument, m)
  else (.ok, { m with dma_cycle_bus_ready := ready })

/-- `x86_core_machine_set_cpu_bus_ready`. -/
def set_cpu_bus_ready (ready : Bool) : Action σ := fun m =>
  if !m.transaction_contract.cpu_cycle_bus_ready_gate_enabled then (.invalid_argument, m)
  else (.ok, { m with cpu_cycle_bus_ready := ready })

/-- Code of the attachment. -/
inductive Program (σ : Type) : Type where
  | done (status : Status) (context : σ)
  | dma_memory_cycle (cycle : DmaCycle) (context : σ)
      (before_memory memory after_memory : σ → Program σ) (next : Status → σ → Program σ)
  | set_dma_bus_ready (ready : Bool) (context : σ) (next : Status → σ → Program σ)
  | set_cpu_bus_ready (ready : Bool) (context : σ) (next : Status → σ → Program σ)

def Program.run : Program σ → Action σ
  | .done status context => fun m => (status, m.with_context context)
  | .dma_memory_cycle cycle context before_memory memory after_memory next => fun m =>
    let called := Bus.dma_memory_cycle cycle (fun m => (before_memory m.context).run m)
      (fun m => (memory m.context).run m) (fun m => (after_memory m.context).run m)
      (m.with_context context)
    (next called.1 called.2.context).run called.2
  | .set_dma_bus_ready ready context next => fun m =>
    let called := Bus.set_dma_bus_ready ready (m.with_context context)
    (next called.1 called.2.context).run called.2
  | .set_cpu_bus_ready ready context next => fun m =>
    let called := Bus.set_cpu_bus_ready ready (m.with_context context)
    (next called.1 called.2.context).run called.2

/-- A callback of the attachment. -/
abbrev Callback (σ : Type) := σ → Program σ

def Callback.call (callback : Callback σ) : Action σ := fun m => (callback m.context).run m

/-! ## The processor -/

/-- The processor holds the bus locked. -/
def memory_locked (m : BusMachine σ) : Bool :=
  decide (m.transaction.owner = .cpu) && decide (m.transaction.kind = some .cpu_memory_lock)

/-- A cycle of the processor around `body`, unless it is part of a locked one. -/
def cpu_cycle (locked : Bool) (kind : TransactionKind) (address value detail : ℕ)
    (body : Action σ) : Action σ := fun m =>
  if locked then body m
  else
    let begun := transaction_begin m.transaction .cpu kind address value detail
    if begun.1 ≠ .ok then (begun.1, m)
    else
      let ended := body (m.with_transaction begun.2)
      let m := ended.2
      (ended.1, m.with_transaction
        (if ended.1 = .ok then transaction_commit m.transaction
         else transaction_cancel m.transaction))

/-- One after the other, if the first succeeds. -/
def and_then (first second : Action σ) : Action σ := fun m =>
  let called := first m
  if called.1 ≠ .ok then called else second called.2

/-- The second where the first is not supported. -/
def or_else (first second : Action σ) : Action σ := fun m =>
  let called := first m
  if called.1 = .unsupported then second called.2 else called

/-- `X86_CORE_CPU_MEMORY_CACHE_PWT | X86_CORE_CPU_MEMORY_CACHE_PCD`. -/
def memory_cache_mask : ℕ := 0x18

/-- The arguments of a memory access. -/
structure MemoryAccess where
  address : ℕ
  bytes : ℕ
  provenance : ℕ
  cache_control : ℕ

/-- Bits of `cache_control` that no pin carries. -/
def MemoryAccess.invalid (access : MemoryAccess) : Prop :=
  access.cache_control &&& (0xff ^^^ memory_cache_mask) ≠ 0

instance (access : MemoryAccess) : Decidable access.invalid :=
  inferInstanceAs (Decidable (_ ≠ _))

def MemoryAccess.detail (access : MemoryAccess) : ℕ :=
  access.provenance ||| (access.cache_control <<< 8)

/-- `read` is the reset, instruction or data read; where it is not supported the data read
follows. -/
def cpu_bus_read_memory (access : MemoryAccess) (observe_only : Bool)
    (memory_inspect_physical memory_cache_control read memory_read_physical : Callback σ) :
    Action σ := fun m =>
  if access.invalid then (.invalid_argument, m)
  else if observe_only then memory_inspect_physical.call m
  else
    cpu_cycle (memory_locked m) .cpu_memory_read access.address access.bytes access.detail
      (and_then memory_cache_control.call (or_else read.call memory_read_physical.call)) m

/-- A write inside a locked cycle shows its range in the transaction. -/
def locked_write (access : MemoryAccess) (write : Action σ) : Action σ := fun m =>
  let lock_address := m.transaction.address
  let written := write (m.with_transaction
    { m.transaction with address := access.address, value := access.bytes })
  (written.1, written.2.with_transaction
    { written.2.transaction with address := lock_address, value := 0 })

def cpu_bus_write_memory (access : MemoryAccess)
    (memory_cache_control memory_write_physical : Callback σ) : Action σ := fun m =>
  if access.invalid then (.invalid_argument, m)
  else
    let locked := memory_locked m
    cpu_cycle locked .cpu_memory_write access.address access.bytes access.detail
      (and_then memory_cache_control.call
        (if locked then locked_write access memory_write_physical.call
         else memory_write_physical.call)) m

/-- The arguments of a port transfer. -/
structure PortAccess where
  port : ℕ
  bytes : ℕ
  write : Bool
  value : ℕ

/-- What is read is put into the transaction of an own cycle. -/
def PortAccess.latch (access : PortAccess) (locked : Bool) (read_value : σ → ℕ)
    (m : BusMachine σ) : BusMachine σ :=
  if !access.write && !locked then
    m.with_transaction (transaction_set_value m.transaction (read_value m.context))
  else m

def PortAccess.begin (access : PortAccess) (state : TransactionState) :
    Status × TransactionState :=
  transaction_begin state .cpu (if access.write then .cpu_port_write else .cpu_port_read)
    access.port (if access.write then access.value else access.bytes)
    (if access.write then access.bytes else 0)

/-- The transfer inside a cycle. It leaves the cycle open where it succeeds. -/
def port_execute (access : PortAccess) (locked : Bool) (execute : Callback σ)
    (read_value : σ → ℕ) : Action σ := fun m =>
  let executed := execute.call m
  let m := executed.2
  if executed.1 ≠ .ok then
    (executed.1, if locked then m else m.with_transaction (transaction_cancel m.transaction))
  else (.ok, access.latch locked read_value m)

/-- `execute` is the port's provider, `read_value` the data register of the ports. -/
def cpu_bus_transfer_port (access : PortAccess) (execute : Callback σ) (read_value : σ → ℕ) :
    Action σ := fun m =>
  if access.write ∧ access.bytes ≠ 1 ∧ access.bytes ≠ 2 ∧ access.bytes ≠ 4 then
    (.invalid_argument, m)
  else if memory_locked m then port_execute access true execute read_value m
  else
    let begun := access.begin m.transaction
    if begun.1 ≠ .ok then (begun.1, m)
    else port_execute access false execute read_value (m.with_transaction begun.2)

def cpu_bus_complete_port (m : BusMachine σ) : BusMachine σ :=
  if m.transaction.kind ≠ some .cpu_memory_lock then
    m.with_transaction (transaction_commit m.transaction)
  else m

/-- The transfer and its completion, as `_p_input` and `_p_output` make them. -/
def cpu_port_access (access : PortAccess) (execute : Callback σ) (read_value : σ → ℕ) :
    Action σ := fun m =>
  let transferred := cpu_bus_transfer_port access execute read_value m
  if transferred.1 ≠ .ok then transferred else (.ok, cpu_bus_complete_port transferred.2)

/-- `vector` is what the acknowledgement answers. -/
def cpu_bus_acknowledge_interrupt (interrupt_acknowledge : Callback σ) (vector : σ → ℕ) :
    Action σ := fun m =>
  let begun := transaction_begin m.transaction .cpu .cpu_interrupt_acknowledge 0 0 0
  if begun.1 ≠ .ok then (begun.1, m)
  else
    let m := (interrupt_acknowledge.call (m.with_transaction begun.2)).2
    (.ok, m.with_transaction
      (transaction_commit (transaction_set_value m.transaction (vector m.context))))

def cpu_bus_extension_command (opcode modrm profile : ℕ) : Action σ := fun m =>
  let begun := transaction_begin m.transaction .cpu .cpu_fpu_command opcode modrm profile
  if begun.1 = .ok then (.ok, m.with_transaction (transaction_commit begun.2)) else (.ok, m)

/-- `operation` is the code of the cache operation: writeback 0, flush 1. -/
def cpu_bus_cache_operation (operation : ℕ) (cache_operation : Callback σ) : Action σ := fun m =>
  if operation ≠ 0 ∧ operation ≠ 1 then (.invalid_argument, m)
  else cpu_cycle false .cpu_cache_operation 0 operation 0 cache_operation.call m

def cpu_bus_begin_memory_lock : Action σ := fun m =>
  let begun := transaction_begin m.transaction .cpu .cpu_memory_lock 0 0 0
  (begun.1, m.with_transaction begun.2)

def cpu_bus_complete_memory_lock (commit : Bool) (m : BusMachine σ) : BusMachine σ :=
  if !memory_locked m then m
  else
    m.with_transaction
      (if commit then transaction_commit m.transaction else transaction_cancel m.transaction)

/-- `x86_core_cpu_special_cycle`. -/
inductive SpecialCycle where
  | none
  | halt
  | shutdown
  | stop_grant
  deriving DecidableEq, Repr

def SpecialCycle.code : SpecialCycle → ℕ
  | .none => 0
  | .halt => 1
  | .shutdown => 2
  | .stop_grant => 3

def SpecialCycle.begin (cycle : SpecialCycle) (state : TransactionState) :
    Status × TransactionState :=
  transaction_begin state .cpu .cpu_special_cycle (if cycle = .stop_grant then 0x10 else 0)
    cycle.code (if cycle = .shutdown then 0x0e else 0x0b)

/-- The special cycle on the bus is this one. -/
def special_cycle_held (m : BusMachine σ) (cycle : SpecialCycle) : Prop :=
  m.transaction.owner = .cpu ∧ m.transaction.kind = some .cpu_special_cycle ∧
    m.transaction.value = cycle.code

instance (m : BusMachine σ) (cycle : SpecialCycle) : Decidable (special_cycle_held m cycle) :=
  inferInstanceAs (Decidable (_ ∧ _ ∧ _))

/-- The special cycle is on the bus: the attachment is asked, and the cycle ends when both
are ready. -/
def special_cycle_poll (special_cycle : Callback σ) (ready : σ → Bool)
    (complete_special_cycle : Callback σ) (m : BusMachine σ) :
    Status × Bool × BusMachine σ :=
  let polled := special_cycle.call m
  let m := polled.2
  if polled.1 ≠ .ok then (polled.1, false, m)
  else if !ready m.context ∨ (m.transaction_contract.cpu_cycle_bus_ready_gate_enabled ∧
      !m.cpu_cycle_bus_ready) then (.ok, false, m)
  else
    let m := (complete_special_cycle.call m).2
    (.ok, true, m.with_transaction (transaction_commit m.transaction))

/-- The answer says besides whether the cycle was acknowledged. -/
def cpu_bus_special_cycle (cycle : SpecialCycle) (special_cycle : Callback σ)
    (ready : σ → Bool) (complete_special_cycle : Callback σ) (m : BusMachine σ) :
    Status × Bool × BusMachine σ :=
  if cycle = .none then (.invalid_argument, false, m)
  else if m.transaction.owner = .none then
    if m.transaction.hold_owner ≠ .none then (.ok, false, m)
    else
      let begun := cycle.begin m.transaction
      if begun.1 ≠ .ok then (begun.1, false, m)
      else special_cycle_poll special_cycle ready complete_special_cycle
        (m.with_transaction begun.2)
  else if ¬ special_cycle_held m cycle then (.invalid_state, false, m)
  else special_cycle_poll special_cycle ready complete_special_cycle m

def cpu_bus_cancel_special_cycle (cycle : SpecialCycle) (complete_special_cycle : Callback σ)
    (m : BusMachine σ) : BusMachine σ :=
  if ¬ special_cycle_held m cycle then m
  else
    let m := (complete_special_cycle.call m).2
    m.with_transaction (transaction_cancel m.transaction)

/-- `x86_core_machine_cpu_bus`, the operations with a transaction. -/
inductive CpuCall (σ : Type) : Type where
  | read_memory (access : MemoryAccess) (observe_only : Bool)
      (memory_inspect_physical memory_cache_control read memory_read_physical : Callback σ)
  | write_memory (access : MemoryAccess)
      (memory_cache_control memory_write_physical : Callback σ)
  | port_access (access : PortAccess) (execute : Callback σ) (read_value : σ → ℕ)
  | acknowledge_interrupt (interrupt_acknowledge : Callback σ) (vector : σ → ℕ)
  | extension_command (opcode modrm profile : ℕ)
  | cache_operation (operation : ℕ) (cache_operation : Callback σ)
  | begin_memory_lock
  | complete_memory_lock (commit : Bool)
  | special_cycle (cycle : SpecialCycle) (special_cycle : Callback σ) (ready : σ → Bool)
      (complete_special_cycle : Callback σ)
  | cancel_special_cycle (cycle : SpecialCycle) (complete_special_cycle : Callback σ)

def CpuCall.run : CpuCall σ → BusMachine σ → Status × Bool × BusMachine σ
  | .read_memory access observe_only inspect pins read retry, m =>
    let called := cpu_bus_read_memory access observe_only inspect pins read retry m
    (called.1, false, called.2)
  | .write_memory access pins write, m =>
    let called := cpu_bus_write_memory access pins write m
    (called.1, false, called.2)
  | .port_access access execute read_value, m =>
    let called := cpu_port_access access execute read_value m
    (called.1, false, called.2)
  | .acknowledge_interrupt acknowledge vector, m =>
    let called := cpu_bus_acknowledge_interrupt acknowledge vector m
    (called.1, false, called.2)
  | .extension_command opcode modrm profile, m =>
    let called := cpu_bus_extension_command opcode modrm profile m
    (called.1, false, called.2)
  | .cache_operation operation callback, m =>
    let called := cpu_bus_cache_operation operation callback m
    (called.1, false, called.2)
  | .begin_memory_lock, m =>
    let called := cpu_bus_begin_memory_lock m
    (called.1, false, called.2)
  | .complete_memory_lock commit, m => (.ok, false, cpu_bus_complete_memory_lock commit m)
  | .special_cycle cycle poll ready complete, m =>
    cpu_bus_special_cycle cycle poll ready complete m
  | .cancel_special_cycle cycle complete, m =>
    (.ok, false, cpu_bus_cancel_special_cycle cycle complete m)

/-- Code of the processor: calls of the bus, each chosen by what the ones before answered. -/
inductive CpuProgram (σ : Type) : Type where
  | done (context : σ)
  | call (bus_call : CpuCall σ) (context : σ) (next : Status → Bool → σ → CpuProgram σ)

def CpuProgram.run : CpuProgram σ → BusMachine σ → BusMachine σ
  | .done context, m => m.with_context context
  | .call bus_call context next, m =>
    let called := bus_call.run (m.with_context context)
    (next called.1 called.2.1 called.2.2.context).run called.2.2

end Cycles

end Nxvm.Bus
