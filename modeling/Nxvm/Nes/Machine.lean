/-
The console: its state, its bus, its reset and what the host may do to it between
runs (`machine.h`, `machine.c`, `bus.c`, `controller.c`).

Every bus transfer is one slot: three dots of the picture unit and one cycle of
the audio unit. A computation over the console stops short with a status, which
its caller may handle, or because an access left its array, which nobody handles.
-/
import Nxvm.Nes.Apu
import Nxvm.Nes.Ppu

set_option autoImplicit false

namespace Nxvm.Nes

open Nxvm.Lib Nxvm.Lib.Exec
open Nxvm.Machine (Status)

/-! ## State -/

/-- `core_controller`. -/
structure Controller where
  live : U8
  held : U8
  transient : U8
  captured : U8
  index : U8
  strobe : Bool
  deriving DecidableEq

/-- `core_bus_transfer_kind`. -/
inductive TransferKind where
  | read
  | write
  deriving DecidableEq, Repr

/-- `core_bus_transfer`. -/
structure BusTransfer where
  address : U16
  value : U8
  kind : TransferKind
  deriving DecidableEq

/-- `core_machine_stop_reason`. -/
inductive StopReason where
  | budget
  | breakpoint
  | unsupported_opcode
  | unsupported_device
  | bus_failure
  deriving DecidableEq, Repr

/-- `core_observation`. -/
structure Observation where
  a : U8
  x : U8
  y : U8
  s : U8
  p : U8
  pc : U16
  cycles : U64
  instructions : U64
  cartridge_present : Bool
  trap_valid : Bool
  trap_reason : StopReason
  trap_pc : U16
  trap_address : U16
  trap_opcode : U8

/-- `core_machine`, over the type `γ` of what its cartridge pointer stands for. -/
structure CoreMachine (γ : Type) where
  cartridge : γ
  apu : Apu
  ppu : Ppu
  controller : Controller
  ram : Table 2048 U8
  a : U8
  x : U8
  y : U8
  s : U8
  p : U8
  pc : U16
  data_latch : U8
  initial_ram_byte : U8
  irq_asserted : Bool
  external_irq_asserted : Bool
  cartridge_irq_asserted : Bool
  apu_irq_asserted : Bool
  external_nmi_asserted : Bool
  ppu_nmi_asserted : Bool
  irq_poll_i : Bool
  nmi_asserted : Bool
  nmi_pending : Bool
  nmi_defer_once : Bool
  interrupt_phase : U8
  dma_page : U8
  dma_pending : Bool
  dma_active : Bool
  dma_alignment_pending : Bool
  dma_phase : U8
  dma_index : U16
  dma_latch : U8
  dmc_dma_address : U16
  dmc_dma_phase : U8
  dmc_dma_latch : U8
  dmc_dma_active : Bool
  cycles : U64
  slots : U64
  instructions : U64
  trap : Observation
  trace : Table 16 BusTransfer
  trace_count : U32
  breakpoints : Table 16 U16
  breakpoint_count : U16
  breakpoint_bypass_pc : U16
  breakpoint_bypass_valid : Bool

/-- The machine with its cartridge. -/
abbrev Console := CoreMachine (Cartridge Bytes)

/-- A computation over the console. -/
abbrev NesM := EStateM Stop Console

/-- An observation of nothing. -/
def Observation.zero : Observation where
  a := 0
  x := 0
  y := 0
  s := 0
  p := 0
  pc := 0
  cycles := 0
  instructions := 0
  cartridge_present := false
  trap_valid := false
  trap_reason := .budget
  trap_pc := 0
  trap_address := 0
  trap_opcode := 0

/-- A failing status. -/
def fail {α : Type} (status : Status) : NesM α := throw (.status status)

/-- A computation of the picture unit, on the console's unit and cartridge. -/
def on_video {α : Type} (x : PpuM α) : NesM α := fun m =>
  match x ⟨m.ppu, m.cartridge⟩ with
  | .ok a v => .ok a { m with ppu := v.ppu, cartridge := v.cartridge }
  | .error _ v => .error .out_of_bounds { m with ppu := v.ppu, cartridge := v.cartridge }

/-! ## The controller -/

/-- `core_controller_reset`. -/
def core_controller_reset : Controller where
  live := 0
  held := 0
  transient := 0
  captured := 0
  index := 0
  strobe := false

/-- `core_controller_set_buttons`. -/
def core_controller_set_buttons (c : Controller) (buttons : U8) : Controller :=
  { c with held := buttons, live := buttons ||| c.transient }

/-- `core_controller_tap_buttons`. -/
def core_controller_tap_buttons (c : Controller) (buttons : U8) : Controller :=
  { c with transient := c.transient ||| buttons, live := c.held ||| (c.transient ||| buttons) }

/-- `core_controller_clear_transient_buttons`. -/
def core_controller_clear_transient_buttons (c : Controller) : Controller :=
  { c with transient := 0, live := c.held }

/-- `core_controller_write_strobe`. -/
def core_controller_write_strobe (c : Controller) (value : U8) : Controller :=
  let strobe := value &&& 1 != 0
  let c :=
    if c.strobe ∧ !strobe then
      core_controller_clear_transient_buttons { c with captured := c.live, index := 0 }
    else c
  { c with strobe := strobe }

/-- `core_controller_read`. -/
def core_controller_read (c : Controller) : U8 × Controller :=
  if c.strobe then (c.live &&& 1, c)
  else if c.index.toNat < 8 then
    ((c.captured >>> c.index.toNat) &&& 1, { c with index := c.index + 1 })
  else (1, c)

/-! ## Interrupt lines -/

section Lines

/-- `core_machine_set_nmi_line`. -/
def core_machine_set_nmi_line (m : Console) (asserted : Bool) : Console :=
  let rising := asserted && !m.nmi_asserted
  let falling := !asserted && m.nmi_asserted && m.interrupt_phase == 2
  { m with
    nmi_pending := if rising then true else if falling then false else m.nmi_pending
    nmi_defer_once :=
      if rising && m.interrupt_phase == 2 then true
      else if falling then false
      else m.nmi_defer_once
    nmi_asserted := asserted }

/-- `core_machine_set_interrupt_lines`. -/
def core_machine_set_interrupt_lines (m : Console) (irq_asserted nmi_asserted : Bool) :
    Console :=
  core_machine_set_nmi_line
    { m with
      external_irq_asserted := irq_asserted
      irq_asserted := irq_asserted || m.cartridge_irq_asserted || m.apu_irq_asserted
      external_nmi_asserted := nmi_asserted }
    (nmi_asserted || m.ppu_nmi_asserted)

/-- `core_machine_refresh_cartridge_irq`. -/
def core_machine_refresh_cartridge_irq (m : Console) : Console :=
  { m with
    cartridge_irq_asserted := m.cartridge.mmc3_irq_asserted
    irq_asserted :=
      m.external_irq_asserted || m.cartridge.mmc3_irq_asserted || m.apu_irq_asserted }

/-- `core_machine_refresh_apu_irq`. -/
def core_machine_refresh_apu_irq (m : Console) : Console :=
  { m with
    apu_irq_asserted := core_apu_irq_asserted m.apu
    irq_asserted :=
      m.external_irq_asserted || m.cartridge_irq_asserted || core_apu_irq_asserted m.apu }

/-- `core_machine_set_ppu_nmi_line`. -/
def core_machine_set_ppu_nmi_line (m : Console) (asserted : Bool) : Console :=
  core_machine_set_nmi_line { m with ppu_nmi_asserted := asserted }
    (asserted || m.external_nmi_asserted)

end Lines

/-! ## The bus -/

/-- `core_bus_trace`. -/
def core_bus_trace (address : U16) (value : U8) (kind : TransferKind) : NesM Unit := do
  let m ← get
  if 16 ≤ m.trace_count.toNat then pure ()
  else
    let trace ← of_option .out_of_bounds (m.trace.write m.trace_count.toNat
      { address := address, value := value, kind := kind })
    update fun m => { m with trace := trace, trace_count := m.trace_count + 1 }

/-- `core_bus_trace_reset`. -/
def core_bus_trace_reset : NesM Unit := update fun m => { m with trace_count := 0 }

/-- `core_bus_slot`. -/
def core_bus_slot : NesM Unit := do
  update fun m => { m with slots := m.slots + 1 }
  on_video core_ppu_tick
  on_video core_ppu_tick
  on_video core_ppu_tick
  update fun m => { m with apu := core_apu_tick m.apu }
  update fun m => core_machine_set_ppu_nmi_line m m.ppu.nmi_line
  update core_machine_refresh_cartridge_irq
  update core_machine_refresh_apu_irq

/-- The end of every transfer that was answered. -/
def bus_read_done (address : U16) (value : U8) : NesM U8 := do
  update fun m => { m with data_latch := value }
  core_bus_trace address value .read
  pure value

/-- A read of the cartridge. -/
def cartridge_read (address : U16) : NesM U8 := do
  let m ← get
  of_option .out_of_bounds (core_cartridge_cpu_read m.cartridge address)

/-- The device behind an address answers. -/
def device_read (address : U16) : NesM U8 := do
  let m ← get
  let a := address.toNat
  if a < 0x2000 then of_option .out_of_bounds (m.ram.read (address &&& 0x07ff).toNat)
  else if a < 0x4000 then on_video (core_ppu_cpu_read ((address &&& 7).truncate 8))
  else if a = 0x4015 then
    update fun m => { m with apu := (core_apu_cpu_read m.apu).2 }
    pure (core_apu_cpu_read m.apu).1
  else if a = 0x4016 then
    update fun m => { m with controller := (core_controller_read m.controller).2 }
    pure ((m.data_latch &&& 0xe0) ||| (core_controller_read m.controller).1)
  else if a = 0x4017 then pure (m.data_latch &&& 0xe0)
  else if 0x4000 ≤ a ∧ a ≤ 0x4014 then pure m.data_latch
  else if 0x6000 ≤ a ∧ a < 0x8000 ∧ m.cartridge.mapper = 4 then cartridge_read address
  else if 0x4020 ≤ a ∧ a < 0x8000 then pure m.data_latch
  else if 0x8000 ≤ a then cartridge_read address
  else fail .unsupported

/-- A status read on the dot before vertical blanking is sampled before the slot's dots. -/
def status_read_early (m : Console) (address : U16) : Bool :=
  decide (0x2000 ≤ address.toNat ∧ address.toNat < 0x4000 ∧ address &&& 7 = 2 ∧
    m.ppu.scanline = 241 ∧ m.ppu.dot = 0)

/-- `core_bus_read`. -/
def core_bus_read (address : U16) : NesM U8 := do
  let m ← get
  if status_read_early m address then
    let value ← on_video (core_ppu_cpu_read 2)
    core_bus_slot
    bus_read_done address value
  else
    core_bus_slot
    let value ← device_read address
    bus_read_done address value

/-- A write to the cartridge: whether it is the cartridge's address. -/
def cartridge_write (address : U16) (value : U8) : NesM Bool := do
  let m ← get
  let r ← of_option .out_of_bounds (core_cartridge_cpu_write m.cartridge address value)
  update fun m => { m with cartridge := r.2 }
  pure r.1

/-- A write to a register of the audio unit. -/
def apu_write (address : U16) (value : U8) : NesM Unit := do
  update fun m =>
    { m with apu := core_apu_cpu_write m.apu ((address - 0x4000).truncate 8) value }
  update core_machine_refresh_apu_irq

/-- The device behind an address takes a byte. -/
def device_write (address : U16) (value : U8) : NesM Unit := do
  let m ← get
  let a := address.toNat
  if a < 0x2000 then
    let ram ← of_option .out_of_bounds (m.ram.write (address &&& 0x07ff).toNat value)
    update fun m => { m with ram := ram }
  else if a < 0x4000 then
    on_video (core_ppu_cpu_write ((address &&& 7).truncate 8) value)
    update fun m => core_machine_set_ppu_nmi_line m m.ppu.nmi_line
  else if a = 0x4016 then
    update fun m => { m with controller := core_controller_write_strobe m.controller value }
  else if 0x4000 ≤ a ∧ a ≤ 0x4013 then apu_write address value
  else if a = 0x4015 ∨ a = 0x4017 then apu_write address value
  else if a = 0x4014 then update fun m => { m with dma_page := value, dma_pending := true }
  else if 0x8000 ≤ a then
    let taken ← cartridge_write address value
    if !taken then fail .invalid_state
    else update core_machine_refresh_cartridge_irq
  else if 0x6000 ≤ a ∧ a < 0x8000 ∧ m.cartridge.mapper = 4 then
    let _ ← cartridge_write address value
    pure ()
  else if 0x4020 ≤ a then pure ()
  else fail .unsupported

/-- `core_bus_write`. -/
def core_bus_write (address : U16) (value : U8) : NesM Unit := do
  core_bus_slot
  update fun m => { m with data_latch := value }
  core_bus_trace address value .write
  device_write address value

/-! ## Reset and creation -/

/-- The state `core_machine_reset` sets up before its bus sequence. -/
def reset_state (kind : ResetKind) (m : Console) : Console :=
  let m : Console :=
    match kind with
    | .power =>
      { m with
        ram := Table.fill m.initial_ram_byte
        a := 0
        x := 0
        y := 0
        s := 0
        p := 0x24
        data_latch := 0
        pc := 0
        cycles := 0
        instructions := 0 }
    | .warm => { m with p := (m.p ||| 0x24) &&& ~~~0x10#8 }
  { m with
    ppu := core_ppu_reset m.ppu kind
    apu := core_apu_reset
    controller := core_controller_reset
    irq_asserted := false
    external_irq_asserted := false
    cartridge_irq_asserted := false
    apu_irq_asserted := false
    external_nmi_asserted := false
    ppu_nmi_asserted := false
    irq_poll_i := true
    nmi_asserted := false
    nmi_pending := false
    nmi_defer_once := false
    interrupt_phase := 0
    dma_pending := false
    dma_active := false
    dma_alignment_pending := false
    dma_phase := 0
    dma_index := 0
    dma_latch := 0
    dmc_dma_address := 0
    dmc_dma_phase := 0
    dmc_dma_latch := 0
    dmc_dma_active := false
    breakpoint_bypass_valid := false
    trap := Observation.zero
    trace_count := 0 }

/-- One of the read-only stack cycles of the reset sequence. -/
def reset_stack_cycle : NesM Unit := do
  let m ← get
  let _ ← core_bus_read (0x0100 ||| m.s.zeroExtend 16)
  update fun m => { m with s := m.s - 1 }

/-- The word two bytes read one after the other make. -/
def word_of (low high : U8) : U16 := low.zeroExtend 16 ||| (high.zeroExtend 16 <<< 8)

/-- The reset bus sequence: two discarded program reads, three read-only stack cycles and
the vector. -/
def reset_sequence : NesM Unit := do
  let m ← get
  let _ ← core_bus_read m.pc
  let _ ← core_bus_read m.pc
  reset_stack_cycle
  reset_stack_cycle
  reset_stack_cycle
  let low ← core_bus_read 0xfffc
  let high ← core_bus_read 0xfffd
  update fun m => { m with pc := word_of low high }

/-- `core_machine_reset`. -/
def core_machine_reset (kind : ResetKind) : NesM Unit := do
  update (reset_state kind)
  reset_sequence
  update fun m => { m with cycles := if kind = .power then 7 else m.cycles + 7 }

/-- The machine as it is allocated, with its cartridge. -/
def Console.zero (cartridge : Cartridge Bytes) (initial_ram_byte : U8) : Console where
  cartridge := cartridge
  apu := { core_apu_reset with noise_shift := 0, dmc_sample_empty := false }
  ppu := Ppu.zero
  controller := core_controller_reset
  ram := Table.fill 0
  a := 0
  x := 0
  y := 0
  s := 0
  p := 0
  pc := 0
  data_latch := 0
  initial_ram_byte := initial_ram_byte
  irq_asserted := false
  external_irq_asserted := false
  cartridge_irq_asserted := false
  apu_irq_asserted := false
  external_nmi_asserted := false
  ppu_nmi_asserted := false
  irq_poll_i := false
  nmi_asserted := false
  nmi_pending := false
  nmi_defer_once := false
  interrupt_phase := 0
  dma_page := 0
  dma_pending := false
  dma_active := false
  dma_alignment_pending := false
  dma_phase := 0
  dma_index := 0
  dma_latch := 0
  dmc_dma_address := 0
  dmc_dma_phase := 0
  dmc_dma_latch := 0
  dmc_dma_active := false
  cycles := 0
  slots := 0
  instructions := 0
  trap := Observation.zero
  trace := Table.fill { address := 0, value := 0, kind := .read }
  trace_count := 0
  breakpoints := Table.fill 0
  breakpoint_count := 0
  breakpoint_bypass_pc := 0
  breakpoint_bypass_valid := false

/-- `core_machine_create`. -/
def core_machine_create (image : Bytes) (initial_ram_byte : U8) : Except Stop Console :=
  match core_cartridge_create image with
  | .error e => .error e
  | .ok cartridge =>
    match core_machine_reset .power (Console.zero cartridge initial_ram_byte) with
    | .ok _ m => .ok m
    | .error e _ => .error e

/-! ## The host between runs -/

/-- `core_machine_set_buttons`. -/
def core_machine_set_buttons (m : Console) (buttons : U8) : Console :=
  { m with controller := core_controller_set_buttons m.controller buttons }

/-- `core_machine_tap_buttons`. -/
def core_machine_tap_buttons (m : Console) (buttons : U8) : Console :=
  { m with controller := core_controller_tap_buttons m.controller buttons }

/-- `core_machine_clear_transient_buttons`. -/
def core_machine_clear_transient_buttons (m : Console) : Console :=
  { m with controller := core_controller_clear_transient_buttons m.controller }

/-- `core_machine_take_audio`: the samples, and the machine without them. -/
def core_machine_take_audio (m : Console) (capacity : ℕ) : List U32 × Console :=
  let r := core_apu_take_samples capacity m.apu
  (r.1, { m with apu := r.2 })

/-- The bytes of a poke, one after the other. -/
def poke_bytes (address : U16) : List U8 → Table 2048 U8 → Table 2048 U8
  | [], ram => ram
  | byte :: rest, ram =>
    poke_bytes (address + 1) rest fun i =>
      if i.val = (address &&& 0x07ff).toNat then byte else ram i

/-- `core_machine_poke`. -/
def core_machine_poke (m : Console) (address : U16) (bytes : Bytes) : Except Status Console :=
  if bytes.length = 0 ∨ 64 < bytes.length ∨ 0x2000 < address.toNat + bytes.length then
    .error .invalid_argument
  else .ok { m with ram := poke_bytes address bytes m.ram }

/-- Where a breakpoint is, if it is set. -/
def breakpoint_find (m : Console) (address : U16) : Option (Fin 16) :=
  (List.finRange 16).find? fun i =>
    decide (i.val < m.breakpoint_count.toNat) && m.breakpoints i == address

/-- Where a breakpoint goes: behind the last of the first `n` that is not above it. -/
def breakpoint_position (breakpoints : Table 16 U16) (address : U16) : ℕ → ℕ
  | 0 => 0
  | n + 1 =>
    if (breakpoints.read n).any fun b => decide (address.toNat < b.toNat) then
      breakpoint_position breakpoints address n
    else n + 1

/-- `core_machine_breakpoint_set`. -/
def core_machine_breakpoint_set (m : Console) (address : U16) (enabled : Bool) :
    Except Status Console :=
  match breakpoint_find m address with
  | some index =>
    if enabled then .ok m
    else .ok { m with
      breakpoints := fun j =>
        if index ≤ j ∧ j.val + 1 < m.breakpoint_count.toNat then
          (m.breakpoints.read (j.val + 1)).getD (m.breakpoints j)
        else m.breakpoints j
      breakpoint_count := m.breakpoint_count - 1 }
  | none =>
    if !enabled then .ok m
    else if 16 ≤ m.breakpoint_count.toNat then .error .limit_exceeded
    else
      let position := breakpoint_position m.breakpoints address m.breakpoint_count.toNat
      .ok { m with
        breakpoints := fun j =>
          if j.val = position then address
          else if position < j.val ∧ j.val ≤ m.breakpoint_count.toNat then
            (m.breakpoints.read (j.val - 1)).getD (m.breakpoints j)
          else m.breakpoints j
        breakpoint_count := m.breakpoint_count + 1 }

/-- `core_machine_battery`, the members a restore reads. -/
structure Battery where
  mapper : U8
  identity : U64
  byte_count : ℕ
  bytes : Table 8192 U8

/-- `core_machine_battery_restore`. -/
def core_machine_battery_restore (m : Console) (battery : Battery) : Except Status Console :=
  if battery.byte_count = 0 ∨
      battery.byte_count ≠ core_cartridge_battery_ram_byte_count m.cartridge ∨
      battery.mapper ≠ m.cartridge.mapper ∨
      battery.identity ≠ core_cartridge_battery_identity m.cartridge then
    .error .invalid_argument
  else .ok { m with
    cartridge := { m.cartridge with
      prg_ram := some (List.ofFn battery.bytes)
      prg_ram_dirty := false } }

/-- `core_machine_battery_mark_clean`. -/
def core_machine_battery_mark_clean (m : Console) : Console :=
  { m with cartridge := { m.cartridge with prg_ram_dirty := false } }

end Nxvm.Nes
