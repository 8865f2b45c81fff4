/-
The DMA controller (`dma.h`, `dma.c`).

One chip: the programmed addresses, counts and modes of its four channels, its command,
request and mask registers, and the service of at most one channel, clock by clock. What
a cycle does on the bus is the board's, and so is the wiring of two chips.

The channel in service is an `Option`, where the source packs it into `isr` with a flag,
and a channel is a number below four, so that the answer 4 of a selection is `none`.
-/
import Nxvm.Chips.Words
import Nxvm.Lib.Register
import Nxvm.Lib.Table
import Nxvm.Machine.Status

set_option autoImplicit false

namespace Nxvm.Chips

open Nxvm.Lib Nxvm.Lib.Register Nxvm.Machine

/-! ## The chip -/

/-- `VDMA_PHASE_IDLE` to `VDMA_PHASE_S24`. -/
inductive DmaPhase where
  | idle
  | s1
  | s2
  | s3
  | s4
  | s11
  | s12
  | s13
  | s14
  | s21
  | s22
  | s23
  | s24
  deriving DecidableEq, Repr

/-- `x86_dma_data`. -/
structure Dma where
  baseAddr : Table 4 U16
  baseCount : Table 4 U16
  currAddr : Table 4 U16
  currCount : Table 4 U16
  mode : Table 4 U8
  command : U8
  status : U8
  mask : U8
  request : U8
  acknowledged : U8
  temp : U8
  drx : Fin 4
  flagMSB : Bool
  flagEOP : Bool
  flagM2MWrite : Bool
  phase : DmaPhase
  isr : Option (Fin 4)
  deriving DecidableEq

/-- `x86_dma_signals`. -/
structure DmaSignals where
  requests : U8
  active_channel : Option (Fin 4)
  enabled : Bool
  deriving DecidableEq, Repr

/-- `x86_dma_cycle`. -/
inductive DmaCycle where
  | verify
  | device_to_memory
  | memory_to_device
  | memory_read
  | memory_write
  deriving DecidableEq, Repr

def command_m2m : U8 := 0x01
def command_c0ad : U8 := 0x02
def command_ctrl : U8 := 0x04
def command_tm : U8 := 0x08
def command_r : U8 := 0x10
def mode_ai : U8 := 0x10
def mode_aids : U8 := 0x20
def dma_mask_valid : U8 := 0x0f

/-- `VDMA_REQUEST_DRQ`, `VDMA_MASK_DRQ` and `VDMA_STATUS_TC`. -/
def drq (channel : Fin 4) : U8 := BitVec.twoPow 8 channel.val

/-- `VDMA_STATUS_DRQ`. -/
def status_drq (channel : Fin 4) : U8 := BitVec.twoPow 8 (channel.val + 4)

/-- `DMA_BIT_MAKE`. -/
def bit_make (destination source : U8) (enabled : Bool) : U8 :=
  if enabled then destination ||| source else destination &&& ~~~source

/-- The channel in the low two bits of a value. -/
def channel_select (value : U8) : Fin 4 := ⟨value.toNat % 4, Nat.mod_lt _ (by decide)⟩

/-- `x86_dma_reset`. The programmed addresses, counts and modes stay. -/
def dma_reset (dma : Dma) : Dma :=
  { dma with
    command := 0, status := 0, mask := dma_mask_valid, request := 0, acknowledged := 0, temp := 0
    drx := 0, flagMSB := false, flagEOP := false, flagM2MWrite := false, phase := .idle
    isr := none }

/-- `x86_dma_create`, where there is memory. -/
def dma_create : Dma :=
  { baseAddr := Table.fill 0, baseCount := Table.fill 0, currAddr := Table.fill 0
    currCount := Table.fill 0, mode := Table.fill 0
    command := 0, status := 0, mask := dma_mask_valid, request := 0, acknowledged := 0, temp := 0
    drx := 0, flagMSB := false, flagEOP := false, flagM2MWrite := false, phase := .idle
    isr := none }

/-! ## Grants -/

/-- `x86_dma_grant`. -/
def dma_grant (dma : Dma) (channel : Fin 4) (cascade : Bool) : Dma :=
  { dma with
    isr := some channel
    acknowledged := dma.acknowledged ||| drq channel
    phase := if channel = 0 ∧ is_set dma.command command_m2m then .s11 else .s1
    drx := if cascade && is_set dma.command command_r then channel + 1 else dma.drx }

/-- `x86_dma_release`. -/
def dma_release (dma : Dma) : Dma :=
  { dma with
    acknowledged := match dma.isr with
      | some channel => dma.acknowledged &&& ~~~drq channel
      | none => dma.acknowledged
    flagM2MWrite := false
    phase := .idle
    isr := none }

/-! ## Requests -/

/-- `dma_software_request_is_valid`. -/
def dma_software_request_is_valid (dma : Dma) (channel : Fin 4) : Bool :=
  is_set dma.request (drq channel) &&
    (decide ((dma.mode channel &&& 0xc0) >>> 6 = 2) ||
      (decide (channel = 0) && is_set dma.command command_m2m))

/-- `dma_pending_requests`. -/
def dma_pending_requests (dma : Dma) : U8 :=
  let pending := ((dma.status &&& 0xf0) >>> 4) &&& ~~~dma.mask
  if dma.request = 0 then pending
  else
    (List.finRange 4).foldl
      (fun pending channel =>
        if dma_software_request_is_valid dma channel then pending ||| drq channel else pending)
      pending

/-- `x86_dma_get_signals`. -/
def dma_get_signals (dma : Dma) : DmaSignals :=
  { enabled := !is_set dma.command command_ctrl
    requests := dma_pending_requests dma
    active_channel := dma.isr }

/-- `x86_dma_select`, with the search of `GetRegTopId`: the first requested channel from
`drx` on. -/
def dma_select (dma : Dma) (requests : U8) : Option (Fin 4) :=
  let requests := requests &&& dma_mask_valid
  if requests = 0 then none
  else
    let turned := (requests <<< (4 - dma.drx.val)) ||| (requests >>> dma.drx.val)
    ((List.finRange 4).find? fun id => turned.getLsbD id.val).map (· + dma.drx)

/-- `x86_dma_set_request`. -/
def dma_set_request (dma : Dma) (channel : Fin 4) (asserted : Bool) : Dma :=
  { dma with status := bit_make dma.status (status_drq channel) asserted }

/-- `x86_dma_terminate`. -/
def dma_terminate (dma : Dma) : Dma := { dma with flagEOP := true }

/-! ## Registers -/

/-- One byte of a 16-bit register, by the flip-flop. -/
def dma_read_half (dma : Dma) (value : U16) : U8 :=
  if !dma.flagMSB then value.setWidth 8 else (value >>> 8).setWidth 8

/-- One byte into a 16-bit base register, by the flip-flop. -/
def dma_write_half (dma : Dma) (base : U16) (value : U8) : U16 :=
  if !dma.flagMSB then value.setWidth 16 else base ||| (value.setWidth 16 <<< 8)

def dma_write_address (dma : Dma) (value : U8) (channel : Fin 4) : Dma :=
  let base := dma_write_half dma (dma.baseAddr channel) value
  { dma with
    baseAddr := Function.update dma.baseAddr channel base
    currAddr := Function.update dma.currAddr channel base
    flagMSB := !dma.flagMSB }

def dma_write_count (dma : Dma) (value : U8) (channel : Fin 4) : Dma :=
  let base := dma_write_half dma (dma.baseCount channel) value
  { dma with
    baseCount := Function.update dma.baseCount channel base
    currCount := Function.update dma.currCount channel base
    flagMSB := !dma.flagMSB }

/-- `x86_dma_read_register`. -/
def dma_read_register (dma : Dma) (selector io_value : U8) : U8 × Dma :=
  if selector.toNat < 8 then
    let channel := channel_select (selector >>> 1)
    let register := if selector &&& 1 = 0 then dma.currAddr channel else dma.currCount channel
    (dma_read_half dma register, { dma with flagMSB := !dma.flagMSB })
  else if selector = 8 then
    (dma.status ||| (dma.request <<< 4), { dma with status := dma.status &&& 0xf0 })
  else if selector = 13 then (dma.temp, dma)
  else (io_value, dma)

/-- `x86_dma_write_register`. -/
def dma_write_register (dma : Dma) (selector value : U8) : Dma :=
  if selector.toNat < 8 then
    let channel := channel_select (selector >>> 1)
    if selector &&& 1 = 0 then dma_write_address dma value channel
    else dma_write_count dma value channel
  else if selector = 8 then { dma with command := value }
  else if selector = 9 then
    { dma with request := bit_make dma.request (drq (channel_select value)) (is_set value 0x04) }
  else if selector = 10 then
    { dma with mask := bit_make dma.mask (drq (channel_select value)) (is_set value 0x04) }
  else if selector = 11 then
    { dma with mode := Function.update dma.mode (channel_select value) value }
  else if selector = 12 then { dma with flagMSB := false }
  else if selector = 13 then dma_reset dma
  else if selector = 14 then { dma with mask := 0 }
  else if selector = 15 then { dma with mask := value &&& dma_mask_valid }
  else dma

/-! ## The bus -/

/-- Only the request and end-of-process inputs of the chip changed. -/
def InputsOnly (dma dma' : Dma) : Prop :=
  ∃ status flagEOP, dma' = { dma with status := status, flagEOP := flagEOP }

/-- `x86_dma_bus`: what a cycle and a terminal count do outside of the chip. A provider may
change the inputs of the chip and nothing else of it. `κ` is the rest of the machine. -/
structure DmaBus (κ : Type) where
  cycle : DmaCycle → Fin 4 → U16 → U8 → Dma × κ → Status × U8 × (Dma × κ)
  terminal : Fin 4 → Dma × κ → Dma × κ
  cycle_inputs : ∀ kind channel address byte s,
    InputsOnly s.1 (cycle kind channel address byte s).2.2.1
  terminal_inputs : ∀ channel s, InputsOnly s.1 (terminal channel s).1

section Service

variable {κ : Type}

/-- `VDMA_GetMODE_TT` as a bus cycle; 3 is illegal. -/
def transfer_kind (mode : U8) : Option DmaCycle :=
  if (mode &&& 0x0c) >>> 2 = 0 then some .verify
  else if (mode &&& 0x0c) >>> 2 = 1 then some .device_to_memory
  else if (mode &&& 0x0c) >>> 2 = 2 then some .memory_to_device
  else none

/-- The address after a transfer of the channel. -/
def next_address (dma : Dma) (channel : Fin 4) : Table 4 U16 :=
  Function.update dma.currAddr channel
    (if is_set (dma.mode channel) mode_aids then dma.currAddr channel - 1
    else dma.currAddr channel + 1)

/-- The count and the end of process after a transfer of the channel. -/
def count_down (dma : Dma) (channel : Fin 4) : Dma :=
  let count := dma.currCount channel - 1
  { dma with
    currCount := Function.update dma.currCount channel count
    flagEOP := if count = 0xffff then true else dma.flagEOP }

/-- One transfer of the channel, with whether it was made. -/
def transfer (bus : DmaBus κ) (kind : DmaCycle) (channel : Fin 4) (s : Dma × κ) :
    Bool × (Dma × κ) :=
  match bus.cycle kind channel (s.1.currAddr channel) 0 s with
  | (status, _, dma, k) =>
    if status ≠ .ok then (false, dma, k)
    else
      let dma := count_down dma channel
      (true, { dma with currAddr := next_address dma channel }, k)

/-- `Transmission`. -/
def transmission (bus : DmaBus κ) (channel : Fin 4) (s : Dma × κ) : Bool × (Dma × κ) :=
  match transfer_kind (s.1.mode channel) with
  | none => (false, s)
  | some kind => transfer bus kind channel s

/-- The body of the loop of `dma_complete_transfer`. -/
def complete_channel (bus : DmaBus κ) (s : Dma × κ) (index : Fin 4) : Dma × κ :=
  let s := bus.terminal index ({ s.1 with request := s.1.request &&& ~~~drq index }, s.2)
  if is_set (s.1.mode index) mode_ai then
    ({ s.1 with
        currAddr := Function.update s.1.currAddr index (s.1.baseAddr index)
        currCount := Function.update s.1.currCount index (s.1.baseCount index) }, s.2)
  else ({ s.1 with mask := s.1.mask ||| drq index }, s.2)

/-- `dma_complete_transfer`. -/
def dma_complete_transfer (bus : DmaBus κ) (channel : Fin 4) (memory_to_memory : Bool)
    (s : Dma × κ) : Dma × κ :=
  let indexes : List (Fin 4) := if memory_to_memory then [0, 1] else [channel]
  let s := indexes.foldl (complete_channel bus) (dma_release s.1, s.2)
  ({ s.1 with status := s.1.status ||| drq (if memory_to_memory then 1 else channel) }, s.2)

/-- The end of `Execute`. -/
def execute_end (bus : DmaBus κ) (channel : Fin 4) (memory_to_memory : Bool) (s : Dma × κ) :
    Dma × κ :=
  let s := if s.1.flagEOP then dma_complete_transfer bus channel memory_to_memory s else s
  ({ s.1 with flagEOP := false }, s.2)

/-- Channel 0 reads the temporary register. -/
def execute_memory_read (bus : DmaBus κ) (s : Dma × κ) : Dma × κ :=
  match bus.cycle .memory_read 0 (s.1.currAddr 0) s.1.temp s with
  | (status, byte, dma, k) =>
    if status ≠ .ok then (dma_release dma, k)
    else ({ dma with temp := byte, flagM2MWrite := true }, k)

/-- The addresses after a memory-to-memory transfer; channel 0 may hold its own. -/
def memory_addresses (dma : Dma) : Dma :=
  let dma := { dma with currAddr := next_address dma 1 }
  if !is_set dma.command command_c0ad then { dma with currAddr := next_address dma 0 } else dma

/-- Channel 1 writes the temporary register. -/
def execute_memory_write (bus : DmaBus κ) (s : Dma × κ) : Dma × κ :=
  match bus.cycle .memory_write 1 (s.1.currAddr 1) s.1.temp s with
  | (status, _, dma, k) =>
    if status ≠ .ok then (dma_release dma, k)
    else
      execute_end bus 0 true
        (memory_addresses (count_down { dma with flagM2MWrite := false } 1), k)

/-- The memory-to-memory branch of `Execute`: channel 0 reads the temporary register first,
then channel 1 writes it. -/
def execute_memory (bus : DmaBus κ) (s : Dma × κ) : Dma × κ :=
  if s.1.flagEOP then execute_end bus 0 true s
  else if !s.1.flagM2MWrite then execute_memory_read bus s
  else execute_memory_write bus s

/-- A transfer of the channel, and what follows when it was made. -/
def execute_transfer (bus : DmaBus κ) (id : Fin 4) (s : Dma × κ) (next : Dma × κ → Dma × κ) :
    Dma × κ :=
  match transmission bus id s with
  | (false, s) => (dma_release s.1, s.2)
  | (true, s) => next s

/-- `Execute` in demand mode. -/
def execute_demand (bus : DmaBus κ) (id : Fin 4) (request_asserted : Bool) (s : Dma × κ) :
    Dma × κ :=
  if request_asserted && !s.1.flagEOP then execute_transfer bus id s (execute_end bus id false)
  else if !s.1.flagEOP then execute_end bus id false (dma_release s.1, s.2)
  else execute_end bus id false s

/-- `Execute` in single mode. -/
def execute_single (bus : DmaBus κ) (id : Fin 4) (s : Dma × κ) : Dma × κ :=
  if !s.1.flagEOP then
    execute_transfer bus id s fun s =>
      if !s.1.flagEOP then execute_end bus id false (dma_release s.1, s.2)
      else execute_end bus id false s
  else execute_end bus id false s

/-- `Execute` in block mode. -/
def execute_block (bus : DmaBus κ) (id : Fin 4) (s : Dma × κ) : Dma × κ :=
  if !s.1.flagEOP then execute_transfer bus id s (execute_end bus id false)
  else execute_end bus id false s

/-- The other branch of `Execute`, by the mode of the channel. -/
def execute_mode (bus : DmaBus κ) (id : Fin 4) (request_asserted : Bool) (s : Dma × κ) :
    Dma × κ :=
  let mode := (s.1.mode id &&& 0xc0) >>> 6
  if mode = 0 then execute_demand bus id request_asserted s
  else if mode = 1 then execute_single bus id s
  else if mode = 2 then execute_block bus id s
  else
    -- a cascade releases without a transfer of its own
    (dma_release s.1, s.2)

/-- The service of `id` is memory-to-memory. -/
def is_memory_to_memory (dma : Dma) (id : Fin 4) : Bool :=
  decide (id = 0) && is_set dma.request (drq 0) && is_set dma.command command_m2m

/-- `Execute`. -/
def execute (bus : DmaBus κ) (id : Fin 4) (s : Dma × κ) : Dma × κ :=
  let request_asserted := is_set s.1.status (status_drq id)
  let dma := if is_set s.1.command command_r then { s.1 with drx := id + 1 } else s.1
  if is_memory_to_memory s.1 id then execute_memory bus (dma, s.2)
  else execute_mode bus id request_asserted (dma, s.2)

/-- `dma_address_high_changed`. -/
def dma_address_high_changed (before after : U16) : Bool :=
  before &&& 0xff00 != after &&& 0xff00

/-- `x86_dma_advance`. -/
def dma_advance (bus : DmaBus κ) (s : Dma × κ) : Dma × κ :=
  match s.1.isr with
  | none => s
  | some channel =>
    match s.1.phase with
    | .s1 => ({ s.1 with phase := .s2 }, s.2)
    | .s2 => ({ s.1 with phase := if is_set s.1.command command_tm then .s4 else .s3 }, s.2)
    | .s3 => ({ s.1 with phase := .s4 }, s.2)
    | .s4 =>
      let before := s.1.currAddr channel
      let s := execute bus channel s
      if s.1.isr.isSome then
        ({ s.1 with phase :=
            if dma_address_high_changed before (s.1.currAddr channel) then .s1 else .s2 }, s.2)
      else s
    | .s11 => ({ s.1 with phase := .s12 }, s.2)
    | .s12 => ({ s.1 with phase := .s13 }, s.2)
    | .s13 => ({ s.1 with phase := .s14 }, s.2)
    | .s14 =>
      let s := execute bus channel s
      if s.1.isr.isSome && s.1.flagM2MWrite then ({ s.1 with phase := .s21 }, s.2) else s
    | .s21 => ({ s.1 with phase := .s22 }, s.2)
    | .s22 => ({ s.1 with phase := .s23 }, s.2)
    | .s23 => ({ s.1 with phase := .s24 }, s.2)
    | .s24 =>
      let before := s.1.currAddr 0
      let s := execute bus channel s
      if s.1.isr.isSome then
        ({ s.1 with phase :=
            if dma_address_high_changed before (s.1.currAddr 0) then .s11 else .s12 }, s.2)
      else s
    | .idle => (dma_release s.1, s.2)

end Service

end Nxvm.Chips
