/-
The cascaded interrupt controllers of the board (`pic_bus.h`, `pic_bus.c`).

Two chips, for each of their lines the number of sources that assert it, and the
sources themselves. The master does not see the slave's request: a refresh copies it
into the master's cascade inputs, and whoever changes what the slave asks for has to
refresh.

A handle is the place of a source in the list of the pair, which only grows. A source
the pair does not own is a place past its end.
-/
import Nxvm.Chips.Pic
import Nxvm.Machine.Status

set_option autoImplicit false

namespace Nxvm.BoardBase

open Nxvm.Lib Nxvm.Lib.Register Nxvm.Chips Nxvm.Machine

/-! ## The pair -/

/-- `x86_nxvm_board_pic_bus`, without the links to its pair. -/
structure PicBus where
  device : Pic
  asserted : Table 8 U8

/-- `x86_nxvm_board_pic_irq_source`, without the links to its pair. -/
structure PicIrqSource where
  irq : U8
  asserted : Bool
  deriving DecidableEq, Repr

/-- Both endpoints, and the sources they own. -/
structure PicPair where
  master : PicBus
  slave : PicBus
  sources : List PicIrqSource

/-- Which endpoint a call names. -/
inductive PicSide where
  | master
  | slave
  deriving DecidableEq, Repr

def PicPair.bus (pair : PicPair) : PicSide → PicBus
  | .master => pair.master
  | .slave => pair.slave

def PicPair.set_bus (pair : PicPair) (side : PicSide) (bus : PicBus) : PicPair :=
  match side with
  | .master => { pair with master := bus }
  | .slave => { pair with slave := bus }

/-- What `x86_nxvm_board_pic_initialize` publishes. -/
def board_pic_initialize : PicPair :=
  { master := { device := pic_create true, asserted := Table.fill 0 }
    slave := { device := pic_create false, asserted := Table.fill 0 }
    sources := [] }

/-! ## Refresh -/

/-- `pic_bus_levels`. -/
def pic_bus_levels (bus : PicBus) : U8 := of_lines fun id => decide (bus.asserted id ≠ 0)

/-- What the slave asks of the master: its line there, while it has something to
deliver. -/
def cascade_request (slave : Pic) : U8 :=
  match pic_cascade_address slave, pic_select slave with
  | some address, some _ => line address
  | _, _ => 0

/-- `x86_nxvm_board_pic_refresh`. -/
def board_pic_refresh (pair : PicPair) : PicPair :=
  let slave := pic_set_inputs pair.slave.device (pic_bus_levels pair.slave) 0 0
  let master := pic_set_inputs pair.master.device (pic_bus_levels pair.master) 0
    (cascade_request slave)
  { pair with
    master := { pair.master with device := master }
    slave := { pair.slave with device := slave } }

/-! ## Registers -/

/-- `x86_nxvm_board_pic_read_register`. Only a read of the slave refreshes. -/
def board_pic_read_register (pair : PicPair) (side : PicSide) (selector value : U8) :
    Status × U8 × PicPair :=
  if 1 < selector.toNat then (.invalid_argument, value, pair)
  else
    let read := pic_read_register (pair.bus side).device selector value
    let pair := pair.set_bus side { pair.bus side with device := read.2 }
    (.ok, read.1, if side = .slave then board_pic_refresh pair else pair)

/-- `x86_nxvm_board_pic_write_register`. -/
def board_pic_write_register (pair : PicPair) (side : PicSide) (selector value : U8) :
    Status × PicPair :=
  if 1 < selector.toNat then (.invalid_argument, pair)
  else
    let device := pic_write_register (pair.bus side).device selector value
    (.ok, board_pic_refresh (pair.set_bus side { pair.bus side with device := device }))

/-! ## Time -/

/-- `x86_nxvm_board_pic_reset`. The sources keep asserting. -/
def board_pic_reset (pair : PicPair) : PicPair :=
  board_pic_refresh { pair with
    master := { pair.master with device := pic_reset pair.master.device }
    slave := { pair.slave with device := pic_reset pair.slave.device } }

/-- `x86_nxvm_board_pic_set_irq_timing`. -/
def board_pic_set_irq_timing (pair : PicPair) (master slave : Table 8 U32) : PicPair :=
  { pair with
    master := { pair.master with device := pic_set_irq_timing pair.master.device master }
    slave := { pair.slave with device := pic_set_irq_timing pair.slave.device slave } }

/-- `x86_nxvm_board_pic_advance`. -/
def board_pic_advance (pair : PicPair) (elapsed_ticks : U64) : PicPair :=
  { pair with
    master := { pair.master with device := pic_advance pair.master.device elapsed_ticks }
    slave := { pair.slave with device := pic_advance pair.slave.device elapsed_ticks } }

/-- `x86_nxvm_board_pic_ticks_until_event`. -/
def board_pic_ticks_until_event (pair : PicPair) : Option U64 :=
  match pic_ticks_until_event pair.master.device, pic_ticks_until_event pair.slave.device with
  | none, second => second
  | some first, none => some first
  | some first, some second => some (if second < first then second else first)

/-! ## Sources -/

/-- The endpoint of an interrupt number. -/
def irq_side (irq : U8) : PicSide := if irq.toNat < 8 then .master else .slave

/-- Its line there. -/
def irq_line (irq : U8) : Fin 8 := Fin.ofNat 8 irq.toNat

/-- `x86_nxvm_board_pic_irq_source_bind`: the status, the handle and the pair. `allocated`
says whether there is memory for a new source. -/
def board_pic_irq_source_bind (pair : PicPair) (handle : Option ℕ) (irq : U8)
    (allocated : Bool) : Status × Option ℕ × PicPair :=
  if 16 ≤ irq.toNat ∨ irq = 2 then (.invalid_argument, handle, pair)
  else
    match handle with
    | some id =>
      if id < pair.sources.length then
        (.ok, some id, { pair with sources := pair.sources.set id { irq, asserted := false } })
      else (.invalid_state, handle, pair)
    | none =>
      if allocated then
        (.ok, some pair.sources.length,
          { pair with sources := pair.sources ++ [{ irq, asserted := false }] })
      else (.no_memory, none, pair)

/-- `x86_nxvm_board_pic_irq_source_assert`. -/
def board_pic_irq_source_assert (pair : PicPair) (id : ℕ) : PicPair :=
  match pair.sources[id]? with
  | none => pair
  | some source =>
    if source.asserted ∨ 16 ≤ source.irq.toNat then pair
    else
      let side := irq_side source.irq
      let at_line := irq_line source.irq
      let bus := pair.bus side
      let edge := if bus.asserted at_line = 0 then line at_line else 0
      let count := bus.asserted at_line
      let bus := { bus with
        asserted := Function.update bus.asserted at_line (if count ≠ 0xff then count + 1 else count) }
      let bus := { bus with device := pic_set_inputs bus.device (pic_bus_levels bus) edge 0 }
      let pair := { pair with sources := pair.sources.set id { source with asserted := true } }
      board_pic_refresh (pair.set_bus side bus)

/-- `x86_nxvm_board_pic_irq_source_deassert`. -/
def board_pic_irq_source_deassert (pair : PicPair) (id : ℕ) : PicPair :=
  match pair.sources[id]? with
  | none => pair
  | some source =>
    if !source.asserted then pair
    else
      let pair := { pair with sources := pair.sources.set id { source with asserted := false } }
      if 16 ≤ source.irq.toNat then pair
      else
        let side := irq_side source.irq
        let at_line := irq_line source.irq
        let bus := pair.bus side
        if bus.asserted at_line = 0 then pair
        else
          let asserted := Function.update bus.asserted at_line (bus.asserted at_line - 1)
          board_pic_refresh (pair.set_bus side { bus with asserted })

/-! ## Interrupts -/

/-- `x86_nxvm_board_pic_scan_interrupt`. -/
def board_pic_scan_interrupt (pair : PicPair) : Bool :=
  match pic_select pair.master.device with
  | none => false
  | some request => !request.cascade || (pic_select pair.slave.device).isSome

/-- `x86_nxvm_board_pic_peek_interrupt`. -/
def board_pic_peek_interrupt (pair : PicPair) : U8 :=
  match pic_select pair.master.device with
  | none => 0
  | some request =>
    if request.cascade then
      match pic_select pair.slave.device with
      | none => 0
      | some request => request.vector
    else request.vector

/-- `x86_nxvm_board_pic_get_interrupt`. -/
def board_pic_get_interrupt (pair : PicPair) : U8 × PicPair :=
  let master := pic_acknowledge pair.master.device
  let pair := { pair with master := { pair.master with device := master.2 } }
  if master.1.cascade then
    let slave := pic_acknowledge pair.slave.device
    (slave.1.vector,
      board_pic_refresh { pair with slave := { pair.slave with device := slave.2 } })
  else (master.1.vector, pair)

/-! ## Operations -/

/-- A call into the pair. -/
inductive PicPairOp where
  | refresh
  | read_register (side : PicSide) (selector value : U8)
  | write_register (side : PicSide) (selector value : U8)
  | reset
  | set_irq_timing (master slave : Table 8 U32)
  | advance (elapsed_ticks : U64)
  | irq_source_bind (handle : Option ℕ) (irq : U8) (allocated : Bool)
  | irq_source_assert (id : ℕ)
  | irq_source_deassert (id : ℕ)
  | get_interrupt

/-- The pair after the call. -/
def board_pic_apply (pair : PicPair) : PicPairOp → PicPair
  | .refresh => board_pic_refresh pair
  | .read_register side selector value => (board_pic_read_register pair side selector value).2.2
  | .write_register side selector value => (board_pic_write_register pair side selector value).2
  | .reset => board_pic_reset pair
  | .set_irq_timing master slave => board_pic_set_irq_timing pair master slave
  | .advance elapsed_ticks => board_pic_advance pair elapsed_ticks
  | .irq_source_bind handle irq allocated =>
    (board_pic_irq_source_bind pair handle irq allocated).2.2
  | .irq_source_assert id => board_pic_irq_source_assert pair id
  | .irq_source_deassert id => board_pic_irq_source_deassert pair id
  | .get_interrupt => (board_pic_get_interrupt pair).2

end Nxvm.BoardBase
