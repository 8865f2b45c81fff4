/-
The interrupt controller (`pic.h`, `pic.c`).

One chip: its request, mask and service registers, the command words that program
it, and the ticks a request still waits after it was unmasked. Wiring two chips
together is the board's.

A line is a number below eight here, so the answer 8 of `GetRegTopId`, for a
register without lines, is `none`. Lines and the rotating priority base are cut to
three bits wherever the source computes them.
-/
import Mathlib.Data.Fin.VecNotation
import Nxvm.Chips.Words
import Nxvm.Lib.Register
import Nxvm.Lib.Table

set_option autoImplicit false

namespace Nxvm.Chips

open Nxvm.Lib Nxvm.Lib.Register

/-! ## The chip -/

/-- `t_pic_init_status`. -/
inductive PicInitStatus where
  | icw1
  | icw2
  | icw3
  | icw4
  | ocw1
  deriving DecidableEq, Repr

/-- `x86_pic`. -/
structure Pic where
  irr : U8
  imr : U8
  isr : U8
  icw1 : U8
  icw2 : U8
  icw3 : U8
  icw4 : U8
  ocw2 : U8
  ocw3 : U8
  status : PicInitStatus
  irx : Fin 8
  cascade_irr : U8
  unmask_delivery_ticks : Table 8 U32
  unmask_remaining_ticks : Table 8 U64
  input_levels : U8
  cascade_master : Bool
  deriving DecidableEq

/-- `x86_pic_request`. -/
structure PicRequest where
  line : Fin 8
  vector : U8
  cascade : Bool
  deriving DecidableEq, Repr

def icw1_ic4 : U8 := 0x01
def icw1_sngl : U8 := 0x02
def icw1_ltim : U8 := 0x08
def icw1_i : U8 := 0x10
def icw2_valid : U8 := 0xf8
def icw4_aeoi : U8 := 0x02
def icw4_sfnm : U8 := 0x10
def icw4_valid : U8 := 0x1f
def ocw2_eoi : U8 := 0x20
def ocw2_sl : U8 := 0x40
def ocw2_r : U8 := 0x80
def ocw3_ris : U8 := 0x01
def ocw3_rr : U8 := 0x02
def ocw3_p : U8 := 0x04
def ocw3_i : U8 := 0x08
def ocw3_smm : U8 := 0x20
def ocw3_esmm : U8 := 0x40
def poll_i : U8 := 0x80

/-- The line a command word names in its low three bits. -/
def ocw2_line (value : U8) : Fin 8 := ⟨value.toNat % 8, Nat.mod_lt _ (by decide)⟩

/-! ## Priorities -/

/-- `GetRegTopId`: the line of `reg` with the highest priority, the lines turned so that
`irx` comes first. -/
def get_reg_top_id (pic : Pic) (reg : U8) : Option (Fin 8) :=
  if reg = 0 then none
  else
    let turned := (reg <<< (8 - pic.irx.val)) ||| (reg >>> pic.irx.val)
    ((List.finRange 8).find? fun id => turned.getLsbD id.val).map (· + pic.irx)

/-- The rank is relative to the current rotating priority base. -/
def pic_priority_rank (pic : Pic) (id : Fin 8) : ℕ := (id.val + 8 - pic.irx.val) % 8

/-- The lines in service, as far as the special mask leaves them. -/
def pic_effective_isr (pic : Pic) : U8 :=
  if is_set pic.ocw3 ocw3_smm then pic.isr &&& ~~~pic.imr else pic.isr

def pic_request_can_interrupt (pic : Pic) (request : Fin 8) : Bool :=
  match get_reg_top_id pic (pic_effective_isr pic) with
  | none => true
  | some service => decide (pic_priority_rank pic request < pic_priority_rank pic service)

def pic_pending_requests (pic : Pic) : U8 := pic.irr ||| pic.cascade_irr

def pic_eoi_service (pic : Pic) : Option (Fin 8) := get_reg_top_id pic (pic_effective_isr pic)

def pic_is_level (pic : Pic) : Bool := is_set pic.icw1 icw1_ltim

/-! ## Selecting and acknowledging -/

/-- The body of the loop of `x86_pic_select` for one line: none of its `continue`s. -/
def pic_selects (pic : Pic) (id : Fin 8) : Bool :=
  let pending := pic_pending_requests pic &&& ~~~pic.imr
  let cascade := pic.cascade_master && is_set pic.cascade_irr (line id)
  decide (pic.unmask_remaining_ticks id = 0) && is_set pending (line id) &&
    (pic_request_can_interrupt pic id ||
      (cascade && is_set pic.icw4 icw4_sfnm && decide (get_reg_top_id pic pic.isr = some id))) &&
    !(pic.cascade_master && !cascade && !is_set pic.icw1 icw1_sngl && is_set pic.icw3 (line id))

/-- What is answered for a line that was selected. -/
def pic_request_of (pic : Pic) (id : Fin 8) : PicRequest :=
  { line := id
    vector := BitVec.ofNat 8 id.val ||| pic.icw2
    cascade := pic.cascade_master && is_set pic.cascade_irr (line id) }

/-- `x86_pic_select`, with `none` for its `LIB_STATUS_INVALID_STATE`. -/
def pic_select (pic : Pic) : Option PicRequest :=
  if pic.status ≠ .ocw1 ∨ pic_pending_requests pic &&& ~~~pic.imr = 0 then none
  else
    (((List.finRange 8).map fun offset => pic.irx + offset).find? (pic_selects pic)).map
      (pic_request_of pic)

/-- The request that is answered is withdrawn; a level request stays while its input is
high. -/
def withdraw_request (pic : Pic) (id : Fin 8) (cascade_request : Bool) : Pic :=
  if cascade_request then { pic with cascade_irr := pic.cascade_irr &&& ~~~line id }
  else if !is_set pic.icw1 icw1_ltim || !is_set pic.input_levels (line id) then
    { pic with irr := pic.irr &&& ~~~line id }
  else pic

/-- In automatic end of interrupt mode the line leaves service at once. -/
def automatic_eoi (pic : Pic) (id : Fin 8) : Pic :=
  if is_set pic.icw4 icw4_aeoi then
    let pic := { pic with isr := pic.isr &&& ~~~line id }
    if is_set pic.ocw2 ocw2_r then { pic with irx := id + 1 } else pic
  else pic

/-- `RespondINTR`: the selected request moves to the service register. -/
def respond_intr (pic : Pic) (id : Fin 8) (cascade_request : Bool) : Pic :=
  automatic_eoi (withdraw_request { pic with isr := pic.isr ||| line id } id cascade_request) id

/-- `x86_pic_acknowledge`. -/
def pic_acknowledge (pic : Pic) : PicRequest × Pic :=
  match pic_select pic with
  | some request => (request, respond_intr pic request.line request.cascade)
  | none =>
    ({ line := 7, vector := if pic.status = .ocw1 then pic.icw2 ||| 7 else 0, cascade := false },
      pic)

/-! ## Registers -/

def pic_begin_initialization (pic : Pic) (icw1 : U8) : Pic :=
  { pic with
    irr := 0, imr := 0, isr := 0, icw1 := icw1, icw2 := 0, icw3 := 0, icw4 := 0, ocw2 := 0
    ocw3 := ocw3_rr, irx := 0, cascade_irr := 0, unmask_remaining_ticks := Table.fill 0
    status := .icw2 }

/-- The command register, read: a poll, or the register the last OCW3 selected. With
neither the bus is not driven and keeps `io_value`. -/
def io_read_00x0 (pic : Pic) (io_value : U8) : U8 × Pic :=
  if is_set pic.ocw3 ocw3_p then
    match pic_select pic with
    | none => (0, { pic with ocw3 := pic.ocw3 &&& ~~~ocw3_p })
    | some request =>
      -- a poll read acknowledges the selected request
      let pic := respond_intr pic request.line request.cascade
      (poll_i ||| BitVec.ofNat 8 request.line.val, { pic with ocw3 := pic.ocw3 &&& ~~~ocw3_p })
  else if pic.ocw3 &&& (ocw3_rr ||| ocw3_ris) = 0x02 then (pic_pending_requests pic, pic)
  else if pic.ocw3 &&& (ocw3_rr ||| ocw3_ris) = 0x03 then (pic.isr, pic)
  else (io_value, pic)

/-- OCW3, with the read selection kept when RR is clear and the special mask kept when
ESMM is. -/
def write_ocw3 (pic : Pic) (value : U8) : Pic :=
  let ocw3 :=
    if !is_set value ocw3_rr then
      (value &&& ~~~(ocw3_rr ||| ocw3_ris)) ||| (pic.ocw3 &&& (ocw3_rr ||| ocw3_ris))
    else value
  if is_set value ocw3_esmm then { pic with ocw3 := ocw3 }
  else { pic with ocw3 := (pic.ocw3 &&& ocw3_smm) ||| (ocw3 &&& ~~~ocw3_smm) }

/-- The service bit of `id` is cleared. -/
def end_service (pic : Pic) (id : Fin 8) : Pic := { pic with isr := pic.isr &&& ~~~line id }

/-- OCW2: the ends of interrupt and the rotations. -/
def write_ocw2 (pic : Pic) (value : U8) : Pic :=
  let command := value &&& (ocw2_eoi ||| ocw2_sl ||| ocw2_r)
  if command = 0x80 ∨ command = 0x00 then
    if is_set pic.icw4 icw4_aeoi then { pic with ocw2 := value } else pic
  else if command = 0x20 then
    match pic_eoi_service pic with
    | some id => end_service pic id
    | none => pic
  else if command = 0x60 then
    if pic.isr ≠ 0 then end_service pic (ocw2_line value) else pic
  else if command = 0xa0 then
    match pic_eoi_service pic with
    | some id => { end_service pic id with irx := id + 1 }
    | none => pic
  else if command = 0xe0 then
    { end_service pic (ocw2_line value) with irx := ocw2_line value + 1 }
  else if command = 0xc0 then { pic with irx := ocw2_line value + 1 }
  else pic

/-- The command register, written: ICW1, OCW3 or OCW2 by bits 4 and 3. -/
def io_write_00x0 (pic : Pic) (value : U8) : Pic :=
  if is_set value icw1_i then pic_begin_initialization pic value
  else if is_set value ocw3_i then write_ocw3 pic value
  else write_ocw2 pic value

/-- The data register, written: the initialization words in turn, then the mask. -/
def io_write_00x1 (pic : Pic) (value : U8) : Pic :=
  match pic.status with
  | .icw1 => pic
  | .icw2 =>
    { pic with
      icw2 := value &&& icw2_valid
      status := if !is_set pic.icw1 icw1_sngl then .icw3
        else if is_set pic.icw1 icw1_ic4 then .icw4 else .ocw1 }
  | .icw3 =>
    { pic with
      icw3 := value
      status := if is_set pic.icw1 icw1_ic4 then .icw4 else .ocw1 }
  | .icw4 => { pic with icw4 := value &&& icw4_valid, status := .ocw1 }
  | .ocw1 =>
    -- a request that was held back by the mask waits before it is delivered
    let released := pic.imr &&& ~~~value &&& pic_pending_requests pic
    { pic with
      imr := value
      unmask_remaining_ticks := fun id =>
        if is_set released (line id) then (pic.unmask_delivery_ticks id).setWidth 64
        else pic.unmask_remaining_ticks id }

/-- `x86_pic_read_register`. -/
def pic_read_register (pic : Pic) (selector io_value : U8) : U8 × Pic :=
  if selector = 0 then io_read_00x0 pic io_value
  else if selector = 1 then (pic.imr, pic)
  else (io_value, pic)

/-- `x86_pic_write_register`. -/
def pic_write_register (pic : Pic) (selector value : U8) : Pic :=
  if selector = 0 then io_write_00x0 pic value
  else if selector = 1 then io_write_00x1 pic value
  else pic

/-! ## Inputs and time -/

/-- `x86_pic_set_inputs`. The request latch follows a falling input. -/
def pic_set_inputs (pic : Pic) (levels asserted_requests cascade_lines : U8) : Pic :=
  let irr := pic.irr &&& ~~~(pic.input_levels &&& ~~~levels)
  let irr := if pic_is_level pic then irr ||| levels else irr
  { pic with
    input_levels := levels
    irr := irr ||| asserted_requests
    cascade_irr := if !pic.cascade_master || is_set pic.icw1 icw1_sngl then 0
      else cascade_lines &&& pic.icw3 }

/-- `x86_pic_cascade_address`: the programmed identity, in cascade mode only. -/
def pic_cascade_address (pic : Pic) : Option (Fin 8) :=
  if is_set pic.icw1 icw1_sngl then none else some (ocw2_line pic.icw3)

/-- `x86_pic_set_irq_timing`. -/
def pic_set_irq_timing (pic : Pic) (ticks : Table 8 U32) : Pic :=
  { pic with unmask_delivery_ticks := ticks }

/-- `x86_pic_advance`. Its early return, when no line waits, changes nothing either. -/
def pic_advance (pic : Pic) (elapsed_ticks : U64) : Pic :=
  { pic with
    unmask_remaining_ticks := fun id =>
      if pic.unmask_remaining_ticks id ≤ elapsed_ticks then 0
      else pic.unmask_remaining_ticks id - elapsed_ticks }

/-- `x86_pic_ticks_until_event`, with `none` for its `LIB_STATUS_INVALID_STATE`. -/
def pic_ticks_until_event (pic : Pic) : Option U64 :=
  let pending := pic_pending_requests pic &&& ~~~pic.imr
  if pending = 0 then none
  else
    let ticks := (List.finRange 8).foldl
      (fun ticks id =>
        if is_set pending (line id) ∧ pic.unmask_remaining_ticks id ≠ 0 ∧
          pic.unmask_remaining_ticks id < ticks then pic.unmask_remaining_ticks id else ticks)
      (BitVec.allOnes 64)
    if ticks = BitVec.allOnes 64 then none else some ticks

/-- `x86_pic_reset`. The timing survives. -/
def pic_reset (pic : Pic) : Pic :=
  { irr := 0, imr := 0, isr := 0, icw1 := 0, icw2 := 0, icw3 := 0, icw4 := 0, ocw2 := 0
    ocw3 := ocw3_rr, status := .icw1, irx := 0, cascade_irr := 0
    unmask_delivery_ticks := pic.unmask_delivery_ticks
    unmask_remaining_ticks := Table.fill 0
    input_levels := 0, cascade_master := pic.cascade_master }

/-- `x86_pic_create`, where there is memory. -/
def pic_create (cascade_master : Bool) : Pic :=
  { irr := 0, imr := 0, isr := 0, icw1 := 0, icw2 := 0, icw3 := 0, icw4 := 0, ocw2 := 0
    ocw3 := ocw3_rr, status := .icw1, irx := 0, cascade_irr := 0
    unmask_delivery_ticks := Table.fill 0
    unmask_remaining_ticks := Table.fill 0
    input_levels := 0, cascade_master }

end Nxvm.Chips
