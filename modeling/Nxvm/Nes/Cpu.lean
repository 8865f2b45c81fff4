/-
The processor: addressing, the instructions, interrupts (`cpu.c`, `opcode.c`).

The source carries a status through each instruction and goes on with the parts
that do not depend on it. Here a transfer that fails stops the sequence it belongs
to, and `status_of` turns the stop into a value where the source goes on: the
cycle count of an instruction is counted, and the sign of a register is set, also
when its last transfer failed.
-/
import Nxvm.Nes.Machine

set_option autoImplicit false

namespace Nxvm.Nes

open Nxvm.Lib Nxvm.Lib.Exec
open Nxvm.Machine (Status)

/-! ## Statuses as values -/

/-- Run `x` and hand a failing status over as a value. An access outside its array is not a
status: it stops whoever runs `x` too. -/
def status_of {α : Type} (x : NesM α) : NesM (Except Status α) := fun m =>
  match x m with
  | .ok a m' => .ok (.ok a) m'
  | .error (.status s) m' => .ok (.error s) m'
  | .error e m' => .error e m'

/-- Give a status that was kept back to whoever runs. -/
def rethrow {α : Type} : Except Status α → NesM α
  | .ok a => pure a
  | .error s => fail s

/-- The status alone. -/
def code {α : Type} : Except Status α → Status
  | .ok _ => .ok
  | .error s => s

section StatusOf

variable {α : Type} {x : NesM α} {m m' : Console}

theorem status_of_eq_ok {r : Except Status α} :
    status_of x m = .ok r m' ↔
      (∃ a, r = .ok a ∧ x m = .ok a m') ∨ (∃ s, r = .error s ∧ x m = .error (.status s) m') := by
  unfold status_of
  cases x m with
  | ok a m₁ => simp [eq_comm]
  | error e m₁ =>
    cases e with
    | status s => simp [eq_comm]
    | out_of_bounds => simp
    | unfinished => simp

/-- A status never stops who asked for it. -/
theorem status_of_eq_error {e : Stop} (h : status_of x m = .error e m') :
    x m = .error e m' ∧ ∀ s, e ≠ .status s := by
  unfold status_of at h
  cases hx : x m with
  | ok a m₁ =>
    rw [hx] at h
    cases h
  | error e₁ m₁ =>
    rw [hx] at h
    cases e₁ with
    | status s => cases h
    | out_of_bounds =>
      cases h
      exact ⟨rfl, fun s hs => by cases hs⟩
    | unfinished =>
      cases h
      exact ⟨rfl, fun s hs => by cases hs⟩

theorem status_of_respects {F : Frame Console} (hx : Respects F x) :
    Respects F (status_of x) := by
  refine ⟨fun m => ?_⟩
  have hm := hx.run m
  unfold status_of final at *
  cases h : x m with
  | ok a m₁ => simpa [h] using hm
  | error e m₁ =>
    cases e with
    | status s => simpa [h] using hm
    | out_of_bounds => simpa [h] using hm
    | unfinished => simpa [h] using hm

end StatusOf

/-! ## The processor's bus -/

/-- A transfer to no device is a trap. -/
def trap_unsupported {α : Type} (address : U16) (r : Except Status α) : NesM α := do
  perform_if (code r = .unsupported) (update fun m =>
    { m with trap := { m.trap with
        trap_valid := true
        trap_reason := .unsupported_device
        trap_address := address } })
  rethrow r

/-- `core_cpu_read`. -/
def core_cpu_read (address : U16) : NesM U8 := do
  let r ← status_of (core_bus_read address)
  trap_unsupported address r

/-- `core_cpu_write`. -/
def core_cpu_write (address : U16) (value : U8) : NesM Unit := do
  let r ← status_of (core_bus_write address value)
  trap_unsupported address r

/-! ## Flags -/

/-- `core_cpu_flag_is_set`. -/
def core_cpu_flag_is_set (m : Console) (flag : U8) : Bool := m.p &&& flag != 0

/-- `flag` set to `c`. -/
def with_flag (p flag : U8) (c : Bool) : U8 := (p &&& ~~~flag) ||| (if c then flag else 0)

/-- `core_cpu_set_nz`. -/
def core_cpu_set_nz (value : U8) (m : Console) : Console :=
  { m with p := with_flag (with_flag m.p 0x02 (value == 0)) 0x80 (value &&& 0x80 != 0) }

/-- `core_cpu_compare`. -/
def core_cpu_compare (left right : U8) (m : Console) : Console :=
  core_cpu_set_nz (left - right)
    { m with p := with_flag m.p 0x01 (decide (right.toNat ≤ left.toNat)) }

/-- `core_cpu_add`. -/
def core_cpu_add (value : U8) (m : Console) : Console :=
  let total : U16 := m.a.zeroExtend 16 + value.zeroExtend 16 +
    (if core_cpu_flag_is_set m 0x01 then 1 else 0)
  let result : U8 := total.truncate 8
  let p := with_flag m.p 0x01 (decide (0xff < total.toNat))
  let p := with_flag p 0x40 ((m.a ^^^ result) &&& (value ^^^ result) &&& 0x80 != 0)
  core_cpu_set_nz result { m with p := p, a := result }

/-! ## Addressing -/

/-- `core_cpu_fetch`. -/
def core_cpu_fetch : NesM U8 := do
  let m ← get
  let value ← core_cpu_read m.pc
  update fun m => { m with pc := m.pc + 1 }
  pure value

/-- `core_cpu_fetch_word`. -/
def core_cpu_fetch_word : NesM U16 := do
  let low ← core_cpu_fetch
  let high ← core_cpu_fetch
  pure (word_of low high)

/-- An operand's address, and whether indexing crossed a page on the way to it. -/
structure Effective where
  address : U16
  crossed : Bool

/-- The cycle between the operand and the access of an indexed form reads the address before
its page is corrected: `always` for the forms that write, else when a page is crossed. -/
def uncorrected_read (base : U16) (index : U8) (always : Bool) : NesM Effective := do
  let address := base + index.zeroExtend 16
  let crossed := base &&& 0xff00 != address &&& 0xff00
  perform_if (crossed ∨ always) (do
    let _ ← core_cpu_read ((base &&& 0xff00) ||| (address &&& 0x00ff))
    pure ())
  pure ⟨address, crossed⟩

/-- `core_cpu_indexed_address`; `always` is a caller that asks for no crossing. -/
def core_cpu_indexed_address (index : U8) (always : Bool) : NesM Effective := do
  let base ← core_cpu_fetch_word
  uncorrected_read base index always

/-- `core_cpu_zero_page_indexed_address`. -/
def core_cpu_zero_page_indexed_address (base index : U8) : NesM U8 := do
  let _ ← core_cpu_read (base.zeroExtend 16)
  pure (base + index)

/-- A word of the zero page, whose second byte wraps inside the page. -/
def zero_page_word (pointer : U8) : NesM U16 := do
  let low ← core_cpu_read (pointer.zeroExtend 16)
  let high ← core_cpu_read ((pointer + 1).zeroExtend 16)
  pure (word_of low high)

/-- `core_cpu_indirect_x_address`. -/
def core_cpu_indirect_x_address : NesM U16 := do
  let pointer ← core_cpu_fetch
  let _ ← core_cpu_read (pointer.zeroExtend 16)
  let m ← get
  zero_page_word (pointer + m.x)

/-- `core_cpu_indirect_y_address`. -/
def core_cpu_indirect_y_address (always : Bool) : NesM Effective := do
  let pointer ← core_cpu_fetch
  let base ← zero_page_word pointer
  let m ← get
  uncorrected_read base m.y always

/-- `core_cpu_push`. -/
def core_cpu_push (value : U8) : NesM Unit := do
  let m ← get
  core_cpu_write (0x0100 ||| m.s.zeroExtend 16) value
  update fun m => { m with s := m.s - 1 }

/-- A read of the stack without moving the pointer. -/
def stack_read : NesM U8 := do
  let m ← get
  core_cpu_read (0x0100 ||| m.s.zeroExtend 16)

/-- `core_cpu_pop`. -/
def core_cpu_pop : NesM U8 := do
  update fun m => { m with s := m.s + 1 }
  stack_read

/-! ## Addressing modes -/

/-- An address no page correction belongs to. -/
def plain (address : U16) : Effective := ⟨address, false⟩

def zero_page : NesM Effective := do
  let operand ← core_cpu_fetch
  pure (plain (operand.zeroExtend 16))

def zero_page_indexed (index : Console → U8) : NesM Effective := do
  let operand ← core_cpu_fetch
  let m ← get
  let address ← core_cpu_zero_page_indexed_address operand (index m)
  pure (plain (address.zeroExtend 16))

def absolute : NesM Effective := do
  let address ← core_cpu_fetch_word
  pure (plain address)

def absolute_indexed (index : Console → U8) (always : Bool) : NesM Effective := do
  let m ← get
  core_cpu_indexed_address (index m) always

def indirect_x : NesM Effective := do
  let address ← core_cpu_indirect_x_address
  pure (plain address)

/-! ## Forms

A case of the instruction switch leaves a status and a cycle count. -/

/-- What a case of the switch leaves. -/
structure Outcome where
  status : Status
  cycles : U32

/-- A case whose transfers are `x`, with a cycle count of its own. -/
def counted (cycles : U32) (x : NesM Unit) : NesM Outcome := do
  let r ← status_of x
  pure ⟨code r, cycles⟩

/-- Implied and accumulator forms: their second cycle is left to the end of the step. -/
def implied (f : Console → Console) : NesM Outcome := do
  update f
  pure ⟨.ok, 2⟩

/-- Immediate forms. -/
def immediate (f : U8 → Console → Console) : NesM Outcome :=
  counted 2 do
    let operand ← core_cpu_fetch
    update (f operand)

/-- Forms that read their operand: a crossed page costs a cycle, once it has been crossed. -/
def read_form (mode : NesM Effective) (cycles : U32) (f : U8 → Console → Console) :
    NesM Outcome := do
  let r ← status_of mode
  match r with
  | .error s => pure ⟨s, cycles⟩
  | .ok e =>
    counted (cycles + if e.crossed then 1 else 0) do
      let value ← core_cpu_read e.address
      update (f value)

/-- A load into a register sets the flags of the register also when the transfer failed. -/
def load_form (form : (U8 → Console → Console) → NesM Outcome)
    (store : U8 → Console → Console) (register : Console → U8) : NesM Outcome := do
  let outcome ← form store
  update fun m => core_cpu_set_nz (register m) m
  pure outcome

/-- Forms that write a register. -/
def write_form (mode : NesM Effective) (cycles : U32) (register : Console → U8) :
    NesM Outcome :=
  counted cycles do
    let e ← mode
    let m ← get
    core_cpu_write e.address (register m)

/-- Forms that read, write back what they read, and write the result. -/
def modify_form (mode : NesM Effective) (cycles : U32)
    (f : U8 → Console → U8 × Console) : NesM Outcome :=
  counted cycles do
    let e ← mode
    let original ← core_cpu_read e.address
    let m ← get
    let value := (f original m).1
    update fun m => (f original m).2
    core_cpu_write e.address original
    core_cpu_write e.address value
    update (core_cpu_set_nz value)

/-! ## Operations -/

def store_a (value : U8) (m : Console) : Console := { m with a := value }
def store_x (value : U8) (m : Console) : Console := { m with x := value }
def store_y (value : U8) (m : Console) : Console := { m with y := value }

/-- A register that is set along with its flags. -/
def set_a (value : U8) (m : Console) : Console := core_cpu_set_nz value { m with a := value }
def set_x (value : U8) (m : Console) : Console := core_cpu_set_nz value { m with x := value }
def set_y (value : U8) (m : Console) : Console := core_cpu_set_nz value { m with y := value }

def ora (value : U8) (m : Console) : Console := set_a (m.a ||| value) m
def and_a (value : U8) (m : Console) : Console := set_a (m.a &&& value) m
def eor (value : U8) (m : Console) : Console := set_a (m.a ^^^ value) m

/-- Addition, or subtraction as the addition of the complement. -/
def add_or_subtract (subtract : Bool) (value : U8) (m : Console) : Console :=
  core_cpu_add (if subtract then ~~~value else value) m

def bit_a (value : U8) (m : Console) : Console :=
  let p := (m.p &&& ~~~0xc0#8) ||| (value &&& 0xc0)
  { m with p := with_flag p 0x02 (m.a &&& value == 0) }

/-- Shifts and rotations, to the left or to the right: the result, and the carry out. -/
def shift (rotate right : Bool) (value : U8) (m : Console) : U8 × Console :=
  let carry := core_cpu_flag_is_set m 0x01
  if right then
    ((value >>> 1) ||| (if rotate && carry then 0x80 else 0),
      { m with p := with_flag m.p 0x01 (value &&& 1 != 0) })
  else
    ((value <<< 1) ||| (if rotate && carry then 1 else 0),
      { m with p := with_flag m.p 0x01 (value &&& 0x80 != 0) })

/-- Increment or decrement. -/
def count_by (decrement : Bool) (value : U8) (m : Console) : U8 × Console :=
  (if decrement then value - 1 else value + 1, m)

/-- A shift of the accumulator. -/
def shift_a (rotate right : Bool) (m : Console) : Console :=
  let r := shift rotate right m.a m
  set_a r.1 r.2

/-! ## The cases of the switch

A case that serves several opcodes looks at the opcode where the source does. -/

/-- `0x24`, `0x2c`. -/
def case_bit (opcode : U8) : NesM Outcome :=
  if opcode = 0x24 then read_form zero_page 3 bit_a else read_form absolute 4 bit_a

/-- `0x65`, `0xe5`, `0x6d`, `0xed`. -/
def case_add (opcode : U8) : NesM Outcome :=
  let f := add_or_subtract (opcode == 0xe5 || opcode == 0xed)
  if opcode = 0x65 ∨ opcode = 0xe5 then read_form zero_page 3 f else read_form absolute 4 f

/-- `0x75`, `0xf5`, `0x7d`, `0xfd`, `0x79`, `0xf9`, `0x61`, `0xe1`, `0x71`, `0xf1`. -/
def case_add_indexed (opcode : U8) : NesM Outcome :=
  let f := add_or_subtract (opcode == 0xf5 || opcode == 0xfd || opcode == 0xf9 ||
    opcode == 0xe1 || opcode == 0xf1)
  if opcode = 0x75 ∨ opcode = 0xf5 then read_form (zero_page_indexed (·.x)) 4 f
  else if opcode = 0x7d ∨ opcode = 0xfd then read_form (absolute_indexed (·.x) false) 4 f
  else if opcode = 0x79 ∨ opcode = 0xf9 then read_form (absolute_indexed (·.y) false) 4 f
  else if opcode = 0x61 ∨ opcode = 0xe1 then read_form indirect_x 6 f
  else read_form (core_cpu_indirect_y_address false) 5 f

/-- `0x05`, `0x25`, `0x45`, `0x0d`, `0x2d`, `0x4d`. -/
def case_logic (opcode : U8) : NesM Outcome :=
  let f :=
    if opcode = 0x05 ∨ opcode = 0x0d then ora
    else if opcode = 0x25 ∨ opcode = 0x2d then and_a
    else eor
  if opcode = 0x05 ∨ opcode = 0x25 ∨ opcode = 0x45 then read_form zero_page 3 f
  else read_form absolute 4 f

/-- `0x15`, `0x35`, `0x55`, `0x1d`, `0x3d`, `0x5d`, `0x19`, `0x39`, `0x59`. -/
def case_logic_indexed (opcode : U8) : NesM Outcome :=
  let f :=
    if opcode = 0x15 ∨ opcode = 0x1d ∨ opcode = 0x19 then ora
    else if opcode = 0x35 ∨ opcode = 0x3d ∨ opcode = 0x39 then and_a
    else eor
  if opcode = 0x15 ∨ opcode = 0x35 ∨ opcode = 0x55 then
    read_form (zero_page_indexed (·.x)) 4 f
  else if opcode = 0x1d ∨ opcode = 0x3d ∨ opcode = 0x5d then
    read_form (absolute_indexed (·.x) false) 4 f
  else read_form (absolute_indexed (·.y) false) 4 f

/-- `0x01`, `0x21`, `0x41`, `0x11`, `0x31`, `0x51`. -/
def case_logic_indirect (opcode : U8) : NesM Outcome :=
  let f :=
    if opcode = 0x01 ∨ opcode = 0x11 then ora
    else if opcode = 0x21 ∨ opcode = 0x31 then and_a
    else eor
  if opcode = 0x01 ∨ opcode = 0x21 ∨ opcode = 0x41 then read_form indirect_x 6 f
  else read_form (core_cpu_indirect_y_address false) 5 f

/-- `0xc5`, `0xcd`, `0xc4`, `0xcc`, `0xe4`, `0xec`: the register is read before the operand. -/
def case_compare (opcode : U8) : NesM Outcome := do
  let m ← get
  let left :=
    if opcode = 0xc5 ∨ opcode = 0xcd then m.a
    else if opcode = 0xc4 ∨ opcode = 0xcc then m.y
    else m.x
  if opcode = 0xc5 ∨ opcode = 0xc4 ∨ opcode = 0xe4 then
    read_form zero_page 3 (core_cpu_compare left)
  else read_form absolute 4 (core_cpu_compare left)

/-- `0xd5`, `0xdd`, `0xd9`, `0xc1`, `0xd1`. -/
def case_compare_indexed (opcode : U8) : NesM Outcome :=
  let f (value : U8) (m : Console) := core_cpu_compare m.a value m
  if opcode = 0xd5 then read_form (zero_page_indexed (·.x)) 4 f
  else if opcode = 0xdd then read_form (absolute_indexed (·.x) false) 4 f
  else if opcode = 0xd9 then read_form (absolute_indexed (·.y) false) 4 f
  else if opcode = 0xc1 then read_form indirect_x 6 f
  else read_form (core_cpu_indirect_y_address false) 5 f

/-- The sixteen shifts and rotations of memory. -/
def case_shift (opcode : U8) : NesM Outcome :=
  let rotate := opcode ∈ ([0x26, 0x66, 0x36, 0x76, 0x2e, 0x6e, 0x3e, 0x7e] : List U8)
  let right := opcode ∈ ([0x46, 0x66, 0x56, 0x76, 0x4e, 0x6e, 0x5e, 0x7e] : List U8)
  let f := shift rotate right
  if opcode ∈ ([0x06, 0x46, 0x26, 0x66, 0x16, 0x56, 0x36, 0x76] : List U8) then
    if opcode ∈ ([0x16, 0x56, 0x36, 0x76] : List U8) then
      modify_form (zero_page_indexed (·.x)) 6 f
    else modify_form zero_page 5 f
  else if opcode ∈ ([0x1e, 0x5e, 0x3e, 0x7e] : List U8) then
    modify_form (absolute_indexed (·.x) true) 7 f
  else modify_form absolute 6 f

/-- `0xe6`, `0xc6`, `0xf6`, `0xd6`. -/
def case_count (opcode : U8) : NesM Outcome :=
  let f := count_by (opcode == 0xc6 || opcode == 0xd6)
  if opcode = 0xf6 ∨ opcode = 0xd6 then modify_form (zero_page_indexed (·.x)) 6 f
  else modify_form zero_page 5 f

/-- `0xee`, `0xce`, `0xfe`, `0xde`. -/
def case_count_absolute (opcode : U8) : NesM Outcome :=
  let f := count_by (opcode == 0xce || opcode == 0xde)
  if opcode = 0xfe ∨ opcode = 0xde then modify_form (absolute_indexed (·.x) true) 7 f
  else modify_form absolute 6 f

/-- Whether a branch is taken. -/
def branch_taken (opcode : U8) (m : Console) : Bool :=
  opcode == 0x10 && !core_cpu_flag_is_set m 0x80 ||
  opcode == 0x30 && core_cpu_flag_is_set m 0x80 ||
  opcode == 0x50 && !core_cpu_flag_is_set m 0x40 ||
  opcode == 0x70 && core_cpu_flag_is_set m 0x40 ||
  opcode == 0x90 && !core_cpu_flag_is_set m 0x01 ||
  opcode == 0xb0 && core_cpu_flag_is_set m 0x01 ||
  opcode == 0xd0 && !core_cpu_flag_is_set m 0x02 ||
  opcode == 0xf0 && core_cpu_flag_is_set m 0x02

/-- A taken branch reads the target before its page is corrected, and the target when the
page differs. -/
def branch_to (operand : U8) : NesM Outcome := do
  let m ← get
  let target := m.pc + operand.signExtend 16
  let uncorrected := (m.pc &&& 0xff00) ||| (target &&& 0x00ff)
  let first ← status_of (core_cpu_read uncorrected)
  match first with
  | .error s => pure ⟨s, 3⟩
  | .ok _ =>
    if m.pc &&& 0xff00 ≠ target &&& 0xff00 then
      counted 4 do
        let _ ← core_cpu_read target
        update fun m => { m with pc := target }
    else
      counted 3 (update fun m => { m with pc := target })

/-- The eight branches. -/
def case_branch (opcode : U8) : NesM Outcome := do
  let r ← status_of core_cpu_fetch
  match r with
  | .error s => pure ⟨s, 2⟩
  | .ok operand => do
    let m ← get
    if branch_taken opcode m then branch_to operand else pure ⟨.ok, 2⟩

/-- `0x4c`. -/
def case_jmp : NesM Outcome :=
  counted 3 do
    let address ← core_cpu_fetch_word
    update fun m => { m with pc := address }

/-- `0x6c`: the second byte of the vector wraps inside its page. -/
def case_jmp_indirect : NesM Outcome :=
  counted 5 do
    let address ← core_cpu_fetch_word
    let low ← core_cpu_read address
    let high ← core_cpu_read ((address &&& 0xff00) ||| ((address + 1) &&& 0x00ff))
    update fun m => { m with pc := word_of low high }

/-- Push the program counter. -/
def push_pc : NesM Unit := do
  let m ← get
  core_cpu_push ((m.pc >>> 8).truncate 8)
  core_cpu_push (m.pc.truncate 8)

/-- `0x20`. -/
def case_jsr : NesM Outcome :=
  counted 6 do
    let operand ← core_cpu_fetch
    let _ ← stack_read
    push_pc
    let high ← core_cpu_fetch
    update fun m => { m with pc := word_of operand high }

/-- A read of the next program byte that is thrown away. -/
def discarded_read : NesM Unit := do
  let m ← get
  let _ ← core_cpu_read m.pc
  pure ()

/-- `0x60`. -/
def case_rts : NesM Outcome :=
  counted 6 do
    discarded_read
    let _ ← stack_read
    let low ← core_cpu_pop
    let high ← core_cpu_pop
    let _ ← core_cpu_read (word_of low high)
    update fun m => { m with pc := word_of low high + 1 }

/-- `0x48`, `0x08`. -/
def case_push (value : Console → U8) : NesM Outcome :=
  counted 3 do
    discarded_read
    let m ← get
    core_cpu_push (value m)

/-- `0x68`, `0x28`. -/
def case_pull (f : U8 → Console → Console) : NesM Outcome :=
  counted 4 do
    discarded_read
    let _ ← stack_read
    let value ← core_cpu_pop
    update (f value)

/-- The status register as it is pulled. -/
def pull_p (value : U8) (m : Console) : Console :=
  { m with p := (value ||| 0x20) &&& ~~~0x10#8 }

/-- `0x00`: the interrupt flag is set also when a transfer failed. -/
def case_brk : NesM Outcome := do
  let outcome ← counted 7 do
    discarded_read
    update fun m => { m with pc := m.pc + 1 }
    push_pc
    let m ← get
    core_cpu_push (m.p ||| 0x10 ||| 0x20)
    let low ← core_cpu_read 0xfffe
    let high ← core_cpu_read 0xffff
    update fun m => { m with pc := word_of low high }
  update fun m => { m with p := m.p ||| 0x04 }
  pure outcome

/-- `0x40`. -/
def case_rti : NesM Outcome :=
  counted 6 do
    discarded_read
    let _ ← stack_read
    let p ← core_cpu_pop
    update (pull_p p)
    let low ← core_cpu_pop
    let high ← core_cpu_pop
    update fun m => { m with pc := word_of low high }

/-- The switch of `core_machine_step`: the opcodes of each case, and the case. -/
def switch_cases : List (List U8 × (U8 → NesM Outcome)) :=
  [([0x78], fun _ => implied fun m => { m with p := m.p ||| 0x04 }),
   ([0x18], fun _ => implied fun m => { m with p := m.p &&& ~~~0x01#8 }),
   ([0x38], fun _ => implied fun m => { m with p := m.p ||| 0x01 }),
   ([0x58], fun _ => implied fun m => { m with p := m.p &&& ~~~0x04#8 }),
   ([0xb8], fun _ => implied fun m => { m with p := m.p &&& ~~~0x40#8 }),
   ([0xd8], fun _ => implied fun m => { m with p := m.p &&& ~~~0x08#8 }),
   ([0xf8], fun _ => implied fun m => { m with p := m.p ||| 0x08 }),
   ([0xea], fun _ => implied id),
   ([0x0a], fun _ => implied (shift_a false false)),
   ([0x4a], fun _ => implied (shift_a false true)),
   ([0x2a], fun _ => implied (shift_a true false)),
   ([0x6a], fun _ => implied (shift_a true true)),
   ([0xa9], fun _ => load_form immediate store_a (·.a)),
   ([0x09], fun _ => immediate ora),
   ([0x29], fun _ => immediate and_a),
   ([0x49], fun _ => immediate eor),
   ([0xc9], fun _ => immediate fun operand m => core_cpu_compare m.a operand m),
   ([0xc0], fun _ => immediate fun operand m => core_cpu_compare m.y operand m),
   ([0x24, 0x2c], case_bit),
   ([0x69], fun _ => immediate (add_or_subtract false)),
   ([0xe9], fun _ => immediate (add_or_subtract true)),
   ([0x65, 0xe5, 0x6d, 0xed], case_add),
   ([0x75, 0xf5, 0x7d, 0xfd, 0x79, 0xf9, 0x61, 0xe1, 0x71, 0xf1], case_add_indexed),
   ([0x05, 0x25, 0x45, 0x0d, 0x2d, 0x4d], case_logic),
   ([0x15, 0x35, 0x55, 0x1d, 0x3d, 0x5d, 0x19, 0x39, 0x59], case_logic_indexed),
   ([0x01, 0x21, 0x41, 0x11, 0x31, 0x51], case_logic_indirect),
   ([0xc5, 0xcd, 0xc4, 0xcc, 0xe4, 0xec], case_compare),
   ([0xd5, 0xdd, 0xd9, 0xc1, 0xd1], case_compare_indexed),
   ([0x06, 0x46, 0x26, 0x66, 0x16, 0x56, 0x36, 0x76,
     0x0e, 0x4e, 0x2e, 0x6e, 0x1e, 0x5e, 0x3e, 0x7e], case_shift),
   ([0xa5], fun _ => load_form (read_form zero_page 3) store_a (·.a)),
   ([0xb5], fun _ => load_form (read_form (zero_page_indexed (·.x)) 4) store_a (·.a)),
   ([0xad], fun _ => load_form (read_form absolute 4) store_a (·.a)),
   ([0xbd], fun _ => load_form (read_form (absolute_indexed (·.x) false) 4) store_a (·.a)),
   ([0xb9], fun _ => load_form (read_form (absolute_indexed (·.y) false) 4) store_a (·.a)),
   ([0xa1], fun _ => load_form (read_form indirect_x 6) store_a (·.a)),
   ([0xb1], fun _ => load_form (read_form (core_cpu_indirect_y_address false) 5)
      store_a (·.a)),
   ([0x85], fun _ => write_form zero_page 3 (·.a)),
   ([0x8d], fun _ => write_form absolute 4 (·.a)),
   ([0x95], fun _ => write_form (zero_page_indexed (·.x)) 4 (·.a)),
   ([0x9d], fun _ => write_form (absolute_indexed (·.x) true) 5 (·.a)),
   ([0x99], fun _ => write_form (absolute_indexed (·.y) true) 5 (·.a)),
   ([0x81], fun _ => write_form indirect_x 6 (·.a)),
   ([0x91], fun _ => write_form (core_cpu_indirect_y_address true) 6 (·.a)),
   ([0x84], fun _ => write_form zero_page 3 (·.y)),
   ([0x94], fun _ => write_form (zero_page_indexed (·.x)) 4 (·.y)),
   ([0x8c], fun _ => write_form absolute 4 (·.y)),
   ([0x86], fun _ => write_form zero_page 3 (·.x)),
   ([0x96], fun _ => write_form (zero_page_indexed (·.y)) 4 (·.x)),
   ([0x8e], fun _ => write_form absolute 4 (·.x)),
   ([0xe6, 0xc6, 0xf6, 0xd6], case_count),
   ([0xee, 0xce, 0xfe, 0xde], case_count_absolute),
   ([0xa2], fun _ => load_form immediate store_x (·.x)),
   ([0xa0], fun _ => load_form immediate store_y (·.y)),
   ([0xa4], fun _ => load_form (read_form zero_page 3) store_y (·.y)),
   ([0xb4], fun _ => load_form (read_form (zero_page_indexed (·.x)) 4) store_y (·.y)),
   ([0xac], fun _ => load_form (read_form absolute 4) store_y (·.y)),
   ([0xbc], fun _ => load_form (read_form (absolute_indexed (·.x) false) 4) store_y (·.y)),
   ([0xa6], fun _ => load_form (read_form zero_page 3) store_x (·.x)),
   ([0xb6], fun _ => load_form (read_form (zero_page_indexed (·.y)) 4) store_x (·.x)),
   ([0xae], fun _ => load_form (read_form absolute 4) store_x (·.x)),
   ([0xbe], fun _ => load_form (read_form (absolute_indexed (·.y) false) 4) store_x (·.x)),
   ([0xe8], fun _ => implied fun m => set_x (m.x + 1) m),
   ([0xc8], fun _ => implied fun m => set_y (m.y + 1) m),
   ([0x88], fun _ => implied fun m => set_y (m.y - 1) m),
   ([0xaa], fun _ => implied fun m => set_x m.a m),
   ([0xa8], fun _ => implied fun m => set_y m.a m),
   ([0x8a], fun _ => implied fun m => set_a m.x m),
   ([0x98], fun _ => implied fun m => set_a m.y m),
   ([0xba], fun _ => implied fun m => set_x m.s m),
   ([0x9a], fun _ => implied fun m => { m with s := m.x }),
   ([0xca], fun _ => implied fun m => set_x (m.x - 1) m),
   ([0xe0], fun _ => immediate fun operand m => core_cpu_compare m.x operand m),
   ([0x10, 0x30, 0x50, 0x70, 0x90, 0xb0, 0xd0, 0xf0], case_branch),
   ([0x4c], fun _ => case_jmp),
   ([0x6c], fun _ => case_jmp_indirect),
   ([0x20], fun _ => case_jsr),
   ([0x60], fun _ => case_rts),
   ([0x48], fun _ => case_push (·.a)),
   ([0x68], fun _ => case_pull set_a),
   ([0x08], fun _ => case_push fun m => m.p ||| 0x10 ||| 0x20),
   ([0x28], fun _ => case_pull pull_p),
   ([0x00], fun _ => case_brk),
   ([0x40], fun _ => case_rti)]

/-- The opcodes `core_opcode_describe` knows. -/
def core_opcode_table : List U8 :=
  [0x00, 0x01, 0x05, 0x06, 0x08, 0x09, 0x0a, 0x0d, 0x0e, 0x10, 0x11, 0x15, 0x16, 0x18,
   0x19, 0x1d, 0x1e, 0x20, 0x21, 0x24, 0x25, 0x26, 0x28, 0x29, 0x2a, 0x2c, 0x2d, 0x2e,
   0x30, 0x31, 0x35, 0x36, 0x38, 0x39, 0x3d, 0x3e, 0x40, 0x41, 0x45, 0x46, 0x48, 0x49,
   0x4a, 0x4c, 0x4d, 0x4e, 0x50, 0x51, 0x55, 0x56, 0x58, 0x59, 0x5d, 0x5e, 0x60, 0x61,
   0x65, 0x66, 0x68, 0x69, 0x6a, 0x6c, 0x6d, 0x6e, 0x70, 0x71, 0x75, 0x76, 0x78, 0x79,
   0x7d, 0x7e, 0x81, 0x84, 0x85, 0x86, 0x88, 0x8a, 0x8c, 0x8d, 0x8e, 0x90, 0x91, 0x94,
   0x95, 0x96, 0x98, 0x99, 0x9a, 0x9d, 0xa0, 0xa1, 0xa2, 0xa4, 0xa5, 0xa6, 0xa8, 0xa9,
   0xaa, 0xac, 0xad, 0xae, 0xb0, 0xb1, 0xb4, 0xb5, 0xb6, 0xb8, 0xb9, 0xba, 0xbc, 0xbd,
   0xbe, 0xc0, 0xc1, 0xc4, 0xc5, 0xc6, 0xc8, 0xc9, 0xca, 0xcc, 0xcd, 0xce, 0xd0, 0xd1,
   0xd5, 0xd6, 0xd8, 0xd9, 0xdd, 0xde, 0xe0, 0xe1, 0xe4, 0xe5, 0xe6, 0xe8, 0xe9, 0xea,
   0xec, 0xed, 0xee, 0xf0, 0xf1, 0xf5, 0xf6, 0xf8, 0xf9, 0xfd, 0xfe]

/-- An opcode that is not executed. -/
def unsupported_opcode (opcode_pc : U16) (opcode : U8) : NesM Outcome := do
  update fun m =>
    { m with trap := { m.trap with
        trap_valid := true
        trap_reason := .unsupported_opcode
        trap_pc := opcode_pc
        trap_opcode := opcode } }
  pure ⟨.ok, 1⟩

/-- The instruction of an opcode: the case it selects. -/
def execute_opcode (opcode_pc : U16) (opcode : U8) : NesM Outcome :=
  if opcode ∉ core_opcode_table then unsupported_opcode opcode_pc opcode
  else
    match switch_cases.find? fun c => decide (opcode ∈ c.1) with
    | some c => c.2 opcode
    | none => unsupported_opcode opcode_pc opcode

/-! ## One instruction -/

/-- Implied and accumulator forms read the next program byte on their second cycle; the one
transfer in the trace tells them from the immediate forms. -/
def completed (outcome : Outcome) : NesM Status := do
  let m ← get
  if outcome.status = .ok ∧ outcome.cycles = 2 ∧ m.trace_count = 1 then
    let r ← status_of discarded_read
    pure (code r)
  else pure outcome.status

/-- A failed instruction ends in a trap. -/
def trap_failure (status : Status) (opcode_pc : U16) (opcode : U8) (m : Console) : Console :=
  if status = .ok then m
  else
    let trap := if m.trap.trap_valid then m.trap
      else { m.trap with trap_valid := true, trap_reason := .bus_failure }
    { m with trap := { trap with trap_pc := opcode_pc, trap_opcode := opcode } }

/-- What an instruction that did not trap leaves for interrupt polling. -/
def retire (opcode : U8) (poll_i : Bool) (m : Console) : Console :=
  if m.trap.trap_valid then m
  else
    { m with
      irq_poll_i :=
        if opcode = 0x58 ∨ opcode = 0x78 ∨ opcode = 0x28 then poll_i
        else core_cpu_flag_is_set m 0x04
      instructions := m.instructions + 1 }

/-- `core_machine_step`: the cycles of the instruction. -/
def core_machine_step : NesM U32 := do
  core_bus_trace_reset
  let m ← get
  if m.trap.trap_valid then fail .invalid_state
  else
    let opcode ← core_cpu_fetch
    let outcome ← execute_opcode m.pc opcode
    let status ← completed outcome
    update fun m => { m with cycles := m.cycles + outcome.cycles.zeroExtend 64 }
    update (trap_failure status m.pc opcode)
    update (retire opcode (core_cpu_flag_is_set m 0x04))
    pure outcome.cycles

/-! ## Interrupts -/

/-- The transfers of an interrupt up to its vector. A non-maskable interrupt that arrives
meanwhile takes the sequence over. -/
def interrupt_entry (nmi : Bool) : NesM Bool := do
  discarded_read
  discarded_read
  push_pc
  let m ← get
  core_cpu_push ((m.p ||| 0x20) &&& ~~~0x10#8)
  let m ← get
  if !nmi ∧ m.nmi_pending then
    update fun m => { m with nmi_pending := false }
    pure true
  else pure nmi

/-- The vector of an interrupt whose entry went well. -/
def interrupt_vector (entry : Except Status Bool) : NesM U16 := do
  let nmi ← rethrow entry
  let low ← core_cpu_read (if nmi then 0xfffa else 0xfffe)
  let high ← core_cpu_read (if nmi then 0xfffb else 0xffff)
  pure (word_of low high)

/-- The interrupt sequence. -/
def interrupt_sequence (nmi : Bool) : NesM Unit := do
  update fun m =>
    { m with nmi_pending := if nmi then false else m.nmi_pending, interrupt_phase := 1 }
  let entry ← status_of (interrupt_entry nmi)
  update fun m => { m with interrupt_phase := 2 }
  let vector ← status_of (interrupt_vector entry)
  update fun m => { m with interrupt_phase := 0 }
  let pc ← rethrow vector
  update fun m =>
    { m with pc := pc, p := m.p ||| 0x04, irq_poll_i := true, cycles := m.cycles + 7 }

/-- `core_machine_service_interrupt`: whether one was served. A served interrupt takes seven
cycles. -/
def core_machine_service_interrupt : NesM Bool := do
  core_bus_trace_reset
  let m ← get
  if m.nmi_pending ∧ m.nmi_defer_once then
    update fun m => { m with nmi_defer_once := false }
    pure false
  else if !m.nmi_pending ∧ (!m.irq_asserted ∨ m.irq_poll_i) then pure false
  else
    interrupt_sequence m.nmi_pending
    pure true

end Nxvm.Nes
