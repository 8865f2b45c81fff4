/-
The Intel 8080 as its manual describes it: registers, the five condition flags, the
opcode map, and an interpreter over a bus of any kind.

The opcode map is read in octal, as the manual prints it: two bits of class, three of
destination, three of source. Reserved opcodes decode to nothing, and so do the three
instructions that are about interrupts (`HLT`, `EI`, `DI`), which this machine does not
have. The arithmetic is on natural numbers, and a subtraction is the addition of the
complement, which is where its auxiliary carry comes from.
-/
import Nxvm.Lib.Exec
import Mathlib.Data.BitVec

set_option autoImplicit false

namespace Nxvm.Lib.Intel8080

open Nxvm.Lib.Exec

abbrev Byte := BitVec 8
abbrev Word := BitVec 16

/-! ## Registers -/

/-- The condition flags: sign, zero, auxiliary carry, parity, carry. -/
structure Flags where
  s : Bool
  z : Bool
  ac : Bool
  p : Bool
  cy : Bool
  deriving DecidableEq, Repr

namespace Flags

/-- The flags as `PUSH PSW` stores them: S Z 0 AC 0 P 1 CY. -/
def byte (f : Flags) : Byte :=
  BitVec.ofBool f.s ++ BitVec.ofBool f.z ++ 0#1 ++ BitVec.ofBool f.ac ++ 0#1 ++
    BitVec.ofBool f.p ++ 1#1 ++ BitVec.ofBool f.cy

/-- The flags as `POP PSW` loads them. -/
def of_byte (b : Byte) : Flags :=
  ⟨b.getLsbD 7, b.getLsbD 6, b.getLsbD 4, b.getLsbD 2, b.getLsbD 0⟩

end Flags

structure Registers where
  a : Byte
  b : Byte
  c : Byte
  d : Byte
  e : Byte
  h : Byte
  l : Byte
  sp : Word
  pc : Word
  flags : Flags
  deriving DecidableEq, Repr

/-- An operand field: a register, or the byte in memory that HL points at. -/
inductive Reg where
  | b | c | d | e | h | l | m | a
  deriving DecidableEq, Repr

/-- The register pairs of the sixteen-bit instructions. -/
inductive Pair where
  | bc | de | hl | sp
  deriving DecidableEq, Repr

/-- The pairs `STAX` and `LDAX` point with. -/
inductive Pointer where
  | bc | de
  deriving DecidableEq, Repr

/-- The pairs that are pushed and popped. -/
inductive Stacked where
  | bc | de | hl | psw
  deriving DecidableEq, Repr

inductive Cond where
  | nz | z | nc | c | po | pe | p | m
  deriving DecidableEq, Repr

inductive Alu where
  | add | adc | sub | sbb | ana | xra | ora | cmp
  deriving DecidableEq, Repr

inductive Rotate where
  | rlc | rrc | ral | rar
  deriving DecidableEq, Repr

namespace Registers

/-- The high byte of a pair is its first register. -/
def pair (r : Registers) : Pair → Word
  | .bc => r.b ++ r.c
  | .de => r.d ++ r.e
  | .hl => r.h ++ r.l
  | .sp => r.sp

def set_pair (r : Registers) (w : Word) : Pair → Registers
  | .bc => { r with b := w.extractLsb' 8 8, c := w.extractLsb' 0 8 }
  | .de => { r with d := w.extractLsb' 8 8, e := w.extractLsb' 0 8 }
  | .hl => { r with h := w.extractLsb' 8 8, l := w.extractLsb' 0 8 }
  | .sp => { r with sp := w }

/-- A register by its operand field; `m` is no register. -/
def reg (r : Registers) : Reg → Byte
  | .b => r.b
  | .c => r.c
  | .d => r.d
  | .e => r.e
  | .h => r.h
  | .l => r.l
  | .m => 0
  | .a => r.a

def set_reg (r : Registers) (v : Byte) : Reg → Registers
  | .b => { r with b := v }
  | .c => { r with c := v }
  | .d => { r with d := v }
  | .e => { r with e := v }
  | .h => { r with h := v }
  | .l => { r with l := v }
  | .m => r
  | .a => { r with a := v }

end Registers

namespace Pointer

def pair : Pointer → Pair
  | .bc => .bc
  | .de => .de

end Pointer

/-! ## Arithmetic -/

/-- An even number of ones. -/
def even_parity (v : Byte) : Bool := ((List.range 8).filter v.getLsbD).length % 2 == 0

/-- `x + y + carry`, with the flags of the sum. -/
def add (x y : Byte) (carry : Bool) : Byte × Flags :=
  let sum := x.toNat + y.toNat + carry.toNat
  let result := BitVec.ofNat 8 sum
  (result,
    { s := result.msb
      z := result == 0
      ac := 16 ≤ x.toNat % 16 + y.toNat % 16 + carry.toNat
      p := even_parity result
      cy := 256 ≤ sum })

/-- `x - y - borrow`: the complement of `y` is added, and no carry out is a borrow. -/
def sub (x y : Byte) (borrow : Bool) : Byte × Flags :=
  let sum := x.toNat + (255 - y.toNat) + (!borrow).toNat
  let result := BitVec.ofNat 8 sum
  (result,
    { s := result.msb
      z := result == 0
      ac := 16 ≤ x.toNat % 16 + (15 - y.toNat % 16) + (!borrow).toNat
      p := even_parity result
      cy := sum < 256 })

/-- A logical result: no carry, and the auxiliary carry that goes with it. -/
def logic (result : Byte) (ac : Bool) : Byte × Flags :=
  (result, { s := result.msb, z := result == 0, ac := ac, p := even_parity result, cy := false })

/-- The eight operations on the accumulator. `ANA` takes the auxiliary carry from bit 3
of either operand. -/
def Alu.result (x y : Byte) (cy : Bool) : Alu → Byte × Flags
  | .add => Intel8080.add x y false
  | .adc => Intel8080.add x y cy
  | .sub => Intel8080.sub x y false
  | .sbb => Intel8080.sub x y cy
  | .ana => logic (x &&& y) ((x ||| y).getLsbD 3)
  | .xra => logic (x ^^^ y) false
  | .ora => logic (x ||| y) false
  | .cmp => Intel8080.sub x y false

/-- `DAA`: six is added to the low digit if it is over nine or carried, then to the high
digit if that is now over nine or carried. -/
def daa (x : Byte) (f : Flags) : Byte × Flags :=
  let low := if 9 < x.toNat % 16 ∨ f.ac then 6 else 0
  let adjusted := x.toNat + low
  let high := if 0xa0 ≤ adjusted ∨ f.cy then 0x60 else 0
  let result := BitVec.ofNat 8 (adjusted + high)
  (result,
    { s := result.msb
      z := result == 0
      ac := 16 ≤ x.toNat % 16 + low
      p := even_parity result
      cy := f.cy || 256 ≤ adjusted + high })

/-- The rotates of the accumulator, and the bit that goes to the carry. -/
def Rotate.result (x : Byte) (cy : Bool) : Rotate → Byte × Bool
  | .rlc => (x.extractLsb' 0 7 ++ BitVec.ofBool (x.getLsbD 7), x.getLsbD 7)
  | .rrc => (BitVec.ofBool (x.getLsbD 0) ++ x.extractLsb' 1 7, x.getLsbD 0)
  | .ral => (x.extractLsb' 0 7 ++ BitVec.ofBool cy, x.getLsbD 7)
  | .rar => (BitVec.ofBool cy ++ x.extractLsb' 1 7, x.getLsbD 0)

def Cond.holds (f : Flags) : Cond → Bool
  | .nz => !f.z
  | .z => f.z
  | .nc => !f.cy
  | .c => f.cy
  | .po => !f.p
  | .pe => f.p
  | .p => !f.s
  | .m => f.s

/-! ## Instructions -/

inductive Instr where
  | nop
  | mov (dest src : Reg)
  | mvi (dest : Reg)
  | lxi (pair : Pair)
  | stax (pointer : Pointer)
  | ldax (pointer : Pointer)
  | shld
  | lhld
  | sta
  | lda
  | inx (pair : Pair)
  | dcx (pair : Pair)
  | dad (pair : Pair)
  | inr (reg : Reg)
  | dcr (reg : Reg)
  | rotate (kind : Rotate)
  | daa
  | cma
  | stc
  | cmc
  | alu (op : Alu) (src : Reg)
  | alui (op : Alu)
  | jmp
  | jump_if (cond : Cond)
  | call
  | call_if (cond : Cond)
  | ret
  | return_if (cond : Cond)
  | rst (vector : BitVec 3)
  | push (pair : Stacked)
  | pop (pair : Stacked)
  | xthl
  | xchg
  | pchl
  | sphl
  | input
  | output
  deriving DecidableEq, Repr

def Reg.code : Reg → BitVec 3
  | .b => 0 | .c => 1 | .d => 2 | .e => 3 | .h => 4 | .l => 5 | .m => 6 | .a => 7

def Reg.of_code (y : BitVec 3) : Reg :=
  match y.toNat with
  | 0 => .b | 1 => .c | 2 => .d | 3 => .e | 4 => .h | 5 => .l | 6 => .m | _ => .a

def Alu.code : Alu → BitVec 3
  | .add => 0 | .adc => 1 | .sub => 2 | .sbb => 3 | .ana => 4 | .xra => 5 | .ora => 6 | .cmp => 7

def Alu.of_code (y : BitVec 3) : Alu :=
  match y.toNat with
  | 0 => .add | 1 => .adc | 2 => .sub | 3 => .sbb | 4 => .ana | 5 => .xra | 6 => .ora | _ => .cmp

def Cond.code : Cond → BitVec 3
  | .nz => 0 | .z => 1 | .nc => 2 | .c => 3 | .po => 4 | .pe => 5 | .p => 6 | .m => 7

def Cond.of_code (y : BitVec 3) : Cond :=
  match y.toNat with
  | 0 => .nz | 1 => .z | 2 => .nc | 3 => .c | 4 => .po | 5 => .pe | 6 => .p | _ => .m

def Pair.code : Pair → BitVec 2
  | .bc => 0 | .de => 1 | .hl => 2 | .sp => 3

def Pair.of_code (rp : BitVec 2) : Pair :=
  match rp.toNat with
  | 0 => .bc | 1 => .de | 2 => .hl | _ => .sp

def Pointer.code : Pointer → BitVec 2
  | .bc => 0 | .de => 1

def Stacked.code : Stacked → BitVec 2
  | .bc => 0 | .de => 1 | .hl => 2 | .psw => 3

def Stacked.of_code (rp : BitVec 2) : Stacked :=
  match rp.toNat with
  | 0 => .bc | 1 => .de | 2 => .hl | _ => .psw

def Rotate.code : Rotate → BitVec 3
  | .rlc => 0 | .rrc => 1 | .ral => 2 | .rar => 3

/-- An opcode by its three octal digits. -/
def octal (x : BitVec 2) (y z : BitVec 3) : Byte := x ++ y ++ z

/-- The opcode map. -/
def Instr.opcode : Instr → Byte
  | .nop => octal 0 0 0
  | .lxi p => octal 0 (p.code ++ 0#1) 1
  | .dad p => octal 0 (p.code ++ 1#1) 1
  | .stax p => octal 0 (p.code ++ 0#1) 2
  | .ldax p => octal 0 (p.code ++ 1#1) 2
  | .shld => octal 0 4 2
  | .lhld => octal 0 5 2
  | .sta => octal 0 6 2
  | .lda => octal 0 7 2
  | .inx p => octal 0 (p.code ++ 0#1) 3
  | .dcx p => octal 0 (p.code ++ 1#1) 3
  | .inr r => octal 0 r.code 4
  | .dcr r => octal 0 r.code 5
  | .mvi r => octal 0 r.code 6
  | .rotate k => octal 0 k.code 7
  | .daa => octal 0 4 7
  | .cma => octal 0 5 7
  | .stc => octal 0 6 7
  | .cmc => octal 0 7 7
  | .mov dest src => octal 1 dest.code src.code
  | .alu op src => octal 2 op.code src.code
  | .return_if cond => octal 3 cond.code 0
  | .pop p => octal 3 (p.code ++ 0#1) 1
  | .ret => octal 3 1 1
  | .pchl => octal 3 5 1
  | .sphl => octal 3 7 1
  | .jump_if cond => octal 3 cond.code 2
  | .jmp => octal 3 0 3
  | .output => octal 3 2 3
  | .input => octal 3 3 3
  | .xthl => octal 3 4 3
  | .xchg => octal 3 5 3
  | .call_if cond => octal 3 cond.code 4
  | .push p => octal 3 (p.code ++ 0#1) 5
  | .call => octal 3 1 5
  | .alui op => octal 3 op.code 6
  | .rst n => octal 3 n 7

/-- Class 0: sixteen-bit and single-register instructions, by the last digit. -/
def decode_class_0 (y z : BitVec 3) : Option Instr :=
  let rp := Pair.of_code (y.extractLsb' 1 2)
  match z.toNat, y.toNat with
  | 0, 0 => some .nop
  | 0, _ => none
  | 1, _ => some (if y.getLsbD 0 then .dad rp else .lxi rp)
  | 2, 0 => some (.stax .bc)
  | 2, 1 => some (.ldax .bc)
  | 2, 2 => some (.stax .de)
  | 2, 3 => some (.ldax .de)
  | 2, 4 => some .shld
  | 2, 5 => some .lhld
  | 2, 6 => some .sta
  | 2, _ => some .lda
  | 3, _ => some (if y.getLsbD 0 then .dcx rp else .inx rp)
  | 4, _ => some (.inr (Reg.of_code y))
  | 5, _ => some (.dcr (Reg.of_code y))
  | 6, _ => some (.mvi (Reg.of_code y))
  | _, 0 => some (.rotate .rlc)
  | _, 1 => some (.rotate .rrc)
  | _, 2 => some (.rotate .ral)
  | _, 3 => some (.rotate .rar)
  | _, 4 => some .daa
  | _, 5 => some .cma
  | _, 6 => some .stc
  | _, _ => some .cmc

/-- Class 3: branches, the stack, ports and immediate operands. -/
def decode_class_3 (y z : BitVec 3) : Option Instr :=
  let rp := Stacked.of_code (y.extractLsb' 1 2)
  match z.toNat, y.toNat with
  | 0, _ => some (.return_if (Cond.of_code y))
  | 1, 1 => some .ret
  | 1, 3 => none
  | 1, 5 => some .pchl
  | 1, 7 => some .sphl
  | 1, _ => some (.pop rp)
  | 2, _ => some (.jump_if (Cond.of_code y))
  | 3, 0 => some .jmp
  | 3, 2 => some .output
  | 3, 3 => some .input
  | 3, 4 => some .xthl
  | 3, 5 => some .xchg
  -- a reserved code, DI and EI
  | 3, _ => none
  | 4, _ => some (.call_if (Cond.of_code y))
  | 5, 1 => some .call
  | 5, _ => if y.getLsbD 0 then none else some (.push rp)
  | 6, _ => some (.alui (Alu.of_code y))
  | _, _ => some (.rst y)

/-- The documented instruction an opcode stands for. -/
def decode (op : Byte) : Option Instr :=
  let y := op.extractLsb' 3 3
  let z := op.extractLsb' 0 3
  match (op.extractLsb' 6 2).toNat with
  | 0 => decode_class_0 y z
  -- HLT has the place of a move from memory to memory
  | 1 => if y = 6 ∧ z = 6 then none else some (.mov (Reg.of_code y) (Reg.of_code z))
  | 2 => some (.alu (Alu.of_code y) (Reg.of_code z))
  | _ => decode_class_3 y z

/-- Decoding reads the opcode map backwards. -/
theorem opcode_of_decode {op : Byte} {i : Instr} (h : decode op = some i) : i.opcode = op := by
  have hall : ∀ o : Byte, (decode o).all (fun j => j.opcode == o) = true := by decide +kernel
  have ho := hall op
  rw [h] at ho
  simpa using ho

/-- How many bytes an instruction has. -/
def Instr.length : Instr → ℕ
  | .lxi _ | .shld | .lhld | .sta | .lda | .jmp | .jump_if _ | .call | .call_if _ => 3
  | .mvi _ | .alui _ | .input | .output => 2
  | _ => 1

theorem Instr.length_pos (i : Instr) : 0 < i.length := by
  cases i <;> simp [Instr.length]

/-! ## The machine

Instructions come from `fetch`, which has no effect. Everything else is a cycle on the
bus, which may fail; a failed instruction leaves the registers as they were, and keeps
on the bus what its earlier cycles did. -/

structure Bus (σ : Type) where
  fetch : Word → σ → Byte
  read : Word → σ → Option Byte × σ
  write : Word → Byte → σ → Bool × σ
  input : Byte → σ → Option Byte × σ
  output : Byte → Byte → σ → Bool × σ

structure Machine (σ : Type) where
  regs : Registers
  bus : σ

abbrev Run (σ : Type) := EStateM Unit (Machine σ)

section Interpreter

variable {σ : Type} (bus : Bus σ)

def get_regs : Run σ Registers := query fun m => m.regs

def set_regs (f : Registers → Registers) : Run σ Unit := update fun m => { m with regs := f m.regs }

theorem get_regs_bind {α : Type} (f : Registers → Run σ α) (m : Machine σ) :
    (get_regs >>= f) m = f m.regs m := rfl

/-- Take the answer of a bus cycle. -/
def answer {α : Type} (m : Machine σ) : Option α × σ → EStateM.Result Unit (Machine σ) α
  | (some v, b) => .ok v { m with bus := b }
  | (none, b) => .error () { m with bus := b }

/-- Take the acknowledgement of a bus cycle. -/
def acknowledge (m : Machine σ) : Bool × σ → EStateM.Result Unit (Machine σ) Unit
  | (true, b) => .ok () { m with bus := b }
  | (false, b) => .error () { m with bus := b }

def read (a : Word) : Run σ Byte := fun m => answer m (bus.read a m.bus)

def write (a : Word) (v : Byte) : Run σ Unit := fun m => acknowledge m (bus.write a v m.bus)

def input (port : Byte) : Run σ Byte := fun m => answer m (bus.input port m.bus)

def output (port v : Byte) : Run σ Unit := fun m => acknowledge m (bus.output port v m.bus)

/-- A word, low byte first. -/
def read_word (a : Word) : Run σ Word := do
  let low ← read bus a
  let high ← read bus (a + 1)
  pure (high ++ low)

def write_word (a w : Word) : Run σ Unit := do
  write bus a (w.extractLsb' 0 8)
  write bus (a + 1) (w.extractLsb' 8 8)

def read_operand (r : Reg) : Run σ Byte := do
  let regs ← get_regs
  if r = .m then read bus (regs.pair .hl) else pure (regs.reg r)

def write_operand (r : Reg) (v : Byte) : Run σ Unit := do
  let regs ← get_regs
  if r = .m then write bus (regs.pair .hl) v else set_regs fun regs => regs.set_reg v r

/-- The high byte is pushed first, at the higher address. -/
def push_word (w : Word) : Run σ Unit := do
  let regs ← get_regs
  write bus (regs.sp - 1) (w.extractLsb' 8 8)
  write bus (regs.sp - 2) (w.extractLsb' 0 8)
  set_regs fun regs => { regs with sp := regs.sp - 2 }

def pop_word : Run σ Word := do
  let regs ← get_regs
  let w ← read_word bus regs.sp
  set_regs fun regs => { regs with sp := regs.sp + 2 }
  pure w

def jump_to (target : Word) : Run σ Unit := set_regs fun regs => { regs with pc := target }

def call_to (target : Word) : Run σ Unit := do
  let regs ← get_regs
  push_word bus regs.pc
  jump_to target

def return_from : Run σ Unit := do
  let target ← pop_word bus
  jump_to target

/-- An operation on the accumulator. -/
def operate (op : Alu) (v : Byte) : Run σ Unit :=
  set_regs fun regs =>
    let r := op.result regs.a v regs.flags.cy
    { regs with a := if op = .cmp then regs.a else r.1, flags := r.2 }

/-- The word on top of which pair is pushed; PSW is the accumulator over the flags. -/
def stacked_word (regs : Registers) : Stacked → Word
  | .bc => regs.pair .bc
  | .de => regs.pair .de
  | .hl => regs.pair .hl
  | .psw => regs.a ++ regs.flags.byte

def load_stacked (w : Word) (regs : Registers) : Stacked → Registers
  | .bc => regs.set_pair w .bc
  | .de => regs.set_pair w .de
  | .hl => regs.set_pair w .hl
  | .psw => { regs with a := w.extractLsb' 8 8, flags := Flags.of_byte (w.extractLsb' 0 8) }

/-- What an instruction does, given the two bytes after its opcode. The program counter
is already behind it. -/
def exec (i : Instr) (low high : Byte) : Run σ Unit :=
  match i with
  | .nop => pure ()
  | .mov dest src => do
    let v ← read_operand bus src
    write_operand bus dest v
  | .mvi dest => write_operand bus dest low
  | .lxi p => set_regs fun regs => regs.set_pair (high ++ low) p
  | .stax p => do
    let regs ← get_regs
    write bus (regs.pair p.pair) regs.a
  | .ldax p => do
    let regs ← get_regs
    let v ← read bus (regs.pair p.pair)
    set_regs fun regs => { regs with a := v }
  | .shld => do
    let regs ← get_regs
    write_word bus (high ++ low) (regs.pair .hl)
  | .lhld => do
    let w ← read_word bus (high ++ low)
    set_regs fun regs => regs.set_pair w .hl
  | .sta => do
    let regs ← get_regs
    write bus (high ++ low) regs.a
  | .lda => do
    let v ← read bus (high ++ low)
    set_regs fun regs => { regs with a := v }
  | .inx p => set_regs fun regs => regs.set_pair (regs.pair p + 1) p
  | .dcx p => set_regs fun regs => regs.set_pair (regs.pair p - 1) p
  | .dad p => set_regs fun regs =>
    { regs.set_pair (regs.pair .hl + regs.pair p) .hl with
      flags := { regs.flags with cy := 65536 ≤ (regs.pair .hl).toNat + (regs.pair p).toNat } }
  | .inr r => do
    let v ← read_operand bus r
    set_regs fun regs => { regs with flags := { (add v 1 false).2 with cy := regs.flags.cy } }
    write_operand bus r (add v 1 false).1
  | .dcr r => do
    let v ← read_operand bus r
    set_regs fun regs => { regs with flags := { (sub v 1 false).2 with cy := regs.flags.cy } }
    write_operand bus r (sub v 1 false).1
  | .rotate k => set_regs fun regs =>
    let r := k.result regs.a regs.flags.cy
    { regs with a := r.1, flags := { regs.flags with cy := r.2 } }
  | .daa => set_regs fun regs =>
    let r := Intel8080.daa regs.a regs.flags
    { regs with a := r.1, flags := r.2 }
  | .cma => set_regs fun regs => { regs with a := ~~~regs.a }
  | .stc => set_regs fun regs => { regs with flags := { regs.flags with cy := true } }
  | .cmc => set_regs fun regs => { regs with flags := { regs.flags with cy := !regs.flags.cy } }
  | .alu op src => do
    let v ← read_operand bus src
    operate op v
  | .alui op => operate op low
  | .jmp => jump_to (high ++ low)
  | .jump_if cond => do
    let regs ← get_regs
    if cond.holds regs.flags then jump_to (high ++ low) else pure ()
  | .call => call_to bus (high ++ low)
  | .call_if cond => do
    let regs ← get_regs
    if cond.holds regs.flags then call_to bus (high ++ low) else pure ()
  | .ret => return_from bus
  | .return_if cond => do
    let regs ← get_regs
    if cond.holds regs.flags then return_from bus else pure ()
  | .rst n => call_to bus (n.setWidth 16 <<< 3)
  | .push p => do
    let regs ← get_regs
    push_word bus (stacked_word regs p)
  | .pop p => do
    let w ← pop_word bus
    set_regs fun regs => load_stacked w regs p
  | .xthl => do
    let regs ← get_regs
    let w ← read_word bus regs.sp
    write_word bus regs.sp (regs.pair .hl)
    set_regs fun regs => regs.set_pair w .hl
  | .xchg => set_regs fun regs =>
    (regs.set_pair (regs.pair .hl) .de).set_pair (regs.pair .de) .hl
  | .pchl => set_regs fun regs => { regs with pc := regs.pair .hl }
  | .sphl => set_regs fun regs => { regs with sp := regs.pair .hl }
  | .input => do
    let v ← input bus low
    set_regs fun regs => { regs with a := v }
  | .output => do
    let regs ← get_regs
    output bus low regs.a

/-- An instruction uses no byte that is not its own. -/
theorem exec_own_bytes (i : Instr) (low high : Byte) :
    exec bus i (if 1 < i.length then low else 0) (if 2 < i.length then high else 0) =
      exec bus i low high := by
  cases i <;> rfl

/-- A failed instruction leaves the registers as they were. -/
def restoring {α : Type} (x : Run σ α) : Run σ α := fun m =>
  match x m with
  | .ok v m' => .ok v m'
  | .error e m' => .error e { m' with regs := m.regs }

/-- The instruction at the program counter; an opcode that is none stops the machine. -/
def step : Run σ Unit := fun m =>
  let pc := m.regs.pc
  match decode (bus.fetch pc m.bus) with
  | none => .error () m
  | some i =>
    restoring (do
      set_regs fun regs => { regs with pc := regs.pc + BitVec.ofNat 16 i.length }
      exec bus i (bus.fetch (pc + 1) m.bus) (bus.fetch (pc + 2) m.bus)) m

theorem restoring_ok {α : Type} {x : Run σ α} {m m' : Machine σ} {v : α} (h : x m = .ok v m') :
    restoring x m = .ok v m' := by
  rw [restoring, h]

theorem restoring_error {α : Type} {x : Run σ α} {m m' : Machine σ} (h : x m = .error () m') :
    restoring x m = .error () { m' with regs := m.regs } := by
  rw [restoring, h]

/-- A step executes from behind the instruction, and restores what was before it. -/
theorem step_of_decode {m : Machine σ} {i : Instr}
    (h : decode (bus.fetch m.regs.pc m.bus) = some i) :
    step bus m = restoring (fun m' =>
      exec bus i (bus.fetch (m.regs.pc + 1) m.bus) (bus.fetch (m.regs.pc + 2) m.bus)
        { m' with regs := { m'.regs with pc := m'.regs.pc + BitVec.ofNat 16 i.length } }) m := by
  simp only [step, h]
  rfl

/-- `n` instructions, or as many as succeed. -/
def run : ℕ → Run σ Unit
  | 0 => pure ()
  | n + 1 => do
    step bus
    run n

end Interpreter

end Nxvm.Lib.Intel8080
