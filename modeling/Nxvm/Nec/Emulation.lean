/-
8080 emulation on the V30 (`NEC_EMULATION` and what it calls), with the prefetch queue
it fetches from (`ExecInit`, `_s_read_cs`, `_kdf_skip`) and the restart of a faulted
instruction (`ExecFinal`).

The execution context with its memory accesses is the one of the native mode; added to
it here are the bytes of the prefetch queue. The ports of the board are parameters, as
its memory is, and so are the routines that `HLT`, `EI`, `DI` and the `ED` escapes run
in either mode. What only measures time, and what only the debugger reads, is left out.
-/
import Nxvm.Cpu.Coherence
import Nxvm.Nec.Flags

set_option autoImplicit false

namespace Nxvm.Nec

open Nxvm.Cpu Nxvm.Lib.Exec Nxvm.Lib.Memory

variable {β : Type}

/-! ## Decoding -/

/-- `nec_emulation_form`. -/
inductive NecEmulationForm where
  | reserved | nop | mov | mvi | lxi | stax | ldax | inx | dcx | dad | inr | dcr | alu | alui
  | rotate | daa | cma | stc | cmc | shld | lhld | sta | lda | jump | call | return | rst | push
  | pop | xthl | pchl | xchg | sphl | hlt | ei | di | port | escape
  deriving DecidableEq, Repr

/-- The last switch of `x86_core_cpu_emulation_form`: the opcodes that no mask takes. -/
def emulation_form_single (opcode : U8) : NecEmulationForm :=
  match opcode.toNat with
  | 0x00 => .nop
  | 0x27 => .daa
  | 0x2f => .cma
  | 0x37 => .stc
  | 0x3f => .cmc
  | 0x22 => .shld
  | 0x2a => .lhld
  | 0x32 => .sta
  | 0x3a => .lda
  | 0xc3 => .jump
  | 0xc9 => .return
  | 0xcd => .call
  | 0xd3 | 0xdb => .port
  | 0xe3 => .xthl
  | 0xe9 => .pchl
  | 0xeb => .xchg
  | 0xed => .escape
  | 0xf3 => .di
  | 0xf9 => .sphl
  | 0xfb => .ei
  | _ => .reserved

/-- `x86_core_cpu_emulation_form`. -/
def x86_core_cpu_emulation_form (opcode : U8) : NecEmulationForm :=
  if 0x40 ≤ opcode ∧ opcode < 0x80 then if opcode = 0x76 then .hlt else .mov
  else if 0x80 ≤ opcode ∧ opcode < 0xc0 then .alu
  else if opcode < 0x40 then
    if opcode &&& 0xc7 = 0x04 then .inr
    else if opcode &&& 0xc7 = 0x05 then .dcr
    else if opcode &&& 0xc7 = 0x06 then .mvi
    else if opcode &&& 0xcf = 0x01 then .lxi
    else if opcode &&& 0xcf = 0x03 then .inx
    else if opcode &&& 0xcf = 0x0b then .dcx
    else if opcode &&& 0xcf = 0x09 then .dad
    else if opcode &&& 0xef = 0x02 then .stax
    else if opcode &&& 0xef = 0x0a then .ldax
    else if opcode &&& 0xe7 = 0x07 then .rotate
    else emulation_form_single opcode
  else
    if opcode &&& 0xc7 = 0xc0 then .return
    else if opcode &&& 0xc7 = 0xc2 then .jump
    else if opcode &&& 0xc7 = 0xc4 then .call
    else if opcode &&& 0xc7 = 0xc6 then .alui
    else if opcode &&& 0xc7 = 0xc7 then .rst
    else if opcode &&& 0xcf = 0xc1 then .pop
    else if opcode &&& 0xcf = 0xc5 then .push
    else emulation_form_single opcode

/-- `_kdf_emulation_length` for an instruction of which the first two bytes are known;
zero for one that does not exist. -/
def kdf_emulation_length (byte0 byte1 : U8) : ℕ :=
  match x86_core_cpu_emulation_form byte0 with
  | .reserved => 0
  | .escape => if byte1 = 0xfd then 2 else if byte1 = 0xed then 3 else 0
  | .lxi | .shld | .lhld | .sta | .lda | .jump | .call => 3
  | .mvi | .alui | .port => 2
  | _ => 1

/-! ## Registers -/

def low_byte (r : U32) : U8 := r.extractLsb' 0 8
def high_byte (r : U32) : U8 := r.extractLsb' 8 8
def low_word (r : U32) : U16 := r.extractLsb' 0 16
def set_low_byte (r : U32) (v : U8) : U32 := (r >>> 8 <<< 8) ||| v.setWidth 32

def set_high_byte (r : U32) (v : U8) : U32 :=
  (r >>> 16 <<< 16) ||| (v.setWidth 32 <<< 8) ||| (low_byte r).setWidth 32

def set_low_word (r : U32) (v : U16) : U32 := (r >>> 16 <<< 16) ||| v.setWidth 32

/-- `_nec_byte_register`, read. -/
def nec_byte_register (cpu : CpuData) (reg : BitVec 3) : U8 :=
  match reg.toNat with
  | 0 => high_byte cpu.ecx
  | 1 => low_byte cpu.ecx
  | 2 => high_byte cpu.edx
  | 3 => low_byte cpu.edx
  | 4 => high_byte cpu.ebx
  | 5 => low_byte cpu.ebx
  | _ => low_byte cpu.eax

/-- `_nec_byte_register`, written. -/
def set_nec_byte_register (cpu : CpuData) (reg : BitVec 3) (v : U8) : CpuData :=
  match reg.toNat with
  | 0 => { cpu with ecx := set_high_byte cpu.ecx v }
  | 1 => { cpu with ecx := set_low_byte cpu.ecx v }
  | 2 => { cpu with edx := set_high_byte cpu.edx v }
  | 3 => { cpu with edx := set_low_byte cpu.edx v }
  | 4 => { cpu with ebx := set_high_byte cpu.ebx v }
  | 5 => { cpu with ebx := set_low_byte cpu.ebx v }
  | _ => { cpu with eax := set_low_byte cpu.eax v }

/-- `_nec_pair_register`, read. -/
def nec_pair_register (cpu : CpuData) (reg : BitVec 2) : U16 :=
  match reg.toNat with
  | 0 => low_word cpu.ecx
  | 1 => low_word cpu.edx
  | 2 => low_word cpu.ebx
  | _ => low_word cpu.ebp

/-- `_nec_pair_register`, written. -/
def set_nec_pair_register (cpu : CpuData) (reg : BitVec 2) (v : U16) : CpuData :=
  match reg.toNat with
  | 0 => { cpu with ecx := set_low_word cpu.ecx v }
  | 1 => { cpu with edx := set_low_word cpu.edx v }
  | 2 => { cpu with ebx := set_low_word cpu.ebx v }
  | _ => { cpu with ebp := set_low_word cpu.ebp v }

/-- `x86_core_cpu_emulation_condition`. -/
def x86_core_cpu_emulation_condition (state : U32) (condition : BitVec 3) : Bool :=
  let flag : U32 :=
    match (condition >>> 1).toNat with
    | 0 => VCPU_EFLAGS_ZF
    | 1 => VCPU_EFLAGS_CF
    | 2 => VCPU_EFLAGS_PF
    | _ => VCPU_EFLAGS_SF
  bit_is_set state flag == condition.getLsbD 0

/-! ## The board

`native` runs the forms that native mode owns, over the bytes after the opcode. -/

/-- The port callbacks of the bus: `transfer_port` answers the value of a transfer it
accepts. -/
structure PortProvider (β : Type) where
  transfer_port : U16 → ℕ → Bool → U32 → β → Option U32 × β
  complete_port : U16 → ℕ → Bool → β → β

structure Platform (β : Type) where
  bus : BusProvider β
  ports : PortProvider β
  native : NecEmulationForm → U8 → U8 → Exec β Unit

/-- A V30 on the platform's bus. -/
def Platform.env (p : Platform β) : Env β := ⟨.v30, p.bus⟩

variable (p : Platform β)

/-- `_m_read_logical` of one byte through DS. -/
def m_read_data (address : U16) : Exec β U8 := do
  let cpu ← get_cpu
  let data ← kma_read_logical p.env cpu.ds (address.setWidth 32) 1 cpu.cpl false
  pure (data.headD 0)

/-- `_m_write_logical` of one byte through DS. -/
def m_write_data (address : U16) (value : U8) : Exec β Unit := do
  let cpu ← get_cpu
  kma_write_logical p.env cpu.ds (address.setWidth 32) [value] cpu.cpl false

/-- `_p_input` of one byte. -/
def p_input (portid : U16) : Exec β U8 := fun c =>
  match p.ports.transfer_port portid 1 false 0 c.bus with
  | (some value, bus) =>
    .ok (value.setWidth 8) { c with bus := p.ports.complete_port portid 1 false bus }
  | (none, bus) => .error ⟨.ce, portid.setWidth 32⟩ { c with bus := bus }

/-- `_p_output` of one byte. -/
def p_output (portid : U16) (value : U8) : Exec β Unit := fun c =>
  match p.ports.transfer_port portid 1 true (value.setWidth 32) c.bus with
  | (some _, bus) => .ok () { c with bus := p.ports.complete_port portid 1 true bus }
  | (none, bus) => .error ⟨.ce, portid.setWidth 32⟩ { c with bus := bus }

/-! ## The operands of an instruction -/

/-- `_nec_read_operand`. -/
def nec_read_operand (reg : BitVec 3) (address : U16) : Exec β U8 := do
  if reg = 6 then m_read_data p address
  else do
    let cpu ← get_cpu
    pure (nec_byte_register cpu reg)

/-- `_nec_write_operand`. -/
def nec_write_operand (reg : BitVec 3) (address : U16) (value : U8) : Exec β Unit :=
  if reg = 6 then m_write_data p address value
  else set_cpu fun cpu => set_nec_byte_register cpu reg value

/-- `_nec_data_word`, reading. -/
def nec_read_data_word (address : U16) : Exec β U16 := do
  let low ← m_read_data p address
  let high ← m_read_data p (address + 1)
  pure (low.setWidth 16 ||| (high.setWidth 16 <<< 8))

/-- `_nec_data_word`, writing. -/
def nec_write_data_word (address value : U16) : Exec β Unit := do
  let low : U8 := value.setWidth 8
  let high : U8 := (value >>> 8).setWidth 8
  m_write_data p address low
  m_write_data p (address + 1) high

/-- `_nec_stack`, pushing. -/
def nec_push (value : U16) : Exec β Unit := do
  let high : U8 := (value >>> 8).setWidth 8
  let low : U8 := value.setWidth 8
  let cpu ← get_cpu
  m_write_data p (low_word cpu.ebp - 1) high
  m_write_data p (low_word cpu.ebp - 2) low
  set_cpu fun cpu => { cpu with ebp := set_low_word cpu.ebp (low_word cpu.ebp - 2) }

/-- `_nec_stack`, popping. -/
def nec_pop : Exec β U16 := do
  let cpu ← get_cpu
  let value ← nec_read_data_word p (low_word cpu.ebp)
  set_cpu fun cpu => { cpu with ebp := set_low_word cpu.ebp (low_word cpu.ebp + 2) }
  pure value

/-! ## Execution -/

/-- The switch of `NEC_EMULATION`, over the instruction's bytes. The instruction pointer
is already behind them. -/
def nec_execute (form : NecEmulationForm) (code0 code1 code2 : U8) : Exec β Unit := do
  let cpu ← get_cpu
  let before := cpu.eflags
  let address := low_word cpu.ebx
  let reg : BitVec 3 := code0.extractLsb' 3 3
  let operand : BitVec 3 := code0.extractLsb' 0 3
  let pair : BitVec 2 := code0.extractLsb' 4 2
  let word : U16 := code1.setWidth 16 ||| (code2.setWidth 16 <<< 8)
  match form with
  | .nop => pure ()
  | .mov => do
    let value ← nec_read_operand p operand address
    nec_write_operand p reg address value
  | .mvi => nec_write_operand p reg address code1
  | .lxi => set_cpu fun cpu => set_nec_pair_register cpu pair word
  | .stax => m_write_data p (nec_pair_register cpu pair) (low_byte cpu.eax)
  | .ldax => do
    let value ← m_read_data p (nec_pair_register cpu pair)
    nec_write_operand p 7 address value
  | .inx => set_cpu fun cpu => set_nec_pair_register cpu pair (nec_pair_register cpu pair + 1)
  | .dcx => set_cpu fun cpu => set_nec_pair_register cpu pair (nec_pair_register cpu pair - 1)
  | .dad => set_cpu fun cpu =>
    let r := nec_dad address (nec_pair_register cpu pair) before
    { cpu with ebx := set_low_word cpu.ebx r.1, eflags := r.2 }
  | .inr => do
    let value ← nec_read_operand p reg address
    set_cpu fun cpu => { cpu with eflags := (nec_inr value before).2 }
    nec_write_operand p reg address (nec_inr value before).1
  | .dcr => do
    let value ← nec_read_operand p reg address
    set_cpu fun cpu => { cpu with eflags := (nec_dcr value before).2 }
    nec_write_operand p reg address (nec_dcr value before).1
  | .alu | .alui => do
    let accumulator := low_byte cpu.eax
    let value ← (if form = .alui then pure code1 else nec_read_operand p operand address)
    set_cpu fun cpu => { cpu with eflags := (nec_alu reg accumulator value before).2 }
    -- a comparison keeps the accumulator
    if reg ≠ 7 then nec_write_operand p 7 address (nec_alu reg accumulator value before).1
    else pure ()
  | .rotate => do
    let r := nec_rotate (code0.extractLsb' 3 2) (low_byte cpu.eax) before
    set_cpu fun cpu => { cpu with eflags := r.2 }
    nec_write_operand p 7 address r.1
  | .daa => do
    let r := nec_daa (low_byte cpu.eax) before
    set_cpu fun cpu => { cpu with eflags := r.2 }
    nec_write_operand p 7 address r.1
  | .cma => nec_write_operand p 7 address (~~~low_byte cpu.eax)
  | .stc => set_cpu fun cpu => { cpu with eflags := cpu.eflags ||| VCPU_EFLAGS_CF }
  | .cmc => set_cpu fun cpu => { cpu with eflags := cpu.eflags ^^^ VCPU_EFLAGS_CF }
  | .shld => nec_write_data_word p word address
  | .lhld => do
    let word ← nec_read_data_word p word
    set_cpu fun cpu => { cpu with ebx := set_low_word cpu.ebx word }
  | .sta => m_write_data p word (low_byte cpu.eax)
  | .lda => do
    let value ← m_read_data p word
    nec_write_operand p 7 address value
  | .jump =>
    if code0 = 0xc3 ∨ x86_core_cpu_emulation_condition cpu.eflags reg = true then
      set_cpu fun cpu => { cpu with eip := word.setWidth 32 }
    else pure ()
  | .call =>
    if code0 = 0xcd ∨ x86_core_cpu_emulation_condition cpu.eflags reg = true then do
      nec_push p (low_word cpu.eip)
      set_cpu fun cpu => { cpu with eip := word.setWidth 32 }
    else pure ()
  | .return =>
    if code0 = 0xc9 ∨ x86_core_cpu_emulation_condition cpu.eflags reg = true then do
      let word ← nec_pop p
      set_cpu fun cpu => { cpu with eip := word.setWidth 32 }
    else pure ()
  | .rst => do
    nec_push p (low_word cpu.eip)
    set_cpu fun cpu => { cpu with eip := (code0 &&& 0x38).setWidth 32 }
  | .push =>
    nec_push p (if pair = 3 then
        ((low_byte cpu.eax).setWidth 16 <<< 8) ||| (before.setWidth 16 &&& 0xd5) ||| 2
      else nec_pair_register cpu pair)
  | .pop => do
    let word ← nec_pop p
    if pair = 3 then do
      set_cpu fun cpu =>
        { cpu with eflags := (before &&& ~~~0xff) ||| (word.setWidth 32 &&& 0xd5) ||| 2 }
      nec_write_operand p 7 address ((word >>> 8).setWidth 8)
    else set_cpu fun cpu => set_nec_pair_register cpu pair word
  | .xthl => do
    let word ← nec_read_data_word p (low_word cpu.ebp)
    nec_write_data_word p (low_word cpu.ebp) address
    set_cpu fun cpu => { cpu with ebx := set_low_word cpu.ebx word }
  | .pchl => set_cpu fun cpu => { cpu with eip := address.setWidth 32 }
  | .xchg => set_cpu fun cpu =>
    { cpu with
      edx := set_low_word cpu.edx address
      ebx := set_low_word cpu.ebx (low_word cpu.edx) }
  | .sphl => set_cpu fun cpu => { cpu with ebp := set_low_word cpu.ebp address }
  | .port =>
    if code0 = 0xdb then do
      let value ← p_input p (code1.setWidth 16)
      set_cpu fun cpu => { cpu with eax := set_low_byte cpu.eax value }
    else p_output p (code1.setWidth 16) (low_byte cpu.eax)
  | .hlt | .ei | .di | .escape => p.native form code1 code2
  | .reserved => throw impossible

/-! ## The prefetch queue -/

/-- The context with the rest of its prefetch queue. -/
structure Executor (β : Type) where
  context : Context β
  prefetch_linear : U32
  prefetch_bytes : ℕ → U8
  prefetch_expected_linear : U32
  prefetch_expected_valid : Bool

abbrev NecExec (β : Type) := EStateM Fault (Executor β)

/-- A routine of the context, run by the executor. -/
def on_context {α : Type} (x : Exec β α) : NecExec β α := fun e =>
  match x e.context with
  | .ok a c => .ok a { e with context := c }
  | .error f c => .error f { e with context := c }

/-- `cpu_profile_prefetch_capacity` of the V30. -/
def prefetch_capacity : ℕ := 6

/-- The test of `ExecInit`: the queue does not hold the next instruction. -/
def prefetch_lost (e : Executor β) (linear : U32) : Bool :=
  e.prefetch_expected_valid && linear != e.prefetch_expected_linear ||
    !e.context.prefetch_valid || linear < e.prefetch_linear ||
    e.context.prefetch_count ≤ (linear - e.prefetch_linear).toNat

/-- How many bytes `ExecInit` asks for: the rest of the page and of the segment at most,
and an odd number from an odd address on. -/
def prefetch_request (cpu : CpuData) (linear : U32) : ℕ :=
  let bytes := min prefetch_capacity (VCPU_PAGESIZE - (linear_offset linear).toNat)
  let bytes :=
    if cpu.eip ≤ cpu.cs.limit ∧ cpu.cs.limit.toNat - cpu.eip.toNat + 1 < bytes then
      cpu.cs.limit.toNat - cpu.eip.toNat + 1
    else bytes
  if linear &&& 1 ≠ 0 ∧ 1 < bytes ∧ bytes % 2 = 0 then bytes - 1 else bytes

/-- A read of instruction bytes through CS, as `provenance`. The provenance is set to
`after` however the read ends. -/
def read_code (provenance after : Provenance) (offset : U32) (byte : ℕ) :
    Exec β (List U8) := do
  let cpu ← get_cpu
  update fun c => { c with memory_access_provenance := provenance }
  let data ← attempt (kma_read_logical p.env cpu.cs offset byte cpu.cpl true)
  update fun c => { c with memory_access_provenance := after }
  of_except data

/-- `ExecInit`: refill the queue unless it holds the next instruction. -/
def exec_init : NecExec β Unit := do
  let e ← get
  let cpu := e.context.cpu
  let linear := cpu.cs.base + cpu.eip
  if prefetch_lost e linear = true then do
    on_context (x86_core_cpu_execution_invalidate_prefetch p.env)
    update fun e => { e with prefetch_expected_valid := false }
    let data ← on_context
      (read_code p .instruction_prefetch .data cpu.eip (prefetch_request cpu linear))
    update fun e =>
      { e with
        context :=
          { e.context with
            prefetch_count := prefetch_request cpu linear
            prefetch_valid := true }
        prefetch_linear := linear
        prefetch_bytes := fun i => data.getD i 0 }
  else pure ()

/-- The byte the queue holds for a linear address. -/
def Executor.queued (e : Executor β) (linear : U32) : Option U8 :=
  if e.context.prefetch_valid = true ∧ e.prefetch_linear ≤ linear ∧
      (linear - e.prefetch_linear).toNat < e.context.prefetch_count then
    some (e.prefetch_bytes (linear - e.prefetch_linear).toNat)
  else none

/-- `_s_read_cs` of one byte. -/
def s_read_cs (offset : U32) : NecExec β U8 := do
  let offset := offset &&& 0xffff
  let e ← get
  match e.queued (e.context.cpu.cs.base + offset) with
  | some byte => pure byte
  | none => do
    let data ← on_context
      (read_code p .instruction_fetch e.context.memory_access_provenance offset 1)
    pure (data.headD 0)

/-- `_kdf_skip` of one byte. -/
def kdf_skip : NecExec β Unit :=
  update fun e =>
    let eip := (e.context.cpu.eip + 1) &&& 0xffff
    { e with
      context := { e.context with cpu := { e.context.cpu with eip := eip } }
      prefetch_expected_linear := e.context.cpu.cs.base + eip
      prefetch_expected_valid := true }

/-- `_adv` for each byte of an instruction. -/
def advance : ℕ → NecExec β Unit
  | 0 => pure ()
  | n + 1 => do
    kdf_skip
    advance n

/-- `NEC_EMULATION`. -/
def nec_emulation : NecExec β Unit := do
  let eip ← query fun e => e.context.cpu.eip
  let code0 ← s_read_cs p eip
  let escaped ← (if code0 = 0xed then s_read_cs p (eip + 1) else pure 0)
  let length := kdf_emulation_length code0 escaped
  if length = 0 then throw ⟨.ud, 0⟩
  else do
    let code1 ← (if code0 ≠ 0xed ∧ 1 < length then s_read_cs p (eip + 1) else pure escaped)
    let code2 ← (if 2 < length then s_read_cs p (eip + 2) else pure 0)
    let form := x86_core_cpu_emulation_form code0
    -- these three advance by themselves
    if form = .hlt ∨ form = .ei ∨ form = .di then on_context (p.native form code1 code2)
    else do
      advance length
      on_context (nec_execute p form code0 code1 code2)

/-- `ExecIns` with MD clear. Neither of the exceptions an 8080 instruction raises has a
vector on the V30, so `ExecFinal` puts the registers back and stops. -/
def exec_ins : NecExec β Unit := fun e =>
  match (exec_init p >>= fun _ => nec_emulation p) e with
  | .ok _ e' => .ok () e'
  | .error f e' =>
    .error f { e' with context := { e'.context with cpu := e.context.cpu } }

/-- `n` instructions, or as many as do not stop. -/
def exec_run : ℕ → NecExec β Unit
  | 0 => pure ()
  | n + 1 => do
    exec_ins p
    exec_run n

end Nxvm.Nec
