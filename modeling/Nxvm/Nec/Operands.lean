/-
The memory cycles and the operands of an emulated instruction, side by side with those of
an 8080: bytes and words in memory, register or memory operands, the stack, the ports.

Each routine ends like its counterpart. What a cycle leaves is the context with another
board, and so is what the 8080 has then; after a fault only the boards are compared,
since the registers are about to be put back.
-/
import Nxvm.Lib.Lockstep
import Nxvm.Nec.Mapping

set_option autoImplicit false

namespace Nxvm.Nec

open Nxvm.Cpu Nxvm.Lib Nxvm.Lib.Exec Nxvm.Lib.Lockstep

variable {β α : Type} {w : Windows}

/-! ## Endings -/

/-- The same answer, and only the board has changed. -/
def Cycled (c : Context β) : α → Context β → α → Intel8080.Machine β → Prop :=
  fun a c' b m => a = b ∧ ∃ bus, c' = { c with bus := bus } ∧ m = machine_of c'

/-- The same answer, and the context still holds the 8080. -/
def Same (w : Windows) : α → Context β → α → Intel8080.Machine β → Prop :=
  fun a c b m => a = b ∧ Emulating w c ∧ m = machine_of c

/-- Both stopped at the same cycle. -/
def Stopped : Fault → Context β → Unit → Intel8080.Machine β → Prop :=
  fun f c _ m => f.except = .ce ∧ c.bus = m.bus

theorem Emulating.with_bus {c : Context β} (he : Emulating w c) (bus : β) :
    Emulating w { c with bus := bus } :=
  ⟨he.cs, he.ds, he.real, he.md, he.eip, he.data, he.unlocked⟩

theorem Cycled.same {c c' : Context β} {a b : α} {m : Intel8080.Machine β}
    (he : Emulating w c) (h : Cycled c a c' b m) : Same w a c' b m := by
  obtain ⟨hab, bus, rfl, hm⟩ := h
  exact ⟨hab, he.with_bus bus, hm⟩

/-- An update of the registers, on both sides. -/
theorem set_cpu_alike {c : Context β} {f : CpuData → CpuData}
    {g : Intel8080.Registers → Intel8080.Registers}
    (he : Emulating w { c with cpu := f c.cpu })
    (h : registers_of (f c.cpu) = g (registers_of c.cpu)) :
    Alike (Same w) Stopped ((set_cpu f : Exec β Unit) c)
      (Intel8080.set_regs g (machine_of c)) := by
  exact ⟨rfl, he, congrArg (fun regs => (⟨regs, c.bus⟩ : Intel8080.Machine β)) h.symm⟩

/-! ## Cycles -/

section Cycles

variable (p : Platform β) (M : CodeMemory p.bus) {c : Context β}

theorem read_alike (he : Emulating w c) (a : U16) :
    Alike (Cycled c) Stopped (m_read_data p a c)
      (Intel8080.read (board p M w) a (machine_of c)) := by
  have hds : c.cpu.ds.sregtype = .code ∨ c.cpu.ds.sregtype = .data := by
    rw [he.ds]
    exact .inr w.data
  have hread := kma_read_byte p hds (a.setWidth 32) c.cpu.cpl false he.real
  rw [he.ds, he.data] at hread
  rw [m_read_data, bind_run, get_cpu_run]
  simp only [bind_run, he.ds, hread]
  simp only [Intel8080.read, board, Windows.data_address, machine_of]
  rcases p.bus.read_memory ((w.ds.base + a.setWidth 32) &&& 0x000fffff) 1 .data false 0 c.bus
    with ⟨_ | data, b⟩
  · exact ⟨rfl, rfl⟩
  · exact ⟨rfl, b, by rw [he.data], rfl⟩

theorem write_alike (he : Emulating w c) (a : U16) (v : U8) :
    Alike (Cycled c) Stopped (m_write_data p a v c)
      (Intel8080.write (board p M w) a v (machine_of c)) := by
  have hds : c.cpu.ds.sregtype = .code ∨ c.cpu.ds.sregtype = .data := by
    rw [he.ds]
    exact .inr w.data
  have hwrite := kma_write_byte p hds (a.setWidth 32) v c.cpu.cpl false he.real
  rw [he.ds, he.data] at hwrite
  rw [m_write_data, bind_run, get_cpu_run]
  simp only [he.ds, hwrite]
  simp only [Intel8080.write, board, Windows.data_address, machine_of]
  rcases p.bus.write_memory ((w.ds.base + a.setWidth 32) &&& 0x000fffff) [v] .data 0 c.bus
    with ⟨_ | _, b⟩
  · exact ⟨rfl, rfl⟩
  · exact ⟨rfl, b, by rw [he.data], rfl⟩

/-- A port cycle needs nothing of the context. -/
theorem input_alike (port : U8) :
    Alike (Cycled c) Stopped (p_input p (port.setWidth 16) c)
      (Intel8080.input (board p M w) port (machine_of c)) := by
  simp only [p_input, Intel8080.input, board, machine_of]
  rcases p.ports.transfer_port (port.setWidth 16) 1 false 0 c.bus with ⟨_ | v, b⟩
  · exact ⟨rfl, rfl⟩
  · exact ⟨rfl, _, rfl, rfl⟩

theorem output_alike (port v : U8) :
    Alike (Cycled c) Stopped (p_output p (port.setWidth 16) v c)
      (Intel8080.output (board p M w) port v (machine_of c)) := by
  simp only [p_output, Intel8080.output, board, machine_of]
  rcases p.ports.transfer_port (port.setWidth 16) 1 true (v.setWidth 32) c.bus with ⟨_ | _, b⟩
  · exact ⟨rfl, rfl⟩
  · exact ⟨rfl, _, rfl, rfl⟩

theorem read_word_alike (he : Emulating w c) (a : U16) :
    Alike (Cycled c) Stopped (nec_read_data_word p a c)
      (Intel8080.read_word (board p M w) a (machine_of c)) := by
  refine Alike.bind (read_alike p M he a) ?_
  rintro low c₁ _ _ ⟨rfl, bus₁, rfl, rfl⟩
  refine Alike.bind (read_alike p M (he.with_bus bus₁) (a + 1)) ?_
  rintro high c₂ _ _ ⟨rfl, bus₂, rfl, rfl⟩
  exact ⟨word_of_bytes low high, bus₂, rfl, rfl⟩

theorem low_half (x : U16) : x.setWidth 8 = x.extractLsb' 0 8 := by
  ext i hi
  simp

theorem high_half (x : U16) : (x >>> 8).setWidth 8 = x.extractLsb' 8 8 := by
  ext i hi
  simp

theorem write_word_alike (he : Emulating w c) (a x : U16) :
    Alike (Cycled c) Stopped (nec_write_data_word p a x c)
      (Intel8080.write_word (board p M w) a x (machine_of c)) := by
  rw [nec_write_data_word, high_half, low_half]
  refine Alike.bind (write_alike p M he a _) ?_
  rintro _ c₁ _ _ ⟨-, bus₁, rfl, rfl⟩
  refine (write_alike p M (he.with_bus bus₁) (a + 1) _).mono ?_
  rintro _ c₂ _ _ ⟨hab, bus₂, rfl, rfl⟩
  exact ⟨hab, bus₂, rfl, rfl⟩

end Cycles

/-! ## Operands -/

section Operands

variable (p : Platform β) (M : CodeMemory p.bus) {c : Context β}

theorem reg_code_memory {r : Intel8080.Reg} : r.code = 6 ↔ r = .m := by
  cases r <;> decide

/-- `M` is the byte at HL; anything else is a register. -/
theorem read_operand_alike (he : Emulating w c) (r : Intel8080.Reg) :
    Alike (Cycled c) Stopped (nec_read_operand p r.code (low_word c.cpu.ebx) c)
      (Intel8080.read_operand (board p M w) r (machine_of c)) := by
  rw [nec_read_operand, Intel8080.read_operand, bind_run]
  simp only [Intel8080.get_regs, query_run]
  by_cases hm : r = .m
  · rw [if_pos (reg_code_memory.mpr hm), if_pos hm, hl_of]
    exact read_alike p M he _
  · rw [if_neg (mt reg_code_memory.mp hm), if_neg hm]
    exact ⟨reg_of c.cpu hm, c.bus, rfl, rfl⟩

theorem Emulating.set_byte {reg : BitVec 3} {v : U8} (he : Emulating w c) :
    Emulating w { c with cpu := set_nec_byte_register c.cpu reg v } := by
  unfold set_nec_byte_register
  split <;> exact ⟨he.cs, he.ds, he.real, he.md, he.eip, he.data, he.unlocked⟩

theorem Emulating.set_pair {reg : BitVec 2} {x : U16} (he : Emulating w c) :
    Emulating w { c with cpu := set_nec_pair_register c.cpu reg x } := by
  unfold set_nec_pair_register
  split <;> exact ⟨he.cs, he.ds, he.real, he.md, he.eip, he.data, he.unlocked⟩

/-- The source takes the address of `M` at the start of the instruction; HL is still the
same when the operand is written. -/
theorem write_operand_alike (he : Emulating w c) (r : Intel8080.Reg) {address : U16}
    (ha : address = low_word c.cpu.ebx) (v : U8) :
    Alike (Same w) Stopped (nec_write_operand p r.code address v c)
      (Intel8080.write_operand (board p M w) r v (machine_of c)) := by
  rw [nec_write_operand, Intel8080.write_operand, bind_run]
  simp only [Intel8080.get_regs, query_run]
  by_cases hm : r = .m
  · rw [if_pos (reg_code_memory.mpr hm), if_pos hm, ha, hl_of]
    exact (write_alike p M he _ v).mono fun _ _ _ _ h => h.same he
  · rw [if_neg (mt reg_code_memory.mp hm), if_neg hm]
    exact set_cpu_alike he.set_byte (set_reg_of c.cpu hm v)

/-! ## The stack -/

theorem sp_of (cpu : CpuData) (x : U16) :
    registers_of { cpu with ebp := set_low_word cpu.ebp x } =
      { registers_of cpu with sp := x } := by
  simp [registers_of]

theorem push_alike (he : Emulating w c) (x : U16) :
    Alike (Same w) Stopped (nec_push p x c)
      (Intel8080.push_word (board p M w) x (machine_of c)) := by
  rw [nec_push, high_half, low_half]
  refine Alike.bind (Q := fun cpu c' regs m => cpu = c.cpu ∧ regs = registers_of c.cpu ∧
    c' = c ∧ m = machine_of c) ⟨rfl, rfl, rfl, rfl⟩ ?_
  rintro _ _ _ _ ⟨rfl, rfl, rfl, rfl⟩
  refine Alike.bind (write_alike p M he _ _) ?_
  rintro _ c₁ _ _ ⟨-, bus₁, rfl, rfl⟩
  refine Alike.bind (write_alike p M (he.with_bus bus₁) _ _) ?_
  rintro _ c₂ _ _ ⟨-, bus₂, rfl, rfl⟩
  exact set_cpu_alike ⟨he.cs, he.ds, he.real, he.md, he.eip, he.data, he.unlocked⟩ (sp_of ..)

theorem pop_alike (he : Emulating w c) :
    Alike (Same w) Stopped (nec_pop p c) (Intel8080.pop_word (board p M w) (machine_of c)) := by
  refine Alike.bind (Q := fun cpu c' regs m => cpu = c.cpu ∧ regs = registers_of c.cpu ∧
    c' = c ∧ m = machine_of c) ⟨rfl, rfl, rfl, rfl⟩ ?_
  rintro _ _ _ _ ⟨rfl, rfl, rfl, rfl⟩
  refine Alike.bind (read_word_alike p M he _) ?_
  rintro x c₁ _ _ ⟨rfl, bus₁, rfl, rfl⟩
  refine Alike.bind (set_cpu_alike (w := w)
    ⟨he.cs, he.ds, he.real, he.md, he.eip, he.data, he.unlocked⟩ (sp_of ..)) ?_
  rintro _ c₂ _ _ ⟨-, he₂, rfl⟩
  exact ⟨rfl, he₂, rfl⟩

end Operands

end Nxvm.Nec
