/-
Every form of the emulation dispatcher executes the instruction it is decoded from.

The opcode map is the manual's; the dispatcher's masks and operand fields are checked
against it, opcode by opcode, and then each form is run side by side with the direct
interpreter's instruction.
-/
import Nxvm.Nec.Operands

set_option autoImplicit false

namespace Nxvm.Nec

open Nxvm.Cpu Nxvm.Lib Nxvm.Lib.Exec Nxvm.Lib.Lockstep

variable {β : Type} {w : Windows}

/-! ## Fields -/

section Fields

open Intel8080

theorem mov_fields {dest src : Reg} (h : decode (Instr.mov dest src).opcode = some (.mov dest src)) :
    x86_core_cpu_emulation_form (Instr.mov dest src).opcode = .mov ∧
      (Instr.mov dest src).opcode.extractLsb' 3 3 = dest.code ∧
      (Instr.mov dest src).opcode.extractLsb' 0 3 = src.code := by
  revert h
  cases dest <;> cases src <;> decide

theorem mvi_fields (r : Reg) :
    x86_core_cpu_emulation_form (Instr.mvi r).opcode = .mvi ∧
      (Instr.mvi r).opcode.extractLsb' 3 3 = r.code := by
  cases r <;> decide

theorem inr_fields (r : Reg) :
    x86_core_cpu_emulation_form (Instr.inr r).opcode = .inr ∧
      (Instr.inr r).opcode.extractLsb' 3 3 = r.code := by
  cases r <;> decide

theorem dcr_fields (r : Reg) :
    x86_core_cpu_emulation_form (Instr.dcr r).opcode = .dcr ∧
      (Instr.dcr r).opcode.extractLsb' 3 3 = r.code := by
  cases r <;> decide

theorem lxi_fields (q : Pair) :
    x86_core_cpu_emulation_form (Instr.lxi q).opcode = .lxi ∧
      (Instr.lxi q).opcode.extractLsb' 4 2 = q.code := by
  cases q <;> decide

theorem inx_fields (q : Pair) :
    x86_core_cpu_emulation_form (Instr.inx q).opcode = .inx ∧
      (Instr.inx q).opcode.extractLsb' 4 2 = q.code := by
  cases q <;> decide

theorem dcx_fields (q : Pair) :
    x86_core_cpu_emulation_form (Instr.dcx q).opcode = .dcx ∧
      (Instr.dcx q).opcode.extractLsb' 4 2 = q.code := by
  cases q <;> decide

theorem dad_fields (q : Pair) :
    x86_core_cpu_emulation_form (Instr.dad q).opcode = .dad ∧
      (Instr.dad q).opcode.extractLsb' 4 2 = q.code := by
  cases q <;> decide

theorem stax_fields (q : Pointer) :
    x86_core_cpu_emulation_form (Instr.stax q).opcode = .stax ∧
      (Instr.stax q).opcode.extractLsb' 4 2 = q.pair.code := by
  cases q <;> decide

theorem ldax_fields (q : Pointer) :
    x86_core_cpu_emulation_form (Instr.ldax q).opcode = .ldax ∧
      (Instr.ldax q).opcode.extractLsb' 4 2 = q.pair.code := by
  cases q <;> decide

theorem alu_fields (op : Alu) (src : Reg) :
    x86_core_cpu_emulation_form (Instr.alu op src).opcode = .alu ∧
      (Instr.alu op src).opcode.extractLsb' 3 3 = op.code ∧
      (Instr.alu op src).opcode.extractLsb' 0 3 = src.code := by
  cases op <;> cases src <;> decide

theorem alui_fields (op : Alu) :
    x86_core_cpu_emulation_form (Instr.alui op).opcode = .alui ∧
      (Instr.alui op).opcode.extractLsb' 3 3 = op.code := by
  cases op <;> decide

theorem rotate_fields (k : Rotate) :
    x86_core_cpu_emulation_form (Instr.rotate k).opcode = .rotate ∧
      (Instr.rotate k).opcode.extractLsb' 3 2 = k.code.setWidth 2 := by
  cases k <;> decide

theorem jump_if_fields (cond : Cond) :
    x86_core_cpu_emulation_form (Instr.jump_if cond).opcode = .jump ∧
      (Instr.jump_if cond).opcode.extractLsb' 3 3 = cond.code ∧
      (Instr.jump_if cond).opcode ≠ 0xc3 := by
  cases cond <;> decide

theorem call_if_fields (cond : Cond) :
    x86_core_cpu_emulation_form (Instr.call_if cond).opcode = .call ∧
      (Instr.call_if cond).opcode.extractLsb' 3 3 = cond.code ∧
      (Instr.call_if cond).opcode ≠ 0xcd := by
  cases cond <;> decide

theorem return_if_fields (cond : Cond) :
    x86_core_cpu_emulation_form (Instr.return_if cond).opcode = .return ∧
      (Instr.return_if cond).opcode.extractLsb' 3 3 = cond.code ∧
      (Instr.return_if cond).opcode ≠ 0xc9 := by
  cases cond <;> decide

theorem rst_fields (n : BitVec 3) :
    x86_core_cpu_emulation_form (Instr.rst n).opcode = .rst ∧
      (((Instr.rst n).opcode &&& 0x38).setWidth 32 : U32) =
        (n.setWidth 16 <<< 3 : U16).setWidth 32 := by
  revert n
  decide

theorem push_fields (q : Stacked) :
    x86_core_cpu_emulation_form (Instr.push q).opcode = .push ∧
      (Instr.push q).opcode.extractLsb' 4 2 = q.code := by
  cases q <;> decide

theorem pop_fields (q : Stacked) :
    x86_core_cpu_emulation_form (Instr.pop q).opcode = .pop ∧
      (Instr.pop q).opcode.extractLsb' 4 2 = q.code := by
  cases q <;> decide

end Fields

/-! ## Forms -/

/-- What is to be shown of an instruction. -/
def Executes (p : Platform β) (M : CodeMemory p.bus) (w : Windows) (i : Intel8080.Instr) : Prop :=
  ∀ c : Context β, Emulating w c → ∀ code1 code2 : U8,
    Alike (Same w) Stopped
      (nec_execute p (x86_core_cpu_emulation_form i.opcode) i.opcode code1 code2 c)
      (Intel8080.exec (board p M w) i code1 code2 (machine_of c))

/-- Flags put back under a mask that stays below MD leave MD clear. -/
theorem commit_emulating {before mask : U32} (e : U32) (hm : mask.getLsbD 15 = false)
    (h : bit_is_set before X86_CPU_NEC_PSW_MD = false) :
    bit_is_set (nec_commit_flags e before mask) X86_CPU_NEC_PSW_MD = false := by
  rw [emulating_set] at *
  rw [commit_high (by omega) hm, h]

/-- A write of AL, as the forms that load the accumulator make it. -/
theorem write_accumulator (p : Platform β) (address : U16) (v : U8) (c : Context β) :
    nec_write_operand p 7 address v c =
      (set_cpu fun cpu => { cpu with eax := set_low_byte cpu.eax v } : Exec β Unit) c := rfl

theorem a_of (cpu : CpuData) (v : U8) :
    registers_of { cpu with eax := set_low_byte cpu.eax v } =
      { registers_of cpu with a := v } := by
  simp [registers_of]

theorem Emulating.set_a {c : Context β} (he : Emulating w c) (v : U8) :
    Emulating w { c with cpu := { c.cpu with eax := set_low_byte c.cpu.eax v } } :=
  ⟨he.cs, he.ds, he.real, he.md, he.eip, he.data, he.unlocked⟩

theorem Emulating.set_hl {c : Context β} (he : Emulating w c) (x : U16) :
    Emulating w { c with cpu := { c.cpu with ebx := set_low_word c.cpu.ebx x } } :=
  ⟨he.cs, he.ds, he.real, he.md, he.eip, he.data, he.unlocked⟩

theorem Emulating.set_flags {c : Context β} (he : Emulating w c) {e : U32}
    (h : bit_is_set e X86_CPU_NEC_PSW_MD = false) :
    Emulating w { c with cpu := { c.cpu with eflags := e } } :=
  ⟨he.cs, he.ds, he.real, h, he.eip, he.data, he.unlocked⟩

theorem flags_register_of (cpu : CpuData) (e : U32) :
    registers_of { cpu with eflags := e } = { registers_of cpu with flags := flags_of e } := rfl

/-- The instruction pointer is loaded with a word. -/
theorem Emulating.set_pc {c : Context β} (he : Emulating w c) (x : U16) :
    Emulating w { c with cpu := { c.cpu with eip := x.setWidth 32 } } := by
  refine ⟨he.cs, he.ds, he.real, he.md, ?_, he.data, he.unlocked⟩
  have hx := x.isLt
  simp only [BitVec.toNat_setWidth]
  omega

theorem pc_of (cpu : CpuData) (x : U16) :
    registers_of { cpu with eip := x.setWidth 32 } = { registers_of cpu with pc := x } := by
  simp [registers_of]

section Moves

variable (p : Platform β) (M : CodeMemory p.bus)

theorem executes_nop : Executes p M w .nop := by
  intro c he code1 code2
  exact ⟨rfl, he, rfl⟩

theorem executes_mov {dest src : Intel8080.Reg}
    (h : Intel8080.decode (Intel8080.Instr.mov dest src).opcode = some (.mov dest src)) :
    Executes p M w (.mov dest src) := by
  intro c he code1 code2
  obtain ⟨hform, hreg, hoperand⟩ := mov_fields h
  rw [hform, nec_execute, bind_run, get_cpu_run]
  simp only [hreg, hoperand]
  refine Alike.bind (read_operand_alike p M he src) ?_
  rintro v _ _ _ ⟨rfl, bus, rfl, rfl⟩
  exact write_operand_alike p M (he.with_bus bus) dest rfl v

theorem executes_mvi (dest : Intel8080.Reg) : Executes p M w (.mvi dest) := by
  intro c he code1 code2
  obtain ⟨hform, hreg⟩ := mvi_fields dest
  rw [hform, nec_execute, bind_run, get_cpu_run]
  simp only [hreg]
  exact write_operand_alike p M he dest rfl code1

theorem executes_lxi (q : Intel8080.Pair) : Executes p M w (.lxi q) := by
  intro c he code1 code2
  obtain ⟨hform, hpair⟩ := lxi_fields q
  rw [hform, nec_execute, bind_run, get_cpu_run, Intel8080.exec]
  simp only [hpair, word_of_bytes]
  apply set_cpu_alike
  · exact he.set_pair
  · exact set_pair_of ..

theorem executes_stax (q : Intel8080.Pointer) : Executes p M w (.stax q) := by
  intro c he code1 code2
  obtain ⟨hform, hpair⟩ := stax_fields q
  rw [hform, nec_execute, bind_run, get_cpu_run]
  simp only [hpair, pair_of]
  exact (write_alike p M he _ _).mono fun _ _ _ _ h => h.same he

/-- What the forms that load the accumulator from memory end with. -/
theorem load_accumulator {c : Context β} (he : Emulating w c) (address : U16) (v : U8) :
    Alike (Same w) Stopped (nec_write_operand p 7 address v c)
      (Intel8080.set_regs (fun regs => { regs with a := v }) (machine_of c)) := by
  rw [write_accumulator]
  apply set_cpu_alike
  · exact he.set_a v
  · exact a_of ..

theorem executes_ldax (q : Intel8080.Pointer) : Executes p M w (.ldax q) := by
  intro c he code1 code2
  obtain ⟨hform, hpair⟩ := ldax_fields q
  rw [hform, nec_execute, bind_run, get_cpu_run]
  simp only [hpair, pair_of]
  rw [Intel8080.exec, Intel8080.get_regs_bind]
  refine Alike.bind (read_alike p M he _) ?_
  rintro v _ _ _ ⟨rfl, bus, rfl, rfl⟩
  exact load_accumulator p (he.with_bus bus) _ v

theorem executes_shld : Executes p M w .shld := by
  intro c he code1 code2
  rw [show x86_core_cpu_emulation_form Intel8080.Instr.shld.opcode = .shld from rfl, nec_execute,
    bind_run, get_cpu_run]
  simp only [word_of_bytes, hl_of]
  exact (write_word_alike p M he _ _).mono fun _ _ _ _ h => h.same he

theorem executes_lhld : Executes p M w .lhld := by
  intro c he code1 code2
  rw [show x86_core_cpu_emulation_form Intel8080.Instr.lhld.opcode = .lhld from rfl, nec_execute,
    bind_run, get_cpu_run]
  simp only [word_of_bytes]
  refine Alike.bind (read_word_alike p M he _) ?_
  rintro x _ _ _ ⟨rfl, bus, rfl, rfl⟩
  apply set_cpu_alike
  · exact (he.with_bus bus).set_hl x
  · exact set_hl_of ..

theorem executes_sta : Executes p M w .sta := by
  intro c he code1 code2
  rw [show x86_core_cpu_emulation_form Intel8080.Instr.sta.opcode = .sta from rfl, nec_execute,
    bind_run, get_cpu_run]
  simp only [word_of_bytes]
  exact (write_alike p M he _ _).mono fun _ _ _ _ h => h.same he

theorem executes_lda : Executes p M w .lda := by
  intro c he code1 code2
  rw [show x86_core_cpu_emulation_form Intel8080.Instr.lda.opcode = .lda from rfl, nec_execute,
    bind_run, get_cpu_run]
  simp only [word_of_bytes]
  refine Alike.bind (read_alike p M he _) ?_
  rintro v _ _ _ ⟨rfl, bus, rfl, rfl⟩
  exact load_accumulator p (he.with_bus bus) _ v

theorem executes_xchg : Executes p M w .xchg := by
  intro c he code1 code2
  rw [show x86_core_cpu_emulation_form Intel8080.Instr.xchg.opcode = .xchg from rfl, nec_execute,
    bind_run, get_cpu_run, Intel8080.exec]
  dsimp only
  apply set_cpu_alike
  · exact ⟨he.cs, he.ds, he.real, he.md, he.eip, he.data, he.unlocked⟩
  · simp [registers_of, Intel8080.Registers.set_pair, Intel8080.Registers.pair, low_word_eq]

theorem executes_sphl : Executes p M w .sphl := by
  intro c he code1 code2
  rw [show x86_core_cpu_emulation_form Intel8080.Instr.sphl.opcode = .sphl from rfl, nec_execute,
    bind_run, get_cpu_run, Intel8080.exec]
  simp only [hl_of]
  apply set_cpu_alike
  · exact ⟨he.cs, he.ds, he.real, he.md, he.eip, he.data, he.unlocked⟩
  · exact sp_of ..

end Moves

/-! ## Arithmetic

The forms set the flags before they write the result, so a failed write comes after
them. The registers are put back then, and only the board is compared. -/

/-- An update of the registers that is not the last step of an instruction. -/
theorem after_set_cpu {α : Type} {Q : α → Context β → α → Intel8080.Machine β → Prop}
    {c : Context β} {f : CpuData → CpuData} {g : Intel8080.Registers → Intel8080.Registers}
    {k : Unit → Exec β α} {k' : Unit → Intel8080.Run β α}
    (h : registers_of (f c.cpu) = g (registers_of c.cpu))
    (hk : Alike Q Stopped (k () { c with cpu := f c.cpu })
      (k' () (machine_of { c with cpu := f c.cpu }))) :
    Alike Q Stopped ((set_cpu f >>= k) c) ((Intel8080.set_regs g >>= k') (machine_of c)) := by
  have hregs : machine_of { c with cpu := f c.cpu } = ⟨g (registers_of c.cpu), c.bus⟩ := by
    rw [← h]
    rfl
  rw [hregs] at hk
  exact hk

section Arithmetic

variable (p : Platform β) (M : CodeMemory p.bus)

/-- The flags are set and the accumulator is written. -/
theorem result_alike {c : Context β} (he : Emulating w c) {address : U16} {result : U8}
    {e : U32} {g : Intel8080.Registers → Intel8080.Registers}
    (hmd : bit_is_set e X86_CPU_NEC_PSW_MD = false)
    (h : { registers_of c.cpu with a := result, flags := flags_of e } = g (registers_of c.cpu)) :
    Alike (Same w) Stopped
      (((set_cpu fun cpu => { cpu with eflags := e }) >>= fun _ =>
        nec_write_operand p 7 address result) c)
      (Intel8080.set_regs g (machine_of c)) := by
  refine ⟨rfl, (he.set_flags hmd).set_a result, ?_⟩
  have hregs := a_of { c.cpu with eflags := e } result
  exact congrArg (fun regs => (⟨regs, c.bus⟩ : Intel8080.Machine β)) (h.symm.trans hregs.symm)

theorem sum_of (cpu : CpuData) (x : U16) (e : U32) :
    registers_of { cpu with ebx := set_low_word cpu.ebx x, eflags := e } =
      { (registers_of cpu).set_pair x .hl with flags := flags_of e } := by
  rw [← set_hl_of]
  rfl

theorem executes_inx (q : Intel8080.Pair) : Executes p M w (.inx q) := by
  intro c he code1 code2
  obtain ⟨hform, hpair⟩ := inx_fields q
  rw [hform, nec_execute, bind_run, get_cpu_run, Intel8080.exec]
  simp only [hpair]
  apply set_cpu_alike
  · exact he.set_pair
  · rw [set_pair_of, pair_of]

theorem executes_dcx (q : Intel8080.Pair) : Executes p M w (.dcx q) := by
  intro c he code1 code2
  obtain ⟨hform, hpair⟩ := dcx_fields q
  rw [hform, nec_execute, bind_run, get_cpu_run, Intel8080.exec]
  simp only [hpair]
  apply set_cpu_alike
  · exact he.set_pair
  · rw [set_pair_of, pair_of]

theorem executes_dad (q : Intel8080.Pair) : Executes p M w (.dad q) := by
  intro c he code1 code2
  obtain ⟨hform, hpair⟩ := dad_fields q
  obtain ⟨hsum, hflags⟩ :=
    nec_dad_spec (low_word c.cpu.ebx) (nec_pair_register c.cpu q.code) c.cpu.eflags
  rw [hform, nec_execute, bind_run, get_cpu_run, Intel8080.exec]
  simp only [hpair]
  apply set_cpu_alike
  · exact (he.set_hl _).set_flags (commit_emulating _ rfl he.md)
  · rw [hsum, sum_of, hflags, hl_of, pair_of]
    rfl

theorem executes_inr (r : Intel8080.Reg) : Executes p M w (.inr r) := by
  intro c he code1 code2
  obtain ⟨hform, hreg⟩ := inr_fields r
  rw [hform, nec_execute, bind_run, get_cpu_run, Intel8080.exec]
  simp only [hreg]
  refine Alike.bind (read_operand_alike p M he r) ?_
  rintro v _ _ _ ⟨rfl, bus, rfl, rfl⟩
  obtain ⟨hresult, hflags⟩ := nec_inr_spec v c.cpu.eflags
  refine after_set_cpu ?_ ?_
  · rw [flags_register_of, hflags]
    rfl
  · rw [hresult]
    exact write_operand_alike p M
      ((he.with_bus bus).set_flags (commit_emulating _ rfl he.md)) r rfl _

theorem executes_dcr (r : Intel8080.Reg) : Executes p M w (.dcr r) := by
  intro c he code1 code2
  obtain ⟨hform, hreg⟩ := dcr_fields r
  rw [hform, nec_execute, bind_run, get_cpu_run, Intel8080.exec]
  simp only [hreg]
  refine Alike.bind (read_operand_alike p M he r) ?_
  rintro v _ _ _ ⟨rfl, bus, rfl, rfl⟩
  obtain ⟨hresult, hflags⟩ := nec_dcr_spec v c.cpu.eflags
  refine after_set_cpu ?_ ?_
  · rw [flags_register_of, hflags]
    rfl
  · rw [hresult]
    exact write_operand_alike p M
      ((he.with_bus bus).set_flags (commit_emulating _ rfl he.md)) r rfl _

theorem alu_code_compare {op : Intel8080.Alu} : op.code ≠ 7 ↔ op ≠ .cmp := by
  cases op <;> decide

/-- The end of an operation on the accumulator. A comparison keeps it. -/
theorem operate_alike {c : Context β} (he : Emulating w c) (op : Intel8080.Alu) (v : U8)
    (address : U16) :
    Alike (Same w) Stopped
      (((set_cpu fun cpu =>
          { cpu with eflags := (nec_alu op.code (low_byte c.cpu.eax) v c.cpu.eflags).2 }) >>=
        fun _ =>
          if op.code ≠ 7 then
            nec_write_operand p 7 address (nec_alu op.code (low_byte c.cpu.eax) v c.cpu.eflags).1
          else pure ()) c)
      (Intel8080.operate op v (machine_of c)) := by
  obtain ⟨hresult, hflags⟩ := nec_alu_spec op (low_byte c.cpu.eax) v c.cpu.eflags
  have hmd : bit_is_set (nec_alu op.code (low_byte c.cpu.eax) v c.cpu.eflags).2
      X86_CPU_NEC_PSW_MD = false := commit_emulating _ rfl he.md
  rw [Intel8080.operate]
  by_cases hcmp : op = .cmp
  · simp only [if_neg (mt alu_code_compare.mp (not_not.mpr hcmp)), if_pos hcmp]
    have hregs := flags_register_of c.cpu (nec_alu op.code (low_byte c.cpu.eax) v c.cpu.eflags).2
    rw [hflags] at hregs
    refine ⟨rfl, he.set_flags hmd, ?_⟩
    exact congrArg (fun regs => (⟨regs, c.bus⟩ : Intel8080.Machine β)) hregs.symm
  · simp only [if_pos (alu_code_compare.mpr hcmp), if_neg hcmp]
    refine result_alike p he hmd ?_
    simp only [hresult, hflags]
    rfl

theorem executes_alu (op : Intel8080.Alu) (src : Intel8080.Reg) :
    Executes p M w (.alu op src) := by
  intro c he code1 code2
  obtain ⟨hform, hop, hsrc⟩ := alu_fields op src
  rw [hform, nec_execute, bind_run, get_cpu_run, Intel8080.exec]
  simp only [hop, hsrc, reduceCtorEq, if_false]
  refine Alike.bind (read_operand_alike p M he src) ?_
  rintro v _ _ _ ⟨rfl, bus, rfl, rfl⟩
  exact operate_alike p (he.with_bus bus) op v _

theorem executes_alui (op : Intel8080.Alu) : Executes p M w (.alui op) := by
  intro c he code1 code2
  obtain ⟨hform, hop⟩ := alui_fields op
  rw [hform, nec_execute, bind_run, get_cpu_run, Intel8080.exec]
  simp only [hop, if_true, pure_bind]
  exact operate_alike p he op code1 _

theorem executes_rotate (k : Intel8080.Rotate) : Executes p M w (.rotate k) := by
  intro c he code1 code2
  obtain ⟨hform, hkind⟩ := rotate_fields k
  obtain ⟨hresult, hflags⟩ := nec_rotate_spec k (low_byte c.cpu.eax) c.cpu.eflags
  rw [hform, nec_execute, bind_run, get_cpu_run, Intel8080.exec]
  simp only [hkind]
  refine result_alike p he (commit_emulating _ rfl he.md) ?_
  rw [hresult, hflags]
  rfl

theorem executes_daa : Executes p M w .daa := by
  intro c he code1 code2
  obtain ⟨hresult, hflags⟩ := nec_daa_spec (low_byte c.cpu.eax) c.cpu.eflags
  rw [show x86_core_cpu_emulation_form Intel8080.Instr.daa.opcode = .daa from rfl, nec_execute,
    bind_run, get_cpu_run, Intel8080.exec]
  dsimp only
  refine result_alike p he (commit_emulating _ rfl he.md) ?_
  rw [hresult, hflags]
  rfl

theorem executes_cma : Executes p M w .cma := by
  intro c he code1 code2
  rw [show x86_core_cpu_emulation_form Intel8080.Instr.cma.opcode = .cma from rfl, nec_execute,
    bind_run, get_cpu_run]
  exact load_accumulator p he _ _

theorem executes_stc : Executes p M w .stc := by
  intro c he code1 code2
  rw [show x86_core_cpu_emulation_form Intel8080.Instr.stc.opcode = .stc from rfl, nec_execute,
    bind_run, get_cpu_run, Intel8080.exec]
  dsimp only
  have hmd := he.md
  rw [emulating_set] at hmd
  apply set_cpu_alike
  · apply he.set_flags
    rw [emulating_set, BitVec.getLsbD_or, hmd]
    rfl
  · simp [registers_of, flags_of, VCPU_EFLAGS_CF]

theorem executes_cmc : Executes p M w .cmc := by
  intro c he code1 code2
  rw [show x86_core_cpu_emulation_form Intel8080.Instr.cmc.opcode = .cmc from rfl, nec_execute,
    bind_run, get_cpu_run, Intel8080.exec]
  dsimp only
  have hmd := he.md
  rw [emulating_set] at hmd
  apply set_cpu_alike
  · apply he.set_flags
    rw [emulating_set, BitVec.getLsbD_xor, hmd]
    rfl
  · simp [registers_of, flags_of, VCPU_EFLAGS_CF]

end Arithmetic

/-! ## Branches -/

section Branches

variable (p : Platform β) (M : CodeMemory p.bus)

theorem jump_alike {c : Context β} (he : Emulating w c) (target : U16) :
    Alike (Same w) Stopped
      ((set_cpu fun cpu => { cpu with eip := target.setWidth 32 } : Exec β Unit) c)
      (Intel8080.jump_to target (machine_of c)) := by
  rw [Intel8080.jump_to]
  apply set_cpu_alike
  · exact he.set_pc target
  · exact pc_of ..

/-- The return address is the instruction pointer, which is behind the call already. -/
theorem call_alike {c : Context β} (he : Emulating w c) (target : U16) :
    Alike (Same w) Stopped
      ((nec_push p (low_word c.cpu.eip) >>= fun _ =>
        set_cpu fun cpu => { cpu with eip := target.setWidth 32 }) c)
      (Intel8080.call_to (board p M w) target (machine_of c)) := by
  rw [Intel8080.call_to, Intel8080.get_regs_bind]
  refine Alike.bind (push_alike p M he _) ?_
  rintro _ c₁ _ _ ⟨-, he₁, rfl⟩
  exact jump_alike he₁ target

theorem return_alike {c : Context β} (he : Emulating w c) :
    Alike (Same w) Stopped
      ((nec_pop p >>= fun word =>
        set_cpu fun cpu => { cpu with eip := word.setWidth 32 }) c)
      (Intel8080.return_from (board p M w) (machine_of c)) := by
  refine Alike.bind (pop_alike p M he) ?_
  rintro target c₁ _ _ ⟨rfl, he₁, rfl⟩
  exact jump_alike he₁ target

/-- A branch that is not taken does nothing. -/
theorem branch_alike {c : Context β} (he : Emulating w c) {taken : Bool} {x : Exec β Unit}
    {y : Intel8080.Run β Unit} (h : Alike (Same w) Stopped (x c) (y (machine_of c))) :
    Alike (Same w) Stopped ((if taken = true then x else pure ()) c)
      ((if taken = true then y else pure ()) (machine_of c)) := by
  by_cases ht : taken = true
  · rw [if_pos ht, if_pos ht]
    exact h
  · rw [if_neg ht, if_neg ht]
    exact ⟨rfl, he, rfl⟩

theorem executes_jmp : Executes p M w .jmp := by
  intro c he code1 code2
  rw [show x86_core_cpu_emulation_form Intel8080.Instr.jmp.opcode = .jump from rfl, nec_execute,
    bind_run, get_cpu_run, Intel8080.exec]
  simp only [word_of_bytes]
  rw [if_pos (.inl rfl)]
  exact jump_alike he _

theorem executes_jump_if (cond : Intel8080.Cond) : Executes p M w (.jump_if cond) := by
  intro c he code1 code2
  obtain ⟨hform, hcond, hop⟩ := jump_if_fields cond
  rw [hform, nec_execute, bind_run, get_cpu_run, Intel8080.exec, Intel8080.get_regs_bind]
  simp only [hcond, hop, false_or, word_of_bytes, condition_of]
  exact branch_alike he (jump_alike he _)

theorem executes_call : Executes p M w .call := by
  intro c he code1 code2
  rw [show x86_core_cpu_emulation_form Intel8080.Instr.call.opcode = .call from rfl, nec_execute,
    bind_run, get_cpu_run, Intel8080.exec]
  simp only [word_of_bytes]
  rw [if_pos (.inl rfl)]
  exact call_alike p M he _

theorem executes_call_if (cond : Intel8080.Cond) : Executes p M w (.call_if cond) := by
  intro c he code1 code2
  obtain ⟨hform, hcond, hop⟩ := call_if_fields cond
  rw [hform, nec_execute, bind_run, get_cpu_run, Intel8080.exec, Intel8080.get_regs_bind]
  simp only [hcond, hop, false_or, word_of_bytes, condition_of]
  exact branch_alike he (call_alike p M he _)

theorem executes_ret : Executes p M w .ret := by
  intro c he code1 code2
  rw [show x86_core_cpu_emulation_form Intel8080.Instr.ret.opcode = .return from rfl, nec_execute,
    bind_run, get_cpu_run, Intel8080.exec]
  dsimp only
  rw [if_pos (.inl rfl)]
  exact return_alike p M he

theorem executes_return_if (cond : Intel8080.Cond) : Executes p M w (.return_if cond) := by
  intro c he code1 code2
  obtain ⟨hform, hcond, hop⟩ := return_if_fields cond
  rw [hform, nec_execute, bind_run, get_cpu_run, Intel8080.exec, Intel8080.get_regs_bind]
  simp only [hcond, hop, false_or, condition_of]
  exact branch_alike he (return_alike p M he)

/-- The vector of a restart is eight times its number. -/
theorem executes_rst (n : BitVec 3) : Executes p M w (.rst n) := by
  intro c he code1 code2
  obtain ⟨hform, hvector⟩ := rst_fields n
  rw [hform, nec_execute, bind_run, get_cpu_run, Intel8080.exec]
  simp only [hvector]
  exact call_alike p M he _

theorem executes_pchl : Executes p M w .pchl := by
  intro c he code1 code2
  rw [show x86_core_cpu_emulation_form Intel8080.Instr.pchl.opcode = .pchl from rfl, nec_execute,
    bind_run, get_cpu_run, Intel8080.exec]
  simp only [hl_of]
  apply set_cpu_alike
  · exact he.set_pc _
  · exact pc_of ..

end Branches

/-! ## The stack and the ports -/

section Stack

variable (p : Platform β) (M : CodeMemory p.bus)

theorem flags_byte_eq (e : U32) : (flags_of e).byte = (e.setWidth 8 &&& 0xd5) ||| 2 := by
  have h : ∀ b : U8, (Intel8080.Flags.of_byte b).byte = (b &&& 0xd5) ||| 2 := by decide +kernel
  rw [← h]
  simp [flags_of, Intel8080.Flags.of_byte]

/-- PSW: the accumulator over the flags, of which bit 1 is set and bits 3 and 5 are clear. -/
theorem psw_of (cpu : CpuData) :
    ((low_byte cpu.eax).setWidth 16 <<< 8) ||| (cpu.eflags.setWidth 16 &&& 0xd5) ||| 2 =
      (registers_of cpu).a ++ (registers_of cpu).flags.byte := by
  have hmask : (0xd5 : U16) = (0xd5 : U8).setWidth 16 ∧ (2 : U16) = (2 : U8).setWidth 16 := by
    decide
  have hlow : ((cpu.eflags.setWidth 16 &&& 0xd5) ||| 2 : U16) =
      ((flags_of cpu.eflags).byte).setWidth 16 := by
    rw [flags_byte_eq, hmask.1, hmask.2]
    refine BitVec.eq_of_getLsbD_eq fun i hi => ?_
    simp only [BitVec.getLsbD_or, BitVec.getLsbD_and, BitVec.getLsbD_setWidth]
    by_cases h8 : i < 8
    · simp [h8, hi]
    · -- the masks end with the low byte
      have hz : ∀ b : U8, b.getLsbD i = false := fun b => BitVec.getLsbD_of_ge b i (by omega)
      simp [h8, hz]
  rw [BitVec.or_assoc, hlow, BitVec.or_comm, word_of_bytes]
  rfl

theorem stacked_of (cpu : CpuData) (q : Intel8080.Stacked) :
    (if q.code = 3 then
        ((low_byte cpu.eax).setWidth 16 <<< 8) ||| (cpu.eflags.setWidth 16 &&& 0xd5) ||| 2
      else nec_pair_register cpu q.code) = Intel8080.stacked_word (registers_of cpu) q := by
  cases q with
  | bc => exact pair_of cpu .bc
  | de => exact pair_of cpu .de
  | hl => exact pair_of cpu .hl
  | psw => exact psw_of cpu

theorem executes_push (q : Intel8080.Stacked) : Executes p M w (.push q) := by
  intro c he code1 code2
  obtain ⟨hform, hpair⟩ := push_fields q
  rw [hform, nec_execute, bind_run, get_cpu_run, Intel8080.exec, Intel8080.get_regs_bind]
  simp only [hpair, stacked_of]
  exact push_alike p M he _

/-- What PSW loads into the flags register. -/
theorem loaded_flags (before : U32) (x : U16) :
    flags_of ((before &&& ~~~0xff) ||| (x.setWidth 32 &&& 0xd5) ||| 2) =
      Intel8080.Flags.of_byte (x.extractLsb' 0 8) := by
  simp [flags_of, Intel8080.Flags.of_byte]

/-- MD is above the byte that is loaded. -/
theorem loaded_mode {before : U32} (x : U16)
    (h : bit_is_set before X86_CPU_NEC_PSW_MD = false) :
    bit_is_set ((before &&& ~~~0xff) ||| (x.setWidth 32 &&& 0xd5) ||| 2) X86_CPU_NEC_PSW_MD =
      false := by
  rw [emulating_set] at *
  simp only [BitVec.getLsbD_or, BitVec.getLsbD_and, h]
  simp

theorem stacked_code_psw {q : Intel8080.Stacked} : q.code = 3 ↔ q = .psw := by
  cases q <;> decide

theorem load_stacked_of (cpu : CpuData) {q : Intel8080.Stacked} (h : q ≠ .psw) (x : U16) :
    registers_of (set_nec_pair_register cpu q.code x) =
      Intel8080.load_stacked x (registers_of cpu) q := by
  cases q with
  | bc => exact set_pair_of cpu .bc x
  | de => exact set_pair_of cpu .de x
  | hl => exact set_pair_of cpu .hl x
  | psw => exact absurd rfl h

theorem executes_pop (q : Intel8080.Stacked) : Executes p M w (.pop q) := by
  intro c he code1 code2
  obtain ⟨hform, hpair⟩ := pop_fields q
  rw [hform, nec_execute, bind_run, get_cpu_run, Intel8080.exec]
  simp only [hpair]
  have hmd := he.md
  generalize c.cpu.eflags = before at *
  refine Alike.bind (pop_alike p M he) ?_
  rintro x c₁ _ _ ⟨rfl, he₁, rfl⟩
  by_cases hpsw : q = .psw
  · rw [if_pos (stacked_code_psw.mpr hpsw), hpsw]
    refine result_alike p he₁ (loaded_mode x hmd) ?_
    rw [loaded_flags, high_half]
    rfl
  · rw [if_neg (mt stacked_code_psw.mp hpsw)]
    apply set_cpu_alike
    · exact he₁.set_pair
    · exact load_stacked_of _ hpsw x

theorem executes_xthl : Executes p M w .xthl := by
  intro c he code1 code2
  rw [show x86_core_cpu_emulation_form Intel8080.Instr.xthl.opcode = .xthl from rfl, nec_execute,
    bind_run, get_cpu_run, Intel8080.exec, Intel8080.get_regs_bind]
  simp only [hl_of]
  refine Alike.bind (read_word_alike p M he _) ?_
  rintro x _ _ _ ⟨rfl, bus, rfl, rfl⟩
  refine Alike.bind (write_word_alike p M (he.with_bus bus) _ _) ?_
  rintro _ _ _ _ ⟨-, bus', rfl, rfl⟩
  apply set_cpu_alike
  · exact (he.with_bus bus').set_hl x
  · exact set_hl_of ..

theorem executes_input : Executes p M w .input := by
  intro c he code1 code2
  rw [show x86_core_cpu_emulation_form Intel8080.Instr.input.opcode = .port from rfl, nec_execute,
    bind_run, get_cpu_run, Intel8080.exec]
  simp only [show Intel8080.Instr.input.opcode = 0xdb from rfl, if_true]
  refine Alike.bind (input_alike p M code1) ?_
  rintro v _ _ _ ⟨rfl, bus, rfl, rfl⟩
  apply set_cpu_alike
  · exact (he.with_bus bus).set_a v
  · exact a_of ..

theorem executes_output : Executes p M w .output := by
  intro c he code1 code2
  rw [show x86_core_cpu_emulation_form Intel8080.Instr.output.opcode = .port from rfl,
    nec_execute, bind_run, get_cpu_run, Intel8080.exec, Intel8080.get_regs_bind]
  simp only [show Intel8080.Instr.output.opcode ≠ 0xdb by decide, if_false]
  exact (output_alike p M code1 _).mono fun _ _ _ _ h => h.same he

end Stack

/-- Whatever instruction an opcode decodes to, its form executes it. -/
theorem executes (p : Platform β) (M : CodeMemory p.bus) {op : U8} {i : Intel8080.Instr}
    (h : Intel8080.decode op = some i) : Executes p M w i := by
  have hdecode : Intel8080.decode i.opcode = some i := by
    rw [Intel8080.opcode_of_decode h]
    exact h
  cases i with
  | nop => exact executes_nop p M
  | mov dest src => exact executes_mov p M hdecode
  | mvi dest => exact executes_mvi p M dest
  | lxi q => exact executes_lxi p M q
  | stax q => exact executes_stax p M q
  | ldax q => exact executes_ldax p M q
  | shld => exact executes_shld p M
  | lhld => exact executes_lhld p M
  | sta => exact executes_sta p M
  | lda => exact executes_lda p M
  | inx q => exact executes_inx p M q
  | dcx q => exact executes_dcx p M q
  | dad q => exact executes_dad p M q
  | inr r => exact executes_inr p M r
  | dcr r => exact executes_dcr p M r
  | rotate k => exact executes_rotate p M k
  | daa => exact executes_daa p M
  | cma => exact executes_cma p M
  | stc => exact executes_stc p M
  | cmc => exact executes_cmc p M
  | alu op src => exact executes_alu p M op src
  | alui op => exact executes_alui p M op
  | jmp => exact executes_jmp p M
  | jump_if cond => exact executes_jump_if p M cond
  | call => exact executes_call p M
  | call_if cond => exact executes_call_if p M cond
  | ret => exact executes_ret p M
  | return_if cond => exact executes_return_if p M cond
  | rst n => exact executes_rst p M n
  | push q => exact executes_push p M q
  | pop q => exact executes_pop p M q
  | xthl => exact executes_xthl p M
  | xchg => exact executes_xchg p M
  | pchl => exact executes_pchl p M
  | sphl => exact executes_sphl p M
  | input => exact executes_input p M
  | output => exact executes_output p M

end Nxvm.Nec
