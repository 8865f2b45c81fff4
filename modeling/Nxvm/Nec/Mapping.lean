/-
The V30 in 8080 emulation as an 8080: which register is which, and what a memory or port
cycle of the one is to the other.

`Emulating` is what holds of a context between two instructions. The 8080 sees the
board through two windows of 64 KB, instructions through PS and data through DS0, and
the board answers it the very cycle it answers the V30.
-/
import Nxvm.Nec.Emulation

set_option autoImplicit false

namespace Nxvm.Nec

open Nxvm.Cpu Nxvm.Lib Nxvm.Lib.Exec Nxvm.Lib.Memory

variable {β : Type}

/-! ## Halves of a register -/

section Halves

variable (r : U32) (v : U8) (x : U16)

@[simp] theorem low_byte_set_low_byte : low_byte (set_low_byte r v) = v := by
  ext i hi
  simp [low_byte, set_low_byte]
  grind

@[simp] theorem high_byte_set_low_byte : high_byte (set_low_byte r v) = high_byte r := by
  ext i hi
  simp [high_byte, set_low_byte]
  grind

@[simp] theorem low_byte_set_high_byte : low_byte (set_high_byte r v) = low_byte r := by
  ext i hi
  simp [low_byte, set_high_byte]
  grind

@[simp] theorem high_byte_set_high_byte : high_byte (set_high_byte r v) = v := by
  ext i hi
  simp [high_byte, low_byte, set_high_byte]
  grind

@[simp] theorem low_byte_set_low_word :
    low_byte (set_low_word r x) = x.extractLsb' 0 8 := by
  ext i hi
  simp [low_byte, set_low_word]
  grind

@[simp] theorem high_byte_set_low_word :
    high_byte (set_low_word r x) = x.extractLsb' 8 8 := by
  ext i hi
  simp [high_byte, set_low_word]
  grind

@[simp] theorem low_word_set_low_word : low_word (set_low_word r x) = x := by
  ext i hi
  simp [low_word, set_low_word]
  grind

/-- The bits of a word by its bytes. -/
theorem append_getLsbD (high low : U8) (i : ℕ) :
    (high ++ low : U16).getLsbD i = if i < 8 then low.getLsbD i else high.getLsbD (i - 8) :=
  BitVec.getLsbD_append

theorem low_word_eq : low_word r = high_byte r ++ low_byte r := by
  refine BitVec.eq_of_getLsbD_eq fun i hi => ?_
  rw [append_getLsbD]
  by_cases h8 : i < 8
  · simp [low_word, low_byte, h8, hi]
  · have hlt : i - 8 < 8 := by omega
    have hsum : 8 + (i - 8) = i := by omega
    simp [low_word, high_byte, h8, hi, hlt, hsum]

@[simp] theorem low_word_setWidth : low_word (x.setWidth 32) = x := by
  ext i hi
  simp [low_word, hi]
  grind

/-- The two bytes of a word, low byte first, as the source puts them together. -/
theorem word_of_bytes (low high : U8) :
    (low.setWidth 16 ||| (high.setWidth 16 <<< 8) : U16) = high ++ low := by
  refine BitVec.eq_of_getLsbD_eq fun i hi => ?_
  rw [append_getLsbD]
  by_cases h8 : i < 8
  · simp [h8, hi]
  · have hlow : low.getLsbD i = false := BitVec.getLsbD_of_ge _ _ (by omega)
    have hlt : i - 8 < 8 := by omega
    simp [h8, hi, hlow]

end Halves

/-! ## Registers -/

/-- The 8080 in the registers: A is AL, the pairs are CX, DX and BX, SP is BP. -/
def registers_of (cpu : CpuData) : Intel8080.Registers where
  a := low_byte cpu.eax
  b := high_byte cpu.ecx
  c := low_byte cpu.ecx
  d := high_byte cpu.edx
  e := low_byte cpu.edx
  h := high_byte cpu.ebx
  l := low_byte cpu.ebx
  sp := low_word cpu.ebp
  pc := low_word cpu.eip
  flags := flags_of cpu.eflags

section Registers

variable (cpu : CpuData)

theorem hl_of : low_word cpu.ebx = (registers_of cpu).pair .hl := low_word_eq _

theorem pair_of (q : Intel8080.Pair) :
    nec_pair_register cpu q.code = (registers_of cpu).pair q := by
  cases q with
  | bc => exact low_word_eq _
  | de => exact low_word_eq _
  | hl => exact low_word_eq _
  | sp => rfl

theorem set_pair_of (q : Intel8080.Pair) (x : U16) :
    registers_of (set_nec_pair_register cpu q.code x) = (registers_of cpu).set_pair x q := by
  cases q <;>
    simp [registers_of, set_nec_pair_register, Intel8080.Registers.set_pair, Intel8080.Pair.code]

theorem set_hl_of (x : U16) :
    registers_of { cpu with ebx := set_low_word cpu.ebx x } =
      (registers_of cpu).set_pair x .hl := set_pair_of cpu .hl x

theorem reg_of {r : Intel8080.Reg} (h : r ≠ .m) :
    nec_byte_register cpu r.code = (registers_of cpu).reg r := by
  cases r with
  | m => exact absurd rfl h
  | _ => rfl

theorem set_reg_of {r : Intel8080.Reg} (h : r ≠ .m) (v : U8) :
    registers_of (set_nec_byte_register cpu r.code v) = (registers_of cpu).set_reg v r := by
  cases r with
  | m => exact absurd rfl h
  | _ =>
    simp [registers_of, set_nec_byte_register, Intel8080.Registers.set_reg, Intel8080.Reg.code]

/-- A condition is the flag it names. -/
theorem condition_of (e : U32) (cond : Intel8080.Cond) :
    x86_core_cpu_emulation_condition e cond.code = cond.holds (flags_of e) := by
  have hz : bit_is_set e VCPU_EFLAGS_ZF = (flags_of e).z := bit_is_set_twoPow e 6
  have hcy : bit_is_set e VCPU_EFLAGS_CF = (flags_of e).cy := bit_is_set_twoPow e 0
  have hp : bit_is_set e VCPU_EFLAGS_PF = (flags_of e).p := bit_is_set_twoPow e 2
  have hs : bit_is_set e VCPU_EFLAGS_SF = (flags_of e).s := bit_is_set_twoPow e 7
  cases cond <;>
    simp [x86_core_cpu_emulation_condition, Intel8080.Cond.code, Intel8080.Cond.holds, hz, hcy, hp,
      hs]

end Registers

/-! ## The board, seen by an 8080 -/

/-- The segments of an emulated program: PS holds the code and DS0 the data. -/
structure Windows where
  cs : Sreg
  ds : Sreg
  code : cs.sregtype = .code
  data : ds.sregtype = .data
  low : cs.base.toNat ≤ 0xfffff

def Windows.code_address (w : Windows) (a : U16) : U32 :=
  (w.cs.base + a.setWidth 32) &&& 0x000fffff

def Windows.data_address (w : Windows) (a : U16) : U32 :=
  (w.ds.base + a.setWidth 32) &&& 0x000fffff

/-- Instructions are in memory: a fetch of any length answers its contents, if it answers,
and leaves the board as it was. -/
structure CodeMemory (bus : BusProvider β) where
  code : β → Mem 32
  quiet : ∀ a n q cc b, q ≠ .data → (bus.read_memory a n q false cc b).2 = b
  bytes : ∀ a n q cc b data, q ≠ .data → (bus.read_memory a n q false cc b).1 = some data →
    ∀ i < n, data i = code b (a + BitVec.ofNat 32 i)

/-- The bus of the 8080: each of its cycles is one of the board's. -/
def board (p : Platform β) (M : CodeMemory p.bus) (w : Windows) : Intel8080.Bus β where
  fetch a b := M.code b (w.code_address a)
  read a b :=
    match p.bus.read_memory (w.data_address a) 1 .data false 0 b with
    | (some data, b') => (some (data 0), b')
    | (none, b') => (none, b')
  write a v b := p.bus.write_memory (w.data_address a) [v] .data 0 b
  input port b :=
    match p.ports.transfer_port (port.setWidth 16) 1 false 0 b with
    | (some v, b') =>
      (some (v.setWidth 8), p.ports.complete_port (port.setWidth 16) 1 false b')
    | (none, b') => (none, b')
  output port v b :=
    match p.ports.transfer_port (port.setWidth 16) 1 true (v.setWidth 32) b with
    | (some _, b') => (true, p.ports.complete_port (port.setWidth 16) 1 true b')
    | (none, b') => (false, b')

/-- The 8080 in a context. -/
def machine_of (c : Context β) : Intel8080.Machine β := ⟨registers_of c.cpu, c.bus⟩

/-- What holds between two emulated instructions: MD is clear, the segments are the
program's, and nothing of an access is pending. -/
structure Emulating (w : Windows) (c : Context β) : Prop where
  cs : c.cpu.cs = w.cs
  ds : c.cpu.ds = w.ds
  real : c.cpu.cr0_pe = false
  md : bit_is_set c.cpu.eflags X86_CPU_NEC_PSW_MD = false
  eip : c.cpu.eip.toNat ≤ 0xffff
  data : c.memory_access_provenance = .data
  unlocked : c.memory_lock_active = false

/-! ## Accesses of a V30

There is no paging, so a linear address is the physical one and attributes are clear. -/

section Real

variable (p : Platform β) {c : Context β}

theorem prepare_real (hreal : c.cpu.cr0_pe = false) {linear : U32} {byte : ℕ} (write : Bool)
    (vpl : Level) (h : (linear_offset linear).toNat ≤ VCPU_PAGESIZE - byte) :
    kma_prepare_physical_linear p.env linear byte write vpl c =
      .ok { LinearTranslation.start linear vpl with physical := linear } c := by
  have hpaging : c.cpu.is_paging = false := by rw [CpuData.is_paging, hreal, Bool.false_and]
  rw [kma_prepare_physical_linear, if_neg (by omega), bind_run, get_cpu_run]
  simp only [hpaging, if_true]
  rfl

theorem translate_real (hreal : c.cpu.cr0_pe = false) (linear : U32) (byte : ℕ) (write : Bool)
    (vpl : Level) :
    kma_translate_linear p.env linear byte write vpl c =
      .ok ⟨⟨linear, 0⟩, if crosses_page linear byte then some ⟨next_page linear, 0⟩ else none⟩
        c := by
  have hoffset := linear_offset_lt linear
  unfold kma_translate_linear
  by_cases hcross : crosses_page linear byte = true
  · have hfirst : (linear_offset linear).toNat ≤ VCPU_PAGESIZE - first_part linear := by
      unfold first_part
      omega
    have hsecond : (linear_offset (next_page linear)).toNat ≤
        VCPU_PAGESIZE - (byte - first_part linear) := by
      rw [linear_offset_next]
      exact Nat.zero_le _
    rw [if_pos hcross, if_pos hcross]
    simp only [kma_split_linear, bind_run, prepare_real p hreal write vpl hfirst,
      prepare_real p hreal write vpl hsecond]
    rfl
  · have hfits : (linear_offset linear).toNat ≤ VCPU_PAGESIZE - byte := by
      simp only [crosses_page, decide_eq_true_eq] at hcross
      omega
    rw [if_neg hcross, if_neg hcross]
    simp only [kma_physical_linear, bind_run, prepare_real p hreal write vpl hfits]
    rfl

/-- A segment of the program is its base: there is no limit and nothing to check. -/
theorem linear_real (hreal : c.cpu.cr0_pe = false) {r : Sreg}
    (hr : r.sregtype = .code ∨ r.sregtype = .data) (offset : U32) (byte : ℕ)
    (write force : Bool) :
    linear_logical p.env r offset byte write force c = .ok (r.base + offset) c := by
  have hv30 : (decide (p.env.profile = .v30) && !c.cpu.cr0_pe &&
      (decide (r.sregtype = .code) || decide (r.sregtype = .stack) ||
        decide (r.sregtype = .data))) = true := by
    rcases hr with h | h <;> rw [hreal, h] <;> rfl
  rw [linear_logical, bind_run, get_cpu_run]
  simp only [kma_linear_logical, hv30, if_true]
  rfl

theorem alignment_real (linear : U32) (byte : ℕ) (vpl : Level)
    (force : Bool) : kma_check_alignment p.env linear byte vpl force c = .ok () c := by
  rw [kma_check_alignment, bind_run, get_cpu_run]
  rfl

/-- A read through a segment, once the address is known. -/
theorem read_segment_real (hreal : c.cpu.cr0_pe = false) {r : Sreg}
    (hr : r.sregtype = .code ∨ r.sregtype = .data) (offset : U32) (byte : ℕ) (vpl : Level)
    (force : Bool) :
    kma_read_segment p.env r offset byte vpl force c =
      kma_read_pages p.env (r.base + offset) byte
        ⟨⟨r.base + offset, 0⟩,
          if crosses_page (r.base + offset) byte then some ⟨next_page (r.base + offset), 0⟩
          else none⟩ c := by
  simp only [kma_read_segment, bind_run, linear_real p hreal hr, alignment_real p,
    kma_read_linear, translate_real p hreal]

theorem write_segment_real (hreal : c.cpu.cr0_pe = false) {r : Sreg}
    (hr : r.sregtype = .code ∨ r.sregtype = .data) (offset : U32) (data : List U8)
    (vpl : Level) (force : Bool) :
    kma_write_segment p.env r offset data vpl force c =
      kma_write_pages p.env (r.base + offset) data
        ⟨⟨r.base + offset, 0⟩,
          if crosses_page (r.base + offset) data.length then
            some ⟨next_page (r.base + offset), 0⟩
          else none⟩ c := by
  simp only [kma_write_segment, bind_run, linear_real p hreal hr, alignment_real p,
    kma_write_linear, translate_real p hreal]

end Real

/-! ## One byte on the bus -/

/-- A cycle of the V30: no reset vector and no cache control. -/
theorem read_bus_v30 (p : Platform β) (a : U32) (n : ℕ) (q : Provenance) (c : Context β) :
    kma_read_bus p.env a n q 0 c =
      match p.bus.read_memory a n q false 0 c.bus with
      | (some data, b) => .ok ((List.range n).map data) { c with bus := b }
      | (none, b) => .error ⟨.ce, a⟩ { c with bus := b } := by
  have hreset : kma_is_reset_vector_fetch p.env.profile a n q = false := by
    simp [kma_is_reset_vector_fetch, Platform.env]
  have hcontrol : kma_memory_cache_control p.env c 0 = 0 := by
    simp [kma_memory_cache_control, Platform.env]
  rw [kma_read_bus, hreset, hcontrol]
  rfl

theorem write_bus_v30 (p : Platform β) (a : U32) (data : List U8) (q : Provenance)
    (c : Context β) :
    kma_write_bus p.env a data q 0 c =
      match p.bus.write_memory a data q 0 c.bus with
      | (true, b) => .ok () { c with bus := b }
      | (false, b) => .error ⟨.ce, a⟩ { c with bus := b } := by
  have hcontrol : kma_memory_cache_control p.env c 0 = 0 := by
    simp [kma_memory_cache_control, Platform.env]
  rw [kma_write_bus, hcontrol]
  rfl

theorem crosses_byte (linear : U32) : crosses_page linear 1 = false := by
  have h := linear_offset_lt linear
  simp only [crosses_page, decide_eq_false_iff_not]
  omega

theorem wraps_byte (p : Platform β) (c : Context β) (offset : U32) :
    kma_real_legacy_segment_wrap p.env c offset 1 = false := by
  simp [kma_real_legacy_segment_wrap]

theorem mask_mask (a : U32) : a &&& 0x000fffff &&& 0x000fffff = a &&& 0x000fffff := by
  rw [BitVec.and_assoc, BitVec.and_self]

theorem bus_part_byte (a : U32) : kma_v30_bus_part a 1 = 1 := rfl

/-- A read of one byte is one bus cycle, whatever the segment and wherever in a page. -/
theorem kma_read_byte (p : Platform β) {r : Sreg} (hr : r.sregtype = .code ∨ r.sregtype = .data)
    (offset : U32) (vpl : Level) (force : Bool) {c : Context β} (hreal : c.cpu.cr0_pe = false) :
    kma_read_logical p.env r offset 1 vpl force c =
      match p.bus.read_memory ((r.base + offset) &&& 0x000fffff) 1 c.memory_access_provenance
          false 0 c.bus with
      | (some data, b) => .ok [data 0] { c with bus := b }
      | (none, b) => .error ⟨.ce, (r.base + offset) &&& 0x000fffff⟩ { c with bus := b } := by
  rw [kma_read_logical, bind_run, query_run]
  simp only [wraps_byte, Bool.false_eq_true, if_false]
  rw [read_segment_real p hreal hr, crosses_byte, if_neg Bool.false_ne_true, kma_read_pages,
    bind_run, query_run]
  change kma_read_v30 p.env _ 0 1 ((r.base + offset) &&& 0x000fffff) 1 c = _
  rw [kma_read_v30, if_neg Nat.one_ne_zero]
  simp only [bind_run, bus_part_byte, mask_mask, read_bus_v30]
  rcases p.bus.read_memory ((r.base + offset) &&& 0x000fffff) 1 c.memory_access_provenance
    false 0 c.bus with ⟨_ | data, b⟩
  · rfl
  · rfl

/-- And so is a write. -/
theorem kma_write_byte (p : Platform β) {r : Sreg}
    (hr : r.sregtype = .code ∨ r.sregtype = .data) (offset : U32) (v : U8) (vpl : Level)
    (force : Bool) {c : Context β} (hreal : c.cpu.cr0_pe = false) :
    kma_write_logical p.env r offset [v] vpl force c =
      match p.bus.write_memory ((r.base + offset) &&& 0x000fffff) [v]
          c.memory_access_provenance 0 c.bus with
      | (true, b) => .ok () { c with bus := b }
      | (false, b) => .error ⟨.ce, (r.base + offset) &&& 0x000fffff⟩ { c with bus := b } := by
  rw [kma_write_logical, bind_run, query_run]
  simp only [List.length_singleton, wraps_byte, Bool.false_eq_true, if_false]
  rw [write_segment_real p hreal hr, List.length_singleton, crosses_byte,
    if_neg Bool.false_ne_true, kma_write_pages, bind_run, query_run]
  change kma_write_v30 p.env _ 0 1 ((r.base + offset) &&& 0x000fffff) [v] c = _
  rw [kma_write_v30, if_neg (List.cons_ne_nil v [])]
  simp only [bind_run, List.length_singleton, bus_part_byte, mask_mask, List.take_succ_cons,
    List.take_zero, write_bus_v30]
  rcases p.bus.write_memory ((r.base + offset) &&& 0x000fffff) [v] c.memory_access_provenance 0
    c.bus with ⟨_ | _, b⟩
  · rfl
  · rfl

end Nxvm.Nec
