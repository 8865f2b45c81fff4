/-
The data of the processor: profiles, faults, segment registers with their
descriptor caches, the register file, and the bit fields of descriptors,
selectors and control registers (`cpu.h`, `cpu_interface.h`).

Names follow the source. The descriptor cache keeps code and data attributes in
one set of bytes there; `Sreg` keeps one field per byte and names both readings
of it, because one of the segmentation checks depends on the overlap.
-/
import Mathlib.Logic.Basic
import Mathlib.Tactic.Common

set_option autoImplicit false

namespace Nxvm.Cpu

abbrev U8 := BitVec 8
abbrev U16 := BitVec 16
abbrev U32 := BitVec 32
abbrev U64 := BitVec 64

/-- A privilege level. -/
abbrev Level := BitVec 2

/-! ## Profiles -/

/-- `x86_core_cpu_profile`. -/
inductive Profile where
  | default_profile
  | p8086
  | p8088
  | p80186
  | p80286
  | p80386
  | p80486sx
  | v30
  deriving DecidableEq, Repr

def cpu_profile_has_protected_architecture : Profile → Bool
  | .p80286 | .p80386 | .p80486sx => true
  | _ => false

/-! ## Faults -/

/-- The exceptions an execution can raise: the architectural ones, by their
vector, and the three internal stops (`VCPUINS_EXCEPT_*`). -/
inductive Exception where
  | de | db | br | ud | nm | df | e09 | ts | np | ss | gp | pf | mf | ac
  | shutdown
  | fpu_unsupported
  | ce
  deriving DecidableEq, Repr

/-- A raised exception with its code (`except`, `excode`). -/
structure Fault where
  except : Exception
  excode : U32
  deriving DecidableEq, Repr

/-- `CPU_TRACE_IMPOSSIBLE_RETURN`: an internal case the source rules out. -/
def impossible : Fault := ⟨.ce, 0xffffffff⟩

/-! ## Segment registers -/

/-- `t_cpu_data_sreg_type`. -/
inductive SregType where
  | data | stack | code | ldtr | tr | gdtr | idtr
  deriving DecidableEq, Repr

/-- A segment register with its descriptor cache (`t_cpu_data_sreg`).

`defsize`, `conform` and `readable` are the three bytes that a code segment reads
as `exec.defsize`, `exec.conform`, `exec.readable` and a data segment as
`data.big`, `data.expdown`, `data.writable`. `systype` is `sys.type`. -/
structure Sreg where
  base : U32
  limit : U32
  selector : U16
  flagValid : Bool
  sregtype : SregType
  dpl : Level
  executable : Bool
  accessed : Bool
  defsize : Bool
  conform : Bool
  readable : Bool
  systype : BitVec 4
  deriving DecidableEq, Repr

namespace Sreg

/-- `seg.data.big`, the same byte as `seg.exec.defsize`. -/
@[simp] def big (r : Sreg) : Bool := r.defsize

/-- `seg.data.expdown`, the same byte as `seg.exec.conform`. -/
@[simp] def expdown (r : Sreg) : Bool := r.conform

/-- `seg.data.writable`, the same byte as `seg.exec.readable`. -/
@[simp] def writable (r : Sreg) : Bool := r.readable

/-- A cleared register of the given kind. -/
def zero (t : SregType) : Sreg where
  base := 0
  limit := 0
  selector := 0
  flagValid := false
  sregtype := t
  dpl := 0
  executable := false
  accessed := false
  defsize := false
  conform := false
  readable := false
  systype := 0

end Sreg

/-! ## The register file -/

/-- The registers (`t_cpu_data`). -/
structure CpuData where
  eax : U32
  ebx : U32
  ecx : U32
  edx : U32
  esp : U32
  ebp : U32
  esi : U32
  edi : U32
  eip : U32
  eflags : U32
  es : Sreg
  cs : Sreg
  ss : Sreg
  ds : Sreg
  fs : Sreg
  gs : Sreg
  ldtr : Sreg
  tr : Sreg
  gdtr : Sreg
  idtr : Sreg
  cr0 : U32
  cr1 : U32
  cr2 : U32
  cr3 : U32
  cr4 : U32
  dr0 : U32
  dr1 : U32
  dr2 : U32
  dr3 : U32
  dr6 : U32
  dr7 : U32
  tr4 : U32
  flagHalt : Bool
  deriving DecidableEq, Repr

/-- All registers cleared (the `memset` of the register file), each segment
register with its own kind. -/
def CpuData.zero : CpuData where
  eax := 0
  ebx := 0
  ecx := 0
  edx := 0
  esp := 0
  ebp := 0
  esi := 0
  edi := 0
  eip := 0
  eflags := 0
  es := .zero .data
  cs := .zero .code
  ss := .zero .stack
  ds := .zero .data
  fs := .zero .data
  gs := .zero .data
  ldtr := .zero .ldtr
  tr := .zero .tr
  gdtr := .zero .gdtr
  idtr := .zero .idtr
  cr0 := 0
  cr1 := 0
  cr2 := 0
  cr3 := 0
  cr4 := 0
  dr0 := 0
  dr1 := 0
  dr2 := 0
  dr3 := 0
  dr6 := 0
  dr7 := 0
  tr4 := 0
  flagHalt := false

/-- `X86_CPU_BIT_IS_SET` on a 32-bit register. -/
def bit_is_set (state flag : U32) : Bool := state &&& flag != 0

def VCPU_EFLAGS_VM : U32 := 0x00020000
def VCPU_EFLAGS_AC : U32 := 0x00040000

def VCPU_CR0_PE : U32 := 0x00000001
def VCPU_CR0_MP : U32 := 0x00000002
def VCPU_CR0_EM : U32 := 0x00000004
def VCPU_CR0_TS : U32 := 0x00000008
def VCPU_CR0_ET : U32 := 0x00000010
def VCPU_CR0_NE : U32 := 0x00000020
def VCPU_CR0_WP : U32 := 0x00010000
def VCPU_CR0_AM : U32 := 0x00040000
def VCPU_CR0_NW : U32 := 0x20000000
def VCPU_CR0_CD : U32 := 0x40000000
def VCPU_CR0_PG : U32 := 0x80000000

namespace CpuData

def cr0_pe (c : CpuData) : Bool := bit_is_set c.cr0 VCPU_CR0_PE
def cr0_pg (c : CpuData) : Bool := bit_is_set c.cr0 VCPU_CR0_PG
def cr0_wp (c : CpuData) : Bool := bit_is_set c.cr0 VCPU_CR0_WP
def cr0_nw (c : CpuData) : Bool := bit_is_set c.cr0 VCPU_CR0_NW
def cr0_cd (c : CpuData) : Bool := bit_is_set c.cr0 VCPU_CR0_CD
def eflags_vm (c : CpuData) : Bool := bit_is_set c.eflags VCPU_EFLAGS_VM

/-- `_IsPaging`. -/
def is_paging (c : CpuData) : Bool := c.cr0_pe && c.cr0_pg

/-- `_IsProtected`. -/
def is_protected (c : CpuData) : Bool := c.cr0_pe && !c.eflags_vm

/-- `_GetCPL`. -/
def cpl (c : CpuData) : Level := if c.cr0_pe then (if c.eflags_vm then 3 else c.cs.dpl) else 0

end CpuData

/-! ## Selectors -/

/-- `_GetSelector_TI`. -/
def selector_ti (selector : U16) : Bool := selector &&& 0x0004 != 0

/-- `_GetSelector_Offset`. -/
def selector_offset (selector : U16) : U16 := selector &&& 0xfff8

/-- `_IsSelectorNull`. -/
def is_selector_null (selector : U16) : Bool :=
  !selector_ti selector && selector_offset selector == 0

/-- The error code of a selector: its index and table bits (`selector & 0xfffc`). -/
def selector_code (selector : U16) : U32 := (selector &&& 0xfffc).setWidth 32

/-! ## Descriptors -/

/-- A descriptor-table entry. -/
abbrev Descriptor := U64

/-- `X86_CPU_BIT_IS_SET` on a descriptor. -/
def desc_bit (d flag : Descriptor) : Bool := d &&& flag != 0

namespace Descriptor

/-- `_GetDescSeg_Limit`. -/
def seg_limit (d : Descriptor) : U64 :=
  (d &&& 0x000000000000ffff) ||| ((d &&& 0x000f000000000000) >>> 32)

/-- `_GetDescSeg_Base`. -/
def seg_base (d : Descriptor) : U64 :=
  ((d &&& 0x000000ffffff0000) >>> 16) ||| ((d &&& 0xff00000000000000) >>> 32)

def is_granular_large (d : Descriptor) : Bool := desc_bit d 0x0080000000000000

/-- The byte limit a segment load caches: page units end in `fff`. -/
def cached_limit (d : Descriptor) : U32 :=
  (if is_granular_large d then (seg_limit d <<< 12) ||| 0x0fff else seg_limit d).setWidth 32

/-- The base a segment load caches. -/
def cached_base (d : Descriptor) : U32 := (seg_base d).setWidth 32

end Descriptor

end Nxvm.Cpu
